import Mathlib.Data.List.Perm.Basic
import Oxlab.Scenario.Criteria
import Oxlab.Scenario.Result

/-! Hash maps are met in any order.
What the bots report is a set, and every checkpoint is judged by a condition on
it; the participants are judged one by one and sorted by their ids. So no order
of enumeration reaches a verdict. -/
namespace Oxlab.HashOrder
open Bot.RtpSubscriber Judge Library Scenario.CheckpointEval Scenario.Criteria Scenario.Evaluate
open Scenario.Result

/-- A snapshot whose hash map of streams was met in another order. -/
structure Reordered (left right : RecvSnapshot) : Prop where
  packets : left.totalPackets = right.totalPackets
  lost : left.totalLost = right.totalLost
  ooo : left.totalOoo = right.totalOoo
  ssrcs : left.ssrcCount = right.ssrcCount
  streams : left.streams.Perm right.streams

structure SameInput (left right : RecvInput) : Prop where
  packets : left.totalPackets = right.totalPackets
  lost : left.totalLost = right.totalLost
  ooo : left.totalOoo = right.totalOoo
  streams : left.streams.Perm right.streams

theorem Reordered.input {left right : RecvSnapshot} (same : Reordered left right) :
    SameInput (recvInput left) (recvInput right) where
  packets := same.packets
  lost := same.lost
  ooo := same.ooo
  streams := same.streams.map streamInput

theorem Reordered.report {left right : RecvSnapshot} (same : Reordered left right) :
    reportOf left = reportOf right := by
  rw [reportOf,reportOf,same.lost]
  congr 1
  ext stream
  exact same.streams.mem_iff

theorem SameInput.metrics {left right : RecvInput} (same : SameInput left right) :
    left.metrics = right.metrics := by
  have jitter : (left.streams.map (·.jitter)).foldl max 0 =
      (right.streams.map (·.jitter)).foldl max 0 :=
    (same.streams.map (·.jitter)).foldl_eq 0
  rw [RecvInput.metrics,RecvInput.metrics,same.packets,same.lost,same.ooo,jitter]

theorem evidence_same {observations observations' : BotObservations}
    (bots : observations.entries.Perm observations'.entries) {snapshots snapshots' : RecvSnapshots}
    (reports : snapshots.Related Reordered snapshots') :
    evidence observations snapshots = evidence observations' snapshots' := by
  refine Prod.ext ?_ ?_
  · ext obs
    exact (bots.map Sigma.snd).mem_iff
  · ext report
    constructor
    · rintro ⟨snap,member,rfl⟩
      obtain ⟨snap',member',same⟩ := reports.forth member
      exact ⟨snap',member',same.report.symm⟩
    · rintro ⟨snap',member',rfl⟩
      obtain ⟨snap,member,same⟩ := reports.flip.forth member'
      exact ⟨snap,member,same.report⟩

def verdicts (results : List CheckpointResult) : List (String × Verdict) :=
  results.map (fun r => (r.id,r.verdict))

theorem evaluate_verdicts (orders : Orders) (snapshots : RecvSnapshots)
    (observations : BotObservations) (mode profile : String)
    (categories : List CheckpointCategory) :
    verdicts (evaluate orders snapshots observations mode profile categories) =
      (applicableDefs categories).filterMap (fun d =>
        ((evaluateDef orders snapshots observations mode profile d).map (·.verdict)).map (d.id,·)) := by
  rw [verdicts,evaluate,List.map_filterMap]
  apply List.filterMap_congr
  intro d _
  cases evaluated : evaluateDef orders snapshots observations mode profile d with
  | none => rfl
  | some r =>
    have own := (evaluateDef_named orders snapshots observations mode profile d r evaluated).1
    rw [Option.map_some,Option.map_some,Option.map_some,own]

theorem counts_same {first second : List CheckpointResult} (same : verdicts first = verdicts second)
    (verdict : Verdict) :
    first.countP (·.verdict = verdict) = second.countP (·.verdict = verdict) := by
  have read (results : List CheckpointResult) :
      results.countP (·.verdict = verdict) = (verdicts results).countP (·.2 = verdict) := by
    rw [verdicts,List.countP_map]
    rfl
  rw [read,read,same]

theorem judgeLayer2_same {recvInputs recvInputs' : Table String RecvInput}
    (inputs : recvInputs.Related SameInput recvInputs') (baseline : Option BaselineFile)
    (thresholds : RegressionThresholds) (errors : List String) :
    judgeLayer2 recvInputs baseline thresholds errors =
      judgeLayer2 recvInputs' baseline thresholds errors := by
  let judgedIn (table : Table String RecvInput) :=
    table.entries.map (fun e => judgeParticipant baseline thresholds e.1 e.2)
  have moved : (judgedIn recvInputs).Perm (judgedIn recvInputs') := by
    apply inputs.map_perm
    intro id left right same
    rw [judgeParticipant,judgeParticipant,same.metrics]
  have distinct : ((judgedIn recvInputs).map (·.id)).Nodup := by
    rw [List.map_map]
    exact recvInputs.keys_nodup
  have sorted := Table.sort_perm (·.id) moved distinct
  have any : (judgedIn recvInputs).any (·.verdict = .regressed) =
      (judgedIn recvInputs').any (·.verdict = .regressed) := by
    rw [Bool.eq_iff_iff,List.any_eq_true,List.any_eq_true]
    simp only [moved.mem_iff]
  change Layer2Result.mk _ _ = Layer2Result.mk _ _
  congr 1
  rw [sorted,any]

theorem judgeLayer2_sorted (recvInputs : Table String RecvInput) (baseline : Option BaselineFile)
    (thresholds : RegressionThresholds) (errors : List String) :
    (judgeLayer2 recvInputs baseline thresholds errors).participants.Pairwise
      (fun a b => a.id ≤ b.id) := by
  have total : Std.Total (fun a b : Layer2Participant => a.id ≤ b.id) :=
    ⟨fun a b => le_total a.id b.id⟩
  have trans : IsTrans Layer2Participant (fun a b => a.id ≤ b.id) := ⟨fun a b c => le_trans⟩
  exact List.pairwise_insertionSort _ _

/-- What two reports have in common when they differ in order only. -/
structure SameJudgement (left right : JudgeReport) : Prop where
  overall : left.overall = right.overall
  verdict : left.layer1.verdict = right.layer1.verdict
  passed : left.layer1.passed = right.layer1.passed
  failed : left.layer1.failed = right.layer1.failed
  skipped : left.layer1.skipped = right.layer1.skipped
  layer2 : left.layer2 = right.layer2
  sorted : left.layer2.participants.Pairwise (fun a b => a.id ≤ b.id)

theorem judge_same {first second : List CheckpointResult} (same : verdicts first = verdicts second)
    {recvInputs recvInputs' : Table String RecvInput}
    (inputs : recvInputs.Related SameInput recvInputs') (scenario profile timestamp : String)
    (totalApplicable : Nat) (baseline : Option BaselineFile) (thresholds : RegressionThresholds)
    (errors : List String) :
    SameJudgement
      (judge scenario profile timestamp first totalApplicable recvInputs baseline thresholds errors)
      (judge scenario profile timestamp second totalApplicable recvInputs' baseline thresholds
        errors) := by
  have passed := counts_same same .pass
  have failed := counts_same same .fail
  have layer2 := judgeLayer2_same inputs baseline thresholds errors
  have verdict : (judgeLayer1 first totalApplicable).verdict =
      (judgeLayer1 second totalApplicable).verdict := by
    rw [judgeLayer1,judgeLayer1,failed]
  refine ⟨?_,verdict,passed,failed,?_,layer2,judgeLayer2_sorted recvInputs baseline thresholds errors⟩
  · simp only [judge,verdict,layer2]
  · change totalApplicable - (_ + _) = totalApplicable - (_ + _)
    rw [passed,failed]

/-- Over all maps, categories, modes and profiles: neither the checkpoints nor
the judge depend on the order in which any hash map or hash set is met. -/
theorem order_independent (left right : Orders) {observations observations' : BotObservations}
    (bots : observations.entries.Perm observations'.entries) {snapshots snapshots' : RecvSnapshots}
    (reports : snapshots.Related Reordered snapshots')
    {recvInputs recvInputs' : Table String RecvInput}
    (inputs : recvInputs.Related SameInput recvInputs') (mode profile : String)
    (categories : List CheckpointCategory) (scenario timestamp : String) (totalApplicable : Nat)
    (baseline : Option BaselineFile) (thresholds : RegressionThresholds) (errors : List String) :
    let first := evaluate left snapshots observations mode profile categories
    let second := evaluate right snapshots' observations' mode profile categories
    verdicts first = verdicts second ∧
      SameJudgement
        (judge scenario profile timestamp first totalApplicable recvInputs baseline thresholds errors)
        (judge scenario profile timestamp second totalApplicable recvInputs' baseline thresholds
          errors) := by
  intro first second
  have same : verdicts first = verdicts second := by
    rw [evaluate_verdicts,evaluate_verdicts]
    apply List.filterMap_congr
    intro d applies
    have listed : d ∈ registry := (applicable_sublist categories).subset applies
    have before := evaluateDef_judged left observations snapshots mode profile d listed
    have later := evaluateDef_judged right observations' snapshots' mode profile d listed
    rw [← evidence_same bots reports] at later
    rw [before.unique later]
  exact ⟨same,judge_same same inputs scenario profile timestamp totalApplicable baseline thresholds
    errors⟩

def heard (ssrc : UInt32) (count : Nat) : SsrcRecvMetrics :=
  { SsrcRecvMetrics.new 0 ssrc 111 with packetsReceived := count }

def oneWay : RecvSnapshot := ⟨130,0,0,2,[heard 1 100,heard 2 30]⟩

def otherWay : RecvSnapshot := ⟨130,0,0,2,[heard 2 30,heard 1 100]⟩

theorem oneWay_otherWay : Reordered oneWay otherWay := ⟨rfl,rfl,rfl,rfl,.swap _ _ []⟩

/-- Two bots, and the streams of one of them, met the other way round. -/
theorem order_independent_swapped :
    let one := (AList.singleton "bot-1" { rrReceivedCount := 3 } : BotObservations)
    let two := (AList.singleton "bot-2" { tracksAckSent := true } : BotObservations)
    let first := evaluate {} (AList.singleton "bot-1" oneWay)
      (one.insert "bot-2" { tracksAckSent := true }) "conference" "pristine" []
    let second := evaluate {} (AList.singleton "bot-1" otherWay)
      (two.insert "bot-1" { rrReceivedCount := 3 }) "conference" "pristine" []
    verdicts first = verdicts second ∧
      SameJudgement
        (judge "s" "pristine" "now" first 21 (AList.singleton "bot-1" (recvInput oneWay)) none {} [])
        (judge "s" "pristine" "now" second 21 (AList.singleton "bot-1" (recvInput otherWay)) none {}
          []) :=
  order_independent {} {} (AList.insert_insert_of_ne ∅ (by decide))
    (Table.related_singleton "bot-1" oneWay_otherWay)
    (Table.related_singleton "bot-1" oneWay_otherWay.input) "conference" "pristine" [] "s" "now" 21
    none {} []

end Oxlab.HashOrder
