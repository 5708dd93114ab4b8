import Oxlab.Judge.Gate
import Oxlab.Scenario.Result

/-! The accept loop of a baseline.
A run that passes becomes the baseline. The same run against its own baseline
has nothing to change, and a run that fails leaves both as they were. -/
namespace Oxlab.AcceptLoop
open Judge Library

/-- A baseline but for its time. -/
def unstamped (b : BaselineFile) : BaselineFile := { b with timestamp := "" }

def entryOf (id : String) (m : ParticipantMetrics) : BaselineEntry :=
  ⟨id,m.lossRatePercent,m.maxJitter,m.totalOoo⟩

variable (run : JudgeInput) (baseline : Option BaselineFile) (now : String)

theorem mem_saved (b : BaselineEntry) :
    b ∈ (createBaseline (run.report baseline now)).participants ↔
      ∃ e ∈ run.recvInputs.entries,entryOf e.1 e.2.metrics = b := by
  simp only [createBaseline,JudgeInput.report,judge,judgeLayer2,List.mem_map,
    List.mem_insertionSort,exists_exists_and_eq_and]
  rfl

theorem saved_find {e : Sigma fun _ : String => RecvInput} (member : e ∈ run.recvInputs.entries) :
    (createBaseline (run.report baseline now)).find e.1 = some (entryOf e.1 e.2.metrics) := by
  have listed := (mem_saved run baseline now _).mpr ⟨e,member,rfl⟩
  rw [BaselineFile.find]
  cases found : (createBaseline (run.report baseline now)).participants.find?
      (·.participantId = e.1) with
  | none =>
    have absent := List.find?_eq_none.mp found _ listed
    exact absurd (decide_eq_true rfl) absent
  | some b =>
    have named : b.participantId = e.1 := of_decide_eq_true (List.find?_some found :)
    obtain ⟨e',member',rfl⟩ := (mem_saved run baseline now b).mp (List.mem_of_find?_eq_some found)
    have same : e' = e := by
      have first : run.recvInputs.lookup e'.1 = some e'.2 := AList.mem_lookup_iff.mpr member'
      have second : run.recvInputs.lookup e.1 = some e.2 := AList.mem_lookup_iff.mpr member
      have id : e'.1 = e.1 := named
      rw [id,second] at first
      exact Sigma.ext id (heq_of_eq (Option.some.inj first).symm)
    rw [same]

theorem saved_same (baseline' : Option BaselineFile) (later : String) :
    unstamped (createBaseline (run.report baseline' later)) =
      unstamped (createBaseline (run.report baseline now)) := by
  let judgedBy (baseline : Option BaselineFile) :=
    run.recvInputs.entries.map (fun e => judgeParticipant baseline run.thresholds e.1 e.2)
  have read (baseline : Option BaselineFile) :
      ((judgedBy baseline).insertionSort (fun a b => a.id ≤ b.id)).map
        (fun p => entryOf p.id p.metrics) =
      (run.recvInputs.entries.map (fun e => entryOf e.1 e.2.metrics)).insertionSort
        (fun a b => a.participantId ≤ b.participantId) := by
    rw [List.map_insertionSort _ (fun a b => a.participantId ≤ b.participantId)]
    · rw [List.map_map]
      rfl
    · intro a _ b _
      exact Iff.rfl
  have participants : (createBaseline (run.report baseline' later)).participants =
      (createBaseline (run.report baseline now)).participants :=
    (read baseline').trans (read baseline).symm
  rw [unstamped,unstamped,participants]
  rfl

/-- Thresholds as the files give them: no change is none too many. -/
structure NonNegative (thresholds : RegressionThresholds) : Prop where
  loss : 0 ≤ thresholds.lossRateDelta
  jitter : 0 ≤ thresholds.jitterIncreaseRatio
  ooo : 0 ≤ thresholds.oooIncreaseRatio

theorem none_other {α : Type} {items : List α} {verdict : α → RegressionVerdict}
    (stable : ∀ item ∈ items,verdict item = .stable) {other : RegressionVerdict}
    (differs : other ≠ .stable) : items.any (fun item => verdict item = other) = false := by
  rw [List.any_eq_false]
  intro item member same
  exact differs ((of_decide_eq_true same).symm.trans (stable item member))

section stable
variable {thresholds : RegressionThresholds} (nonneg : NonNegative thresholds)
include nonneg

theorem metrics_stable (id : String) (m : ParticipantMetrics) :
    ∀ metric ∈ regressionMetrics m (some (entryOf id m)) thresholds,metric.verdict = .stable := by
  simp only [regressionMetrics,List.forall_mem_cons,List.not_mem_nil,false_imp_iff,implies_true,
    and_true]
  refine ⟨?_,?_,?_⟩
  · simp only [lossMetric,entryOf,Option.map_some,Option.getD_some,sub_self]
    exact changeVerdict_zero nonneg.loss
  · simp only [jitterMetric,entryOf,sub_self,zero_div,changeVerdict_zero nonneg.jitter]
    split <;> rfl
  · simp only [oooMetric,entryOf,sub_self,zero_div,changeVerdict_zero nonneg.ooo]
    split <;> rfl

theorem participant_stable {id : String} {recv : RecvInput} {b : BaselineFile}
    (own : b.find id = some (entryOf id recv.metrics)) :
    let p := judgeParticipant (some b) thresholds id recv
    p.verdict = .stable ∧ ∀ metric ∈ p.regression,metric.verdict = .stable := by
  have stable := metrics_stable nonneg id recv.metrics
  simp only [judgeParticipant,Option.bind_some,own]
  exact ⟨summed_stable (none_other stable (by decide)) (none_other stable (by decide)),stable⟩

variable {recvInputs : Table String RecvInput} {b : BaselineFile}
  (own : ∀ e ∈ recvInputs.entries,b.find e.1 = some (entryOf e.1 e.2.metrics))
include own

theorem layer2_stable :
    let layer2 := judgeLayer2 recvInputs (some b) thresholds []
    layer2.verdict = .stable ∧
      ∀ p ∈ layer2.participants,p.verdict = .stable ∧
        ∀ metric ∈ p.regression,metric.verdict = .stable := by
  have judged : ∀ p ∈ recvInputs.entries.map (fun e =>
      judgeParticipant (some b) thresholds e.1 e.2),
      p.verdict = .stable ∧ ∀ metric ∈ p.regression,metric.verdict = .stable := by
    intro p member
    obtain ⟨e,listed,rfl⟩ := List.mem_map.mp member
    exact participant_stable nonneg (own e listed)
  have sorted : ∀ p ∈ (judgeLayer2 recvInputs (some b) thresholds []).participants,
      p.verdict = .stable ∧ ∀ metric ∈ p.regression,metric.verdict = .stable := by
    intro p member
    exact judged p ((List.mem_insertionSort _).mp member)
  refine ⟨?_,sorted⟩
  apply summed_stable
  · rw [List.isEmpty_nil,Bool.not_true,Bool.or_false]
    exact none_other (fun p member => (judged p member).1) (by decide)
  · exact none_other (fun p member => (sorted p member).1) (by decide)

end stable

theorem layer2_ids (recvInputs : Table String RecvInput) (baseline : Option BaselineFile)
    (thresholds : RegressionThresholds) (errors : List String) :
    ((judgeLayer2 recvInputs baseline thresholds errors).participants.map (·.id)).Perm
      recvInputs.keys := by
  refine ((List.perm_insertionSort _ _).map _).trans ?_
  rw [List.map_map]
  exact List.Perm.refl _

theorem accepted_reason (accepted : shouldUpdate (run.report baseline now) = true) :
    (run.report baseline now).layer1.verdict = .pass ∧ run.errors = [] := by
  rw [shouldUpdate,Bool.and_eq_true,decide_eq_true_eq,decide_eq_true_eq] at accepted
  refine ⟨accepted.1,?_⟩
  by_contra told
  exact accepted.2 ((layer2_regressed _ _ _ _).mpr (Or.inr told))

theorem accepted_again (nonneg : NonNegative run.thresholds)
    (accepted : shouldUpdate (run.report baseline now) = true) (later : String) :
    let second := run.report (some (createBaseline (run.report baseline now))) later
    shouldUpdate second = true ∧ second.layer2.verdict = .stable ∧
      ∀ p ∈ second.layer2.participants,p.verdict = .stable ∧
        ∀ metric ∈ p.regression,metric.verdict = .stable := by
  intro second
  obtain ⟨passed,quiet⟩ := accepted_reason run baseline now accepted
  have saved : ∀ e ∈ run.recvInputs.entries,
      (createBaseline (run.report baseline now)).find e.1 = some (entryOf e.1 e.2.metrics) := by
    intro e member
    exact saved_find run baseline now member
  have unchanged := layer2_stable nonneg saved
  have layer2 : second.layer2 = judgeLayer2 run.recvInputs
      (some (createBaseline (run.report baseline now))) run.thresholds [] := by
    rw [← quiet]
    rfl
  rw [← layer2] at unchanged
  refine ⟨?_,unchanged⟩
  rw [shouldUpdate,Bool.and_eq_true,decide_eq_true_eq,decide_eq_true_eq,unchanged.1]
  exact ⟨passed,by decide⟩

theorem rejected_again (rejected : ¬shouldUpdate (run.report baseline now) = true)
    (later : String) :
    run.next baseline now = baseline ∧ run.next baseline later = baseline ∧
      run.report baseline later = { run.report baseline now with timestamp := later } :=
  ⟨if_neg rejected,if_neg rejected,rfl⟩

/-- A run and then the same run again, against the baseline that the first left:
the verdict is the same and the baseline stays. After an accepted run nothing has
changed for any participant; after a rejected one the report is the same but for its
time. -/
theorem accept_idempotent (nonneg : NonNegative run.thresholds) (later : String) :
    let first := run.report baseline now
    let kept := run.next baseline now
    let second := run.report kept later
    second.overall = first.overall ∧ (run.next kept later).map unstamped = kept.map unstamped ∧
      (shouldUpdate first = true →
        second.layer2.verdict = .stable ∧
          ∀ p ∈ second.layer2.participants,p.verdict = .stable ∧
            ∀ metric ∈ p.regression,metric.verdict = .stable) ∧
      (shouldUpdate first = false →
        kept = baseline ∧ run.next kept later = baseline ∧
          second = { first with timestamp := later }) ∧
      (second.layer2.participants.map (·.id)).Perm run.recvInputs.keys := by
  intro first kept second
  have heard : (second.layer2.participants.map (·.id)).Perm run.recvInputs.keys := layer2_ids ..
  by_cases accepted : shouldUpdate first = true
  · have replaced : kept = some (createBaseline first) := if_pos accepted
    obtain ⟨again,stable⟩ := accepted_again run baseline now nonneg accepted later
    rw [← replaced] at again stable
    have still : run.next kept later = some (createBaseline second) := if_pos again
    refine ⟨?_,?_,fun _ => stable,fun rejected => ?_,heard⟩
    · exact ((run.shouldUpdate_iff kept later).mp again).trans
        ((run.shouldUpdate_iff baseline now).mp accepted).symm
    · rw [still,replaced]
      exact congrArg some (saved_same run baseline now kept later)
    · rw [accepted] at rejected
      contradiction
  · obtain ⟨untouched,still,same⟩ := rejected_again run baseline now accepted later
    have kept_eq : kept = baseline := untouched
    have second_eq : second = { first with timestamp := later } := by
      rw [← same,← kept_eq]
    refine ⟨?_,?_,fun accepts => absurd accepts accepted,fun _ => ⟨kept_eq,?_,second_eq⟩,heard⟩
    · rw [second_eq]
    · rw [kept_eq,still]
    · rw [kept_eq,still]

def lossyRun : JudgeInput :=
  ⟨"s","lossy",[],0,AList.singleton "bot-1" ⟨90,10,2,[⟨7,111,90,10,2,3/2⟩]⟩,{},[]⟩

theorem accept_idempotent_lossy :
    let first := lossyRun.report none "now"
    let kept := lossyRun.next none "now"
    let second := lossyRun.report kept "later"
    second.overall = first.overall ∧ (lossyRun.next kept "later").map unstamped = kept.map unstamped ∧
      (shouldUpdate first = true →
        second.layer2.verdict = .stable ∧
          ∀ p ∈ second.layer2.participants,p.verdict = .stable ∧
            ∀ metric ∈ p.regression,metric.verdict = .stable) ∧
      (shouldUpdate first = false →
        kept = none ∧ lossyRun.next kept "later" = none ∧
          second = { first with timestamp := "later" }) ∧
      (second.layer2.participants.map (·.id)).Perm lossyRun.recvInputs.keys :=
  accept_idempotent lossyRun none "now" ⟨by norm_num [lossyRun],by norm_num [lossyRun],
    by norm_num [lossyRun]⟩ "later"

section engine
open Scenario.Engine Scenario.Result
variable (scenario : ScenarioDef) (around : Surroundings scenario)

/-- The engine judges the run against the file of its path and leaves there the
next baseline, when it can write at all. -/
theorem engine_accepts (writable : around.writable = true) :
    (Scenario.Result.run scenario around).report =
        (judgeInput scenario around).report (around.baselines (baselinePath scenario)) around.now ∧
      (Scenario.Result.run scenario around).baselines (baselinePath scenario) =
        (judgeInput scenario around).next (around.baselines (baselinePath scenario)) around.now := by
  refine ⟨rfl,?_⟩
  change savedBaselines scenario around _ _ = _
  rw [savedBaselines,writable,Bool.and_true,JudgeInput.next]
  by_cases accepted : shouldUpdate (report scenario around) = true
  · rw [if_pos accepted,Function.update_self]
    exact (if_pos accepted).symm
  · rw [if_neg accepted]
    exact (if_neg accepted).symm

end engine

end Oxlab.AcceptLoop
