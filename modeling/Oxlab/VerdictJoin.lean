import Oxlab.Judge.Gate

/-! The verdict of a participant as the join of its three metrics.
A metric asks whether the participant has a baseline entry, the participant's
verdict whether there is a baseline at all. The two disagree on whoever is new
to a scenario that has one. -/
namespace Oxlab.VerdictJoin
open Judge Library

def joined (prev : Option BaselineEntry) (metrics : List RegressionMetric) : RegressionVerdict :=
  if metrics.any (·.verdict = .regressed) then .regressed
  else if prev.isNone then .noBaseline
  else if metrics.any (·.verdict = .improved) then .improved
  else .stable

section participants
variable (baseline : Option BaselineFile) (thresholds : RegressionThresholds)
  (participants : Table String RecvInput) (errors : List String)

def entryOf (id : String) : Option BaselineEntry := baseline.bind (·.find id)

/-- Everyone in the map is judged once, each by the join of three metrics, and the
run is regressed by its errors and by whoever is regressed. -/
structure JoinsParts : Prop where
  judged : ((judgeLayer2 participants baseline thresholds errors).participants.map (·.id)).Perm
    participants.keys
  each : ∀ p ∈ (judgeLayer2 participants baseline thresholds errors).participants,
    p.regression.length = 3 ∧
      (entryOf baseline p.id = none → ∀ m ∈ p.regression,m.verdict = .noBaseline) ∧
      p.verdict = joined (entryOf baseline p.id) p.regression
  overall : (judgeLayer2 participants baseline thresholds errors).verdict = .regressed ↔
    errors ≠ [] ∨ ∃ p ∈ (judgeLayer2 participants baseline thresholds errors).participants,
      p.verdict = .regressed

theorem mem_judged (p : Layer2Participant) :
    p ∈ (judgeLayer2 participants baseline thresholds errors).participants ↔
      ∃ e ∈ participants.entries,judgeParticipant baseline thresholds e.1 e.2 = p := by
  rw [judgeLayer2,List.mem_insertionSort,List.mem_map]

theorem regressionMetrics_new (m : ParticipantMetrics) :
    ∀ metric ∈ regressionMetrics m none thresholds,metric.verdict = .noBaseline := by
  intro metric member
  simp only [regressionMetrics,List.mem_cons,List.not_mem_nil,or_false] at member
  rcases member with rfl | rfl | rfl <;> rfl

theorem any_new (m : ParticipantMetrics) (verdict : RegressionVerdict)
    (compared : verdict ≠ .noBaseline) :
    (regressionMetrics m none thresholds).any (·.verdict = verdict) = false := by
  rw [List.any_eq_false]
  intro metric member same
  rw [decide_eq_true_eq,regressionMetrics_new thresholds m metric member] at same
  exact compared same.symm

theorem joined_new (m : ParticipantMetrics) :
    joined none (regressionMetrics m none thresholds) = .noBaseline := by
  rw [joined,any_new thresholds m .regressed (by decide)]
  rfl

theorem participant_new {file : BaselineFile} {id : String} (unknown : file.find id = none)
    (recv : RecvInput) : (judgeParticipant (some file) thresholds id recv).verdict = .stable := by
  rw [judgeParticipant,Option.bind_some,unknown]
  exact summed_stable (any_new thresholds recv.metrics .regressed (by decide))
    (any_new thresholds recv.metrics .improved (by decide))

theorem participant_joined (id : String) (recv : RecvInput) :
    (judgeParticipant baseline thresholds id recv).verdict =
        joined (entryOf baseline id) (judgeParticipant baseline thresholds id recv).regression ↔
      (baseline = none ∨ (entryOf baseline id).isSome) := by
  cases baseline with
  | none =>
    refine iff_of_true ?_ (Or.inl rfl)
    rfl
  | some file =>
    cases known : file.find id with
    | none =>
      have unknown : entryOf (some file) id = none := known
      have measured : (judgeParticipant (some file) thresholds id recv).regression =
          regressionMetrics recv.metrics none thresholds := by
        rw [judgeParticipant,Option.bind_some,known]
      rw [participant_new thresholds known,unknown,measured,joined_new]
      simp
    | some entry =>
      have found : entryOf (some file) id = some entry := known
      rw [found]
      refine iff_of_true ?_ (Or.inr rfl)
      rfl

theorem judged_once : ((judgeLayer2 participants baseline thresholds errors).participants.map
    (·.id)).Perm participants.keys := by
  have sorted := (List.perm_insertionSort (fun a b : Layer2Participant => a.id ≤ b.id)
    (participants.entries.map (fun e => judgeParticipant baseline thresholds e.1 e.2))).map (·.id)
  rw [List.map_map] at sorted
  exact sorted

theorem overall_joined : (judgeLayer2 participants baseline thresholds errors).verdict = .regressed ↔
    errors ≠ [] ∨ ∃ p ∈ (judgeLayer2 participants baseline thresholds errors).participants,
      p.verdict = .regressed := by
  simp only [layer2_regressed,mem_judged,exists_exists_and_eq_and]
  exact Or.comm

/-- For every participants map, baseline, thresholds and error list: the verdicts
are the joins of their parts, exactly when there is no baseline or it has an entry
for every participant. -/
theorem joinsParts_iff : JoinsParts baseline thresholds participants errors ↔
    baseline = none ∨ ∀ e ∈ participants.entries,(entryOf baseline e.1).isSome := by
  have parts : (∀ e ∈ participants.entries,
      (judgeParticipant baseline thresholds e.1 e.2).verdict = joined (entryOf baseline e.1)
        (judgeParticipant baseline thresholds e.1 e.2).regression) ↔
      baseline = none ∨ ∀ e ∈ participants.entries,(entryOf baseline e.1).isSome := by
    simp only [participant_joined]
    by_cases first : baseline = none
    · simp [first]
    · simp [first]
  rw [← parts]
  constructor
  · intro joins e member
    exact (joins.each _ ((mem_judged ..).mpr ⟨e,member,rfl⟩)).2.2
  · intro verdicts
    refine ⟨judged_once ..,?_,overall_joined ..⟩
    intro p member
    obtain ⟨e,listed,rfl⟩ := (mem_judged ..).mp member
    refine ⟨rfl,?_,verdicts e listed⟩
    intro unknown
    have measured : (judgeParticipant baseline thresholds e.1 e.2).regression =
        regressionMetrics e.2.metrics none thresholds :=
      congrArg (regressionMetrics e.2.metrics · thresholds) unknown
    rw [measured]
    exact regressionMetrics_new thresholds _

end participants

def twoBots : BaselineFile where
  scenario := "basic"
  profile := "normal"
  timestamp := "1"
  participants := [⟨"bot-1",0,1,0⟩,⟨"bot-2",0,1,0⟩]

/-- A third bot is added to the scenario and loses a third of its packets. -/
theorem added_bot_stable :
    ¬JoinsParts (some twoBots) {} ((∅ : Table String RecvInput).insert "bot-3" ⟨10,5,3,[]⟩) [] := by
  intro joins
  have member : judgeParticipant (some twoBots) {} "bot-3" ⟨10,5,3,[]⟩ ∈
      (judgeLayer2 ((∅ : Table String RecvInput).insert "bot-3" ⟨10,5,3,[]⟩) (some twoBots) {}
        []).participants :=
    (mem_judged ..).mpr ⟨⟨"bot-3",⟨10,5,3,[]⟩⟩,by simp,rfl⟩
  have known := (participant_joined ..).mp (joins.each _ member).2.2
  revert known
  decide

end Oxlab.VerdictJoin
