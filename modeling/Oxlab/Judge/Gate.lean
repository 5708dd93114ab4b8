import Oxlab.Judge.Regression

/-! The gate: a run as the judge is given it, what fails it, and the baseline
that it leaves. -/
namespace Oxlab.Judge
open Library

/-- What one run hands to the judge. -/
structure JudgeInput where
  scenario : String
  profile : String
  checkpoints : List CheckpointResult
  totalApplicable : Nat
  recvInputs : Table String RecvInput
  thresholds : RegressionThresholds
  errors : List String

namespace JudgeInput
variable (run : JudgeInput) (baseline : Option BaselineFile) (now : String)

def report : JudgeReport :=
  judge run.scenario run.profile now run.checkpoints run.totalApplicable run.recvInputs baseline
    run.thresholds run.errors

/-- The baseline after the run. -/
def next : Option BaselineFile :=
  if shouldUpdate (run.report baseline now) then some (createBaseline (run.report baseline now))
  else baseline

end JudgeInput

theorem changeVerdict_regressed (delta threshold : ℚ) :
    changeVerdict delta threshold = .regressed ↔ threshold < delta := by
  unfold changeVerdict
  split
  next above => simp [above]
  next within =>
    split
    next => simp [within]
    next => simp [within]

theorem changeVerdict_zero {threshold : ℚ} (nonneg : 0 ≤ threshold) :
    changeVerdict 0 threshold = .stable := by
  rw [changeVerdict,if_neg (not_lt.mpr nonneg),if_neg (not_lt.mpr (neg_nonpos.mpr nonneg))]

theorem layer1_fail (checkpoints : List CheckpointResult) (totalApplicable : Nat) :
    (judgeLayer1 checkpoints totalApplicable).verdict = .fail ↔
      ∃ c ∈ checkpoints,c.verdict = .fail := by
  have counted : 0 < checkpoints.countP (·.verdict = .fail) ↔
      ∃ c ∈ checkpoints,c.verdict = .fail := by
    rw [List.countP_pos_iff]
    simp
  rw [← counted,judgeLayer1]
  by_cases some_failed : 0 < checkpoints.countP (·.verdict = .fail)
  · simp [some_failed]
  · simp [some_failed]

section layer2
variable (baseline : Option BaselineFile) (thresholds : RegressionThresholds)

theorem summed_regressed (some_regressed first some_improved : Bool) :
    (if some_regressed = true then RegressionVerdict.regressed
      else if first = true then .noBaseline
      else if some_improved = true then .improved
      else .stable) = .regressed ↔ some_regressed = true := by
  cases some_regressed <;> cases first <;> cases some_improved <;> decide

theorem summed_stable {some_regressed some_improved : Bool} (kept : some_regressed = false)
    (same : some_improved = false) :
    (if some_regressed = true then RegressionVerdict.regressed
      else if false = true then .noBaseline
      else if some_improved = true then .improved
      else .stable) = .stable := by
  rw [kept,same]
  rfl

theorem participant_regressed (id : String) (recv : RecvInput) :
    (judgeParticipant baseline thresholds id recv).verdict = .regressed ↔
      ∃ m ∈ regressionMetrics recv.metrics (baseline.bind (·.find id)) thresholds,
        m.verdict = .regressed := by
  rw [judgeParticipant,summed_regressed,List.any_eq_true]
  simp only [decide_eq_true_eq]

theorem layer2_regressed (recvInputs : Table String RecvInput) (errors : List String) :
    (judgeLayer2 recvInputs baseline thresholds errors).verdict = .regressed ↔
      (∃ e ∈ recvInputs.entries,
        (judgeParticipant baseline thresholds e.1 e.2).verdict = .regressed) ∨ errors ≠ [] := by
  rw [judgeLayer2,summed_regressed,Bool.or_eq_true,List.any_map,List.any_eq_true]
  simp

end layer2

namespace JudgeInput
variable (run : JudgeInput) (baseline : Option BaselineFile) (now : String)

theorem overall_fail : (run.report baseline now).overall = .fail ↔
    (run.report baseline now).layer1.verdict = .fail ∨
      (run.report baseline now).layer2.verdict = .regressed := by
  rw [report,judge]
  split
  next failed => simp [failed]
  next passed =>
    split
    next regressed => simp [regressed]
    next fine => simp [passed,fine]

/-- A run replaces the baseline exactly when it passes. -/
theorem shouldUpdate_iff :
    shouldUpdate (run.report baseline now) = true ↔ (run.report baseline now).overall = .pass := by
  have gate := overall_fail run baseline now
  cases overall : (run.report baseline now).overall <;>
    cases verdict : (run.report baseline now).layer1.verdict <;>
    simp_all [shouldUpdate]

end JudgeInput
end Oxlab.Judge
