import Mathlib.Tactic.NormNum
import Oxlab.Judge.Gate

/-! Thresholds in order.
Each threshold is the most that a metric may grow, so a run that passes with some
thresholds passes with any that allow more. -/
namespace Oxlab.StricterGate
open Judge Library

structure NoLooser (strict loose : RegressionThresholds) : Prop where
  loss : strict.lossRateDelta ≤ loose.lossRateDelta
  jitter : strict.jitterIncreaseRatio ≤ loose.jitterIncreaseRatio
  ooo : strict.oooIncreaseRatio ≤ loose.oooIncreaseRatio

theorem strict_default : NoLooser .strict {} :=
  ⟨by norm_num [RegressionThresholds.strict],by norm_num [RegressionThresholds.strict],
    by norm_num [RegressionThresholds.strict]⟩

section metrics
variable {strict loose : RegressionThresholds} (looser : NoLooser strict loose)
  {m : ParticipantMetrics} {prev : Option BaselineEntry}

theorem changeVerdict_looser {delta threshold threshold' : ℚ} (looser : threshold ≤ threshold')
    (regressed : changeVerdict delta threshold' = .regressed) :
    changeVerdict delta threshold = .regressed := by
  rw [changeVerdict_regressed] at regressed ⊢
  exact lt_of_le_of_lt looser regressed

include looser

theorem lossMetric_looser (regressed : (lossMetric m prev loose).verdict = .regressed) :
    (lossMetric m prev strict).verdict = .regressed := by
  cases prev with
  | none => contradiction
  | some p => exact changeVerdict_looser looser.loss regressed

theorem jitterMetric_looser (regressed : (jitterMetric m prev loose).verdict = .regressed) :
    (jitterMetric m prev strict).verdict = .regressed := by
  cases prev with
  | none => contradiction
  | some p =>
    simp only [jitterMetric] at regressed ⊢
    by_cases jitters : 0 < p.maxJitter
    · rw [if_pos jitters] at regressed ⊢
      exact changeVerdict_looser looser.jitter regressed
    · rw [if_neg jitters] at regressed
      contradiction

theorem oooMetric_looser (regressed : (oooMetric m prev loose).verdict = .regressed) :
    (oooMetric m prev strict).verdict = .regressed := by
  cases prev with
  | none => contradiction
  | some p =>
    simp only [oooMetric] at regressed ⊢
    by_cases some_ooo : 0 < p.totalOoo
    · rw [if_pos some_ooo] at regressed ⊢
      exact changeVerdict_looser looser.ooo regressed
    -- without disorder before, no threshold is asked
    · rw [if_neg some_ooo] at regressed ⊢
      by_cases now_ooo : 0 < m.totalOoo
      · rw [if_pos now_ooo]
      · rw [if_neg now_ooo] at regressed
        contradiction

theorem participant_looser {baseline : Option BaselineFile} {id : String} {recv : RecvInput}
    (regressed : (judgeParticipant baseline loose id recv).verdict = .regressed) :
    (judgeParticipant baseline strict id recv).verdict = .regressed := by
  rw [participant_regressed] at regressed ⊢
  simp only [regressionMetrics,List.exists_mem_cons_iff,List.not_mem_nil,false_and,exists_false,
    or_false] at regressed ⊢
  rcases regressed with loss | jitter | ooo
  · exact Or.inl (lossMetric_looser looser loss)
  · exact Or.inr (Or.inl (jitterMetric_looser looser jitter))
  · exact Or.inr (Or.inr (oooMetric_looser looser ooo))

end metrics

/-- The run as other thresholds judge it. -/
def judgedBy (run : JudgeInput) (thresholds : RegressionThresholds) : JudgeInput :=
  { run with thresholds := thresholds }

/-- What fails a run under looser thresholds fails it under its own. -/
theorem looser_fails (run : JudgeInput) {loose : RegressionThresholds}
    (looser : NoLooser run.thresholds loose) (baseline : Option BaselineFile) (now later : String)
    (failed : ((judgedBy run loose).report baseline later).overall = .fail) :
    (run.report baseline now).overall = .fail := by
  rw [JudgeInput.overall_fail] at failed ⊢
  rcases failed with checkpoint | regressed
  · exact Or.inl checkpoint
  · refine Or.inr ((layer2_regressed _ _ _ _).mpr ?_)
    rcases (layer2_regressed _ _ _ _).mp regressed with ⟨e,member,regress⟩ | told
    · exact Or.inl ⟨e,member,participant_looser looser regress⟩
    · exact Or.inr told

/-- A run that passes passes under looser thresholds too, against any baseline, and
then either gate saves it. -/
theorem looser_passes (run : JudgeInput) (loose : RegressionThresholds)
    (looser : NoLooser run.thresholds loose) (baseline : Option BaselineFile) (now later : String)
    (passed : (run.report baseline now).overall = .pass) :
    ((judgedBy run loose).report baseline later).overall = .pass ∧
      shouldUpdate ((judgedBy run loose).report baseline later) = true := by
  have passes : ((judgedBy run loose).report baseline later).overall = .pass := by
    cases overall : ((judgedBy run loose).report baseline later).overall with
    | pass => rfl
    | fail =>
      have failed := looser_fails run looser baseline now later overall
      rw [passed] at failed
      contradiction
  exact ⟨passes,((judgedBy run loose).shouldUpdate_iff baseline later).mpr passes⟩

/-- Seven packets in a thousand were lost, against three before. -/
def closeRun : JudgeInput :=
  ⟨"s","lossy",[],0,AList.singleton "bot-1" ⟨993,7,0,[]⟩,.strict,[]⟩

def closeBaseline : BaselineFile := ⟨"s","lossy","t",[⟨"bot-1",3/10,0,0⟩]⟩

theorem looser_passes_close :
    ((judgedBy closeRun {}).report (some closeBaseline) "later").overall = .pass ∧
      shouldUpdate ((judgedBy closeRun {}).report (some closeBaseline) "later") = true := by
  have passed : (closeRun.report (some closeBaseline) "now").overall = .pass := by decide +kernel
  exact looser_passes closeRun {} strict_default (some closeBaseline) "now" "later" passed

end Oxlab.StricterGate
