import Mathlib.Tactic.Linarith
import Oxlab.Judge.Gate

/-! A worse run never passes where a better one failed.
The loss rate falls with the packets and grows with the losses, and each of the
three comparisons with a baseline grows with what it compares. -/
namespace Oxlab.WorseRuns
open Judge Library

/-- The second participant received no better. -/
structure Worse (first second : RecvInput) : Prop where
  packets : second.totalPackets ≤ first.totalPackets
  lost : first.totalLost ≤ second.totalLost
  jitter : first.metrics.maxJitter ≤ second.metrics.maxJitter
  ooo : first.totalOoo ≤ second.totalOoo

theorem Worse.lossRate {first second : RecvInput} (worse : Worse first second) :
    first.metrics.lossRatePercent ≤ second.metrics.lossRatePercent := by
  have packets : (second.totalPackets : ℚ) ≤ first.totalPackets := Nat.cast_le.mpr worse.packets
  have lost : (first.totalLost : ℚ) ≤ second.totalLost := Nat.cast_le.mpr worse.lost
  simp only [RecvInput.metrics,Nat.cast_add]
  by_cases silent : 0 < first.totalLost
  · have lossy : 0 < second.totalLost := lt_of_lt_of_le silent worse.lost
    rw [if_pos (by omega),if_pos (by omega)]
    have positive : (0 : ℚ) < first.totalLost := Nat.cast_pos.mpr silent
    have present : (0 : ℚ) ≤ second.totalPackets := Nat.cast_nonneg _
    have present' : (0 : ℚ) ≤ first.totalPackets := Nat.cast_nonneg _
    apply mul_le_mul_of_nonneg_right _ (by norm_num)
    rw [div_le_div_iff₀ (by linarith) (by linarith)]
    nlinarith
  · have none_lost : first.totalLost = 0 := by omega
    rw [none_lost,Nat.cast_zero,zero_div,zero_mul,ite_self]
    split
    next =>
      have some_packets : (0 : ℚ) ≤ second.totalPackets + second.totalLost :=
        add_nonneg (Nat.cast_nonneg _) (Nat.cast_nonneg _)
      exact mul_nonneg (div_nonneg (Nat.cast_nonneg _) some_packets) (by norm_num)
    next => exact le_refl 0

section metrics
variable {m m' : ParticipantMetrics} {prev : Option BaselineEntry}
  {thresholds : RegressionThresholds}

theorem changeVerdict_mono {delta delta' threshold : ℚ} (more : delta ≤ delta')
    (regressed : changeVerdict delta threshold = .regressed) :
    changeVerdict delta' threshold = .regressed := by
  rw [changeVerdict_regressed] at regressed ⊢
  exact lt_of_lt_of_le regressed more

theorem lossMetric_mono (more : m.lossRatePercent ≤ m'.lossRatePercent)
    (regressed : (lossMetric m prev thresholds).verdict = .regressed) :
    (lossMetric m' prev thresholds).verdict = .regressed := by
  cases prev with
  | none => contradiction
  | some p =>
    refine changeVerdict_mono ?_ regressed
    exact sub_le_sub_right more p.lossRatePercent

theorem jitterMetric_mono (more : m.maxJitter ≤ m'.maxJitter)
    (regressed : (jitterMetric m prev thresholds).verdict = .regressed) :
    (jitterMetric m' prev thresholds).verdict = .regressed := by
  cases prev with
  | none => contradiction
  | some p =>
    simp only [jitterMetric] at regressed ⊢
    by_cases jitters : 0 < p.maxJitter
    · rw [if_pos jitters] at regressed ⊢
      refine changeVerdict_mono ?_ regressed
      exact div_le_div_of_nonneg_right (sub_le_sub_right more p.maxJitter) jitters.le
    · rw [if_neg jitters] at regressed
      contradiction

theorem oooMetric_mono (more : m.totalOoo ≤ m'.totalOoo)
    (regressed : (oooMetric m prev thresholds).verdict = .regressed) :
    (oooMetric m' prev thresholds).verdict = .regressed := by
  cases prev with
  | none => contradiction
  | some p =>
    simp only [oooMetric] at regressed ⊢
    by_cases some_ooo : 0 < p.totalOoo
    · rw [if_pos some_ooo] at regressed ⊢
      refine changeVerdict_mono ?_ regressed
      have cast : (m.totalOoo : ℚ) ≤ m'.totalOoo := Nat.cast_le.mpr more
      exact div_le_div_of_nonneg_right (sub_le_sub_right cast _) (Nat.cast_nonneg _)
    · rw [if_neg some_ooo] at regressed ⊢
      by_cases now_ooo : 0 < m.totalOoo
      · rw [if_pos (lt_of_lt_of_le now_ooo more)]
      · rw [if_neg now_ooo] at regressed
        contradiction

end metrics

theorem participant_mono {first second : RecvInput} (worse : Worse first second) (id : String)
    (baseline : Option BaselineFile) (thresholds : RegressionThresholds)
    (regressed : (judgeParticipant baseline thresholds id first).verdict = .regressed) :
    (judgeParticipant baseline thresholds id second).verdict = .regressed := by
  rw [participant_regressed] at regressed ⊢
  simp only [regressionMetrics,List.exists_mem_cons_iff,List.not_mem_nil,false_and,exists_false,
    or_false] at regressed ⊢
  rcases regressed with loss | jitter | ooo
  · exact Or.inl (lossMetric_mono worse.lossRate loss)
  · exact Or.inr (Or.inl (jitterMetric_mono worse.jitter jitter))
  · exact Or.inr (Or.inr (oooMetric_mono worse.ooo ooo))

/-- The second run is no better in anything: every participant, every checkpoint
that failed and every error. -/
structure WorseRun (first second : JudgeInput) : Prop where
  thresholds : second.thresholds = first.thresholds
  received : first.recvInputs.Related Worse second.recvInputs
  checkpoints : ∀ c ∈ first.checkpoints,c.verdict = .fail →
    ∃ c' ∈ second.checkpoints,c'.id = c.id ∧ c'.verdict = .fail
  errors : first.errors ⊆ second.errors

/-- Against any baseline, a run that is no better than a failed one fails. -/
theorem worse_fails {first second : JudgeInput} (worse : WorseRun first second)
    (baseline : Option BaselineFile) (now later : String)
    (failed : (first.report baseline now).overall = .fail) :
    (second.report baseline later).overall = .fail := by
  rw [JudgeInput.overall_fail] at failed ⊢
  rcases failed with checkpoint | regressed
  · obtain ⟨c,member,failing⟩ := (layer1_fail _ _).mp checkpoint
    obtain ⟨c',member',_,failing'⟩ := worse.checkpoints c member failing
    exact Or.inl ((layer1_fail _ _).mpr ⟨c',member',failing'⟩)
  · refine Or.inr ((layer2_regressed _ _ _ _).mpr ?_)
    rcases (layer2_regressed _ _ _ _).mp regressed with participant | told
    · obtain ⟨e,member,regress⟩ := participant
      obtain ⟨recv,member',lesser⟩ := worse.received.entry member
      refine Or.inl ⟨⟨e.1,recv⟩,member',?_⟩
      rw [worse.thresholds]
      exact participant_mono lesser e.1 baseline first.thresholds regress
    · obtain ⟨error,rest,same⟩ := List.exists_cons_of_ne_nil told
      have kept : error ∈ second.errors := worse.errors (by rw [same]; exact List.mem_cons_self)
      exact Or.inr (List.ne_nil_of_mem kept)

def better : JudgeInput :=
  ⟨"s","lossy",[],0,AList.singleton "bot-1" ⟨90,10,0,[]⟩,{},[]⟩

def degraded : JudgeInput :=
  ⟨"s","lossy",[],0,AList.singleton "bot-1" ⟨50,50,3,[]⟩,{},["late"]⟩

def lossless : BaselineFile := ⟨"s","lossy","t",[⟨"bot-1",0,0,0⟩]⟩

theorem worse_fails_degraded : (degraded.report (some lossless) "later").overall = .fail := by
  have worse : WorseRun better degraded :=
    { thresholds := rfl
      received := Table.related_singleton "bot-1" ⟨by decide,by decide,le_refl _,by decide⟩
      checkpoints := by decide
      errors := List.nil_subset _ }
  have failed : (better.report (some lossless) "now").overall = .fail := by decide +kernel
  exact worse_fails worse (some lossless) "now" "later" failed

end Oxlab.WorseRuns
