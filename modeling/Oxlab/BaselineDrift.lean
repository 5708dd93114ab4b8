import Mathlib.Algebra.Order.Floor.Semiring
import Mathlib.Tactic.Linarith
import Mathlib.Tactic.Ring
import Oxlab.AcceptLoop
import Oxlab.BaselineStore
import Oxlab.StricterGate

/-! How far a baseline drifts.
A run is compared with the one that was saved last, never with the first. What the
thresholds allow is allowed again after each save: losses add up, jitter and
disorder multiply. -/
namespace Oxlab.BaselineDrift
open AcceptLoop BaselineStore Judge Library Run StricterGate

/-- The second is at most `saved` times the thresholds above the first. -/
structure Within (allowed : RegressionThresholds) (saved : Nat) (first second : BaselineEntry) :
    Prop where
  loss : second.lossRatePercent ≤ first.lossRatePercent + saved * allowed.lossRateDelta
  jitter : second.maxJitter ≤ first.maxJitter * (1 + allowed.jitterIncreaseRatio) ^ saved
  ooo : (second.totalOoo : ℚ) ≤ first.totalOoo * (1 + allowed.oooIncreaseRatio) ^ saved

section within
variable {allowed : RegressionThresholds}

theorem Within.none (entry : BaselineEntry) : Within allowed 0 entry entry := by
  refine ⟨?_,?_,?_⟩
  · rw [Nat.cast_zero,zero_mul,add_zero]
  · rw [pow_zero,mul_one]
  · rw [pow_zero,mul_one]

theorem grown_trans {a b c growth : ℚ} {k l : Nat} (nonneg : 0 ≤ growth) (first : b ≤ a * growth ^ k)
    (second : c ≤ b * growth ^ l) : c ≤ a * growth ^ (k + l) := by
  calc
    c ≤ b * growth ^ l := second
    _ ≤ a * growth ^ k * growth ^ l := mul_le_mul_of_nonneg_right first (pow_nonneg nonneg l)
    _ = a * growth ^ (k + l) := by ring

theorem Within.trans (nonneg : NonNegative allowed) {k l : Nat} {p q r : BaselineEntry}
    (first : Within allowed k p q) (second : Within allowed l q r) : Within allowed (k + l) p r := by
  have jitter : 0 ≤ 1 + allowed.jitterIncreaseRatio := add_nonneg zero_le_one nonneg.jitter
  have ooo : 0 ≤ 1 + allowed.oooIncreaseRatio := add_nonneg zero_le_one nonneg.ooo
  refine ⟨?_,grown_trans jitter first.jitter second.jitter,grown_trans ooo first.ooo second.ooo⟩
  calc
    r.lossRatePercent ≤ q.lossRatePercent + l * allowed.lossRateDelta := second.loss
    _ ≤ p.lossRatePercent + k * allowed.lossRateDelta + l * allowed.lossRateDelta :=
      add_le_add_left first.loss _
    _ = p.lossRatePercent + (k + l : Nat) * allowed.lossRateDelta := by push_cast; ring

theorem Within.once {m : ParticipantMetrics} {p : BaselineEntry} (id : String)
    (jitters : 0 < p.maxJitter)
    (kept : ∀ metric ∈ regressionMetrics m (some p) allowed,metric.verdict ≠ .regressed) :
    Within allowed 1 p (entryOf id m) := by
  simp only [regressionMetrics,List.forall_mem_cons,List.not_mem_nil,false_imp_iff,implies_true,
    and_true] at kept
  obtain ⟨loss,jitter,ooo⟩ := kept
  refine ⟨?_,?_,?_⟩
  · have within : m.lossRatePercent - p.lossRatePercent ≤ allowed.lossRateDelta :=
      not_lt.mp ((changeVerdict_regressed _ _).not.mp loss)
    rw [Nat.cast_one,one_mul]
    exact sub_le_iff_le_add'.mp within
  · simp only [jitterMetric,if_pos jitters] at jitter
    have within := not_lt.mp ((changeVerdict_regressed _ _).not.mp jitter)
    rw [div_le_iff₀ jitters] at within
    rw [pow_one]
    change m.maxJitter ≤ _
    linarith
  · simp only [oooMetric] at ooo
    by_cases some_ooo : 0 < p.totalOoo
    · rw [if_pos some_ooo] at ooo
      have within := not_lt.mp ((changeVerdict_regressed _ _).not.mp ooo)
      rw [div_le_iff₀ (Nat.cast_pos.mpr some_ooo)] at within
      rw [pow_one]
      change (m.totalOoo : ℚ) ≤ _
      linarith
    -- a baseline without disorder allows none
    · rw [if_neg some_ooo] at ooo
      have ordered : m.totalOoo = 0 := by
        by_contra disorder
        rw [if_pos (Nat.pos_of_ne_zero disorder)] at ooo
        exact ooo rfl
      have before : p.totalOoo = 0 := by omega
      rw [before,Nat.cast_zero,zero_mul]
      exact le_of_eq (congrArg Nat.cast ordered)

end within

section runs
variable (dir : String) (place : Path) (id : String) (allowed : RegressionThresholds)

/-- What the file has on the participant. -/
def entryAt (disk : Disk) : Option BaselineEntry := (disk.files place).bind (·.find id)

/-- The run is saved to the file. -/
def Replaces (disk : Disk) (attempt : Attempt) : Prop :=
  saves dir disk attempt = true ∧ resolvePath dir attempt.run.scenario attempt.run.profile = place

instance (disk : Disk) (attempt : Attempt) : Decidable (Replaces dir place disk attempt) :=
  inferInstanceAs (Decidable (_ ∧ _))

/-- How many runs of the history are saved to the file. -/
def replaced : Disk → List Attempt → Nat
  | _, [] => 0
  | disk, attempt::rest =>
    (if Replaces dir place disk attempt then 1 else 0) + replaced (step dir disk attempt) rest

/-- The run heard the participant, with some jitter, and is judged by no looser
thresholds. -/
structure Measures (run : JudgeInput) : Prop where
  thresholds : NoLooser run.thresholds allowed
  received : ∃ recv, run.recvInputs.lookup id = some recv ∧ 0 < recv.metrics.maxJitter

/-- The file is replaced by a run that does not measure the participant so. -/
def Forgets (disk : Disk) (attempt : Attempt) : Prop :=
  Replaces dir place disk attempt ∧ ¬Measures id allowed attempt.run

variable {dir place id allowed} {disk : Disk} {attempt : Attempt}

theorem step_replaces (replaces : Replaces dir place disk attempt) :
    (step dir disk attempt).files place = some (createBaseline (judgeAttempt dir disk attempt)) := by
  obtain ⟨saved,rfl⟩ := replaces
  rw [step,if_pos saved]
  exact Function.update_self _ _ _

theorem step_leaves (leaves : ¬Replaces dir place disk attempt) :
    (step dir disk attempt).files place = disk.files place := by
  unfold step
  split
  next saved =>
    apply Function.update_of_ne
    rintro rfl
    exact leaves ⟨saved,rfl⟩
  next => rfl

theorem saved_kept (saved : saves dir disk attempt = true)
    (looser : NoLooser attempt.run.thresholds allowed) {recv : RecvInput}
    (received : attempt.run.recvInputs.lookup id = some recv) {b : BaselineFile}
    (loaded : tryLoad dir disk.files attempt.run.scenario attempt.run.profile = some b) :
    ∀ metric ∈ regressionMetrics recv.metrics (b.find id) allowed,metric.verdict ≠ .regressed := by
  intro metric member regressed
  rw [saves,Bool.and_eq_true,shouldUpdate,Bool.and_eq_true,decide_eq_true_eq,decide_eq_true_eq]
    at saved
  apply saved.1.2
  refine (layer2_regressed _ _ _ _).mpr (Or.inl ⟨⟨id,recv⟩,AList.mem_lookup_iff.mp received,?_⟩)
  rw [loaded]
  exact participant_looser looser ((participant_regressed _ _ _ _).mpr ⟨metric,member,regressed⟩)

/-- One run, of any scenario and profile: the entry moves by at most one save. -/
theorem step_within {p : BaselineEntry} (found : entryAt place id disk = some p)
    (jitters : 0 < p.maxJitter) (kept : ¬Forgets dir place id allowed disk attempt) :
    ∃ q, entryAt place id (step dir disk attempt) = some q ∧ 0 < q.maxJitter ∧
      Within allowed (if Replaces dir place disk attempt then 1 else 0) p q := by
  by_cases replaces : Replaces dir place disk attempt
  · rw [if_pos replaces]
    obtain ⟨looser,recv,received,shakes⟩ := not_not.mp (not_and.mp kept replaces)
    have own := saved_find attempt.run (tryLoad dir disk.files attempt.run.scenario
      attempt.run.profile) attempt.now (AList.mem_lookup_iff.mp received)
    refine ⟨entryOf id recv.metrics,?_,shakes,?_⟩
    · rw [entryAt,step_replaces replaces]
      exact own
    · obtain ⟨b,file,entry⟩ := Option.bind_eq_some_iff.mp found
      obtain ⟨saved,same⟩ := replaces
      have loaded : tryLoad dir disk.files attempt.run.scenario attempt.run.profile = some b := by
        rw [tryLoad,same]
        exact file
      have quiet := saved_kept saved looser received loaded
      rw [entry] at quiet
      exact Within.once id jitters quiet
  · rw [if_neg replaces]
    refine ⟨p,?_,jitters,Within.none p⟩
    rw [entryAt,step_leaves replaces]
    exact found

theorem measured_clean {history : List Attempt}
    (all : ∀ attempt ∈ history,Measures id allowed attempt.run) (disk : Disk) :
    Clean (fun disk attempt => some (step dir disk attempt)) (Forgets dir place id allowed) disk
      history := by
  rw [clean_split]
  rintro before attempt later split disk _ ⟨_,unmeasured⟩
  have member : attempt ∈ history := by rw [split]; simp
  exact unmeasured (all attempt member)

end runs

section growth
variable (allowed : RegressionThresholds) (first : Nat) (shake : ℚ)

/-- Disorder after `k` runs that each show the most that passes after the one before. -/
def swaps : Nat → Nat
  | 0 => first
  | k+1 => ⌊(swaps k : ℚ)*(1 + allowed.oooIncreaseRatio)⌋₊

def shakes (k : Nat) : ℚ := shake*(1 + allowed.jitterIncreaseRatio)^k

def heard (k : Nat) : RecvInput :=
  ⟨swaps allowed first k + 1,0,swaps allowed first k,
    [⟨7,111,swaps allowed first k + 1,0,swaps allowed first k,shakes allowed shake k⟩]⟩

/-- A run in which jitter and disorder have grown `k` times. -/
def growing (k : Nat) : Attempt :=
  ⟨⟨"s","lossy",[],0,AList.singleton "bot-1" (heard allowed first shake k),allowed,[]⟩,"now",true⟩

def grownEntry (k : Nat) : BaselineEntry :=
  ⟨"bot-1",0,shakes allowed shake k,swaps allowed first k⟩

/-- The counters of a receiver are 64-bit. -/
def Fits (attempt : Attempt) : Prop :=
  ∀ e ∈ attempt.run.recvInputs.entries,
    e.2.totalPackets < 2^64 ∧ e.2.totalLost < 2^64 ∧ e.2.totalOoo < 2^64

theorem heard_first :
    ∀ metric ∈ regressionMetrics (heard allowed first shake 0).metrics none allowed,
      metric.verdict ≠ .regressed := by
  simp [regressionMetrics,lossMetric,jitterMetric,oooMetric]

variable {allowed first shake} (nonneg : NonNegative allowed)
include nonneg

theorem swaps_succ (k : Nat) : swaps allowed first k ≤ swaps allowed first (k + 1) := by
  rw [swaps]
  apply Nat.le_floor
  have present : (0 : ℚ) ≤ swaps allowed first k := Nat.cast_nonneg _
  exact le_mul_of_one_le_right present (le_add_of_nonneg_right nonneg.ooo)

theorem swaps_mono : Monotone (swaps allowed first) := monotone_nat_of_le_succ (swaps_succ nonneg)

theorem swaps_pos (disordered : 0 < first) (k : Nat) : 0 < swaps allowed first k :=
  disordered.trans_le (swaps_mono nonneg (Nat.zero_le k))

theorem shakes_pos (shaky : 0 < shake) (k : Nat) : 0 < shakes allowed shake k :=
  mul_pos shaky (pow_pos (lt_of_lt_of_le zero_lt_one (le_add_of_nonneg_right nonneg.jitter)) k)

variable (shaky : 0 < shake)
include shaky

theorem heard_metrics (k : Nat) : (heard allowed first shake k).metrics =
    ⟨swaps allowed first k + 1,0,0,shakes allowed shake k,swaps allowed first k⟩ := by
  simp [heard,RecvInput.metrics,max_eq_right (shakes_pos nonneg shaky k).le]

theorem heard_entry (k : Nat) : entryOf "bot-1" (heard allowed first shake k).metrics =
    grownEntry allowed first shake k := by
  rw [heard_metrics nonneg shaky]
  rfl

theorem heard_kept (disordered : 0 < first) (k : Nat) :
    ∀ metric ∈ regressionMetrics (heard allowed first shake (k + 1)).metrics
        (some (grownEntry allowed first shake k)) allowed,
      metric.verdict ≠ .regressed := by
  simp only [regressionMetrics,List.forall_mem_cons,List.not_mem_nil,false_imp_iff,implies_true,
    and_true,heard_metrics nonneg shaky,grownEntry]
  have shaken := shakes_pos nonneg shaky k
  have swapped := swaps_pos nonneg disordered k
  refine ⟨?_,?_,?_⟩
  · simp only [lossMetric,Option.map_some,Option.getD_some,sub_self,
      changeVerdict_zero nonneg.loss]
    decide
  · simp only [jitterMetric,if_pos shaken,ne_eq,changeVerdict_regressed,not_lt]
    rw [div_le_iff₀ shaken,shakes,shakes,pow_succ]
    linarith
  · simp only [oooMetric,if_pos swapped,ne_eq,changeVerdict_regressed,not_lt]
    have present : (0 : ℚ) < swaps allowed first k := Nat.cast_pos.mpr swapped
    have grown : (swaps allowed first (k + 1) : ℚ) ≤
        swaps allowed first k*(1 + allowed.oooIncreaseRatio) :=
      Nat.floor_le (mul_nonneg present.le (add_nonneg zero_le_one nonneg.ooo))
    rw [div_le_iff₀ present]
    linarith

omit nonneg shaky in
theorem grown_most {k : Nat} {m : ParticipantMetrics} (shaken : 0 < shakes allowed shake k)
    (kept : ∀ metric ∈ regressionMetrics m (some (grownEntry allowed first shake k)) allowed,
      metric.verdict ≠ .regressed) :
    m.maxJitter ≤ shakes allowed shake (k + 1) ∧ m.totalOoo ≤ swaps allowed first (k + 1) := by
  have once := Within.once "bot-1" shaken kept
  have jitter := once.jitter
  have ooo := once.ooo
  rw [pow_one] at jitter ooo
  refine ⟨?_,Nat.le_floor ooo⟩
  rw [shakes,pow_succ,← mul_assoc]
  exact jitter

theorem growing_measures (k : Nat) :
    Measures "bot-1" allowed (growing allowed first shake k).run := by
  have listed : (growing allowed first shake k).run.recvInputs.lookup "bot-1" =
      some (heard allowed first shake k) :=
    AList.mem_lookup_iff.mpr (List.mem_singleton_self _)
  refine ⟨⟨le_refl _,le_refl _,le_refl _⟩,heard allowed first shake k,listed,?_⟩
  rw [heard_metrics nonneg shaky]
  exact shakes_pos nonneg shaky k

end growth

section reached
variable {allowed : RegressionThresholds} {first : Nat} {shake : ℚ} (nonneg : NonNegative allowed)
  (shaky : 0 < shake) (dir : String)

theorem growing_saved {k : Nat} {disk : Disk} {prev : Option BaselineEntry}
    (found : entryAt (resolvePath dir "s" "lossy") "bot-1" disk = prev)
    (kept : ∀ metric ∈ regressionMetrics (heard allowed first shake k).metrics prev allowed,
      metric.verdict ≠ .regressed) :
    saves dir disk (growing allowed first shake k) = true := by
  subst prev
  have passes : (judgeAttempt dir disk (growing allowed first shake k)).overall = .pass := by
    cases overall : (judgeAttempt dir disk (growing allowed first shake k)).overall with
    | pass => rfl
    | fail =>
      rcases (JudgeInput.overall_fail _ _ _).mp overall with checkpoint | regressed
      · obtain ⟨c,member,_⟩ := (layer1_fail _ _).mp checkpoint
        exact absurd member List.not_mem_nil
      · rcases (layer2_regressed _ _ _ _).mp regressed with ⟨e,member,regress⟩ | told
        · have only : e = ⟨"bot-1",heard allowed first shake k⟩ := List.mem_singleton.mp member
          subst only
          obtain ⟨metric,inside,grew⟩ := (participant_regressed _ _ _ _).mp regress
          exact absurd grew (kept metric inside)
        · exact absurd rfl told
  rw [saves,Bool.and_eq_true]
  exact ⟨(JudgeInput.shouldUpdate_iff _ _ _).mpr passes,rfl⟩

include nonneg shaky in
theorem growing_entry (k : Nat) (disk : Disk)
    (saved : saves dir disk (growing allowed first shake k) = true) :
    entryAt (resolvePath dir "s" "lossy") "bot-1" (step dir disk (growing allowed first shake k)) =
      some (grownEntry allowed first shake k) := by
  have listed : (⟨"bot-1",heard allowed first shake k⟩ : Sigma fun _ : String => RecvInput) ∈
      (growing allowed first shake k).run.recvInputs.entries := List.mem_singleton_self _
  have own := saved_find (growing allowed first shake k).run (tryLoad dir disk.files "s" "lossy")
    "now" listed
  have replaces : Replaces dir (resolvePath dir "s" "lossy") disk
      (growing allowed first shake k) := ⟨saved,rfl⟩
  rw [entryAt,step_replaces replaces,← heard_entry nonneg shaky]
  exact own

end reached

/-- Over every sequence of runs of any scenarios and profiles: as long as each run
saved to the file measures the participant, the entry is at most as many
thresholds above the first as runs were saved. -/
theorem drift_bounded (dir : String) (place : Path) (id : String) {allowed : RegressionThresholds}
    (nonneg : NonNegative allowed) (history : List Attempt) (disk : Disk) (p : BaselineEntry)
    (found : entryAt place id disk = some p) (jitters : 0 < p.maxJitter)
    (kept : Clean (fun disk attempt => some (step dir disk attempt))
      (Forgets dir place id allowed) disk history) :
    ∃ q, entryAt place id (history.foldl (step dir) disk) = some q ∧
      Within allowed (replaced dir place disk history) p q := by
  induction history generalizing disk p with
  | nil => exact ⟨p,found,Within.none p⟩
  | cons attempt rest ih =>
    obtain ⟨first,later⟩ := kept
    obtain ⟨q,held,shakes,moved⟩ := step_within found jitters first
    obtain ⟨r,last,within⟩ := ih (step dir disk attempt) q held shakes (later _ rfl)
    exact ⟨r,last,moved.trans nonneg within⟩

theorem default_nonneg : NonNegative {} := ⟨by norm_num,by norm_num,by norm_num⟩

theorem drift_bounded_growing :
    ∃ q, entryAt (resolvePath "baselines" "s" "lossy") "bot-1"
        ([growing {} 3 1 1,growing {} 3 1 2].foldl (step "baselines")
          (step "baselines" blank (growing {} 3 1 0))) = some q ∧
      Within {} (replaced "baselines" (resolvePath "baselines" "s" "lossy")
        (step "baselines" blank (growing {} 3 1 0)) [growing {} 3 1 1,growing {} 3 1 2])
        (grownEntry {} 3 1 0) q := by
  have first : entryAt (resolvePath "baselines" "s" "lossy") "bot-1"
      (step "baselines" blank (growing {} 3 1 0)) = some (grownEntry {} 3 1 0) := by decide +kernel
  have measured : ∀ attempt ∈ [growing {} 3 1 1,growing {} 3 1 2],
      Measures "bot-1" {} attempt.run := by
    simp only [List.forall_mem_cons,growing_measures default_nonneg zero_lt_one,List.not_mem_nil,
      false_imp_iff,implies_true,and_true]
  exact drift_bounded "baselines" _ "bot-1" default_nonneg _ _ _ first
    (shakes_pos default_nonneg zero_lt_one 0) (measured_clean measured _)

section reached
variable (dir : String)

theorem replaced_append (place : Path) (before after : List Attempt) (disk : Disk) :
    replaced dir place disk (before ++ after) =
      replaced dir place disk before + replaced dir place (before.foldl (step dir) disk) after := by
  induction before generalizing disk with
  | nil => rw [List.nil_append,replaced,zero_add,List.foldl_nil]
  | cons attempt rest ih => rw [List.cons_append,replaced,replaced,List.foldl_cons,ih,add_assoc]

def creeping (allowed : RegressionThresholds) (first : Nat) (shake : ℚ) (n : Nat) : List Attempt :=
  (List.range (n + 1)).map (growing allowed first shake)

variable {allowed : RegressionThresholds} {first : Nat} {shake : ℚ} (nonneg : NonNegative allowed)

theorem creeping_succ (n : Nat) : creeping allowed first shake (n + 1) =
    creeping allowed first shake n ++ [growing allowed first shake (n + 1)] := by
  rw [creeping,creeping,List.range_succ,List.map_append]
  rfl

include nonneg

theorem creeping_fits (n : Nat) (room : swaps allowed first n + 1 < 2^64) :
    ∀ attempt ∈ creeping allowed first shake n,Fits attempt := by
  intro attempt member e inside
  obtain ⟨k,before,rfl⟩ := List.mem_map.mp member
  have only : e = ⟨"bot-1",heard allowed first shake k⟩ := List.mem_singleton.mp inside
  have fewer : swaps allowed first k ≤ swaps allowed first n :=
    swaps_mono nonneg (Nat.le_of_lt_succ (List.mem_range.mp before))
  subst only
  refine ⟨?_,Nat.two_pow_pos 64,?_⟩
  · change swaps allowed first k + 1 < 2^64
    omega
  · change swaps allowed first k < 2^64
    omega

theorem creeping_saved (shaky : 0 < shake) (disordered : 0 < first) (n : Nat) :
    replaced dir (resolvePath dir "s" "lossy") blank (creeping allowed first shake n) = n + 1 ∧
      entryAt (resolvePath dir "s" "lossy") "bot-1"
          ((creeping allowed first shake n).foldl (step dir) blank) =
        some (grownEntry allowed first shake n) := by
  induction n with
  | zero =>
    have saved : saves dir blank (growing allowed first shake 0) = true :=
      growing_saved dir rfl (heard_first allowed first shake)
    exact ⟨if_pos ⟨saved,rfl⟩,growing_entry nonneg shaky dir 0 blank saved⟩
  | succ n ih =>
    obtain ⟨count,entry⟩ := ih
    have saved := growing_saved dir entry (heard_kept nonneg shaky disordered n)
    rw [creeping_succ,replaced_append,count,List.foldl_concat]
    refine ⟨?_,growing_entry nonneg shaky dir (n + 1) _ saved⟩
    exact congrArg (n + 1 + ·) (if_pos ⟨saved,rfl⟩)

/-- From no files at all and from any first run, as long as the counters have room: each
run passes and is saved, at the end jitter and disorder have grown by all that is allowed
at each, and the next run may again grow by no more. -/
theorem drift_reached (shaky : 0 < shake) (disordered : 0 < first) (n : Nat)
    (room : swaps allowed first n + 1 < 2^64) :
    (∀ attempt ∈ creeping allowed first shake n,Fits attempt) ∧
    replaced dir (resolvePath dir "s" "lossy") blank (creeping allowed first shake n) = n + 1 ∧
    entryAt (resolvePath dir "s" "lossy") "bot-1"
        ((creeping allowed first shake n).foldl (step dir) blank) =
      some (grownEntry allowed first shake n) ∧
    ∀ m, (∀ metric ∈ regressionMetrics m (some (grownEntry allowed first shake n)) allowed,
        metric.verdict ≠ .regressed) →
      m.maxJitter ≤ shakes allowed shake (n + 1) ∧ m.totalOoo ≤ swaps allowed first (n + 1) := by
  obtain ⟨count,entry⟩ := creeping_saved dir nonneg shaky disordered n
  refine ⟨creeping_fits nonneg n room,count,entry,?_⟩
  intro m kept
  exact grown_most (shakes_pos nonneg shaky n) kept

end reached

theorem drift_reached_default :
    replaced "baselines" (resolvePath "baselines" "s" "lossy") blank (creeping {} 3 1 10) = 11 ∧
      entryAt (resolvePath "baselines" "s" "lossy") "bot-1"
        ((creeping {} 3 1 10).foldl (step "baselines") blank) = some (grownEntry {} 3 1 10) := by
  have reached := drift_reached "baselines" default_nonneg (zero_lt_one : (0 : ℚ) < 1)
    (by decide : 0 < 3) 10 (by decide +kernel)
  exact ⟨reached.2.1,reached.2.2.1⟩

section engine
open Scenario.Engine Scenario.Result
variable (scenario : ScenarioDef) (around : Surroundings scenario)

/-- A run of the engine, as it comes to the disk. -/
def attemptOf : Attempt := ⟨judgeInput scenario around,around.now,around.writable⟩

/-- The engine that finds the file of its path there judges by it and leaves what
the step leaves. -/
theorem engine_attempt (dir : String) (disk : Disk)
    (loads : around.baselines (baselinePath scenario) =
      tryLoad dir disk.files scenario.name (profileName scenario)) :
    (Scenario.Result.run scenario around).report =
        judgeAttempt dir disk (attemptOf scenario around) ∧
      (Scenario.Result.run scenario around).baselines (baselinePath scenario) =
        tryLoad dir (step dir disk (attemptOf scenario around)).files scenario.name
          (profileName scenario) := by
  have judged : report scenario around = judgeAttempt dir disk (attemptOf scenario around) :=
    congrArg ((judgeInput scenario around).report · around.now) loads
  refine ⟨judged,?_⟩
  change savedBaselines scenario around _ _ = _
  have guarded : (shouldUpdate (judgeAttempt dir disk (attemptOf scenario around)) &&
      around.writable) = saves dir disk (attemptOf scenario around) := rfl
  rw [savedBaselines,judged,guarded,step]
  by_cases saved : saves dir disk (attemptOf scenario around) = true
  · rw [if_pos saved,if_pos saved,Function.update_self]
    exact (save_loads disk _ rfl).symm
  · rw [if_neg saved,if_neg saved]
    exact loads

end engine

end Oxlab.BaselineDrift
