import Oxlab.Scenario.Result

/-! Failed steps of a script and the errors that fail its run.
The judge fails a run over the errors the handlers collect. Some handlers only
write a log line: a run whose failures are all of that kind passes. -/
namespace Oxlab.ScriptErrors
open Bot.RtpSubscriber Judge Scenario.Engine Scenario.Result Library Relation

variable {n : Nat}

def ScriptFailed (e : EngineState n) : Prop := ∃ entry ∈ e.log, entry.step.fails = true

/-- Some failed step was one that its handler tells of. -/
def FailureTold (e : EngineState n) : Prop :=
  ∃ entry ∈ e.log, entry.step.fails = true ∧ entry.told = true

theorem errors_iff {e : EngineState n} (ran : ReflTransGen Move {} e) :
    e.errors = [] ↔ ∀ entry ∈ e.log, entry.pushes = false := by
  apply Run.chain_keeps
    (fun e => e.errors = [] ↔ ∀ entry ∈ e.log, entry.pushes = false) _ ran (by simp)
  intro e next counted move
  cases move with
  | waited clock => exact counted
  | took entry texts clock telling =>
    rw [List.append_eq_nil_iff,counted,telling,List.forall_mem_append,List.forall_mem_singleton]

theorem failureTold_iff {e : EngineState n} (ran : ReflTransGen Move {} e) :
    e.errors ≠ [] ↔ FailureTold e := by
  rw [ne_eq,errors_iff ran,FailureTold]
  simp [Logged.pushes]

/-- A run whose script failed has errors and the verdicts that follow exactly when
some failed step was of a kind that its handler tells of. -/
theorem failed_run_iff (scenario : ScenarioDef) (around : Surroundings scenario) :
    (ScriptFailed (judged scenario around) →
        (run scenario around).errors ≠ [] ∧
          (run scenario around).report.layer2.verdict = .regressed ∧
          (run scenario around).report.overall = .fail ∧
          (run scenario around).baselines = around.baselines) ↔
      (ScriptFailed (judged scenario around) → FailureTold (judged scenario around)) := by
  have told : (run scenario around).errors ≠ [] ↔ FailureTold (judged scenario around) :=
    failureTold_iff (run_moves scenario around.responses)
  constructor
  · intro judged failed
    exact told.mp (judged failed).1
  · intro covered failed
    have errors := told.mpr (covered failed)
    exact ⟨errors,run_errors scenario around errors⟩

def misspelled : ScenarioDef where
  name := "typo"
  participants := [{ id := "bot-1", profile := "field_lte" }]
  actions := [{ atSec := 0, actionType := .pttRequest, actor := some "bot_1" }]

/-- A conference over a lossy profile in which no bot saw anything: every
checkpoint is skipped. -/
def quiet : Surroundings misspelled where
  responses := fun _ => {}
  snapshots := fun _ => ⟨0,0,0,0,[]⟩
  observations := fun _ => {}
  evaluate := fun _ _ _ _ => []
  totalApplicable := 21
  judgements := fun _ => none
  baselines := fun _ => none
  writable := true
  now := "0s"

/-- The actor of a request is no participant: nothing ran, and the run passes and
becomes the baseline. -/
theorem misspelled_passes :
    ScriptFailed (judged misspelled quiet) ∧ (run misspelled quiet).errors = [] ∧
      (run misspelled quiet).report.overall = .pass ∧
      ((run misspelled quiet).baselines (baselinePath misspelled)).isSome := by
  have failed : (judged misspelled quiet).log.any (·.step.fails) = true := by
    decide +kernel
  have silent : (run misspelled quiet).errors = [] := by
    decide +kernel
  exact ⟨List.any_eq_true.mp failed,silent,by decide +kernel,by decide +kernel⟩

end Oxlab.ScriptErrors
