import Oxlab.Judge.Gate
import Oxlab.Scenario.Engine
import Oxlab.Scenario.Evaluate

/-! A whole run of a scenario: its timeline, what the bots measured, the verdict,
and the baseline that it may replace. -/
namespace Oxlab.Scenario.Result
open Bot.Lifecycle Bot.Observations Bot.RtpSubscriber CheckpointEval Engine Evaluate Judge Library

variable (scenario : ScenarioDef)

/-- What the run finds outside: the answers to its calls, what each bot measured,
the evaluation of the checkpoints and their number, the threshold and baseline files,
whether a file can be written, and the time. -/
structure Surroundings where
  responses : Nat → Response
  snapshots : Place scenario → RecvSnapshot
  observations : Place scenario → ObservationsInner
  evaluate : Table String RecvSnapshot → BotObservations → String → String → List CheckpointResult
  totalApplicable : Nat
  judgements : String → Option RegressionThresholds
  baselines : String → Option BaselineFile
  writable : Bool
  now : String

structure ScenarioResult where
  scenarioName : String
  recvSnapshots : Table String RecvSnapshot
  errors : List String
  report : JudgeReport
  baselines : String → Option BaselineFile

def collect {ν : Type} (kept : Place scenario → Bool) (held : Place scenario → ν) :
    Table String ν :=
  (List.finRange _).foldl (fun table i =>
    let id := (scenario.participants.get i).id
    if botIndex scenario id = some i ∧ kept i then table.insert id (held i) else table) ∅

def streamInput (s : SsrcRecvMetrics) : StreamInput :=
  ⟨s.ssrc,s.pt,s.packetsReceived,s.packetsLost,s.outOfOrder,s.jitter⟩

def recvInput (snap : RecvSnapshot) : RecvInput :=
  ⟨snap.totalPackets,snap.totalLost,snap.totalOoo,snap.streams.map streamInput⟩

def profileName : String := (scenario.participants.head?.map (·.profile)).getD "unknown"

def baselinePath : String :=
  BaselineFile.baselineKey scenario.name (profileName scenario) ++ ".json"

def thresholds (load : String → Option RegressionThresholds) : RegressionThresholds :=
  match scenario.judgement with
  | some name => RegressionThresholds.resolve load name
  | none => {}

/-- The categories a scenario names; unknown names are left out. -/
def categories (names : List String) : List CheckpointCategory :=
  if names.isEmpty then [] else names.filterMap CheckpointCategory.fromStrLoose

def applicableDefs (categories : List CheckpointCategory) : List CheckpointDef :=
  if categories.isEmpty then registry else findByCategories categories

theorem applicable_sublist (categories : List CheckpointCategory) :
    (applicableDefs categories).Sublist registry := by
  unfold applicableDefs findByCategories
  split
  next => exact List.Sublist.refl registry
  next => exact List.filter_sublist

variable (around : Surroundings scenario)

/-- Surroundings whose evaluation is the scenario's own. -/
def Surroundings.evaluated (orders : Orders) : Surroundings scenario :=
  let selected := categories scenario.categories
  { around with
    evaluate := fun snapshots observations mode profile =>
      Evaluate.evaluate orders snapshots observations mode profile selected
    totalApplicable := (applicableDefs selected).length }

/-- The engine when the judge is called. -/
def judged : ScenarioEngine scenario :=
  disconnectAll scenario around.responses (timeline scenario around.responses)

/-- Only bots that publish when the script is through have metrics. -/
def recvSnapshots : Table String RecvSnapshot :=
  let e := timeline scenario around.responses
  collect scenario (fun i => (e.bots i).status == .publishing) around.snapshots

def report : JudgeReport :=
  let snapshots := recvSnapshots scenario around
  let observations := collect scenario (fun _ => true) around.observations
  let profile := profileName scenario
  judge scenario.name profile around.now
    (around.evaluate snapshots observations scenario.mode profile) around.totalApplicable
    (snapshots.mapValues recvInput) (around.baselines (baselinePath scenario))
    (thresholds scenario around.judgements) (judged scenario around).errors

/-- What the run hands to the judge. -/
def judgeInput : JudgeInput where
  scenario := scenario.name
  profile := profileName scenario
  checkpoints := around.evaluate (recvSnapshots scenario around)
    (collect scenario (fun _ => true) around.observations) scenario.mode (profileName scenario)
  totalApplicable := around.totalApplicable
  recvInputs := (recvSnapshots scenario around).mapValues recvInput
  thresholds := thresholds scenario around.judgements
  errors := (judged scenario around).errors

def savedBaselines (report : JudgeReport) : String → Option BaselineFile :=
  if shouldUpdate report && around.writable then
    Function.update around.baselines (baselinePath scenario) (some (createBaseline report))
  else around.baselines

def run : ScenarioResult where
  scenarioName := scenario.name
  recvSnapshots := recvSnapshots scenario around
  errors := (judged scenario around).errors
  report := report scenario around
  baselines := savedBaselines scenario around (report scenario around)

theorem run_errors (told : (run scenario around).errors ≠ []) :
    (run scenario around).report.layer2.verdict = .regressed ∧
      (run scenario around).report.overall = .fail ∧
      (run scenario around).baselines = around.baselines := by
  obtain ⟨regressed,failed,kept⟩ := judge_errors scenario.name (profileName scenario) around.now
    (around.evaluate _ _ scenario.mode (profileName scenario)) around.totalApplicable
    ((recvSnapshots scenario around).mapValues recvInput) (around.baselines (baselinePath scenario))
    (thresholds scenario around.judgements) _ told
  have unchanged : shouldUpdate (report scenario around) = false := kept
  refine ⟨regressed,failed,?_⟩
  rw [run,savedBaselines,unchanged]
  rfl

end Oxlab.Scenario.Result
