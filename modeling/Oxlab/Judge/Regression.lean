import Mathlib.Algebra.Order.Field.Rat
import Mathlib.Data.List.Dedup
import Mathlib.Data.List.Sort
import Mathlib.Data.String.Basic
import Oxlab.Judge.Checkpoint
import Oxlab.Library.Table

/-! The judge of a run: checkpoint counts, metrics against a baseline, and the
baseline made of a report. Percentages, ratios and jitter are kept in exact
arithmetic; the 64-bit counters are natural numbers. -/
namespace Oxlab.Judge
open Library

inductive RegressionVerdict
  | stable
  | improved
  | regressed
  | noBaseline
  deriving DecidableEq

def RegressionVerdict.text : RegressionVerdict → String
  | .stable => "STABLE"
  | .improved => "IMPROVED"
  | .regressed => "REGRESS"
  | .noBaseline => "NO_BASELINE"

structure RegressionThresholds where
  lossRateDelta : ℚ := 2
  jitterIncreaseRatio : ℚ := 1/2
  oooIncreaseRatio : ℚ := 1
  floorGrantLatencyDeltaMs : ℚ := 100

namespace RegressionThresholds

def strict : RegressionThresholds where
  lossRateDelta := 1/2
  jitterIncreaseRatio := 1/5
  oooIncreaseRatio := 1/2
  floorGrantLatencyDeltaMs := 50

/-- `load` reads a file of the judgements directory. -/
def resolve (load : String → Option RegressionThresholds) (name : String) : RegressionThresholds :=
  if name = "default" then {}
  else if name = "strict" then strict
  else (load (name ++ ".toml")).getD {}

end RegressionThresholds

structure StreamInput where
  ssrc : UInt32
  pt : UInt8
  packetsReceived : Nat
  packetsLost : Nat
  outOfOrder : Nat
  jitter : ℚ

structure RecvInput where
  totalPackets : Nat
  totalLost : Nat
  totalOoo : Nat
  streams : List StreamInput

structure BaselineEntry where
  participantId : String
  lossRatePercent : ℚ
  maxJitter : ℚ
  totalOoo : Nat
  deriving DecidableEq

structure BaselineFile where
  scenario : String
  profile : String
  timestamp : String
  participants : List BaselineEntry
  deriving DecidableEq

namespace BaselineFile

def find (b : BaselineFile) (participantId : String) : Option BaselineEntry :=
  b.participants.find? (·.participantId = participantId)

def baselineKey (scenario profile : String) : String := scenario ++ "__" ++ profile

end BaselineFile

structure Layer1Result where
  checkpoints : List CheckpointResult
  verdict : Verdict
  passed : Nat
  failed : Nat
  skipped : Nat

def judgeLayer1 (checkpoints : List CheckpointResult) (totalApplicable : Nat) : Layer1Result :=
  let passed := checkpoints.countP (·.verdict = .pass)
  let failed := checkpoints.countP (·.verdict = .fail)
  { checkpoints := checkpoints
    verdict := if 0 < failed then .fail else .pass
    passed := passed
    failed := failed
    skipped := totalApplicable - (passed + failed) }

structure RegressionMetric where
  name : String
  current : ℚ
  baseline : Option ℚ
  delta : Option ℚ
  threshold : ℚ
  verdict : RegressionVerdict

structure ParticipantMetrics where
  totalPackets : Nat
  totalLost : Nat
  lossRatePercent : ℚ
  maxJitter : ℚ
  totalOoo : Nat

def RecvInput.metrics (recv : RecvInput) : ParticipantMetrics :=
  let total := recv.totalPackets + recv.totalLost
  { totalPackets := recv.totalPackets
    totalLost := recv.totalLost
    lossRatePercent := if 0 < total then (recv.totalLost : ℚ) / total * 100 else 0
    maxJitter := (recv.streams.map (·.jitter)).foldl max 0
    totalOoo := recv.totalOoo }

def changeVerdict (delta threshold : ℚ) : RegressionVerdict :=
  if threshold < delta then .regressed
  else if delta < -threshold then .improved
  else .stable

section metrics
variable (m : ParticipantMetrics) (prev : Option BaselineEntry) (thresholds : RegressionThresholds)

-- loss rate, by difference
def lossMetric : RegressionMetric :=
  let delta := prev.map (fun p => m.lossRatePercent - p.lossRatePercent)
  { name := "loss_rate"
    current := m.lossRatePercent
    baseline := prev.map (·.lossRatePercent)
    delta := delta
    threshold := thresholds.lossRateDelta
    verdict := (delta.map (changeVerdict · thresholds.lossRateDelta)).getD .noBaseline }

-- jitter, by ratio; a baseline without jitter says nothing
def jitterMetric : RegressionMetric :=
  let (verdict,delta) : RegressionVerdict × Option ℚ :=
    match prev with
    | none => (.noBaseline,none)
    | some p =>
      if 0 < p.maxJitter then
        let ratio := (m.maxJitter - p.maxJitter) / p.maxJitter
        (changeVerdict ratio thresholds.jitterIncreaseRatio,some ratio)
      else (.stable,some 0)
  { name := "jitter"
    current := m.maxJitter
    baseline := prev.map (·.maxJitter)
    delta := delta
    threshold := thresholds.jitterIncreaseRatio
    verdict := verdict }

-- out of order, by ratio; over a baseline without any, one is too many
def oooMetric : RegressionMetric :=
  let (verdict,delta) : RegressionVerdict × Option ℚ :=
    match prev with
    | none => (.noBaseline,none)
    | some p =>
      if 0 < p.totalOoo then
        let ratio := ((m.totalOoo : ℚ) - p.totalOoo) / p.totalOoo
        (changeVerdict ratio thresholds.oooIncreaseRatio,some ratio)
      else if 0 < m.totalOoo then (.regressed,some m.totalOoo)
      else (.stable,some 0)
  { name := "ooo"
    current := m.totalOoo
    baseline := prev.map (fun p => (p.totalOoo : ℚ))
    delta := delta
    threshold := thresholds.oooIncreaseRatio
    verdict := verdict }

def regressionMetrics : List RegressionMetric :=
  [lossMetric m prev thresholds,jitterMetric m prev thresholds,oooMetric m prev thresholds]

end metrics

structure Layer2Participant where
  id : String
  metrics : ParticipantMetrics
  regression : List RegressionMetric
  verdict : RegressionVerdict

structure Layer2Result where
  participants : List Layer2Participant
  verdict : RegressionVerdict

def judgeParticipant (baseline : Option BaselineFile) (thresholds : RegressionThresholds)
    (id : String) (recv : RecvInput) : Layer2Participant :=
  let metrics := recv.metrics
  let regression := regressionMetrics metrics (baseline.bind (·.find id)) thresholds
  { id := id
    metrics := metrics
    regression := regression
    verdict :=
      if regression.any (·.verdict = .regressed) then .regressed
      else if baseline.isNone then .noBaseline
      else if regression.any (·.verdict = .improved) then .improved
      else .stable }

def judgeLayer2 (participants : Table String RecvInput) (baseline : Option BaselineFile)
    (thresholds : RegressionThresholds) (errors : List String) : Layer2Result :=
  let judged := participants.entries.map (fun e => judgeParticipant baseline thresholds e.1 e.2)
  let sorted := judged.insertionSort (fun a b => a.id ≤ b.id)
  { participants := sorted
    verdict :=
      if judged.any (·.verdict = .regressed) || !errors.isEmpty then .regressed
      else if baseline.isNone then .noBaseline
      else if sorted.any (·.verdict = .improved) then .improved
      else .stable }

structure JudgeReport where
  scenario : String
  profile : String
  timestamp : String
  layer1 : Layer1Result
  layer2 : Layer2Result
  overall : Verdict
  summary : String
  errors : List String

def layer1Summary (layer1 : Layer1Result) : String :=
  let count := "L1:" ++ toString layer1.passed ++ "/" ++ toString (layer1.passed + layer1.failed)
  if 0 < layer1.failed then
    count ++ "[FAIL:" ++
      ",".intercalate ((layer1.checkpoints.filter (·.verdict = .fail)).map (·.id)) ++ "]"
  else count

/-- The names go through a hash set; they are listed here in the order they come. -/
def layer2Summary (layer2 : Layer2Result) : String :=
  match layer2.verdict with
  | .regressed =>
    let names := ((layer2.participants.flatMap (·.regression)).filter (·.verdict = .regressed)).map
      (·.name)
    "L2:REGRESS[" ++ ",".intercalate names.dedup ++ "]"
  | verdict => "L2:" ++ verdict.text

/-- `timestamp` is the clock reading the report is stamped with. -/
def judge (scenario profile timestamp : String) (checkpoints : List CheckpointResult)
    (totalApplicable : Nat) (recvInputs : Table String RecvInput) (baseline : Option BaselineFile)
    (thresholds : RegressionThresholds) (errors : List String) : JudgeReport :=
  let layer1 := judgeLayer1 checkpoints totalApplicable
  let layer2 := judgeLayer2 recvInputs baseline thresholds errors
  { scenario := scenario
    profile := profile
    timestamp := timestamp
    layer1 := layer1
    layer2 := layer2
    overall :=
      if layer1.verdict = .fail then .fail
      else if layer2.verdict = .regressed then .fail
      else .pass
    summary := layer1Summary layer1 ++ " " ++ layer2Summary layer2
    errors := errors }

def createBaseline (report : JudgeReport) : BaselineFile where
  scenario := report.scenario
  profile := report.profile
  timestamp := report.timestamp
  participants := report.layer2.participants.map (fun p =>
    ⟨p.id,p.metrics.lossRatePercent,p.metrics.maxJitter,p.metrics.totalOoo⟩)

/-- The condition under which a run replaces its baseline. -/
def shouldUpdate (report : JudgeReport) : Bool :=
  decide (report.layer1.verdict = .pass) && decide (report.layer2.verdict ≠ .regressed)

section judge
variable (scenario profile timestamp : String) (checkpoints : List CheckpointResult)
  (totalApplicable : Nat) (recvInputs : Table String RecvInput) (baseline : Option BaselineFile)
  (thresholds : RegressionThresholds) (errors : List String)

/-- An error in the list fails the run, whatever was measured, and keeps its
baseline as it was. -/
theorem judge_errors (reported : errors ≠ []) :
    let report := judge scenario profile timestamp checkpoints totalApplicable recvInputs baseline
      thresholds errors
    report.layer2.verdict = .regressed ∧ report.overall = .fail ∧ shouldUpdate report = false := by
  have some_error : (!errors.isEmpty) = true := by simpa using reported
  have regressed : (judgeLayer2 recvInputs baseline thresholds errors).verdict = .regressed := by
    rw [judgeLayer2,some_error,Bool.or_true,if_pos rfl]
  refine ⟨regressed,?_,?_⟩
  · simp only [judge,regressed]
    split <;> rfl
  · simp [shouldUpdate,judge,regressed]

end judge
end Oxlab.Judge
