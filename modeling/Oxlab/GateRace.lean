import Oxlab.Bot.Subscribe
import Oxlab.Library.Run
import Oxlab.Scenario.CheckpointEval

/-! The subscriber gate and the flag that L1-11 is judged by.
The server opens its gate when TRACKS_READY reaches it; the bot stores the flag
only after the reply has come back over the other channel. Video relayed in
between may reach the receive task first. -/
namespace Oxlab.GateRace
open Common.Media Bot.Subscribe Judge Library Scenario.CheckpointEval

inductive Phase
  | idle
  | awaiting
  | acked
  | marked
  deriving DecidableEq

/-- The handler, the server's gate, what is in flight on the WebSocket each way
and on UDP (packets by their plaintext), and the receive task. -/
structure GateState where
  phase : Phase := .idle
  requests : Nat := 0
  replies : Nat := 0
  resumed : Bool := false
  media : List Bytes := []
  task : SubTask

inductive Label
  | sendReady
  | gateResumes
  | relay (pkt : Bytes)
  | deliver (now : Instant) (pkt : Bytes)
  | ackArrives
  | requestFails
  | markAckSent
  | storeAckSent
  deriving DecidableEq

/-- Any packet in flight may be delivered next, or never. -/
def step (s : GateState) : Label → Option GateState
  | .sendReady =>
    if s.phase = .idle then some { s with phase := .awaiting, requests := s.requests + 1 } else none
  | .gateResumes =>
    if 0 < s.requests then
      some { s with requests := s.requests - 1, replies := s.replies + 1, resumed := true }
    else none
  | .relay pkt =>
    if s.resumed ∨ ¬isVideoPacket pkt then some { s with media := s.media ++ [pkt] } else none
  | .deliver now pkt =>
    if pkt ∈ s.media then
      some { s with media := s.media.erase pkt, task := s.task.onRtp now pkt }
    else none
  | .ackArrives =>
    if s.phase = .awaiting ∧ 0 < s.replies then
      some { s with phase := .acked, replies := s.replies - 1 }
    else none
  | .requestFails => if s.phase = .awaiting then some { s with phase := .idle } else none
  | .markAckSent =>
    if s.phase = .acked then
      some { s with
        phase := .marked
        task := { s.task with observations := s.task.observations.markTracksAckSent } }
    else none
  | .storeAckSent =>
    if s.phase = .marked then
      some { s with
        phase := .idle
        task := { s.task with floorState := { s.task.floorState with ackSent := true } } }
    else none

def start (mode : String) : GateState := { task := { mode := mode } }

def NoAlarm (id : String) (d : CheckpointDef) (s : GateState) : Prop :=
  s.task.observations.videoBeforeAckCount = 0 ∧
    (evalL111 (AList.singleton id s.task.observations) d).map (·.verdict) ≠ some .fail

def deliversVideo : Label → Bool
  | .deliver _ pkt => isVideoPacket pkt
  | _ => false

/-- No video reaches the bot before it has stored the flag. -/
def AckFirst (labels : List Label) : Prop :=
  ∀ label ∈ labels.takeWhile (· != .storeAckSent), ¬deliversVideo label

instance (labels : List Label) : Decidable (AckFirst labels) := List.decidableBAll _ _

theorem noAlarm_iff (id : String) (d : CheckpointDef) (s : GateState) :
    NoAlarm id d s ↔ (tally s.task.observations).videoBeforeAck = 0 := by
  constructor
  · intro quiet
    exact quiet.1
  · intro zero
    change s.task.observations.videoBeforeAckCount = 0 at zero
    refine ⟨zero,?_⟩
    rw [evalL111_verdict]
    simp [zero]

def Early (s : GateState) (label : Label) : Prop :=
  deliversVideo label ∧ s.task.floorState.ackSent = false

theorem step_videoBeforeAck {s next : GateState} {label : Label}
    (stepped : step s label = some next) :
    (Early s label → (tally next.task.observations).videoBeforeAck =
        (tally s.task.observations).videoBeforeAck + 1) ∧
      (¬Early s label → (tally next.task.observations).videoBeforeAck =
        (tally s.task.observations).videoBeforeAck) := by
  cases label <;> simp only [step,Option.ite_none_right_eq_some,Option.some.injEq] at stepped <;>
    obtain ⟨-,rfl⟩ := stepped
  case deliver now pkt =>
    simp only [onRtp_videoBeforeAck,Early,deliversVideo]
    constructor
    · intro early
      rw [if_pos early]
    · intro late
      rw [if_neg late]
      rfl
  all_goals
    constructor
    · intro early
      simp [Early,deliversVideo] at early
    · intro _
      rfl

theorem step_ackSent {s next : GateState} {label : Label} (stepped : step s label = some next) :
    next.task.floorState.ackSent = (s.task.floorState.ackSent || label == .storeAckSent) := by
  cases label <;> simp only [step,Option.ite_none_right_eq_some,Option.some.injEq] at stepped <;>
    obtain ⟨-,rfl⟩ := stepped
  case deliver now pkt =>
    obtain ⟨_,_,ackSent⟩ := onRtp_flags s.task now pkt
    rw [ackSent,beq_false_of_ne (by simp),Bool.or_false]
  all_goals simp

theorem clean_iff (labels : List Label) (s final : GateState)
    (ran : Run.exec step s labels = some final) :
    Run.Clean step Early s labels ↔ s.task.floorState.ackSent = true ∨ AckFirst labels := by
  induction labels generalizing s with
  | nil => simp [Run.Clean,AckFirst]
  | cons label rest ih =>
    rw [Run.exec_cons] at ran
    obtain ⟨next,stepped,ran⟩ := Option.bind_eq_some_iff.mp ran
    simp only [Run.Clean,stepped,Option.some.injEq,forall_eq',ih next ran,step_ackSent stepped,
      Early,AckFirst]
    by_cases stored : s.task.floorState.ackSent
    · simp [stored]
    · by_cases stores : label = .storeAckSent
      · subst stores
        simp [stored,deliversVideo]
      · simp [stored,stores]

/-- L1-11 stays quiet through a run exactly when the run delivers no video before
the flag is stored. -/
theorem quiet_iff_ackFirst (id : String) (d : CheckpointDef) (mode : String) (labels : List Label)
    (final : GateState) (ran : Run.exec step (start mode) labels = some final) :
    Run.Always step (NoAlarm id d) (start mode) labels ↔ AckFirst labels := by
  have counted := Run.always_zero_iff_clean step (fun _ => True)
    (fun s => (tally s.task.observations).videoBeforeAck) Early (fun _ _ _ _ _ => trivial)
    (fun _ _ _ _ stepped => step_videoBeforeAck stepped) labels (start mode) final trivial rfl ran
  have quiet : NoAlarm id d = fun s => (tally s.task.observations).videoBeforeAck = 0 := by
    funext s
    exact propext (noAlarm_iff id d s)
  rw [quiet,counted,clean_iff labels (start mode) final ran]
  simp [start]

def video : Bytes := [0x80,96] ++ List.replicate 12 0

def overtaken : List Label :=
  [.sendReady,.gateResumes,.relay video,.deliver 0 video,.ackArrives,.markAckSent,.storeAckSent]

theorem overtaken_fails :
    (Run.exec step (start "conference") overtaken).map (fun s =>
        (s.task.observations.videoBeforeAckCount,
          (evalL111 (AList.singleton "bot-1" s.task.observations) .l111).map (·.verdict))) =
        some (1,some .fail) ∧
      ¬Run.Always step (NoAlarm "bot-1" .l111) (start "conference") overtaken := by
  have failed : (Run.exec step (start "conference") overtaken).map (fun s =>
      (s.task.observations.videoBeforeAckCount,
        (evalL111 (AList.singleton "bot-1" s.task.observations) .l111).map (·.verdict))) =
      some (1,some .fail) := by
    decide +kernel
  refine ⟨failed,?_⟩
  apply Run.not_always step _ _ failed
  intro s seen quiet
  have one := congrArg Prod.fst seen
  exact absurd (one.symm.trans quiet.1) (by decide)

def delayed : List Label :=
  [.sendReady,.gateResumes,.relay video,.ackArrives,.markAckSent,.storeAckSent,.deliver 0 video]

theorem quiet_iff_ackFirst_delayed :
    Run.Always step (NoAlarm "bot-1" .l111) (start "conference") delayed := by
  have runs : (Run.exec step (start "conference") delayed).isSome := by decide +kernel
  obtain ⟨final,ran⟩ := Option.isSome_iff_exists.mp runs
  refine (quiet_iff_ackFirst "bot-1" .l111 "conference" delayed final ran).mpr ?_
  decide

end Oxlab.GateRace
