import Oxlab.Bot.Subscribe
import Oxlab.Bot.RtpPublisher
import Oxlab.Common.Mbcp

/-! The two consumers of the FLOOR_MBCP buffer: the event handler and the wait
inside a floor request. Besides the state they share with the receive task, the
messages that some branch acted on are logged. -/
namespace Oxlab.Bot.Floor
open Common.Media Common.Mbcp Subscribe

/-- The body that `floor_request_ws` sends; the priority is only recorded. -/
def floorRequestWsBody (rtpConfig : RtpPublisher.RtpPublisherConfig) (_priority : UInt8) : Bytes :=
  buildFreq rtpConfig.audioSsrc

def floorReleaseWsBody (rtpConfig : RtpPublisher.RtpPublisherConfig) : Bytes :=
  buildFrel rtpConfig.audioSsrc

inductive FloorKind
  | ftkn
  | fidl
  | frvk
  deriving DecidableEq

def floorKind (raw : Bytes) : Option FloorKind :=
  match parse raw with
  | none => none
  | some msg =>
    if msg.subtype = subtypeFtkn then some .ftkn
    else if msg.subtype = subtypeFidl then some .fidl
    else if msg.subtype = subtypeFrvk then some .frvk
    else none

structure FloorBody where
  raw : Bytes
  kind : FloorKind
  parsed : floorKind raw = some kind
  deriving DecidableEq

namespace FloorBody

def ftkn : FloorBody := ⟨[0x82,204,0,2,0,0,0,7,77,66,67,80],.ftkn,by decide⟩

def fidl : FloorBody := ⟨[0x83,204,0,2,0,0,0,7,77,66,67,80],.fidl,by decide⟩

end FloorBody

/-- The floor arms of `process_events`. -/
def onFloor (task : SubTask) : FloorKind → SubTask
  | .ftkn => { task with floorState := { task.floorState with
      floorIdle := false
      speakerJustChanged := true
      floorJustReleased := false } }
  | .fidl => { task with floorState := { task.floorState with
      floorIdle := true
      floorJustReleased := true } }
  | .frvk => { task with observations := task.observations.recordFloorRevoke }

structure Handled where
  task : SubTask
  acted : List Bytes := []

namespace Handled

def processOne (s : Handled) (raw : Bytes) : Handled :=
  match floorKind raw with
  | none => s
  | some kind => ⟨onFloor s.task kind,s.acted ++ [raw]⟩

def processEvents (s : Handled) (drained : List Bytes) : Handled := drained.foldl processOne s

/-- One drain by `await_floor_taken`: it returns at the first FTKN, and what was
drained behind it goes with the loop. -/
def awaitFloorTaken (s : Handled) : List Bytes → Bool × Handled
  | [] => (false,s)
  | raw::rest =>
    if floorKind raw = some .ftkn then
      (true,⟨{ s.task with floorState := { s.task.floorState with floorIdle := false } },
        s.acted ++ [raw]⟩)
    else s.awaitFloorTaken rest

end Handled

section onFloor
variable (task : SubTask)

@[simp] theorem onFloor_ptt (kind : FloorKind) : (onFloor task kind).ptt = task.ptt := by
  cases kind <;> rfl

theorem onFloor_floorState (kind : FloorKind) : (onFloor task kind).floorState =
    match kind with
    | .ftkn => { task.floorState with
        floorIdle := false, speakerJustChanged := true, floorJustReleased := false }
    | .fidl => { task.floorState with floorIdle := true, floorJustReleased := true }
    | .frvk => task.floorState := by
  cases kind <;> rfl

@[simp] theorem tally_onFloor (kind : FloorKind) :
    tally (onFloor task kind).observations = tally task.observations := by
  cases kind <;> rfl

end onFloor

def lastTurn (kinds : List FloorKind) : Option FloorKind := (kinds.filter (· ≠ .frvk)).getLast?

theorem lastTurn_append (before after : List FloorKind) :
    lastTurn (before++after) = (lastTurn after).or (lastTurn before) := by
  rw [lastTurn,List.filter_append,List.getLast?_append]
  rfl

theorem lastTurn_ne_frvk (kinds : List FloorKind) : lastTurn kinds ≠ some .frvk := by
  intro last
  have member := List.mem_of_getLast? last
  simp at member

/-- The flag that a stream of turns leaves, over the one it met. -/
def freed (before : Bool) (kinds : List FloorKind) : Bool :=
  (lastTurn kinds).elim before (· == .fidl)

theorem freed_append (before : Bool) (first second : List FloorKind) :
    freed before (first++second) = freed (freed before first) second := by
  rw [freed,freed,freed,lastTurn_append]
  cases lastTurn second <;> rfl

theorem freed_true (kinds : List FloorKind) :
    freed true kinds = true ↔ lastTurn kinds ≠ some .ftkn := by
  cases turn : lastTurn kinds with
  | none => simp [freed,turn]
  | some kind =>
    cases kind with
    | ftkn => simp [freed,turn]
    | fidl => simp [freed,turn]
    | frvk => exact absurd turn (lastTurn_ne_frvk kinds)

theorem freed_false (kinds : List FloorKind) :
    freed false kinds = true ↔ lastTurn kinds = some .fidl := by
  cases turn : lastTurn kinds with
  | none => simp [freed,turn]
  | some kind => simp [freed,turn]

theorem onFloor_flags (task : SubTask) (kind : FloorKind) :
    (onFloor task kind).floorState.floorIdle = freed task.floorState.floorIdle [kind] ∧
      (onFloor task kind).floorState.floorJustReleased =
        freed task.floorState.floorJustReleased [kind] ∧
      ((onFloor task kind).observations.floorRevokeReceived = true ↔
        task.observations.floorRevokeReceived = true ∨ .frvk = kind) := by
  cases kind with
  | ftkn => exact ⟨rfl,rfl,by simp [onFloor]⟩
  | fidl => exact ⟨rfl,rfl,by simp [onFloor]⟩
  | frvk => exact ⟨rfl,rfl,by simp [onFloor,Bot.Observations.ObservationsInner.recordFloorRevoke]⟩

section drain
variable (s : Handled)

theorem processEvents_flags (bodies : List FloorBody) :
    let next := s.processEvents (bodies.map (·.raw))
    let kinds := bodies.map (·.kind)
    next.task.floorState.floorIdle = freed s.task.floorState.floorIdle kinds ∧
      next.task.floorState.floorJustReleased = freed s.task.floorState.floorJustReleased kinds ∧
      (next.task.observations.floorRevokeReceived = true ↔
        s.task.observations.floorRevokeReceived = true ∨ .frvk ∈ kinds) ∧
      next.acted = s.acted ++ bodies.map (·.raw) := by
  induction bodies generalizing s with
  | nil => simp [Handled.processEvents,freed,lastTurn]
  | cons body rest ih =>
    have first : s.processOne body.raw = ⟨onFloor s.task body.kind,s.acted ++ [body.raw]⟩ := by
      simp only [Handled.processOne,body.parsed]
    have turn (before : Bool) : freed before (body.kind::rest.map (·.kind)) =
        freed (freed before [body.kind]) (rest.map (·.kind)) := freed_append before [body.kind] _
    obtain ⟨idle,released,revoked⟩ := onFloor_flags s.task body.kind
    have later := ih (s.processOne body.raw)
    simp only [first,idle,released,revoked,or_assoc] at later
    simp only [Handled.processEvents,List.map_cons,List.foldl_cons,turn,List.mem_cons,first]
    simpa [Handled.processEvents] using later

theorem processOne_observed (raw : Bytes) :
    (s.processOne raw).task.ptt = s.task.ptt ∧
      tally (s.processOne raw).task.observations = tally s.task.observations := by
  unfold Handled.processOne
  split
  next => exact ⟨rfl,rfl⟩
  next kind _ => exact ⟨onFloor_ptt s.task kind,tally_onFloor s.task kind⟩

theorem processEvents_observed (drained : List Bytes) :
    (s.processEvents drained).task.ptt = s.task.ptt ∧
      tally (s.processEvents drained).task.observations = tally s.task.observations := by
  induction drained generalizing s with
  | nil => exact ⟨rfl,rfl⟩
  | cons raw rest ih =>
    obtain ⟨ptt,same⟩ := processOne_observed s raw
    obtain ⟨later,kept⟩ := ih (s.processOne raw)
    exact ⟨later.trans ptt,kept.trans same⟩

theorem awaitFloorTaken_task (bodies : List FloorBody) :
    (s.awaitFloorTaken (bodies.map (·.raw))).2.task =
      if .ftkn ∈ bodies.map (·.kind) then
        { s.task with floorState := { s.task.floorState with floorIdle := false } }
      else s.task := by
  induction bodies with
  | nil => simp [Handled.awaitFloorTaken]
  | cons body rest ih =>
    simp only [List.map_cons,Handled.awaitFloorTaken,body.parsed,Option.some.injEq,List.mem_cons]
    split
    next grant => simp [grant]
    next other => simpa [Ne.symm other] using ih

end drain
end Oxlab.Bot.Floor
