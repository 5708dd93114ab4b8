import Oxlab.Common.Media

/-! The signaling session of wire v3: frames, packets and the two event buffers.
Opcode classes and JSON are third-party; what is used of them is named here. -/
namespace Oxlab.Common.Signaling
open Media

/-- The opcode classes of the wire crate and the JSON reader. Events and errors
are different classes. -/
structure Wire where
  isEvent : UInt16 → Bool
  isError : UInt16 → Bool
  apart : ∀ op, isEvent op = true → isError op = false
  Json : Type
  null : Json
  fromSlice : Bytes → Option Json

/-- Opcode classes by the high digit, and a reader that keeps the bytes. -/
def wire : Wire where
  isEvent := fun op => op.toNat / 4096 == 2
  isError := fun op => op.toNat / 4096 == 15
  apart := by
    intro op event
    rw [beq_iff_eq] at event
    rw [event]
    rfl
  Json := Bytes
  null := []
  fromSlice := some

def opFloorMbcp : UInt16 := 0x2400

inductive WireAckState
  | msg
  | ackOk
  | ackFail
  deriving DecidableEq

def WireAckState.isAck : WireAckState → Bool
  | .msg => false
  | _ => true

/-- `ackState` is none where the flags name no state. -/
structure WireHeader where
  op : UInt16
  pid : UInt32
  ackState : Option WireAckState
  deriving DecidableEq

structure RecvFrame where
  header : WireHeader
  body : Bytes
  deriving DecidableEq

structure Packet (Json : Type) where
  op : UInt16
  pid : UInt32
  ok : Option Bool
  d : Json

variable (w : Wire)

def frameToPacket (rf : RecvFrame) : Packet w.Json where
  op := rf.header.op
  pid := rf.header.pid
  ok :=
    match rf.header.ackState with
    | some .ackOk => some true
    | some .ackFail => some false
    | _ => none
  d := if rf.body = [] then w.null else (w.fromSlice rf.body).getD w.null

structure SignalingSession where
  pid : UInt32 := 1
  eventBuf : List (Packet w.Json) := []
  floorMbcpBuf : List Bytes := []

namespace SignalingSession
variable {w} (s : SignalingSession w)

/-- None where the addition would overflow. -/
def nextPid : Option (UInt32 × SignalingSession w) :=
  if s.pid.toNat + 1 < 2^32 then some (s.pid,{ s with pid := s.pid + 1 }) else none

def bufferFrame (rf : RecvFrame) : SignalingSession w :=
  if rf.header.op = opFloorMbcp then { s with floorMbcpBuf := s.floorMbcpBuf ++ [rf.body] }
  else { s with eventBuf := s.eventBuf ++ [frameToPacket w rf] }

def drainFloorMbcp : List Bytes × SignalingSession w :=
  (s.floorMbcpBuf,{ s with floorMbcpBuf := [] })

def drainEvent (op : UInt16) : Option (Packet w.Json × SignalingSession w) :=
  (s.eventBuf.find? (·.op = op)).map (fun pkt =>
    (pkt,{ s with eventBuf := s.eventBuf.eraseP (·.op = op) }))

def drainAllEvents (op : UInt16) : List (Packet w.Json) × SignalingSession w :=
  (s.eventBuf.filter (·.op = op),{ s with eventBuf := s.eventBuf.filter (·.op ≠ op) })

end SignalingSession

/-- The frames that `recv_frame` acknowledges by itself. -/
def needsAck (rf : RecvFrame) : Bool :=
  rf.header.ackState.getD .msg == .msg && w.isEvent rf.header.op && rf.header.op != opFloorMbcp

def ackHeader (rf : RecvFrame) : WireHeader := ⟨rf.header.op,rf.header.pid,some .ackOk⟩

/-- The frames that `request` takes for the answer to `op`. -/
def isAnswer (op : UInt16) (rf : RecvFrame) : Bool :=
  (rf.header.op == op && rf.header.ackState.any WireAckState.isAck) || w.isError rf.header.op

/-- What a call leaves behind: the session, the frames it took from the socket,
the packets it returned and the floor bodies it returned. -/
structure Outcome where
  session : SignalingSession w
  read : List RecvFrame := []
  packets : List (Packet w.Json) := []
  bodies : List Bytes := []

namespace SignalingSession
variable {w}

/-- Frames are buffered until one stops the loop, or no more come in time. -/
def readUntil (stop : RecvFrame → Bool) : SignalingSession w → List RecvFrame → Outcome w
  | s, [] => { session := s }
  | s, rf::rest =>
    if stop rf then { session := s, read := [rf], packets := [frameToPacket w rf] }
    else
      let outcome := readUntil stop (s.bufferFrame rf) rest
      { outcome with read := rf::outcome.read }

variable (s : SignalingSession w) (frames : List RecvFrame)

def request (op : UInt16) : Option (Outcome w) :=
  s.nextPid.map (fun issued => readUntil (isAnswer w op) issued.2 frames)

def pollEvents : Outcome w := readUntil (fun _ => false) s frames

def waitEvent (op : UInt16) : Outcome w :=
  match s.drainEvent op with
  | some (pkt,session) => { session := session, packets := [pkt] }
  | none => readUntil (fun rf => rf.header.op == op) s frames

end SignalingSession

end Oxlab.Common.Signaling
