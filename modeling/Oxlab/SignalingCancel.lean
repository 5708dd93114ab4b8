import Oxlab.Common.Signaling
import Oxlab.Library.Run

/-! Receiving under a timeout.
`recv_frame` has a second await after it has taken a frame: the send of the
automatic ACK. A timeout that drops it there loses the frame. -/
namespace Oxlab.SignalingCancel
open Common.Media Common.Signaling Library

inductive Caller
  | pollEvents
  | waitEvent (op : UInt16)

inductive Phase
  | idle
  | reading (caller : Caller)
  | acking (caller : Caller) (rf : RecvFrame)

inductive Incoming
  | frame (rf : RecvFrame)
  | ignored
  | malformed
  | closed

inductive Label
  | pollEvents
  | waitEvent (op : UInt16)
  | take (incoming : Incoming)
  | ackSent
  | ackFailed
  | timeoutReading
  | timeoutAcking (flushed : Bool)
  | drainFloorMbcp
  | drainAllEvents (op : UInt16)

variable (w : Wire)

/-- A session with the history of its socket and of its calls: the frames taken, the
ACKs sent, the frames a wait returned and what was taken out of the two buffers. -/
structure Receiver where
  phase : Phase := .idle
  session : SignalingSession w := {}
  taken : List RecvFrame := []
  acks : List WireHeader := []
  returned : List RecvFrame := []
  packets : List (Packet w.Json) := []
  bodies : List Bytes := []

variable {w}

namespace Receiver
variable (s : Receiver w)

def finish (caller : Caller) (rf : RecvFrame) : Receiver w :=
  let buffered := { s with phase := .reading caller, session := s.session.bufferFrame rf }
  match caller with
  | .pollEvents => buffered
  | .waitEvent op =>
    if rf.header.op = op then { s with phase := .idle, returned := s.returned ++ [rf] }
    else buffered

end Receiver

/-- A timeout drops the future at whichever await it stands; the ACK may have
left the socket by then. -/
def step (s : Receiver w) : Label → Option (Receiver w)
  | .pollEvents =>
    match s.phase with
    | .idle => some { s with phase := .reading .pollEvents }
    | _ => none
  | .waitEvent op =>
    match s.phase with
    | .idle =>
      match s.session.drainEvent op with
      | some (pkt,session) => some { s with session := session, packets := s.packets ++ [pkt] }
      | none => some { s with phase := .reading (.waitEvent op) }
    | _ => none
  | .take incoming =>
    match s.phase with
    | .reading caller =>
      match incoming with
      | .frame rf =>
        let s := { s with taken := s.taken ++ [rf] }
        some (if needsAck w rf then { s with phase := .acking caller rf } else s.finish caller rf)
      | .ignored => some s
      | .malformed => some { s with phase := .idle }
      | .closed => some { s with phase := .idle }
    | _ => none
  | .ackSent =>
    match s.phase with
    | .acking caller rf => some ({ s with acks := s.acks ++ [ackHeader rf] }.finish caller rf)
    | _ => none
  | .ackFailed =>
    match s.phase with
    | .acking caller rf => some (s.finish caller rf)
    | _ => none
  | .timeoutReading =>
    match s.phase with
    | .reading _ => some { s with phase := .idle }
    | _ => none
  | .timeoutAcking flushed =>
    match s.phase with
    | .acking _ rf =>
      some { s with phase := .idle, acks := if flushed then s.acks ++ [ackHeader rf] else s.acks }
    | _ => none
  | .drainFloorMbcp =>
    match s.phase with
    | .idle =>
      let (bodies,session) := s.session.drainFloorMbcp
      some { s with session := session, bodies := s.bodies ++ bodies }
    | _ => none
  | .drainAllEvents op =>
    match s.phase with
    | .idle =>
      let (packets,session) := s.session.drainAllEvents op
      some { s with session := session, packets := s.packets ++ packets }
    | _ => none

def inHand : Phase → List RecvFrame
  | .acking _ rf => [rf]
  | _ => []

@[simp] theorem inHand_idle : inHand .idle = [] := rfl

@[simp] theorem inHand_reading (caller : Caller) : inHand (.reading caller) = [] := rfl

@[simp] theorem inHand_acking (caller : Caller) (rf : RecvFrame) :
    inHand (.acking caller rf) = [rf] := rfl

def isFloor (rf : RecvFrame) : Bool := rf.header.op == opFloorMbcp

def packetsOf (w : Wire) (frames : List RecvFrame) : List (Packet w.Json) :=
  (frames.filter (fun rf => !isFloor rf)).map (frameToPacket w)

def bodiesOf (frames : List RecvFrame) : List Bytes := (frames.filter isFloor).map (·.body)

/-- Apart from the frame in hand, every event taken was acknowledged once, and every
frame taken was returned or stands, or stood until it was drained, once in its buffer. -/
structure Settled (s : Receiver w) : Prop where
  acked : (s.acks ++ (inHand s.phase).map ackHeader).Perm
    ((s.taken.filter (needsAck w)).map ackHeader)
  events : (packetsOf w (s.returned ++ inHand s.phase) ++ (s.packets ++ s.session.eventBuf)).Perm
    (packetsOf w s.taken)
  floors : (bodiesOf (s.returned ++ inHand s.phase) ++ (s.bodies ++ s.session.floorMbcpBuf)).Perm
    (bodiesOf s.taken)

/-- The steps that end the ACK send without the frame or without the ACK. -/
def Breaks : Label → Prop
  | .ackFailed => True
  | .timeoutAcking _ => True
  | _ => False

def Holds (s : Receiver w) : Prop := ∀ rf ∈ inHand s.phase, needsAck w rf

theorem needsAck_event (rf : RecvFrame) (needs : needsAck w rf) : isFloor rf = false := by
  simp only [needsAck,Bool.and_eq_true,bne_iff_ne] at needs
  simpa [isFloor] using needs.2

section frames
variable (frames : List RecvFrame) (rf : RecvFrame)

theorem packetsOf_append (more : List RecvFrame) :
    packetsOf w (frames ++ more) = packetsOf w frames ++ packetsOf w more := by
  rw [packetsOf,List.filter_append,List.map_append]
  rfl

theorem bodiesOf_append (more : List RecvFrame) :
    bodiesOf (frames ++ more) = bodiesOf frames ++ bodiesOf more := by
  rw [bodiesOf,List.filter_append,List.map_append]
  rfl

theorem bufferFrame_eventBuf (session : SignalingSession w) :
    (session.bufferFrame rf).eventBuf = session.eventBuf ++ packetsOf w [rf] := by
  unfold SignalingSession.bufferFrame
  split
  next floor => simp [packetsOf,isFloor,floor]
  next event => simp [packetsOf,isFloor,event]

theorem bufferFrame_floorMbcpBuf (session : SignalingSession w) :
    (session.bufferFrame rf).floorMbcpBuf = session.floorMbcpBuf ++ bodiesOf [rf] := by
  unfold SignalingSession.bufferFrame
  split
  next floor => simp [bodiesOf,isFloor,floor]
  next event => simp [bodiesOf,isFloor,event]

end frames

section drain
variable (session : SignalingSession w) (op : UInt16)

theorem drainEvent_keeps {drained : SignalingSession w} {pkt : Packet w.Json} (found : session.drainEvent op = some (pkt,drained)) :
    (pkt::drained.eventBuf).Perm session.eventBuf ∧
      drained.floorMbcpBuf = session.floorMbcpBuf := by
  obtain ⟨first,find,same⟩ := Option.map_eq_some_iff.mp found
  cases same
  obtain ⟨matching,before,after,split,passed⟩ := List.find?_eq_some_iff_append.mp find
  refine ⟨?_,rfl⟩
  have absent : ∀ b ∈ before,¬(decide (b.op = op) = true) := by
    intro b member
    simpa using passed b member
  change (pkt::session.eventBuf.eraseP (fun p => decide (p.op = op))).Perm session.eventBuf
  have erased : (pkt::after).eraseP (fun p => decide (p.op = op)) = after :=
    List.eraseP_cons_of_pos matching
  rw [split,List.eraseP_append_right _ absent,erased]
  exact List.perm_middle.symm

theorem drainAllEvents_keeps :
    ((session.drainAllEvents op).1 ++ (session.drainAllEvents op).2.eventBuf).Perm
      session.eventBuf := by
  have rest : (session.drainAllEvents op).2.eventBuf =
      session.eventBuf.filter (fun p => !decide (p.op = op)) := by
    simp only [SignalingSession.drainAllEvents,decide_not]
  rw [rest]
  exact List.filter_append_perm _ _

end drain

theorem finish_history (s : Receiver w) (caller : Caller) (rf : RecvFrame) :
    (s.finish caller rf).taken = s.taken ∧ (s.finish caller rf).acks = s.acks ∧
      inHand (s.finish caller rf).phase = [] := by
  cases caller with
  | pollEvents => exact ⟨rfl,rfl,rfl⟩
  | waitEvent op =>
    unfold Receiver.finish
    dsimp only
    split
    next awaited => exact ⟨rfl,rfl,rfl⟩
    next other => exact ⟨rfl,rfl,rfl⟩

theorem shelved {α : Type} (returned drained buffer new : List α) :
    (returned ++ (drained ++ (buffer ++ new))).Perm (returned ++ new ++ (drained ++ buffer)) := by
  rw [List.append_assoc,← List.append_assoc drained]
  exact List.perm_append_comm.append_left returned

theorem received {α : Type} {returned rest taken : List α} (kept : (returned ++ rest).Perm taken)
    (new : List α) : (returned ++ new ++ rest).Perm (taken ++ new) := by
  rw [List.append_assoc]
  refine (List.perm_append_comm.append_left returned).trans ?_
  rw [← List.append_assoc]
  exact kept.append_right new

/-- A frame read to its end is one more among those returned or in the buffers. -/
theorem finish_settled (s : Receiver w) (caller : Caller) (rf : RecvFrame)
    (acked : s.acks.Perm ((s.taken.filter (needsAck w)).map ackHeader))
    (events : (packetsOf w (s.returned ++ [rf]) ++ (s.packets ++ s.session.eventBuf)).Perm
      (packetsOf w s.taken))
    (floors : (bodiesOf (s.returned ++ [rf]) ++ (s.bodies ++ s.session.floorMbcpBuf)).Perm
      (bodiesOf s.taken)) :
    Settled (s.finish caller rf) ∧ Holds (s.finish caller rf) := by
  have buffered : Settled
      { s with phase := .reading caller, session := s.session.bufferFrame rf } := by
    refine ⟨by simpa using acked,?_,?_⟩
    · rw [packetsOf_append] at events
      rw [inHand_reading,List.append_nil,bufferFrame_eventBuf]
      exact (shelved _ _ _ _).trans events
    · rw [bodiesOf_append] at floors
      rw [inHand_reading,List.append_nil,bufferFrame_floorMbcpBuf]
      exact (shelved _ _ _ _).trans floors
  have returned : Settled { s with phase := .idle, returned := s.returned ++ [rf] } := by
    refine ⟨by simpa using acked,?_,?_⟩
    · simpa using events
    · simpa using floors
  cases caller with
  | pollEvents => exact ⟨buffered,by simp [Holds,Receiver.finish]⟩
  | waitEvent op =>
    unfold Receiver.finish
    dsimp only
    split
    next awaited => exact ⟨returned,by simp [Holds]⟩
    next other => exact ⟨buffered,by simp [Holds]⟩

section step
variable {s : Receiver w} (settled : Settled s)
include settled

theorem rest_settled (free : inHand s.phase = []) (phase : Phase) (empty : inHand phase = [])
    (session : SignalingSession w) (packets : List (Packet w.Json)) (bodies : List Bytes)
    (events : (packets ++ session.eventBuf).Perm s.session.eventBuf)
    (floors : bodies ++ session.floorMbcpBuf = s.session.floorMbcpBuf) :
    Settled { s with phase := phase, session := session, packets := s.packets ++ packets,
                     bodies := s.bodies ++ bodies } ∧
      Holds { s with phase := phase, session := session, packets := s.packets ++ packets,
                     bodies := s.bodies ++ bodies } := by
  obtain ⟨acked,kept,stored⟩ := settled
  rw [free] at acked kept stored
  refine ⟨⟨?_,?_,?_⟩,by simp [Holds,empty]⟩
  · rw [empty]
    exact acked
  · rw [empty,List.append_assoc]
    exact ((events.append_left s.packets).append_left _).trans kept
  · rw [empty,List.append_assoc,floors]
    exact stored

theorem still_settled (free : inHand s.phase = []) (phase : Phase) (empty : inHand phase = []) :
    Settled { s with phase := phase } ∧ Holds { s with phase := phase } := by
  have same := rest_settled settled free phase empty s.session [] [] (List.Perm.refl _)
    (List.nil_append _)
  simpa only [List.append_nil] using same

theorem take_settled (caller : Caller) (phase : s.phase = .reading caller) (incoming : Incoming)
    {next : Receiver w} (stepped : step s (.take incoming) = some next) :
    Settled next ∧ Holds next := by
  have free : inHand s.phase = [] := by rw [phase]; rfl
  have resting := still_settled settled free
  obtain ⟨acked,events,floors⟩ := settled
  rw [free,List.map_nil,List.append_nil] at acked
  rw [free,List.append_nil] at events floors
  simp only [step,phase] at stepped
  cases incoming with
  | frame rf =>
    have event : (packetsOf w (s.returned ++ [rf]) ++ (s.packets ++ s.session.eventBuf)).Perm
        (packetsOf w (s.taken ++ [rf])) := by
      rw [packetsOf_append,packetsOf_append s.taken]
      exact received events _
    have floor : (bodiesOf (s.returned ++ [rf]) ++ (s.bodies ++ s.session.floorMbcpBuf)).Perm
        (bodiesOf (s.taken ++ [rf])) := by
      rw [bodiesOf_append,bodiesOf_append s.taken]
      exact received floors _
    simp only [Option.some.injEq] at stepped
    by_cases needs : needsAck w rf
    · rw [if_pos needs] at stepped
      subst stepped
      refine ⟨⟨?_,event,floor⟩,by simpa [Holds] using needs⟩
      simpa [needs] using acked.append_right [ackHeader rf]
    · rw [if_neg needs] at stepped
      subst stepped
      apply finish_settled
      · simpa [needs] using acked
      · exact event
      · exact floor
  | ignored =>
    cases Option.some.inj stepped
    exact resting s.phase free
  | malformed =>
    cases Option.some.inj stepped
    exact resting .idle rfl
  | closed =>
    cases Option.some.inj stepped
    exact resting .idle rfl

theorem step_settled {label : Label} {next : Receiver w} (stepped : step s label = some next)
    (fine : ¬Breaks label) : Settled next ∧ Holds next := by
  cases phase : s.phase with
  | idle =>
    have free : inHand s.phase = [] := by rw [phase]; rfl
    cases label with
    | pollEvents =>
      simp only [step,phase,Option.some.injEq] at stepped
      subst stepped
      exact still_settled settled free (.reading .pollEvents) rfl
    | waitEvent op =>
      simp only [step,phase] at stepped
      split at stepped
      next pkt session found =>
        cases Option.some.inj stepped
        obtain ⟨events,floors⟩ := drainEvent_keeps s.session op found
        have taken := rest_settled settled free s.phase free session [pkt] [] events floors
        rw [phase,List.append_nil] at taken
        simpa [phase] using taken
      next =>
        cases Option.some.inj stepped
        exact still_settled settled free (.reading (.waitEvent op)) rfl
    | drainFloorMbcp =>
      simp only [step,phase,Option.some.injEq] at stepped
      subst stepped
      have taken := rest_settled settled free s.phase free s.session.drainFloorMbcp.2 []
        s.session.drainFloorMbcp.1 (List.Perm.refl _) (List.append_nil _)
      rw [phase,List.append_nil] at taken
      simpa [phase] using taken
    | drainAllEvents op =>
      simp only [step,phase,Option.some.injEq] at stepped
      subst stepped
      have taken := rest_settled settled free s.phase free (s.session.drainAllEvents op).2
        (s.session.drainAllEvents op).1 [] (drainAllEvents_keeps s.session op) rfl
      rw [phase,List.append_nil] at taken
      simpa [phase] using taken
    | _ => simp [step,phase] at stepped
  | reading caller =>
    cases label with
    | take incoming => exact take_settled settled caller phase incoming stepped
    | timeoutReading =>
      simp only [step,phase,Option.some.injEq] at stepped
      subst stepped
      exact still_settled settled (by rw [phase]; rfl) .idle rfl
    | _ => simp [step,phase] at stepped
  | acking caller rf =>
    cases label with
    | ackSent =>
      simp only [step,phase,Option.some.injEq] at stepped
      subst stepped
      obtain ⟨acked,events,floors⟩ := settled
      rw [phase] at acked events floors
      exact finish_settled _ caller rf acked events floors
    | ackFailed => exact absurd trivial fine
    | timeoutAcking flushed => exact absurd trivial fine
    | _ => simp [step,phase] at stepped

theorem step_breaks {label : Label} {next : Receiver w} (holds : Holds s)
    (stepped : step s label = some next) (breaks : Breaks label) : ¬Settled next := by
  intro still
  cases phase : s.phase with
  | idle => cases label <;> simp [Breaks,step,phase] at breaks stepped
  | reading caller => cases label <;> simp [Breaks,step,phase] at breaks stepped
  | acking caller rf =>
    rw [Holds,phase] at holds
    have needs := holds rf (by simp [inHand])
    obtain ⟨acked,events,_⟩ := settled
    rw [phase] at acked events
    cases label with
    | ackFailed =>
      simp only [step,phase,Option.some.injEq] at stepped
      subst stepped
      obtain ⟨taken,acks,empty⟩ := finish_history s caller rf
      have without := still.acked.length_eq
      have within := acked.length_eq
      rw [taken,acks,empty] at without
      simp only [inHand,List.map_cons,List.map_nil,List.append_nil,List.length_append,
        List.length_cons,List.length_nil] at without within
      omega
    | timeoutAcking flushed =>
      simp only [step,phase,Option.some.injEq] at stepped
      subst stepped
      have one : packetsOf w [rf] = [frameToPacket w rf] := by
        simp [packetsOf,needsAck_event rf needs]
      have without := still.events.length_eq
      have within := events.length_eq
      rw [packetsOf_append,inHand_acking,one] at within
      rw [inHand_idle,List.append_nil] at without
      simp only [List.length_append,List.length_singleton] at within without
      omega
    | _ => exact breaks

end step

/-- No event or floor message is lost, and every event is acknowledged once, in
every state of a run exactly when no ACK send is dropped by a timeout or fails. -/
theorem settled_iff (labels : List Label) (final : Receiver w)
    (ran : Run.exec step {} labels = some final) :
    Run.Always step Settled ({} : Receiver w) labels ↔ ∀ label ∈ labels, ¬Breaks label := by
  rw [← Run.clean_forall step Breaks {} final labels ran]
  apply Run.always_iff_clean step (fun s => Settled s ∧ Holds s) Settled (fun _ => Breaks)
  · intro s both
    exact both.1
  · intro s label next both stepped fine
    exact step_settled both.1 stepped fine
  · intro s label next both stepped breaks
    exact step_breaks both.1 both.2 stepped breaks
  · exact ⟨⟨List.Perm.refl _,List.Perm.refl _,List.Perm.refl _⟩,by simp [Holds]⟩
  · exact ran

def update : RecvFrame := ⟨⟨0x2101,7,some .msg⟩,[0x7B,0x7D]⟩

def dropped : List Label := [.pollEvents,.take (.frame update),.timeoutAcking false]

theorem dropped_loses :
    (Run.exec step ({} : Receiver wire) dropped).map (fun s =>
        (s.taken,s.acks,s.returned,s.packets,s.session.eventBuf)) = some ([update],[],[],[],[]) ∧
      ¬Run.Always step Settled ({} : Receiver wire) dropped := by
  have lost : (Run.exec step ({} : Receiver wire) dropped).map (fun s =>
      (s.taken,s.acks,s.returned,s.packets,s.session.eventBuf)) = some ([update],[],[],[],[]) := by
    rfl
  refine ⟨lost,?_⟩
  intro always
  obtain ⟨final,ran,history⟩ := Option.map_eq_some_iff.mp lost
  have kept := (Run.always_final step _ always ran).events.length_eq
  cases Option.some.inj ran
  exact absurd kept (by decide)

theorem settled_iff_sent : Run.Always step Settled ({} : Receiver wire)
    [.pollEvents,.take (.frame update),.ackSent,.timeoutReading] := by
  refine (settled_iff _ _ rfl).mpr ?_
  simp [Breaks]

end Oxlab.SignalingCancel
