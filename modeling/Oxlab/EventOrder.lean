import Oxlab.Common.Signaling
import Oxlab.Library.Run

/-! Events keep their order through the buffers of a session.
Calls that read the socket buffer what they do not return, and a wait takes an
event from the socket only when none of its opcode is buffered. A request made
with the opcode of an event is the one call that can overtake the buffer. -/
namespace Oxlab.EventOrder
open Common.Media Common.Signaling Library

inductive Call
  | request (op : UInt16)
  | pollEvents
  | waitEvent (op : UInt16)
  | drainEvent (op : UInt16)
  | drainAllEvents (op : UInt16)
  | drainFloorMbcp
  deriving DecidableEq

variable {w : Wire}

/-- The outcome of a call to which these frames come in time. -/
def call (s : SignalingSession w) (frames : List RecvFrame) : Call → Option (Outcome w)
  | .request op => s.request frames op
  | .pollEvents => some (s.pollEvents frames)
  | .waitEvent op => if op = opFloorMbcp then none else some (s.waitEvent frames op)
  | .drainEvent op =>
    match s.drainEvent op with
    | some (pkt,session) => some { session := session, packets := [pkt] }
    | none => some { session := s }
  | .drainAllEvents op =>
    some { session := (s.drainAllEvents op).2, packets := (s.drainAllEvents op).1 }
  | .drainFloorMbcp => some { session := s.drainFloorMbcp.2, bodies := s.drainFloorMbcp.1 }

section session
variable (op : UInt16) (s : SignalingSession w)

/-- What is buffered of one opcode. -/
def held : List (Packet w.Json) := s.eventBuf.filter (·.op = op)

def packetsOf (frames : List RecvFrame) : List (Packet w.Json) :=
  (frames.filter (·.header.op = op)).map (frameToPacket w)

def floorBodies (frames : List RecvFrame) : List Bytes :=
  (frames.filter (·.header.op = opFloorMbcp)).map (·.body)

variable {op s}

theorem held_bufferFrame (event : op ≠ opFloorMbcp) (rf : RecvFrame) :
    held op (s.bufferFrame rf) = held op s ++ packetsOf op [rf] := by
  unfold SignalingSession.bufferFrame
  split
  next floor => simp [held,packetsOf,floor,Ne.symm event]
  next =>
    rw [held,held,packetsOf,List.filter_append]
    by_cases own : rf.header.op = op <;> simp [own,frameToPacket]

theorem floors_bufferFrame (rf : RecvFrame) :
    (s.bufferFrame rf).floorMbcpBuf = s.floorMbcpBuf ++ floorBodies [rf] := by
  unfold SignalingSession.bufferFrame
  split
  next floor => simp [floorBodies,floor]
  next event => simp [floorBodies,event]

theorem packetsOf_cons (rf : RecvFrame) (rest : List RecvFrame) :
    packetsOf (w := w) op (rf::rest) = packetsOf op [rf] ++ packetsOf op rest := by
  rw [packetsOf,packetsOf,packetsOf,← List.map_append,← List.filter_append]
  rfl

theorem packetsOf_single (rf : RecvFrame) :
    packetsOf op [rf] = [frameToPacket w rf].filter (·.op = op) := by
  by_cases own : rf.header.op = op <;> simp [packetsOf,own,frameToPacket]

end session

/-! What the calls take from the socket and from the buffer. -/

section read
variable {op : UInt16} (stop : RecvFrame → Bool)

theorem readUntil_held (event : op ≠ opFloorMbcp) (frames : List RecvFrame)
    (s : SignalingSession w) :
    let o := s.readUntil stop frames
    held op s ++ packetsOf op o.read = held op o.session ++ o.packets.filter (·.op = op) := by
  induction frames generalizing s with
  | nil => simp [SignalingSession.readUntil,packetsOf]
  | cons rf rest ih =>
    rw [SignalingSession.readUntil]
    split
    next => exact congrArg (held op s ++ ·) (packetsOf_single rf)
    next =>
      change held op s ++ packetsOf op (rf::_) = _
      rw [packetsOf_cons,← List.append_assoc,← held_bufferFrame event]
      exact ih (s.bufferFrame rf)

theorem readUntil_packet (frames : List RecvFrame) (s : SignalingSession w) :
    ∀ pkt ∈ (s.readUntil stop frames).packets,∃ rf, stop rf = true ∧ pkt = frameToPacket w rf := by
  induction frames generalizing s with
  | nil => simp [SignalingSession.readUntil]
  | cons rf rest ih =>
    rw [SignalingSession.readUntil]
    split
    next stops =>
      intro pkt member
      exact ⟨rf,stops,List.mem_singleton.mp member⟩
    next => exact ih (s.bufferFrame rf)

theorem readUntil_none (event : op ≠ opFloorMbcp) (stops : ∀ rf, rf.header.op = op → stop rf = true)
    (frames : List RecvFrame) (s : SignalingSession w) (empty : held op s = []) :
    held op (s.readUntil stop frames).session = [] := by
  induction frames generalizing s with
  | nil => exact empty
  | cons rf rest ih =>
    rw [SignalingSession.readUntil]
    split
    next => exact empty
    next goes_on =>
      apply ih (s.bufferFrame rf)
      have other : rf.header.op ≠ op := fun own => goes_on (stops rf own)
      rw [held_bufferFrame event,empty,packetsOf_single]
      simp [frameToPacket,other]

theorem readUntil_floors (frames : List RecvFrame) (s : SignalingSession w) :
    let o := s.readUntil stop frames
    o.bodies = [] ∧ ((∀ pkt ∈ o.packets,pkt.op ≠ opFloorMbcp) →
      s.floorMbcpBuf ++ floorBodies o.read = o.session.floorMbcpBuf) := by
  induction frames generalizing s with
  | nil => simp [SignalingSession.readUntil,floorBodies]
  | cons rf rest ih =>
    rw [SignalingSession.readUntil]
    split
    next =>
      refine ⟨rfl,fun packets => ?_⟩
      have other : rf.header.op ≠ opFloorMbcp := packets _ List.mem_cons_self
      simp [floorBodies,other]
    next =>
      obtain ⟨none_drained,kept⟩ := ih (s.bufferFrame rf)
      refine ⟨none_drained,fun packets => ?_⟩
      have later := kept packets
      rw [floors_bufferFrame,List.append_assoc] at later
      rw [← later]
      refine congrArg (s.floorMbcpBuf ++ ·) ?_
      rw [floorBodies,floorBodies,floorBodies,← List.map_append,← List.filter_append]
      rfl

end read

theorem drained {op op' : UInt16} {pkt : Packet w.Json} {buf : List (Packet w.Json)}
    (found : buf.find? (·.op = op') = some pkt) :
    buf.filter (·.op = op) =
      [pkt].filter (·.op = op) ++ (buf.eraseP (·.op = op')).filter (·.op = op) := by
  induction buf with
  | nil => contradiction
  | cons first rest ih =>
    by_cases own : first.op = op'
    · rw [List.find?_cons_of_pos (by simpa using own)] at found
      rw [← Option.some.inj found,List.eraseP_cons_of_pos (by simpa using own),← List.filter_append]
      rfl
    · rw [List.find?_cons_of_neg (by simpa using own)] at found
      rw [List.eraseP_cons_of_neg (by simpa using own),List.filter_cons,List.filter_cons,ih found]
      have taken : pkt.op = op' := by simpa using List.find?_some found
      by_cases same : first.op = op
      · have other : pkt.op ≠ op := fun equal => own (same.trans (equal.symm.trans taken))
        simp [same,other]
      · simp [same,List.filter_cons]

/-- Nothing of the opcode is lost, made up or overtaken by the call. -/
def Conserves (op : UInt16) (s : SignalingSession w) (o : Outcome w) : Prop :=
  held op s ++ packetsOf op o.read = o.packets.filter (·.op = op) ++ held op o.session

def ConservesFloor (s : SignalingSession w) (o : Outcome w) : Prop :=
  s.floorMbcpBuf ++ floorBodies o.read = o.bodies ++ o.session.floorMbcpBuf

/-- A request returns a packet of the opcode over one that is buffered. -/
def Overtakes (op : UInt16) (c : Call) (o : Outcome w) : Prop :=
  match c with
  | .request _ => o.packets.filter (·.op = op) ≠ [] ∧ held op o.session ≠ []
  | _ => False

/-- A request returns a floor message. -/
def TakesFloor (c : Call) (o : Outcome w) : Prop :=
  match c with
  | .request _ => ∃ pkt ∈ o.packets,pkt.op = opFloorMbcp
  | _ => False

section conserve
variable {s : SignalingSession w} {frames : List RecvFrame} {o : Outcome w}

theorem readUntil_conserves {op : UInt16} (event : op ≠ opFloorMbcp) {stop : RecvFrame → Bool}
    (apart : ((s.readUntil stop frames).packets.filter (·.op = op) = []) ∨
      held op (s.readUntil stop frames).session = []) :
    Conserves op s (s.readUntil stop frames) := by
  have read := readUntil_held stop event frames s
  rw [Conserves,read]
  rcases apart with nothing | nothing
  · rw [nothing,List.nil_append,List.append_nil]
  · rw [nothing,List.nil_append,List.append_nil]

theorem readUntil_conservesFloor {stop : RecvFrame → Bool}
    (others : ∀ pkt ∈ (s.readUntil stop frames).packets,pkt.op ≠ opFloorMbcp) :
    ConservesFloor s (s.readUntil stop frames) := by
  obtain ⟨none_drained,floors⟩ := readUntil_floors stop frames s
  rw [ConservesFloor,none_drained,List.nil_append]
  exact floors others

theorem pollEvents_packets : (s.pollEvents frames).packets = [] := by
  rw [List.eq_nil_iff_forall_not_mem]
  intro pkt member
  obtain ⟨rf,stops,_⟩ := readUntil_packet _ frames s pkt member
  contradiction

theorem drainEvent_conserves (op' op : UInt16) {pkt : Packet w.Json} {session : SignalingSession w}
    (found : s.drainEvent op' = some (pkt,session)) :
    held op s = [pkt].filter (·.op = op) ++ held op session ∧
      session.floorMbcpBuf = s.floorMbcpBuf := by
  obtain ⟨first,taken,same⟩ := Option.map_eq_some_iff.mp found
  cases same
  exact ⟨drained taken,rfl⟩

theorem drainEvent_outcome {op : UInt16} (called : call s frames (.drainEvent op) = some o) :
    (∃ pkt session, s.drainEvent op = some (pkt,session) ∧
      o = { session := session, packets := [pkt] }) ∨
      (s.drainEvent op = none ∧ o = { session := s }) := by
  rw [call] at called
  split at called
  next pkt session found => exact Or.inl ⟨pkt,session,found,(Option.some.inj called).symm⟩
  next found => exact Or.inr ⟨found,(Option.some.inj called).symm⟩

theorem waitEvent_conserves {op : UInt16} (event : op ≠ opFloorMbcp) (op' : UInt16) :
    Conserves op s (s.waitEvent frames op') := by
  unfold SignalingSession.waitEvent
  cases found : s.drainEvent op' with
  | some drawn =>
    rw [Conserves,(drainEvent_conserves op' op found).1]
    exact List.append_nil _
  | none =>
    apply readUntil_conserves event
    by_cases own : op' = op
    · right
      have empty : held op s = [] := by
        have absent := List.find?_eq_none.mp (Option.map_eq_none_iff.mp found)
        rw [own] at absent
        exact List.filter_eq_nil_iff.mpr absent
      apply readUntil_none _ event _ frames s empty
      intro rf same
      rw [own,same]
      exact beq_self_eq_true op
    · left
      rw [List.filter_eq_nil_iff]
      intro pkt member equal
      obtain ⟨rf,stops,rfl⟩ := readUntil_packet _ frames s pkt member
      exact own ((beq_iff_eq.mp stops).symm.trans (of_decide_eq_true equal))

theorem waitEvent_conservesFloor {op : UInt16} (event : op ≠ opFloorMbcp) :
    ConservesFloor s (s.waitEvent frames op) := by
  unfold SignalingSession.waitEvent
  cases found : s.drainEvent op with
  | some drawn =>
    rw [ConservesFloor,(drainEvent_conserves op op found).2]
    exact List.append_nil _
  | none =>
    apply readUntil_conservesFloor
    intro pkt member floor
    obtain ⟨rf,stops,rfl⟩ := readUntil_packet _ frames s pkt member
    exact event ((beq_iff_eq.mp stops).symm.trans floor)

theorem drainAllEvents_conserves (op op' : UInt16) :
    held op s = (s.drainAllEvents op').1.filter (·.op = op) ++ held op (s.drainAllEvents op').2 := by
  simp only [held,SignalingSession.drainAllEvents,List.filter_filter]
  by_cases own : op' = op
  · simp [own]
  · have none_taken : s.eventBuf.filter (fun pkt => decide (pkt.op = op) && decide (pkt.op = op')) =
        [] := by
      rw [List.filter_eq_nil_iff]
      intro pkt _ both
      rw [Bool.and_eq_true,decide_eq_true_eq,decide_eq_true_eq] at both
      exact own (both.2.symm.trans both.1)
    rw [none_taken,List.nil_append]
    apply List.filter_congr
    intro pkt _
    by_cases equal : pkt.op = op
    · simp [equal,Ne.symm own]
    · simp [equal]

theorem nextPid_buffers {pid : UInt32} {session : SignalingSession w}
    (issued : s.nextPid = some (pid,session)) :
    session.eventBuf = s.eventBuf ∧ session.floorMbcpBuf = s.floorMbcpBuf := by
  unfold SignalingSession.nextPid at issued
  split at issued
  next =>
    cases Option.some.inj issued
    exact ⟨rfl,rfl⟩
  next => contradiction

theorem call_conserves {op : UInt16} (event : op ≠ opFloorMbcp) {c : Call}
    (called : call s frames c = some o) (apart : ¬Overtakes op c o) : Conserves op s o := by
  cases c with
  | request op' =>
    obtain ⟨⟨pid,session⟩,issued,rfl⟩ := Option.map_eq_some_iff.mp called
    have same : held op s = held op session := by
      rw [held,held,(nextPid_buffers issued).1]
    rw [Conserves,same]
    apply readUntil_conserves event
    by_contra both
    rw [not_or] at both
    exact apart both
  | pollEvents =>
    cases called
    apply readUntil_conserves event
    left
    exact congrArg (List.filter (·.op = op)) pollEvents_packets
  | waitEvent op' =>
    obtain ⟨_,waited⟩ := Option.ite_none_left_eq_some.mp called
    cases waited
    exact waitEvent_conserves event op'
  | drainEvent op' =>
    obtain ⟨pkt,session,found,rfl⟩ | ⟨_,rfl⟩ := drainEvent_outcome called
    · rw [Conserves,(drainEvent_conserves op' op found).1]
      exact List.append_nil _
    · exact List.append_nil _
  | drainAllEvents op' =>
    cases called
    rw [Conserves,← drainAllEvents_conserves op op']
    exact List.append_nil _
  | drainFloorMbcp =>
    cases called
    exact List.append_nil _

theorem call_conservesFloor {c : Call} (called : call s frames c = some o) (kept : ¬TakesFloor c o) :
    ConservesFloor s o := by
  cases c with
  | request op' =>
    obtain ⟨⟨pid,session⟩,issued,rfl⟩ := Option.map_eq_some_iff.mp called
    rw [ConservesFloor,← (nextPid_buffers issued).2]
    apply readUntil_conservesFloor
    intro pkt member floor
    exact kept ⟨pkt,member,floor⟩
  | pollEvents =>
    cases called
    apply readUntil_conservesFloor
    intro pkt member
    change pkt ∈ (s.pollEvents frames).packets at member
    rw [pollEvents_packets] at member
    contradiction
  | waitEvent op' =>
    obtain ⟨event,waited⟩ := Option.ite_none_left_eq_some.mp called
    cases waited
    exact waitEvent_conservesFloor event
  | drainEvent op' =>
    obtain ⟨pkt,session,found,rfl⟩ | ⟨_,rfl⟩ := drainEvent_outcome called
    · rw [ConservesFloor,(drainEvent_conserves op' op' found).2]
      exact List.append_nil _
    · exact List.append_nil _
  | drainAllEvents op' =>
    cases called
    exact List.append_nil _
  | drainFloorMbcp =>
    cases called
    rfl

end conserve

/-- A session, the frames on its socket, and what was read and returned so far. -/
structure Link (w : Wire) where
  session : SignalingSession w := {}
  socket : List RecvFrame := []
  received : List RecvFrame := []
  packets : List (Packet w.Json) := []
  bodies : List Bytes := []

variable (w) in
def fresh : Link w := {}

/-- `limit` frames come before the call times out or the socket fails. -/
inductive Label
  | arrive (rf : RecvFrame)
  | call (c : Call) (limit : Nat)

def outcome (link : Link w) (c : Call) (limit : Nat) : Option (Outcome w) :=
  call link.session (link.socket.take limit) c

def step (link : Link w) : Label → Option (Link w)
  | .arrive rf => some { link with socket := link.socket ++ [rf] }
  | .call c limit =>
    (outcome link c limit).map (fun o =>
      { session := o.session
        socket := link.socket.drop o.read.length
        received := link.received ++ o.read
        packets := link.packets ++ o.packets
        bodies := link.bodies ++ o.bodies })

def arrivals (labels : List Label) : List RecvFrame :=
  labels.filterMap (fun label =>
    match label with
    | .arrive rf => some rf
    | .call _ _ => none)

/-- The packets returned and those still buffered are those received, in order. -/
def Ordered (op : UInt16) (link : Link w) : Prop :=
  link.packets.filter (·.op = op) ++ held op link.session = packetsOf op link.received

def FloorOrdered (link : Link w) : Prop :=
  link.bodies ++ link.session.floorMbcpBuf = floorBodies link.received

def overtakes (op : UInt16) (link : Link w) : Label → Prop
  | .arrive _ => False
  | .call c limit => ∃ o, outcome link c limit = some o ∧ Overtakes op c o

def takesFloor (link : Link w) : Label → Prop
  | .arrive _ => False
  | .call c limit => ∃ o, outcome link c limit = some o ∧ TakesFloor c o

theorem step_ordered {op : UInt16} (event : op ≠ opFloorMbcp) (link : Link w) (label : Label)
    (next : Link w) (ordered : Ordered op link) (stepped : step link label = some next)
    (apart : ¬overtakes op link label) : Ordered op next := by
  cases label with
  | arrive rf =>
    cases stepped
    exact ordered
  | call c limit =>
    obtain ⟨o,called,rfl⟩ := Option.map_eq_some_iff.mp stepped
    have conserved : Conserves op link.session o :=
      call_conserves event called (fun overtaken => apart ⟨o,called,overtaken⟩)
    rw [Ordered,List.filter_append,List.append_assoc,← conserved,← List.append_assoc]
    rw [Ordered] at ordered
    rw [ordered,packetsOf,packetsOf,packetsOf,List.filter_append,List.map_append]

theorem step_floorOrdered (link : Link w) (label : Label) (next : Link w)
    (ordered : FloorOrdered link) (stepped : step link label = some next)
    (apart : ¬takesFloor link label) : FloorOrdered next := by
  cases label with
  | arrive rf =>
    cases stepped
    exact ordered
  | call c limit =>
    obtain ⟨o,called,rfl⟩ := Option.map_eq_some_iff.mp stepped
    have conserved : ConservesFloor link.session o :=
      call_conservesFloor called (fun taken => apart ⟨o,called,taken⟩)
    rw [FloorOrdered,List.append_assoc,← conserved,← List.append_assoc]
    rw [FloorOrdered] at ordered
    rw [ordered,floorBodies,floorBodies,floorBodies,List.filter_append,List.map_append]

theorem readUntil_arrivals (stop : RecvFrame → Bool) (frames : List RecvFrame)
    (s : SignalingSession w) : (s.readUntil stop frames).read <+: frames := by
  induction frames generalizing s with
  | nil => exact List.prefix_refl []
  | cons rf rest ih =>
    rw [SignalingSession.readUntil]
    split
    next => exact List.cons_prefix_cons.mpr ⟨rfl,List.nil_prefix⟩
    next => exact List.cons_prefix_cons.mpr ⟨rfl,ih (s.bufferFrame rf)⟩

theorem call_arrivals {s : SignalingSession w} {frames : List RecvFrame} {c : Call} {o : Outcome w}
    (called : call s frames c = some o) : o.read <+: frames := by
  cases c with
  | request op =>
    obtain ⟨issued,_,rfl⟩ := Option.map_eq_some_iff.mp called
    exact readUntil_arrivals _ frames issued.2
  | pollEvents =>
    cases called
    exact readUntil_arrivals _ frames s
  | waitEvent op =>
    obtain ⟨_,waited⟩ := Option.ite_none_left_eq_some.mp called
    cases waited
    unfold SignalingSession.waitEvent
    split
    next => exact List.nil_prefix
    next => exact readUntil_arrivals _ frames s
  | drainEvent op =>
    obtain ⟨_,_,_,rfl⟩ | ⟨_,rfl⟩ := drainEvent_outcome called
    · exact List.nil_prefix
    · exact List.nil_prefix
  | drainAllEvents op => cases called; exact List.nil_prefix
  | drainFloorMbcp => cases called; exact List.nil_prefix

theorem exec_received (labels : List Label) (start final : Link w)
    (ran : Run.exec step start labels = some final) :
    final.received ++ final.socket = start.received ++ start.socket ++ arrivals labels := by
  induction labels generalizing start with
  | nil =>
    cases Option.some.inj ran
    exact (List.append_nil _).symm
  | cons label rest ih =>
    rw [Run.exec_cons] at ran
    obtain ⟨next,stepped,ran⟩ := Option.bind_eq_some_iff.mp ran
    rw [ih next ran]
    cases label with
    | arrive rf =>
      cases stepped
      simp [arrivals]
    | call c limit =>
      obtain ⟨o,called,rfl⟩ := Option.map_eq_some_iff.mp stepped
      have first : o.read <+: start.socket := (call_arrivals called).trans (List.take_prefix _ _)
      have whole : o.read ++ start.socket.drop o.read.length = start.socket :=
        List.prefix_iff_eq_append.mp first
      rw [List.append_assoc start.received,whole]
      rfl

/-- What a drain of an opcode leaves as it was. -/
structure LeavesOthers (op : UInt16) (s next : SignalingSession w) : Prop where
  events : next.eventBuf.filter (·.op ≠ op) = s.eventBuf.filter (·.op ≠ op)
  floors : op ≠ opFloorMbcp → next.floorMbcpBuf = s.floorMbcpBuf

theorem eraseP_others (op : UInt16) (buf : List (Packet w.Json)) :
    (buf.eraseP (·.op = op)).filter (·.op ≠ op) = buf.filter (·.op ≠ op) := by
  induction buf with
  | nil => rfl
  | cons first rest ih =>
    by_cases own : first.op = op
    · rw [List.eraseP_cons_of_pos (by simpa using own),List.filter_cons_of_neg (by simpa using own)]
    · rw [List.eraseP_cons_of_neg (by simpa using own),List.filter_cons,List.filter_cons,ih]

/-- The drain of an opcode, by its call. -/
def drains (op : UInt16) : Call → Prop
  | .drainEvent op' => op' = op
  | .drainAllEvents op' => op' = op
  | .drainFloorMbcp => op = opFloorMbcp
  | _ => False

theorem drain_leaves {op : UInt16} {c : Call} (drain : drains op c) {s : SignalingSession w}
    {frames : List RecvFrame} {o : Outcome w} (called : call s frames c = some o) :
    LeavesOthers op s o.session := by
  cases c with
  | drainEvent op' =>
    rw [show op' = op from drain] at called
    obtain ⟨pkt,session,found,rfl⟩ | ⟨_,rfl⟩ := drainEvent_outcome called
    · obtain ⟨_,_,same⟩ := Option.map_eq_some_iff.mp found
      cases same
      exact ⟨eraseP_others op s.eventBuf,fun _ => rfl⟩
    · exact ⟨rfl,fun _ => rfl⟩
  | drainAllEvents op' =>
    cases drain
    cases called
    refine ⟨?_,fun _ => rfl⟩
    rw [SignalingSession.drainAllEvents,List.filter_filter]
    simp only [Bool.and_self]
  | drainFloorMbcp =>
    cases called
    exact ⟨rfl,fun other => absurd drain other⟩
  | request | pollEvents | waitEvent => exact absurd drain id

theorem returned_own {op op' : UInt16} (event : w.isEvent op = true) {s : SignalingSession w}
    {frames : List RecvFrame} {o : Outcome w} (called : call s frames (.request op') = some o)
    {pkt : Packet w.Json} (member : pkt ∈ o.packets) (own : pkt.op = op) : op' = op := by
  obtain ⟨issued,_,rfl⟩ := Option.map_eq_some_iff.mp called
  obtain ⟨rf,stops,rfl⟩ := readUntil_packet _ _ _ pkt member
  have same : rf.header.op = op := own
  rw [isAnswer,same,w.apart op event,Bool.or_false,Bool.and_eq_true,beq_iff_eq] at stops
  exact stops.1.symm

theorem unrequested_clean {op : UInt16} (event : w.isEvent op = true) {labels : List Label}
    (unrequested : ∀ limit, Label.call (.request op) limit ∉ labels) (start : Link w) :
    Run.Clean step (overtakes op) start labels ∧
      (op = opFloorMbcp → Run.Clean step takesFloor start labels) := by
  have never {link : Link w} {op' : UInt16} {limit : Nat} {o : Outcome w} {pkt : Packet w.Json}
      (listed : Label.call (.request op') limit ∈ labels)
      (called : outcome link (.request op') limit = some o) (member : pkt ∈ o.packets)
      (own : pkt.op = op) : False := by
    have same := returned_own event called member own
    rw [same] at listed
    exact unrequested limit listed
  refine ⟨?_,?_⟩
  · rw [Run.clean_split]
    rintro before label after split link _ overtaken
    match label, overtaken with
    | .call (.request op') limit, ⟨o,called,overtaken⟩ =>
      obtain ⟨pkt,member⟩ := List.exists_mem_of_ne_nil _ overtaken.1
      rw [List.mem_filter,decide_eq_true_eq] at member
      exact never (by rw [split]; simp) called member.1 member.2
  · intro floor
    rw [Run.clean_split]
    rintro before label after split link _ taken
    match label, taken with
    | .call (.request op') limit, ⟨o,called,pkt,member,own⟩ =>
      exact never (by rw [split]; simp) called member (own.trans floor.symm)

/-- Over every sequence of calls and arriving frames: what was received comes in
the order of arrival, and the packets of an opcode that were returned, followed
by those still buffered, are those received, unless a request returns one of
them over an older one; so are the floor bodies, unless a request returns one. What no
request is made with is always in order, and a drain leaves all other opcodes as they
were. -/
theorem events_in_order {labels : List Label} {final : Link w}
    (ran : Run.exec step (fresh w) labels = some final) :
    final.received <+: arrivals labels ∧
      (∀ op, w.isEvent op = true → op ≠ opFloorMbcp →
        Run.Clean step (overtakes op) (fresh w) labels → Ordered op final) ∧
      (Run.Clean step takesFloor (fresh w) labels → FloorOrdered final) ∧
      (∀ op, w.isEvent op = true → (∀ limit, Label.call (.request op) limit ∉ labels) →
        (op ≠ opFloorMbcp → Ordered op final) ∧ (op = opFloorMbcp → FloorOrdered final)) ∧
      ∀ op c, drains op c → ∀ (s : SignalingSession w) frames o, call s frames c = some o →
        LeavesOthers op s o.session := by
  have ordered (op : UInt16) (event : op ≠ opFloorMbcp)
      (clean : Run.Clean step (overtakes op) (fresh w) labels) : Ordered op final :=
    Run.clean_keeps step (Ordered op) (overtakes op) (step_ordered event) labels (fresh w) final
      rfl ran clean
  have floorOrdered (clean : Run.Clean step takesFloor (fresh w) labels) : FloorOrdered final :=
    Run.clean_keeps step FloorOrdered takesFloor step_floorOrdered labels (fresh w) final rfl
      ran clean
  refine ⟨⟨final.socket,exec_received labels (fresh w) final ran⟩,?_,floorOrdered,?_,?_⟩
  · intro op _ event clean
    exact ordered op event clean
  · intro op isEvent unrequested
    obtain ⟨clean,floor⟩ := unrequested_clean isEvent unrequested (fresh w)
    exact ⟨fun event => ordered op event clean,fun same => floorOrdered (floor same)⟩
  · intro op c drain s frames o called
    exact drain_leaves drain called

def opExample : UInt16 := 0x2100

def frameOf (pid : UInt32) (state : WireAckState) : RecvFrame := ⟨⟨opExample,pid,some state⟩,[]⟩

/-- Two events, the first buffered by a request in progress, the second waited for. -/
def waited : List Label :=
  [.arrive (frameOf 7 .msg),.call (.request 0x1000) 1,.arrive (frameOf 8 .msg),
    .call (.waitEvent opExample) 1,.call (.waitEvent opExample) 1]

theorem events_in_order_waited : ∃ final : Link wire,
    Run.exec step (fresh wire) waited = some final ∧ Ordered opExample final := by
  obtain ⟨final,ran⟩ := Option.isSome_iff_exists.mp
    (show (Run.exec step (fresh wire) waited).isSome = true by decide +kernel)
  refine ⟨final,ran,(events_in_order ran).2.1 opExample (by decide) (by decide) ?_⟩
  exact (unrequested_clean (by decide) (by simp [waited,opExample]) (fresh wire)).1

/-- A request made with the opcode of an event returns its ACK over the event. -/
theorem request_overtakes : ¬∀ (labels : List Label) (final : Link wire),
    Run.exec step (fresh wire) labels = some final →
      ∀ op, wire.isEvent op = true → op ≠ opFloorMbcp → Ordered op final := by
  intro always
  let labels : List Label := [.arrive (frameOf 7 .msg),.call .pollEvents 1,
    .arrive (frameOf 1 .ackOk),.call (.request opExample) 1]
  have pids : (Run.exec step (fresh wire) labels).map (fun link =>
      ((link.packets.filter (·.op = opExample) ++ held opExample link.session).map (·.pid),
        (packetsOf (w := wire) opExample link.received).map (·.pid))) = some ([1,7],[7,1]) := by
    decide +kernel
  obtain ⟨final,ran,read⟩ := Option.map_eq_some_iff.mp pids
  have ordered := always labels final ran opExample (by decide) (by decide)
  rw [Ordered] at ordered
  rw [ordered,Prod.mk.injEq] at read
  have swapped := read.1.symm.trans read.2
  contradiction

end Oxlab.EventOrder
