import Oxlab.Common.Signaling
import Oxlab.Library.Run

/-! Requests and the frames taken for their answers.
`request` matches an ACK by its opcode and takes any ERROR frame; the id that
both carry is not compared. A refused floor send is answered under its own id,
and whichever request reads next takes that for its answer. -/
namespace Oxlab.SignalingRequest
open Common.Media Common.Signaling Library

inductive Origin
  | answer
  | floorError
  | event
  deriving DecidableEq

inductive Label
  | request (op : UInt16)
  | sendFloorMbcp
  | serverAnswers (op : UInt16) (rf : RecvFrame)
  | serverRefusesFloor (rf : RecvFrame)
  | serverEvent (rf : RecvFrame)
  | read (rf : RecvFrame) (origin : Origin)

variable (w : Wire)

/-- A session in a request or between calls, what the server may still answer,
the frames under way in order, and the packet each request returned. -/
structure Channel where
  session : SignalingSession w := {}
  waiting : Option (UInt16 × UInt32) := none
  owed : List (UInt16 × UInt32) := []
  floorPids : List UInt32 := []
  inbox : List (RecvFrame × Origin) := []
  results : List (UInt32 × Packet w.Json) := []

variable {w}

/-- `request` stands for `request_routed` and `heartbeat` too, which differ in
the opcode and the body. The server answers each request once, with an ACK of
its opcode or an ERROR frame under its id. -/
def step (s : Channel w) : Label → Option (Channel w)
  | .request op =>
    match s.waiting,s.session.nextPid with
    | none,some (pid,session) =>
      some { s with session := session, waiting := some (op,pid), owed := s.owed ++ [(op,pid)] }
    | _,_ => none
  | .sendFloorMbcp =>
    match s.waiting,s.session.nextPid with
    | none,some (pid,session) =>
      some { s with session := session, floorPids := s.floorPids ++ [pid] }
    | _,_ => none
  | .serverAnswers op rf =>
    if (op,rf.header.pid) ∈ s.owed ∧ isAnswer w op rf then
      some { s with
        owed := s.owed.erase (op,rf.header.pid)
        inbox := s.inbox ++ [(rf,.answer)] }
    else none
  | .serverRefusesFloor rf =>
    if rf.header.pid ∈ s.floorPids ∧ w.isError rf.header.op then
      some { s with
        floorPids := s.floorPids.erase rf.header.pid
        inbox := s.inbox ++ [(rf,.floorError)] }
    else none
  | .serverEvent rf =>
    if w.isEvent rf.header.op ∧ rf.header.ackState = some .msg then
      some { s with inbox := s.inbox ++ [(rf,.event)] }
    else none
  | .read rf origin =>
    match s.waiting with
    | none => none
    | some (op,pid) =>
      if s.inbox.head? = some (rf,origin) then
        let s := { s with inbox := s.inbox.tail }
        some (if isAnswer w op rf then
            { s with waiting := none, results := s.results ++ [(pid,frameToPacket w rf)] }
          else { s with session := s.session.bufferFrame rf })
      else none

def Matched (s : Channel w) : Prop := ∀ r ∈ s.results, r.2.pid = r.1

def takesFloorError : Label → Prop
  | .read _ .floorError => True
  | _ => False

def answerPids (inbox : List (RecvFrame × Origin)) : List UInt32 :=
  (inbox.filter (·.2 = .answer)).map (·.1.header.pid)

/-- A pid of a floor send: issued before, and not the one waited for. -/
def Foreign (s : Channel w) (pid : UInt32) : Prop :=
  pid.toNat < s.session.pid.toNat ∧ ∀ request, s.waiting = some request → pid ≠ request.2

structure Orderly (s : Channel w) : Prop where
  matched : Matched s
  -- the one answer under way is that of the request in progress
  due : s.owed.map Prod.snd ++ answerPids s.inbox = (s.waiting.map Prod.snd).toList
  asked : ∀ request ∈ s.owed, s.waiting = some request
  answers : ∀ rf, (rf,Origin.answer) ∈ s.inbox → ∀ request, s.waiting = some request →
    isAnswer w request.1 rf
  events : ∀ rf, (rf,Origin.event) ∈ s.inbox → ∀ op, isAnswer w op rf = false
  floorSends : ∀ pid ∈ s.floorPids, Foreign s pid
  floorErrors : ∀ rf, (rf,Origin.floorError) ∈ s.inbox →
    w.isError rf.header.op ∧ Foreign s rf.header.pid

theorem nextPid_spec {s next : SignalingSession w} {pid : UInt32}
    (issued : s.nextPid = some (pid,next)) :
    pid = s.pid ∧ next.pid.toNat = s.pid.toNat + 1 := by
  unfold SignalingSession.nextPid at issued
  split at issued
  next small =>
    cases Option.some.inj issued
    refine ⟨rfl,?_⟩
    rw [UInt32.toNat_add]
    exact Nat.mod_eq_of_lt small
  next => contradiction

@[simp] theorem bufferFrame_pid (s : SignalingSession w) (rf : RecvFrame) :
    (s.bufferFrame rf).pid = s.pid := by
  unfold SignalingSession.bufferFrame
  split <;> rfl

theorem event_isAnswer {rf : RecvFrame} (event : w.isEvent rf.header.op)
    (state : rf.header.ackState = some .msg) (op : UInt16) : isAnswer w op rf = false := by
  simp [isAnswer,state,w.apart _ event,WireAckState.isAck]

theorem read_cases {s next : Channel w} {rf : RecvFrame} {origin : Origin}
    (stepped : step s (.read rf origin) = some next) :
    ∃ op pid rest, s.waiting = some (op,pid) ∧ s.inbox = (rf,origin)::rest ∧
      next = if isAnswer w op rf then
          { s with
            inbox := rest
            waiting := none
            results := s.results ++ [(pid,frameToPacket w rf)] }
        else { s with inbox := rest, session := s.session.bufferFrame rf } := by
  simp only [step] at stepped
  split at stepped
  next => contradiction
  next op pid waiting =>
    simp only [Option.ite_none_right_eq_some,Option.some.injEq] at stepped
    obtain ⟨first,rfl⟩ := stepped
    obtain ⟨rest,inbox⟩ := List.head?_eq_some_iff.mp first
    exact ⟨op,pid,rest,waiting,inbox,by rw [inbox]; rfl⟩

section step
variable {s next : Channel w} (orderly : Orderly s)
include orderly

theorem request_orderly {op : UInt16} (stepped : step s (.request op) = some next) :
    Orderly next := by
  simp only [step] at stepped
  split at stepped
  next pid session free issued =>
    cases Option.some.inj stepped
    obtain ⟨rfl,later⟩ := nextPid_spec issued
    have due := orderly.due
    rw [free,Option.map_none,Option.toList_none,List.append_eq_nil_iff,List.map_eq_nil_iff] at due
    have older (pid : UInt32) (foreign : Foreign s pid) : pid.toNat < session.pid.toNat ∧
        ∀ request, some (op,s.session.pid) = some request → pid ≠ request.2 := by
      refine ⟨by have := foreign.1; omega,?_⟩
      rintro request asked rfl
      cases Option.some.inj asked
      exact Nat.lt_irrefl _ foreign.1
    refine ⟨orderly.matched,?_,?_,?_,orderly.events,?_,?_⟩
    · simp [due.1,due.2]
    · simp [due.1]
    · intro rf member
      have pid : rf.header.pid ∈ answerPids s.inbox := by
        simp only [answerPids,List.mem_map,List.mem_filter]
        exact ⟨_,⟨member,by simp⟩,rfl⟩
      simp [due.2] at pid
    · intro pid member
      exact older pid (orderly.floorSends pid member)
    · intro rf member
      obtain ⟨error,foreign⟩ := orderly.floorErrors rf member
      exact ⟨error,older _ foreign⟩
  next => contradiction

theorem sendFloorMbcp_orderly (stepped : step s .sendFloorMbcp = some next) : Orderly next := by
  simp only [step] at stepped
  split at stepped
  next pid session free issued =>
    cases Option.some.inj stepped
    obtain ⟨rfl,later⟩ := nextPid_spec issued
    have older (pid : UInt32) (foreign : Foreign s pid) :
        Foreign { s with session := session, floorPids := s.floorPids ++ [s.session.pid] } pid :=
      ⟨by have := foreign.1; dsimp only; omega,foreign.2⟩
    refine ⟨orderly.matched,orderly.due,orderly.asked,orderly.answers,orderly.events,?_,?_⟩
    · intro pid member
      rcases List.mem_append.mp member with old | new
      · exact older pid (orderly.floorSends pid old)
      · obtain rfl := List.mem_singleton.mp new
        refine ⟨by dsimp only; omega,?_⟩
        intro request asked
        simp [free] at asked
    · intro rf member
      obtain ⟨error,foreign⟩ := orderly.floorErrors rf member
      exact ⟨error,older _ foreign⟩
  next => contradiction

theorem serverAnswers_orderly {op : UInt16} {rf : RecvFrame}
    (stepped : step s (.serverAnswers op rf) = some next) : Orderly next := by
  simp only [step,Option.ite_none_right_eq_some,Option.some.injEq] at stepped
  obtain ⟨⟨owed,answer⟩,rfl⟩ := stepped
  have asked := orderly.asked _ owed
  have due := orderly.due
  -- the request in progress is all that is owed, and nothing is under way yet
  obtain ⟨alone,quiet⟩ : s.owed = [(op,rf.header.pid)] ∧ answerPids s.inbox = [] := by
    obtain ⟨before,after,split⟩ := List.append_of_mem owed
    have short := congrArg List.length due
    rw [asked,split] at short
    simp only [Option.map_some,Option.toList_some,List.length_append,List.length_map,
      List.length_cons,List.length_nil] at short
    have first : before = [] := List.eq_nil_of_length_eq_zero (by omega)
    have last : after = [] := List.eq_nil_of_length_eq_zero (by omega)
    exact ⟨by rw [split,first,last]; rfl,List.eq_nil_of_length_eq_zero (by omega)⟩
  refine ⟨orderly.matched,?_,?_,?_,?_,orderly.floorSends,?_⟩
  · rw [alone,asked]
    simp only [answerPids] at quiet
    simp [answerPids,quiet]
  · rw [alone]
    simp
  · intro other member request same
    rw [asked] at same
    cases Option.some.inj same
    rcases List.mem_append.mp member with old | new
    · exact orderly.answers other old _ asked
    · simp only [List.mem_singleton,Prod.mk.injEq] at new
      exact new.1 ▸ answer
  · intro other member
    exact orderly.events other (by simpa using member)
  · intro other member
    exact orderly.floorErrors other (by simpa using member)

theorem serverRefusesFloor_orderly {rf : RecvFrame}
    (stepped : step s (.serverRefusesFloor rf) = some next) : Orderly next := by
  simp only [step,Option.ite_none_right_eq_some,Option.some.injEq] at stepped
  obtain ⟨⟨sent,error⟩,rfl⟩ := stepped
  refine ⟨orderly.matched,?_,orderly.asked,?_,?_,?_,?_⟩
  · simpa [answerPids] using orderly.due
  · intro other member
    exact orderly.answers other (by simpa using member)
  · intro other member
    exact orderly.events other (by simpa using member)
  · intro pid member
    exact orderly.floorSends pid (List.mem_of_mem_erase member)
  · intro other member
    rcases List.mem_append.mp member with old | new
    · exact orderly.floorErrors other old
    · obtain rfl : other = rf := by simpa using new
      exact ⟨error,orderly.floorSends _ sent⟩

theorem serverEvent_orderly {rf : RecvFrame} (stepped : step s (.serverEvent rf) = some next) :
    Orderly next := by
  simp only [step,Option.ite_none_right_eq_some,Option.some.injEq] at stepped
  obtain ⟨⟨event,state⟩,rfl⟩ := stepped
  refine ⟨orderly.matched,?_,orderly.asked,?_,?_,orderly.floorSends,?_⟩
  · simpa [answerPids] using orderly.due
  · intro other member
    exact orderly.answers other (by simpa using member)
  · intro other member
    rcases List.mem_append.mp member with old | new
    · exact orderly.events other old
    · simp only [List.mem_singleton,Prod.mk.injEq] at new
      exact new.1 ▸ event_isAnswer event state
  · intro other member
    exact orderly.floorErrors other (by simpa using member)

theorem readAnswer_orderly {rf : RecvFrame} (stepped : step s (.read rf .answer) = some next) :
    Orderly next := by
  obtain ⟨op,pid,rest,waiting,inbox,rfl⟩ := read_cases stepped
  have answer := orderly.answers rf (by simp [inbox]) _ waiting
  rw [if_pos answer]
  have due := orderly.due
  rw [waiting,inbox] at due
  obtain ⟨settled,own,quiet⟩ : s.owed = [] ∧ rf.header.pid = pid ∧ answerPids rest = [] := by
    have total : s.owed.map Prod.snd ++ rf.header.pid::answerPids rest = [pid] := by
      simpa [answerPids] using due
    obtain ⟨none,one⟩ | ⟨some,none⟩ := List.append_eq_singleton_iff.mp total
    · obtain ⟨same,rest⟩ := List.cons.inj one
      exact ⟨List.map_eq_nil_iff.mp none,same,rest⟩
    · contradiction
  refine ⟨?_,?_,?_,?_,?_,?_,?_⟩
  · intro r member
    rcases List.mem_append.mp member with old | new
    · exact orderly.matched r old
    · obtain rfl := List.mem_singleton.mp new
      exact own
  · simp [settled,quiet]
  · simp [settled]
  · intro other _ request asked
    contradiction
  · intro other member
    exact orderly.events other (by simp [inbox,member])
  · intro id member
    exact ⟨(orderly.floorSends id member).1,by intro request asked; contradiction⟩
  · intro other member
    obtain ⟨error,foreign⟩ := orderly.floorErrors other (by simp [inbox,member])
    exact ⟨error,foreign.1,by intro request asked; contradiction⟩

theorem readEvent_orderly {rf : RecvFrame} (stepped : step s (.read rf .event) = some next) :
    Orderly next := by
  obtain ⟨op,pid,rest,waiting,inbox,rfl⟩ := read_cases stepped
  have other : ¬isAnswer w op rf := by simp [orderly.events rf (by simp [inbox]) op]
  rw [if_neg other]
  have foreign (id : UInt32) (was : Foreign s id) :
      Foreign { s with inbox := rest, session := s.session.bufferFrame rf } id :=
    ⟨by rw [bufferFrame_pid]; exact was.1,was.2⟩
  refine ⟨orderly.matched,?_,orderly.asked,?_,?_,?_,?_⟩
  · have due := orderly.due
    rw [inbox] at due
    simpa [answerPids] using due
  · intro answer member
    exact orderly.answers answer (by simp [inbox,member])
  · intro event member
    exact orderly.events event (by simp [inbox,member])
  · intro id member
    exact foreign id (orderly.floorSends id member)
  · intro error member
    obtain ⟨refused,was⟩ := orderly.floorErrors error (by simp [inbox,member])
    exact ⟨refused,foreign _ was⟩

theorem step_orderly {label : Label} (stepped : step s label = some next)
    (fine : ¬takesFloorError label) : Orderly next := by
  cases label with
  | request op => exact request_orderly orderly stepped
  | sendFloorMbcp => exact sendFloorMbcp_orderly orderly stepped
  | serverAnswers op rf => exact serverAnswers_orderly orderly stepped
  | serverRefusesFloor rf => exact serverRefusesFloor_orderly orderly stepped
  | serverEvent rf => exact serverEvent_orderly orderly stepped
  | read rf origin =>
    cases origin with
    | answer => exact readAnswer_orderly orderly stepped
    | event => exact readEvent_orderly orderly stepped
    | floorError => exact absurd trivial fine

theorem step_mismatched {label : Label} (stepped : step s label = some next)
    (takes : takesFloorError label) : ¬Matched next := by
  cases label with
  | read rf origin =>
    cases origin with
    | floorError =>
      obtain ⟨op,pid,rest,waiting,inbox,rfl⟩ := read_cases stepped
      obtain ⟨error,_,foreign⟩ := orderly.floorErrors rf (by simp [inbox])
      rw [if_pos (by simp [isAnswer,error])]
      intro matched
      exact foreign _ waiting (matched (pid,frameToPacket w rf) (by simp))
    | answer => exact takes.elim
    | event => exact takes.elim
  | _ => exact takes.elim

end step

/-- Every request returns a packet under its own id, in every state of a run,
exactly when no request reads the refusal of a floor send. -/
theorem matched_iff (labels : List Label) (final : Channel w)
    (ran : Run.exec step {} labels = some final) :
    Run.Always step Matched ({} : Channel w) labels ↔ ∀ rf, .read rf .floorError ∉ labels := by
  have clean := Run.always_iff_clean step Orderly Matched (fun _ => takesFloorError)
    (fun _ orderly => orderly.matched)
    (fun _ _ _ orderly stepped fine => step_orderly orderly stepped fine)
    (fun _ _ _ orderly stepped takes => step_mismatched orderly stepped takes)
    labels {} final
    ⟨by simp [Matched],rfl,by simp,by simp,by simp,by simp,by simp⟩ ran
  rw [clean,Run.clean_forall step takesFloorError {} final labels ran]
  constructor
  · intro fine rf member
    exact fine _ member trivial
  · intro none label member takes
    match label,takes with
    | .read rf .floorError,_ => exact none rf member

def refusal : RecvFrame := ⟨⟨0xF000,1,some .msg⟩,[]⟩

def ready (pid : UInt32) : RecvFrame := ⟨⟨0x1103,pid,some .ackOk⟩,[]⟩

/-- One refused floor send, then two requests of one opcode, each read once. -/
def shifted : List Label :=
  [.sendFloorMbcp,.serverRefusesFloor refusal,
    .request 0x1103,.serverAnswers 0x1103 (ready 2),.read refusal .floorError,
    .request 0x1103,.serverAnswers 0x1103 (ready 3),.read (ready 2) .answer]

theorem shifted_mismatches :
    (Run.exec step ({} : Channel wire) shifted).map (fun s =>
        s.results.map (fun r => (r.1,r.2.pid))) = some [(2,1),(3,2)] ∧
      ¬Run.Always step Matched ({} : Channel wire) shifted := by
  have shift : (Run.exec step ({} : Channel wire) shifted).map (fun s =>
      s.results.map (fun r => (r.1,r.2.pid))) = some [(2,1),(3,2)] := by
    decide +kernel
  refine ⟨shift,?_⟩
  apply Run.not_always step _ _ shift
  intro s results matched
  have pair : ((2 : UInt32),(1 : UInt32)) ∈ s.results.map (fun r => (r.1,r.2.pid)) := by
    rw [results]
    simp
  obtain ⟨r,member,same⟩ := List.mem_map.mp pair
  have own := matched r member
  obtain ⟨asked,answered⟩ := Prod.mk.inj same
  rw [asked,answered] at own
  exact absurd own (by decide)

theorem matched_iff_answered : Run.Always step Matched ({} : Channel wire)
    [.request 0x1103,.serverAnswers 0x1103 (ready 1),.read (ready 1) .answer,.sendFloorMbcp] := by
  have runs : (Run.exec step ({} : Channel wire)
      [.request 0x1103,.serverAnswers 0x1103 (ready 1),.read (ready 1) .answer,
        .sendFloorMbcp]).isSome := by
    decide +kernel
  obtain ⟨final,ran⟩ := Option.isSome_iff_exists.mp runs
  refine (matched_iff _ final ran).mpr ?_
  intro rf
  simp

end Oxlab.SignalingRequest
