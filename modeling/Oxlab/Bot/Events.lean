import Mathlib.Data.Finset.Erase
import Oxlab.Bot.Floor
import Oxlab.Common.Signaling

/-! The event handler of a bot: TRACKS_UPDATE, the TRACKS_READY it asks for, then
the floor and room events. -/
namespace Oxlab.Bot.Events
open Common.Media Common.Signaling Floor

/-- What the handler uses of the wire crate and of the JSON values. -/
structure EventWire extends Wire where
  opTracksUpdate : UInt16
  opRoomEvent : UInt16
  opTracksReady : UInt16
  get : Json → String → Option Json
  asStr : Json → Option String
  asArray : Json → Option (List Json)
  asU64 : Json → Option UInt64

variable (w : EventWire)

def action (d : w.Json) : String := ((w.get d "action").bind w.asStr).getD ""

def trackSsrc (track : w.Json) : Option UInt32 :=
  ((w.get track "ssrc").bind w.asU64).map UInt64.toUInt32

/-- The set of SSRCs, and whether some insert or remove took effect. -/
structure Subscribed where
  ssrcs : Finset UInt32
  changed : Bool := false

def applyTrack (action : String) (s : Subscribed) (ssrc : UInt32) : Subscribed :=
  if action = "add" then ⟨insert ssrc s.ssrcs,s.changed || decide (ssrc ∉ s.ssrcs)⟩
  else if action = "remove" then ⟨s.ssrcs.erase ssrc,s.changed || decide (ssrc ∈ s.ssrcs)⟩
  else s

def applyUpdate (s : Subscribed) (evt : Packet w.Json) : Subscribed :=
  match (w.get evt.d "tracks").bind w.asArray with
  | none => s
  | some tracks => (tracks.filterMap (trackSsrc w)).foldl (applyTrack (action w evt.d)) s

def applyUpdates (ssrcs : Finset UInt32) (events : List (Packet w.Json)) : Subscribed :=
  events.foldl (applyUpdate w) { ssrcs := ssrcs }

/-- The frames a call reads: those `poll_events` finds, and those that come while
it waits for the answer to TRACKS_READY. The socket fails where `awaited` ends,
or at the send when it is empty; what stands behind an answer is not read. -/
structure Call where
  polled : List RecvFrame
  awaited : List RecvFrame

section session
variable {w} (session : SignalingSession w.toWire)

def pollEvents (polled : List RecvFrame) : SignalingSession w.toWire :=
  polled.foldl SignalingSession.bufferFrame session

/-- The loop of `request`; none for an error of the socket. -/
def awaitAnswer (op : UInt16) (session : SignalingSession w.toWire) :
    List RecvFrame → Option (Packet w.Json) × SignalingSession w.toWire
  | [] => (none,session)
  | rf::rest =>
    if isAnswer w.toWire op rf then (some (frameToPacket w.toWire rf),session)
    else awaitAnswer op (session.bufferFrame rf) rest

/-- None where the packet id overflows. -/
def tracksReady (awaited : List RecvFrame) :
    Option (Option (Packet w.Json) × SignalingSession w.toWire) :=
  session.nextPid.map (fun issued => awaitAnswer w.opTracksReady issued.2 awaited)

end session

structure EventBot where
  session : Option (SignalingSession w.toWire)
  subscribeSsrcs : Finset UInt32 := ∅
  handled : Handled

namespace EventBot
variable {w} (bot : EventBot w)

def tracksAckSent : Bool := bot.handled.task.observations.tracksAckSent

def ackSent : Bool := bot.handled.task.floorState.ackSent

def observe (observations : Observations.ObservationsInner) : EventBot w :=
  { bot with handled := { bot.handled with task := { bot.handled.task with
      observations := observations } } }

-- L1-11
def markAck : EventBot w :=
  { bot with handled := { bot.handled with task := { bot.handled.task with
      observations := bot.handled.task.observations.markTracksAckSent
      floorState := { bot.handled.task.floorState with ackSent := true } } } }

def onRoomEvent (evt : Packet w.Json) : EventBot w :=
  if action w evt.d = "leave" then
    match (w.get evt.d "user_id").bind w.asStr with
    | some uid => bot.observe (bot.handled.task.observations.recordZombieCleanup uid)
    | none => bot
  else bot

def floorAndRoomEvents : EventBot w :=
  match bot.session with
  | none => bot
  | some session =>
    let (raws,session) := session.drainFloorMbcp
    let (events,session) := session.drainAllEvents w.opRoomEvent
    events.foldl onRoomEvent
      { bot with session := some session, handled := bot.handled.processEvents raws }

def updated (polled : List RecvFrame) : Subscribed :=
  match bot.session with
  | none => { ssrcs := bot.subscribeSsrcs }
  | some session =>
    applyUpdates w bot.subscribeSsrcs
      ((pollEvents session polled).drainAllEvents w.opTracksUpdate).1

/-- The bot after a call, and the outcome of its TRACKS_READY if it sent one. An
outcome without a packet is an error, which the call returns at once. -/
def processEvents (call : Call) : Option (EventBot w × Option (Option (Packet w.Json))) :=
  match bot.session with
  | none => some (bot,none)
  | some session =>
    let session := ((pollEvents session call.polled).drainAllEvents w.opTracksUpdate).2
    let subscribed := bot.updated call.polled
    let bot := { bot with session := some session, subscribeSsrcs := subscribed.ssrcs }
    if subscribed.changed then
      (tracksReady session call.awaited).map (fun outcome =>
        let bot := { bot with session := some outcome.2 }
        match outcome.1 with
        | none => (bot,some none)
        | some resp => (bot.markAck.floorAndRoomEvents,some (some resp)))
    else some (bot.floorAndRoomEvents,none)

end EventBot

def Call.answer (call : Call) : Option (Packet w.Json) :=
  (call.awaited.find? (isAnswer w.toWire w.opTracksReady)).map (frameToPacket w.toWire)

variable {w}

theorem applyTrack_changed (action : String) (s : Subscribed) (ssrc : UInt32)
    (same : (applyTrack action s ssrc).changed = false) :
    s.changed = false ∧ (applyTrack action s ssrc).ssrcs = s.ssrcs := by
  unfold applyTrack at same ⊢
  split at same
  next add =>
    simp only [Bool.or_eq_false_iff,decide_eq_false_iff_not,not_not] at same
    rw [if_pos add]
    exact ⟨same.1,Finset.insert_eq_of_mem same.2⟩
  next other =>
    rw [if_neg other]
    split at same
    next remove =>
      simp only [Bool.or_eq_false_iff,decide_eq_false_iff_not] at same
      rw [if_pos remove]
      exact ⟨same.1,Finset.erase_eq_of_notMem same.2⟩
    next neither =>
      rw [if_neg neither]
      exact ⟨same,rfl⟩

theorem applyTracks_changed (action : String) (ssrcs : List UInt32) (s : Subscribed)
    (same : (ssrcs.foldl (applyTrack action) s).changed = false) :
    s.changed = false ∧ (ssrcs.foldl (applyTrack action) s).ssrcs = s.ssrcs := by
  induction ssrcs generalizing s with
  | nil => exact ⟨same,rfl⟩
  | cons ssrc rest ih =>
    obtain ⟨before,kept⟩ := ih (applyTrack action s ssrc) same
    obtain ⟨first,unmoved⟩ := applyTrack_changed action s ssrc before
    exact ⟨first,kept.trans unmoved⟩

theorem applyUpdates_changed (events : List (Packet w.Json)) (s : Subscribed)
    (same : (events.foldl (applyUpdate w) s).changed = false) :
    s.changed = false ∧ (events.foldl (applyUpdate w) s).ssrcs = s.ssrcs := by
  induction events generalizing s with
  | nil => exact ⟨same,rfl⟩
  | cons evt rest ih =>
    obtain ⟨before,kept⟩ := ih (applyUpdate w s evt) same
    rw [List.foldl_cons,kept]
    unfold applyUpdate at before ⊢
    split at before
    next => exact ⟨before,rfl⟩
    next tracks _ => exact applyTracks_changed (action w evt.d) _ s before

theorem updated_same (bot : EventBot w) (polled : List RecvFrame)
    (same : (bot.updated polled).changed = false) :
    (bot.updated polled).ssrcs = bot.subscribeSsrcs := by
  unfold EventBot.updated at same ⊢
  split at same
  next => rfl
  next session _ => exact (applyUpdates_changed _ _ same).2

theorem awaitAnswer_fst (op : UInt16) (session : SignalingSession w.toWire)
    (awaited : List RecvFrame) : (awaitAnswer op session awaited).1 =
      (awaited.find? (isAnswer w.toWire op)).map (frameToPacket w.toWire) := by
  induction awaited generalizing session with
  | nil => rfl
  | cons rf rest ih =>
    unfold awaitAnswer
    split
    next answer => rw [List.find?_cons_of_pos answer]; rfl
    next other => rw [List.find?_cons_of_neg other,ih]

section flags
variable (bot : EventBot w)

theorem processOne_ackSent (s : Handled) (raw : Bytes) :
    (s.processOne raw).task.floorState.ackSent = s.task.floorState.ackSent := by
  unfold Handled.processOne
  split
  next => rfl
  next kind _ => cases kind <;> rfl

theorem processEvents_ackSent (s : Handled) (raws : List Bytes) :
    (s.processEvents raws).task.floorState.ackSent = s.task.floorState.ackSent := by
  induction raws generalizing s with
  | nil => rfl
  | cons raw rest ih => exact (ih (s.processOne raw)).trans (processOne_ackSent s raw)

theorem onRoomEvent_flags (evt : Packet w.Json) :
    (bot.onRoomEvent evt).tracksAckSent = bot.tracksAckSent ∧
      (bot.onRoomEvent evt).ackSent = bot.ackSent := by
  unfold EventBot.onRoomEvent
  split
  next => split <;> exact ⟨rfl,rfl⟩
  next => exact ⟨rfl,rfl⟩

theorem onRoomEvents_flags (events : List (Packet w.Json)) :
    (events.foldl EventBot.onRoomEvent bot).tracksAckSent = bot.tracksAckSent ∧
      (events.foldl EventBot.onRoomEvent bot).ackSent = bot.ackSent := by
  induction events generalizing bot with
  | nil => exact ⟨rfl,rfl⟩
  | cons evt rest ih =>
    obtain ⟨marked,stored⟩ := onRoomEvent_flags bot evt
    obtain ⟨later,kept⟩ := ih (bot.onRoomEvent evt)
    exact ⟨later.trans marked,kept.trans stored⟩

theorem floorAndRoomEvents_flags :
    bot.floorAndRoomEvents.tracksAckSent = bot.tracksAckSent ∧
      bot.floorAndRoomEvents.ackSent = bot.ackSent := by
  unfold EventBot.floorAndRoomEvents
  split
  next => exact ⟨rfl,rfl⟩
  next session _ =>
    obtain ⟨marked,stored⟩ := onRoomEvents_flags
      { bot with
        session := some (session.drainFloorMbcp.2.drainAllEvents w.opRoomEvent).2
        handled := bot.handled.processEvents session.drainFloorMbcp.1 }
      (session.drainFloorMbcp.2.drainAllEvents w.opRoomEvent).1
    have tallied := (processEvents_observed bot.handled session.drainFloorMbcp.1).2
    refine ⟨marked.trans ?_,stored.trans ?_⟩
    · exact congrArg Subscribe.Tally.tracksAckSent tallied
    · exact processEvents_ackSent bot.handled session.drainFloorMbcp.1

/-- A call sends TRACKS_READY when its own batch changed the set, and marks both
flags when that is answered, whatever the answer says. -/
theorem processEvents_spec {call : Call} {next : EventBot w}
    {sent : Option (Option (Packet w.Json))}
    (ran : bot.processEvents call = some (next,sent)) :
    sent = (if (bot.updated call.polled).changed then some (call.answer w) else none) ∧
      next.tracksAckSent = (bot.tracksAckSent || sent.any Option.isSome) ∧
      next.ackSent = (bot.ackSent || sent.any Option.isSome) := by
  unfold EventBot.processEvents at ran
  split at ran
  next absent =>
    cases Option.some.inj ran
    simp [EventBot.updated,absent]
  next session present =>
    simp only at ran
    split at ran
    next changed =>
      obtain ⟨outcome,asked,result⟩ := Option.map_eq_some_iff.mp ran
      obtain ⟨issued,_,rfl⟩ := Option.map_eq_some_iff.mp asked
      have answer := awaitAnswer_fst w.opTracksReady issued.2 call.awaited
      rw [if_pos changed,Call.answer,← answer]
      split at result
      next failed =>
        cases result
        rw [failed]
        exact ⟨rfl,(Bool.or_false _).symm,(Bool.or_false _).symm⟩
      next resp received =>
        cases result
        rw [received]
        obtain ⟨marked,stored⟩ := floorAndRoomEvents_flags ({ bot with
          session := some (awaitAnswer w.opTracksReady issued.2 call.awaited).2
          subscribeSsrcs := (bot.updated call.polled).ssrcs } : EventBot w).markAck
        exact ⟨rfl,marked.trans (Bool.or_true _).symm,stored.trans (Bool.or_true _).symm⟩
    next same =>
      cases Option.some.inj ran
      rw [if_neg same]
      obtain ⟨marked,stored⟩ := floorAndRoomEvents_flags ({ bot with
        session := some ((pollEvents session call.polled).drainAllEvents w.opTracksUpdate).2
        subscribeSsrcs := (bot.updated call.polled).ssrcs } : EventBot w)
      exact ⟨rfl,marked.trans (Bool.or_false _).symm,stored.trans (Bool.or_false _).symm⟩

end flags
end Oxlab.Bot.Events
