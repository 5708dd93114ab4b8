import Oxlab.Bot.Events
import Oxlab.Library.Run

/-! Failed TRACKS_READY requests.
The handler takes any answer for an acknowledgement, a refusal too, and the set
of SSRCs has changed by the time a request fails: only a further change of the
set sends another one. -/
namespace Oxlab.TracksReady
open Common.Media Common.Signaling Bot.Events Library

variable (w : EventWire)

/-- A bot with the outcome of every TRACKS_READY it sent. `due` says that its last
call changed the set and was not answered ok, `resent` that each such call was
followed by one that sent TRACKS_READY. -/
structure Watch where
  bot : EventBot w
  outcomes : List (Option (Packet w.Json)) := []
  due : Bool := false
  resent : Bool := true

variable {w}

def isOk (outcome : Option (Packet w.Json)) : Bool := outcome.any (fun resp => resp.ok == some true)

def step (s : Watch w) (call : Call) : Option (Watch w) :=
  (s.bot.processEvents call).map (fun result =>
    { bot := result.1
      outcomes := s.outcomes ++ result.2.toList
      due := (s.bot.updated call.polled).changed && !result.2.any isOk
      resent := s.resent && (!s.due || result.2.isSome) })

def start (mode : String) (session : Option (SignalingSession w.toWire)) : Watch w :=
  { bot := { session := session, handled := { task := { mode := mode } } } }

/-- A failed TRACKS_READY is neither recorded nor forgotten. -/
structure Kept (s : Watch w) : Prop where
  recorded : s.bot.tracksAckSent = true ∨ s.bot.ackSent = true → s.outcomes.any isOk = true
  retried : s.resent = true

/-- The first TRACKS_READY to be answered is answered other than ok, or a call that
finds no change in its batch follows one whose change was not answered ok. -/
def Loses (s : Watch w) (call : Call) : Prop :=
  ((∀ outcome ∈ s.outcomes, outcome = none) ∧ (s.bot.updated call.polled).changed = true ∧
      ∃ resp, call.answer w = some resp ∧ resp.ok ≠ some true) ∨
    (s.due = true ∧ (s.bot.updated call.polled).changed = false)

/-- Both flags say whether some TRACKS_READY was answered. -/
structure Tracked (s : Watch w) : Prop where
  kept : Kept s
  marked : s.bot.tracksAckSent = s.outcomes.any Option.isSome
  stored : s.bot.ackSent = s.outcomes.any Option.isSome

theorem step_spec {s next : Watch w} {call : Call} (stepped : step s call = some next) :
    ∃ sent : Option (Option (Packet w.Json)),
      sent = (if (s.bot.updated call.polled).changed then some (call.answer w) else none) ∧
      next.bot.tracksAckSent = (s.bot.tracksAckSent || sent.any Option.isSome) ∧
      next.bot.ackSent = (s.bot.ackSent || sent.any Option.isSome) ∧
      next.outcomes = s.outcomes ++ sent.toList ∧
      next.resent = (s.resent && (!s.due || (s.bot.updated call.polled).changed)) := by
  obtain ⟨result,ran,rfl⟩ := Option.map_eq_some_iff.mp stepped
  obtain ⟨sent,marked,stored⟩ := processEvents_spec s.bot ran
  refine ⟨result.2,sent,marked,stored,rfl,?_⟩
  rw [sent]
  cases (s.bot.updated call.polled).changed <;> rfl

theorem any_answered (outcomes : List (Option (Packet w.Json)))
    (sent : Option (Option (Packet w.Json))) :
    (outcomes ++ sent.toList).any Option.isSome =
      (outcomes.any Option.isSome || sent.any Option.isSome) := by
  rw [List.any_append]
  cases sent with
  | none => rfl
  | some outcome => simp

theorem unanswered_iff (outcomes : List (Option (Packet w.Json))) :
    outcomes.any Option.isSome = false ↔ ∀ outcome ∈ outcomes, outcome = none := by
  simp [List.any_eq_false]

section step
variable {s next : Watch w} {call : Call} (tracked : Tracked s)
include tracked

theorem step_marks (stepped : step s call = some next) :
    next.bot.tracksAckSent = next.outcomes.any Option.isSome ∧
      next.bot.ackSent = next.outcomes.any Option.isSome := by
  obtain ⟨sent,_,marked,stored,outcomes,_⟩ := step_spec stepped
  rw [marked,stored,outcomes,any_answered,tracked.marked,tracked.stored]
  exact ⟨rfl,rfl⟩

theorem step_tracked (stepped : step s call = some next) (fine : ¬Loses s call) :
    Tracked next := by
  obtain ⟨marks,stores⟩ := step_marks tracked stepped
  obtain ⟨sent,which,_,_,outcomes,resent⟩ := step_spec stepped
  obtain ⟨recorded,forgotten⟩ := not_or.mp fine
  refine ⟨⟨?_,?_⟩,marks,stores⟩
  · intro flag
    rw [marks,stores,or_self,outcomes,any_answered,Bool.or_eq_true] at flag
    rw [outcomes,List.any_append,Bool.or_eq_true]
    cases before : s.outcomes.any Option.isSome with
    | true => exact Or.inl (tracked.kept.recorded (Or.inl (tracked.marked.trans before)))
    | false =>
      have answered : sent.any Option.isSome = true := by simpa [before] using flag
      rw [which] at answered
      split at answered
      next changed =>
        obtain ⟨resp,received⟩ := Option.isSome_iff_exists.mp answered
        have ok : resp.ok = some true := by
          by_contra refused
          exact recorded ⟨(unanswered_iff _).mp before,changed,resp,received,refused⟩
        rw [which,if_pos changed,received]
        simp [isOk,ok]
      next => contradiction
  · rw [resent,tracked.kept.retried]
    cases changed : (s.bot.updated call.polled).changed with
    | true => simp
    | false =>
      have settled : s.due = false := by
        by_contra due
        exact forgotten ⟨by simpa using due,changed⟩
      simp [settled]

theorem step_loses (stepped : step s call = some next) (loses : Loses s call) : ¬Kept next := by
  obtain ⟨marks,_⟩ := step_marks tracked stepped
  obtain ⟨sent,which,_,_,outcomes,resent⟩ := step_spec stepped
  intro kept
  rcases loses with refused | forgotten
  · obtain ⟨unanswered,changed,resp,received,refused⟩ := refused
    rw [if_pos changed,received] at which
    have flag : next.bot.tracksAckSent = true := by
      rw [marks,outcomes,any_answered,which]
      exact Bool.or_true _
    have ok := kept.recorded (Or.inl flag)
    rw [outcomes,which,List.any_append,Bool.or_eq_true] at ok
    rcases ok with earlier | now
    · obtain ⟨outcome,member,isOk⟩ := List.any_eq_true.mp earlier
      rw [unanswered outcome member] at isOk
      contradiction
    · simp [isOk,refused] at now
  · obtain ⟨due,same⟩ := forgotten
    have retried := kept.retried
    rw [resent,due,same] at retried
    simp at retried

end step

/-- In every state of a run of calls a failed TRACKS_READY is neither recorded nor
forgotten exactly when the first answered one is answered ok and every call whose
change was not answered ok is followed at once by a call with a change of its own. -/
theorem kept_iff (mode : String) (session : Option (SignalingSession w.toWire))
    (calls : List Call) (final : Watch w)
    (ran : Run.exec step (start mode session) calls = some final) :
    Run.Always step Kept (start mode session) calls ↔
      Run.Clean step Loses (start mode session) calls := by
  apply Run.always_iff_clean step Tracked Kept Loses
  · intro s tracked
    exact tracked.kept
  · intro s call next tracked stepped fine
    exact step_tracked tracked stepped fine
  · intro s call next tracked stepped loses
    exact step_loses tracked stepped loses
  · refine ⟨⟨?_,rfl⟩,rfl,rfl⟩
    intro flag
    rcases flag with marked | stored
    · contradiction
    · contradiction
  · exact ran

inductive Value
  | null
  | number (n : UInt64)
  | string (s : String)
  | array (items : List Value)
  | object (entries : List (String × Value))

def addText : Bytes :=
  [0x7B,0x22,0x61,0x63,0x74,0x69,0x6F,0x6E,0x22,0x3A,0x22,0x61,0x64,0x64,0x22,0x2C,
   0x22,0x74,0x72,0x61,0x63,0x6B,0x73,0x22,0x3A,0x5B,0x7B,0x22,0x73,0x73,0x72,0x63,
   0x22,0x3A,0x37,0x7D,0x5D,0x7D]

def addValue : Value :=
  .object [("action",.string "add"),("tracks",.array [.object [("ssrc",.number 7)]])]

def addWire : EventWire where
  isEvent := wire.isEvent
  isError := wire.isError
  apart := wire.apart
  Json := Value
  null := .null
  fromSlice := fun bytes => if bytes = addText then some addValue else none
  opTracksUpdate := 0x2101
  opRoomEvent := 0x2102
  opTracksReady := 0x1104
  get := fun d key =>
    match d with
    | .object entries => entries.lookup key
    | _ => none
  asStr := fun d =>
    match d with
    | .string s => some s
    | _ => none
  asArray := fun d =>
    match d with
    | .array items => some items
    | _ => none
  asU64 := fun d =>
    match d with
    | .number n => some n
    | _ => none

def added : RecvFrame := ⟨⟨0x2101,7,some .msg⟩,addText⟩

def replied (state : WireAckState) : RecvFrame := ⟨⟨0x1104,1,some state⟩,[]⟩

def connected : Watch addWire := start "conference" (some {})

/-- A refusal is recorded as an acknowledgement; a request that failed is not sent
again by the next call. -/
theorem refused_recorded :
    (¬Run.Always step Kept connected [⟨[added],[replied .ackFail]⟩]) ∧
      ¬Run.Always step Kept connected [⟨[added],[]⟩,⟨[],[]⟩] := by
  constructor
  · have ends : (Run.exec step connected [⟨[added],[replied .ackFail]⟩]).map
        (fun s => (s.bot.tracksAckSent,s.outcomes.any isOk)) = some (true,false) := by
      rfl
    apply Run.not_always step Kept _ ends
    intro s seen kept
    obtain ⟨marked,unanswered⟩ := Prod.mk.inj seen
    rw [kept.recorded (Or.inl marked)] at unanswered
    contradiction
  · have ends : (Run.exec step connected [⟨[added],[]⟩,⟨[],[]⟩]).map (·.resent) =
        some false := by
      rfl
    apply Run.not_always step Kept _ ends
    intro s seen kept
    rw [kept.retried] at seen
    contradiction

theorem kept_iff_acknowledged :
    Run.Always step Kept connected [⟨[added],[replied .ackOk]⟩] := by
  apply (kept_iff "conference" (some {}) [⟨[added],[replied .ackOk]⟩] _ rfl).mpr
  refine ⟨?_,?_⟩
  · intro loses
    rcases loses with refused | forgotten
    · obtain ⟨_,_,resp,received,refused⟩ := refused
      cases Option.some.inj received
      exact refused rfl
    · exact absurd forgotten.1 (by decide)
  · intro next _
    trivial

end Oxlab.TracksReady
