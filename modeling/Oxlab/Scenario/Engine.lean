import Mathlib.Algebra.Order.Ring.Rat
import Mathlib.Data.List.FinRange
import Mathlib.Data.List.Sort
import Mathlib.Logic.Function.Basic
import Oxlab.Bot.Lifecycle
import Oxlab.Library.Run

/-! The scenario engine: the actions of a script over the bots of its
participants, up to their disconnect. The outside answers each call in turn. Besides the
errors it collects, the engine keeps a log of the steps it took. -/
namespace Oxlab.Scenario.Engine
open Bot.Lifecycle Library Relation

inductive ActionType
  | allJoin
  | startMedia
  | pttRequest
  | pttRelease
  | pttAlternate
  | networkTransition
  | killBot
  | wait
  deriving DecidableEq

/-- Times are exact; how long a wait takes is left to the outside. -/
structure Action where
  atSec : ℚ
  actionType : ActionType
  actor : Option String := none
  actors : Option (List String) := none
  priority : Option UInt8 := none
  profile : Option String := none
  count : Option UInt32 := none

structure ParticipantDef where
  id : String
  profile : String := "pristine"

structure ScenarioDef where
  name : String
  mode : String := "conference"
  judgement : Option String := none
  categories : List String := []
  participants : List ParticipantDef
  actions : List Action

/-- What a handler met: a call of a bot with its answer and the error it returned, a
required field that is not there, an id that is no participant's, or a room that
nobody made. -/
inductive Step (n : Nat)
  | call (bot : Fin n) (op : BotOp) (response : Response) (error : Option String)
  | missing
  | unknown
  | noRoom

/-- A step with the action it belongs to, none for the engine's own. -/
structure Logged (n : Nat) where
  action : Option ActionType
  step : Step n

/-- `clock` counts the calls and the waits. -/
structure EngineState (n : Nat) where
  bots : Fin n → BotState := fun _ => {}
  errors : List String := []
  log : List (Logged n) := []
  clock : Nat := 0

namespace EngineState
variable {n : Nat}

def pushError (e : EngineState n) (text : String) : EngineState n := { e with errors := e.errors ++ [text] }

def note (e : EngineState n) (action : Option ActionType) (step : Step n) : EngineState n :=
  { e with log := e.log ++ [⟨action,step⟩] }

variable (outside : Nat → Response)

/-- The engine behind a call of a bot, which the log keeps with its answer. -/
def called (e : EngineState n) (action : Option ActionType) (i : Fin n) (op : BotOp)
    (response : Response) (error : Option String) : EngineState n where
  bots := Function.update e.bots i (op.after response (e.bots i))
  errors := e.errors
  log := e.log ++ [⟨action,.call i op response error⟩]
  clock := e.clock + 1

def call (e : EngineState n) (action : Option ActionType) (i : Fin n) (op : BotOp) :
    Except String Response × EngineState n :=
  match op.run (outside e.clock) (e.bots i) with
  | .ok _ => (.ok (outside e.clock),e.called action i op (outside e.clock) none)
  | .error error => (.error error,e.called action i op (outside e.clock) (some error))

def heartbeatOne (e : EngineState n) (i : Fin n) : EngineState n :=
  let active := (e.bots i).status == .joined || (e.bots i).status == .mediaReady ||
    (e.bots i).status == .publishing
  let e := if active then (e.call outside none i .heartbeat).2 else e
  if (e.bots i).status = .publishing then (e.call outside none i .processEvents).2 else e

def waitWithHeartbeat (e : EngineState n) : EngineState n :=
  let rounds := (outside e.clock).rounds
  (fun e => (List.finRange n).foldl (heartbeatOne outside) e)^[rounds] { e with clock := e.clock + 1 }

end EngineState

section actions
variable (scenario : ScenarioDef) (outside : Nat → Response)

abbrev Place := Fin scenario.participants.length

abbrev ScenarioEngine := EngineState scenario.participants.length

/-- The last participant of an id, as a map filled in order keeps it. -/
def botIndex (id : String) : Option (Place scenario) :=
  (List.finRange _).reverse.find? (fun i => (scenario.participants.get i).id = id)

def joinOne (s : Option String × ScenarioEngine scenario) (i : Place scenario) :
    Option String × ScenarioEngine scenario :=
  let botId := (scenario.participants.get i).id
  if i.val = 0 then
    match s.2.call outside (some .allJoin) i .connectAndJoin with
    | (.ok _,e) => ((e.bots i).roomId,e)
    | (.error error,e) => (s.1,e.pushError (botId ++ ": join failed: " ++ error))
  else
    match s.1 with
    | none => (none,(s.2.note (some .allJoin) .noRoom).pushError (botId ++ ": no room_id"))
    | some rid =>
      match s.2.call outside (some .allJoin) i (.joinExistingRoom rid) with
      | (.ok _,e) => (s.1,e)
      | (.error error,e) => (s.1,e.pushError (botId ++ ": join failed: " ++ error))

def actionAllJoin (e : ScenarioEngine scenario) : ScenarioEngine scenario :=
  ((List.finRange _).foldl (joinOne scenario outside) (none,e)).2

/-- One step of `action_start_media`; the next ones run when it succeeds. -/
def mediaStep (i : Place scenario) (op : BotOp) (label : String)
    (rest : ScenarioEngine scenario → ScenarioEngine scenario) (e : ScenarioEngine scenario) :
    ScenarioEngine scenario :=
  match e.call outside (some .startMedia) i op with
  | (.ok _,e) => rest e
  | (.error error,e) =>
    e.pushError ((scenario.participants.get i).id ++ ": " ++ label ++ ": " ++ error)

def startOne (e : ScenarioEngine scenario) (i : Place scenario) : ScenarioEngine scenario :=
  if (e.bots i).status ≠ .joined then e
  else
    mediaStep scenario outside i .setupMedia "media setup"
      (mediaStep scenario outside i .publishIntent "publish_intent"
        (mediaStep scenario outside i .startPublishing "start_publishing" id)) e

def discoverOne (e : ScenarioEngine scenario) (i : Place scenario) : ScenarioEngine scenario :=
  if (e.bots i).status = .publishing then
    (e.call outside (some .startMedia) i .processEvents).2
  else e

def actionStartMedia (e : ScenarioEngine scenario) : ScenarioEngine scenario :=
  let e := (List.finRange _).foldl (startOne scenario outside) e
  (List.finRange _).foldl (discoverOne scenario outside) e

/-- Both floor actions: the action and its name, the bot's call, and the actor. -/
def actionFloor (kind : ActionType) (label : String) (op : BotOp) (actor : Option String)
    (e : ScenarioEngine scenario) : ScenarioEngine scenario :=
  match actor with
  | none => (e.note (some kind) .missing).pushError (label ++ ": missing actor")
  | some actor =>
    match botIndex scenario actor with
    | none => e.note (some kind) .unknown
    | some i =>
      match e.call outside (some kind) i op with
      | (.ok _,e) => e
      | (.error error,e) => e.pushError (actor ++ ": " ++ label ++ ": " ++ error)

def actionPttRequest (action : Action) (e : ScenarioEngine scenario) : ScenarioEngine scenario :=
  actionFloor scenario outside .pttRequest "ptt_request"
    (.floorRequestWs (action.priority.getD 0)) action.actor e

def actionPttRelease (action : Action) (e : ScenarioEngine scenario) : ScenarioEngine scenario :=
  actionFloor scenario outside .pttRelease "ptt_release" .floorReleaseWs action.actor e

def alternateOne (e : ScenarioEngine scenario) (actorId : String) : ScenarioEngine scenario :=
  match botIndex scenario actorId with
  | none => e.note (some .pttAlternate) .unknown
  | some i =>
    match e.call outside (some .pttAlternate) i (.floorRequestWs 0) with
    | (.ok response,e) =>
      if response.granted then
        ((e.waitWithHeartbeat outside).call outside (some .pttAlternate) i .floorReleaseWs).2
      else e
    | (.error _,e) => e

def actionPttAlternate (action : Action) (e : ScenarioEngine scenario) : ScenarioEngine scenario :=
  match action.actors with
  | none => (e.note (some .pttAlternate) .missing).pushError "ptt_alternate: missing actors"
  | some [] => (e.note (some .pttAlternate) .missing).pushError "ptt_alternate: missing actors"
  | some (actor::others) =>
    (fun e => (actor::others).foldl (alternateOne scenario outside) e)^[(action.count.getD 1).toNat] e

/-- The actions on one bot that cannot fail once the bot is found. -/
def actionSilent (kind : ActionType) (op : Option BotOp) (actor : Option String)
    (e : ScenarioEngine scenario) : ScenarioEngine scenario :=
  match actor,op with
  | some actor,some op =>
    match botIndex scenario actor with
    | none => e.note (some kind) .unknown
    | some i => (e.call outside (some kind) i op).2
  | _,_ => e.note (some kind) .missing

def actionNetworkTransition (action : Action) (e : ScenarioEngine scenario) :
    ScenarioEngine scenario :=
  actionSilent scenario outside .networkTransition (action.profile.map .updateNetFilter)
    action.actor e

def actionKillBot (action : Action) (e : ScenarioEngine scenario) : ScenarioEngine scenario :=
  actionSilent scenario outside .killBot (some .disconnect) action.actor e

def executeAction (e : ScenarioEngine scenario) (action : Action) : ScenarioEngine scenario :=
  match action.actionType with
  | .allJoin => actionAllJoin scenario outside e
  | .startMedia => actionStartMedia scenario outside e
  | .pttRequest => actionPttRequest scenario outside action e
  | .pttRelease => actionPttRelease scenario outside action e
  | .pttAlternate => actionPttAlternate scenario outside action e
  | .networkTransition => actionNetworkTransition scenario outside action e
  | .killBot => actionKillBot scenario outside action e
  | .wait => e.waitWithHeartbeat outside

/-- The engine behind its last action: the actions in a stable order by time, a wait
before each. The times are not negative: the code panics on a negative one. -/
def timeline : ScenarioEngine scenario :=
  (scenario.actions.insertionSort (fun a b => a.atSec ≤ b.atSec)).foldl
    (fun e action => executeAction scenario outside (e.waitWithHeartbeat outside) action) {}

def disconnectOne (e : ScenarioEngine scenario) (i : Place scenario) : ScenarioEngine scenario :=
  (e.call outside none i .disconnect).2

def disconnectAll (e : ScenarioEngine scenario) : ScenarioEngine scenario :=
  (List.finRange _).foldl (disconnectOne scenario outside) e

end actions

/-! What the engine does, in moves: it waits, or it takes a step that the log
keeps, and puts an error behind exactly those steps that are to be told. -/

/-- The calls that a script stands for; the engine makes the others of its own. -/
def demanded : BotOp → Bool
  | .connectAndJoin => true
  | .joinExistingRoom _ => true
  | .setupMedia => true
  | .publishIntent => true
  | .startPublishing => true
  | .floorRequestWs _ => true
  | .floorReleaseWs => true
  | _ => false

section moves
variable {n : Nat}

namespace Step

def fails : Step n → Bool
  | .call _ op _ (some _) => demanded op
  | .call _ _ _ none => false
  | .missing => true
  | .unknown => true
  | .noRoom => true

def effect (bots : Fin n → BotState) : Step n → Fin n → BotState
  | .call i op response _ => Function.update bots i (op.after response (bots i))
  | _ => bots

end Step

namespace Logged

/-- The handlers that tell of a failure of this kind. -/
def told (entry : Logged n) : Bool :=
  match entry.action,entry.step with
  | some .allJoin,_ => true
  | some .startMedia,_ => true
  | some .pttRequest,.unknown => false
  | some .pttRequest,_ => true
  | some .pttRelease,.unknown => false
  | some .pttRelease,_ => true
  | some .pttAlternate,.missing => true
  | _,_ => false

def pushes (entry : Logged n) : Bool := entry.step.fails && entry.told

end Logged

inductive Move : EngineState n → EngineState n → Prop
  | waited (e : EngineState n) (clock : Nat) : Move e { e with clock := clock }
  | took (e : EngineState n) (entry : Logged n) (texts : List String) (clock : Nat)
      (telling : texts = [] ↔ entry.pushes = false) :
      Move e
        { bots := entry.step.effect e.bots
          errors := e.errors ++ texts
          log := e.log ++ [entry]
          clock := clock }

variable {outside : Nat → Response} {e next : EngineState n} {action : Option ActionType} {i : Fin n}
  {op : BotOp}

theorem call_log {result : Except String Response} (ran : e.call outside action i op = (result,next)) :
    ∃ error, next.log = e.log ++ [⟨action,.call i op (outside e.clock) error⟩] ∧
      (∀ response, result = .ok response → error = none ∧ response = outside e.clock) ∧
      (∀ text, result = .error text → error = some text) := by
  unfold EngineState.call at ran
  split at ran
  next =>
    cases ran
    exact ⟨none,rfl,by simp,by simp⟩
  next text _ =>
    cases ran
    exact ⟨some text,rfl,by simp,by simp⟩

theorem call_ok {response : Response} (ran : e.call outside action i op = (.ok response,next)) :
    Move e next := by
  unfold EngineState.call at ran
  split at ran
  next =>
    cases ran
    have moved := Move.took e ⟨action,.call i op (outside e.clock) none⟩ [] (e.clock + 1)
      (by simp [Logged.pushes,Step.fails])
    rwa [List.append_nil] at moved
  next => cases ran

theorem call_error {error : String} (ran : e.call outside action i op = (.error error,next)) :
    ∀ texts, (texts = [] ↔ (⟨action,.call i op (outside e.clock) (some error)⟩ : Logged n).pushes =
      false) → Move e { next with errors := next.errors ++ texts } := by
  intro texts telling
  unfold EngineState.call at ran
  split at ran
  next => cases ran
  next =>
    cases ran
    exact Move.took e _ texts (e.clock + 1) telling

theorem call_loud {error : String} (ran : e.call outside action i op = (.error error,next))
    (loud : (⟨action,.call i op (outside e.clock) (some error)⟩ : Logged n).pushes = true)
    (text : String) : Move e (next.pushError text) :=
  call_error ran [text] (by simp [loud])

theorem call_quiet (quiet : ∀ error,
    (⟨action,.call i op (outside e.clock) (some error)⟩ : Logged n).pushes = false) :
    Move e (e.call outside action i op).2 := by
  cases ran : e.call outside action i op with
  | mk result next =>
    cases result with
    | ok response => exact call_ok ran
    | error error => simpa using call_error ran [] (by simp [quiet error])

theorem note_loud (step : Step n) (text : String) (fails : step.effect e.bots = e.bots)
    (loud : (⟨action,step⟩ : Logged n).pushes = true) :
    Move e ((e.note action step).pushError text) := by
  have moved := Move.took e ⟨action,step⟩ [text] e.clock (by simp [loud])
  rwa [fails] at moved

theorem note_quiet (step : Step n) (fails : step.effect e.bots = e.bots)
    (quiet : (⟨action,step⟩ : Logged n).pushes = false) : Move e (e.note action step) := by
  have moved := Move.took e ⟨action,step⟩ [] e.clock (by simp [quiet])
  rw [fails,List.append_nil] at moved
  exact moved

theorem heartbeatOne_moves (e : EngineState n) (i : Fin n) :
    ReflTransGen Move e (e.heartbeatOne outside i) := by
  have beat (e : EngineState n) : Move e (e.call outside none i .heartbeat).2 :=
    call_quiet (fun _ => rfl)
  have events (e : EngineState n) : Move e (e.call outside none i .processEvents).2 :=
    call_quiet (fun _ => rfl)
  simp only [EngineState.heartbeatOne]
  split
  next =>
    split
    next => exact .tail (.single (beat e)) (events _)
    next => exact .single (beat e)
  next =>
    split
    next => exact .single (events e)
    next => exact .refl

theorem waitWithHeartbeat_moves (e : EngineState n) :
    ReflTransGen Move e (e.waitWithHeartbeat outside) := by
  have rounds (e : EngineState n) : ReflTransGen Move e
      ((List.finRange n).foldl (EngineState.heartbeatOne outside) e) :=
    Run.chain_foldl id _ heartbeatOne_moves _ e
  exact .head (.waited e _) (Run.chain_iterate _ rounds _ _)

end moves

section actions
variable (scenario : ScenarioDef) (outside : Nat → Response)

theorem joinOne_moves (s : Option String × ScenarioEngine scenario) (i : Place scenario) :
    ReflTransGen Move s.2 (joinOne scenario outside s i).2 := by
  simp only [joinOne]
  split
  next =>
    split
    next ran => exact .single (call_ok ran)
    next ran => exact .single (call_loud ran rfl _)
  next =>
    split
    next => exact .single (note_loud .noRoom _ rfl rfl)
    next =>
      split
      next ran => exact .single (call_ok ran)
      next ran => exact .single (call_loud ran rfl _)

theorem mediaStep_moves (i : Place scenario) (op : BotOp) (label : String)
    (rest : ScenarioEngine scenario → ScenarioEngine scenario) (asked : demanded op = true)
    (chained : ∀ e, ReflTransGen Move e (rest e)) (e : ScenarioEngine scenario) :
    ReflTransGen Move e (mediaStep scenario outside i op label rest e) := by
  unfold mediaStep
  split
  next ran => exact .head (call_ok ran) (chained _)
  next ran =>
    refine .single (call_loud ran ?_ _)
    simp [Logged.pushes,Step.fails,asked,Logged.told]

theorem startOne_moves (e : ScenarioEngine scenario) (i : Place scenario) :
    ReflTransGen Move e (startOne scenario outside e i) := by
  unfold startOne
  split
  next => exact .refl
  next =>
    apply mediaStep_moves
    · rfl
    · apply mediaStep_moves
      · rfl
      · apply mediaStep_moves
        · rfl
        · intro e
          exact .refl

theorem discoverOne_moves (e : ScenarioEngine scenario) (i : Place scenario) :
    ReflTransGen Move e (discoverOne scenario outside e i) := by
  unfold discoverOne
  split
  next => exact .single (call_quiet (fun _ => rfl))
  next => exact .refl

theorem actionFloor_moves {kind : ActionType} {label : String} {op : BotOp}
    (actor : Option String) (e : ScenarioEngine scenario) (asked : demanded op = true)
    (floor : kind = .pttRequest ∨ kind = .pttRelease) :
    ReflTransGen Move e (actionFloor scenario outside kind label op actor e) := by
  unfold actionFloor
  split
  next =>
    refine .single (note_loud .missing _ rfl ?_)
    rcases floor with rfl | rfl <;> rfl
  next =>
    split
    next =>
      refine .single (note_quiet .unknown rfl ?_)
      rcases floor with rfl | rfl <;> rfl
    next =>
      split
      next ran => exact .single (call_ok ran)
      next ran =>
        refine .single (call_loud ran ?_ _)
        rcases floor with rfl | rfl <;> simp [Logged.pushes,Step.fails,asked,Logged.told]

theorem alternateOne_moves (e : ScenarioEngine scenario) (actorId : String) :
    ReflTransGen Move e (alternateOne scenario outside e actorId) := by
  unfold alternateOne
  split
  next => exact .single (note_quiet .unknown rfl rfl)
  next i _ =>
    have asked : Move e (e.call outside (some .pttAlternate) i (.floorRequestWs 0)).2 :=
      call_quiet (fun _ => rfl)
    split
    next reached ran =>
      rw [ran] at asked
      split
      next =>
        have waited : ReflTransGen Move reached (reached.waitWithHeartbeat outside) :=
          waitWithHeartbeat_moves reached
        exact .head asked (waited.tail (call_quiet (fun _ => rfl)))
      next => exact .single asked
    next ran =>
      rw [ran] at asked
      exact .single asked

theorem actionPttAlternate_moves (action : Action) (e : ScenarioEngine scenario) :
    ReflTransGen Move e (actionPttAlternate scenario outside action e) := by
  unfold actionPttAlternate
  split
  next => exact .single (note_loud .missing _ rfl rfl)
  next => exact .single (note_loud .missing _ rfl rfl)
  next actor others _ =>
    apply Run.chain_iterate
    intro e
    exact Run.chain_foldl id _ (alternateOne_moves scenario outside) (actor::others) e

theorem actionSilent_moves {kind : ActionType} (op : Option BotOp) (actor : Option String)
    (e : ScenarioEngine scenario) (silent : kind = .networkTransition ∨ kind = .killBot) :
    ReflTransGen Move e (actionSilent scenario outside kind op actor e) := by
  have untold (step : Step scenario.participants.length) :
      (⟨some kind,step⟩ : Logged scenario.participants.length).pushes = false := by
    rcases silent with rfl | rfl <;> simp [Logged.pushes,Logged.told]
  unfold actionSilent
  split
  next =>
    split
    next => exact .single (note_quiet .unknown rfl (untold _))
    next => exact .single (call_quiet (fun _ => untold _))
  next => exact .single (note_quiet .missing rfl (untold _))

theorem executeAction_moves (e : ScenarioEngine scenario) (action : Action) :
    ReflTransGen Move e (executeAction scenario outside e action) := by
  unfold executeAction
  split
  next => exact Run.chain_foldl Prod.snd _ (joinOne_moves scenario outside) _ (none,e)
  next =>
    exact (Run.chain_foldl id _ (startOne_moves scenario outside) _ e).trans
      (Run.chain_foldl id _ (discoverOne_moves scenario outside) _ _)
  next => exact actionFloor_moves scenario outside action.actor e rfl (Or.inl rfl)
  next => exact actionFloor_moves scenario outside action.actor e rfl (Or.inr rfl)
  next => exact actionPttAlternate_moves scenario outside action e
  next => exact actionSilent_moves scenario outside _ action.actor e (Or.inl rfl)
  next => exact actionSilent_moves scenario outside _ action.actor e (Or.inr rfl)
  next => exact waitWithHeartbeat_moves e

theorem run_moves : ReflTransGen Move {} (disconnectAll scenario outside (timeline scenario outside)) := by
  have actions : ReflTransGen Move {} (timeline scenario outside) := by
    apply Run.chain_foldl id
    intro e action
    exact (waitWithHeartbeat_moves e).trans (executeAction_moves scenario outside _ action)
  refine actions.trans (Run.chain_foldl id _ ?_ _ _)
  intro e i
  exact .single (call_quiet (fun _ => rfl))

end actions
end Oxlab.Scenario.Engine
