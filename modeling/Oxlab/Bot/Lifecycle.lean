import Mathlib.Data.List.Basic

/-! The lifecycle of a bot: its status, its session and its media tasks, under
the calls the scenario engine makes. What the calls do to metrics, floor flags
and packets is not seen here. -/
namespace Oxlab.Bot.Lifecycle

inductive BotStatus
  | created
  | connected
  | joined
  | mediaReady
  | publishing
  | failed
  | stopped
  deriving DecidableEq

namespace BotStatus

def debug : BotStatus → String
  | .created => "Created"
  | .connected => "Connected"
  | .joined => "Joined"
  | .mediaReady => "MediaReady"
  | .publishing => "Publishing"
  | .failed => "Failed"
  | .stopped => "Stopped"

end BotStatus

/-- How the outside answers one call: the error it ends with, if any, the room a
connection is given, whether a floor request is granted, and how many heartbeat
rounds fit into a wait. -/
structure Response where
  error : Option String := none
  roomId : String := ""
  granted : Bool := false
  rounds : Nat := 0

def Response.answer {α : Type} (response : Response) (value : α) : Except String α :=
  match response.error with
  | some error => .error error
  | none => .ok value

structure Session where
  roomId : String
  serverConfig : Bool

inductive MediaLoop
  | audioPublish
  | videoPublish
  | pubRecv
  | subRecv
  deriving DecidableEq

structure MediaTask where
  channel : Nat
  loop : MediaLoop
  deriving DecidableEq

/-- The last four fields are the history of the media tasks: all ever spawned, the
channels that were sent true, the tasks aborted, and the channels made. -/
structure BotState where
  status : BotStatus := .created
  roomId : Option String := none
  session : Option Session := none
  media : Bool := false
  taskHandles : List MediaTask := []
  mediaCancel : Option Nat := none
  spawned : List MediaTask := []
  cancelled : List Nat := []
  aborted : List MediaTask := []
  channels : Nat := 0

namespace BotState
variable (response : Response) (bot : BotState)

/-- Both joins store the session they got, whatever the status was. -/
def enter (roomId : String) : Except String BotState :=
  response.answer { bot with
    roomId := some roomId
    session := some ⟨roomId,true⟩
    status := .joined }

def connectAndJoin : Except String BotState := bot.enter response response.roomId

def joinExistingRoom (roomId : String) : Except String BotState := bot.enter response roomId

def setupMedia : Except String BotState :=
  if bot.status ≠ .joined then
    .error ("setup_media requires Joined, current=" ++ bot.status.debug)
  else
    match bot.session with
    | none => .error "no signaling session"
    | some session =>
      if session.serverConfig then
        response.answer { bot with media := true, status := .mediaReady }
      else .error "no server_config"

/-- A request over the session, with the text for a bot that has none. -/
def requested (missing : String) : Except String BotState :=
  match bot.session with
  | none => .error missing
  | some _ => response.answer bot

def publishIntent : Except String BotState := bot.requested response "no signaling session"

def floorRequestWs (_priority : UInt8) : Except String BotState := bot.requested response "no session"

def floorReleaseWs : Except String BotState := bot.requested response "no session"

/-- A call that is nothing to a bot without a session. -/
def maintained : Except String BotState :=
  match bot.session with
  | none => .ok bot
  | some _ => response.answer bot

def processEvents : Except String BotState := bot.maintained response

def heartbeat : Except String BotState := bot.maintained response

def mediaTasks (channel : Nat) : List MediaTask :=
  [⟨channel,.audioPublish⟩,⟨channel,.videoPublish⟩,⟨channel,.pubRecv⟩,⟨channel,.subRecv⟩]

/-- The handles and the sender held before are dropped, which ends no task. -/
def startPublishing : Except String BotState :=
  if bot.status ≠ .mediaReady then
    .error ("start_publishing requires MediaReady, current=" ++ bot.status.debug)
  else if !bot.media then .error "no media context"
  else .ok { bot with
    taskHandles := mediaTasks bot.channels
    mediaCancel := some bot.channels
    status := .publishing
    spawned := bot.spawned ++ mediaTasks bot.channels
    channels := bot.channels + 1 }

def stopPublishing : BotState :=
  { bot with
    mediaCancel := none
    cancelled := bot.cancelled ++ bot.mediaCancel.toList
    taskHandles := []
    aborted := bot.aborted ++ bot.taskHandles
    status := if bot.status = .publishing then .mediaReady else bot.status }

def disconnect : BotState := { bot.stopPublishing with status := .stopped }

end BotState

inductive BotOp
  | connectAndJoin
  | joinExistingRoom (roomId : String)
  | setupMedia
  | publishIntent
  | startPublishing
  | floorRequestWs (priority : UInt8)
  | floorReleaseWs
  | processEvents
  | heartbeat
  | updateNetFilter (profile : String)
  | disconnect

namespace BotOp

def run (op : BotOp) (response : Response) (bot : BotState) : Except String BotState :=
  match op with
  | .connectAndJoin => bot.connectAndJoin response
  | .joinExistingRoom roomId => bot.joinExistingRoom response roomId
  | .setupMedia => bot.setupMedia response
  | .publishIntent => bot.publishIntent response
  | .startPublishing => bot.startPublishing
  | .floorRequestWs priority => bot.floorRequestWs response priority
  | .floorReleaseWs => bot.floorReleaseWs response
  | .processEvents => bot.processEvents response
  | .heartbeat => bot.heartbeat response
  | .updateNetFilter _ => .ok bot
  | .disconnect => .ok bot.disconnect

def after (op : BotOp) (response : Response) (bot : BotState) : BotState :=
  match op.run response bot with
  | .ok next => next
  | .error _ => bot

def joins : BotOp → Bool
  | .connectAndJoin => true
  | .joinExistingRoom _ => true
  | _ => false

end BotOp

theorem answer_ok {α : Type} {response : Response} {value result : α}
    (answered : response.answer value = .ok result) : response.error = none ∧ result = value := by
  unfold Response.answer at answered
  split at answered
  next => contradiction
  next fine =>
    cases answered
    exact ⟨fine,rfl⟩

section run
variable {op : BotOp} {response : Response} {bot next : BotState}

theorem requested_ok {missing : String} (ran : bot.requested response missing = .ok next) :
    next = bot := by
  unfold BotState.requested at ran
  split at ran
  next => contradiction
  next => exact (answer_ok ran).2

theorem maintained_ok (ran : bot.maintained response = .ok next) : next = bot := by
  unfold BotState.maintained at ran
  split at ran
  next =>
    cases ran
    rfl
  next => exact (answer_ok ran).2

theorem setupMedia_ok (ran : bot.setupMedia response = .ok next) :
    bot.status = .joined ∧ next = { bot with media := true, status := .mediaReady } := by
  unfold BotState.setupMedia at ran
  split at ran
  next => contradiction
  next joined =>
    split at ran
    next => contradiction
    next session _ =>
      split at ran
      next => exact ⟨not_not.mp joined,(answer_ok ran).2⟩
      next => contradiction

theorem startPublishing_ok (ran : bot.startPublishing = .ok next) :
    bot.status = .mediaReady ∧ next = { bot with
      taskHandles := BotState.mediaTasks bot.channels
      mediaCancel := some bot.channels
      status := .publishing
      spawned := bot.spawned ++ BotState.mediaTasks bot.channels
      channels := bot.channels + 1 } := by
  unfold BotState.startPublishing at ran
  split at ran
  next => contradiction
  next ready =>
    split at ran
    next => contradiction
    next =>
      cases ran
      exact ⟨not_not.mp ready,rfl⟩

theorem run_ok (ran : op.run response bot = .ok next) :
    next = bot ∨
      (op.joins = true ∧ response.error = none ∧ ∃ roomId, next = { bot with
        roomId := some roomId
        session := some ⟨roomId,true⟩
        status := .joined }) ∨
      (bot.status = .joined ∧ next = { bot with media := true, status := .mediaReady }) ∨
      (bot.status = .mediaReady ∧ next = { bot with
        taskHandles := BotState.mediaTasks bot.channels
        mediaCancel := some bot.channels
        status := .publishing
        spawned := bot.spawned ++ BotState.mediaTasks bot.channels
        channels := bot.channels + 1 }) ∨
      next = bot.disconnect := by
  cases op with
  | connectAndJoin =>
    obtain ⟨fine,entered⟩ := answer_ok ran
    exact Or.inr (Or.inl ⟨rfl,fine,response.roomId,entered⟩)
  | joinExistingRoom roomId =>
    obtain ⟨fine,entered⟩ := answer_ok ran
    exact Or.inr (Or.inl ⟨rfl,fine,roomId,entered⟩)
  | setupMedia => exact Or.inr (Or.inr (Or.inl (setupMedia_ok ran)))
  | publishIntent => exact Or.inl (requested_ok ran)
  | startPublishing => exact Or.inr (Or.inr (Or.inr (Or.inl (startPublishing_ok ran))))
  | floorRequestWs priority => exact Or.inl (requested_ok ran)
  | floorReleaseWs => exact Or.inl (requested_ok ran)
  | processEvents => exact Or.inl (maintained_ok ran)
  | heartbeat => exact Or.inl (maintained_ok ran)
  | updateNetFilter profile => exact Or.inl (Except.ok.inj ran).symm
  | disconnect => exact Or.inr (Or.inr (Or.inr (Or.inr (Except.ok.inj ran).symm)))

theorem after_run (op : BotOp) (response : Response) (bot : BotState) :
    op.after response bot = bot ∨ op.run response bot = .ok (op.after response bot) := by
  cases ran : op.run response bot with
  | ok next => exact Or.inr (by simp only [BotOp.after,ran])
  | error error => exact Or.inl (by simp only [BotOp.after,ran])

theorem after_status (joins : op.joins = true) (fine : response.error = none) :
    (op.after response bot).status = .joined ∧
      (op.after response bot).mediaCancel = bot.mediaCancel := by
  cases op with
  | connectAndJoin =>
    simp only [BotOp.after,BotOp.run,BotState.connectAndJoin,BotState.enter,Response.answer,fine]
    exact ⟨trivial,trivial⟩
  | joinExistingRoom roomId =>
    simp only [BotOp.after,BotOp.run,BotState.joinExistingRoom,BotState.enter,Response.answer,fine]
    exact ⟨trivial,trivial⟩
  | _ => contradiction

end run
end Oxlab.Bot.Lifecycle
