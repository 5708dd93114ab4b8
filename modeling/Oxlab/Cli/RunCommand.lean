import Oxlab.Scenario.Engine

/-! The `run` command: bots that join a room one after the other, their media, one
round of turns to talk, a hold, and the disconnect. It makes the calls of the scenario
engine without a script; its errors go to the log alone. -/
namespace Oxlab.Cli.RunCommand
open Bot.Lifecycle Scenario.Engine Library Relation

variable {n : Nat}

/-- `stopped` is a return before all bots were tried. -/
structure Joining (n : Nat) where
  roomId : Option String := none
  bots : List (Fin n) := []
  stopped : Bool := false
  engine : EngineState n := {}

section command
variable (outside : Nat → Response)

def joinBot (s : Joining n) (i : Fin n) : Joining n :=
  if s.stopped then s
  else if i.val = 0 then
    match s.engine.call outside none i .connectAndJoin with
    | (.ok _,e) => { s with roomId := (e.bots i).roomId, bots := s.bots ++ [i], engine := e }
    | (.error _,e) => { s with stopped := true, engine := e }
  else
    match s.roomId with
    | none => { s with stopped := true }
    | some rid =>
      match s.engine.call outside none i (.joinExistingRoom rid) with
      | (.ok _,e) => { s with bots := s.bots ++ [i], engine := e }
      | (.error _,e) => { s with engine := e }

def joinBots (n : Nat) : Joining n := (List.finRange n).foldl (joinBot outside) {}

/-- A call whose error ends what is done for the bot. -/
def attempt (i : Fin n) (op : BotOp) (rest : EngineState n → EngineState n) (e : EngineState n) :
    EngineState n :=
  match e.call outside none i op with
  | (.ok _,e) => rest e
  | (.error _,e) => e

def startBot (e : EngineState n) (i : Fin n) : EngineState n :=
  if (e.bots i).status ≠ .joined then e
  else
    attempt outside i .setupMedia
      (attempt outside i .publishIntent (attempt outside i .startPublishing id)) e

def discoverBot (e : EngineState n) (i : Fin n) : EngineState n :=
  if (e.bots i).status = .publishing then (e.call outside none i .processEvents).2 else e

def startMedia (bots : List (Fin n)) (e : EngineState n) : EngineState n :=
  bots.foldl (discoverBot outside) (bots.foldl (startBot outside) e)

def takeTurn (e : EngineState n) (i : Fin n) : EngineState n :=
  if (e.bots i).status ≠ .publishing then e
  else
    match e.call outside none i (.floorRequestWs 0) with
    | (.ok response,e) =>
      if response.granted then (e.call outside none i .floorReleaseWs).2 else e
    | (.error _,e) => e

def pttCycle (bots : List (Fin n)) (e : EngineState n) : EngineState n :=
  bots.foldl (takeTurn outside) e

/-- How often the hold comes round is left to the outside. -/
def hold (bots : List (Fin n)) (e : EngineState n) : EngineState n :=
  let rounds := (outside e.clock).rounds
  (fun e => bots.foldl (EngineState.heartbeatOne outside) e)^[rounds] { e with clock := e.clock + 1 }

def disconnectBot (e : EngineState n) (i : Fin n) : EngineState n :=
  (e.call outside none i .disconnect).2

structure RunArgs where
  mode : String
  hold : Nat
  media : Bool

variable (args : RunArgs)

/-- The bots that joined, up to their disconnect. -/
def maintain (bots : List (Fin n)) (e : EngineState n) : EngineState n :=
  let e := if args.media then startMedia outside bots e else e
  let e := if args.media && args.mode == "ptt" then pttCycle outside bots e else e
  if args.hold > 0 then hold outside bots e else e

def cmdRun (n : Nat) : EngineState n :=
  let s := joinBots outside n
  if s.stopped then s.engine
  else s.bots.foldl (disconnectBot outside) (maintain outside args s.bots s.engine)

end command

/-! What each part does with the engine, by the calls it may make. -/

/-- Only such calls are made. -/
def Only (allowed : Fin n → BotOp → Prop) (log : List (Logged n)) : Prop :=
  ∀ entry ∈ log,∃ bot op response error, entry.step = .call bot op response error ∧ allowed bot op

/-- What the command does with the engine: it calls a bot, or time passes. -/
inductive Act (outside : Nat → Response) (allowed : Fin n → BotOp → Prop) :
    EngineState n → EngineState n → Prop
  | called (e : EngineState n) {i : Fin n} {op : BotOp} (own : allowed i op) :
      Act outside allowed e (e.call outside none i op).2
  | waited (e : EngineState n) (clock : Nat) : Act outside allowed e { e with clock := clock }

abbrev Does (outside : Nat → Response) (allowed : Fin n → BotOp → Prop)
    (e next : EngineState n) : Prop := ReflTransGen (Act outside allowed) e next

/-- Calls on the bots that neither open nor end their service. -/
def Serves (bots : List (Fin n)) (i : Fin n) (op : BotOp) : Prop :=
  i ∈ bots ∧ op.joins = false ∧ op ≠ .disconnect

def Upkeep (bots : List (Fin n)) (i : Fin n) (op : BotOp) : Prop :=
  Serves bots i op ∧ ∀ priority, op ≠ .floorRequestWs priority

section does
variable {outside : Nat → Response} {e next : EngineState n} {i : Fin n}
  {allowed weaker : Fin n → BotOp → Prop} {bots : List (Fin n)} {op : BotOp}

theorem only_append (first second : List (Logged n)) (left : Only allowed first)
    (right : Only allowed second) : Only allowed (first ++ second) :=
  List.forall_mem_append.mpr ⟨left,right⟩

theorem does_call {result : Except String Response}
    (ran : e.call outside none i op = (result,next)) (own : allowed i op) :
    Does outside allowed e next := by
  have reached : next = (e.call outside none i op).2 := by rw [ran]
  rw [reached]
  exact .single (.called e own)

theorem Does.mono (does : Does outside allowed e next) (weaken : ∀ i op, allowed i op → weaker i op) :
    Does outside weaker e next := by
  refine does.lift id ?_
  intro e next act
  cases act with
  | called own => exact .called e (weaken _ _ own)
  | waited clock => exact .waited e clock

theorem Does.moves (does : Does outside allowed e next) : ReflTransGen Move e next := by
  refine does.lift id ?_
  intro e next act
  cases act with
  | called own => exact call_quiet (by simp [Logged.pushes,Logged.told])
  | waited clock => exact .waited e clock

theorem Does.log (does : Does outside allowed e next) :
    Run.Appends EngineState.log (Only allowed) e next := by
  apply Run.chain_appends (List.forall_mem_nil _) only_append
  refine does.lift id ?_
  intro e next act
  cases act with
  | @called i op own =>
    have ran : e.call outside none i op = ((e.call outside none i op).1,(e.call outside none i op).2) :=
      rfl
    obtain ⟨error,grown,_⟩ := call_log ran
    exact ⟨_,grown,List.forall_mem_singleton.mpr ⟨i,op,_,error,rfl,own⟩⟩
  | waited clock => exact ⟨[],(List.append_nil _).symm,List.forall_mem_nil _⟩

theorem attempt_does {rest : EngineState n → EngineState n} (own : allowed i op)
    (chained : ∀ e, Does outside allowed e (rest e)) (e : EngineState n) :
    Does outside allowed e (attempt outside i op rest e) := by
  unfold attempt
  split
  next ran => exact (does_call ran own).trans (chained _)
  next ran => exact does_call ran own

theorem startBot_does (member : i ∈ bots) (e : EngineState n) :
    Does outside (Upkeep bots) e (startBot outside e i) := by
  unfold startBot
  split
  next => exact .refl
  next =>
    apply attempt_does
    · simp [Upkeep,Serves,member,BotOp.joins]
    · apply attempt_does
      · simp [Upkeep,Serves,member,BotOp.joins]
      · apply attempt_does
        · simp [Upkeep,Serves,member,BotOp.joins]
        · intro e
          exact .refl

theorem processEvents_does (member : i ∈ bots) (e : EngineState n) :
    Does outside (Upkeep bots) e (e.call outside none i .processEvents).2 :=
  .single (.called e (by simp [Upkeep,Serves,member,BotOp.joins]))

theorem heartbeat_does (member : i ∈ bots) (e : EngineState n) :
    Does outside (Upkeep bots) e (e.call outside none i .heartbeat).2 :=
  .single (.called e (by simp [Upkeep,Serves,member,BotOp.joins]))

theorem discoverBot_does (member : i ∈ bots) (e : EngineState n) :
    Does outside (Upkeep bots) e (discoverBot outside e i) := by
  unfold discoverBot
  split
  next => exact processEvents_does member e
  next => exact .refl

theorem heartbeatOne_does (member : i ∈ bots) (e : EngineState n) :
    Does outside (Upkeep bots) e (e.heartbeatOne outside i) := by
  simp only [EngineState.heartbeatOne]
  split
  next =>
    split
    next => exact (heartbeat_does member e).trans (processEvents_does member _)
    next => exact heartbeat_does member e
  next =>
    split
    next => exact processEvents_does member e
    next => exact .refl

theorem startMedia_does (bots : List (Fin n)) (e : EngineState n) :
    Does outside (Upkeep bots) e (startMedia outside bots e) :=
  (Run.chain_visits id _ bots (fun _ member => startBot_does member) e).trans
    (Run.chain_visits id _ bots (fun _ member => discoverBot_does member) _)

theorem hold_does (bots : List (Fin n)) (e : EngineState n) :
    Does outside (Upkeep bots) e (hold outside bots e) := by
  refine .head (.waited e (e.clock + 1)) (Run.chain_iterate _ ?_ _ _)
  exact Run.chain_visits id _ bots (fun _ member => heartbeatOne_does member)

theorem takeTurn_does (member : i ∈ bots) (e : EngineState n) :
    Does outside (Serves bots) e (takeTurn outside e i) := by
  unfold takeTurn
  split
  next => exact .refl
  next =>
    split
    next reached ran =>
      have asked : Does outside (Serves bots) e reached :=
        does_call ran (by simp [Serves,member,BotOp.joins])
      split
      next => exact .tail asked (.called reached (by simp [Serves,member,BotOp.joins]))
      next => exact asked
    next ran => exact does_call ran (by simp [Serves,member,BotOp.joins])

theorem maintain_does (outside : Nat → Response) (args : RunArgs) (bots : List (Fin n)) (e : EngineState n) :
    Does outside (Serves bots) e (maintain outside args bots e) := by
  have started (e : EngineState n) : Does outside (Serves bots) e
      (if args.media then startMedia outside bots e else e) := by
    split
    next => exact (startMedia_does bots e).mono (fun _ _ upkeep => upkeep.1)
    next => exact .refl
  have cycled (e : EngineState n) : Does outside (Serves bots) e
      (if args.media && args.mode == "ptt" then pttCycle outside bots e else e) := by
    split
    next => exact Run.chain_visits id _ bots (fun _ member => takeTurn_does member) e
    next => exact .refl
  have held (e : EngineState n) : Does outside (Serves bots) e
      (if args.hold > 0 then hold outside bots e else e) := by
    split
    next => exact (hold_does bots e).mono (fun _ _ upkeep => upkeep.1)
    next => exact .refl
  exact (started e).trans ((cycled _).trans (held _))

theorem joinBot_does (s : Joining n) (i : Fin n) :
    Does outside (fun _ op => op.joins = true) s.engine (joinBot outside s i).engine := by
  unfold joinBot
  split
  next => exact .refl
  next =>
    split
    next =>
      split
      next ran => exact does_call ran rfl
      next ran => exact does_call ran rfl
    next =>
      split
      next => exact .refl
      next =>
        split
        next ran => exact does_call ran rfl
        next ran => exact does_call ran rfl

theorem joinBots_does (n : Nat) :
    Does outside (fun _ op => op.joins = true) {} (joinBots outside n).engine :=
  Run.chain_foldl Joining.engine _ joinBot_does _ {}

theorem disconnects_does (bots : List (Fin n)) (e : EngineState n) :
    Does outside (fun i op => i ∈ bots ∧ op = .disconnect) e
      (bots.foldl (disconnectBot outside) e) :=
  Run.chain_visits id _ bots (fun _ member e => .single (.called e ⟨member,rfl⟩)) e

end does

end Oxlab.Cli.RunCommand
