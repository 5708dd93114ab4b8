import Oxlab.Scenario.Engine

/-! The media tasks that a script spawns.
A join does not look at the status of the bot it is called on. On a bot that
publishes it leaves the cancel sender behind, and the next media setup drops
handles and sender of tasks that still run. -/
namespace Oxlab.MediaTasks
open Bot.Lifecycle Scenario.Engine Library Relation

variable {n : Nat}

structure Call (n : Nat) where
  bot : Fin n
  op : BotOp
  response : Response

def callOf (entry : Logged n) : Option (Call n) :=
  match entry.step with
  | .call bot op response _ => some ⟨bot,op,response⟩
  | _ => none

def calls (e : EngineState n) : List (Call n) := e.log.filterMap callOf

def step (bots : Fin n → BotState) (c : Call n) : Option (Fin n → BotState) :=
  some (Function.update bots c.bot (c.op.after c.response (bots c.bot)))

def created : Fin n → BotState := fun _ => {}

def Running (bot : BotState) (task : MediaTask) : Prop := task ∈ bot.spawned ∧ task ∉ bot.aborted

/-- Every task is held with its sender, or was cancelled or aborted. -/
structure Controlled (bot : BotState) : Prop where
  held : ∀ task ∈ bot.spawned, (task ∈ bot.taskHandles ∧ bot.mediaCancel = some task.channel) ∨
    task.channel ∈ bot.cancelled ∨ task ∈ bot.aborted
  publishing : bot.status = .publishing ↔ bot.mediaCancel.isSome = true
  stopped : bot.status = .stopped → ∀ task, ¬Running bot task

/-- A join that succeeds on a bot that publishes. -/
def Rejoins (bots : Fin n → BotState) (c : Call n) : Prop :=
  c.op.joins = true ∧ c.response.error = none ∧ (bots c.bot).status = .publishing

/-- Every task that was not aborted is held with its sender. -/
structure Tethered (bot : BotState) : Prop where
  held : ∀ task ∈ bot.spawned, task ∈ bot.aborted ∨
    (task ∈ bot.taskHandles ∧ bot.mediaCancel = some task.channel)
  publishing : bot.status = .publishing ↔ bot.mediaCancel.isSome = true

section bot
variable {bot : BotState} (tethered : Tethered bot)
include tethered

theorem idle_sender (idle : bot.status ≠ .publishing) : bot.mediaCancel = none :=
  Option.not_isSome_iff_eq_none.mp (fun held => idle (tethered.publishing.mpr held))

theorem aborted_of_idle (idle : bot.status ≠ .publishing) :
    ∀ task ∈ bot.spawned, task ∈ bot.aborted := by
  intro task spawned
  rcases tethered.held task spawned with aborted | held
  · exact aborted
  · rw [idle_sender tethered idle] at held
    exact absurd held.2 (by simp)

theorem Tethered.controlled : Controlled bot where
  held := by
    intro task spawned
    rcases tethered.held task spawned with aborted | held
    · exact Or.inr (Or.inr aborted)
    · exact Or.inl held
  publishing := tethered.publishing
  stopped := by
    intro stopped task running
    have idle : bot.status ≠ .publishing := by
      rw [stopped]
      decide
    exact running.2 (aborted_of_idle tethered idle task running.1)

theorem disconnect_tethered : Tethered bot.disconnect where
  held := by
    intro task spawned
    refine Or.inl (List.mem_append.mpr ?_)
    rcases tethered.held task spawned with aborted | held
    · exact Or.inl aborted
    · exact Or.inr held.1
  publishing := ⟨fun wrong => by contradiction,fun wrong => by contradiction⟩

theorem idle_tethered (idle : bot.status ≠ .publishing) {next : BotState}
    (tasks : next.spawned = bot.spawned) (aborted : next.aborted = bot.aborted)
    (sender : next.mediaCancel = bot.mediaCancel) (still : next.status ≠ .publishing) :
    Tethered next where
  held := by
    intro task spawned
    rw [tasks] at spawned
    rw [aborted]
    exact Or.inl (aborted_of_idle tethered idle task spawned)
  publishing := by
    rw [sender,idle_sender tethered idle]
    exact ⟨fun started => absurd started still,fun held => by contradiction⟩

theorem started_tethered (ready : bot.status = .mediaReady) : Tethered { bot with
    taskHandles := BotState.mediaTasks bot.channels
    mediaCancel := some bot.channels
    status := .publishing
    spawned := bot.spawned ++ BotState.mediaTasks bot.channels
    channels := bot.channels + 1 } where
  held := by
    intro task spawned
    rcases List.mem_append.mp spawned with old | new
    · exact Or.inl (aborted_of_idle tethered (by rw [ready]; decide) task old)
    · have channel : task.channel = bot.channels := by
        simp only [BotState.mediaTasks,List.mem_cons,List.not_mem_nil,or_false] at new
        rcases new with rfl | rfl | rfl | rfl <;> rfl
      exact Or.inr ⟨new,by rw [channel]⟩
  publishing := by simp

theorem after_tethered {op : BotOp} {response : Response}
    (fine : ¬(op.joins = true ∧ response.error = none ∧ bot.status = .publishing)) :
    Tethered (op.after response bot) := by
  rcases after_run op response bot with same | ran
  · rw [same]
    exact tethered
  · obtain same | ⟨joins,ok,roomId,entered⟩ | ⟨joined,ready⟩ | ⟨ready,started⟩ | stopped := run_ok ran
    · rw [same]
      exact tethered
    · have idle : bot.status ≠ .publishing := fun publishing => fine ⟨joins,ok,publishing⟩
      rw [entered]
      exact idle_tethered tethered idle rfl rfl rfl BotStatus.noConfusion
    · rw [ready]
      exact idle_tethered tethered (by rw [joined]; decide) rfl rfl rfl BotStatus.noConfusion
    · rw [started]
      exact started_tethered tethered ready
    · rw [stopped]
      exact disconnect_tethered tethered

theorem rejoin_uncontrolled {op : BotOp} {response : Response} (joins : op.joins = true)
    (ok : response.error = none) (publishing : bot.status = .publishing) :
    ¬Controlled (op.after response bot) := by
  obtain ⟨status,sender⟩ := after_status joins ok
  intro controlled
  have kept := controlled.publishing
  rw [status,sender,tethered.publishing.mp publishing] at kept
  exact absurd (kept.mpr rfl) (by decide)

end bot

/-- The calls in the log, made one after the other, give the engine's bots. -/
theorem calls_replay {e : EngineState n} (ran : ReflTransGen Move {} e) :
    Run.exec step created (calls e) = some e.bots := by
  apply Run.chain_keeps (fun e => Run.exec step created (calls e) = some e.bots) _ ran rfl
  intro e next replayed move
  cases move with
  | waited clock => exact replayed
  | took entry texts clock _ =>
    have grown : (e.log ++ [entry]).filterMap callOf = calls e ++ (callOf entry).toList := by
      rw [List.filterMap_append]
      cases called : callOf entry <;> simp [calls,called]
    obtain ⟨action,step⟩ := entry
    rw [calls,grown,Run.exec_append,replayed]
    cases step <;> rfl

theorem disconnectAll_stopped (scenario : ScenarioDef) (outside : Nat → Response)
    (e : ScenarioEngine scenario) (i : Place scenario) :
    ((disconnectAll scenario outside e).bots i).status = .stopped := by
  have each (places : List (Place scenario)) (e : ScenarioEngine scenario)
      (reached : i ∈ places ∨ (e.bots i).status = .stopped) :
      ((places.foldl (disconnectOne scenario outside) e).bots i).status = .stopped := by
    induction places generalizing e with
    | nil => simpa using reached
    | cons place rest ih =>
      apply ih
      by_cases own : i = place
      · subst own
        exact Or.inr (by simp [disconnectOne,EngineState.call,EngineState.called,BotOp.run,
          BotOp.after,BotState.disconnect])
      · refine reached.imp ?_ ?_
        · intro member
          exact (List.mem_cons.mp member).resolve_left own
        · intro stopped
          simpa [disconnectOne,EngineState.call,EngineState.called,BotOp.run,own] using stopped
  exact each _ e (Or.inl (List.mem_finRange i))

/-- In every state of a run of a script, its final disconnect included, every media
task is under control exactly when no join succeeds on a bot that publishes. -/
theorem controlled_iff (scenario : ScenarioDef) (outside : Nat → Response) :
    let final := disconnectAll scenario outside (timeline scenario outside)
    (∀ i, (final.bots i).status = .stopped) ∧ Run.exec step created (calls final) = some final.bots ∧
      (Run.Always step (fun bots => ∀ i, Controlled (bots i)) created (calls final) ↔
        Run.Clean step Rejoins created (calls final)) := by
  intro final
  have replayed := calls_replay (run_moves scenario outside)
  refine ⟨disconnectAll_stopped scenario outside _,replayed,?_⟩
  apply Run.always_iff_clean step (fun bots => ∀ i, Tethered (bots i))
  · intro bots tethered i
    exact (tethered i).controlled
  · intro bots c next tethered stepped fine i
    cases Option.some.inj stepped
    by_cases own : i = c.bot
    · subst own
      rw [Function.update_self]
      exact after_tethered (tethered c.bot) fine
    · rw [Function.update_of_ne own]
      exact tethered i
  · intro bots c next tethered stepped rejoins controlled
    cases Option.some.inj stepped
    have wrong := controlled c.bot
    rw [Function.update_self] at wrong
    exact rejoin_uncontrolled (tethered c.bot) rejoins.1 rejoins.2.1 rejoins.2.2 wrong
  · intro i
    exact ⟨by simp [created],⟨fun wrong => by contradiction,fun wrong => by contradiction⟩⟩
  · exact replayed

def rejoined : ScenarioDef where
  name := "rejoin"
  participants := [{ id := "bot-1" }]
  actions := [{ atSec := 0, actionType := .allJoin },{ atSec := 1, actionType := .startMedia },
    { atSec := 2, actionType := .allJoin },{ atSec := 3, actionType := .startMedia }]

def rejoinedBot : Place rejoined := ⟨0,by decide⟩

/-- The tasks of the first start run on after the bot was disconnected. -/
theorem rejoined_escapes :
    let final := disconnectAll rejoined (fun _ => {}) (timeline rejoined (fun _ => {}))
    (∀ task ∈ BotState.mediaTasks 0, Running (final.bots rejoinedBot) task ∧
        task.channel ∉ (final.bots rejoinedBot).cancelled) ∧
      ¬Run.Always step (fun bots => ∀ i, Controlled (bots i)) created (calls final) := by
  intro final
  have spawned : (final.bots rejoinedBot).spawned =
      BotState.mediaTasks 0 ++ BotState.mediaTasks 1 := by
    decide +kernel
  have aborted : (final.bots rejoinedBot).aborted = BotState.mediaTasks 1 := by
    decide +kernel
  have cancelled : (final.bots rejoinedBot).cancelled = [1] := by
    decide +kernel
  have escaped : ∀ task ∈ BotState.mediaTasks 0, task ∉ BotState.mediaTasks 1 ∧
      task.channel ∉ [1] := by
    decide
  have running : ∀ task ∈ BotState.mediaTasks 0, Running (final.bots rejoinedBot) task ∧
      task.channel ∉ (final.bots rejoinedBot).cancelled := by
    intro task first
    obtain ⟨free,uncancelled⟩ := escaped task first
    rw [Running,spawned,aborted,cancelled]
    exact ⟨⟨List.mem_append_left _ first,free⟩,uncancelled⟩
  refine ⟨running,?_⟩
  have replayed := calls_replay (run_moves rejoined (fun _ => {}))
  intro always
  have controlled := Run.always_final step _ always replayed rejoinedBot
  have stopped := disconnectAll_stopped rejoined (fun _ => {}) (timeline rejoined (fun _ => {}))
    rejoinedBot
  exact controlled.stopped stopped ⟨0,.audioPublish⟩ (running _ (by decide)).1

end Oxlab.MediaTasks
