import Oxlab.Net.Filter
import Oxlab.Scenario.Engine

/-! The network conditions of the bots along a run: what each bot is created
with, and the updates in the log of the engine, which are the network
transitions of the script. -/
namespace Oxlab.Scenario.NetFilters
open Bot.Lifecycle Engine Library Net.Filter

/-- A profile that is not built in counts as pristine. -/
def conditionsOf (profile : String) : FilterConfig :=
  ((NetworkProfile.builtin profile).getD .pristine).conditions

section log
variable {n : Nat}

def opUpdate (i : Fin n) : BotOp → Option (Fin n × String)
  | .updateNetFilter profile => some (i,profile)
  | _ => none

/-- The bot whose filter an entry of the log updates, and the profile. -/
def updateOf (entry : Logged n) : Option (Fin n × String) :=
  match entry.step with
  | .call i op _ _ => opUpdate i op
  | _ => none

def updates (e : EngineState n) : List (Fin n × String) := e.log.filterMap updateOf

end log

section filters
variable (scenario : ScenarioDef)

def created (i : Place scenario) : FilterConfig := conditionsOf (scenario.participants.get i).profile

/-- The conditions of all bots behind a part of the log. -/
def filtersAfter (passed : List (Logged scenario.participants.length)) :
    Place scenario → FilterConfig :=
  (passed.filterMap updateOf).foldl (fun filters update =>
    Function.update filters update.1 (conditionsOf update.2)) (created scenario)

/-- The update that an action makes: a network transition with a profile, of a
participant. -/
def transitionOf (action : Action) : Option (Place scenario × String) :=
  match action.actionType,action.actor,action.profile with
  | .networkTransition,some actor,some profile =>
    (botIndex scenario actor).map (fun i => (i,profile))
  | _,_,_ => none

end filters

section updates
variable {n : Nat} {outside : Nat → Response}

theorem call_updates (e : EngineState n) (action : Option ActionType) (i : Fin n) (op : BotOp) :
    updates (e.call outside action i op).2 = updates e ++ (opUpdate i op).toList := by
  have grown (error : Option String) : (e.log ++
      [(⟨action,.call i op (outside e.clock) error⟩ : Logged n)]).filterMap updateOf =
      updates e ++ (opUpdate i op).toList := by
    rw [List.filterMap_append,updates]
    cases update : opUpdate i op <;> simp [updateOf,update]
  unfold EngineState.call
  split
  next => exact grown none
  next error _ => exact grown (some error)

theorem call_same {e next : EngineState n} {action : Option ActionType} {i : Fin n} {op : BotOp}
    {result : Except String Response} (ran : e.call outside action i op = (result,next))
    (other : opUpdate i op = none) : updates next = updates e := by
  have grown : updates (e.call outside action i op).2 = updates e ++ (opUpdate i op).toList :=
    call_updates e action i op
  rw [ran,other] at grown
  simpa using grown

theorem call_told {e next : EngineState n} {action : Option ActionType} {i : Fin n} {op : BotOp}
    {result : Except String Response} (ran : e.call outside action i op = (result,next))
    (other : opUpdate i op = none) (text : String) :
    updates (next.pushError text) = updates e := by
  change updates next = updates e
  exact call_same ran other

theorem note_same (e : EngineState n) (action : Option ActionType) (step : Step n)
    (other : updateOf ⟨action,step⟩ = none) : updates (e.note action step) = updates e := by
  rw [updates,EngineState.note,List.filterMap_append]
  simp [updates,other]

theorem heartbeatOne_same (e : EngineState n) (i : Fin n) :
    updates (e.heartbeatOne outside i) = updates e := by
  simp only [EngineState.heartbeatOne]
  split
  next =>
    split
    next => simp [call_updates,opUpdate]
    next => simp [call_updates,opUpdate]
  next =>
    split
    next => simp [call_updates,opUpdate]
    next => rfl

theorem waitWithHeartbeat_same (e : EngineState n) :
    updates (e.waitWithHeartbeat outside) = updates e :=
  Run.keeps_iterate updates _ (fun e => Run.keeps_foldl updates _ heartbeatOne_same _ e) _ _

end updates

section actions
variable (scenario : ScenarioDef) (outside : Nat → Response)

theorem joinOne_same (s : Option String × ScenarioEngine scenario) (i : Place scenario) :
    updates (joinOne scenario outside s i).2 = updates s.2 := by
  simp only [joinOne]
  split
  next =>
    split
    next ran => exact call_same ran rfl
    next ran => exact call_told ran rfl _
  next =>
    split
    next => exact note_same s.2 _ .noRoom rfl
    next =>
      split
      next ran => exact call_same ran rfl
      next ran => exact call_told ran rfl _

theorem mediaStep_same (i : Place scenario) (op : BotOp) (label : String)
    (rest : ScenarioEngine scenario → ScenarioEngine scenario) (other : opUpdate i op = none)
    (chained : ∀ e, updates (rest e) = updates e) (e : ScenarioEngine scenario) :
    updates (mediaStep scenario outside i op label rest e) = updates e := by
  unfold mediaStep
  split
  next ran => rw [chained,call_same ran other]
  next ran => exact call_told ran other _

theorem startOne_same (e : ScenarioEngine scenario) (i : Place scenario) :
    updates (startOne scenario outside e i) = updates e := by
  unfold startOne
  split
  next => rfl
  next =>
    apply mediaStep_same _ _ _ _ _ _ rfl
    apply mediaStep_same _ _ _ _ _ _ rfl
    apply mediaStep_same _ _ _ _ _ _ rfl
    intro e
    rfl

theorem discoverOne_same (e : ScenarioEngine scenario) (i : Place scenario) :
    updates (discoverOne scenario outside e i) = updates e := by
  unfold discoverOne
  split
  next => simp [call_updates,opUpdate]
  next => rfl

theorem actionFloor_same {kind : ActionType} {label : String} {op : BotOp}
    (other : ∀ i : Place scenario, opUpdate i op = none) (actor : Option String)
    (e : ScenarioEngine scenario) :
    updates (actionFloor scenario outside kind label op actor e) = updates e := by
  unfold actionFloor
  split
  next => exact note_same e _ .missing rfl
  next =>
    split
    next => exact note_same e _ .unknown rfl
    next i _ =>
      split
      next ran => exact call_same ran (other i)
      next ran => exact call_told ran (other i) _

theorem alternateOne_same (e : ScenarioEngine scenario) (actorId : String) :
    updates (alternateOne scenario outside e actorId) = updates e := by
  unfold alternateOne
  split
  next => exact note_same e _ .unknown rfl
  next i _ =>
    split
    next ran =>
      split
      next => simp [call_updates,opUpdate,waitWithHeartbeat_same,call_same ran rfl]
      next => exact call_same ran rfl
    next ran => exact call_same ran rfl

theorem actionPttAlternate_same (action : Action) (e : ScenarioEngine scenario) :
    updates (actionPttAlternate scenario outside action e) = updates e := by
  unfold actionPttAlternate
  split
  next => exact note_same e _ .missing rfl
  next => exact note_same e _ .missing rfl
  next actor others _ =>
    apply Run.keeps_iterate updates
    intro e
    exact Run.keeps_foldl updates _ (alternateOne_same scenario outside) _ e

theorem actionSilent_updates (kind : ActionType) (op : Option BotOp) (actor : Option String)
    (e : ScenarioEngine scenario) :
    updates (actionSilent scenario outside kind op actor e) = updates e ++
      (actor.bind (fun actor => op.bind (fun op =>
        (botIndex scenario actor).bind (fun i => opUpdate i op)))).toList := by
  unfold actionSilent
  split
  next actor op =>
    cases found : botIndex scenario actor with
    | none =>
      change updates (e.note (some kind) .unknown) = _
      rw [note_same e _ .unknown rfl]
      simp [found]
    | some i =>
      change updates (e.call outside (some kind) i op).2 = _
      rw [call_updates]
      simp [found]
  next lacking =>
    rw [note_same e _ .missing rfl]
    cases actor with
    | none => simp
    | some actor =>
      cases op with
      | none => simp
      | some op => exact (lacking actor op rfl rfl).elim

theorem executeAction_updates (e : ScenarioEngine scenario) (action : Action) :
    updates (executeAction scenario outside e action) =
      updates e ++ (transitionOf scenario action).toList := by
  have same (next : ScenarioEngine scenario) (other : transitionOf scenario action = none)
      (kept : updates next = updates e) :
      updates next = updates e ++ (transitionOf scenario action).toList := by
    rw [kept,other]
    exact (List.append_nil _).symm
  unfold executeAction
  cases kind : action.actionType with
  | allJoin =>
    refine same _ (by simp [transitionOf,kind]) ?_
    exact Run.keeps_foldl (fun s => updates s.2) _ (joinOne_same scenario outside) _ (none,e)
  | startMedia =>
    refine same _ (by simp [transitionOf,kind]) ?_
    exact (Run.keeps_foldl updates _ (discoverOne_same scenario outside) _ _).trans
      (Run.keeps_foldl updates _ (startOne_same scenario outside) _ e)
  | pttRequest =>
    refine same _ (by simp [transitionOf,kind]) ?_
    exact actionFloor_same scenario outside (fun _ => rfl) action.actor e
  | pttRelease =>
    refine same _ (by simp [transitionOf,kind]) ?_
    exact actionFloor_same scenario outside (fun _ => rfl) action.actor e
  | pttAlternate =>
    refine same _ (by simp [transitionOf,kind]) ?_
    exact actionPttAlternate_same scenario outside action e
  | killBot =>
    refine same _ (by simp [transitionOf,kind]) ?_
    refine (actionSilent_updates scenario outside .killBot (some .disconnect) action.actor e).trans ?_
    cases action.actor with
    | none => exact List.append_nil _
    | some id => cases botIndex scenario id <;> simp [opUpdate]
  | wait => exact same _ (by simp [transitionOf,kind]) (waitWithHeartbeat_same e)
  | networkTransition =>
    refine (actionSilent_updates scenario outside .networkTransition
      (action.profile.map .updateNetFilter) action.actor e).trans ?_
    rw [transitionOf,kind]
    cases action.actor with
    | none => rfl
    | some id =>
      cases action.profile with
      | none => rfl
      | some profile => cases found : botIndex scenario id <;> simp [found,opUpdate]

/-- The updates of a run are the transitions of its script, in the order of time. -/
theorem run_updates :
    updates (disconnectAll scenario outside (timeline scenario outside)) =
      (scenario.actions.insertionSort (fun a b => a.atSec ≤ b.atSec)).filterMap
        (transitionOf scenario) := by
  have stopped (e : ScenarioEngine scenario) : updates (disconnectAll scenario outside e) = updates e := by
    apply Run.keeps_foldl updates
    intro e i
    simp [disconnectOne,call_updates,opUpdate]
  have chained (actions : List Action) (e : ScenarioEngine scenario) :
      updates (actions.foldl (fun e action =>
        executeAction scenario outside (e.waitWithHeartbeat outside) action) e) =
      updates e ++ actions.filterMap (transitionOf scenario) := by
    induction actions generalizing e with
    | nil => exact (List.append_nil _).symm
    | cons action rest ih =>
      rw [List.foldl_cons,ih,executeAction_updates,waitWithHeartbeat_same]
      cases transition : transitionOf scenario action <;> simp [transition]
  rw [stopped,timeline,chained]
  rfl

end actions

end Oxlab.Scenario.NetFilters
