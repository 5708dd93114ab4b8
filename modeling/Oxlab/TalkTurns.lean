import Mathlib.Data.Finset.Card
import Oxlab.Cli.RunCommand

/-! Turns to talk.
Over whole runs of a script that takes the floor by alternation, and of the `run`
command: no bot asks for the floor while another was granted it and has not released it.
A release that fails is only logged, so this is said of what comes before one. -/
namespace Oxlab.TalkTurns
open Bot.Lifecycle Scenario.Engine Cli.RunCommand Library Relation

variable {n : Nat}

def asks (entry : Logged n) : Bool :=
  match entry.step with
  | .call _ (.floorRequestWs _) _ _ => true
  | _ => false

/-- The bots that were granted the floor and did not release it since; a release that
fails sends nothing. -/
def talks (holders : Finset (Fin n)) (entry : Logged n) : Finset (Fin n) :=
  match entry.step with
  | .call i (.floorRequestWs _) response none => if response.granted then insert i holders else holders
  | .call i .floorReleaseWs _ none => holders.erase i
  | _ => holders

def talkers (log : List (Logged n)) : Finset (Fin n) := log.foldl talks ∅

def failsRelease (entry : Logged n) : Bool :=
  match entry.step with
  | .call _ .floorReleaseWs _ (some _) => true
  | _ => false

/-- No release failed. -/
def Released (log : List (Logged n)) : Prop := ∀ entry ∈ log, failsRelease entry = false

/-- Up to the first release that fails. -/
structure Exclusive (log : List (Logged n)) : Prop where
  alone : ∀ before after, log = before ++ after → Released before → (talkers before).card ≤ 1
  free : ∀ before entry after, log = before ++ entry::after → Released before →
    asks entry = true → talkers before = ∅
  released : Released log → talkers log = ∅

def Quiet (log : List (Logged n)) : Prop := ∀ entry ∈ log, asks entry = false

theorem talkers_append (before after : List (Logged n)) :
    talkers (before ++ after) = after.foldl talks (talkers before) := List.foldl_append

theorem talks_quiet (holders : Finset (Fin n)) {entry : Logged n} (quiet : asks entry = false) :
    talks holders entry ⊆ holders := by
  unfold asks at quiet
  unfold talks
  split
  next asked =>
    rw [asked] at quiet
    cases quiet
  next => exact Finset.erase_subset _ _
  next => exact Finset.Subset.refl holders

theorem released_append {before after : List (Logged n)} :
    Released (before ++ after) ↔ Released before ∧ Released after := List.forall_mem_append

theorem foldl_quiet (holders : Finset (Fin n)) (log : List (Logged n)) (quiet : Quiet log) :
    log.foldl talks holders ⊆ holders := by
  induction log generalizing holders with
  | nil => exact Finset.Subset.refl holders
  | cons entry rest ih =>
    obtain ⟨first,later⟩ := List.forall_mem_cons.mp quiet
    exact (ih (talks holders entry) later).trans (talks_quiet holders first)

/-- Nobody talks at the end of the first, so the second begins as a run of its own. -/
theorem exclusive_append (first second : List (Logged n)) (left : Exclusive first)
    (right : Exclusive second) : Exclusive (first ++ second) := by
  have behind {after : List (Logged n)} (fine : Released (first ++ after)) :
      talkers (first ++ after) = talkers after ∧ Released after := by
    obtain ⟨own,later⟩ := released_append.mp fine
    refine ⟨?_,later⟩
    rw [talkers_append,left.released own]
    rfl
  refine ⟨?_,?_,?_⟩
  · intro before after split fine
    rcases List.append_eq_append_iff.mp split with ⟨middle,rfl,own⟩ | ⟨middle,own,_⟩
    · obtain ⟨same,later⟩ := behind fine
      rw [same]
      exact right.alone middle after own later
    · exact left.alone before middle own fine
  · intro before entry after split fine asked
    rcases List.append_eq_append_iff.mp split with ⟨middle,rfl,own⟩ | ⟨middle,own,rest⟩
    · obtain ⟨same,later⟩ := behind fine
      rw [same]
      exact right.free middle entry after own later asked
    · cases middle with
      | nil =>
        rw [List.append_nil] at own
        subst own
        exact left.released fine
      | cons head middle =>
        obtain ⟨rfl,_⟩ := List.cons.inj rest
        exact left.free before entry middle own fine asked
  · intro fine
    obtain ⟨same,later⟩ := behind fine
    rw [same,right.released later]

/-- A request, and what follows it before anybody else may ask. -/
theorem exclusive_cons (entry : Logged n) (quiet : List (Logged n)) (silent : Quiet quiet)
    (one : ∃ i, talks ∅ entry ⊆ {i})
    (released : Released quiet → quiet.foldl talks (talks ∅ entry) = ∅) :
    Exclusive (entry::quiet) := by
  obtain ⟨i,one⟩ := one
  have few (part : List (Logged n)) (rest : List (Logged n)) (split : quiet = part ++ rest) :
      part.foldl talks (talks ∅ entry) ⊆ {i} := by
    have silent : Quiet part := by
      intro entry member
      exact silent entry (split ▸ List.mem_append_left rest member)
    exact (foldl_quiet _ part silent).trans one
  refine ⟨?_,?_,fun fine => released (List.forall_mem_cons.mp fine).2⟩
  · intro before after split _
    cases before with
    | nil => exact Nat.zero_le 1
    | cons head before =>
      obtain ⟨rfl,own⟩ := List.cons.inj split
      exact (Finset.card_le_card (few before after own)).trans (Finset.card_singleton i).le
  · intro before other after split _ asked
    cases before with
    | nil => rfl
    | cons head before =>
      obtain ⟨_,split⟩ := List.cons.inj split
      have quiet := silent other (split ▸ List.mem_append_right before List.mem_cons_self)
      rw [quiet] at asked
      cases asked

theorem exclusive_quiet {log : List (Logged n)} (quiet : Quiet log) : Exclusive log := by
  have empty (before after : List (Logged n)) (split : log = before ++ after) :
      talkers before = ∅ := by
    apply Finset.subset_empty.mp
    apply foldl_quiet
    intro entry member
    exact quiet entry (split ▸ List.mem_append_left after member)
  refine ⟨?_,?_,fun _ => empty log [] (List.append_nil log).symm⟩
  · intro before after split _
    rw [empty before after split]
    exact Nat.zero_le 1
  · intro before entry after split _ _
    exact empty before (entry::after) split

/-- From one engine to another without a request for the floor. -/
abbrev Silent (e next : EngineState n) : Prop := Run.Appends EngineState.log Quiet e next

section calls
variable {outside : Nat → Response} {e next : EngineState n} {action : Option ActionType} {i : Fin n}
  {op : BotOp}

theorem silent_note (step : Step n) (quiet : asks ⟨action,step⟩ = false) :
    Silent e (e.note action step) := ⟨[⟨action,step⟩],rfl,List.forall_mem_singleton.mpr quiet⟩

theorem silent_call {result : Except String Response}
    (ran : e.call outside action i op = (result,next)) (other : ∀ priority, op ≠ .floorRequestWs priority) :
    Silent e next := by
  obtain ⟨error,grown,_⟩ := call_log ran
  refine ⟨_,grown,List.forall_mem_singleton.mpr ?_⟩
  cases op with
  | floorRequestWs priority => exact absurd rfl (other priority)
  | _ => rfl

theorem silent_after (e : EngineState n) (other : ∀ priority, op ≠ .floorRequestWs priority) :
    Silent e (e.call outside action i op).2 := silent_call rfl other

theorem quiet_append (first second : List (Logged n)) (left : Quiet first) (right : Quiet second) :
    Quiet (first ++ second) := List.forall_mem_append.mpr ⟨left,right⟩

theorem silent_chain (chain : ReflTransGen Silent e next) : Silent e next :=
  Run.chain_appends (List.forall_mem_nil _) quiet_append chain

theorem silent_refl (e : EngineState n) : Silent e e := silent_chain .refl

theorem Silent.trans {middle : EngineState n} (first : Silent e middle) (second : Silent middle next) :
    Silent e next := silent_chain (.tail (.single first) second)

theorem Silent.told (silent : Silent e next) (text : String) : Silent e (next.pushError text) := silent

theorem heartbeatOne_silent (e : EngineState n) (i : Fin n) : Silent e (e.heartbeatOne outside i) := by
  have beat (e : EngineState n) : Silent e (e.call outside none i .heartbeat).2 :=
    silent_after e (by simp)
  have events (e : EngineState n) : Silent e (e.call outside none i .processEvents).2 :=
    silent_after e (by simp)
  simp only [EngineState.heartbeatOne]
  split
  next =>
    split
    next => exact (beat e).trans (events _)
    next => exact beat e
  next =>
    split
    next => exact events e
    next => exact silent_refl e

theorem rounds_silent (bots : List (Fin n)) (rounds : Nat) (e : EngineState n) :
    Silent e ((fun e => bots.foldl (EngineState.heartbeatOne outside) e)^[rounds]
      { e with clock := e.clock + 1 }) := by
  have waited : Silent e { e with clock := e.clock + 1 } := silent_refl e
  apply waited.trans
  apply silent_chain
  apply Run.chain_iterate
  intro e
  exact Run.chain_foldl id _ (fun e i => .single (heartbeatOne_silent e i)) bots e

theorem waitWithHeartbeat_silent (e : EngineState n) : Silent e (e.waitWithHeartbeat outside) :=
  rounds_silent _ _ e

end calls

section turns
variable {outside : Nat → Response} {e middle next : EngineState n} {action : Option ActionType}
  {i : Fin n} {priority : UInt8}

/-- From one engine to another, with nobody talking in the end. -/
abbrev Taken (e next : EngineState n) : Prop := Run.Appends EngineState.log Exclusive e next

theorem taken_chain (chain : ReflTransGen Taken e next) : Taken e next :=
  Run.chain_appends (exclusive_quiet (List.forall_mem_nil _)) exclusive_append chain

theorem Silent.taken (silent : Silent e next) : Taken e next := by
  obtain ⟨added,grown,quiet⟩ := silent
  exact ⟨added,grown,exclusive_quiet quiet⟩

theorem taken_refused {result : Except String Response}
    (ran : e.call outside action i (.floorRequestWs priority) = (result,next))
    (refused : ∀ response, result = .ok response → response.granted = false) : Taken e next := by
  obtain ⟨error,grown,answered,failed⟩ := call_log ran
  have nobody : talks ∅ ⟨action,.call i (.floorRequestWs priority) (outside e.clock) error⟩ = ∅ := by
    cases result with
    | error text =>
      rw [failed text rfl]
      rfl
    | ok response =>
      obtain ⟨rfl,rfl⟩ := answered response rfl
      exact if_neg (by simp [refused _ rfl])
  exact ⟨_,grown,exclusive_cons _ [] (List.forall_mem_nil _) ⟨i,by simp [nobody]⟩ (fun _ => nobody)⟩

theorem taken_turn {response : Response} {result : Except String Response}
    (ran : e.call outside action i (.floorRequestWs priority) = (.ok response,middle))
    {talked : EngineState n} (talking : Silent middle talked)
    (left : talked.call outside action i .floorReleaseWs = (result,next)) : Taken e next := by
  obtain ⟨error,asked,answered,_⟩ := call_log ran
  obtain ⟨rfl,_⟩ := answered response rfl
  obtain ⟨added,spoken,quiet⟩ := talking
  obtain ⟨last,released,_⟩ := call_log left
  have own : talks ∅ ⟨action,.call i (.floorRequestWs priority) (outside e.clock) none⟩ ⊆ {i} := by
    unfold talks
    split <;> simp_all
  refine ⟨⟨action,.call i (.floorRequestWs priority) (outside e.clock) none⟩::(added ++
    [⟨action,.call i .floorReleaseWs (outside talked.clock) last⟩]),?_,?_⟩
  · rw [released,spoken,asked]
    simp
  · apply exclusive_cons
    · exact quiet_append _ _ quiet (List.forall_mem_singleton.mpr rfl)
    · exact ⟨i,own⟩
    · intro fine
      have sent : last = none := by
        have gone := List.forall_mem_singleton.mp (released_append.mp fine).2
        cases last with
        | none => rfl
        | some error => cases gone
      rw [List.foldl_append,List.foldl_cons,List.foldl_nil,sent]
      have kept := (foldl_quiet _ added quiet).trans own
      apply Finset.eq_empty_of_forall_notMem
      intro j member
      obtain ⟨other,held⟩ := Finset.mem_erase.mp member
      exact other (Finset.mem_singleton.mp (kept held))

end turns

section script
variable (scenario : ScenarioDef) (outside : Nat → Response)

theorem joinOne_silent (s : Option String × ScenarioEngine scenario) (i : Place scenario) :
    Silent s.2 (joinOne scenario outside s i).2 := by
  simp only [joinOne]
  split
  next =>
    split
    next ran => exact silent_call ran (by simp)
    next ran => exact (silent_call ran (by simp)).told _
  next =>
    split
    next => exact (silent_note .noRoom rfl).told _
    next =>
      split
      next ran => exact silent_call ran (by simp)
      next ran => exact (silent_call ran (by simp)).told _

theorem mediaStep_silent (i : Place scenario) (op : BotOp) (label : String)
    (rest : ScenarioEngine scenario → ScenarioEngine scenario)
    (other : ∀ priority, op ≠ .floorRequestWs priority) (chained : ∀ e, Silent e (rest e))
    (e : ScenarioEngine scenario) : Silent e (mediaStep scenario outside i op label rest e) := by
  unfold mediaStep
  split
  next ran => exact (silent_call ran other).trans (chained _)
  next ran => exact (silent_call ran other).told _

theorem startOne_silent (e : ScenarioEngine scenario) (i : Place scenario) :
    Silent e (startOne scenario outside e i) := by
  unfold startOne
  split
  next => exact silent_refl e
  next =>
    apply mediaStep_silent
    · simp
    · apply mediaStep_silent
      · simp
      · apply mediaStep_silent
        · simp
        · exact silent_refl

theorem discoverOne_silent (e : ScenarioEngine scenario) (i : Place scenario) :
    Silent e (discoverOne scenario outside e i) := by
  unfold discoverOne
  split
  next => exact silent_after e (by simp)
  next => exact silent_refl e

theorem actionPttRelease_silent (action : Action) (e : ScenarioEngine scenario) :
    Silent e (actionPttRelease scenario outside action e) := by
  unfold actionPttRelease actionFloor
  split
  next => exact (silent_note .missing rfl).told _
  next =>
    split
    next => exact silent_note .unknown rfl
    next =>
      split
      next ran => exact silent_call ran (by simp)
      next ran => exact (silent_call ran (by simp)).told _

theorem actionSilent_silent {kind : ActionType} (op : Option BotOp) (actor : Option String)
    (other : ∀ priority, op ≠ some (.floorRequestWs priority)) (e : ScenarioEngine scenario) :
    Silent e (actionSilent scenario outside kind op actor e) := by
  unfold actionSilent
  split
  next actor op =>
    split
    next => exact silent_note .unknown rfl
    next => exact silent_after e (fun priority same => other priority (congrArg some same))
  next => exact silent_note .missing rfl

theorem alternateOne_taken (e : ScenarioEngine scenario) (actorId : String) :
    Taken e (alternateOne scenario outside e actorId) := by
  unfold alternateOne
  split
  next => exact (silent_note .unknown rfl).taken
  next =>
    split
    next response middle ran =>
      split
      next => exact taken_turn ran (waitWithHeartbeat_silent middle) rfl
      next refused =>
        apply taken_refused ran
        intro other same
        cases same
        exact Bool.eq_false_iff.mpr refused
    next ran => exact taken_refused ran (by simp)

theorem actionPttAlternate_taken (action : Action) (e : ScenarioEngine scenario) :
    Taken e (actionPttAlternate scenario outside action e) := by
  unfold actionPttAlternate
  split
  next => exact ((silent_note .missing rfl).told _).taken
  next => exact ((silent_note .missing rfl).told _).taken
  next actor others _ =>
    apply taken_chain
    apply Run.chain_iterate
    intro e
    exact Run.chain_foldl id _ (fun e actorId => .single (alternateOne_taken scenario outside e actorId))
      (actor::others) e

theorem disconnectOne_silent (e : ScenarioEngine scenario) (i : Place scenario) :
    Silent e (disconnectOne scenario outside e i) := by
  unfold disconnectOne
  exact silent_after e (by simp)

theorem executeAction_taken (e : ScenarioEngine scenario) (action : Action)
    (alternates : action.actionType ≠ .pttRequest) : Taken e (executeAction scenario outside e action) := by
  unfold executeAction
  split
  next =>
    apply Silent.taken
    exact silent_chain (Run.chain_foldl Prod.snd _
      (fun s i => .single (joinOne_silent scenario outside s i)) _ (none,e))
  next =>
    apply Silent.taken
    apply silent_chain
    exact (Run.chain_foldl id _ (fun e i => .single (startOne_silent scenario outside e i)) _ e).trans
      (Run.chain_foldl id _ (fun e i => .single (discoverOne_silent scenario outside e i)) _ _)
  next kind => exact absurd kind alternates
  next => exact (actionPttRelease_silent scenario outside action e).taken
  next => exact actionPttAlternate_taken scenario outside action e
  next =>
    apply Silent.taken
    apply actionSilent_silent
    cases action.profile <;> simp
  next => exact (actionSilent_silent scenario outside _ action.actor (by simp) e).taken
  next => exact (waitWithHeartbeat_silent e).taken

def duo : ScenarioDef where
  name := "duo"
  mode := "ptt"
  participants := [{ id := "bot-1" },{ id := "bot-2" }]
  actions := [{ atSec := 0, actionType := .allJoin },{ atSec := 1, actionType := .startMedia },
    { atSec := 2, actionType := .pttAlternate, actors := some ["bot-1","bot-2"], count := some 2 }]

end script

end Oxlab.TalkTurns
