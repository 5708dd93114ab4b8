import Oxlab.MediaTasks
import Oxlab.TalkTurns

/-! What the `run` command does with its bots.
For each bot, from its join to its disconnect and however the server answers: the calls
made on it, its turn to talk, and its media tasks. -/
namespace Oxlab.RunControl
open Bot.Lifecycle Scenario.Engine Cli.RunCommand MediaTasks TalkTurns Library Relation

variable {n : Nat}

def own (i : Fin n) (made : List (Call n)) : List (Call n) := made.filter (fun c => c.bot = i)

/-- A bot that is tried once and not called again. -/
def Failed (made : List (Call n)) : Prop :=
  ∃ c, made = [c] ∧ c.op.joins = true ∧ c.response.error ≠ none

/-- A bot that joins first, is disconnected last, and does neither in between. -/
def Served (made : List (Call n)) : Prop :=
  ∃ first middle last, made = first::middle ++ [last] ∧
    (first.op.joins = true ∧ first.response.error = none) ∧
    (∀ c ∈ middle,c.op.joins = false ∧ c.op ≠ .disconnect) ∧ last.op = .disconnect

def asker (c : Call n) : Option (Fin n) :=
  match c.op with
  | .floorRequestWs _ => some c.bot
  | _ => none

def asked (e : EngineState n) : List (Fin n) := (calls e).filterMap asker

variable {outside : Nat → Response} {e next : EngineState n} {i : Fin n}

section does
variable {allowed : Fin n → BotOp → Prop}

theorem only_quiet {log : List (Logged n)} (only : Only allowed log)
    (other : ∀ i op, allowed i op → ∀ priority, op ≠ .floorRequestWs priority) : Quiet log := by
  intro entry member
  obtain ⟨bot,op,response,error,step,own⟩ := only entry member
  unfold asks
  rw [step]
  cases op with
  | floorRequestWs priority => exact absurd rfl (other bot _ own priority)
  | _ => rfl

theorem only_calls {log : List (Logged n)} (only : Only allowed log) :
    ∀ c ∈ log.filterMap callOf,allowed c.bot c.op := by
  intro c member
  obtain ⟨entry,inside,called⟩ := List.mem_filterMap.mp member
  obtain ⟨bot,op,response,error,step,own⟩ := only entry inside
  rw [callOf,step] at called
  cases called
  exact own

theorem does_taken (does : Does outside allowed e next)
    (other : ∀ i op, allowed i op → ∀ priority, op ≠ .floorRequestWs priority) : Taken e next := by
  obtain ⟨added,grown,only⟩ := does.log
  exact ⟨added,grown,exclusive_quiet (only_quiet only other)⟩

end does

section turns

theorem takeTurn_taken (e : EngineState n) (i : Fin n) : Taken e (takeTurn outside e i) := by
  unfold takeTurn
  split
  next => exact (silent_refl e).taken
  next =>
    split
    next response middle ran =>
      split
      next => exact taken_turn ran (silent_refl middle) rfl
      next refused =>
        apply taken_refused ran
        intro other same
        cases same
        exact Bool.eq_false_iff.mpr refused
    next ran => exact taken_refused ran (by simp)

theorem maintain_taken (args : RunArgs) (bots : List (Fin n)) (e : EngineState n) :
    Taken e (maintain outside args bots e) := by
  have upkept {e next : EngineState n} (does : Does outside (Upkeep bots) e next) : Taken e next :=
    does_taken does (fun _ _ upkeep => upkeep.2)
  have started (e : EngineState n) : ReflTransGen Taken e
      (if args.media then startMedia outside bots e else e) := by
    split
    next => exact .single (upkept (startMedia_does bots e))
    next => exact .refl
  have cycled (e : EngineState n) : ReflTransGen Taken e
      (if args.media && args.mode == "ptt" then pttCycle outside bots e else e) := by
    split
    next => exact Run.chain_foldl id _ (fun e i => .single (takeTurn_taken e i)) bots e
    next => exact .refl
  have held (e : EngineState n) : ReflTransGen Taken e
      (if args.hold > 0 then hold outside bots e else e) := by
    split
    next => exact .single (upkept (hold_does bots e))
    next => exact .refl
  exact taken_chain ((started e).trans ((cycled _).trans (held _)))

theorem cmdRun_exclusive (args : RunArgs) (n : Nat) : Exclusive (cmdRun outside args n).log := by
  have joined : Taken {} (joinBots outside n).engine := by
    apply does_taken (joinBots_does n)
    rintro i op joins priority rfl
    cases joins
  have run : Taken {} (cmdRun outside args n) := by
    simp only [cmdRun]
    split
    next => exact joined
    next =>
      have kept : Taken (joinBots outside n).engine
          (maintain outside args (joinBots outside n).bots (joinBots outside n).engine) :=
        maintain_taken args _ _
      have ended : Taken (maintain outside args (joinBots outside n).bots (joinBots outside n).engine)
          ((joinBots outside n).bots.foldl (disconnectBot outside)
            (maintain outside args (joinBots outside n).bots (joinBots outside n).engine)) := by
        apply does_taken (disconnects_does _ _)
        rintro i op ⟨_,rfl⟩
        simp
      exact taken_chain (.head joined (.head kept (.single ended)))
  obtain ⟨added,grown,exclusive⟩ := run
  rwa [grown]

theorem silent_asked (silent : Silent e next) : asked next = asked e := by
  obtain ⟨added,grown,quiet⟩ := silent
  have none : (added.filterMap callOf).filterMap asker = [] := by
    rw [List.filterMap_filterMap,List.filterMap_eq_nil_iff]
    intro entry member
    have still := quiet entry member
    obtain ⟨action,step⟩ := entry
    cases step with
    | call bot op response error =>
      cases op with
      | floorRequestWs priority => cases still
      | _ => rfl
    | _ => rfl
  rw [asked,calls,grown,List.filterMap_append,List.filterMap_append,none,List.append_nil]
  rfl

end turns

section calls
variable {result : Except String Response} {op : BotOp}

theorem call_calls (ran : e.call outside none i op = (result,next)) :
    calls next = calls e ++ [⟨i,op,outside e.clock⟩] := by
  obtain ⟨error,grown,_⟩ := call_log ran
  rw [calls,grown,List.filterMap_append]
  rfl

theorem joins_run (response : Response) (bot : BotState) (joins : op.joins = true) :
    ∃ roomId, op.run response bot = bot.enter response roomId := by
  cases op with
  | connectAndJoin => exact ⟨response.roomId,rfl⟩
  | joinExistingRoom roomId => exact ⟨roomId,rfl⟩
  | _ => cases joins

theorem join_ok {response : Response} (joins : op.joins = true)
    (ran : e.call outside none i op = (.ok response,next)) :
    (outside e.clock).error = none ∧ (next.bots i).roomId.isSome = true := by
  obtain ⟨roomId,entered⟩ := joins_run (outside e.clock) (e.bots i) joins
  unfold EngineState.call at ran
  split at ran
  next run =>
    cases ran
    rw [entered] at run
    obtain ⟨fine,rfl⟩ := answer_ok run
    refine ⟨fine,?_⟩
    simp [EngineState.called,BotOp.after,entered,run]
  next => cases ran

theorem join_error {text : String} (joins : op.joins = true)
    (ran : e.call outside none i op = (.error text,next)) : (outside e.clock).error ≠ none := by
  obtain ⟨roomId,entered⟩ := joins_run (outside e.clock) (e.bots i) joins
  unfold EngineState.call at ran
  split at ran
  next => cases ran
  next run =>
    intro fine
    rw [entered,BotState.enter,Response.answer,fine] at run
    cases run

/-- The calls behind the joins of some bots, in order. -/
structure Tried (tried : List (Fin n)) (s : Joining n) : Prop where
  each : s.stopped = false → (calls s.engine).map (·.bot) = tried
  joins : ∀ c ∈ calls s.engine,c.op.joins = true
  bots : s.stopped = false →
    s.bots = ((calls s.engine).filter (fun c => c.response.error.isNone)).map (·.bot)
  room : s.stopped = false → tried ≠ [] → s.roomId.isSome = true
  stopped : s.stopped = true → ∃ c, calls s.engine = [c] ∧ c.bot.val = 0 ∧ c.response.error ≠ none

theorem stopped_tried {tried : List (Fin n)} {s : Joining n} (holds : Tried tried s)
    (stopped : s.stopped = true) (later : List (Fin n)) : Tried later s := by
  have open_not : s.stopped ≠ false := by simp [stopped]
  exact ⟨fun still => absurd still open_not,holds.joins,fun still => absurd still open_not,
    fun still => absurd still open_not,holds.stopped⟩

theorem tried_append {tried : List (Fin n)} {s : Joining n} (holds : Tried tried s)
    (still : s.stopped = false) {c : Call n} (joins : c.op.joins = true)
    (made : calls e = calls s.engine ++ [c]) (roomId : Option String) (room : roomId.isSome = true) :
    Tried (tried ++ [c.bot]) { s with
      roomId := roomId
      bots := s.bots ++ (if c.response.error = none then [c.bot] else [])
      engine := e } := by
  refine ⟨?_,?_,?_,fun _ _ => room,?_⟩
  · intro _
    rw [made,List.map_append,holds.each still]
    rfl
  · rw [made]
    exact List.forall_mem_append.mpr ⟨holds.joins,List.forall_mem_singleton.mpr joins⟩
  · intro _
    rw [made,List.filter_append,List.map_append,← holds.bots still]
    cases answered : c.response.error <;> simp [answered]
  · intro stopped
    rw [still] at stopped
    cases stopped

theorem joinBot_tried {tried : List (Fin n)} {s : Joining n} (holds : Tried tried s)
    (first : i.val = 0 ↔ tried = []) : Tried (tried ++ [i]) (joinBot outside s i) := by
  unfold joinBot
  split
  next stopped => exact stopped_tried holds stopped _
  next running =>
    have still : s.stopped = false := Bool.eq_false_iff.mpr running
    split
    next zero =>
      split
      next response reached ran =>
        obtain ⟨fine,room⟩ := join_ok rfl ran
        have joined := tried_append holds still (c := ⟨i,.connectAndJoin,outside s.engine.clock⟩) rfl
          (call_calls ran) (reached.bots i).roomId room
        simpa [fine] using joined
      next error reached ran =>
        have refused := join_error rfl ran
        have none : calls s.engine = [] := by
          rw [← List.map_eq_nil_iff,holds.each still]
          exact first.mp zero
        have made := call_calls ran
        rw [none,List.nil_append] at made
        refine ⟨by simp,?_,by simp,by simp,fun _ => ⟨_,made,zero,refused⟩⟩
        rw [made]
        exact List.forall_mem_singleton.mpr rfl
    next later =>
      have room : s.roomId.isSome = true := holds.room still (fun empty => later (first.mpr empty))
      split
      next missing =>
        rw [missing] at room
        cases room
      next rid found =>
        split
        next response reached ran =>
          obtain ⟨fine,_⟩ := join_ok rfl ran
          have joined := tried_append holds still (c := ⟨i,.joinExistingRoom rid,outside s.engine.clock⟩)
            rfl (call_calls ran) s.roomId room
          simpa [fine] using joined
        next error reached ran =>
          have refused := join_error rfl ran
          have joined := tried_append holds still (c := ⟨i,.joinExistingRoom rid,outside s.engine.clock⟩)
            rfl (call_calls ran) s.roomId room
          simpa [refused] using joined

theorem joinBots_tried (outside : Nat → Response) (n : Nat) : Tried (List.finRange n) (joinBots outside n) := by
  have from_here (items tried : List (Fin n)) (s : Joining n) (holds : Tried tried s)
      (split : tried ++ items = List.finRange n) :
      Tried (List.finRange n) (items.foldl (joinBot outside) s) := by
    induction items generalizing tried s with
    | nil => rwa [← split,List.append_nil]
    | cons i rest ih =>
      have place : i.val = tried.length := by
        have found : (tried ++ i::rest)[tried.length]? = some i := by simp
        rw [split,List.getElem?_eq_some_iff] at found
        obtain ⟨inside,found⟩ := found
        rw [← found,List.getElem_finRange]
        rfl
      apply ih (tried ++ [i]) _ (joinBot_tried holds (by rw [place,List.length_eq_zero_iff]))
      rw [← split,List.append_assoc]
      rfl
  exact from_here (List.finRange n) [] {} ⟨by simp [calls],by simp [calls],by simp [calls],
    by simp,by simp⟩ rfl

end calls

section lives
variable {made before after : List (Call n)} {c : Call n}

theorem own_append (i : Fin n) (first second : List (Call n)) :
    own i (first ++ second) = own i first ++ own i second := List.filter_append _ _

theorem own_absent (absent : ∀ c ∈ made,c.bot ≠ i) : own i made = [] := by
  rw [own,List.filter_eq_nil_iff]
  intro c member
  simpa using absent c member

theorem own_single (distinct : (made.map (·.bot)).Nodup) (member : c ∈ made) :
    own c.bot made = [c] := by
  induction made with
  | nil => cases member
  | cons head rest ih =>
    obtain ⟨fresh,later⟩ := List.nodup_cons.mp distinct
    have others (d : Call n) (inside : d ∈ rest) : d.bot ≠ head.bot := by
      intro same
      exact fresh (List.mem_map.mpr ⟨d,inside,same⟩)
    rcases List.mem_cons.mp member with rfl | inside
    · have none := own_absent others
      simp [own] at none ⊢
      exact none
    · have other : head.bot ≠ c.bot := fun same => others c inside same.symm
      have skipped : own c.bot (head::rest) = own c.bot rest := List.filter_cons_of_neg (by simpa using other)
      rw [skipped,ih later inside]

theorem disconnects_calls (outside : Nat → Response) (bots : List (Fin n)) (e : EngineState n) :
    ∃ left, calls (bots.foldl (disconnectBot outside) e) = calls e ++ left ∧
      left.map (·.bot) = bots ∧ ∀ c ∈ left,c.op = .disconnect := by
  induction bots generalizing e with
  | nil => exact ⟨[],(List.append_nil _).symm,rfl,List.forall_mem_nil _⟩
  | cons i rest ih =>
    obtain ⟨left,grown,bots,ops⟩ := ih (disconnectBot outside e i)
    have first : calls (disconnectBot outside e i) = calls e ++ [⟨i,.disconnect,outside e.clock⟩] :=
      call_calls rfl
    refine ⟨⟨i,.disconnect,outside e.clock⟩::left,?_,by rw [List.map_cons,bots],?_⟩
    · rw [List.foldl_cons,grown,first,List.append_assoc]
      rfl
    · exact List.forall_mem_cons.mpr ⟨rfl,ops⟩

theorem maintain_calls (outside : Nat → Response) (args : RunArgs) (bots : List (Fin n)) (e : EngineState n) :
    ∃ works, calls (maintain outside args bots e) = calls e ++ works ∧
      ∀ c ∈ works,Serves bots c.bot c.op := by
  obtain ⟨added,grown,only⟩ := (maintain_does outside args bots e).log
  exact ⟨added.filterMap callOf,by rw [calls,grown,List.filterMap_append]; rfl,only_calls only⟩

theorem cmdRun_stopped (outside : Nat → Response) (args : RunArgs) (n : Nat) (stopped : (joinBots outside n).stopped = true) :
    ∃ c, calls (cmdRun outside args n) = [c] ∧ c.bot.val = 0 ∧ Failed [c] := by
  have tried := joinBots_tried outside n
  obtain ⟨c,made,zero,refused⟩ := tried.stopped stopped
  have joins := tried.joins c (by simp [made])
  refine ⟨c,?_,zero,c,rfl,joins,refused⟩
  rw [cmdRun,if_pos stopped,made]

theorem cmdRun_lives (outside : Nat → Response) (args : RunArgs) (n : Nat) (still : (joinBots outside n).stopped = false)
    (i : Fin n) :
    (i ∈ (joinBots outside n).bots → Served (own i (calls (cmdRun outside args n)))) ∧
      (i ∉ (joinBots outside n).bots → Failed (own i (calls (cmdRun outside args n)))) := by
  have tried := joinBots_tried outside n
  have each := tried.each still
  have distinct : ((calls (joinBots outside n).engine).map (·.bot)).Nodup := by
    rw [each]
    exact List.nodup_finRange n
  have bots := tried.bots still
  have once : (joinBots outside n).bots.Nodup := by
    rw [bots]
    exact distinct.sublist (List.filter_sublist.map _)
  obtain ⟨works,worked,serves⟩ := maintain_calls outside args (joinBots outside n).bots
    (joinBots outside n).engine
  obtain ⟨left,ended,leavers,leave⟩ := disconnects_calls outside (joinBots outside n).bots
    (maintain outside args (joinBots outside n).bots (joinBots outside n).engine)
  have all : calls (cmdRun outside args n) =
      calls (joinBots outside n).engine ++ works ++ left := by
    rw [cmdRun,if_neg (by simp [still]),ended,worked]
  have member : i ∈ (calls (joinBots outside n).engine).map (·.bot) := by
    rw [each]
    exact List.mem_finRange i
  obtain ⟨c,inside,rfl⟩ := List.mem_map.mp member
  have opened := own_single distinct inside
  have accepted : c.bot ∈ (joinBots outside n).bots ↔ c.response.error = none := by
    rw [bots]
    constructor
    · intro found
      obtain ⟨d,kept,same⟩ := List.mem_map.mp found
      obtain ⟨inside',fine⟩ := List.mem_filter.mp kept
      have single := own_single distinct inside'
      rw [same,opened] at single
      cases single
      simpa using fine
    · intro fine
      exact List.mem_map_of_mem (List.mem_filter.mpr ⟨inside,by simp [fine]⟩)
  constructor
  · intro joined
    have gone : c.bot ∈ left.map (·.bot) := leavers ▸ joined
    obtain ⟨last,inside',same⟩ := List.mem_map.mp gone
    have closed := own_single (leavers ▸ once) inside'
    rw [same] at closed
    refine ⟨c,own c.bot works,last,?_,⟨tried.joins c inside,accepted.mp joined⟩,?_,leave last inside'⟩
    · rw [all,own_append,own_append,opened,closed]
      rfl
    · intro d served
      exact (serves d (List.mem_of_mem_filter served)).2
  · intro missing
    have silent : own c.bot works = [] := own_absent (fun d served same => missing
      (same ▸ (serves d served).1))
    have stays : own c.bot left = [] := own_absent (fun d leaving same => missing
      (same ▸ leavers ▸ List.mem_map_of_mem leaving))
    refine ⟨c,?_,tried.joins c inside,fun fine => missing (accepted.mpr fine)⟩
    rw [all,own_append,own_append,opened,silent,stays]
    rfl

theorem joins_first (lives : Failed (own c.bot made) ∨ Served (own c.bot made))
    (split : made = before ++ c::after) (joins : c.op.joins = true) : own c.bot before = [] := by
  have mine : own c.bot made = own c.bot before ++ c::own c.bot after := by
    rw [split,own_append]
    simp [own]
  rcases lives with ⟨d,single,_⟩ | ⟨first,middle,last,whole,_,calm,ends⟩
  · rw [mine] at single
    cases earlier : own c.bot before with
    | nil => rfl
    | cons head rest => simp [earlier] at single
  · rw [mine] at whole
    cases earlier : own c.bot before with
    | nil => rfl
    | cons head rest =>
      rw [earlier] at whole
      have later : rest ++ c::own c.bot after = middle ++ [last] := (List.cons.inj whole).2
      have inside : c ∈ middle ++ [last] := by
        rw [← later]
        simp
      rcases List.mem_append.mp inside with served | final
      · rw [(calm c served).1] at joins
        cases joins
      · rw [List.mem_singleton.mp final,ends] at joins
        cases joins

end lives

section control
variable {made : List (Call n)}

def botAfter (made : List (Call n)) : BotState :=
  made.foldl (fun bot c => c.op.after c.response bot) {}

/-- The state of a bot depends on its own calls alone. -/
theorem replay_own {bots : Fin n → BotState} (replayed : Run.exec step created made = some bots)
    (i : Fin n) :
    bots i = botAfter (own i made) := by
  have observed := Run.exec_observed step (fun bots => bots i)
    (fun bot c => if c.bot = i then c.op.after c.response bot else bot) ?_ made created bots replayed
  · rw [observed,botAfter,own,List.foldl_filter]
    simp [created]
  · intro bots c next stepped
    cases Option.some.inj stepped
    by_cases mine : c.bot = i
    · subst mine
      simp
    · simp [mine,Function.update_of_ne (Ne.symm mine)]

theorem always_controlled {bots : Fin n → BotState}
    (replayed : Run.exec step created made = some bots)
    (clean : Run.Clean step Rejoins created made) :
    Run.Always step (fun bots => ∀ i, Controlled (bots i)) created made := by
  refine (Run.always_iff_clean step (fun bots => ∀ i, Tethered (bots i)) _ Rejoins ?_ ?_ ?_ made
    created bots ?_ replayed).mpr clean
  · intro bots tethered i
    exact (tethered i).controlled
  · intro bots c next tethered stepped fine i
    cases Option.some.inj stepped
    by_cases mine : i = c.bot
    · subst mine
      rw [Function.update_self]
      exact after_tethered (tethered c.bot) fine
    · rw [Function.update_of_ne mine]
      exact tethered i
  · intro bots c next tethered stepped rejoins controlled
    cases Option.some.inj stepped
    have wrong := controlled c.bot
    rw [Function.update_self] at wrong
    exact rejoin_uncontrolled (tethered c.bot) rejoins.1 rejoins.2.1 rejoins.2.2 wrong
  · intro i
    exact ⟨by simp [created],⟨fun wrong => by contradiction,fun wrong => by contradiction⟩⟩

theorem clean_of_lives (lives : ∀ c ∈ made,Failed (own c.bot made) ∨ Served (own c.bot made)) :
    Run.Clean step Rejoins created made := by
  rw [Run.clean_split]
  rintro before c after split bots reached ⟨joins,_,publishing⟩
  have first := joins_first (lives c (by simp [split])) split joins
  rw [replay_own reached c.bot,first] at publishing
  cases publishing

theorem failed_bot (failed : Failed made) : botAfter made = {} := by
  obtain ⟨c,rfl,joins,refused⟩ := failed
  obtain ⟨roomId,entered⟩ := joins_run c.response {} joins
  obtain ⟨text,error⟩ := Option.ne_none_iff_exists'.mp refused
  simp [botAfter,BotOp.after,entered,BotState.enter,Response.answer,error]

theorem served_bot (served : Served made) : (botAfter made).status = .stopped := by
  obtain ⟨first,middle,last,rfl,_,_,ends⟩ := served
  rw [botAfter,List.foldl_append,List.foldl_cons,List.foldl_nil,ends]
  rfl

theorem floor_call {result : Except String Response} {op : BotOp}
    (floor : op = .floorRequestWs 0 ∨ op = .floorReleaseWs)
    (ran : e.call outside none i op = (result,next)) : next.bots = e.bots := by
  have same : op.after (outside e.clock) (e.bots i) = e.bots i := by
    rcases after_run op (outside e.clock) (e.bots i) with same | run
    · exact same
    · rcases floor with rfl | rfl
      · exact requested_ok run
      · exact requested_ok run
  have update : next.bots = Function.update e.bots i (op.after (outside e.clock) (e.bots i)) := by
    unfold EngineState.call at ran
    split at ran
    next => cases ran; rfl
    next => cases ran; rfl
  rw [update,same,Function.update_eq_self]

theorem asked_call {result : Except String Response} {op : BotOp}
    (ran : e.call outside none i op = (result,next)) :
    asked next = asked e ++ (asker ⟨i,op,outside e.clock⟩).toList := by
  rw [asked,call_calls ran,List.filterMap_append]
  cases called : asker ⟨i,op,outside e.clock⟩ <;> simp [asked,called]

theorem takeTurn_asked (outside : Nat → Response) (e : EngineState n) (i : Fin n) :
    asked (takeTurn outside e i) = asked e ++ (if (e.bots i).status = .publishing then [i] else []) ∧
      (takeTurn outside e i).bots = e.bots := by
  unfold takeTurn
  split
  next => exact ⟨by simp,rfl⟩
  next publishing =>
    rw [if_pos (not_not.mp publishing)]
    split
    next reached ran =>
      have requested : asked reached = asked e ++ [i] := asked_call ran
      have same := floor_call (Or.inl rfl) ran
      split
      next =>
        have released : asked (reached.call outside none i .floorReleaseWs).2 = asked reached ++ [] :=
          asked_call rfl
        exact ⟨by rw [released,requested,List.append_nil],(floor_call (Or.inr rfl) rfl).trans same⟩
      next => exact ⟨requested,same⟩
    next ran => exact ⟨asked_call ran,floor_call (Or.inl rfl) ran⟩

theorem pttCycle_asked (bots : List (Fin n)) (e : EngineState n) :
    asked (pttCycle outside bots e) =
      asked e ++ bots.filter (fun i => (e.bots i).status = .publishing) := by
  unfold pttCycle
  induction bots generalizing e with
  | nil => exact (List.append_nil _).symm
  | cons i rest ih =>
    obtain ⟨asks,same⟩ := takeTurn_asked outside e i
    rw [List.foldl_cons,ih,asks,same,List.filter_cons,List.append_assoc]
    by_cases publishing : (e.bots i).status = .publishing <;> simp [publishing]

theorem does_unasked {allowed : Fin n → BotOp → Prop} (does : Does outside allowed e next)
    (other : ∀ i op, allowed i op → ∀ priority, op ≠ .floorRequestWs priority) :
    asked next = asked e := by
  obtain ⟨added,grown,only⟩ := does.log
  exact silent_asked ⟨added,grown,only_quiet only other⟩

theorem cmdRun_asked (args : RunArgs) (n : Nat) (still : (joinBots outside n).stopped = false) :
    asked (cmdRun outside args n) =
      if args.media && args.mode == "ptt" then
        (joinBots outside n).bots.filter (fun i =>
          ((startMedia outside (joinBots outside n).bots (joinBots outside n).engine).bots i).status =
            .publishing)
      else [] := by
  have joined : asked (joinBots outside n).engine = [] := by
    apply does_unasked (joinBots_does n)
    rintro i op joins priority rfl
    cases joins
  have started (bots : List (Fin n)) (e : EngineState n) : asked (startMedia outside bots e) = asked e :=
    does_unasked (startMedia_does bots e) (fun _ _ upkeep => upkeep.2)
  have held (bots : List (Fin n)) (e : EngineState n) :
      asked (if args.hold > 0 then hold outside bots e else e) = asked e := by
    split
    next => exact does_unasked (hold_does bots e) (fun _ _ upkeep => upkeep.2)
    next => rfl
  have ended (bots : List (Fin n)) (e : EngineState n) :
      asked (bots.foldl (disconnectBot outside) e) = asked e := by
    apply does_unasked (disconnects_does bots e)
    rintro i op ⟨_,rfl⟩
    simp
  rw [cmdRun,if_neg (by simp [still]),ended,maintain,held]
  cases args.media with
  | false => simpa using joined
  | true =>
    simp only [if_true,Bool.true_and]
    split
    next => rw [pttCycle_asked,started,joined,List.nil_append]
    next => rw [started,joined]

end control

theorem cmdRun_each (outside : Nat → Response) (args : RunArgs) (n : Nat) (i : Fin n) :
    own i (calls (cmdRun outside args n)) = [] ∨ Failed (own i (calls (cmdRun outside args n))) ∨
      Served (own i (calls (cmdRun outside args n))) := by
  cases stopped : (joinBots outside n).stopped with
  | true =>
    obtain ⟨c,made,_,failed⟩ := cmdRun_stopped outside args n stopped
    rw [made]
    by_cases mine : c.bot = i
    · have single : own i [c] = [c] := by simp [own,mine]
      rw [single]
      exact Or.inr (Or.inl failed)
    · exact Or.inl (by simp [own,mine])
  | false =>
    obtain ⟨joined,missing⟩ := cmdRun_lives outside args n stopped i
    by_cases inside : i ∈ (joinBots outside n).bots
    · exact Or.inr (Or.inr (joined inside))
    · exact Or.inr (Or.inl (missing inside))

theorem cmdRun_moves (args : RunArgs) (n : Nat) : ReflTransGen Move {} (cmdRun outside args n) := by
  have joined : ReflTransGen Move {} (joinBots outside n).engine := (joinBots_does n).moves
  simp only [cmdRun]
  split
  next => exact joined
  next =>
    have kept := (maintain_does outside args (joinBots outside n).bots
      (joinBots outside n).engine).moves
    exact joined.trans (kept.trans (disconnects_does _ _).moves)

end Oxlab.RunControl
