import Mathlib.Algebra.BigOperators.Fin
import Oxlab.Cli.CapSetup
import Oxlab.Library.Census
import Oxlab.Library.Run

/-! When a capacity measurement starts, and who listens to it.
Any interleaving of the bots, the publisher, the runner and the clock; then one in
which the runner's sleeps end late by no more than the margin allows. -/
namespace Oxlab.ReadySync
open Cli.CapSetup Library Library.Run

variable {c : Config}

/-- Permits are never lost, a bot is counted once, nothing is published before the
trigger, and the trigger waits for every bot or for the deadline; asked for no bots, it
waits for nothing. -/
structure Holds (c : Config) (s : Sync c.bots) : Prop where
  permits : s.free + census Phase.isSetting s.bots = 32
  ready : s.ready = census Phase.hasCounted s.bots
  triggered : ∀ fired, s.runner = .triggered fired →
    fired ≤ s.now ∧ (0 < c.n → (∀ i, (s.bots i).hasCounted) ∨ c.readyDeadline ≤ fired)
  published : ∀ i since, s.bots i = .publishing since →
    ∃ fired ≤ since,s.runner = .triggered fired
  publisher : ∀ since, s.publisher = .publishing since →
    ∃ fired ≤ since,s.runner = .triggered fired

theorem bots_eq (some : 0 < c.n) : c.bots = c.n := by
  unfold Config.bots
  split
  next => exact max_eq_left some
  next => rfl

theorem launch_holds : Holds c (launch c) where
  permits := by rw [census_none _ _ (fun _ => rfl)]; rfl
  ready := by rw [census_none _ _ (fun _ => rfl)]; rfl
  triggered := by simp [launch]
  published := by simp [launch]
  publisher := by simp [launch]

theorem step_holds (s : Sync c.bots) (l : Label c.bots) (next : Sync c.bots) (holds : Holds c s)
    (stepped : step c s l = some next) : Holds c next := by
  rcases step_cases c stepped with ⟨ms,rfl⟩ | ⟨i,phase,free,ready,rfl,moves,permits,counted⟩ |
    ⟨wake,polling,due,rfl⟩ | ⟨phase,rfl,published⟩
  · refine ⟨holds.permits,holds.ready,?_,holds.published,holds.publisher⟩
    intro fired fires
    obtain ⟨past,reason⟩ := holds.triggered fired fires
    exact ⟨Nat.le_add_right_of_le past,reason⟩
  · have setting := census_update Phase.isSetting s.bots i phase
    have counting := census_update Phase.hasCounted s.bots i phase
    have before := holds.permits
    have same := holds.ready
    refine ⟨?_,?_,?_,?_,holds.publisher⟩
    · simp only [Sync.enter]
      omega
    · simp only [Sync.enter]
      omega
    · intro fired fires
      obtain ⟨past,reason⟩ := holds.triggered fired fires
      refine ⟨past,fun some => (reason some).imp_left ?_⟩
      intro all j
      by_cases moved : j = i
      · subst moved
        simpa [Sync.enter] using moves.counted (all j)
      · simpa [Sync.enter,moved] using all j
    · intro j since publishing
      by_cases moved : j = i
      · subst moved
        simp only [Sync.enter,Function.update_self] at publishing
        obtain ⟨_,rfl,fired,fires⟩ := moves.published since publishing
        exact ⟨fired,(holds.triggered fired fires).1,fires⟩
      · simp only [Sync.enter,Function.update_of_ne moved] at publishing
        exact holds.published j since publishing
  · have none_published (since : Nat)
        (before : ∃ fired ≤ since,s.runner = .triggered fired) : False := by
      obtain ⟨fired,_,fires⟩ := before
      rw [polling] at fires
      contradiction
    refine ⟨holds.permits,holds.ready,?_,?_,?_⟩
    · intro fired fires
      simp only at fires
      split at fires
      next elapsed =>
        cases fires
        refine ⟨Nat.le_refl _,fun some => elapsed.imp_left ?_⟩
        intro all
        rw [holds.ready] at all
        apply census_all
        rw [Fintype.card_fin]
        exact (bots_eq some).trans_le all
      next => contradiction
    · intro i since publishing
      exact (none_published since (holds.published i since publishing)).elim
    · intro since publishing
      exact (none_published since (holds.publisher since publishing)).elim
  · refine ⟨holds.permits,holds.ready,holds.triggered,holds.published,?_⟩
    intro since publishing
    obtain ⟨rfl,fired,fires⟩ := published since publishing
    exact ⟨fired,(holds.triggered fired fires).1,fires⟩

/-- Over every interleaving, in every state a start-up reaches. -/
theorem ready_sync {labels : List (Label c.bots)} {s : Sync c.bots}
    (ran : exec (step c) (launch c) labels = some s) : Holds c s :=
  exec_keeps (step c) (Holds c) step_holds labels (launch c) s launch_holds ran

/-- One subscriber, ready a fifth of a second after the runner starts to wait. -/
def single : Config := ⟨1,1,false,0⟩

def lone : Fin single.bots := ⟨0,Nat.zero_lt_one⟩

def singleRun : List (Label single.bots) :=
  [.elapse 1000,.poll,.pubConnect,.acquire lone,.elapse 200,.poll,.connect lone,.count lone,
    .elapse 200,.poll,.pubPublish,.elapse 23000,.close lone]

theorem single_ends : ∃ s, exec (step single) (launch single) singleRun = some s ∧
    s.bots lone = .ended := by
  have seen : (exec (step single) (launch single) singleRun).map (fun s => s.bots lone) =
      some .ended := by
    decide
  exact Option.map_eq_some_iff.mp seen

theorem ready_sync_single : ∃ s, exec (step single) (launch single) singleRun = some s ∧
    s.free = 32 ∧ s.ready = 1 := by
  obtain ⟨s,ran,ended⟩ := single_ends
  have holds := ready_sync ran
  have only (p : Phase → Bool) : census p s.bots = (p .ended).toNat := by
    rw [← ended]
    exact Fin.sum_univ_one _
  refine ⟨s,ran,?_,?_⟩
  · have permits := holds.permits
    rw [only] at permits
    exact permits
  · rw [holds.ready,only]
    rfl

/-- The runner's sleep ends late by at most `late`. -/
def Prompt (late : Nat) (s : Sync c.bots) : Prop :=
  ∀ wake, s.runner = .polling wake → s.now ≤ wake + late

/-- What the clock readings of a prompt start-up satisfy. -/
structure Timely (c : Config) (late : Nat) (s : Sync c.bots) : Prop where
  spawned : ∀ i, s.bots i ≠ .waiting → c.spawn i ≤ s.now
  counted : ∀ i since, s.bots i = .counted since → c.spawn i ≤ since
  polling : ∀ wake, s.runner = .polling wake → wake < c.readyDeadline + 200
  triggered : ∀ fired, s.runner = .triggered fired → fired < c.readyDeadline + 200 + late
  ended : ∀ i, s.bots i = .ended → ∃ fired, s.runner = .triggered fired ∧ fired + c.duration ≤ s.now

section prompt
variable {late : Nat}

theorem launch_timely : Timely c late (launch c) where
  spawned := by simp [launch]
  counted := by simp [launch]
  polling := by
    intro wake polling
    cases polling
    rw [Config.readyDeadline]
    omega
  triggered := by simp [launch]
  ended := by simp [launch]

theorem ended_timely (small : late ≤ 1800) {s : Sync c.bots} (prompt : Prompt late s)
    (holds : Holds c s) (timely : Timely c late s) {i : Fin c.bots} (done : Moves c s i .ended) :
    ∃ fired, s.runner = .triggered fired ∧ fired + c.duration ≤ s.now := by
  rcases done.ended rfl with ⟨conf,since,listening,finished⟩ | ⟨since,publishing,finished⟩
  · -- a subscriber has listened for its window, counted from when it was ready
    have spawned := timely.counted i since listening
    rw [Config.spawn,if_neg (by simp [conf])] at spawned
    rw [Config.runWindow,Config.margin] at finished
    have deadline : c.readyDeadline = c.base + c.readyCap := rfl
    cases runner : s.runner with
    | polling wake =>
      have before := timely.polling wake runner
      have awake := prompt wake runner
      omega
    | triggered fired =>
      have before := timely.triggered fired runner
      exact ⟨fired,rfl,by omega⟩
  · obtain ⟨fired,before,fires⟩ := holds.published i since publishing
    exact ⟨fired,fires,by omega⟩

theorem step_timely (small : late ≤ 1800) (s : Sync c.bots) (l : Label c.bots) (next : Sync c.bots)
    (prompt : Prompt late s) (holds : Holds c s ∧ Timely c late s)
    (stepped : step c s l = some next) : Holds c next ∧ Timely c late next := by
  refine ⟨step_holds s l next holds.1 stepped,?_⟩
  obtain ⟨holds,timely⟩ := holds
  rcases step_cases c stepped with ⟨ms,rfl⟩ | ⟨i,phase,free,ready,rfl,moves,_,_⟩ |
    ⟨wake,polling,_,rfl⟩ | ⟨phase,rfl,_⟩
  · refine ⟨?_,timely.counted,timely.polling,timely.triggered,?_⟩
    · intro i left
      exact Nat.le_add_right_of_le (timely.spawned i left)
    · intro i done
      obtain ⟨fired,fires,finished⟩ := timely.ended i done
      exact ⟨fired,fires,Nat.le_add_right_of_le finished⟩
  · have spawned : c.spawn i ≤ s.now := by
      by_cases left : s.bots i = .waiting
      · exact moves.spawned left
      · exact timely.spawned i left
    refine ⟨?_,?_,timely.polling,timely.triggered,?_⟩
    · intro j left
      by_cases moved : j = i
      · subst moved
        exact spawned
      · simp only [Sync.enter,Function.update_of_ne moved] at left
        exact timely.spawned j left
    · intro j since listening
      by_cases moved : j = i
      · subst moved
        simp only [Sync.enter,Function.update_self] at listening
        rw [moves.entered since listening]
        exact spawned
      · simp only [Sync.enter,Function.update_of_ne moved] at listening
        exact timely.counted j since listening
    · intro j done
      by_cases moved : j = i
      · subst moved
        simp only [Sync.enter,Function.update_self] at done
        subst done
        have finished := ended_timely small prompt holds timely moves
        exact finished
      · simp only [Sync.enter,Function.update_of_ne moved] at done
        exact timely.ended j done
  · have before := timely.polling wake polling
    have awake := prompt wake polling
    refine ⟨timely.spawned,timely.counted,?_,?_,?_⟩
    · intro later sleeps
      simp only at sleeps
      split at sleeps
      next => contradiction
      next more => cases sleeps; omega
    · intro fired fires
      simp only at fires
      split at fires
      next => cases fires; omega
      next => contradiction
    · intro i done
      obtain ⟨fired,fires,_⟩ := timely.ended i done
      rw [polling] at fires
      contradiction
  · exact ⟨timely.spawned,timely.counted,timely.polling,timely.triggered,timely.ended⟩

/-- As long as no sleep of the runner ends more than 1.8 seconds late: the trigger
comes within two seconds of the deadline whatever becomes of the bots, and no bot
stops by itself before the measured duration is over. -/
theorem measured_through (small : late ≤ 1800) {labels : List (Label c.bots)} {s : Sync c.bots}
    (prompt : Always (step c) (Prompt late) (launch c) labels)
    (ran : exec (step c) (launch c) labels = some s) :
    (c.readyDeadline + 2000 ≤ s.now → ∃ fired, s.runner = .triggered fired) ∧
      ∀ i, s.bots i = .ended → ∃ fired, s.runner = .triggered fired ∧ fired + c.duration ≤ s.now := by
  have timely := (always_keeps (step c) (Prompt late) (fun s => Holds c s ∧ Timely c late s)
    (step_timely small) labels (launch c) s prompt ⟨launch_holds,launch_timely⟩ ran).2
  refine ⟨?_,timely.ended⟩
  intro past
  cases runner : s.runner with
  | polling wake =>
    have before := timely.polling wake runner
    have awake := always_final (step c) (Prompt late) prompt ran wake runner
    omega
  | triggered fired => exact ⟨fired,rfl⟩

end prompt

def awake (now : Nat) : Runner → Bool
  | .polling wake => now ≤ wake
  | .triggered _ => true

theorem measured_through_single : ∃ s, exec (step single) (launch single) singleRun = some s ∧
    ∃ fired, s.runner = .triggered fired ∧ fired + 1000 ≤ s.now := by
  obtain ⟨s,ran,ended⟩ := single_ends
  have prompt : Always (step single) (Prompt 0) (launch single) singleRun := by
    have all : ∀ k ∈ List.range 14,(exec (step single) (launch single) (singleRun.take k)).all
        (fun s => awake s.now s.runner) := by
      decide
    rw [always_iff]
    intro before inside state reached wake polling
    have short : before.length < 14 := Nat.lt_succ_of_le inside.length_le
    have here := all before.length (List.mem_range.mpr short)
    rw [← List.prefix_iff_eq_take.mp inside,reached,Option.all_some,polling] at here
    simpa [awake] using here
  exact ⟨s,ran,(measured_through (Nat.zero_le 1800) prompt ran).2 lone ended⟩

end Oxlab.ReadySync
