import Mathlib.Algebra.BigOperators.Group.Finset.Piecewise
import Mathlib.Data.Fintype.Basic
import Oxlab.Library.Run

/-! Tasks that add to a shared value.
An action of a task moves a state of its own and leaves additions to be made;
each addition is one atomic step, and the steps of the tasks interleave. What is
shared is then the sum of what each task would have added by itself. -/
namespace Oxlab.Library.SharedCounters
open Run

structure System (Task Local Shared : Type) where
  shared : Shared
  task : Task → Local
  pending : Task → List Shared

inductive Move (Task Action : Type)
  | act (task : Task) (action : Action)
  | add (task : Task)

section move
variable {Task Local Action Shared : Type} [DecidableEq Task] [AddCommMonoid Shared]
  (act : Task → Local → Action → Option (Local × List Shared))

/-- A task acts when it has no addition left to make. -/
def move (s : System Task Local Shared) : Move Task Action → Option (System Task Local Shared)
  | .act i action =>
    if (s.pending i).isEmpty then
      (act i (s.task i) action).map (fun done =>
        { s with
          task := Function.update s.task i done.1
          pending := Function.update s.pending i done.2 })
    else none
  | .add i =>
    match s.pending i with
    | [] => none
    | value::rest =>
      some { s with shared := s.shared + value, pending := Function.update s.pending i rest }

/-- The actions of one task, in its order. -/
def own (i : Task) (moves : List (Move Task Action)) : List Action :=
  moves.filterMap (fun
    | .act j action => if j = i then some action else none
    | .add _ => none)

/-- A task by itself, with the sum of its additions. -/
def alone (i : Task) (state : Local × Shared) (action : Action) : Option (Local × Shared) :=
  (act i state.1 action).map (fun done => (done.1,state.2 + done.2.sum))

def Quiet (s : System Task Local Shared) : Prop := ∀ i, s.pending i = []

theorem move_cases {s next : System Task Local Shared} {m : Move Task Action}
    (moved : move act s m = some next) :
    (∃ i action done, m = .act i action ∧ s.pending i = [] ∧ act i (s.task i) action = some done ∧
      next = { s with
        task := Function.update s.task i done.1
        pending := Function.update s.pending i done.2 }) ∨
    ∃ i value rest, m = .add i ∧ s.pending i = value::rest ∧
      next = { s with shared := s.shared + value, pending := Function.update s.pending i rest } := by
  cases m with
  | act i action =>
    simp only [move] at moved
    split at moved
    next idle =>
      obtain ⟨done,acted,rfl⟩ := Option.map_eq_some_iff.mp moved
      exact Or.inl ⟨i,action,done,rfl,List.isEmpty_iff.mp idle,acted,rfl⟩
    next => contradiction
  | add i =>
    simp only [move] at moved
    split at moved
    next => contradiction
    next value rest next =>
      cases Option.some.inj moved
      exact Or.inr ⟨i,value,rest,rfl,next,rfl⟩

theorem own_append (i : Task) (before after : List (Move Task Action)) :
    own i (before++after) = own i before ++ own i after := by
  rw [own,List.filterMap_append]
  rfl

theorem own_act (i j : Task) (action : Action) :
    own i [.act j action] = if j = i then [action] else [] := by
  simp only [own,List.filterMap_cons,List.filterMap_nil]
  split <;> simp_all

theorem own_add (i j : Task) : own i ([.add j] : List (Move Task Action)) = [] := rfl

variable [Fintype Task]

theorem sum_raise (f : Task → Shared) (j : Task) (value : Shared) :
    ∑ i, Function.update f j (f j + value) i = (∑ i, f i) + value := by
  rw [Finset.sum_update_of_mem (Finset.mem_univ j),
    ← Finset.add_sum_erase Finset.univ f (Finset.mem_univ j),Finset.sdiff_singleton_eq_erase]
  exact add_right_comm _ _ _

def due (s : System Task Local Shared) (i : Task) : Shared := (s.pending i).sum

/-- The shared value with the additions still to be made. -/
def settled (s : System Task Local Shared) : Shared := s.shared + ∑ i, due s i

omit [DecidableEq Task] in
theorem settled_quiet {s : System Task Local Shared} (quiet : Quiet s) : settled s = s.shared := by
  have nothing : ∑ i, due s i = 0 :=
    Finset.sum_eq_zero (fun i _ => by rw [due,quiet i,List.sum_nil])
  rw [settled,nothing,add_zero]

theorem act_settled {s : System Task Local Shared} {i : Task} (idle : s.pending i = [])
    (task : Task → Local) (values : List Shared) :
    settled { s with task := task, pending := Function.update s.pending i values } =
      settled s + values.sum := by
  have raised : due { s with task := task, pending := Function.update s.pending i values } =
      Function.update (due s) i (due s i + values.sum) := by
    funext j
    by_cases same : j = i
    · subst same
      simp [due,idle]
    · simp [due,same]
  rw [settled,raised,sum_raise,← add_assoc]
  rfl

theorem add_settled {s : System Task Local Shared} {i : Task} {value : Shared}
    {rest : List Shared} (next : s.pending i = value::rest) :
    settled { s with shared := s.shared + value, pending := Function.update s.pending i rest } =
      settled s := by
  let after : System Task Local Shared :=
    { s with shared := s.shared + value, pending := Function.update s.pending i rest }
  have raised : due s = Function.update (due after) i (due after i + value) := by
    funext j
    by_cases same : j = i
    · subst same
      simp [after,due,next,add_comm]
    · simp [after,due,same]
  change s.shared + value + ∑ j, due after j = s.shared + ∑ j, due s j
  rw [raised,sum_raise,add_assoc,add_comm value]

/-- At any point of any interleaving, each task is where it would be by itself,
and the shared value with what is still due has grown by what they would have
added by themselves. -/
theorem exec_alone (start final : System Task Local Shared) (moves : List (Move Task Action))
    (ran : exec (move act) start moves = some final) :
    ∃ issued : Task → Shared,
      (∀ i, exec (alone act i) (start.task i,0) (own i moves) = some (final.task i,issued i)) ∧
        settled final = settled start + ∑ i, issued i := by
  induction moves using List.reverseRecOn generalizing final with
  | nil =>
    cases Option.some.inj ran
    exact ⟨fun _ => 0,fun i => rfl,by simp⟩
  | append_singleton moves last ih =>
    obtain ⟨middle,before,stepped⟩ := exec_split (move act) ran
    obtain ⟨issued,each,sum⟩ := ih middle before
    rw [exec_cons] at stepped
    obtain ⟨after,stepped,ended⟩ := Option.bind_eq_some_iff.mp stepped
    cases Option.some.inj ended
    rcases move_cases act stepped with
      ⟨i,action,done,rfl,idle,acted,rfl⟩ | ⟨i,value,rest,rfl,next,rfl⟩
    · refine ⟨Function.update issued i (issued i + done.2.sum),?_,?_⟩
      · intro j
        rw [own_append,exec_append,each j,Option.bind_some,own_act]
        by_cases same : j = i
        · subst same
          simp [alone,acted]
        · simp [same,Ne.symm same]
      · rw [act_settled idle,sum,sum_raise,add_assoc]
    · refine ⟨issued,?_,?_⟩
      · intro j
        rw [own_append,own_add,List.append_nil]
        exact each j
      · rw [add_settled next,sum]

end move

/-! What is shared only grows, and lags behind by one action a task at most. -/

section readings
variable {Task Local Action Shared : Type} [DecidableEq Task] [AddCommMonoid Shared]
  (act : Task → Local → Action → Option (Local × List Shared)) (read : Shared →+ Nat)

theorem read_grows (moves : List (Move Task Action)) (start final : System Task Local Shared)
    (ran : exec (move act) start moves = some final) : read start.shared ≤ read final.shared := by
  apply exec_keeps (move act) (fun s => read start.shared ≤ read s.shared) ?_ moves start final
    (Nat.le_refl _) ran
  intro s m next grown moved
  rcases move_cases act moved with ⟨i,action,done,_,_,_,rfl⟩ | ⟨i,value,rest,_,_,rfl⟩
  · exact grown
  · rw [map_add]
    exact Nat.le_add_right_of_le grown

theorem due_bounded (bound : Nat) (acts : ∀ i task action done,
      act i task action = some done → read done.2.sum ≤ bound)
    (moves : List (Move Task Action)) (start final : System Task Local Shared)
    (quiet : Quiet start) (ran : exec (move act) start moves = some final) (i : Task) :
    read (due final i) ≤ bound := by
  revert i
  apply exec_keeps (move act) (fun s => ∀ i,read (due s i) ≤ bound) ?_ moves start final ?_ ran
  · intro s m next within moved j
    rcases move_cases act moved with ⟨i,action,done,_,_,acted,rfl⟩ | ⟨i,value,rest,_,first,rfl⟩
    · by_cases same : j = i
      · subst same
        simpa [due] using acts j (s.task j) action done acted
      · simpa [due,same] using within j
    · by_cases same : j = i
      · subst same
        have before := within j
        rw [due,first,List.sum_cons,map_add] at before
        simp only [due,Function.update_self]
        omega
      · simpa [due,same] using within j
  · intro j
    rw [due,quiet j,List.sum_nil,map_zero]
    exact Nat.zero_le bound

end readings

/-! Two interleavings of the same work end the same. -/

section schedules
variable {Task Local Action Shared : Type} [DecidableEq Task] [AddCommMonoid Shared]
  (act : Task → Local → Action → Option (Local × List Shared)) [Fintype Task]

theorem schedules_agree {start first second : System Task Local Shared}
    {moves others : List (Move Task Action)} (ran : exec (move act) start moves = some first)
    (other : exec (move act) start others = some second)
    (same : ∀ i, own i moves = own i others) :
    settled first = settled second ∧ ∀ i, first.task i = second.task i := by
  obtain ⟨issued,each,sum⟩ := exec_alone act start first moves ran
  obtain ⟨issued',each',sum'⟩ := exec_alone act start second others other
  have agree (i : Task) : first.task i = second.task i ∧ issued i = issued' i := by
    have both := each i
    rw [same i,each' i] at both
    obtain ⟨task,value⟩ := Prod.mk.inj (Option.some.inj both)
    exact ⟨task.symm,value.symm⟩
  refine ⟨?_,fun i => (agree i).1⟩
  rw [sum,sum',funext (fun i => (agree i).2)]

end schedules
end Oxlab.Library.SharedCounters
