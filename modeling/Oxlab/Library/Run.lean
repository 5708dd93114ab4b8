import Mathlib.Data.List.Basic
import Mathlib.Logic.Function.Iterate
import Mathlib.Logic.Relation

/-! Runs of an executable machine.
`step state label` is the state after one labelled step, or none when the step
is not enabled. Two trace predicates speak about a run as it unfolds: a property
of every state it passes, and the absence of a kind of step. -/
namespace Oxlab.Library.Run
variable {State Label : Type} (step : State → Label → Option State)

def exec (start : State) (labels : List Label) : Option State := labels.foldlM step start

@[simp] theorem exec_nil (start : State) : exec step start [] = some start := rfl

@[simp] theorem exec_cons (start : State) (label : Label) (rest : List Label) :
    exec step start (label::rest) = (step start label).bind (fun next => exec step next rest) := by
  rw [exec,List.foldlM_cons]
  rfl

theorem exec_append (start : State) (before after : List Label) :
    exec step start (before++after) =
      (exec step start before).bind (fun middle => exec step middle after) := by
  rw [exec,List.foldlM_append]
  rfl

theorem exec_split {start final : State} {before after : List Label}
    (ran : exec step start (before++after) = some final) :
    ∃ middle, exec step start before = some middle ∧ exec step middle after = some final := by
  rw [exec_append] at ran
  exact Option.bind_eq_some_iff.mp ran

theorem exec_total (next : State → Label → State) (start : State) (labels : List Label) :
    exec (fun state label => some (next state label)) start labels =
      some (labels.foldl next start) := by
  induction labels generalizing start with
  | nil => rfl
  | cons label rest ih => rw [exec_cons,Option.bind_some,ih,List.foldl_cons]

theorem exec_observed {View : Type} (read : State → View) (write : View → Label → View)
    (writes : ∀ state label next, step state label = some next →
      read next = write (read state) label)
    (labels : List Label) (start final : State) (ran : exec step start labels = some final) :
    read final = labels.foldl write (read start) := by
  induction labels generalizing start with
  | nil => cases Option.some.inj ran; rfl
  | cons label rest ih =>
    rw [exec_cons] at ran
    obtain ⟨next,stepped,ran⟩ := Option.bind_eq_some_iff.mp ran
    rw [ih next ran,writes start label next stepped,List.foldl_cons]

/-- What every step keeps holds at the end of every run. -/
theorem exec_keeps (inv : State → Prop)
    (kept : ∀ state label next, inv state → step state label = some next → inv next)
    (labels : List Label) (start final : State) (initial : inv start)
    (ran : exec step start labels = some final) : inv final := by
  induction labels generalizing start with
  | nil => exact Option.some.inj ran ▸ initial
  | cons label rest ih =>
    rw [exec_cons] at ran
    obtain ⟨next,stepped,ran⟩ := Option.bind_eq_some_iff.mp ran
    exact ih next (kept start label next initial stepped) ran

/-- `good` holds in the start and in every state the run passes. -/
def Always (good : State → Prop) : State → List Label → Prop
  | state, [] => good state
  | state, label::rest => good state ∧ ∀ next, step state label = some next → Always good next rest

/-- No step of the run is taken where `bad` holds of it. -/
def Clean (bad : State → Label → Prop) : State → List Label → Prop
  | _, [] => True
  | state, label::rest => ¬bad state label ∧
      ∀ next, step state label = some next → Clean bad next rest

theorem always_iff (good : State → Prop) (start : State) (labels : List Label) :
    Always step good start labels ↔
      ∀ before, before <+: labels → ∀ state, exec step start before = some state → good state := by
  induction labels generalizing start with
  | nil =>
    simp only [Always,List.prefix_nil]
    constructor
    · rintro holds before rfl state reached
      exact Option.some.inj reached ▸ holds
    · intro all
      exact all [] rfl start rfl
  | cons label rest ih =>
    simp only [Always,ih]
    constructor
    · intro always before inside state reached
      obtain ⟨first,later⟩ := always
      cases before with
      | nil => exact Option.some.inj reached ▸ first
      | cons head tail =>
        obtain ⟨rfl,within⟩ := List.cons_prefix_cons.mp inside
        rw [exec_cons] at reached
        obtain ⟨next,stepped,reached⟩ := Option.bind_eq_some_iff.mp reached
        exact later next stepped tail within state reached
    · intro all
      refine ⟨all [] (List.nil_prefix) start rfl,?_⟩
      intro next stepped before inside state reached
      apply all (label::before) (List.cons_prefix_cons.mpr ⟨rfl,inside⟩) state
      simpa [stepped] using reached

theorem always_final (good : State → Prop) {start final : State} {labels : List Label}
    (always : Always step good start labels) (ran : exec step start labels = some final) :
    good final :=
  (always_iff step good start labels).mp always labels (List.prefix_refl labels) final ran

/-- What the steps keep while the run stays good holds at its end. -/
theorem always_keeps (good inv : State → Prop)
    (kept : ∀ state label next, good state → inv state → step state label = some next → inv next)
    (labels : List Label) (start final : State) (always : Always step good start labels)
    (initial : inv start) (ran : exec step start labels = some final) : inv final := by
  induction labels generalizing start with
  | nil => exact Option.some.inj ran ▸ initial
  | cons label rest ih =>
    rw [exec_cons] at ran
    obtain ⟨next,stepped,ran⟩ := Option.bind_eq_some_iff.mp ran
    exact ih next (always.2 next stepped) (kept start label next always.1 initial stepped) ran

theorem not_always {View : Type} (good : State → Prop) (view : State → View) {seen : View}
    {start : State} {labels : List Label} (ends : (exec step start labels).map view = some seen)
    (wrong : ∀ state, view state = seen → ¬good state) : ¬Always step good start labels := by
  intro always
  obtain ⟨final,ran,last⟩ := Option.map_eq_some_iff.mp ends
  exact wrong final last (always_final step good always ran)

theorem clean_split (bad : State → Label → Prop) (start : State) (labels : List Label) :
    Clean step bad start labels ↔
      ∀ before label after, labels = before ++ label::after →
        ∀ state, exec step start before = some state → ¬bad state label := by
  induction labels generalizing start with
  | nil => simp [Clean]
  | cons first rest ih =>
    simp only [Clean,ih]
    constructor
    · intro clean before label after split state reached
      obtain ⟨head,later⟩ := clean
      cases before with
      | nil =>
        obtain ⟨rfl,_⟩ := List.cons.inj split
        exact Option.some.inj reached ▸ head
      | cons _ tail =>
        obtain ⟨rfl,remaining⟩ := List.cons.inj split
        rw [exec_cons] at reached
        obtain ⟨next,stepped,reached⟩ := Option.bind_eq_some_iff.mp reached
        exact later next stepped tail label after remaining state reached
    · intro all
      refine ⟨all [] first rest rfl start rfl,?_⟩
      intro next stepped before label after split state reached
      apply all (first::before) label after (by simp [split]) state
      simpa [stepped] using reached

theorem clean_labels (bad : State → Label → Prop) (badAfter : List Label → Label → Prop)
    (start final : State) (labels : List Label) (ran : exec step start labels = some final)
    (same : ∀ before state label, exec step start before = some state →
      (bad state label ↔ badAfter before label)) :
    Clean step bad start labels ↔
      ∀ before label after, labels = before ++ label::after → ¬badAfter before label := by
  rw [clean_split]
  constructor
  · intro clean before label after split wrong
    rw [split] at ran
    obtain ⟨middle,reached,_⟩ := exec_split step ran
    exact clean before label after split middle reached ((same before middle label reached).mpr wrong)
  · intro clean before label after split state reached wrong
    exact clean before label after split ((same before state label reached).mp wrong)

theorem clean_forall (bad : Label → Prop) (start final : State) (labels : List Label)
    (ran : exec step start labels = some final) :
    Clean step (fun _ => bad) start labels ↔ ∀ label ∈ labels, ¬bad label := by
  induction labels generalizing start with
  | nil => simp [Clean]
  | cons label rest ih =>
    rw [exec_cons] at ran
    obtain ⟨next,stepped,ran⟩ := Option.bind_eq_some_iff.mp ran
    simp [Clean,stepped,ih next ran]

/-- What every step keeps that is not `bad` holds at the end of a clean run. -/
theorem clean_keeps (inv : State → Prop) (bad : State → Label → Prop)
    (kept : ∀ state label next, inv state → step state label = some next →
      ¬bad state label → inv next)
    (labels : List Label) (start final : State) (initial : inv start)
    (ran : exec step start labels = some final) (clean : Clean step bad start labels) :
    inv final := by
  induction labels generalizing start with
  | nil => exact Option.some.inj ran ▸ initial
  | cons label rest ih =>
    rw [exec_cons] at ran
    obtain ⟨next,stepped,ran⟩ := Option.bind_eq_some_iff.mp ran
    exact ih next (kept start label next initial stepped clean.1) ran (clean.2 next stepped)

/-- When the `bad` steps are exactly those that leave the good states, a run
stays good exactly when it takes none of them. The invariant carries what is
needed to tell, and is only known while the run is still clean. -/
theorem always_iff_clean (inv good : State → Prop) (bad : State → Label → Prop)
    (sound : ∀ state, inv state → good state)
    (kept : ∀ state label next, inv state → step state label = some next →
      ¬bad state label → inv next)
    (broken : ∀ state label next, inv state → step state label = some next →
      bad state label → ¬good next)
    (labels : List Label) (start final : State) (initial : inv start)
    (ran : exec step start labels = some final) :
    Always step good start labels ↔ Clean step bad start labels := by
  induction labels generalizing start with
  | nil => simp [Always,Clean,sound start initial]
  | cons label rest ih =>
    rw [exec_cons] at ran
    obtain ⟨next,stepped,ran⟩ := Option.bind_eq_some_iff.mp ran
    simp only [Always,Clean,stepped,Option.some.injEq,forall_eq',sound start initial,true_and]
    by_cases wrong : bad start label
    · have left : ¬good next := broken start label next initial stepped wrong
      simp only [wrong,not_true_eq_false,false_and,iff_false]
      intro always
      apply left
      cases rest with
      | nil => exact always
      | cons => exact always.1
    · simpa [wrong] using ih next (kept start label next initial stepped wrong) ran

/-- A count that the `bad` steps raise and the others leave stays at zero exactly
on clean runs. -/
theorem always_zero_iff_clean (inv : State → Prop) (count : State → Nat)
    (bad : State → Label → Prop)
    (kept : ∀ state label next, inv state → step state label = some next → inv next)
    (counts : ∀ state label next, inv state → step state label = some next →
      (bad state label → count next = count state + 1) ∧
        (¬bad state label → count next = count state))
    (labels : List Label) (start final : State) (initial : inv start) (zero : count start = 0)
    (ran : exec step start labels = some final) :
    Always step (fun state => count state = 0) start labels ↔ Clean step bad start labels := by
  apply always_iff_clean step (fun state => inv state ∧ count state = 0)
  · intro state both
    exact both.2
  · intro state label next both stepped fine
    have same := (counts state label next both.1 stepped).2 fine
    exact ⟨kept state label next both.1 stepped,same.trans both.2⟩
  · intro state label next both stepped wrong
    have raised := (counts state label next both.1 stepped).1 wrong
    omega
  · exact ⟨initial,zero⟩
  · exact ran

/-! A program that moves a state in many ways: its moves are one relation, its
control structure only chains them. -/

section chain
open Relation
variable {Memory Item : Type} {Moves : State → State → Prop}

theorem chain_foldl (read : Memory → State) (visit : Memory → Item → Memory)
    (each : ∀ memory item, ReflTransGen Moves (read memory) (read (visit memory item)))
    (items : List Item) (memory : Memory) :
    ReflTransGen Moves (read memory) (read (items.foldl visit memory)) := by
  induction items generalizing memory with
  | nil => exact .refl
  | cons item rest ih => exact (each memory item).trans (ih (visit memory item))

/-- The same where each of the items is known. -/
theorem chain_visits (read : Memory → State) (visit : Memory → Item → Memory) (items : List Item)
    (each : ∀ item ∈ items,∀ memory, ReflTransGen Moves (read memory) (read (visit memory item)))
    (memory : Memory) : ReflTransGen Moves (read memory) (read (items.foldl visit memory)) := by
  induction items generalizing memory with
  | nil => exact .refl
  | cons item rest ih =>
    obtain ⟨first,later⟩ := List.forall_mem_cons.mp each
    exact (first memory).trans (ih later (visit memory item))

theorem chain_iterate (visit : State → State)
    (each : ∀ state, ReflTransGen Moves state (visit state)) (times : Nat) (state : State) :
    ReflTransGen Moves state (visit^[times] state) := by
  induction times generalizing state with
  | zero => exact .refl
  | succ times ih => exact (each state).trans (ih (visit state))

theorem keeps_foldl {View : Type} (read : Memory → View) (visit : Memory → Item → Memory)
    (each : ∀ memory item, read (visit memory item) = read memory) (items : List Item)
    (memory : Memory) : read (items.foldl visit memory) = read memory := by
  induction items generalizing memory with
  | nil => rfl
  | cons item rest ih => rw [List.foldl_cons,ih,each]

theorem keeps_iterate {View : Type} (read : State → View) (visit : State → State)
    (each : ∀ state, read (visit state) = read state) (times : Nat) (state : State) :
    read (visit^[times] state) = read state := by
  induction times generalizing state with
  | zero => rfl
  | succ times ih => rw [Function.iterate_succ_apply,ih,each]

theorem chain_keeps (inv : State → Prop)
    (kept : ∀ state next, inv state → Moves state next → inv next) {start final : State}
    (chain : ReflTransGen Moves start final) (initial : inv start) : inv final := by
  induction chain with
  | refl => exact initial
  | tail _ move ih => exact kept _ _ ih move

end chain

/-! A program that only appends to a log: what it appends is told of its parts. -/

section log
open Relation
variable {Entry : Type} (log : State → List Entry) (good : List Entry → Prop)

def Appends (state next : State) : Prop := ∃ added, log next = log state ++ added ∧ good added

variable {log good}

theorem chain_appends (none : good []) (join : ∀ first second, good first → good second →
    good (first ++ second)) {start final : State}
    (chain : ReflTransGen (Appends log good) start final) : Appends log good start final := by
  induction chain with
  | refl => exact ⟨[],(List.append_nil _).symm,none⟩
  | tail _ move ih =>
    obtain ⟨first,reached,left⟩ := ih
    obtain ⟨second,grown,right⟩ := move
    exact ⟨first ++ second,by rw [grown,reached,List.append_assoc],join first second left right⟩

end log
end Oxlab.Library.Run
