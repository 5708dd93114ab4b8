import Mathlib.Tactic.Linarith
import Oxlab.Cli.Distributed

/-! The shares of the workers.
Every worker but the last gets the average rounded up. With many workers the
roundings alone can come to more than the total, and the last worker is left
with less than nothing. -/
namespace Oxlab.WorkerShares
open Cli.Distributed

variable (total workers fullCount : Nat)

/-- No count underflows, and the workers get the total among them. -/
def HandsOutAll : Prop :=
  ∃ children, runDistributed total workers fullCount = some children ∧ handedOut children = total

theorem spawn_before_last {n : Nat} (before : n < workers) :
    ∃ children, (List.range n).foldlM (spawn total workers fullCount) [] = some children ∧
      handedOut children = n*perWorker total workers := by
  induction n with
  | zero => exact ⟨[],rfl,(Nat.zero_mul _).symm⟩
  | succ n ih =>
    obtain ⟨children,ran,sum⟩ := ih (by omega)
    have counted : workerCount total workers n = some (perWorker total workers) :=
      if_neg (by omega)
    obtain ⟨next,spawned,more⟩ := spawn_some total workers fullCount children counted
    refine ⟨next,?_,?_⟩
    · rw [List.range_succ,List.foldlM_append,ran]
      exact (congrArg (· >>= pure) spawned)
    · rw [more,sum,Nat.succ_mul]

theorem runDistributed_last (positive : 0 < workers) :
    ∃ children, runDistributed total workers fullCount =
        spawn total workers fullCount children (workers - 1) ∧
      handedOut children = (workers - 1)*perWorker total workers := by
  obtain ⟨children,ran,sum⟩ := spawn_before_last total workers fullCount (n := workers - 1) (by omega)
  refine ⟨children,?_,sum⟩
  have all : List.range workers = List.range (workers - 1) ++ [workers - 1] :=
    (congrArg List.range (Nat.sub_add_cancel positive)).symm.trans List.range_succ
  rw [runDistributed,all,List.foldlM_append,ran]
  simp only [List.foldlM_cons,List.foldlM_nil,bind_pure]
  rfl

theorem handsOutAll_rounded (positive : 0 < workers) : HandsOutAll total workers fullCount ↔
    perWorker total workers*(workers - 1) ≤ total := by
  obtain ⟨children,last,sum⟩ := runDistributed_last total workers fullCount positive
  have counted : workerCount total workers (workers - 1) =
      checkedSub total (perWorker total workers*(workers - 1)) := if_pos rfl
  rw [HandsOutAll,last]
  by_cases fits : perWorker total workers*(workers - 1) ≤ total
  · rw [checkedSub,if_pos fits] at counted
    obtain ⟨next,spawned,more⟩ := spawn_some total workers fullCount children counted
    refine iff_of_true ⟨next,spawned,?_⟩ fits
    rw [more,sum,Nat.mul_comm]
    exact Nat.add_sub_cancel' fits
  · rw [checkedSub,if_neg fits] at counted
    rw [spawn_none total workers fullCount children counted]
    simp [fits]

/-- The roundings fit into the total when there are none, or when there are no
more workers than bots each and bots left over, and one. -/
theorem rounded_iff (positive : 0 < workers) : perWorker total workers*(workers - 1) ≤ total ↔
    total % workers = 0 ∨ workers ≤ total / workers + total % workers + 1 := by
  obtain ⟨others,rfl⟩ := Nat.exists_eq_add_one.mpr positive
  have shares : (others + 1)*(total / (others + 1)) + total % (others + 1) = total :=
    Nat.div_add_mod total (others + 1)
  rw [perWorker,divCeil,Nat.max_eq_left (Nat.le_add_left 1 others),Nat.add_sub_cancel]
  generalize total / (others + 1) = share at *
  generalize total % (others + 1) = left at *
  split
  next rounded =>
    constructor
    · intro fits
      right
      nlinarith
    · intro few
      rcases few with even | few
      · omega
      · nlinarith
  next even =>
    refine iff_of_true ?_ (Or.inl (by omega))
    nlinarith

/-- For every total and every number of workers: each count is computed without
underflow and the counts add up to the total, exactly when the division is even or
there are at most as many workers as the rounded-down share, the remainder and one
together. -/
theorem handsOutAll_iff (positive : 0 < workers) : HandsOutAll total workers fullCount ↔
    total % workers = 0 ∨ workers ≤ total / workers + total % workers + 1 :=
  (handsOutAll_rounded total workers fullCount positive).trans (rounded_iff total workers positive)

theorem handsOutAll_iff_default : HandsOutAll 500 4 30 :=
  (handsOutAll_iff 500 4 30 (by decide)).mpr (Or.inl (by decide))

/-- Five bots for four workers: three workers get two each. -/
theorem five_by_four_underflows : ¬HandsOutAll 5 4 30 := by
  have underflow : runDistributed 5 4 30 = none := rfl
  rintro ⟨children,ran,_⟩
  rw [underflow] at ran
  contradiction

end Oxlab.WorkerShares
