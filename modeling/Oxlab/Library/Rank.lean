import Mathlib.Algebra.Order.BigOperators.Group.List
import Mathlib.Data.List.Count
import Mathlib.Data.List.Sort
import Mathlib.Order.CompletePartialOrder

/-! Items of a sorted list by their place.
The item at a place has at least that many below it or equal, and at least what is
left of the list above it or equal. -/
namespace Oxlab.Library.Rank
variable {α : Type} [LinearOrder α] {items : List α} (sorted : items.Pairwise (fun a b => a ≤ b))
include sorted

theorem below_place {i k : Nat} (within : i ≤ k) (inside : k < items.length) :
    items[i] ≤ items[k] := by
  rcases Nat.eq_or_lt_of_le within with same | before
  · subst same
    exact le_refl _
  · exact List.pairwise_iff_getElem.mp sorted i k (by omega) inside before

theorem countP_below {k : Nat} (inside : k < items.length) :
    k + 1 ≤ items.countP (fun item => item ≤ items[k]) := by
  have front : ∀ item ∈ items.take (k+1),item ≤ items[k] := by
    intro item member
    obtain ⟨i,bound,rfl⟩ := List.mem_iff_getElem.mp member
    rw [List.length_take] at bound
    rw [List.getElem_take]
    exact below_place sorted (by omega) inside
  have counted : (items.take (k+1)).countP (fun item => item ≤ items[k]) = k + 1 := by
    rw [List.countP_eq_length.mpr (by simpa using front),List.length_take]
    omega
  rw [← counted]
  exact List.Sublist.countP_le (List.take_sublist (k+1) items)

theorem countP_above {k : Nat} (inside : k < items.length) :
    items.length - k ≤ items.countP (fun item => items[k] ≤ item) := by
  have back : ∀ item ∈ items.drop k,items[k] ≤ item := by
    intro item member
    obtain ⟨i,bound,rfl⟩ := List.mem_iff_getElem.mp member
    rw [List.length_drop] at bound
    rw [List.getElem_drop]
    exact below_place sorted (by omega) (by omega)
  have counted : (items.drop k).countP (fun item => items[k] ≤ item) = items.length - k := by
    rw [List.countP_eq_length.mpr (by simpa using back),List.length_drop]
  rw [← counted]
  exact List.Sublist.countP_le (List.drop_sublist k items)

theorem le_last (some : items ≠ []) : ∀ item ∈ items,item ≤ items.getLast some := by
  intro item member
  obtain ⟨i,bound,rfl⟩ := List.mem_iff_getElem.mp member
  rw [List.getLast_eq_getElem]
  exact below_place sorted (by omega) (by omega)

end Oxlab.Library.Rank
