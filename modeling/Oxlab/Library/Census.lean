import Mathlib.Algebra.BigOperators.Group.Finset.Piecewise
import Mathlib.Algebra.Order.BigOperators.Group.Finset
import Mathlib.Algebra.Order.Group.Nat
import Mathlib.Data.Fintype.Card

/-! How many parties of a system are in a phase, and how one party's move changes it. -/
namespace Oxlab.Library
variable {ι Phase : Type} [Fintype ι]

def census (inside : Phase → Bool) (phase : ι → Phase) : Nat := ∑ i, (inside (phase i)).toNat

variable (inside : Phase → Bool) (phase : ι → Phase)

theorem census_update [DecidableEq ι] (i : ι) (next : Phase) :
    census inside (Function.update phase i next) + (inside (phase i)).toNat =
      census inside phase + (inside next).toNat := by
  have moved : (fun j => (inside (Function.update phase i next j)).toNat) =
      Function.update (fun j => (inside (phase j)).toNat) i (inside next).toNat := by
    funext j
    by_cases same : j = i
    · subst same
      simp
    · simp [same]
  rw [census,census,moved,Finset.sum_update_of_mem (Finset.mem_univ i),
    ← Finset.add_sum_erase Finset.univ _ (Finset.mem_univ i),Finset.sdiff_singleton_eq_erase]
  omega

theorem census_none (outside : ∀ i, inside (phase i) = false) : census inside phase = 0 :=
  Finset.sum_eq_zero (fun i _ => by rw [outside i]; rfl)

theorem census_all (all : Fintype.card ι ≤ census inside phase) (i : ι) : inside (phase i) = true := by
  by_contra outside
  have fewer : census inside phase < ∑ _j : ι, 1 := by
    apply Finset.sum_lt_sum
    · intro j _
      exact Bool.toNat_le _
    · refine ⟨i,Finset.mem_univ i,?_⟩
      rw [Bool.eq_false_iff.mpr outside]
      exact Nat.zero_lt_one
  rw [Finset.sum_const,Nat.nsmul_eq_mul,Nat.mul_one] at fewer
  exact absurd all (Nat.not_le.mpr fewer)

end Oxlab.Library
