import Mathlib.Tactic.Ring

/-! Serial numbers: unbounded positions seen through a wrapping counter.
A position `k` travels as its low `w` bits; the receiver only ever compares two
such values by the signed reading of their difference. -/
namespace Oxlab.Library.Serial

def wire (w k : Nat) : BitVec w := BitVec.ofNat w k

/-- The signed distance from `b` forward to `a`. -/
def distance {w : Nat} (a b : BitVec w) : Int := (a - b).toInt

theorem distance_bmod {w : Nat} (a b : BitVec w) :
    distance a b = ((a.toNat : Int) - b.toNat).bmod (2^w) := by
  rw [distance,BitVec.toInt_sub,BitVec.toInt_eq_toNat_bmod,BitVec.toInt_eq_toNat_bmod,
    Int.bmod_sub_bmod,Int.sub_bmod_bmod]

/-- Within half the range the wire distance is the distance of the positions,
whatever multiples of the range separate either of them from zero. -/
theorem distance_wire (w i j : Nat) (low : -(2^w : Int) ≤ ((j : Int) - i) * 2)
    (high : ((j : Int) - i) * 2 < 2^w) :
    distance (wire w j) (wire w i) = (j : Int) - i := by
  rw [distance_bmod,wire,wire,BitVec.toNat_ofNat,BitVec.toNat_ofNat,Int.natCast_emod,
    Int.natCast_emod,Int.sub_bmod,Int.emod_bmod,Int.emod_bmod,← Int.sub_bmod]
  exact Int.bmod_eq_of_le_mul_two (by push_cast; exact low) (by push_cast; exact high)

end Oxlab.Library.Serial
