import Mathlib.Data.List.Basic
import Mathlib.Tactic.Ring

/-! Big-endian byte strings of a fixed length. -/
namespace Oxlab.Library.BigEndian

def encode : (size : Nat) → Nat → List UInt8
  | 0, _ => []
  | size+1, value => encode size (value / 256) ++ [UInt8.ofNat value]

def decode (bytes : List UInt8) : Nat := bytes.foldl (fun value byte => value * 256 + byte.toNat) 0

@[simp] theorem encode_length (size value : Nat) : (encode size value).length = size := by
  induction size generalizing value with
  | zero => rfl
  | succ size ih => simp [encode,ih]

theorem decode_append (bytes : List UInt8) (byte : UInt8) :
    decode (bytes ++ [byte]) = decode bytes * 256 + byte.toNat := by
  simp [decode]

/-- Decoding gives back the value up to what the length can carry. -/
theorem decode_encode (size value : Nat) : decode (encode size value) = value % 256^size := by
  induction size generalizing value with
  | zero => rw [Nat.pow_zero,Nat.mod_one]; rfl
  | succ size ih =>
    rw [encode,decode_append,ih,Nat.pow_succ,Nat.mul_comm (256^size),Nat.mod_mul]
    simp only [UInt8.toNat_ofNat']
    omega

end Oxlab.Library.BigEndian
