import Mathlib.Data.List.Induction
import Mathlib.Data.Nat.Digits.Defs
import Mathlib.Tactic.Linarith
import Mathlib.Tactic.Ring

/-! Numbers read digit by digit, the most significant first. -/
namespace Oxlab.Library.Positional

/-- What the digits come to when they follow `start`. -/
def read (base start : Nat) (digits : List Nat) : Nat :=
  digits.foldl (fun value digit => value*base + digit) start

variable (base : Nat)

theorem read_concat (start : Nat) (digits : List Nat) (digit : Nat) :
    read base start (digits ++ [digit]) = read base start digits * base + digit := by
  simp [read]

theorem read_eq (start : Nat) (digits : List Nat) : read base start digits =
    start*base^digits.length + Nat.ofDigits base digits.reverse := by
  induction digits using List.reverseRecOn with
  | nil => simp [read]
  | append_singleton digits digit ih =>
    rw [read_concat,ih,List.reverse_append,List.reverse_singleton,List.singleton_append,
      Nat.ofDigits_cons,List.length_append,List.length_singleton,Nat.pow_succ]
    ring

theorem read_append (start : Nat) (front back : List Nat) : read base start (front ++ back) =
    read base start front * base^back.length + read base 0 back := by
  rw [read,List.foldl_append]
  change read base (read base start front) back = _
  rw [read_eq base _ back,read_eq base 0 back,Nat.zero_mul,Nat.zero_add]

/-- Digits of at most `top` stay below the number with `top` in every place. -/
theorem read_le {top : Nat} {digits : List Nat} (bounded : ∀ digit ∈ digits,digit ≤ top) :
    read (base+1) 0 digits * base + top ≤ top*(base+1)^digits.length := by
  induction digits using List.reverseRecOn with
  | nil => simp [read]
  | append_singleton digits digit ih =>
    have smaller := ih (fun d member => bounded d (List.mem_append_left _ member))
    have last := bounded digit (by simp)
    rw [read_concat,List.length_append,List.length_singleton,Nat.pow_succ]
    nlinarith

/-- Raising every digit by the same amount raises the number by a fixed one. -/
theorem read_raised (by_amount : Nat) (digits : List Nat) :
    read base 0 (digits.map (· + by_amount)) =
      read base 0 digits + read base 0 (List.replicate digits.length by_amount) := by
  induction digits using List.reverseRecOn with
  | nil => rfl
  | append_singleton digits digit ih =>
    rw [List.map_append,List.map_singleton,read_concat,ih,read_concat,List.length_append,
      List.length_singleton,List.replicate_succ',read_concat]
    ring

theorem read_inj (one_lt : 1 < base) {first second : List Nat}
    (same_length : first.length = second.length) (digits : ∀ digit ∈ first,digit < base)
    (digits' : ∀ digit ∈ second,digit < base) (same : read base 0 first = read base 0 second) :
    first = second := by
  rw [read_eq,read_eq,Nat.zero_mul,Nat.zero_mul,Nat.zero_add,Nat.zero_add] at same
  apply List.reverse_inj.mp
  apply Nat.ofDigits_inj_of_len_eq one_lt
  · simpa using same_length
  · simpa using digits
  · simpa using digits'
  · exact same

end Oxlab.Library.Positional
