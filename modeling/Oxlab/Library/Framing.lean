import Mathlib.Data.List.Basic

/-! Streams of blocks that declare their own size.
A header at the front of a block says how long the whole block is. A stream is
cut into its whole blocks from the front until what is left is no whole block. -/
namespace Oxlab.Library.Framing
variable {α : Type}

/-- How the front of a stream declares the size of its first block; none where
there is no whole header. More input does not change the size declared. -/
structure Header (α : Type) where
  size : List α → Option Nat
  positive : ∀ input n, size input = some n → 0 < n
  stable : ∀ input rest n, size input = some n → size (input ++ rest) = some n

namespace Header
variable (header : Header α)

def next (input : List α) : Option (List α × List α) :=
  match header.size input with
  | none => none
  | some n => if n ≤ input.length then some (input.take n,input.drop n) else none

def blocksIn : Nat → List α → List (List α)
  | 0, _ => []
  | fuel+1, input =>
    match header.next input with
    | none => []
    | some (block,rest) => block::blocksIn fuel rest

/-- Every block takes at least one item, so the length is fuel enough. -/
def blocks (input : List α) : List (List α) := header.blocksIn input.length input

def split [DecidableEq α] (input : List α) : Option (List (List α)) :=
  if (header.blocks input).flatten = input then some (header.blocks input) else none

def Whole (block : List α) : Prop := header.size block = some block.length

instance (block : List α) : Decidable (header.Whole block) :=
  inferInstanceAs (Decidable (_ = _))

theorem next_size {input block rest : List α} (found : header.next input = some (block,rest)) :
    input = block ++ rest ∧ header.size input = some block.length := by
  unfold next at found
  split at found
  next => contradiction
  next n declared =>
    obtain ⟨fits,taken⟩ := Option.ite_none_right_eq_some.mp found
    obtain ⟨rfl,rfl⟩ := Prod.mk.inj (Option.some.inj taken)
    exact ⟨(List.take_append_drop n input).symm,
      by rw [declared,List.length_take,Nat.min_eq_left fits]⟩

theorem next_some {input block rest : List α} (found : header.next input = some (block,rest)) :
    input = block ++ rest ∧ 0 < block.length := by
  obtain ⟨whole,declared⟩ := header.next_size found
  exact ⟨whole,header.positive input block.length declared⟩

theorem next_whole {block : List α} (whole : header.Whole block) (rest : List α) :
    header.next (block ++ rest) = some (block,rest) := by
  simp [next,header.stable block rest _ whole]

theorem next_nil : header.next ([] : List α) = none := by
  cases found : header.next ([] : List α) with
  | none => rfl
  | some cut =>
    obtain ⟨split,taken⟩ := header.next_some found
    rw [(List.append_eq_nil_iff.mp split.symm).1] at taken
    contradiction

theorem blocksIn_nil (fuel : Nat) : header.blocksIn fuel ([] : List α) = [] := by
  cases fuel with
  | zero => rfl
  | succ fuel => rw [blocksIn,next_nil]

theorem blocksIn_enough (more less : Nat) (input : List α) (long : input.length ≤ more)
    (short : input.length ≤ less) : header.blocksIn more input = header.blocksIn less input := by
  induction more generalizing less input with
  | zero =>
    obtain rfl := List.eq_nil_of_length_eq_zero (Nat.le_zero.mp long)
    rw [blocksIn_nil,blocksIn_nil]
  | succ more ih =>
    cases less with
    | zero =>
      obtain rfl := List.eq_nil_of_length_eq_zero (Nat.le_zero.mp short)
      rw [blocksIn_nil,blocksIn_nil]
    | succ less =>
      simp only [blocksIn]
      split
      next => rfl
      next block rest found =>
        obtain ⟨split,taken⟩ := header.next_some found
        rw [split,List.length_append] at long short
        rw [ih less rest (by omega) (by omega)]

theorem blocks_eq (input : List α) : header.blocks input =
    match header.next input with
    | none => []
    | some (block,rest) => block::header.blocks rest := by
  rw [blocks,blocksIn_enough header input.length (input.length+1) input (Nat.le_refl _)
    (Nat.le_succ _),blocksIn]
  split
  next => rfl
  next block rest found =>
    obtain ⟨split,_⟩ := header.next_some found
    rw [blocks,blocksIn_enough header input.length rest.length rest
      (by rw [split,List.length_append]; omega) (Nat.le_refl _)]

theorem next_of_blocks_nil {input : List α} (cut : header.blocks input = []) :
    header.next input = none := by
  rw [blocks_eq] at cut
  split at cut
  next none => exact none
  next => contradiction

theorem next_of_blocks_cons {input block : List α} {others : List (List α)}
    (cut : header.blocks input = block::others) :
    ∃ rest,header.next input = some (block,rest) ∧ header.blocks rest = others := by
  rw [blocks_eq] at cut
  split at cut
  next => contradiction
  next first rest found =>
    obtain ⟨rfl,rfl⟩ := List.cons.inj cut
    exact ⟨rest,found,rfl⟩

theorem blocks_cons {block : List α} (whole : header.Whole block) (rest : List α) :
    header.blocks (block ++ rest) = block::header.blocks rest := by
  rw [blocks_eq,next_whole header whole]

theorem blocks_append {joined : List (List α)} (whole : ∀ block ∈ joined, header.Whole block)
    (rest : List α) : header.blocks (joined.flatten ++ rest) = joined ++ header.blocks rest := by
  induction joined with
  | nil => rfl
  | cons block others ih =>
    obtain ⟨first,others⟩ := List.forall_mem_cons.mp whole
    rw [List.flatten_cons,List.append_assoc,blocks_cons header first,ih others]
    rfl

/-- Whole blocks and a tail that is none are cut where they were joined. -/
theorem blocks_flatten {joined : List (List α)} (whole : ∀ block ∈ joined, header.Whole block)
    {tail : List α} (short : header.next tail = none) :
    header.blocks (joined.flatten ++ tail) = joined := by
  rw [blocks_append header whole,blocks_eq,short]
  exact List.append_nil joined

/-- The cut is a decomposition of the front of the input into whole blocks, where
a block alone declares what it declared in front of the rest. -/
theorem blocks_whole (alone : ∀ block rest, header.size (block ++ rest) = some block.length →
    header.Whole block) (input : List α) :
    (∀ block ∈ header.blocks input, header.Whole block) ∧ (header.blocks input).flatten <+: input := by
  have all (fuel : Nat) : (∀ block ∈ header.blocksIn fuel input, header.Whole block) ∧
      (header.blocksIn fuel input).flatten <+: input := by
    induction fuel generalizing input with
    | zero => exact ⟨fun _ inside => absurd inside List.not_mem_nil,List.nil_prefix⟩
    | succ fuel ih =>
      rw [blocksIn]
      split
      next => exact ⟨fun _ inside => absurd inside List.not_mem_nil,List.nil_prefix⟩
      next block rest found =>
        obtain ⟨split,declared⟩ := header.next_size found
        obtain ⟨others,front⟩ := ih rest
        refine ⟨List.forall_mem_cons.mpr ⟨alone block rest (split ▸ declared),others⟩,?_⟩
        rw [List.flatten_cons,split]
        exact (List.prefix_append_right_inj block).mpr front
  exact all input.length

/-- No decomposition goes on where the cut has ended or cuts elsewhere. -/
theorem blocks_longest {joined : List (List α)} (whole : ∀ block ∈ joined, header.Whole block)
    {input : List α} (front : joined.flatten <+: input) : joined <+: header.blocks input := by
  obtain ⟨rest,rfl⟩ := front
  rw [blocks_append header whole]
  exact List.prefix_append joined _

theorem split_flatten [DecidableEq α] {joined : List (List α)}
    (whole : ∀ block ∈ joined, header.Whole block) : header.split joined.flatten = some joined := by
  have cut := blocks_flatten header whole header.next_nil
  rw [List.append_nil] at cut
  rw [split,cut,if_pos rfl]

/-- Blocks of a least size are few in a short stream. -/
theorem blocks_length_le {least : Nat} (floor : ∀ input n, header.size input = some n → least ≤ n)
    (input : List α) : least*(header.blocks input).length ≤ input.length := by
  have all (fuel : Nat) : least*(header.blocksIn fuel input).length ≤ input.length := by
    induction fuel generalizing input with
    | zero => exact Nat.zero_le _
    | succ fuel ih =>
      rw [blocksIn]
      split
      next => exact Nat.zero_le _
      next block rest found =>
        obtain ⟨whole,declared⟩ := header.next_size found
        have first := floor input block.length declared
        have others := ih rest
        rw [List.length_cons,Nat.mul_succ,whole,List.length_append]
        omega
  exact all input.length

end Header
end Oxlab.Library.Framing
