import Mathlib.Data.List.TakeWhile
import Oxlab.MbcpCompound

/-! A single message read off the front of a compound packet.
The single reader takes the buffer for one packet: it does not look at the length
field, so that it passes over a first block of another kind and reads on behind
the end of its own. -/
namespace Oxlab.FirstMessage
open Common.Media Common.Rtcp Common.Mbcp MbcpCompound Library

def untilZero (bytes : Bytes) : Bytes := bytes.takeWhile (· ≠ 0)

/-- The bytes before the first zero are a text. -/
def Readable (bytes : Bytes) : Prop :=
  untilZero bytes ≠ [] ∧ (⟨(untilZero bytes).toArray⟩ : ByteArray).IsValidUTF8

def SameText (data data' : Bytes) : Prop :=
  untilZero data = untilZero data' ∨ (¬Readable data ∧ ¬Readable data')

/-- The text of a packet's data ends with the packet: at a zero of its own, or
because nothing or a zero comes next; or neither the data alone nor the data with
what comes next is a text. -/
def TextEnds (data rest : Bytes) : Prop :=
  0 ∈ data ∨ untilZero rest = [] ∨ (¬Readable data ∧ ¬Readable (data ++ rest))

def SameMessage (block buf : Bytes) : Prop :=
  byteAt block 0 &&& 0x1F = byteAt buf 0 &&& 0x1F ∧ u32At block 4 = u32At buf 4 ∧
    SameText (block.drop 12) (buf.drop 12)

/-- Where a message stands first, its text ends with it. Elsewhere there is none
at all, unless the front of the buffer reads like one: then the first there is
reads the same. -/
def FrontReads (first : Bytes) (others : List Bytes) : Prop :=
  if IsMbcp first then TextEnds (first.drop 12) others.flatten
  else if IsMbcp (first ++ others.flatten) then
    ∃ block,others.find? (fun block => IsMbcp block) = some block ∧
      SameMessage block (first ++ others.flatten)
  else ∀ block ∈ others,¬IsMbcp block

section text
variable (data data' : Bytes)

def textOf : Option String :=
  if untilZero data ≠ [] then String.fromUTF8? ⟨(untilZero data).toArray⟩ else none

theorem textOf_none : textOf data = none ↔ ¬Readable data := by
  rw [textOf,Readable,String.fromUTF8?]
  by_cases empty : untilZero data ≠ []
  · rw [if_pos empty]
    split
    next valid => simp [empty,valid]
    next invalid => simp [invalid]
  · simp [empty]

theorem textOf_some {text : String} (read : textOf data = some text) :
    untilZero data = strBytes text := by
  obtain ⟨_,valid⟩ := Option.ite_none_right_eq_some.mp read
  rw [String.fromUTF8?] at valid
  split at valid
  next =>
    cases Option.some.inj valid
    rfl
  next => contradiction

theorem textOf_eq : textOf data = textOf data' ↔ SameText data data' := by
  rw [SameText,← textOf_none,← textOf_none]
  constructor
  · intro same
    cases read : textOf data with
    | none => exact Or.inr ⟨rfl,same ▸ read⟩
    | some text =>
      left
      rw [textOf_some data read,textOf_some data' (same ▸ read)]
  · rintro (same | ⟨none,none'⟩)
    · rw [textOf,textOf,same]
    · rw [none,none']

theorem untilZero_append : untilZero data = untilZero (data ++ data') ↔
    0 ∈ data ∨ untilZero data' = [] := by
  rw [untilZero,untilZero,List.takeWhile_append]
  by_cases zero : 0 ∈ data
  · have shorter : (data.takeWhile (· ≠ 0)).length ≠ data.length := by
      intro whole
      have all := List.takeWhile_eq_self_iff.mp
        ((List.takeWhile_prefix (fun b : UInt8 => decide (b ≠ 0))).eq_of_length whole)
      simpa using all 0 zero
    rw [if_neg shorter]
    exact iff_of_true rfl (Or.inl zero)
  · have all : data.takeWhile (· ≠ 0) = data := by
      rw [List.takeWhile_eq_self_iff]
      intro b inside
      exact decide_eq_true (fun same => zero (same ▸ inside))
    rw [all,if_pos rfl,or_iff_right zero]
    exact List.self_eq_append_right

theorem sameText_append : SameText data (data ++ data') ↔ TextEnds data data' := by
  rw [SameText,TextEnds,untilZero_append,or_assoc]

end text

theorem parse_mbcp {block : Bytes} (mbcp : IsMbcp block) : parse block =
    some ⟨byteAt block 0 &&& 0x1F,u32At block 4,textOf (block.drop 12)⟩ := by
  obtain ⟨long,pt,name⟩ := mbcp
  rw [parse,if_neg (by omega),if_neg (not_not_intro pt),if_neg (not_not_intro name)]
  by_cases data : 12 < block.length
  · simp only [data,true_and]
    rfl
  · have nothing : block.drop 12 = [] := List.drop_eq_nil_of_le (by omega)
    simp only [nothing,data,false_and,if_false]
    rfl

theorem parse_none (block : Bytes) : parse block = none ↔ ¬IsMbcp block := by
  refine ⟨?_,parse_foreign⟩
  intro nothing mbcp
  rw [parse_mbcp mbcp] at nothing
  contradiction

theorem parse_same {block buf : Bytes} (mbcp : IsMbcp block) (mbcp' : IsMbcp buf) :
    parse buf = parse block ↔ SameMessage block buf := by
  rw [parse_mbcp mbcp,parse_mbcp mbcp',Option.some.injEq,MbcpMessage.mk.injEq,SameMessage,← textOf_eq]
  exact and_congr eq_comm (and_congr eq_comm eq_comm)

theorem parse_first (others : List Bytes) : others.findSome? parse =
    (others.find? (fun block => IsMbcp block)).bind parse := by
  induction others with
  | nil => rfl
  | cons block rest ih =>
    rw [List.findSome?_cons,List.find?_cons]
    by_cases mbcp : IsMbcp block
    · rw [parse_mbcp mbcp,decide_eq_true mbcp]
      exact (parse_mbcp mbcp).symm
    · rw [parse_foreign mbcp,decide_eq_false mbcp]
      exact ih

theorem mbcp_append {first : Bytes} (mbcp : IsMbcp first) (rest : Bytes) :
    IsMbcp (first ++ rest) ∧
      (SameMessage first (first ++ rest) ↔ SameText (first.drop 12) (first.drop 12 ++ rest)) := by
  obtain ⟨long,pt,name⟩ := mbcp
  have front : (first ++ rest).take 12 = first.take 12 := List.take_append_of_le_length long
  refine ⟨⟨?_,?_,?_⟩,?_⟩
  · rw [List.length_append]
    omega
  · rw [byteAt_take front (by decide),pt]
  · rw [List.drop_append_of_le_length (by omega),List.take_append_of_le_length
      (by rw [List.length_drop]; omega),name]
  · rw [SameMessage,byteAt_take front (by decide),u32At_take front (by decide),
      List.drop_append_of_le_length long]
    simp only [true_and]

/-- For every buffer that is a concatenation of whole blocks: the single reader
returns the first message of the walker exactly when the front reads as it does. -/
theorem parse_head_iff (first : Bytes) (others : List Bytes)
    (whole : ∀ block ∈ first::others,rtcp.Whole block) :
    parse (first::others).flatten = (parseCompound (first::others).flatten).head? ↔
      FrontReads first others := by
  have cut := rtcp.blocks_flatten whole rtcp.next_nil
  rw [List.append_nil] at cut
  rw [parseCompound_blocks,cut,List.head?_filterMap,List.findSome?_cons,FrontReads,List.flatten_cons]
  by_cases mbcp : IsMbcp first
  · obtain ⟨mbcp',same⟩ := mbcp_append mbcp others.flatten
    rw [if_pos mbcp,← sameText_append,← same,← parse_same mbcp mbcp',parse_mbcp mbcp]
  · rw [if_neg mbcp,parse_foreign mbcp]
    by_cases front : IsMbcp (first ++ others.flatten)
    · rw [if_pos front]
      change _ = others.findSome? parse ↔ _
      rw [parse_first]
      cases found : others.find? (fun block => IsMbcp block) with
      | none => simp [parse_mbcp front]
      | some block =>
        have mbcp' : IsMbcp block := by simpa using List.find?_some found
        rw [Option.bind_some,parse_same mbcp' front]
        simp
    · rw [if_neg front,parse_foreign front]
      change none = others.findSome? parse ↔ _
      rw [eq_comm,List.findSome?_eq_none_iff]
      simp only [parse_none]

def paddedCompound : List Bytes := [build subtypeFtkn 7 (some "user_42"),receiverReport.bytes]

theorem parse_head_iff_padded :
    parse paddedCompound.flatten = (parseCompound paddedCompound.flatten).head? := by
  have whole : ∀ block ∈ paddedCompound,rtcp.Whole block := by decide +kernel
  have mbcp : IsMbcp (build subtypeFtkn 7 (some "user_42")) := by decide +kernel
  have front : FrontReads (build subtypeFtkn 7 (some "user_42")) [receiverReport.bytes] := by
    rw [FrontReads,if_pos mbcp]
    exact Or.inl (by decide +kernel)
  exact (parse_head_iff (build subtypeFtkn 7 (some "user_42")) [receiverReport.bytes] whole).mpr front

/-- A text that fills its packet, and a receiver report behind it: the report's
first bytes spoil the text. -/
theorem full_text_lost : ¬∀ blocks : List Bytes,blocks ≠ [] →
    (∀ block ∈ blocks,rtcp.Whole block) →
      parse blocks.flatten = (parseCompound blocks.flatten).head? := by
  intro claimed
  have agreed := claimed [build subtypeFtkn 7 (some "user"),receiverReport.bytes]
    (List.cons_ne_nil _ _) (by decide +kernel)
  revert agreed
  decide +kernel

end Oxlab.FirstMessage
