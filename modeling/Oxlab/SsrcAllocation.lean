import Mathlib.Data.Nat.ModEq
import Oxlab.Bot.RtcpParser
import Oxlab.Bot.RtpPublisher
import Oxlab.Common.Mbcp
import Oxlab.Library.Positional

/-! The SSRCs of numbered bots.
The hash reads the bytes of an id as digits to the base 33. Ten neighbouring digit
values are fewer than the base, so numbers of one length read differently; five of
them stay within the 24 bits that an SSRC keeps of the hash. -/
namespace Oxlab.SsrcAllocation
open Common.Media Common.Mbcp Bot.RtcpParser Bot.RtpPublisher Library

def rtpConfigFor (id : String) : RtpPublisherConfig :=
  let h := simpleHash id
  { audioSsrc := 0xA0000000 ||| (h &&& 0x00FFFFFF)
    videoSsrc := 0xB0000000 ||| (h &&& 0x00FFFFFF) }

/-- The `rtpConfig` that a new bot starts with. -/
def botRtpConfig (id : String) : RtpPublisherConfig :=
  let idHash := simpleHash id
  { audioSsrc := 0xA0000000 ||| (idHash &&& 0x00FFFFFF)
    videoSsrc := 0xB0000000 ||| (idHash &&& 0x00FFFFFF) }

def allocators : List (String → RtpPublisherConfig) := [rtpConfigFor,botRtpConfig]

def Numeric (s : String) : Prop := ∀ c ∈ s.toList,c.isDigit = true

theorem allocators_eq : ∀ config ∈ allocators,config = rtpConfigFor := by
  intro config member
  simp only [allocators,List.mem_cons,List.not_mem_nil,or_false] at member
  rcases member with rfl | rfl <;> rfl

section bytes

theorem strBytes_append (s t : String) : strBytes (s ++ t) = strBytes s ++ strBytes t := by
  simp [strBytes]

theorem strBytes_toList (s : String) : strBytes s = s.toList.flatMap String.utf8EncodeChar := by
  have bytes : s.toByteArray = s.toList.utf8Encode := by
    rw [← String.toByteArray_ofList,String.ofList_toList]
  rw [strBytes,bytes,List.utf8Encode,List.data_toByteArray]

theorem strBytes_inj {s t : String}
    (same : (strBytes s).map UInt8.toNat = (strBytes t).map UInt8.toNat) : s = t := by
  have bytes := (List.map_inj_right (fun _ _ => UInt8.toNat_inj.mp)).mp same
  have read := fromUTF8_strBytes s
  rw [bytes,fromUTF8_strBytes] at read
  exact (Option.some.inj read).symm

def digitOf (c : Char) : Nat := c.toNat - 48

theorem digit_range {c : Char} (digit : c.isDigit = true) : 48 ≤ c.toNat ∧ c.toNat ≤ 57 := by
  simpa [Char.isDigit,UInt32.le_iff_toNat_le] using digit

theorem digit_bytes {c : Char} (digit : c.isDigit = true) :
    (String.utf8EncodeChar c).map UInt8.toNat = [digitOf c + 48] := by
  obtain ⟨low,high⟩ := digit_range digit
  have single : c.utf8Size = 1 := by
    rw [Char.utf8Size,if_pos (UInt32.le_iff_toNat_le.mpr (Nat.le_trans high (by decide)))]
  have small : c.toNat % 2^8 = c.toNat := Nat.mod_eq_of_lt (by omega)
  rw [String.utf8EncodeChar_eq_singleton single,List.map_singleton,UInt32.toNat_toUInt8,digitOf,
    Nat.sub_add_cancel low]
  exact congrArg (fun n => [n]) small

variable {s : String}

def digitsOf (s : String) : List Nat := s.toList.map digitOf

theorem digitsOf_length : (digitsOf s).length = s.length := by
  rw [digitsOf,List.length_map,String.length_toList]

theorem numeric_bytes (numeric : Numeric s) :
    (strBytes s).map UInt8.toNat = (digitsOf s).map (· + 48) := by
  rw [strBytes_toList,digitsOf]
  unfold Numeric at numeric
  generalize s.toList = chars at numeric
  induction chars with
  | nil => rfl
  | cons c rest ih =>
    rw [List.flatMap_cons,List.map_append,digit_bytes (numeric c (by simp)),
      ih (fun c member => numeric c (List.mem_cons_of_mem _ member))]
    rfl

theorem numeric_digits (numeric : Numeric s) : ∀ digit ∈ digitsOf s,digit ≤ 9 := by
  intro digit member
  obtain ⟨c,listed,rfl⟩ := List.mem_map.mp member
  obtain ⟨low,high⟩ := digit_range (numeric c listed)
  exact Nat.sub_le_sub_right high 48

end bytes

section hash

theorem fold_congr (bytes : List UInt8) (start : UInt32) :
    (bytes.foldl (fun hash b => hash*33 + b.toUInt32) start).toNat ≡
      Positional.read 33 start.toNat (bytes.map UInt8.toNat) [MOD 2^32] := by
  induction bytes using List.reverseRecOn with
  | nil => rfl
  | append_singleton front b ih =>
    rw [List.foldl_append,List.map_append,List.map_singleton,Positional.read_concat]
    simp only [List.foldl_cons,List.foldl_nil,UInt32.toNat_add,UInt32.toNat_mul,UInt8.toNat_toUInt32]
    exact (Nat.mod_modEq _ _).trans (((Nat.mod_modEq _ _).trans (ih.mul_right 33)).add_right _)

/-- The hash of a numbered id, as far as an SSRC keeps it: the number adds to
what only the prefix and the length decide. -/
theorem hash_numbered (p : String) {s : String} (numeric : Numeric s) :
    (simpleHash (p ++ s)).toNat ≡
      Positional.read 33 5381 ((strBytes p).map UInt8.toNat) * 33^s.length +
        Positional.read 33 0 (List.replicate s.length 48) +
        Positional.read 33 0 (digitsOf s) [MOD 2^24] := by
  have folded := fold_congr (strBytes (p ++ s)) 5381
  rw [strBytes_append,List.map_append,Positional.read_append,numeric_bytes numeric,
    Positional.read_raised,List.length_map,digitsOf_length,Nat.add_comm (Positional.read 33 0 _),
    ← Nat.add_assoc,← strBytes_append] at folded
  exact folded.of_dvd ⟨2^8,rfl⟩

theorem digits_small {s : String} (numeric : Numeric s) (short : s.length ≤ 5) :
    Positional.read 33 0 (digitsOf s) < 2^24 := by
  have bound : Positional.read 33 0 (digitsOf s) * 32 + 9 ≤ 9*33^(digitsOf s).length :=
    Positional.read_le 32 (numeric_digits numeric)
  rw [digitsOf_length] at bound
  have most : 33^s.length ≤ 33^5 := Nat.pow_le_pow_right (by decide) short
  omega

theorem hash_inj (p : String) {s t : String} (numeric : Numeric s) (numeric' : Numeric t)
    (same_length : s.length = t.length) (short : s.length ≤ 5)
    (same : (simpleHash (p ++ s)).toNat % 2^24 = (simpleHash (p ++ t)).toNat % 2^24) : s = t := by
  have first := hash_numbered p numeric
  have second := hash_numbered p numeric'
  rw [← same_length] at second
  have numbers := Nat.ModEq.add_left_cancel' _ (first.symm.trans (Nat.ModEq.trans same second))
  have equal := numbers.eq_of_lt_of_lt (digits_small numeric short)
    (digits_small numeric' (same_length ▸ short))
  have digits : digitsOf s = digitsOf t := by
    apply Positional.read_inj 33 (by decide) _ _ _ equal
    · rw [digitsOf_length,digitsOf_length,same_length]
    · exact fun digit member => Nat.lt_of_le_of_lt (numeric_digits numeric digit member) (by decide)
    · exact fun digit member => Nat.lt_of_le_of_lt (numeric_digits numeric' digit member) (by decide)
  apply strBytes_inj
  rw [numeric_bytes numeric,numeric_bytes numeric',digits]

end hash

section ssrc
variable (id : String)

theorem low_bits (h : UInt32) : (h &&& 0x00FFFFFF).toNat = h.toNat % 2^24 := by
  rw [UInt32.toNat_and]
  exact Nat.and_two_pow_sub_one_eq_mod h.toNat 24

theorem tagged_toNat {tag : UInt32} (high : Nat) (upper : tag.toNat = 2^28*high) (h : UInt32) :
    (tag ||| (h &&& 0x00FFFFFF)).toNat = 2^28*high + h.toNat % 2^24 := by
  have low : h.toNat % 2^24 < 2^28 := by omega
  rw [UInt32.toNat_or,low_bits,upper]
  exact (Nat.two_pow_add_eq_or_of_lt low high).symm

theorem audioSsrc_toNat :
    (rtpConfigFor id).audioSsrc.toNat = 2^28*10 + (simpleHash id).toNat % 2^24 :=
  tagged_toNat 10 rfl (simpleHash id)

theorem videoSsrc_toNat :
    (rtpConfigFor id).videoSsrc.toNat = 2^28*11 + (simpleHash id).toNat % 2^24 :=
  tagged_toNat 11 rfl (simpleHash id)

/-- One numbering: two different numbers written with the same few digits. -/
structure Numbered (s t : String) : Prop where
  numeric : Numeric s
  numeric' : Numeric t
  same_length : s.length = t.length
  short : s.length ≤ 5
  distinct : s ≠ t

/-- Numbered bots differ in both SSRCs, whichever of the two places assigns them,
and no audio SSRC is anyone's video SSRC. -/
theorem ssrcs_distinct : ∀ first ∈ allocators,∀ second ∈ allocators,
    (∀ p s t : String,Numbered s t →
      (first (p ++ s)).audioSsrc ≠ (second (p ++ t)).audioSsrc ∧
        (first (p ++ s)).videoSsrc ≠ (second (p ++ t)).videoSsrc) ∧
      ∀ a b : String,(first a).audioSsrc ≠ (second b).videoSsrc := by
  intro first member second member'
  rw [allocators_eq first member,allocators_eq second member']
  refine ⟨?_,?_⟩
  · intro p s t numbered
    have apart := mt (hash_inj p numbered.numeric numbered.numeric' numbered.same_length
      numbered.short) numbered.distinct
    refine ⟨?_,?_⟩
    · intro same
      have same := congrArg UInt32.toNat same
      rw [audioSsrc_toNat,audioSsrc_toNat] at same
      exact apart (Nat.add_left_cancel same)
    · intro same
      have same := congrArg UInt32.toNat same
      rw [videoSsrc_toNat,videoSsrc_toNat] at same
      exact apart (Nat.add_left_cancel same)
  · intro a b same
    have same := congrArg UInt32.toNat same
    rw [audioSsrc_toNat,videoSsrc_toNat] at same
    omega

theorem ssrcs_distinct_conf :
    (rtpConfigFor "cap-conf-20-11").audioSsrc ≠ (botRtpConfig "cap-conf-20-19").audioSsrc ∧
      (rtpConfigFor "cap-conf-20-11").videoSsrc ≠ (botRtpConfig "cap-conf-20-19").videoSsrc :=
  have numbered : Numbered "11" "19" :=
    ⟨by simp [Numeric],by simp [Numeric],rfl,by decide,by decide⟩
  (ssrcs_distinct rtpConfigFor (by simp [allocators]) botRtpConfig (by simp [allocators])).1
    "cap-conf-20-" "11" "19" numbered

-- with six digits two bots can meet
example : (rtpConfigFor "bot-008036").audioSsrc = (rtpConfigFor "bot-550700").audioSsrc := by
  decide

end ssrc

end Oxlab.SsrcAllocation
