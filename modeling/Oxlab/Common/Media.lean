import Oxlab.Library.BigEndian

/-! Datagrams, clock readings and the demultiplexing tests of the media
transport. SRTP itself is a third-party context, known here only by its type
and its two decryptions. -/
namespace Oxlab.Common.Media
open Library

abbrev Bytes := List UInt8

instance : LawfulBEq Bytes := inferInstance

/-- A monotonic clock reading in nanoseconds. -/
abbrev Instant := Nat

def millisSince (now earlier : Instant) : Nat := (now - earlier) / 1000000

/-- Indexing of a buffer whose length the caller has checked. -/
def byteAt (buf : Bytes) (i : Nat) : UInt8 := buf[i]?.getD 0

def u16At (buf : Bytes) (i : Nat) : UInt16 :=
  UInt16.ofNat (BigEndian.decode [byteAt buf i,byteAt buf (i+1)])

def u32At (buf : Bytes) (i : Nat) : UInt32 :=
  UInt32.ofNat (BigEndian.decode [byteAt buf i,byteAt buf (i+1),byteAt buf (i+2),byteAt buf (i+3)])

def u16Bytes (value : UInt16) : Bytes := BigEndian.encode 2 value.toNat

def u32Bytes (value : UInt32) : Bytes := BigEndian.encode 4 value.toNat

def strBytes (s : String) : Bytes := s.toByteArray.data.toList

theorem byteAt_append (before after : Bytes) (i : Nat) :
    byteAt (before++after) (before.length+i) = byteAt after i := by
  simp [byteAt,List.getElem?_append_right]

theorem u16At_append (before : Bytes) (value : UInt16) (after : Bytes) :
    u16At (before ++ u16Bytes value ++ after) before.length = value := by
  have first := byteAt_append before (u16Bytes value ++ after) 0
  have second := byteAt_append before (u16Bytes value ++ after) 1
  rw [Nat.add_zero] at first
  rw [u16At,List.append_assoc,first,second]
  change UInt16.ofNat (BigEndian.decode (BigEndian.encode 2 value.toNat)) = value
  rw [BigEndian.decode_encode,Nat.mod_eq_of_lt (by simpa using value.toNat_lt)]
  exact UInt16.ofNat_toNat

theorem u32At_append (before : Bytes) (value : UInt32) (after : Bytes) :
    u32At (before ++ u32Bytes value ++ after) before.length = value := by
  have at0 := byteAt_append before (u32Bytes value ++ after) 0
  have at1 := byteAt_append before (u32Bytes value ++ after) 1
  have at2 := byteAt_append before (u32Bytes value ++ after) 2
  have at3 := byteAt_append before (u32Bytes value ++ after) 3
  rw [Nat.add_zero] at at0
  rw [u32At,List.append_assoc,at0,at1,at2,at3]
  change UInt32.ofNat (BigEndian.decode (BigEndian.encode 4 value.toNat)) = value
  rw [BigEndian.decode_encode,Nat.mod_eq_of_lt (by simpa using value.toNat_lt)]
  exact UInt32.ofNat_toNat

theorem byteAt_take {left right : Bytes} {n i : Nat} (same : left.take n = right.take n)
    (inside : i < n) : byteAt left i = byteAt right i := by
  have read := congrArg (fun bytes => bytes[i]?) same
  simp only [List.getElem?_take,inside,if_true] at read
  rw [byteAt,byteAt,read]

theorem byteAt_drop (buf : Bytes) (n i : Nat) : byteAt (buf.drop n) i = byteAt buf (n+i) := by
  rw [byteAt,byteAt,List.getElem?_drop]

theorem u16At_drop (buf : Bytes) (n i : Nat) : u16At (buf.drop n) i = u16At buf (n+i) := by
  simp only [u16At,byteAt_drop,Nat.add_assoc]

theorem u32At_drop (buf : Bytes) (n i : Nat) : u32At (buf.drop n) i = u32At buf (n+i) := by
  simp only [u32At,byteAt_drop,Nat.add_assoc]

theorem u16At_take {left right : Bytes} {n i : Nat} (same : left.take n = right.take n)
    (inside : i + 2 ≤ n) : u16At left i = u16At right i := by
  rw [u16At,u16At,byteAt_take same (by omega),byteAt_take same (by omega)]

theorem u32At_take {left right : Bytes} {n i : Nat} (same : left.take n = right.take n)
    (inside : i + 4 ≤ n) : u32At left i = u32At right i := by
  rw [u32At,u32At,byteAt_take same (by omega),byteAt_take same (by omega),
    byteAt_take same (by omega),byteAt_take same (by omega)]

theorem size_append (size : UInt16 → Nat) {input : Bytes} (rest : Bytes) {n : Nat}
    (declared : (if 4 ≤ input.length then some (size (u16At input 2)) else none) = some n) :
    (if 4 ≤ (input ++ rest).length then some (size (u16At (input ++ rest) 2)) else none) =
      some n := by
  obtain ⟨header,read⟩ := Option.ite_none_right_eq_some.mp declared
  have longer : 4 ≤ (input ++ rest).length := by rw [List.length_append]; omega
  have same : (input ++ rest).take 4 = input.take 4 := List.take_append_of_le_length header
  rw [if_pos longer,u16At_take same (by omega),read]

def isStun (b : UInt8) : Bool := b ≤ 0x03

def isDtls (b : UInt8) : Bool := 0x14 ≤ b && b ≤ 0x3F

def isRtp (b : UInt8) : Bool := 0x80 ≤ b && b ≤ 0xBF

/-- The SRTP context of the third-party stack: each decryption may fail and may
advance the context. -/
structure SrtpCtx where
  Ctx : Type
  decryptRtp : Ctx → Bytes → Option Bytes × Ctx
  decryptRtcp : Ctx → Bytes → Option Bytes × Ctx

end Oxlab.Common.Media
