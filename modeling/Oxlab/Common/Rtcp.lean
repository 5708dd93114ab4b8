import Oxlab.Common.Media
import Oxlab.Library.Framing

/-! RTCP framing: a block declares its length in words less one, and the walkers
of the repository step from block to block by offsets. -/
namespace Oxlab.Common.Rtcp
open Media Library

def blockSize (input : Bytes) : Option Nat :=
  if 4 ≤ input.length then some (((u16At input 2).toNat + 1)*4) else none

def rtcp : Framing.Header UInt8 where
  size := blockSize
  positive := by
    intro input n declared
    obtain ⟨_,read⟩ := Option.ite_none_right_eq_some.mp declared
    have size := Option.some.inj read
    omega
  stable := by
    intro input rest n declared
    exact size_append (fun len => (len.toNat + 1)*4) rest declared

theorem rtcp_alone (block rest : Bytes) (declared : rtcp.size (block ++ rest) = some block.length) :
    rtcp.Whole block := by
  obtain ⟨_,read⟩ := Option.ite_none_right_eq_some.mp declared
  have size := Option.some.inj read
  have header : 4 ≤ block.length := by omega
  have same : (block ++ rest).take 4 = block.take 4 := List.take_append_of_le_length header
  rw [u16At_take same (by omega)] at size
  change blockSize block = some block.length
  rw [blockSize,if_pos header,size]

theorem next_drop (buf : Bytes) (offset : Nat) : rtcp.next (buf.drop offset) =
    if offset + 4 ≤ buf.length then
      if buf.length < offset + ((u16At buf (offset+2)).toNat + 1)*4 then none
      else some ((buf.drop offset).take (((u16At buf (offset+2)).toNat + 1)*4),
        buf.drop (offset + ((u16At buf (offset+2)).toNat + 1)*4))
    else none := by
  simp only [Framing.Header.next,rtcp,blockSize,List.length_drop,u16At_drop]
  by_cases header : offset + 4 ≤ buf.length
  · rw [if_pos (by omega),if_pos header]
    dsimp only
    by_cases whole : offset + ((u16At buf (offset+2)).toNat + 1)*4 ≤ buf.length
    · rw [if_pos (by omega),if_neg (by omega),List.drop_drop]
    · rw [if_neg (by omega),if_pos (by omega)]
  · rw [if_neg (by omega),if_neg header]

theorem byteAt_block (buf : Bytes) (offset : Nat) {len i : Nat} (inside : i < len) :
    byteAt ((buf.drop offset).take len) i = byteAt buf (offset+i) := by
  rw [← byteAt_drop]
  exact byteAt_take (List.take_take.trans (by rw [Nat.min_self])) inside

theorem u32At_block (buf : Bytes) (offset : Nat) {len i : Nat} (inside : i + 4 ≤ len) :
    u32At ((buf.drop offset).take len) i = u32At buf (offset+i) := by
  rw [← u32At_drop]
  exact u32At_take (List.take_take.trans (by rw [Nat.min_self])) inside

end Oxlab.Common.Rtcp
