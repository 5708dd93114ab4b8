import Oxlab.Common.Mbcp

/-! Floor messages through a compound packet.
Built messages stand between RTCP blocks of other senders and the packet may be
cut off inside its last block; the walker returns the messages alone. -/
namespace Oxlab.MbcpCompound
open Common.Media Common.Rtcp Common.Mbcp Library

/-- What `build` can put into one APP packet and `parse` can tell from padding. -/
structure Outgoing where
  subtype : UInt8
  ssrc : UInt32
  data : Option String
  small : subtype < 32
  noNul : ∀ b ∈ dataBytes data, b ≠ 0
  fits : 12 + ((dataBytes data).length + 3) / 4 * 4 ≤ 4*65536

def Outgoing.bytes (message : Outgoing) : Bytes := build message.subtype message.ssrc message.data

/-- The message as a reader sees it: an empty text takes no bytes. -/
def Outgoing.received (message : Outgoing) : MbcpMessage where
  subtype := message.subtype
  ssrc := message.ssrc
  data := message.data.filter (· ≠ "")

def IsMbcp (block : Bytes) : Prop :=
  12 ≤ block.length ∧ byteAt block 1 = rtcpPtApp ∧ (block.drop 8).take 4 = appName

instance (block : Bytes) : Decidable (IsMbcp block) := inferInstanceAs (Decidable (_ ∧ _ ∧ _))

structure Foreign where
  bytes : Bytes
  whole : rtcp.Whole bytes
  other : ¬IsMbcp bytes

inductive Piece
  | message (outgoing : Outgoing)
  | foreign (block : Foreign)

def Piece.bytes : Piece → Bytes
  | .message outgoing => outgoing.bytes
  | .foreign block => block.bytes

def Piece.received : Piece → Option MbcpMessage
  | .message outgoing => some outgoing.received
  | .foreign _ => none

/-- No complete block: no header, or a header that declares more than is there. -/
def Incomplete (tail : Bytes) : Prop :=
  tail.length < 4 ∨ tail.length < ((u16At tail 2).toNat + 1)*4

instance (tail : Bytes) : Decidable (Incomplete tail) := inferInstanceAs (Decidable (_ ∨ _))

theorem Incomplete.next {tail : Bytes} (incomplete : Incomplete tail) : rtcp.next tail = none := by
  have cut := next_drop tail 0
  simp only [List.drop_zero,Nat.zero_add] at cut
  rw [cut]
  by_cases header : 4 ≤ tail.length
  · rw [if_pos header,if_pos (incomplete.resolve_left (by omega))]
  · rw [if_neg header]

theorem parse_foreign {block : Bytes} (other : ¬IsMbcp block) : parse block = none := by
  unfold parse
  by_cases long : block.length < 12
  · rw [if_pos long]
  · rw [if_neg long]
    by_cases pt : byteAt block 1 = rtcpPtApp
    · rw [if_neg (not_not_intro pt),if_pos (fun name => other ⟨by omega,pt,name⟩)]
    · rw [if_pos pt]

theorem Piece.whole (piece : Piece) : rtcp.Whole piece.bytes := by
  cases piece with
  | message outgoing => exact build_whole outgoing.subtype outgoing.ssrc outgoing.data outgoing.fits
  | foreign block => exact block.whole

theorem Piece.parse_bytes (piece : Piece) : parse piece.bytes = piece.received := by
  cases piece with
  | message outgoing =>
    exact parse_build outgoing.subtype outgoing.ssrc outgoing.data outgoing.small outgoing.noNul
  | foreign block => exact parse_foreign block.other

theorem parse_pieces (pieces : List Piece) :
    (pieces.map Piece.bytes).filterMap parse = pieces.filterMap Piece.received := by
  rw [List.filterMap_map]
  congr 1
  funext piece
  exact piece.parse_bytes

/-- The walker returns the messages of a compound packet in order, whatever
stands between them and whatever incomplete block ends the packet. -/
theorem compound_roundtrip (pieces : List Piece) (tail : Bytes) (incomplete : Incomplete tail) :
    parseCompound ((pieces.map Piece.bytes).flatten ++ tail) = pieces.filterMap Piece.received := by
  have whole : ∀ block ∈ pieces.map Piece.bytes,rtcp.Whole block := by
    intro block inside
    obtain ⟨piece,_,rfl⟩ := List.mem_map.mp inside
    exact piece.whole
  rw [parseCompound_blocks,rtcp.blocks_flatten whole incomplete.next,parse_pieces]

def receiverReport : Foreign where
  bytes := [0x80,201,0,1,0,0,0,9]
  whole := by decide
  other := by decide

def taken : Outgoing where
  subtype := subtypeFtkn
  ssrc := 7
  data := some "user_42"
  small := by decide
  noNul := by decide +kernel
  fits := by decide +kernel

theorem compound_roundtrip_taken :
    parseCompound (([.message taken,.foreign receiverReport,.message taken].map
        Piece.bytes).flatten ++ [0x80,204,0,9]) =
      [⟨subtypeFtkn,7,some "user_42"⟩,⟨subtypeFtkn,7,some "user_42"⟩] :=
  compound_roundtrip [.message taken,.foreign receiverReport,.message taken] [0x80,204,0,9]
    (by decide)

end Oxlab.MbcpCompound
