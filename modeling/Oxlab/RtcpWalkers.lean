import Oxlab.Bot.RtcpParser
import Oxlab.MbcpCompound

/-! The three RTCP walkers with every access checked.
Where an index, a slice or a turn of the loop too many would stop the program
there is no result. All three visit the blocks of one framing, and make of them
what their own filter finds in each. -/
namespace Oxlab.RtcpWalkers
open Common.Media Common.Rtcp Common.Mbcp MbcpCompound Bot.RtcpParser Bot.Observations Library

section reads
variable (buf : Bytes)

def readByte (i : Nat) : Option UInt8 := buf[i]?

def readU16 (i : Nat) : Option UInt16 := do
  return UInt16.ofNat (BigEndian.decode [← readByte buf i,← readByte buf (i+1)])

def readU32 (i : Nat) : Option UInt32 := do
  return UInt32.ofNat (BigEndian.decode [← readByte buf i,← readByte buf (i+1),
    ← readByte buf (i+2),← readByte buf (i+3)])

def readSlice (start stop : Nat) : Option Bytes :=
  if start ≤ stop ∧ stop ≤ buf.length then some ((buf.drop start).take (stop - start)) else none

variable {buf} {i : Nat}

theorem readByte_inside (inside : i < buf.length) : readByte buf i = some (byteAt buf i) := by
  rw [readByte,byteAt,List.getElem?_eq_getElem inside]
  rfl

theorem readU16_inside (inside : i + 2 ≤ buf.length) : readU16 buf i = some (u16At buf i) := by
  rw [readU16,readByte_inside (by omega),readByte_inside (by omega)]
  rfl

theorem readU32_inside (inside : i + 4 ≤ buf.length) : readU32 buf i = some (u32At buf i) := by
  rw [readU32,readByte_inside (by omega),readByte_inside (by omega),readByte_inside (by omega),
    readByte_inside (by omega)]
  rfl

theorem readSlice_inside {start stop : Nat} (forward : start ≤ stop) (inside : stop ≤ buf.length) :
    readSlice buf start stop = some ((buf.drop start).take (stop - start)) :=
  if_pos ⟨forward,inside⟩

end reads

/-- What a filter finds in a block is added to what came before. -/
def imageStep {ρ σ : Type} (record : Bytes → Option ρ) (add : σ → ρ → σ) (acc : σ) (block : Bytes) : σ :=
  match record block with
  | some found => add acc found
  | none => acc

structure Span where
  offset : Nat
  length : Nat

def spansFrom : Nat → List Bytes → List Span
  | _, [] => []
  | offset, block::rest => ⟨offset,block.length⟩::spansFrom (offset + block.length) rest

/-- What tells the walkers apart: what they read of a block's first bytes, an
extra reason to stop, and what they do with a block that fits. -/
structure Walker (η σ : Type) where
  front : Bytes → Nat → Option η
  stop : Nat → Bool
  visit : Bytes → η → σ → Nat → Nat → Option σ

namespace Walker
variable {η σ : Type} (w : Walker η σ) (buf : Bytes)

def walk : Nat → Nat → List Span → σ → Option (List Span × σ)
  | 0, _, _, _ => none
  | fuel+1, offset, spans, acc =>
    if offset + 4 ≤ buf.length then do
      let head ← w.front buf offset
      let lengthWords ← readU16 buf (offset+2)
      let pktLen := (lengthWords.toNat + 1)*4
      if w.stop pktLen || decide (buf.length < offset + pktLen) then some (spans,acc)
      else
        walk fuel (offset+pktLen) (spans ++ [⟨offset,pktLen⟩]) (← w.visit buf head acc offset pktLen)
    else some (spans,acc)

/-- A block takes at least four bytes, so one turn more than there are bytes is
enough for any walk that ends. -/
def run (acc : σ) : Option (List Span × σ) := w.walk buf (buf.length + 1) 0 [] acc

def outcome (acc : σ) : Option σ := (w.run buf acc).map Prod.snd

/-- A walker that reads of each block what is in it. -/
structure Reads (onBlock : σ → Bytes → σ) : Prop where
  stop : ∀ pktLen, 0 < pktLen → w.stop pktLen = false
  visit : ∀ buf offset, offset + 4 ≤ buf.length → ∃ head,w.front buf offset = some head ∧
    ∀ acc pktLen, 4 ≤ pktLen → offset + pktLen ≤ buf.length →
      w.visit buf head acc offset pktLen = some (onBlock acc ((buf.drop offset).take pktLen))

variable {w}

theorem walk_blocks {onBlock : σ → Bytes → σ} (reads : w.Reads onBlock) (fuel offset : Nat)
    (spans : List Span) (acc : σ) (enough : buf.length - offset < fuel) :
    w.walk buf fuel offset spans acc =
      some (spans ++ spansFrom offset (rtcp.blocks (buf.drop offset)),
        (rtcp.blocks (buf.drop offset)).foldl onBlock acc) := by
  induction fuel generalizing offset spans acc with
  | zero => contradiction
  | succ fuel ih =>
    rw [Framing.Header.blocks_eq,next_drop,walk]
    by_cases header : offset + 4 ≤ buf.length
    · obtain ⟨head,front,visit⟩ := reads.visit buf offset header
      have positive : 0 < ((u16At buf (offset+2)).toNat + 1)*4 := by omega
      rw [if_pos header,if_pos header,front,readU16_inside (by omega)]
      simp only [Option.bind_eq_bind,Option.bind_some,reads.stop _ positive,Bool.false_or,
        decide_eq_true_eq]
      by_cases cut : buf.length < offset + ((u16At buf (offset+2)).toNat + 1)*4
      · rw [if_pos cut,if_pos cut]
        simp [spansFrom]
      · rw [if_neg cut,if_neg cut,visit acc _ (by omega) (by omega),Option.bind_some,
          ih _ _ _ (by omega)]
        have long : ((buf.drop offset).take (((u16At buf (offset+2)).toNat + 1)*4)).length =
            ((u16At buf (offset+2)).toNat + 1)*4 := by
          rw [List.length_take,List.length_drop]
          omega
        simp [spansFrom,long]
    · rw [if_neg header,if_neg header]
      simp [spansFrom]

theorem run_blocks {onBlock : σ → Bytes → σ} (reads : w.Reads onBlock) (acc : σ) :
    w.run buf acc = some (spansFrom 0 (rtcp.blocks buf),(rtcp.blocks buf).foldl onBlock acc) :=
  walk_blocks buf reads (buf.length + 1) 0 [] acc (by omega)

end Walker

section mbcp

def parseChecked (buf : Bytes) : Option (Option MbcpMessage) :=
  if buf.length < 12 then some none
  else do
    let pt ← readByte buf 1
    if pt ≠ rtcpPtApp then some none
    else if (← readSlice buf 8 12) ≠ appName then some none
    else
      let subtype := (← readByte buf 0) &&& 0x1F
      let ssrc ← readU32 buf 4
      let data ←
        if 12 < buf.length then do
          let trimmed := (← readSlice buf 12 buf.length).takeWhile (· ≠ 0)
          some (if trimmed = [] then none else String.fromUTF8? ⟨trimmed.toArray⟩)
        else some none
      some (some ⟨subtype,ssrc,data⟩)

def compoundWalker : Walker UInt8 (List MbcpMessage) where
  front buf offset := readByte buf (offset+1)
  stop pktLen := pktLen = 0
  visit buf pt results offset pktLen :=
    if pt = rtcpPtApp then do
      return results ++ (← parseChecked (← readSlice buf offset (offset+pktLen))).toList
    else some results

theorem parseChecked_parse (buf : Bytes) : parseChecked buf = some (parse buf) := by
  unfold parseChecked parse
  by_cases short : buf.length < 12
  · rw [if_pos short,if_pos short]
  · rw [if_neg short,if_neg short,readByte_inside (by omega)]
    simp only [Option.bind_eq_bind,Option.bind_some]
    by_cases app : byteAt buf 1 ≠ rtcpPtApp
    · rw [if_pos app,if_pos app]
    · rw [if_neg app,if_neg app,readSlice_inside (by decide) (by omega),Option.bind_some]
      by_cases name : (buf.drop 8).take 4 ≠ appName
      · rw [if_pos name,if_pos name]
      · rw [if_neg name,if_neg name,readByte_inside (by omega),readU32_inside (by omega)]
        simp only [Option.bind_some]
        by_cases longer : 12 < buf.length
        · have raw : readSlice buf 12 buf.length = some (buf.drop 12) := by
            rw [readSlice_inside (by omega) (Nat.le_refl _)]
            exact congrArg some (List.take_of_length_le (by rw [List.length_drop]))
          rw [if_pos longer,raw]
          simp only [Option.bind_some,longer,true_and]
          by_cases empty : (buf.drop 12).takeWhile (· ≠ 0) = []
          · rw [if_pos empty,if_neg (not_not_intro empty)]
          · rw [if_neg empty,if_pos empty]
        · rw [if_neg longer,if_neg (fun both => longer both.1)]

theorem compoundWalker_reads :
    compoundWalker.Reads (imageStep parse (fun results msg => results ++ [msg])) where
  stop pktLen positive := decide_eq_false (Nat.pos_iff_ne_zero.mp positive)
  visit buf offset header := by
    refine ⟨_,readByte_inside (by omega),?_⟩
    intro results pktLen long inside
    have pt : byteAt buf (offset+1) = byteAt ((buf.drop offset).take pktLen) 1 :=
      (byteAt_block buf offset (by omega)).symm
    have slice : readSlice buf offset (offset+pktLen) = some ((buf.drop offset).take pktLen) := by
      rw [readSlice_inside (by omega) inside,Nat.add_sub_cancel_left]
    change (if byteAt buf (offset+1) = rtcpPtApp then _ else _) = _
    rw [pt,slice]
    generalize (buf.drop offset).take pktLen = block
    by_cases app : byteAt block 1 = rtcpPtApp
    · rw [if_pos app]
      simp only [Option.bind_eq_bind,Option.bind_some,parseChecked_parse,imageStep]
      cases parse block with
      | none => simp
      | some msg => simp
    · have other : parse block = none := parse_foreign (fun mbcp => app mbcp.2.1)
      rw [if_neg app,imageStep,other]

end mbcp

section publisher
variable (myVideoSsrc : UInt32)

def publisherWalker : Walker (UInt8 × UInt8) (Bool × ObservationsInner) where
  front buf offset := do
    return (← readByte buf offset,← readByte buf (offset+1))
  stop _ := false
  visit buf head acc offset pktLen :=
    if head.2 = 201 ∧ 8 ≤ pktLen then do
      let senderSsrc ← readU32 buf (offset+4)
      return (acc.1,acc.2.recordRr senderSsrc)
    else if head.2 = 206 then
      if head.1 &&& 0x1F = 1 ∧ 12 ≤ pktLen then do
        let mediaSsrc ← readU32 buf (offset+8)
        return if mediaSsrc = myVideoSsrc then (true,acc.2.recordPli) else acc
      else some acc
    else some acc

inductive PublisherRecord
  | rr (senderSsrc : UInt32)
  | pli

def publisherRecord (block : Bytes) : Option PublisherRecord :=
  if byteAt block 1 = 201 ∧ 8 ≤ block.length then some (.rr (u32At block 4))
  else if IsPli myVideoSsrc block then some .pli
  else none

def addRecord (acc : Bool × ObservationsInner) : PublisherRecord → Bool × ObservationsInner
  | .rr senderSsrc => (acc.1,acc.2.recordRr senderSsrc)
  | .pli => (true,acc.2.recordPli)

theorem onPublisherBlock_image :
    onPublisherBlock myVideoSsrc = imageStep (publisherRecord myVideoSsrc) addRecord := by
  funext acc block
  by_cases report : byteAt block 1 = 201 ∧ 8 ≤ block.length
  · have found : publisherRecord myVideoSsrc block = some (.rr (u32At block 4)) := if_pos report
    rw [imageStep,found]
    exact if_pos report
  · by_cases pli : IsPli myVideoSsrc block
    · have found : publisherRecord myVideoSsrc block = some .pli :=
        (if_neg report).trans (if_pos pli)
      rw [imageStep,found]
      exact onPublisherBlock_pli pli acc
    · have nothing : publisherRecord myVideoSsrc block = none :=
        (if_neg report).trans (if_neg pli)
      rw [imageStep,nothing]
      simp only [onPublisherBlock,visitPublisher,Nat.zero_add,if_neg report]
      by_cases pt : byteAt block 1 = 206
      · rw [if_pos pt]
        by_cases feedback : byteAt block 0 &&& 0x1F = 1 ∧ 12 ≤ block.length
        · rw [if_pos feedback,if_neg (fun media => pli ⟨pt,feedback.1,feedback.2,media⟩)]
        · rw [if_neg feedback]
      · rw [if_neg pt]

theorem publisherWalker_reads :
    (publisherWalker myVideoSsrc).Reads (imageStep (publisherRecord myVideoSsrc) addRecord) where
  stop _ _ := rfl
  visit buf offset header := by
    refine ⟨(byteAt buf offset,byteAt buf (offset+1)),?_,?_⟩
    · simp only [publisherWalker,readByte_inside (show offset < buf.length by omega),
        readByte_inside (show offset + 1 < buf.length by omega)]
      rfl
    · intro acc pktLen long inside
      rw [← onPublisherBlock_image,← visitPublisher_block buf myVideoSsrc acc long inside]
      simp only [publisherWalker,visitPublisher]
      by_cases report : byteAt buf (offset+1) = 201 ∧ 8 ≤ pktLen
      · rw [if_pos report,if_pos report,readU32_inside (by omega)]
        rfl
      · rw [if_neg report,if_neg report]
        by_cases feedback : byteAt buf offset &&& 0x1F = 1 ∧ 12 ≤ pktLen
        · rw [if_pos feedback,if_pos feedback,readU32_inside (by omega)]
          split <;> rfl
        · rw [if_neg feedback,if_neg feedback]
          split <;> rfl

end publisher

def srWalker : Walker UInt8 ObservationsInner where
  front buf offset := readByte buf (offset+1)
  stop _ := false
  visit buf pt obs offset pktLen :=
    if pt = 200 ∧ 28 ≤ pktLen then do
      let ssrc ← readU32 buf (offset+4)
      let ntpSec ← readU32 buf (offset+8)
      let ntpFrac ← readU32 buf (offset+12)
      let rtpTs ← readU32 buf (offset+16)
      let packetCount ← readU32 buf (offset+20)
      let octetCount ← readU32 buf (offset+24)
      return obs.recordSr ⟨ssrc,ntpSec,ntpFrac,rtpTs,packetCount,octetCount⟩
    else some obs

theorem srWalker_reads : srWalker.Reads (imageStep srOf ObservationsInner.recordSr) where
  stop _ _ := rfl
  visit buf offset header := by
    refine ⟨_,readByte_inside (by omega),?_⟩
    intro obs pktLen long inside
    rw [imageStep,srOf_block buf long inside]
    by_cases sr : byteAt buf (offset+1) = 200 ∧ 28 ≤ pktLen
    · have read (i : Nat) (within : i ≤ 24) :
          readU32 buf (offset+i) = some (u32At buf (offset+i)) := readU32_inside (by omega)
      simp only [srWalker,if_pos sr,read 4 (by decide),read 8 (by decide),read 12 (by decide),
        read 16 (by decide),read 20 (by decide),read 24 (by decide)]
      rfl
    · simp only [srWalker,if_neg sr]

section framing

/-- The longest decomposition of the front of a buffer into whole blocks. -/
structure LongestFraming (buf : Bytes) (blocks : List Bytes) : Prop where
  whole : ∀ block ∈ blocks,rtcp.Whole block
  front : blocks.flatten <+: buf
  longest : ∀ joined : List Bytes,(∀ block ∈ joined,rtcp.Whole block) → joined.flatten <+: buf →
    joined <+: blocks

theorem blocks_longestFraming (buf : Bytes) : LongestFraming buf (rtcp.blocks buf) := by
  obtain ⟨whole,front⟩ := rtcp.blocks_whole rtcp_alone buf
  exact ⟨whole,front,fun _ joined => rtcp.blocks_longest joined⟩

variable {η σ ρ : Type}

def images (record : Bytes → Option ρ) (buf : Bytes) : List ρ := (rtcp.blocks buf).filterMap record

/-- The walker ends without an access outside the buffer, with what `walked` makes
of it: the images of the framing's blocks, added one by one. An incomplete tail
changes nothing, nor does a block without an image, and what a framed buffer
stands in front of is walked from there on. -/
structure FollowsFraming (w : Walker η σ) (walked : Bytes → σ → σ) (record : Bytes → Option ρ)
    (add : σ → ρ → σ) : Prop where
  visits : ∀ buf acc,w.run buf acc = some (spansFrom 0 (rtcp.blocks buf),walked buf acc)
  image : ∀ buf acc,walked buf acc = (images record buf).foldl add acc
  truncated : ∀ (joined : List Bytes) (tail : Bytes) (acc : σ),
    (∀ block ∈ joined,rtcp.Whole block) → Incomplete tail →
      w.run (joined.flatten ++ tail) acc = w.run joined.flatten acc
  others : ∀ (joined : List Bytes) (rest : Bytes) (acc : σ),(∀ block ∈ joined,rtcp.Whole block) →
    walked (joined.flatten ++ rest) acc =
      walked ((joined.filter (fun block => (record block).isSome)).flatten ++ rest) acc
  concatenation : ∀ (joined : List Bytes) (other : Bytes) (acc : σ),
    (∀ block ∈ joined,rtcp.Whole block) →
      images record (joined.flatten ++ other) = images record joined.flatten ++ images record other ∧
        walked (joined.flatten ++ other) acc = walked other (walked joined.flatten acc)

section images
variable (record : Bytes → Option ρ) {joined : List Bytes} (whole : ∀ block ∈ joined,rtcp.Whole block)
include whole

theorem images_append (rest : Bytes) :
    images record (joined.flatten ++ rest) = joined.filterMap record ++ images record rest := by
  rw [images,rtcp.blocks_append whole,List.filterMap_append]
  rfl

theorem images_flatten : images record joined.flatten = joined.filterMap record := by
  have alone := images_append record whole []
  rw [List.append_nil] at alone
  exact alone.trans (List.append_nil _)

theorem images_filter (rest : Bytes) : images record (joined.flatten ++ rest) =
    images record ((joined.filter (fun block => (record block).isSome)).flatten ++ rest) := by
  have kept : ∀ block ∈ joined.filter (fun block => (record block).isSome),rtcp.Whole block :=
    fun block inside => whole block (List.mem_of_mem_filter inside)
  rw [images_append record whole,images_append record kept,List.filterMap_filter]
  congr 2
  funext block
  cases record block <;> rfl

end images

theorem followsFraming {w : Walker η σ} {record : Bytes → Option ρ} {add : σ → ρ → σ}
    (reads : w.Reads (imageStep record add)) {walked : Bytes → σ → σ}
    (image : ∀ buf acc,walked buf acc = (images record buf).foldl add acc) :
    FollowsFraming w walked record add := by
  have visits (buf : Bytes) (acc : σ) :
      w.run buf acc = some (spansFrom 0 (rtcp.blocks buf),walked buf acc) := by
    rw [Walker.run_blocks buf reads,image,images,List.foldl_filterMap]
    rfl
  refine ⟨visits,image,?_,?_,?_⟩
  · intro joined tail acc whole incomplete
    have cut := rtcp.blocks_flatten whole incomplete.next
    have alone := rtcp.blocks_flatten whole rtcp.next_nil
    rw [List.append_nil] at alone
    rw [Walker.run_blocks _ reads,Walker.run_blocks _ reads,cut,alone]
  · intro joined rest acc whole
    rw [image,image,images_filter record whole]
  · intro joined other acc whole
    have split := images_append record whole other
    rw [← images_flatten record whole] at split
    refine ⟨split,?_⟩
    rw [image,image,image,split,List.foldl_append]

end framing

end Oxlab.RtcpWalkers
