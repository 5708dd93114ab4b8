import Oxlab.Bot.Observations
import Oxlab.Common.Rtcp

/-! RTCP compound walking and keyframe detection. -/
namespace Oxlab.Bot.RtcpParser
open Common.Media Common.Rtcp Library Observations

def detectVp8Keyframe (rtpPkt : Bytes) : Bool :=
  if rtpPkt.length < 14 then false
  else
    let cc := (byteAt rtpPkt 0 &&& 0x0F).toNat
    let hasExt := byteAt rtpPkt 0 &&& 0x10 ≠ 0
    let offset := 12 + cc*4
    if hasExt ∧ rtpPkt.length < offset + 4 then false
    else
      let offset := if hasExt then offset + 4 + (u16At rtpPkt (offset+2)).toNat*4 else offset
      if rtpPkt.length ≤ offset + 1 then false
      else if byteAt rtpPkt offset &&& 0x10 = 0 then false
      else byteAt rtpPkt (offset+1) &&& 0x01 = 0

/-- A small string hash, for the SSRCs. -/
def simpleHash (s : String) : UInt32 :=
  (strBytes s).foldl (fun hash b => hash*33 + b.toUInt32) 5381

/-- The loop shared by the RTCP walkers: each whole block is visited with its
offset and length; the loop stops at the first that does not fit. A block takes
at least four bytes, so the buffer's length is fuel enough. -/
def walkBlocks {σ : Type} (buf : Bytes) (visit : σ → Nat → Nat → σ) : Nat → Nat → σ → σ
  | 0, _, acc => acc
  | fuel+1, offset, acc =>
    if offset + 4 ≤ buf.length then
      let pktLen := ((u16At buf (offset+2)).toNat + 1)*4
      if buf.length < offset + pktLen then acc
      else walkBlocks buf visit fuel (offset+pktLen) (visit acc offset pktLen)
    else acc

def parseRtcpForSr (buf : Bytes) (observations : ObservationsInner) : ObservationsInner :=
  walkBlocks buf (fun obs offset pktLen =>
    if byteAt buf (offset+1) = 200 ∧ 28 ≤ pktLen then
      obs.recordSr
        { ssrc := u32At buf (offset+4)
          ntpSec := u32At buf (offset+8)
          ntpFrac := u32At buf (offset+12)
          rtpTs := u32At buf (offset+16)
          packetCount := u32At buf (offset+20)
          octetCount := u32At buf (offset+24) }
    else obs) buf.length 0 observations

def visitPublisher (buf : Bytes) (myVideoSsrc : UInt32) (acc : Bool × ObservationsInner)
    (offset pktLen : Nat) : Bool × ObservationsInner :=
  let pt := byteAt buf (offset+1)
  if pt = 201 ∧ 8 ≤ pktLen then (acc.1,acc.2.recordRr (u32At buf (offset+4)))
  else if pt = 206 then
    if byteAt buf offset &&& 0x1F = 1 ∧ 12 ≤ pktLen then
      if u32At buf (offset+8) = myVideoSsrc then (true,acc.2.recordPli) else acc
    else acc
  else acc

def parseRtcpCompound (buf : Bytes) (myVideoSsrc : UInt32) (acc : Bool × ObservationsInner) :
    Bool × ObservationsInner :=
  walkBlocks buf (visitPublisher buf myVideoSsrc) buf.length 0 acc

/-- A walker whose visits read their own block alone is a fold over the blocks. -/
theorem walkBlocks_blocks {σ : Type} (buf : Bytes) (visit : σ → Nat → Nat → σ)
    (onBlock : σ → Bytes → σ)
    (own : ∀ acc offset pktLen, 4 ≤ pktLen → offset + pktLen ≤ buf.length →
      visit acc offset pktLen = onBlock acc ((buf.drop offset).take pktLen))
    (fuel offset : Nat) (acc : σ) (enough : buf.length - offset ≤ fuel) :
    walkBlocks buf visit fuel offset acc = (rtcp.blocks (buf.drop offset)).foldl onBlock acc := by
  induction fuel generalizing offset acc with
  | zero =>
    have done : buf.drop offset = [] := List.drop_eq_nil_of_le (by omega)
    simp [walkBlocks,done,Framing.Header.blocks,Framing.Header.blocksIn]
  | succ fuel ih =>
    rw [Framing.Header.blocks_eq,next_drop,walkBlocks]
    by_cases header : offset + 4 ≤ buf.length
    · simp only [if_pos header]
      by_cases cut : buf.length < offset + ((u16At buf (offset+2)).toNat + 1)*4
      · simp only [if_pos cut,List.foldl_nil]
      · simp only [if_neg cut,List.foldl_cons]
        rw [ih _ _ (by omega),own _ _ _ (by omega) (by omega)]
    · simp only [if_neg header,List.foldl_nil]

def onPublisherBlock (myVideoSsrc : UInt32) (acc : Bool × ObservationsInner) (block : Bytes) :
    Bool × ObservationsInner := visitPublisher block myVideoSsrc acc 0 block.length

theorem visitPublisher_block (buf : Bytes) (myVideoSsrc : UInt32) (acc : Bool × ObservationsInner)
    {offset pktLen : Nat} (header : 4 ≤ pktLen) (inside : offset + pktLen ≤ buf.length) :
    visitPublisher buf myVideoSsrc acc offset pktLen =
      onPublisherBlock myVideoSsrc acc ((buf.drop offset).take pktLen) := by
  have long : ((buf.drop offset).take pktLen).length = pktLen := by
    rw [List.length_take,List.length_drop]
    omega
  have first := byteAt_block buf offset (show 0 < pktLen by omega)
  have pt := byteAt_block buf offset (show 1 < pktLen by omega)
  rw [Nat.add_zero] at first
  simp only [onPublisherBlock,visitPublisher,long,Nat.zero_add,first,pt]
  by_cases report : byteAt buf (offset+1) = 201 ∧ 8 ≤ pktLen
  · simp only [if_pos report]
    rw [u32At_block buf offset report.2]
  · simp only [if_neg report]
    by_cases feedback : byteAt buf offset &&& 0x1F = 1 ∧ 12 ≤ pktLen
    · simp only [if_pos feedback]
      rw [u32At_block buf offset feedback.2]
    · simp only [if_neg feedback]

theorem parseRtcpCompound_blocks (buf : Bytes) (myVideoSsrc : UInt32)
    (acc : Bool × ObservationsInner) :
    parseRtcpCompound buf myVideoSsrc acc =
      (rtcp.blocks buf).foldl (onPublisherBlock myVideoSsrc) acc := by
  apply walkBlocks_blocks buf _ _ _ buf.length 0 acc (by omega)
  intro acc offset pktLen header inside
  exact visitPublisher_block buf myVideoSsrc acc header inside

def IsSr (block : Bytes) : Prop := byteAt block 1 = 200 ∧ 28 ≤ block.length

instance (block : Bytes) : Decidable (IsSr block) := inferInstanceAs (Decidable (_ ∧ _))

def readSr (block : Bytes) : SrRecord where
  ssrc := u32At block 4
  ntpSec := u32At block 8
  ntpFrac := u32At block 12
  rtpTs := u32At block 16
  packetCount := u32At block 20
  octetCount := u32At block 24

def srOf (block : Bytes) : Option SrRecord := if IsSr block then some (readSr block) else none

theorem srOf_block (buf : Bytes) {offset pktLen : Nat} (header : 4 ≤ pktLen)
    (inside : offset + pktLen ≤ buf.length) : srOf ((buf.drop offset).take pktLen) =
      if byteAt buf (offset+1) = 200 ∧ 28 ≤ pktLen then
        some
          { ssrc := u32At buf (offset+4)
            ntpSec := u32At buf (offset+8)
            ntpFrac := u32At buf (offset+12)
            rtpTs := u32At buf (offset+16)
            packetCount := u32At buf (offset+20)
            octetCount := u32At buf (offset+24) }
      else none := by
  have long : ((buf.drop offset).take pktLen).length = pktLen := by
    rw [List.length_take,List.length_drop]
    omega
  simp only [srOf,IsSr,long,byteAt_block buf offset (show 1 < pktLen by omega)]
  by_cases sr : byteAt buf (offset+1) = 200 ∧ 28 ≤ pktLen
  · have read (i : Nat) (within : i ≤ 24) :
        u32At ((buf.drop offset).take pktLen) i = u32At buf (offset+i) :=
      u32At_block buf offset (by omega)
    simp only [if_pos sr,readSr,read 4 (by decide),read 8 (by decide),read 12 (by decide),
      read 16 (by decide),read 20 (by decide),read 24 (by decide)]
  · simp only [if_neg sr]

theorem parseRtcpForSr_blocks (buf : Bytes) (observations : ObservationsInner) :
    parseRtcpForSr buf observations =
      ((rtcp.blocks buf).filterMap srOf).foldl ObservationsInner.recordSr observations := by
  rw [List.foldl_filterMap]
  apply walkBlocks_blocks buf _ _ _ buf.length 0 observations (by omega)
  intro obs offset pktLen header inside
  rw [srOf_block buf header inside]
  by_cases sr : byteAt buf (offset+1) = 200 ∧ 28 ≤ pktLen
  · simp only [if_pos sr]
  · simp only [if_neg sr]

theorem recordSr_run (srs : List SrRecord) (observations : ObservationsInner) :
    (srs.foldl ObservationsInner.recordSr observations).srReceived =
      observations.srReceived ++ srs := by
  induction srs generalizing observations with
  | nil => simp
  | cons sr rest ih =>
    rw [List.foldl_cons,ih]
    simp [ObservationsInner.recordSr]

def IsPli (videoSsrc : UInt32) (block : Bytes) : Prop :=
  byteAt block 1 = 206 ∧ byteAt block 0 &&& 0x1F = 1 ∧ 12 ≤ block.length ∧
    u32At block 8 = videoSsrc

instance (videoSsrc : UInt32) (block : Bytes) : Decidable (IsPli videoSsrc block) :=
  inferInstanceAs (Decidable (_ ∧ _ ∧ _ ∧ _))

theorem onPublisherBlock_pli {videoSsrc : UInt32} {block : Bytes} (pli : IsPli videoSsrc block)
    (acc : Bool × ObservationsInner) :
    onPublisherBlock videoSsrc acc block = (true,acc.2.recordPli) := by
  obtain ⟨pt,fmt,long,media⟩ := pli
  simp [onPublisherBlock,visitPublisher,pt,fmt,long,media]

theorem onPublisherBlock_other {videoSsrc : UInt32} {block : Bytes} (other : ¬IsPli videoSsrc block)
    (acc : Bool × ObservationsInner) :
    (onPublisherBlock videoSsrc acc block).1 = acc.1 ∧
      (onPublisherBlock videoSsrc acc block).2.pliReceivedCount = acc.2.pliReceivedCount := by
  unfold onPublisherBlock visitPublisher
  simp only [Nat.zero_add]
  split
  next => exact ⟨rfl,rfl⟩
  next =>
    split
    next pt =>
      split
      next feedback =>
        rw [if_neg (fun media => other ⟨pt,feedback.1,feedback.2,media⟩)]
        exact ⟨rfl,rfl⟩
      next => exact ⟨rfl,rfl⟩
    next => exact ⟨rfl,rfl⟩

end Oxlab.Bot.RtcpParser
