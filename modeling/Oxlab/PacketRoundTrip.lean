import Oxlab.Bot.Cap
import Oxlab.Bot.RtcpParser
import Oxlab.Bot.RtpPublisher
import Oxlab.Library.Framing

/-! Every generated RTP packet through the receive side.
The header extension is read by a parser of its own, for the one-byte elements
of RFC 5285; the other readers are those of the repository. -/
namespace Oxlab.PacketRoundTrip
open Common.Media Bot.RtpPublisher Bot.RtpSubscriber Bot.RtcpParser Bot.Cap Library

def elementSize : Bytes → Option Nat
  | [] => none
  | head::_ => some (if head = 0 then 1 else 2 + (head &&& 0x0F).toNat)

/-- One-byte elements, a zero byte being one of padding. -/
def elements : Framing.Header UInt8 where
  size := elementSize
  positive := by
    intro input n declared
    cases input with
    | nil => contradiction
    | cons head rest =>
      cases Option.some.inj declared
      split <;> omega
  stable := by
    intro input rest n declared
    cases input with
    | nil => contradiction
    | cons head tail => exact declared

/-- The elements before one with the reserved identifier 15, padding left out. -/
def parseElements (data : Bytes) : Option (List (UInt8 × Bytes)) :=
  (elements.split data).map (fun blocks =>
    ((blocks.map (fun block => (byteAt block 0 >>> 4,block.drop 1))).takeWhile (·.1 ≠ 15)).filter
      (·.1 ≠ 0))

/-- The elements of a packet and the offset of its payload. -/
def parseExtension (pkt : Bytes) : Option (List (UInt8 × Bytes) × Nat) :=
  let offset := 12 + (byteAt pkt 0 &&& 0x0F).toNat*4
  let payload := offset + 4 + (u16At pkt (offset+2)).toNat*4
  if byteAt pkt 0 &&& 0x10 = 0 then none
  else if pkt.length < offset + 4 then none
  else if u16At pkt offset ≠ 0xBEDE then none
  else if pkt.length < payload then none
  else
    (parseElements ((pkt.drop (offset+4)).take ((u16At pkt (offset+2)).toNat*4))).map (fun found =>
      (found,payload))

structure Valid (config : RtpPublisherConfig) : Prop where
  audioMid : 1 ≤ (strBytes config.audioMid).length ∧ (strBytes config.audioMid).length ≤ 16
  videoMid : 1 ≤ (strBytes config.videoMid).length ∧ (strBytes config.videoMid).length ≤ 16
  midExtmapId : 1 ≤ config.midExtmapId ∧ config.midExtmapId ≤ 14
  videoPt : config.videoPt < 128

def headByte (id : UInt8) (len : Nat) : UInt8 := (id <<< 4) ||| ((UInt8.ofNat len - 1) &&& 0x0F)

theorem headByte_read {id : UInt8} (named : 1 ≤ id ∧ id ≤ 14) {len : Nat}
    (sized : 1 ≤ len ∧ len ≤ 16) :
    headByte id len >>> 4 = id ∧ 2 + (headByte id len &&& 0x0F).toNat = 1 + len ∧
      headByte id len ≠ 0 := by
  have all : ∀ b : Fin 15,∀ n : Fin 17,1 ≤ b.val → 1 ≤ n.val →
      headByte (UInt8.ofNat b) n >>> 4 = UInt8.ofNat b ∧
        2 + (headByte (UInt8.ofNat b) n &&& 0x0F).toNat = 1 + n ∧
        headByte (UInt8.ofNat b) n ≠ 0 := by decide +kernel
  have low : id.toNat < 15 := Nat.lt_succ_of_le (UInt8.le_iff_toNat_le.mp named.2)
  have read := all ⟨id.toNat,low⟩ ⟨len,by omega⟩ (UInt8.le_iff_toNat_le.mp named.1) sized.1
  simp only [UInt8.ofNat_toNat] at read
  exact read

section extension
variable (id : UInt8) (mid : String)

def extensionData : Bytes :=
  headByte id (strBytes mid).length::strBytes mid ++
    List.replicate (midExtensionWords mid*4 - (1 + (strBytes mid).length)) 0

theorem extensionData_length : (extensionData id mid).length = midExtensionWords mid*4 := by
  simp only [extensionData,midExtensionWords,List.length_append,List.length_cons,
    List.length_replicate]
  omega

variable {id} {mid}

theorem writeMidExtension_data (short : (strBytes mid).length ≤ 16) :
    writeMidExtension id mid =
      u16Bytes 0xBEDE ++ u16Bytes (UInt16.ofNat (midExtensionWords mid)) ++ extensionData id mid := by
  have few : midExtensionWords mid < 65536 := by
    rw [midExtensionWords]
    omega
  have words : u16Bytes (UInt16.ofNat (midExtensionWords mid)) =
      [UInt8.ofNat (midExtensionWords mid / 256),UInt8.ofNat (midExtensionWords mid)] := by
    rw [u16Bytes,UInt16.toNat_ofNat',Nat.mod_eq_of_lt few]
    rfl
  rw [words]
  simp only [writeMidExtension,extensionData,List.append_assoc]
  rfl

theorem parseElements_data (named : 1 ≤ id ∧ id ≤ 14)
    (sized : 1 ≤ (strBytes mid).length ∧ (strBytes mid).length ≤ 16) :
    parseElements (extensionData id mid) = some [(id,strBytes mid)] := by
  obtain ⟨top,long,nonzero⟩ := headByte_read named sized
  have element : elements.Whole (headByte id (strBytes mid).length::strBytes mid) := by
    change some (if headByte id (strBytes mid).length = 0 then 1
      else 2 + (headByte id (strBytes mid).length &&& 0x0F).toNat) = some _
    rw [if_neg nonzero,long,List.length_cons,Nat.add_comm]
  have padding (count : Nat) : ∀ block ∈ List.replicate count [(0 : UInt8)],elements.Whole block := by
    intro block member
    rw [(List.mem_replicate.mp member).2]
    rfl
  have cut := elements.split_flatten (List.forall_mem_cons.mpr ⟨element,
    padding (midExtensionWords mid*4 - (1 + (strBytes mid).length))⟩)
  rw [List.flatten_cons,List.flatten_replicate_singleton] at cut
  have reserved : id ≠ 15 := by
    intro same
    rw [same] at named
    exact absurd named.2 (by decide)
  have padding_id : id ≠ 0 := by
    intro same
    rw [same] at named
    exact absurd named.1 (by decide)
  have first : byteAt (headByte id (strBytes mid).length::strBytes mid) 0 >>> 4 = id := top
  have zero : byteAt [0] 0 >>> 4 = 0 := rfl
  rw [parseElements,extensionData,cut]
  simp [first,zero,reserved,padding_id]

end extension

section layout
variable (b1 : UInt8) (seq : UInt16) (ts ssrc : UInt32) (id : UInt8) (mid : String) (payload : Bytes)

/-- A packet as both builders lay it out. -/
def layout : Bytes :=
  rtpFixedHeader 0x90 b1 seq ts ssrc ++ writeMidExtension id mid ++ payload

theorem layout_length : (layout b1 seq ts ssrc id mid payload).length =
    payloadStart mid + payload.length := by
  rw [layout,List.length_append,List.length_append,rtpFixedHeader_length,writeMidExtension_length,
    payloadStart]
  omega

theorem layout_payload : (layout b1 seq ts ssrc id mid payload).drop (payloadStart mid) = payload := by
  apply List.drop_left'
  rw [List.length_append,rtpFixedHeader_length,writeMidExtension_length,payloadStart]
  omega

theorem layout_byteAt (i : Nat) :
    byteAt (layout b1 seq ts ssrc id mid payload) (payloadStart mid + i) = byteAt payload i := by
  rw [← byteAt_drop,layout_payload]

theorem layout_first : byteAt (layout b1 seq ts ssrc id mid payload) 0 = 0x90 := rfl

variable {mid}

theorem layout_words (short : (strBytes mid).length ≤ 16) :
    u16At (layout b1 seq ts ssrc id mid payload) 12 = 0xBEDE ∧
      (u16At (layout b1 seq ts ssrc id mid payload) 14).toNat = midExtensionWords mid ∧
      ((layout b1 seq ts ssrc id mid payload).drop 16).take (midExtensionWords mid*4) =
        extensionData id mid := by
  have header := rtpFixedHeader_length 0x90 b1 seq ts ssrc
  have profile := u16At_append (rtpFixedHeader 0x90 b1 seq ts ssrc) 0xBEDE
    (u16Bytes (UInt16.ofNat (midExtensionWords mid)) ++ (extensionData id mid ++ payload))
  have words := u16At_append (rtpFixedHeader 0x90 b1 seq ts ssrc ++ u16Bytes 0xBEDE)
    (UInt16.ofNat (midExtensionWords mid)) (extensionData id mid ++ payload)
  have data : (layout b1 seq ts ssrc id mid payload).drop 16 = extensionData id mid ++ payload := by
    rw [layout,writeMidExtension_data short,← List.append_assoc,← List.append_assoc,
      List.append_assoc _ (extensionData id mid)]
    apply List.drop_left'
    simp only [List.length_append,header,u16Bytes,BigEndian.encode_length]
  have few : midExtensionWords mid < 65536 := by
    rw [midExtensionWords]
    omega
  refine ⟨?_,?_,?_⟩
  · rw [← profile,header,layout,writeMidExtension_data short]
    simp only [List.append_assoc]
  · rw [List.length_append,header] at words
    have value : u16At (layout b1 seq ts ssrc id mid payload) 14 =
        UInt16.ofNat (midExtensionWords mid) := by
      rw [← words,layout,writeMidExtension_data short]
      simp only [List.append_assoc]
      rfl
    rw [value,UInt16.toNat_ofNat',Nat.mod_eq_of_lt few]
  · rw [data,← extensionData_length id mid,List.take_left]

theorem parseExtension_layout (named : 1 ≤ id ∧ id ≤ 14)
    (sized : 1 ≤ (strBytes mid).length ∧ (strBytes mid).length ≤ 16) :
    parseExtension (layout b1 seq ts ssrc id mid payload) =
      some ([(id,strBytes mid)],payloadStart mid) := by
  obtain ⟨profile,words,data⟩ := layout_words b1 seq ts ssrc id payload sized.2
  have long := layout_length b1 seq ts ssrc id mid payload
  have csrcs : 12 + ((0x90 : UInt8) &&& 0x0F).toNat*4 = 12 := by decide
  simp only [parseExtension,layout_first,csrcs,profile,words,data,long]
  rw [if_neg (by decide),if_neg (by rw [payloadStart]; omega),if_neg (by decide),
    if_neg (by rw [payloadStart]; omega),parseElements_data named sized]
  rfl

theorem detect_layout (short : (strBytes mid).length ≤ 16) (long : 2 ≤ payload.length) :
    detectVp8Keyframe (layout b1 seq ts ssrc id mid payload) =
      (decide (byteAt payload 0 &&& 0x10 ≠ 0) && decide (byteAt payload 1 &&& 0x01 = 0)) := by
  obtain ⟨_,words,_⟩ := layout_words b1 seq ts ssrc id payload short
  have size := layout_length b1 seq ts ssrc id mid payload
  have start := layout_byteAt b1 seq ts ssrc id mid payload
  have csrcs : 12 + ((0x90 : UInt8) &&& 0x0F).toNat*4 = 12 := by decide
  have extended : (0x90 : UInt8) &&& 0x10 ≠ 0 := by decide
  have offset : 12 + 4 + midExtensionWords mid*4 = payloadStart mid := rfl
  have first := start 0
  rw [Nat.add_zero] at first
  simp only [detectVp8Keyframe,layout_first,csrcs,size,extended,words,offset,first,start 1,
    not_false_eq_true,true_and,if_true,ne_eq]
  rw [if_neg (by rw [payloadStart]; omega),if_neg (by rw [payloadStart]; omega),if_neg (by omega)]
  by_cases partition : byteAt payload 0 &&& 0x10 = 0
  · rw [if_pos partition]
    simp [partition]
  · rw [if_neg partition]
    simp [partition]

end layout

/-- A call on a publisher state, or a PLI that raises its flag between calls. -/
inductive Call
  | opus
  | vp8
  | forceKeyframe
  deriving DecidableEq

def advance (s : RtpPublisherState) : Call → RtpPublisherState
  | .opus => s.buildOpusPacket.2
  | .vp8 => s.buildVp8Packet.2
  | .forceKeyframe => { s with forceKeyframe := true }

def reached (config : RtpPublisherConfig) (calls : List Call) : RtpPublisherState :=
  calls.foldl advance (.new config)

/-- A state before its `a`th audio and `v`th video packet. -/
structure Counted (config : RtpPublisherConfig) (a v : Nat) (s : RtpPublisherState) : Prop where
  config : s.config = config
  audioSeq : s.audioSeq = UInt16.ofNat a
  audioTs : s.audioTs = UInt32.ofNat (960*a)
  videoSeq : s.videoSeq = UInt16.ofNat v
  videoTs : s.videoTs = UInt32.ofNat (3000*v)

theorem counted_run (config : RtpPublisherConfig) (calls : List Call) (a v : Nat)
    (s : RtpPublisherState) (counted : Counted config a v s) :
    Counted config (a + calls.count .opus) (v + calls.count .vp8) (calls.foldl advance s) := by
  induction calls generalizing a v s with
  | nil => exact counted
  | cons call rest ih =>
    cases call with
    | opus =>
      have later := ih (a+1) v s.buildOpusPacket.2 ⟨counted.config,
        by rw [UInt16.ofNat_add,← counted.audioSeq]; rfl,
        by rw [Nat.mul_succ,UInt32.ofNat_add,← counted.audioTs]; rfl,
        counted.videoSeq,counted.videoTs⟩
      simpa [advance,Nat.add_comm,Nat.add_left_comm] using later
    | vp8 =>
      have later := ih a (v+1) s.buildVp8Packet.2 ⟨counted.config,counted.audioSeq,counted.audioTs,
        by rw [UInt16.ofNat_add,← counted.videoSeq]; rfl,
        by rw [Nat.mul_succ,UInt32.ofNat_add,← counted.videoTs]; rfl⟩
      simpa [advance,Nat.add_comm,Nat.add_left_comm] using later
    | forceKeyframe =>
      have later := ih a v { s with forceKeyframe := true } ⟨counted.config,counted.audioSeq,
        counted.audioTs,counted.videoSeq,counted.videoTs⟩
      simpa [advance] using later

theorem reached_counted (config : RtpPublisherConfig) (calls : List Call) :
    Counted config (calls.count .opus) (calls.count .vp8) (reached config calls) := by
  have run := counted_run config calls 0 0 (.new config) ⟨rfl,rfl,rfl,rfl,rfl⟩
  rwa [Nat.zero_add,Nat.zero_add] at run

structure ReadsBack (pkt : Bytes) (header : RtpMini) (id : UInt8) (mid : String)
    (payload : Bytes) : Prop where
  mini : parseRtpMini pkt = some header
  extension : parseExtension pkt = some ([(id,strBytes mid)],payloadStart mid)
  payload : pkt.drop (payloadStart mid) = payload

theorem layout_readsBack (b1 : UInt8) (seq : UInt16) (ts ssrc : UInt32) {id : UInt8} {mid : String}
    (payload : Bytes) (named : 1 ≤ id ∧ id ≤ 14)
    (sized : 1 ≤ (strBytes mid).length ∧ (strBytes mid).length ≤ 16) :
    ReadsBack (layout b1 seq ts ssrc id mid payload)
      ⟨b1 &&& 0x7F,seq,ts,ssrc,b1 &&& 0x80 ≠ 0⟩ id mid payload where
  mini := by
    rw [layout,List.append_assoc]
    exact parse_fixedHeader 0x90 b1 seq ts ssrc _
  extension := parseExtension_layout b1 seq ts ssrc id payload named sized
  payload := layout_payload b1 seq ts ssrc id mid payload

theorem videoByte_read {pt : UInt8} (small : pt < 128) (key : Bool) :
    (if key then pt ||| 0x80 else pt) &&& 0x7F = pt ∧
      decide ((if key then pt ||| 0x80 else pt) &&& 0x80 ≠ 0) = key := by
  have all : ∀ b : Fin 128,∀ key : Bool,
      (if key then UInt8.ofNat b ||| 0x80 else UInt8.ofNat b) &&& 0x7F = UInt8.ofNat b ∧
        decide ((if key then UInt8.ofNat b ||| 0x80 else UInt8.ofNat b) &&& 0x80 ≠ 0) = key := by
    decide +kernel
  have read := all ⟨pt.toNat,UInt8.lt_iff_toNat_lt.mp small⟩ key
  simp only [UInt8.ofNat_toNat] at read
  exact read

def videoHeader (config : RtpPublisherConfig) (v : Nat) (key : Bool) : RtpMini :=
  ⟨config.videoPt,UInt16.ofNat v,UInt32.ofNat (3000*v),config.videoSsrc,key⟩

theorem video_laid {config : RtpPublisherConfig} {a v : Nat} {s : RtpPublisherState}
    (counted : Counted config a v s) : s.buildVp8Packet.1 =
    layout (if s.nextIsKeyframe then config.videoPt ||| 0x80 else config.videoPt) (UInt16.ofNat v)
      (UInt32.ofNat (3000*v)) config.videoSsrc config.midExtmapId config.videoMid
      (vp8Payload s.nextIsKeyframe) := by
  rw [buildVp8Packet_layout,← counted.videoSeq,← counted.videoTs,← counted.config]
  rfl

def audioHeader (config : RtpPublisherConfig) (a : Nat) : RtpMini :=
  ⟨opusPt,UInt16.ofNat a,UInt32.ofNat (960*a),config.audioSsrc,false⟩

theorem audio_laid {config : RtpPublisherConfig} {a v : Nat} {s : RtpPublisherState}
    (counted : Counted config a v s) : s.buildOpusPacket.1 =
    layout opusPt (UInt16.ofNat a) (UInt32.ofNat (960*a)) config.audioSsrc config.midExtmapId
      config.audioMid opusSilence := by
  rw [← counted.audioSeq,← counted.audioTs,← counted.config]
  rfl

section packets
variable {config : RtpPublisherConfig} (valid : Valid config)
include valid

theorem video_readsBack (v : Nat) (key : Bool) {payload : Bytes} (long : 2 ≤ payload.length)
    (descriptor : byteAt payload 0 = 0x10)
    (frameType : byteAt payload 1 = if key then 0x10 else 0x11) {pkt : Bytes}
    (laid : pkt = layout (if key then config.videoPt ||| 0x80 else config.videoPt) (UInt16.ofNat v)
      (UInt32.ofNat (3000*v)) config.videoSsrc config.midExtmapId config.videoMid payload) :
    ReadsBack pkt (videoHeader config v key) config.midExtmapId config.videoMid payload ∧
      detectVp8Keyframe pkt = key := by
  obtain ⟨pt,marker⟩ := videoByte_read valid.videoPt key
  subst laid
  constructor
  · have read := layout_readsBack (if key then config.videoPt ||| 0x80 else config.videoPt)
      (UInt16.ofNat v) (UInt32.ofNat (3000*v)) config.videoSsrc payload valid.midExtmapId
      valid.videoMid
    rw [pt,marker] at read
    exact read
  · rw [detect_layout _ _ _ _ _ _ valid.videoMid.2 long,descriptor,frameType]
    cases key <;> decide

variable {a v : Nat} {s : RtpPublisherState} (counted : Counted config a v s)
include counted

theorem audio_packet : ReadsBack s.buildOpusPacket.1 (audioHeader config a)
    config.midExtmapId config.audioMid opusSilence := by
  rw [audio_laid counted]
  exact layout_readsBack opusPt (UInt16.ofNat a) (UInt32.ofNat (960*a)) config.audioSsrc
    opusSilence valid.midExtmapId valid.audioMid

omit valid in
theorem sent_audio (now : UInt64) :
    parseRtpMini (embedSendTs now s.buildOpusPacket.1) = some (audioHeader config a) ∧
      sendMicros (embedSendTs now s.buildOpusPacket.1) = now.toNat := by
  have room : 8 ≤ (writeMidExtension config.midExtmapId config.audioMid ++ opusSilence).length := by
    rw [List.length_append,writeMidExtension_length,midExtensionWords]
    change 8 ≤ 4 + (1 + (strBytes config.audioMid).length + 3) / 4 * 4 + 3
    omega
  rw [audio_laid counted,layout,List.append_assoc]
  constructor
  · rw [embedSendTs_append now _ room]
    exact parse_fixedHeader 0x90 opusPt _ _ _ _
  · apply sendMicros_embed
    rw [List.length_append]
    omega

theorem video_packet : ReadsBack s.buildVp8Packet.1 (videoHeader config v s.nextIsKeyframe)
    config.midExtmapId config.videoMid (vp8Payload s.nextIsKeyframe) ∧
      detectVp8Keyframe s.buildVp8Packet.1 = s.nextIsKeyframe :=
  video_readsBack valid v s.nextIsKeyframe (by rw [vp8Payload,List.length_append]; simp) rfl rfl
    (video_laid counted)

/-- The send time lies over the filling of the payload, behind what is parsed. -/
theorem sent_packet (now : UInt64) :
    ReadsBack (embedSendTs now s.buildVp8Packet.1) (videoHeader config v s.nextIsKeyframe)
      config.midExtmapId config.videoMid (embedSendTs now (vp8Payload s.nextIsKeyframe)) ∧
    detectVp8Keyframe (embedSendTs now s.buildVp8Packet.1) = s.nextIsKeyframe ∧
    sendMicros (embedSendTs now s.buildVp8Packet.1) = now.toNat := by
  have roomy : 8 ≤ (List.replicate ((if s.nextIsKeyframe then vp8KeyframeSize else vp8PframeSize) - 1)
      (0 : UInt8)).length := by
    rw [List.length_replicate,vp8KeyframeSize,vp8PframeSize]
    split <;> decide
  have payload := embedSendTs_append now [0x10,if s.nextIsKeyframe then 0x10 else 0x11] roomy
  have long : 8 ≤ (vp8Payload s.nextIsKeyframe).length := by
    rw [vp8Payload,List.length_append]
    omega
  have laid := video_laid counted
  have stamped : embedSendTs now s.buildVp8Packet.1 =
      layout (if s.nextIsKeyframe then config.videoPt ||| 0x80 else config.videoPt)
        (UInt16.ofNat v) (UInt32.ofNat (3000*v)) config.videoSsrc config.midExtmapId
        config.videoMid (embedSendTs now (vp8Payload s.nextIsKeyframe)) := by
    rw [laid]
    exact embedSendTs_append now _ long
  obtain ⟨read,detected⟩ := video_readsBack valid v s.nextIsKeyframe
    (by rw [vp8Payload,payload,List.length_append]; exact Nat.le_add_right 2 _)
    (by rw [vp8Payload,payload]; rfl) (by rw [vp8Payload,payload]; rfl) stamped
  refine ⟨read,detected,sendMicros_embed now ?_⟩
  rw [laid,layout_length]
  omega

end packets

/-- From every reachable publisher state the next packet of either kind, and the
next video packet as the capacity publisher sends it, are read back exactly. -/
theorem packets_read_back (config : RtpPublisherConfig) (valid : Valid config)
    (calls : List Call) (now : UInt64) :
    let s := reached config calls
    let a := calls.count .opus
    let v := calls.count .vp8
    ReadsBack s.buildOpusPacket.1 (audioHeader config a) config.midExtmapId config.audioMid
        opusSilence ∧
      ReadsBack s.buildVp8Packet.1 (videoHeader config v s.nextIsKeyframe)
        config.midExtmapId config.videoMid (vp8Payload s.nextIsKeyframe) ∧
      detectVp8Keyframe s.buildVp8Packet.1 = s.nextIsKeyframe ∧
      ReadsBack (embedSendTs now s.buildVp8Packet.1) (videoHeader config v s.nextIsKeyframe)
        config.midExtmapId config.videoMid (embedSendTs now (vp8Payload s.nextIsKeyframe)) ∧
      detectVp8Keyframe (embedSendTs now s.buildVp8Packet.1) = s.nextIsKeyframe ∧
      sendMicros (embedSendTs now s.buildVp8Packet.1) = now.toNat ∧
      parseRtpMini (embedSendTs now s.buildOpusPacket.1) = some (audioHeader config a) ∧
      sendMicros (embedSendTs now s.buildOpusPacket.1) = now.toNat := by
  have counted := reached_counted config calls
  obtain ⟨video,detected⟩ := video_packet valid counted
  obtain ⟨sent,found,stamped⟩ := sent_packet valid counted now
  exact ⟨audio_packet valid counted,video,detected,sent,found,stamped,sent_audio counted now⟩

theorem packets_read_back_default :
    ReadsBack (embedSendTs 1000 (reached {} [.opus,.vp8,.forceKeyframe]).buildVp8Packet.1)
      (videoHeader {} 1 true) 1 "1" (embedSendTs 1000 (vp8Payload true)) :=
  (packets_read_back {} ⟨by decide,by decide,by decide,by decide⟩ [.opus,.vp8,.forceKeyframe]
    1000).2.2.2.1

/-- The last 8 bytes of an Opus packet reach into its extension: the send time takes the
place of the MID, here with a length of no words. -/
theorem stamped_audio_unread :
    Valid {} ∧
      parseExtension (reached {} []).buildOpusPacket.1 = some ([(1,strBytes "0")],20) ∧
      parseExtension (embedSendTs 256 (reached {} []).buildOpusPacket.1) = some ([],16) ∧
      ¬∃ payload, ReadsBack (embedSendTs 256 (reached {} []).buildOpusPacket.1)
        (audioHeader {} 0) 1 "0" payload := by
  have lost : parseExtension (embedSendTs 256 (reached {} []).buildOpusPacket.1) =
      some ([],16) := by
    decide +kernel
  refine ⟨⟨by decide,by decide,by decide,by decide⟩,by decide +kernel,lost,?_⟩
  intro unread
  obtain ⟨payload,read⟩ := unread
  have both := lost.symm.trans read.extension
  simp at both

end Oxlab.PacketRoundTrip
