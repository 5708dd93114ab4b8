import Oxlab.Bot.RtpSubscriber

/-! The fake RTP publisher: packet layout and the state each call advances.
The source fills a zeroed buffer by offsets; the same bytes are written here in
order. Counters wrap as in a release build. -/
namespace Oxlab.Bot.RtpPublisher
open Common.Media

def opusPt : UInt8 := 111
def opusSamplesPerFrame : UInt32 := 960
def opusSilence : Bytes := [0xF8,0xFF,0xFE]
def vp8DefaultPt : UInt8 := 96
def vp8TicksPerFrame : UInt32 := 3000
def vp8KeyframeInterval : UInt32 := 60
def vp8KeyframeSize : Nat := 800
def vp8PframeSize : Nat := 200
def oneByteHeaderProfile : UInt16 := 0xBEDE

structure RtpPublisherConfig where
  audioSsrc : UInt32 := 0xA0000001
  videoSsrc : UInt32 := 0xB0000001
  videoPt : UInt8 := vp8DefaultPt
  midExtmapId : UInt8 := 1
  audioMid : String := "0"
  videoMid : String := "1"

/-- `forceKeyframe` is the flag shared with the PLI listener. -/
structure RtpPublisherState where
  config : RtpPublisherConfig
  audioSeq : UInt16
  videoSeq : UInt16
  audioTs : UInt32
  videoTs : UInt32
  videoFrameCount : UInt32
  forceKeyframe : Bool

def RtpPublisherState.new (config : RtpPublisherConfig) : RtpPublisherState :=
  ⟨config,0,0,0,0,0,false⟩

def midExtensionWords (mid : String) : Nat := (1 + (strBytes mid).length + 3) / 4

/-- Profile, length in words, one element, zero padding to the word boundary. -/
def writeMidExtension (midExtmapId : UInt8) (mid : String) : Bytes :=
  let extWords := midExtensionWords mid
  let data := strBytes mid
  u16Bytes oneByteHeaderProfile ++ [UInt8.ofNat (extWords / 256),UInt8.ofNat extWords] ++
    [(midExtmapId <<< 4) ||| ((UInt8.ofNat data.length - 1) &&& 0x0F)] ++ data ++
    List.replicate (extWords*4 - (1 + data.length)) 0

def rtpFixedHeader (b0 b1 : UInt8) (seq : UInt16) (ts ssrc : UInt32) : Bytes :=
  [b0,b1] ++ u16Bytes seq ++ u32Bytes ts ++ u32Bytes ssrc

namespace RtpPublisherState

def buildOpusPacket (s : RtpPublisherState) : Bytes × RtpPublisherState :=
  let pkt := rtpFixedHeader 0x90 opusPt s.audioSeq s.audioTs s.config.audioSsrc ++
    writeMidExtension s.config.midExtmapId s.config.audioMid ++ opusSilence
  (pkt,{ s with
    audioSeq := s.audioSeq + 1
    audioTs := s.audioTs + opusSamplesPerFrame })

def buildVp8Packet (s : RtpPublisherState) : Bytes × RtpPublisherState :=
  let forced := s.forceKeyframe
  let isKeyframe := forced || s.videoFrameCount % vp8KeyframeInterval == 0
  let payloadSize := if isKeyframe then vp8KeyframeSize else vp8PframeSize
  let b1 := if isKeyframe then s.config.videoPt ||| 0x80 else s.config.videoPt
  let pkt := rtpFixedHeader 0x90 b1 s.videoSeq s.videoTs s.config.videoSsrc ++
    writeMidExtension s.config.midExtmapId s.config.videoMid ++
    -- payload descriptor with S=1, then the frame type in the first payload byte
    [0x10,if isKeyframe then 0x10 else 0x11] ++ List.replicate (payloadSize-1) 0
  (pkt,{ s with
    forceKeyframe := false
    videoSeq := s.videoSeq + 1
    videoTs := s.videoTs + vp8TicksPerFrame
    videoFrameCount := s.videoFrameCount + 1 })

def nextIsKeyframe (s : RtpPublisherState) : Bool :=
  s.forceKeyframe || s.videoFrameCount % vp8KeyframeInterval == 0

end RtpPublisherState

theorem rtpFixedHeader_length (b0 b1 : UInt8) (seq : UInt16) (ts ssrc : UInt32) :
    (rtpFixedHeader b0 b1 seq ts ssrc).length = 12 := by
  simp only [rtpFixedHeader,u16Bytes,u32Bytes,List.length_append,Library.BigEndian.encode_length,
    List.length_cons,List.length_nil]

theorem writeMidExtension_length (midExtmapId : UInt8) (mid : String) :
    (writeMidExtension midExtmapId mid).length = 4 + midExtensionWords mid*4 := by
  simp only [writeMidExtension,midExtensionWords,u16Bytes,List.length_append,List.length_cons,
    List.length_nil,List.length_replicate,Library.BigEndian.encode_length]
  omega

def payloadStart (mid : String) : Nat := 16 + midExtensionWords mid*4

def vp8Payload (isKeyframe : Bool) : Bytes :=
  [0x10,if isKeyframe then 0x10 else 0x11] ++
    List.replicate ((if isKeyframe then vp8KeyframeSize else vp8PframeSize) - 1) 0

theorem byteAt_vp8Payload (isKeyframe : Bool) :
    byteAt (vp8Payload isKeyframe) 1 = if isKeyframe then 0x10 else 0x11 := rfl

theorem vp8Payload_inj {left right : Bool} : vp8Payload left = vp8Payload right ↔ left = right := by
  constructor
  · intro same
    have frameType := congrArg (byteAt · 1) same
    simp only [byteAt_vp8Payload] at frameType
    revert frameType
    cases left <;> cases right <;> decide
  · exact congrArg vp8Payload

theorem buildVp8Packet_layout (s : RtpPublisherState) : s.buildVp8Packet.1 =
    rtpFixedHeader 0x90 (if s.nextIsKeyframe then s.config.videoPt ||| 0x80 else s.config.videoPt)
      s.videoSeq s.videoTs s.config.videoSsrc ++
    writeMidExtension s.config.midExtmapId s.config.videoMid ++ vp8Payload s.nextIsKeyframe := by
  simp only [RtpPublisherState.buildVp8Packet,vp8Payload,List.append_assoc]
  rfl

theorem buildVp8Packet_payload (s : RtpPublisherState) :
    s.buildVp8Packet.1.drop (payloadStart s.config.videoMid) = vp8Payload s.nextIsKeyframe := by
  rw [buildVp8Packet_layout]
  apply List.drop_left'
  rw [List.length_append,rtpFixedHeader_length,writeMidExtension_length,payloadStart]
  omega

/-- One media stream of a publisher; each has a publisher state of its own, as
the send loops do. -/
inductive MediaKind
  | audio
  | video
  deriving DecidableEq

instance : Fintype MediaKind := ⟨{.audio,.video},by intro kind; cases kind <;> simp⟩

/-- A publisher and, for each frame, whether the PLI listener raised the
keyframe flag since the frame before it. -/
structure Publisher where
  config : RtpPublisherConfig
  pli : Nat → Bool

namespace Publisher

def ssrc (p : Publisher) : MediaKind → UInt32
  | .audio => p.config.audioSsrc
  | .video => p.config.videoSsrc

def call (p : Publisher) (kind : MediaKind) (k : Nat) (s : RtpPublisherState) :
    Bytes × RtpPublisherState :=
  match kind with
  | .audio => s.buildOpusPacket
  | .video => { s with forceKeyframe := s.forceKeyframe || p.pli k }.buildVp8Packet

def state (p : Publisher) (kind : MediaKind) : Nat → RtpPublisherState
  | 0 => .new p.config
  | k+1 => (p.call kind k (p.state kind k)).2

def packet (p : Publisher) (kind : MediaKind) (k : Nat) : Bytes :=
  (p.call kind k (p.state kind k)).1

def seqOf (kind : MediaKind) (s : RtpPublisherState) : UInt16 :=
  match kind with
  | .audio => s.audioSeq
  | .video => s.videoSeq

theorem state_config (p : Publisher) (kind : MediaKind) (k : Nat) :
    (p.state kind k).config = p.config := by
  induction k with
  | zero => rfl
  | succ k ih => cases kind <;> exact ih

theorem state_seq (p : Publisher) (kind : MediaKind) (k : Nat) :
    seqOf kind (p.state kind k) = UInt16.ofNat k := by
  induction k with
  | zero => cases kind <;> rfl
  | succ k ih =>
    have next : seqOf kind (p.state kind (k+1)) = seqOf kind (p.state kind k) + 1 := by
      cases kind <;> rfl
    rw [next,ih,UInt16.ofNat_add]
    rfl

end Publisher

theorem parse_fixedHeader (b0 b1 : UInt8) (seq : UInt16) (ts ssrc : UInt32) (rest : Bytes) :
    RtpSubscriber.parseRtpMini (rtpFixedHeader b0 b1 seq ts ssrc ++ rest) =
      some ⟨b1 &&& 0x7F,seq,ts,ssrc,b1 &&& 0x80 ≠ 0⟩ := by
  have sized : ¬(rtpFixedHeader b0 b1 seq ts ssrc ++ rest).length < 12 := by
    simp only [rtpFixedHeader,u16Bytes,u32Bytes,List.length_append,
      Library.BigEndian.encode_length,List.length_cons,List.length_nil]
    omega
  have seqRead := u16At_append [b0,b1] seq (u32Bytes ts ++ u32Bytes ssrc ++ rest)
  have tsRead := u32At_append ([b0,b1] ++ u16Bytes seq) ts (u32Bytes ssrc ++ rest)
  have ssrcRead := u32At_append ([b0,b1] ++ u16Bytes seq ++ u32Bytes ts) ssrc rest
  simp only [List.length_append,u16Bytes,u32Bytes,Library.BigEndian.encode_length,
    List.length_cons,List.length_nil,List.append_assoc] at seqRead tsRead ssrcRead
  simp only [RtpSubscriber.parseRtpMini,sized,if_false]
  simp only [rtpFixedHeader,u16Bytes,u32Bytes,List.append_assoc,seqRead,tsRead,ssrcRead]
  rfl

theorem packet_header (p : Publisher) (kind : MediaKind) (k : Nat) :
    ∃ b0 b1 ts rest,
      p.packet kind k = rtpFixedHeader b0 b1 (UInt16.ofNat k) ts (p.ssrc kind) ++ rest := by
  have seq := p.state_seq kind k
  have config := p.state_config kind k
  rw [← seq]
  cases kind with
  | audio =>
    simp only [Publisher.ssrc,← config,Publisher.packet,Publisher.call,
      RtpPublisherState.buildOpusPacket,List.append_assoc]
    exact ⟨_,_,_,_,rfl⟩
  | video =>
    simp only [Publisher.ssrc,← config,Publisher.packet,Publisher.call,
      RtpPublisherState.buildVp8Packet,List.append_assoc]
    exact ⟨_,_,_,_,rfl⟩

theorem parse_packet (p : Publisher) (kind : MediaKind) (k : Nat) :
    ∃ header, RtpSubscriber.parseRtpMini (p.packet kind k) = some header ∧
      header.seq = UInt16.ofNat k ∧ header.ssrc = p.ssrc kind := by
  obtain ⟨b0,b1,ts,rest,layout⟩ := packet_header p kind k
  exact ⟨_,layout ▸ parse_fixedHeader b0 b1 (UInt16.ofNat k) ts (p.ssrc kind) rest,rfl,rfl⟩

end Oxlab.Bot.RtpPublisher
