import Oxlab.Bot.PublishIntent
import Oxlab.PacketRoundTrip
import Oxlab.SsrcAllocation

/-! The packets of a bot against the tracks it declares.
A reader of its own takes the intent apart and looks a packet up by its SSRC, by its MID
and by its payload type: each packet that a bot sends leads to one track, the same by all. -/
namespace Oxlab.StreamDiscovery
open Common.Media Bot.RtpPublisher Bot.RtpSubscriber Bot.RtcpParser Bot.PublishIntent Bot.Cap
  PacketRoundTrip SsrcAllocation

structure Track where
  kind : String
  mid : String
  ssrc : Nat
  duplex : String
  deriving DecidableEq

structure Intent where
  roomId : String
  midExtmapId : Nat
  videoPt : Nat
  rtxPt : Nat
  tracks : List Track

/-- A track without an SSRC is refused. -/
def readTrack (item : Json) : Option Track := do
  let kind ← (item.index "kind").asStr
  let mid ← (item.index "mid").asStr
  let ssrc ← (item.index "ssrc").asNum
  let duplex ← (item.index "duplex").asStr
  guard (ssrc ≠ 0)
  return ⟨kind,mid,ssrc,duplex⟩

def readIntent (body : Json) : Option Intent := do
  let action ← (body.index "action").asStr
  guard (action = "add")
  let roomId ← (body.index "room_id").asStr
  let midExtmapId ← (body.index "mid_extmap_id").asNum
  let videoPt ← (body.index "video_pt").asNum
  let rtxPt ← (body.index "rtx_pt").asNum
  let items ← (body.index "tracks").asArr
  let tracks ← items.mapM readTrack
  return ⟨roomId,midExtmapId,videoPt,rtxPt,tracks⟩

namespace Intent
variable (intent : Intent) (pkt : Bytes)

def bySsrc : List Track :=
  match parseRtpMini pkt with
  | none => []
  | some header => intent.tracks.filter (·.ssrc = header.ssrc.toNat)

def byMid : List Track :=
  match parseExtension pkt with
  | none => []
  | some (found,_) =>
    intent.tracks.filter (fun t => (UInt8.ofNat intent.midExtmapId,strBytes t.mid) ∈ found)

/-- The kind that the payload type stands for; 111 is Opus for everybody. -/
def byPt : Option String :=
  (parseRtpMini pkt).bind (fun header =>
    if header.pt.toNat = intent.videoPt then some "video"
    else if header.pt.toNat = intent.rtxPt then some "rtx"
    else if header.pt = opusPt then some "audio"
    else none)

end Intent

/-- One track, however it is looked for. -/
structure Declared (intent : Intent) (track : Track) (pkt : Bytes) : Prop where
  ssrc : intent.bySsrc pkt = [track]
  mid : intent.byMid pkt = [track]
  kind : intent.byPt pkt = some track.kind

def duplexOf (mode : String) : String := if mode = "ptt" then "half" else "full"

def audioTrack (config : RtpPublisherConfig) (mode : String) : Track :=
  ⟨"audio",config.audioMid,config.audioSsrc.toNat,duplexOf mode⟩

def videoTrack (config : RtpPublisherConfig) (mode : String) : Track :=
  ⟨"video",config.videoMid,config.videoSsrc.toNat,duplexOf mode⟩

def intentOf (config : RtpPublisherConfig) (mode roomId : String) : Intent :=
  ⟨roomId,config.midExtmapId.toNat,config.videoPt.toNat,(config.videoPt + 1).toNat,
    [audioTrack config mode,videoTrack config mode]⟩

/-- What keeps the two tracks of a publisher apart. -/
structure Apart (config : RtpPublisherConfig) : Prop extends Valid config where
  audio : config.audioSsrc.toNat ≠ 0
  video : config.videoSsrc.toNat ≠ 0
  ssrcs : config.audioSsrc ≠ config.videoSsrc
  mids : strBytes config.audioMid ≠ strBytes config.videoMid
  opus : config.videoPt ≠ opusPt ∧ config.videoPt + 1 ≠ opusPt

section config
variable {config : RtpPublisherConfig} (mode roomId : String)

theorem declared_of_reads {pkt payload : Bytes} {header : RtpMini} {mid : String} {track : Track}
    (reads : ReadsBack pkt header config.midExtmapId mid payload)
    (ssrc : (intentOf config mode roomId).tracks.filter (·.ssrc = header.ssrc.toNat) = [track])
    (named : (intentOf config mode roomId).tracks.filter (fun t => strBytes t.mid = strBytes mid) =
      [track])
    (kind : (intentOf config mode roomId).byPt pkt = some track.kind) :
    Declared (intentOf config mode roomId) track pkt := by
  refine ⟨?_,?_,kind⟩
  · rw [Intent.bySsrc,reads.mini]
    exact ssrc
  · have id : UInt8.ofNat (intentOf config mode roomId).midExtmapId = config.midExtmapId :=
      UInt8.ofNat_toNat
    rw [Intent.byMid,reads.extension]
    simp only [id,List.mem_singleton,Prod.mk.injEq,true_and]
    exact named

variable (apart : Apart config)
include apart

theorem readIntent_publish :
    readIntent (publishIntent config mode roomId) = some (intentOf config mode roomId) := by
  have audio : readTrack (.obj [("kind",.str "audio"),("mid",.str config.audioMid),
      ("ssrc",u32 config.audioSsrc),("duplex",.str (duplexOf mode))]) =
      some (audioTrack config mode) := by
    simp [readTrack,Json.index,Json.asStr,Json.asNum,List.lookup_cons,u32,apart.audio,audioTrack,guard]
  have video : readTrack (.obj [("kind",.str "video"),("mid",.str config.videoMid),
      ("ssrc",u32 config.videoSsrc),("source",.str "camera"),("codec",.str "VP8"),
      ("pt",u8 config.videoPt),("rtx_pt",u8 (config.videoPt + 1)),("duplex",.str (duplexOf mode)),
      ("simulcast",.bool false)]) = some (videoTrack config mode) := by
    simp [readTrack,Json.index,Json.asStr,Json.asNum,List.lookup_cons,u32,apart.video,videoTrack,guard]
  have routes : publishIntent config mode roomId = .obj [
      ("action",.str "add"),
      ("mid_extmap_id",u8 config.midExtmapId),
      ("rid_extmap_id",u8 ridExtmapId),
      ("video_pt",u8 config.videoPt),
      ("rtx_pt",u8 (config.videoPt + 1)),
      ("tracks",(buildPublishIntentJson config (duplexOf mode)).index "tracks"),
      ("room_id",.str roomId)] := rfl
  have tracks : ((buildPublishIntentJson config (duplexOf mode)).index "tracks").asArr.bind
      (fun items => items.mapM readTrack) = some [audioTrack config mode,videoTrack config mode] := by
    simp [buildPublishIntentJson,Json.index,Json.asArr,List.lookup_cons,audio,video]
  obtain ⟨items,listed,read⟩ := Option.bind_eq_some_iff.mp tracks
  have index (key : String) (fields : List (String × Json)) :
      (Json.obj fields).index key = (fields.lookup key).getD .null := rfl
  rw [routes]
  simp [readIntent,index,Json.asStr,Json.asNum,List.lookup_cons,u8,guard,intentOf,listed,read]

theorem declared_audio {pkt payload : Bytes} {seq : UInt16} {ts : UInt32} {marker : Bool}
    (reads : ReadsBack pkt ⟨opusPt,seq,ts,config.audioSsrc,marker⟩ config.midExtmapId
      config.audioMid payload) :
    Declared (intentOf config mode roomId) (audioTrack config mode) pkt := by
  apply declared_of_reads mode roomId reads
  · have other : config.videoSsrc.toNat ≠ config.audioSsrc.toNat := by
      intro same
      exact apart.ssrcs (UInt32.toNat_inj.mp same.symm)
    simp [intentOf,audioTrack,videoTrack,other]
  · simp [intentOf,audioTrack,videoTrack,apart.mids.symm]
  · have video : opusPt.toNat ≠ config.videoPt.toNat := by
      intro same
      exact apart.opus.1 (UInt8.toNat_inj.mp same.symm)
    have rtx : opusPt.toNat ≠ (config.videoPt + 1).toNat := by
      intro same
      exact apart.opus.2 (UInt8.toNat_inj.mp same.symm)
    simp only [Intent.byPt,reads.mini,Option.bind_some,intentOf,if_neg video,if_neg rtx]
    rfl

theorem declared_video {pkt payload : Bytes} {v : Nat} {key : Bool}
    (reads : ReadsBack pkt (videoHeader config v key) config.midExtmapId config.videoMid payload) :
    Declared (intentOf config mode roomId) (videoTrack config mode) pkt := by
  apply declared_of_reads mode roomId reads
  · have other : config.audioSsrc.toNat ≠ config.videoSsrc.toNat := by
      intro same
      exact apart.ssrcs (UInt32.toNat_inj.mp same)
    simp [intentOf,audioTrack,videoTrack,videoHeader,other]
  · simp [intentOf,audioTrack,videoTrack,apart.mids]
  · simp [Intent.byPt,reads.mini,intentOf,videoHeader,videoTrack]

end config

section bots
variable (id : String)

theorem bot_apart : Apart (botRtpConfig id) := by
  have audio : (botRtpConfig id).audioSsrc.toNat = 2^28*10 + (simpleHash id).toNat % 2^24 :=
    audioSsrc_toNat id
  have video : (botRtpConfig id).videoSsrc.toNat = 2^28*11 + (simpleHash id).toNat % 2^24 :=
    videoSsrc_toNat id
  -- but for the SSRCs a bot's configuration is the default one
  have plain : Valid ({} : RtpPublisherConfig) := ⟨by decide,by decide,by decide,by decide⟩
  have mids : strBytes ({} : RtpPublisherConfig).audioMid ≠
      strBytes ({} : RtpPublisherConfig).videoMid := by decide
  have opus : ({} : RtpPublisherConfig).videoPt ≠ opusPt ∧
      ({} : RtpPublisherConfig).videoPt + 1 ≠ opusPt := by decide
  refine ⟨⟨plain.audioMid,plain.videoMid,plain.midExtmapId,plain.videoPt⟩,by omega,by omega,?_,mids,opus⟩
  intro same
  rw [same] at audio
  omega

/-- Whatever a bot's id, mode and room: the server reads its intent back with a track of each
kind, and every packet that it ever sends, also a video packet with a send time in it,
belongs to one of them by its SSRC, by its MID and by its payload type alike. -/
theorem packets_declared (mode roomId : String) (calls : List Call) (now : UInt64) :
    let config := botRtpConfig id
    let s := reached config calls
    ∃ intent, readIntent (publishIntent config mode roomId) = some intent ∧ intent.roomId = roomId ∧
      intent.tracks = [audioTrack config mode,videoTrack config mode] ∧
      Declared intent (audioTrack config mode) s.buildOpusPacket.1 ∧
      Declared intent (videoTrack config mode) s.buildVp8Packet.1 ∧
      Declared intent (videoTrack config mode) (embedSendTs now s.buildVp8Packet.1) := by
  intro config s
  have apart : Apart config := bot_apart id
  have counted := reached_counted config calls
  refine ⟨intentOf config mode roomId,readIntent_publish mode roomId apart,rfl,rfl,?_,?_,?_⟩
  · exact declared_audio mode roomId apart (audio_packet apart.toValid counted)
  · exact declared_video mode roomId apart (video_packet apart.toValid counted).1
  · exact declared_video mode roomId apart (sent_packet apart.toValid counted now).1

end bots
end Oxlab.StreamDiscovery
