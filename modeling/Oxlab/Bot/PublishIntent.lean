import Oxlab.Bot.RtpPublisher

/-! The PUBLISH_TRACKS intent: the JSON that declares the tracks of a publisher, and the
room that every routed request is given. A JSON value is a tree; its text is third-party. -/
namespace Oxlab.Bot.PublishIntent
open Common.Media RtpPublisher

inductive Json
  | null
  | bool (value : Bool)
  | num (value : Nat)
  | str (value : String)
  | arr (items : List Json)
  | obj (fields : List (String × Json))

namespace Json

/-- Null where there is no such field. -/
def index (d : Json) (key : String) : Json :=
  match d with
  | .obj fields => (fields.lookup key).getD .null
  | _ => .null

def asStr : Json → Option String
  | .str value => some value
  | _ => none

def asNum : Json → Option Nat
  | .num value => some value
  | _ => none

def asArr : Json → Option (List Json)
  | .arr items => some items
  | _ => none

end Json

def ridExtmapId : UInt8 := 4

def u8 (value : UInt8) : Json := .num value.toNat

def u32 (value : UInt32) : Json := .num value.toNat

def buildPublishIntentJson (config : RtpPublisherConfig) (duplex : String) : Json :=
  let rtxPt := config.videoPt + 1
  .obj [
    ("action",.str "add"),
    ("mid_extmap_id",u8 config.midExtmapId),
    ("rid_extmap_id",u8 ridExtmapId),
    ("video_pt",u8 config.videoPt),
    ("rtx_pt",u8 rtxPt),
    ("tracks",.arr [
      .obj [
        ("kind",.str "audio"),
        ("mid",.str config.audioMid),
        ("ssrc",u32 config.audioSsrc),
        ("duplex",.str duplex)],
      .obj [
        ("kind",.str "video"),
        ("mid",.str config.videoMid),
        ("ssrc",u32 config.videoSsrc),
        ("source",.str "camera"),
        ("codec",.str "VP8"),
        ("pt",u8 config.videoPt),
        ("rtx_pt",u8 rtxPt),
        ("duplex",.str duplex),
        ("simulcast",.bool false)]])]

/-- The body that `request_routed` sends: a room is put in where there is none. -/
def routed (roomId : String) (d : Json) : Json :=
  match d with
  | .obj fields =>
    if (fields.lookup "room_id").isSome then d else .obj (fields ++ [("room_id",.str roomId)])
  | d => d

/-- The body of `publish_intent` for a bot of a mode in a room. -/
def publishIntent (config : RtpPublisherConfig) (mode roomId : String) : Json :=
  let duplex := if mode = "ptt" then "half" else "full"
  routed roomId (buildPublishIntentJson config duplex)

end Oxlab.Bot.PublishIntent
