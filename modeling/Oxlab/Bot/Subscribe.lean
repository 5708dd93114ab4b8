import Oxlab.Bot.RtpSubscriber
import Oxlab.Bot.RtcpParser

/-! The subscribe receive task of a bot: demultiplexing, metrics and the Layer 1
observations. One clock reading serves a whole packet. -/
namespace Oxlab.Bot.Subscribe
open Common.Media Observations RtcpParser RtpSubscriber Library

/-- Flags shared between the receive task and the event handler. -/
structure SharedFloorState where
  -- true = nobody talking
  floorIdle : Bool := true
  -- true after speaker change, reset by the first video packet
  speakerJustChanged : Bool := false
  -- true after floor release, reset on next FLOOR_TAKEN
  floorJustReleased : Bool := false
  -- ACK sent flag for the receive task
  ackSent : Bool := false
  deriving DecidableEq

structure PendingLayerSwitch where
  requestedLayer : String
  requestTime : Instant
  tsBefore : Option UInt32
  done : Bool

structure RtpFields where
  seq : UInt16
  ts : UInt32
  ssrc : UInt32
  rtpPt : UInt8

def rtpFields (plaintext : Bytes) : RtpFields where
  seq := u16At plaintext 2
  ts := u32At plaintext 4
  ssrc := u32At plaintext 8
  rtpPt := byteAt plaintext 1 &&& 0x7F

/-- Opus silence: PT 111 with at most three bytes after the fixed header. -/
def isSilence (plaintext : Bytes) : Bool :=
  (rtpFields plaintext).rtpPt == 111 && 12 ≤ plaintext.length && plaintext.length - 12 ≤ 3

def isVideo (plaintext : Bytes) : Bool := (rtpFields plaintext).rtpPt != 111

def isVideoPacket (plaintext : Bytes) : Bool := !(plaintext.length < 12) && isVideo plaintext

section observe
variable (obs : ObservationsInner) (ptt : Bool) (floor : SharedFloorState) (plaintext : Bytes)

-- L1-07
def trackSsrc : ObservationsInner :=
  let f := rtpFields plaintext
  if f.rtpPt = 111 then obs.recordPttAudioSsrc f.ssrc else obs.recordPttVideoSsrc f.ssrc

-- L1-04
def observeGating : ObservationsInner :=
  if ptt && floor.floorIdle then obs.recordPttNonSpeakerRtp else obs

-- L1-05
def observeSilence : ObservationsInner :=
  if ptt && floor.floorJustReleased && isSilence plaintext then obs.recordPttSilenceFrame else obs

-- L1-06
def observeFirstVideo : ObservationsInner :=
  if ptt && isVideo plaintext && floor.speakerJustChanged then
    obs.recordPttFirstVideoKeyframe (detectVp8Keyframe plaintext)
  else obs

-- The swap of L1-06, reached by video packets only.
def swapSpeakerJustChanged : SharedFloorState :=
  if ptt && isVideo plaintext then { floor with speakerJustChanged := false } else floor

-- L1-11
def observeBeforeAck : ObservationsInner :=
  if isVideo plaintext && !floor.ackSent then obs.recordVideoBeforeAck else obs

abbrev SsrcLast := Table UInt32 (Instant × UInt32)

variable (ssrcLast : SsrcLast) (now : Instant)

-- L1-08
def observeTsGap : ObservationsInner :=
  let f := rtpFields plaintext
  match ssrcLast.lookup f.ssrc with
  | none => obs
  | some (prevTime,prevTs) =>
    let wallGapMs := millisSince now prevTime
    if ptt && 1000 < wallGapMs then
      let sampleRate := if f.rtpPt = 111 then 48000 else 90000
      obs.recordTsGap ⟨f.ssrc,wallGapMs,f.ts - prevTs,sampleRate⟩
    else obs

variable (order : Table.Order UInt32 (Instant × UInt32))

/-- A pending switch once the first video packet after it is there. The timestamp
before it is that of whichever SSRC the map enumerates first. -/
def settleSwitch (sw : PendingLayerSwitch) : PendingLayerSwitch :=
  { sw with
    tsBefore := sw.tsBefore.or ((order.values ssrcLast).map Prod.snd).head?
    done := true }

-- L1-18..20
def observeLayerSwitch (pending : Option PendingLayerSwitch) : ObservationsInner :=
  match pending with
  | none => obs
  | some sw =>
    if isVideo plaintext && !sw.done then
      let elapsed := millisSince now sw.requestTime
      obs.recordLayerSwitch
        { requestedLayer := sw.requestedLayer
          requestTimestampMs := elapsed
          keyframeAfterMs := if detectVp8Keyframe plaintext then some elapsed else none
          tsBefore := (settleSwitch ssrcLast order sw).tsBefore
          tsAfter := some (rtpFields plaintext).ts
          packetsAfter := true }
    else obs

end observe

/-- What the receive task reads and writes, apart from its SRTP context. -/
structure SubTask where
  mode : String
  recvMetrics : RecvMetricsStore := ∅
  observations : ObservationsInner := {}
  floorState : SharedFloorState := {}
  pendingLayerSwitch : Option PendingLayerSwitch := none
  ssrcLast : SsrcLast := ∅
  ssrcOrder : Table.Order UInt32 (Instant × UInt32) := default

namespace SubTask

def ptt (task : SubTask) : Bool := task.mode == "ptt"

/-- The RTP branch of the receive loop, from the decrypted packet on. -/
def onRtp (task : SubTask) (now : Instant) (plaintext : Bytes) : SubTask :=
  if plaintext.length < 12 then task
  else
    let f := rtpFields plaintext
    let floor := task.floorState
    let obs := trackSsrc task.observations plaintext
    let obs := observeGating obs task.ptt floor
    let obs := observeSilence obs task.ptt floor plaintext
    let obs := observeFirstVideo obs task.ptt floor plaintext
    let obs := observeBeforeAck obs floor plaintext
    let obs := observeTsGap obs task.ptt plaintext task.ssrcLast now
    -- the switch is judged after the packet's own timestamp is noted
    let ssrcLast := task.ssrcLast.insert f.ssrc (now,f.ts)
    { task with
      recvMetrics := task.recvMetrics.update now f.ssrc f.rtpPt f.seq f.ts
      floorState := swapSpeakerJustChanged task.ptt floor plaintext
      ssrcLast := ssrcLast
      observations :=
        observeLayerSwitch obs plaintext ssrcLast now task.ssrcOrder task.pendingLayerSwitch
      pendingLayerSwitch := task.pendingLayerSwitch.map (fun sw =>
        if isVideo plaintext && !sw.done then settleSwitch ssrcLast task.ssrcOrder sw else sw) }

/-- What `subscribe_layer` leaves for the receive task, on a bot with a session. -/
def subscribeLayer (task : SubTask) (now : Instant) (layer : String) : SubTask :=
  { task with pendingLayerSwitch := some ⟨layer,now,none,false⟩ }

end SubTask

def onDatagram (srtp : SrtpCtx) (state : srtp.Ctx × SubTask) (now : Instant) (buf : Bytes) :
    srtp.Ctx × SubTask :=
  if buf.length < 12 then state
  else
    let pt := byteAt buf 1 &&& 0x7F
    if isRtp (byteAt buf 0) && !(72 ≤ pt && pt ≤ 79) then
      match srtp.decryptRtp state.1 buf with
      | (none,ctx) => (ctx,state.2)
      | (some plaintext,ctx) => (ctx,state.2.onRtp now plaintext)
    else
      match srtp.decryptRtcp state.1 buf with
      | (none,ctx) => (ctx,state.2)
      | (some plaintext,ctx) =>
        (ctx,{ state.2 with observations := parseRtcpForSr plaintext state.2.observations })

/-- The part of the observations that the PTT and gate checks read. -/
structure Tally where
  nonSpeakerRtp : Nat
  silenceFrames : Nat
  firstVideoWasKeyframe : Option Bool
  videoBeforeAck : Nat
  tracksAckSent : Bool

def tally (obs : ObservationsInner) : Tally where
  nonSpeakerRtp := obs.pttNonSpeakerRtpCount
  silenceFrames := obs.pttSilenceFramesAfterRelease
  firstVideoWasKeyframe := obs.pttFirstVideoWasKeyframe
  videoBeforeAck := obs.videoBeforeAckCount
  tracksAckSent := obs.tracksAckSent

section tally
variable (obs : ObservationsInner) (ptt : Bool) (floor : SharedFloorState) (plaintext : Bytes)
  (ssrcLast : SsrcLast) (now : Instant)

@[simp] theorem tally_trackSsrc : tally (trackSsrc obs plaintext) = tally obs := by
  simp only [trackSsrc]
  split <;> rfl

@[simp] theorem tally_observeGating : tally (observeGating obs ptt floor) =
    { tally obs with nonSpeakerRtp := (tally obs).nonSpeakerRtp +
        if ptt && floor.floorIdle then 1 else 0 } := by
  unfold observeGating
  split <;> rfl

@[simp] theorem tally_observeSilence : tally (observeSilence obs ptt floor plaintext) =
    { tally obs with silenceFrames := (tally obs).silenceFrames +
        if ptt && floor.floorJustReleased && isSilence plaintext then 1 else 0 } := by
  unfold observeSilence
  split <;> rfl

theorem tally_recordFirstVideo (keyframe : Bool) :
    tally (obs.recordPttFirstVideoKeyframe keyframe) =
      { tally obs with firstVideoWasKeyframe :=
          (tally obs).firstVideoWasKeyframe.or (some keyframe) } := by
  cases known : obs.pttFirstVideoWasKeyframe with
  | none => simp [ObservationsInner.recordPttFirstVideoKeyframe,tally,known]
  | some first => simp [ObservationsInner.recordPttFirstVideoKeyframe,tally,known]

@[simp] theorem tally_observeFirstVideo : tally (observeFirstVideo obs ptt floor plaintext) =
    { tally obs with firstVideoWasKeyframe :=
        if ptt && isVideo plaintext && floor.speakerJustChanged then
          (tally obs).firstVideoWasKeyframe.or (some (detectVp8Keyframe plaintext))
        else (tally obs).firstVideoWasKeyframe } := by
  unfold observeFirstVideo
  split
  next => exact tally_recordFirstVideo obs _
  next => rfl

@[simp] theorem tally_observeBeforeAck : tally (observeBeforeAck obs floor plaintext) =
    { tally obs with videoBeforeAck := (tally obs).videoBeforeAck +
        if (isVideo plaintext && !floor.ackSent) then 1 else 0 } := by
  unfold observeBeforeAck
  split <;> rfl

@[simp] theorem tally_observeTsGap :
    tally (observeTsGap obs ptt plaintext ssrcLast now) = tally obs := by
  simp only [observeTsGap]
  split
  next => rfl
  next => split <;> rfl

@[simp] theorem tally_observeLayerSwitch (order : Table.Order UInt32 (Instant × UInt32))
    (pending : Option PendingLayerSwitch) :
    tally (observeLayerSwitch obs plaintext ssrcLast now order pending) = tally obs := by
  simp only [observeLayerSwitch]
  split
  next => rfl
  next => split <;> rfl

end tally

section onRtp
variable (task : SubTask) (now : Instant) (plaintext : Bytes)

@[simp] theorem onRtp_ptt : (task.onRtp now plaintext).ptt = task.ptt := by
  unfold SubTask.onRtp
  split <;> rfl

theorem onRtp_short (short : plaintext.length < 12) : task.onRtp now plaintext = task := by
  rw [SubTask.onRtp,if_pos short]

theorem onRtp_flags :
    (task.onRtp now plaintext).floorState.floorIdle = task.floorState.floorIdle ∧
      (task.onRtp now plaintext).floorState.floorJustReleased = task.floorState.floorJustReleased ∧
      (task.onRtp now plaintext).floorState.ackSent = task.floorState.ackSent := by
  unfold SubTask.onRtp
  split
  next => exact ⟨rfl,rfl,rfl⟩
  next =>
    simp only [swapSpeakerJustChanged]
    split <;> exact ⟨rfl,rfl,rfl⟩

variable {plaintext}

theorem onRtp_tally (whole : ¬plaintext.length < 12) :
    tally (task.onRtp now plaintext).observations =
      { nonSpeakerRtp := (tally task.observations).nonSpeakerRtp +
          if task.ptt && task.floorState.floorIdle then 1 else 0
        silenceFrames := (tally task.observations).silenceFrames +
          if task.ptt && task.floorState.floorJustReleased && isSilence plaintext then 1 else 0
        firstVideoWasKeyframe :=
          if task.ptt && isVideo plaintext && task.floorState.speakerJustChanged then
            (tally task.observations).firstVideoWasKeyframe.or
              (some (detectVp8Keyframe plaintext))
          else (tally task.observations).firstVideoWasKeyframe
        videoBeforeAck := (tally task.observations).videoBeforeAck +
          if isVideo plaintext && !task.floorState.ackSent then 1 else 0
        tracksAckSent := (tally task.observations).tracksAckSent } := by
  simp only [SubTask.onRtp,whole,if_false,tally_observeLayerSwitch,tally_observeTsGap,
    tally_observeBeforeAck,tally_observeFirstVideo,tally_observeSilence,tally_observeGating,
    tally_trackSsrc]

theorem onRtp_floorState (whole : ¬plaintext.length < 12) :
    (task.onRtp now plaintext).floorState =
      swapSpeakerJustChanged task.ptt task.floorState plaintext := by
  simp only [SubTask.onRtp,whole,if_false]

theorem onRtp_recvMetrics (whole : ¬plaintext.length < 12) :
    (task.onRtp now plaintext).recvMetrics = task.recvMetrics.update now (u32At plaintext 8)
      (byteAt plaintext 1 &&& 0x7F) (u16At plaintext 2) (u32At plaintext 4) := by
  simp only [SubTask.onRtp,whole,if_false,rtpFields]

/-! The four figures, for a packet of any length. -/

variable (plaintext)

theorem onRtp_nonSpeakerRtp :
    (tally (task.onRtp now plaintext).observations).nonSpeakerRtp =
      (tally task.observations).nonSpeakerRtp +
        if 12 ≤ plaintext.length ∧ task.ptt ∧ task.floorState.floorIdle then 1 else 0 := by
  by_cases short : plaintext.length < 12
  · rw [onRtp_short task now plaintext short]
    simp [Nat.not_le.mpr short]
  · rw [onRtp_tally task now short]
    simp [Nat.not_lt.mp short]

theorem onRtp_silenceFrames :
    (tally (task.onRtp now plaintext).observations).silenceFrames =
      (tally task.observations).silenceFrames +
        if task.ptt ∧ task.floorState.floorJustReleased ∧ isSilence plaintext then 1 else 0 := by
  by_cases short : plaintext.length < 12
  · rw [onRtp_short task now plaintext short]
    simp [isSilence,Nat.not_le.mpr short]
  · rw [onRtp_tally task now short]
    simp [and_assoc]

theorem onRtp_firstVideo :
    (tally (task.onRtp now plaintext).observations).firstVideoWasKeyframe =
      if task.ptt ∧ isVideoPacket plaintext ∧ task.floorState.speakerJustChanged then
        (tally task.observations).firstVideoWasKeyframe.or (some (detectVp8Keyframe plaintext))
      else (tally task.observations).firstVideoWasKeyframe := by
  by_cases short : plaintext.length < 12
  · rw [onRtp_short task now plaintext short]
    simp [isVideoPacket,short]
  · rw [onRtp_tally task now short]
    simp [isVideoPacket,short,and_assoc]

theorem onRtp_speakerJustChanged :
    (task.onRtp now plaintext).floorState.speakerJustChanged =
      (task.floorState.speakerJustChanged && !(task.ptt && isVideoPacket plaintext)) := by
  by_cases short : plaintext.length < 12
  · rw [onRtp_short task now plaintext short]
    simp [isVideoPacket,short]
  · simp only [onRtp_floorState task now short,swapSpeakerJustChanged,isVideoPacket,short,
      decide_false,Bool.not_false,Bool.true_and]
    cases task.ptt && isVideo plaintext with
    | false => simp
    | true => simp

theorem onRtp_videoBeforeAck :
    (tally (task.onRtp now plaintext).observations).videoBeforeAck =
      (tally task.observations).videoBeforeAck +
        if isVideoPacket plaintext ∧ task.floorState.ackSent = false then 1 else 0 := by
  by_cases short : plaintext.length < 12
  · rw [onRtp_short task now plaintext short]
    simp [isVideoPacket,short]
  · rw [onRtp_tally task now short]
    simp [isVideoPacket,short]

end onRtp
end Oxlab.Bot.Subscribe
