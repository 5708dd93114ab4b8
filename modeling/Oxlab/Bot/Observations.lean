import Mathlib.Data.Finset.Insert
import Oxlab.Common.Media

/-! What one bot observes for the Layer 1 checkpoints, and the calls that record
it. The store is behind a lock, so each call is one update; counters are natural
numbers, the sets of SSRCs are finite sets. -/
namespace Oxlab.Bot.Observations
open Common.Media

structure SrRecord where
  ssrc : UInt32
  ntpSec : UInt32
  ntpFrac : UInt32
  rtpTs : UInt32
  packetCount : UInt32
  octetCount : UInt32
  deriving DecidableEq

structure FloorGrantRecord where
  botId : String
  priority : UInt8
  granted : Bool
  queued : Bool
  timestampMs : Nat
  deriving DecidableEq

structure TsGapRecord where
  ssrc : UInt32
  wallGapMs : Nat
  rtpTsGap : UInt32
  sampleRate : UInt32
  deriving DecidableEq

structure LayerSwitchEvent where
  requestedLayer : String
  requestTimestampMs : Nat
  keyframeAfterMs : Option Nat
  tsBefore : Option UInt32
  tsAfter : Option UInt32
  packetsAfter : Bool
  deriving DecidableEq

structure ObservationsInner where
  srReceived : List SrRecord := []
  pttNonSpeakerRtpCount : Nat := 0
  pttSilenceFramesAfterRelease : Nat := 0
  pttFirstVideoWasKeyframe : Option Bool := none
  pttAudioSsrcs : Finset UInt32 := ∅
  pttVideoSsrcs : Finset UInt32 := ∅
  videoBeforeAckCount : Nat := 0
  tracksAckSent : Bool := false
  floorRevokeReceived : Bool := false
  pttTsGapRecords : List TsGapRecord := []
  simulcastLayerSwitches : List LayerSwitchEvent := []
  rrSenderSsrcs : Finset UInt32 := ∅
  rrReceivedCount : Nat := 0
  pliReceivedCount : Nat := 0
  pliToKeyframeMs : List Nat := []
  floorGrants : List FloorGrantRecord := []
  queuePositions : List UInt32 := []
  zombieCleanupDetected : List String := []
  screenShareSsrcPublished : Option UInt32 := none
  screenShareSsrcsReceived : Finset UInt32 := ∅

namespace ObservationsInner
variable (obs : ObservationsInner)

def recordRr (senderSsrc : UInt32) : ObservationsInner :=
  { obs with
    rrSenderSsrcs := insert senderSsrc obs.rrSenderSsrcs
    rrReceivedCount := obs.rrReceivedCount + 1 }

def recordSr (r : SrRecord) : ObservationsInner := { obs with srReceived := obs.srReceived ++ [r] }

def recordPttNonSpeakerRtp : ObservationsInner :=
  { obs with pttNonSpeakerRtpCount := obs.pttNonSpeakerRtpCount + 1 }

def recordPttSilenceFrame : ObservationsInner :=
  { obs with pttSilenceFramesAfterRelease := obs.pttSilenceFramesAfterRelease + 1 }

def recordPttFirstVideoKeyframe (isKeyframe : Bool) : ObservationsInner :=
  if obs.pttFirstVideoWasKeyframe.isNone then
    { obs with pttFirstVideoWasKeyframe := some isKeyframe }
  else obs

def recordPttAudioSsrc (ssrc : UInt32) : ObservationsInner :=
  { obs with pttAudioSsrcs := insert ssrc obs.pttAudioSsrcs }

def recordPttVideoSsrc (ssrc : UInt32) : ObservationsInner :=
  { obs with pttVideoSsrcs := insert ssrc obs.pttVideoSsrcs }

def recordPli : ObservationsInner := { obs with pliReceivedCount := obs.pliReceivedCount + 1 }

def recordVideoBeforeAck : ObservationsInner :=
  { obs with videoBeforeAckCount := obs.videoBeforeAckCount + 1 }

def markTracksAckSent : ObservationsInner := { obs with tracksAckSent := true }

def recordFloorRevoke : ObservationsInner := { obs with floorRevokeReceived := true }

def recordZombieCleanup (userId : String) : ObservationsInner :=
  { obs with zombieCleanupDetected := obs.zombieCleanupDetected ++ [userId] }

def recordTsGap (r : TsGapRecord) : ObservationsInner :=
  { obs with pttTsGapRecords := obs.pttTsGapRecords ++ [r] }

def recordLayerSwitch (event : LayerSwitchEvent) : ObservationsInner :=
  { obs with simulcastLayerSwitches := obs.simulcastLayerSwitches ++ [event] }

end ObservationsInner
end Oxlab.Bot.Observations
