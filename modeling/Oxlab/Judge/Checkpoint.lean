import Mathlib.Data.List.Nodup

/-! Checkpoint definitions and results of the Layer 1 judge, the registry of its
checks, and the categories that select from it. -/
namespace Oxlab.Judge

inductive Verdict
  | pass
  | fail
  deriving DecidableEq

inductive CheckpointCategory
  | rtcpTerminator
  | srTranslation
  | pttRelay
  | pliGovernor
  | subscriberGate
  | floorControl
  | coreRelay
  | simulcast
  | screenShare
  | lifecycle
  deriving DecidableEq

structure CheckpointDef where
  id : String
  name : String
  category : CheckpointCategory
  description : String

structure CheckpointResult where
  id : String
  name : String
  category : CheckpointCategory
  verdict : Verdict
  expected : String
  actual : String

namespace CheckpointResult

def passFromDef (d : CheckpointDef) (actual : String) : CheckpointResult :=
  ⟨d.id,d.name,d.category,.pass,d.description,actual⟩

def failFromDef (d : CheckpointDef) (actual : String) : CheckpointResult :=
  ⟨d.id,d.name,d.category,.fail,d.description,actual⟩

end CheckpointResult

namespace CheckpointDef

def l101 : CheckpointDef :=
  ⟨"L1-01","subscriber RR relay blocked",.rtcpTerminator,
    "subscriber의 RR이 publisher에게 릴레이되지 않아야 한다"⟩

def l102 : CheckpointDef :=
  ⟨"L1-02","SR NTP timestamp preserved",.srTranslation,
    "SR의 NTP timestamp은 publisher 원본 그대로 유지되어야 한다"⟩

def l103 : CheckpointDef :=
  ⟨"L1-03","SR RTP ts continuity",.srTranslation,
    "SR의 RTP timestamp은 구독 레이어 offset과 일관되어야 한다"⟩

def l104 : CheckpointDef :=
  ⟨"L1-04","PTT non-speaker RTP gating",.pttRelay,"비발화자의 RTP는 ingress에서 차단되어야 한다"⟩

def l105 : CheckpointDef :=
  ⟨"L1-05","PTT silence flush",.pttRelay,
    "clear_speaker 시 Opus silence 3프레임이 주입되어야 한다"⟩

def l106 : CheckpointDef :=
  ⟨"L1-06","PTT speaker switch keyframe first",.pttRelay,
    "화자 전환 후 첫 릴레이 패킷은 VP8 keyframe이어야 한다"⟩

def l107 : CheckpointDef :=
  ⟨"L1-07","SSRC rewriting consistency",.pttRelay,
    "virtual SSRC가 화자 전환 후에도 일관되어야 한다"⟩

def l108 : CheckpointDef :=
  ⟨"L1-08","ts_gap continuity after idle",.pttRelay,
    "idle 후 복귀 시 ts gap이 경과 시간을 반영해야 한다"⟩

def l109 : CheckpointDef :=
  ⟨"L1-09","PLI → keyframe response",.pliGovernor,
    "PLI 전송 후 제한 시간 내에 keyframe이 도착해야 한다"⟩

def l110 : CheckpointDef :=
  ⟨"L1-10","PLI burst auto-cancel on keyframe",.pliGovernor,
    "keyframe 도착 시 잔여 PLI burst가 취소되어야 한다"⟩

def l111 : CheckpointDef :=
  ⟨"L1-11","SubscriberGate blocks before ACK",.subscriberGate,
    "TRACKS_ACK 수신 전에는 video 패킷이 0개여야 한다"⟩

def l112 : CheckpointDef :=
  ⟨"L1-12","SubscriberGate GATE:PLI after ACK",.subscriberGate,
    "TRACKS_ACK 수신 후 GATE:PLI가 발사되어야 한다"⟩

def l113 : CheckpointDef :=
  ⟨"L1-13","fan-out integrity (pristine)",.coreRelay,
    "pristine 환경에서 전원 동일 seq 수신 (무손실 fan-out)"⟩

def l114 : CheckpointDef :=
  ⟨"L1-14","floor grant priority order",.floorControl,
    "floor_request는 priority 순으로 grant되어야 한다"⟩

def l115 : CheckpointDef :=
  ⟨"L1-15","preemption → revoke delivery",.floorControl,
    "preemption 발생 시 현 발화자에게 revoke가 도착해야 한다"⟩

def l116 : CheckpointDef :=
  ⟨"L1-16","queue position consistency",.floorControl,"큐 위치 응답이 실제 큐 순서와 일치해야 한다"⟩

def l117 : CheckpointDef :=
  ⟨"L1-17","zombie cleanup",.lifecycle,"비정상 종료 후 제한 시간 내에 cleanup되어야 한다"⟩

def l118 : CheckpointDef :=
  ⟨"L1-18","simulcast layer switch SSRC",.simulcast,
    "레이어 전환 시 새 레이어 SSRC로 전환되어야 한다"⟩

def l119 : CheckpointDef :=
  ⟨"L1-19","simulcast layer switch ts continuity",.simulcast,
    "레이어 전환 후 ts offset이 유지되어야 한다"⟩

def l120 : CheckpointDef :=
  ⟨"L1-20","simulcast layer switch keyframe first",.simulcast,
    "레이어 전환 시 I-frame이 선행해야 한다"⟩

def l121 : CheckpointDef :=
  ⟨"L1-21","screen share non-simulcast relay",.screenShare,
    "screen share는 원본 SSRC 유지 + non-simulcast relay"⟩

end CheckpointDef

open CheckpointDef in
def registry : List CheckpointDef :=
  [l101,l102,l103,l104,l105,l106,l107,l108,l109,l110,l111,l112,l113,l114,l115,l116,l117,l118,l119,
    l120,l121]

theorem registry_ids : (registry.map (·.id)).Nodup := by
  decide +kernel

def findByCategories (categories : List CheckpointCategory) : List CheckpointDef :=
  registry.filter (fun d => categories.contains d.category)

/-- The names a scenario can write, in any case. Only ASCII letters are folded: no
other letter has an ASCII one of these names as its lower case. -/
def CheckpointCategory.fromStrLoose (s : String) : Option CheckpointCategory :=
  match s.toLower with
  | "rtcp_terminator" | "rtcpterminator" => some .rtcpTerminator
  | "sr_translation" | "srtranslation" => some .srTranslation
  | "ptt_relay" | "pttrelay" => some .pttRelay
  | "pli_governor" | "pligovernor" => some .pliGovernor
  | "subscriber_gate" | "subscribergate" => some .subscriberGate
  | "floor_control" | "floorcontrol" => some .floorControl
  | "core_relay" | "corerelay" => some .coreRelay
  | "simulcast" => some .simulcast
  | "screen_share" | "screenshare" => some .screenShare
  | "lifecycle" => some .lifecycle
  | _ => none

end Oxlab.Judge
