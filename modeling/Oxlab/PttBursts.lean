import Oxlab.Bot.Floor
import Oxlab.Scenario.CheckpointEval

/-! Talk bursts as the PTT checks see them.
The silence count is cumulative and the keyframe record is written once, so each
check speaks for one release and one speaker switch; the runs on which they
speak for all are those described here. -/
namespace Oxlab.PttBursts
open Common.Media Bot.RtcpParser Bot.Subscribe Bot.Floor Judge Library Scenario.CheckpointEval

/-- A floor message handled by `process_events`, or a packet (by its plaintext)
handled by the receive task. -/
inductive PttEvent
  | floor (body : FloorBody)
  | rtp (now : Instant) (plaintext : Bytes)

def observe (task : SubTask) : PttEvent → SubTask
  | .floor body => onFloor task body.kind
  | .rtp now plaintext => task.onRtp now plaintext

def run (events : List PttEvent) : SubTask := events.foldl observe { mode := "ptt" }

theorem observe_ptt (task : SubTask) (event : PttEvent) :
    (observe task event).ptt = task.ptt := by
  cases event with
  | floor body => exact onFloor_ptt task body.kind
  | rtp now plaintext => exact onRtp_ptt task now plaintext

section silence

def untilTaken : List PttEvent → Nat
  | [] => 0
  | .floor body::rest => if body.kind = .ftkn then 0 else untilTaken rest
  | .rtp _ plaintext::rest => untilTaken rest + if isSilence plaintext then 1 else 0

/-- For every FIDL, the silence packets between it and the next FTKN. -/
def windows : List PttEvent → List Nat
  | [] => []
  | .floor body::rest => if body.kind = .fidl then untilTaken rest::windows rest else windows rest
  | .rtp _ _::rest => windows rest

/-- The windows of those FIDLs that end a turn, a repeated FIDL left out. -/
def releases : Bool → List PttEvent → List Nat
  | _, [] => []
  | released, .floor body::rest =>
    match body.kind with
    | .ftkn => releases false rest
    | .fidl => if released then releases true rest else untilTaken rest::releases true rest
    | .frvk => releases released rest
  | released, .rtp _ _::rest => releases released rest

def heard (released : Bool) (events : List PttEvent) : Nat :=
  (if released then untilTaken events else 0) + (releases released events).sum

theorem silenceFrames_run (events : List PttEvent) (task : SubTask) (ptt : task.ptt = true) :
    (tally (events.foldl observe task).observations).silenceFrames =
      (tally task.observations).silenceFrames + heard task.floorState.floorJustReleased events := by
  induction events generalizing task with
  | nil => simp [heard,untilTaken,releases]
  | cons event rest ih =>
    rw [List.foldl_cons,ih (observe task event) ((observe_ptt task event).trans ptt)]
    cases event with
    | rtp now plaintext =>
      simp only [observe,onRtp_silenceFrames,ptt,true_and,(onRtp_flags task now plaintext).2.1]
      cases task.floorState.floorJustReleased with
      | false => simp [heard,releases]
      | true =>
        simp only [heard,releases,untilTaken,if_true,true_and]
        omega
    | floor body =>
      simp only [observe,tally_onFloor,onFloor_floorState]
      cases kind : body.kind with
      | ftkn => simp [heard,releases,untilTaken,kind]
      | frvk => simp [heard,releases,untilTaken,kind]
      | fidl =>
        cases task.floorState.floorJustReleased with
        | false => simp [heard,releases,kind]
        | true => simp [heard,releases,untilTaken,kind]

theorem window_le_heard (events : List PttEvent) (released : Bool) :
    ∀ w ∈ windows events, w ≤ heard released events := by
  induction events generalizing released with
  | nil => simp [windows]
  | cons event rest ih =>
    cases event with
    | rtp now plaintext =>
      intro w member
      have bound := ih released w member
      cases released with
      | false => simpa [heard,releases] using bound
      | true =>
        simp only [heard,releases,untilTaken,if_true] at bound ⊢
        omega
    | floor body =>
      cases kind : body.kind with
      | ftkn => simpa [windows,heard,releases,untilTaken,kind] using ih false
      | frvk => simpa [windows,heard,releases,untilTaken,kind] using ih released
      | fidl =>
        have within := ih true
        cases released with
        | false => simpa [windows,heard,releases,kind] using within
        | true => simpa [windows,heard,releases,untilTaken,kind] using within

theorem releases_subset (events : List PttEvent) (released : Bool) :
    releases released events ⊆ windows events := by
  induction events generalizing released with
  | nil => simp [releases]
  | cons event rest ih =>
    cases event with
    | rtp now plaintext => exact ih released
    | floor body =>
      cases kind : body.kind with
      | ftkn => simpa [windows,releases,kind] using ih false
      | frvk => simpa [windows,releases,kind] using ih released
      | fidl =>
        cases released with
        | false =>
          simp only [windows,releases,kind,Bool.false_eq_true,if_false,if_true]
          exact List.cons_subset_cons _ (ih true)
        | true =>
          simp only [windows,releases,kind,if_true]
          exact List.subset_cons_of_subset _ (ih true)

theorem sum_releases (events : List PttEvent) (three : ∀ w ∈ windows events, w = 3) :
    (releases false events).sum = 3 * (releases false events).length := by
  have same : releases false events = List.replicate (releases false events).length 3 := by
    apply List.eq_replicate_of_mem
    intro w member
    exact three w (releases_subset events false member)
  rw [same,List.sum_replicate_nat,List.length_replicate,Nat.mul_comm]

def flushVerdict (id : String) (d : CheckpointDef) (events : List PttEvent) : Option Verdict :=
  (evalL105 (AList.singleton id (run events).observations) d "ptt").map (·.verdict)

theorem flushVerdict_eq (id : String) (d : CheckpointDef) (events : List PttEvent) :
    flushVerdict id d events =
      if (releases false events).sum = 0 then none
      else some (if (releases false events).sum = 3 then .pass else .fail) := by
  have count : (run events).observations.pttSilenceFramesAfterRelease =
      (releases false events).sum := by
    have total := silenceFrames_run events { mode := "ptt" } rfl
    simpa [heard,tally,run] using total
  rw [flushVerdict,evalL105_verdict]
  simp only [Table.values_singleton,List.mem_singleton,exists_eq_left,count,true_and]
  by_cases silent : (releases false events).sum = 0
  · simp [silent]
  · by_cases three : (releases false events).sum = 3
    · simp [three]
    · simp [silent,three,Nat.pos_of_ne_zero silent]

/-- Where the floor was released, three silence packets in every window pass, and
a window with another number of them fails. -/
def FlushJudged (id : String) (d : CheckpointDef) (events : List PttEvent) : Prop :=
  (windows events ≠ [] → (∀ w ∈ windows events, w = 3) → flushVerdict id d events = some .pass) ∧
    ((∃ w ∈ windows events, w ≠ 0 ∧ w ≠ 3) → flushVerdict id d events = some .fail)

/-- Windows of three come from one release only, and windows of other numbers
do not add up to three. -/
def OneBurst (events : List PttEvent) : Prop :=
  (windows events ≠ [] → (∀ w ∈ windows events, w = 3) → (releases false events).length = 1) ∧
    ((∃ w ∈ windows events, w ≠ 0 ∧ w ≠ 3) → (releases false events).sum ≠ 3)

instance (events : List PttEvent) : Decidable (OneBurst events) :=
  inferInstanceAs (Decidable (_ ∧ _))

/-- L1-05 judges a run rightly exactly when it has one burst. -/
theorem flushJudged_iff (id : String) (d : CheckpointDef) (events : List PttEvent) :
    FlushJudged id d events ↔ OneBurst events := by
  rw [FlushJudged,OneBurst,flushVerdict_eq]
  have passes : (if (releases false events).sum = 0 then none
      else some (if (releases false events).sum = 3 then Verdict.pass else .fail)) = some .pass ↔
      (releases false events).sum = 3 := by
    split
    next zero => simp [zero]
    next => simp
  have fails : (if (releases false events).sum = 0 then none
      else some (if (releases false events).sum = 3 then Verdict.pass else .fail)) = some .fail ↔
      (releases false events).sum ≠ 0 ∧ (releases false events).sum ≠ 3 := by
    split
    next zero => simp [zero]
    next some => simp [some]
  rw [passes,fails]
  apply and_congr
  · apply imp_congr_right
    intro _
    apply imp_congr_right
    intro three
    have total := sum_releases events three
    omega
  · apply imp_congr_right
    intro other
    obtain ⟨w,member,some,_⟩ := other
    have within := window_le_heard events false w member
    simp only [heard,Bool.false_eq_true,if_false,Nat.zero_add] at within
    constructor
    · intro both
      exact both.2
    · intro other
      exact ⟨by omega,other⟩

def taken : PttEvent := .floor .ftkn

def idle : PttEvent := .floor .fidl

def hush : PttEvent := .rtp 0 ([0x80,111] ++ List.replicate 10 0 ++ [0xF8,0xFF,0xFE])

theorem second_burst_misjudged :
    windows [idle,hush,hush,hush,taken,idle,hush,hush,hush] = [3,3] ∧
      flushVerdict "bot-1" .l105 [idle,hush,hush,hush,taken,idle,hush,hush,hush] = some .fail ∧
      windows [idle,hush,taken,idle,hush,hush] = [1,2] ∧
      flushVerdict "bot-1" .l105 [idle,hush,taken,idle,hush,hush] = some .pass ∧
      ¬FlushJudged "bot-1" .l105 [idle,hush,hush,hush,taken,idle,hush,hush,hush] := by
  have three : windows [idle,hush,hush,hush,taken,idle,hush,hush,hush] = [3,3] := by decide +kernel
  have failed :
      flushVerdict "bot-1" .l105 [idle,hush,hush,hush,taken,idle,hush,hush,hush] = some .fail := by
    decide +kernel
  refine ⟨three,failed,by decide +kernel,by decide +kernel,?_⟩
  intro judged
  have passed := judged.1 (by rw [three]; decide) (by rw [three]; decide)
  rw [failed] at passed
  contradiction

end silence

section keyframe

def firstVideo : List PttEvent → Option Bool
  | [] => none
  | .floor body::rest => if body.kind = .ftkn then none else firstVideo rest
  | .rtp _ plaintext::rest =>
    if isVideoPacket plaintext then some (detectVp8Keyframe plaintext) else firstVideo rest

/-- For every FTKN that video follows, whether its first video packet is a keyframe. -/
def firstVideos : List PttEvent → List Bool
  | [] => []
  | .floor body::rest =>
    if body.kind = .ftkn then (firstVideo rest).toList ++ firstVideos rest else firstVideos rest
  | .rtp _ _::rest => firstVideos rest

theorem firstVideo_run (events : List PttEvent) (task : SubTask) (ptt : task.ptt = true) :
    (tally (events.foldl observe task).observations).firstVideoWasKeyframe =
      (tally task.observations).firstVideoWasKeyframe.or
        ((if task.floorState.speakerJustChanged then firstVideo events else none).or
          (firstVideos events).head?) := by
  induction events generalizing task with
  | nil => simp [firstVideo,firstVideos]
  | cons event rest ih =>
    rw [List.foldl_cons,ih (observe task event) ((observe_ptt task event).trans ptt)]
    cases event with
    | rtp now plaintext =>
      simp only [observe,onRtp_firstVideo,onRtp_speakerJustChanged,ptt,true_and,Bool.true_and]
      cases task.floorState.speakerJustChanged with
      | false => simp [firstVideos]
      | true =>
        cases video : isVideoPacket plaintext with
        | false => simp [firstVideo,firstVideos,video]
        | true => simp [firstVideo,firstVideos,video]
    | floor body =>
      simp only [observe,tally_onFloor,onFloor_floorState]
      cases kind : body.kind with
      | ftkn => simp [firstVideo,firstVideos,kind,List.head?_append]
      | fidl => simp [firstVideo,firstVideos,kind]
      | frvk => simp [firstVideo,firstVideos,kind]

def switchVerdict (id : String) (d : CheckpointDef) (events : List PttEvent) : Option Verdict :=
  (evalL106 (AList.singleton id (run events).observations) d "ptt").map (·.verdict)

theorem switchVerdict_eq (id : String) (d : CheckpointDef) (events : List PttEvent) :
    switchVerdict id d events =
      (firstVideos events).head?.map (fun keyframe => if keyframe then .pass else .fail) := by
  have record : (run events).observations.pttFirstVideoWasKeyframe = (firstVideos events).head? := by
    have written := firstVideo_run events { mode := "ptt" } rfl
    simpa [tally,run] using written
  rw [switchVerdict,evalL106_verdict]
  simp only [Table.values_singleton,List.mem_singleton,exists_eq_left,record,true_and]
  cases (firstVideos events).head? with
  | none => simp
  | some keyframe => cases keyframe <;> simp

/-- FAIL says that some switch was not keyframe-first, PASS that there were
switches and all were. -/
def SwitchJudged (id : String) (d : CheckpointDef) (events : List PttEvent) : Prop :=
  (switchVerdict id d events = some .fail ↔ false ∈ firstVideos events) ∧
    (switchVerdict id d events = some .pass ↔
      firstVideos events ≠ [] ∧ ∀ keyframe ∈ firstVideos events, keyframe = true)

/-- L1-06 judges every switch exactly when no keyframe-first switch at the start
hides a later one that is not. -/
theorem switchJudged_iff (id : String) (d : CheckpointDef) (events : List PttEvent) :
    SwitchJudged id d events ↔
      ((firstVideos events).head? = some true → ∀ keyframe ∈ firstVideos events, keyframe = true) := by
  rw [SwitchJudged,switchVerdict_eq]
  cases firstVideos events with
  | nil => simp
  | cons first rest =>
    cases first with
    | false => simp
    | true => simp

def frame (keyframe : Bool) : PttEvent :=
  .rtp 0 ([0x80,96] ++ List.replicate 10 0 ++ [0x10,if keyframe then 0x10 else 0x11])

theorem later_switch_hidden :
    firstVideos [taken,frame true,taken,frame false] = [true,false] ∧
      switchVerdict "bot-1" .l106 [taken,frame true,taken,frame false] = some .pass ∧
      ¬SwitchJudged "bot-1" .l106 [taken,frame true,taken,frame false] := by
  have videos : firstVideos [taken,frame true,taken,frame false] = [true,false] := by
    decide +kernel
  have passed : switchVerdict "bot-1" .l106 [taken,frame true,taken,frame false] = some .pass := by
    decide +kernel
  refine ⟨videos,passed,?_⟩
  intro judged
  have failed := judged.1.mpr (by rw [videos]; decide)
  rw [passed] at failed
  contradiction

end keyframe
end Oxlab.PttBursts
