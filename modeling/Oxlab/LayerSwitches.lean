import Oxlab.Bot.Floor
import Oxlab.Library.Run
import Oxlab.Scenario.Criteria

/-! Layer switches and their records.
A request waits in a single slot until a video packet comes, which is when its
record is made. Requests that are overwritten or that no packet follows leave no
record, and with it no failure. -/
namespace Oxlab.LayerSwitches
open Common.Media Bot.Floor Bot.Observations Bot.RtcpParser Bot.Subscribe Judge Library
open Scenario.CheckpointEval Scenario.Criteria Scenario.Evaluate

/-- A call of `subscribe_layer`, a packet (by its plaintext) handled by the receive
task, or a floor message. -/
inductive SwitchEvent
  | subscribeLayer (now : Instant) (layer : String)
  | rtp (now : Instant) (plaintext : Bytes)
  | rtcp (plaintext : Bytes)
  | floor (kind : FloorKind)

def SwitchEvent.isVideo : SwitchEvent → Bool
  | .rtp _ plaintext => isVideoPacket plaintext
  | _ => false

theorem SwitchEvent.kinds (event : SwitchEvent) :
    (∃ now layer,event = .subscribeLayer now layer) ∨
      (∃ now plaintext,event = .rtp now plaintext ∧ isVideoPacket plaintext = true) ∨
      (event.isVideo = false ∧ ∀ now layer,event ≠ .subscribeLayer now layer) := by
  cases event with
  | subscribeLayer now layer => exact Or.inl ⟨now,layer,rfl⟩
  | rtp now plaintext =>
    cases video : isVideoPacket plaintext with
    | true => exact Or.inr (Or.inl ⟨now,plaintext,rfl,video⟩)
    | false => exact Or.inr (Or.inr ⟨video,fun _ _ => SwitchEvent.noConfusion⟩)
  | rtcp plaintext => exact Or.inr (Or.inr ⟨rfl,fun _ _ => SwitchEvent.noConfusion⟩)
  | floor kind => exact Or.inr (Or.inr ⟨rfl,fun _ _ => SwitchEvent.noConfusion⟩)

def observe (task : SubTask) : SwitchEvent → SubTask
  | .subscribeLayer now layer => task.subscribeLayer now layer
  | .rtp now plaintext => task.onRtp now plaintext
  | .rtcp plaintext =>
    { task with observations := parseRtcpForSr plaintext task.observations }
  | .floor kind => onFloor task kind

def run (mode : String) (order : Table.Order UInt32 (Instant × UInt32)) (events : List SwitchEvent) :
    SubTask :=
  events.foldl observe { mode := mode, ssrcOrder := order }

def switches (task : SubTask) : List LayerSwitchEvent := task.observations.simulcastLayerSwitches

def awaiting (task : SubTask) : Option PendingLayerSwitch :=
  task.pendingLayerSwitch.filter (fun sw => !sw.done)

section frame
variable (obs : ObservationsInner) (ptt : Bool) (floor : SharedFloorState) (plaintext : Bytes)
  (ssrcLast : SsrcLast) (now : Instant)

@[simp] theorem switches_trackSsrc :
    (trackSsrc obs plaintext).simulcastLayerSwitches = obs.simulcastLayerSwitches := by
  simp only [trackSsrc]
  split <;> rfl

@[simp] theorem switches_observeGating :
    (observeGating obs ptt floor).simulcastLayerSwitches = obs.simulcastLayerSwitches := by
  unfold observeGating
  split <;> rfl

@[simp] theorem switches_observeSilence :
    (observeSilence obs ptt floor plaintext).simulcastLayerSwitches =
      obs.simulcastLayerSwitches := by
  unfold observeSilence
  split <;> rfl

@[simp] theorem switches_observeFirstVideo :
    (observeFirstVideo obs ptt floor plaintext).simulcastLayerSwitches =
      obs.simulcastLayerSwitches := by
  unfold observeFirstVideo ObservationsInner.recordPttFirstVideoKeyframe
  split
  next => split <;> rfl
  next => rfl

@[simp] theorem switches_observeBeforeAck :
    (observeBeforeAck obs floor plaintext).simulcastLayerSwitches = obs.simulcastLayerSwitches := by
  unfold observeBeforeAck
  split <;> rfl

@[simp] theorem switches_observeTsGap :
    (observeTsGap obs ptt plaintext ssrcLast now).simulcastLayerSwitches =
      obs.simulcastLayerSwitches := by
  simp only [observeTsGap]
  split
  next => rfl
  next => split <;> rfl

theorem switches_parseRtcpForSr :
    (parseRtcpForSr plaintext obs).simulcastLayerSwitches = obs.simulcastLayerSwitches := by
  rw [parseRtcpForSr_blocks]
  exact Run.keeps_foldl ObservationsInner.simulcastLayerSwitches ObservationsInner.recordSr
    (fun _ _ => rfl) _ obs

end frame

section step
variable (task : SubTask) (now : Instant) (plaintext : Bytes)

def noted : SsrcLast :=
  task.ssrcLast.insert (rtpFields plaintext).ssrc (now,(rtpFields plaintext).ts)

def switchRecord (sw : PendingLayerSwitch) : LayerSwitchEvent where
  requestedLayer := sw.requestedLayer
  requestTimestampMs := millisSince now sw.requestTime
  keyframeAfterMs :=
    if detectVp8Keyframe plaintext then some (millisSince now sw.requestTime) else none
  tsBefore := (settleSwitch (noted task now plaintext) task.ssrcOrder sw).tsBefore
  tsAfter := some (rtpFields plaintext).ts
  packetsAfter := true

theorem isVideoPacket_iff : isVideoPacket plaintext = true ↔
    ¬plaintext.length < 12 ∧ isVideo plaintext = true := by
  simp [isVideoPacket]

theorem onRtp_video (video : isVideoPacket plaintext = true) :
    switches (task.onRtp now plaintext) =
        switches task ++ ((awaiting task).map (switchRecord task now plaintext)).toList ∧
      awaiting (task.onRtp now plaintext) = none := by
  obtain ⟨whole,video⟩ := (isVideoPacket_iff plaintext).mp video
  simp only [switches,awaiting,SubTask.onRtp,whole,if_false]
  cases task.pendingLayerSwitch with
  | none => simp [observeLayerSwitch]
  | some sw =>
    cases done : sw.done with
    | true => simp [observeLayerSwitch,done]
    | false =>
      have waits : (some sw).filter (fun sw => !sw.done) = some sw := by simp [done]
      simp [observeLayerSwitch,done,video,waits,ObservationsInner.recordLayerSwitch,switchRecord,
        noted,settleSwitch]

theorem onRtp_other (other : isVideoPacket plaintext = false) :
    switches (task.onRtp now plaintext) = switches task ∧
      awaiting (task.onRtp now plaintext) = awaiting task := by
  by_cases short : plaintext.length < 12
  · rw [onRtp_short task now plaintext short]
    exact ⟨rfl,rfl⟩
  · have audio : isVideo plaintext = false := by simpa [isVideoPacket,short] using other
    simp only [switches,awaiting,SubTask.onRtp,short,if_false,audio,Bool.false_and]
    cases task.pendingLayerSwitch with
    | none => simp [observeLayerSwitch]
    | some sw => simp [observeLayerSwitch,audio]

theorem observe_other (event : SwitchEvent) (other : event.isVideo = false)
    (kept : ∀ now layer,event ≠ .subscribeLayer now layer) :
    switches (observe task event) = switches task ∧ awaiting (observe task event) = awaiting task := by
  cases event with
  | subscribeLayer now layer => exact absurd rfl (kept now layer)
  | rtp now plaintext => exact onRtp_other task now plaintext other
  | rtcp plaintext => exact ⟨switches_parseRtcpForSr task.observations plaintext,rfl⟩
  | floor kind => cases kind <;> exact ⟨rfl,rfl⟩

end step

section windows

/-- Whether video comes before the next call, or before the end. -/
def heard : List SwitchEvent → Bool
  | [] => false
  | .subscribeLayer _ _::_ => false
  | event::rest => event.isVideo || heard rest

/-- For every call, its layer and whether video came after it in time. -/
def windows : List SwitchEvent → List (String × Bool)
  | [] => []
  | .subscribeLayer _ layer::rest => (layer,heard rest)::windows rest
  | _::rest => windows rest

def recorded (sw : LayerSwitchEvent) : String × Bool := (sw.requestedLayer,sw.packetsAfter)

theorem windows_other (event : SwitchEvent) (other : event.isVideo = false)
    (kept : ∀ now layer,event ≠ .subscribeLayer now layer) (rest : List SwitchEvent) :
    heard (event::rest) = heard rest ∧ windows (event::rest) = windows rest := by
  cases event with
  | subscribeLayer now layer => exact absurd rfl (kept now layer)
  | rtp now plaintext => exact ⟨congrArg (· || heard rest) other,rfl⟩
  | rtcp plaintext => exact ⟨rfl,rfl⟩
  | floor kind => exact ⟨rfl,rfl⟩

/-- The records of a run: the request that waited at its start and the calls in
it, each if video came in time. -/
theorem switches_run (events : List SwitchEvent) (task : SubTask) :
    (switches (events.foldl observe task)).map recorded = (switches task).map recorded ++
      (if heard events then ((awaiting task).map (fun sw => (sw.requestedLayer,true))).toList else []) ++
      (windows events).filter (·.2) := by
  induction events generalizing task with
  | nil => simp [heard,windows]
  | cons event rest ih =>
    rw [List.foldl_cons,ih (observe task event)]
    rcases event.kinds with ⟨now,layer,rfl⟩ | ⟨now,plaintext,rfl,video⟩ | ⟨other,kept⟩
    · have same : switches (task.subscribeLayer now layer) = switches task := rfl
      have waits : awaiting (task.subscribeLayer now layer) = some ⟨layer,now,none,false⟩ := rfl
      simp only [observe,same,waits,heard,windows]
      cases heard rest <;> simp
    · obtain ⟨more,answered⟩ := onRtp_video task now plaintext video
      simp only [observe,more,answered,heard,windows,SwitchEvent.isVideo,video]
      cases awaiting task with
      | none => simp
      | some sw => simp [recorded,switchRecord]
    · obtain ⟨same,waits⟩ := observe_other task event other kept
      obtain ⟨came,called⟩ := windows_other event other kept rest
      rw [same,waits,came,called]

variable (mode : String) (order : Table.Order UInt32 (Instant × UInt32)) (events : List SwitchEvent)

theorem run_switches :
    (switches (run mode order events)).map recorded = (windows events).filter (·.2) := by
  rw [run,switches_run]
  simp [switches,awaiting]

/-- No record says that no packet came, so that no bot can fail the check. -/
theorem evalL118_never_fails (observations : BotObservations) (d : CheckpointDef)
    (runs : ∀ obs ∈ observations.values,∃ mode order events,
      obs = (run mode order events).observations) :
    (evalL118 observations d).map (·.verdict) ≠ some .fail := by
  intro failed
  obtain ⟨_,obs,member,sw,active,silent⟩ := (evalL118_judged observations d).failed.mp failed
  obtain ⟨mode,order,events,rfl⟩ := runs obs member
  have noted : recorded sw ∈ (switches (run mode order events)).map recorded :=
    List.mem_map_of_mem (List.mem_of_mem_filter active)
  rw [run_switches] at noted
  have came : sw.packetsAfter = true := (List.mem_filter.mp noted).2
  rw [silent] at came
  contradiction

/-- One record a call, in the order of the calls and marked by whether video came
in time, and an alarm wherever it did not. -/
structure Accounted : Prop where
  records : (switches (run mode order events)).map recorded = windows events
  alarm : ∀ (observations : BotObservations) (d : CheckpointDef),
    (run mode order events).observations ∈ observations.values →
      (∃ w ∈ windows events,w.1 ≠ "pause" ∧ w.2 = false) →
        (evalL118 observations d).map (·.verdict) = some .fail

/-- For every run: the switches are accounted for exactly when video comes after
every call before the next one. -/
theorem accounted_iff : Accounted mode order events ↔ ∀ w ∈ windows events,w.2 = true := by
  constructor
  · intro accounted
    have all := accounted.records
    rw [run_switches,List.filter_eq_self] at all
    exact all
  · intro all
    refine ⟨?_,?_⟩
    · rw [run_switches,List.filter_eq_self]
      exact all
    · rintro observations d _ ⟨w,member,_,silent⟩
      rw [all w member] at silent
      contradiction

end windows

/-- A switch to the high layer, after which the stream dies. -/
theorem dead_switch_unrecorded : ¬Accounted "conference" default [.subscribeLayer 0 "h"] := by
  intro accounted
  have records := congrArg List.length accounted.records
  contradiction

end Oxlab.LayerSwitches
