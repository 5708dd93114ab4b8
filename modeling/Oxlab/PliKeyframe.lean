import Oxlab.Bot.RtpPublisher
import Oxlab.Bot.RtcpParser
import Oxlab.Library.Run

/-! From a PLI on the publish socket to the next keyframe.
The receive task walks one datagram after another while the video task builds
frames; they share the keyframe flag and nothing else. A block that asks for a
keyframe takes two steps, the store of the flag and the count. -/
namespace Oxlab.PliKeyframe
open Common.Media Common.Rtcp Bot.RtpPublisher Bot.RtcpParser Bot.Observations Library

inductive Label
  | receive (buf : Bytes)
  | visit (block : Bytes)
  | record
  | finish
  | frame

/-- `parsing` is what the walker has not visited of its datagram. -/
structure System where
  publisher : RtpPublisherState
  observations : ObservationsInner := {}
  parsing : Option Bytes := none
  unrecorded : Bool := false
  frames : List Bytes := []

def start (config : RtpPublisherConfig) : System where
  publisher := .new config

def step (s : System) : Label → Option System
  | .receive buf => if s.parsing = none then some { s with parsing := some buf } else none
  | .visit block =>
    match s.unrecorded,s.parsing.bind rtcp.next with
    | false,some (first,rest) =>
      if block ≠ first then none
      else if IsPli s.publisher.config.videoSsrc block then
        some { s with
          publisher := { s.publisher with forceKeyframe := true }
          parsing := some rest
          unrecorded := true }
      else
        let acc := (s.publisher.forceKeyframe,s.observations)
        some { s with
          observations := (onPublisherBlock s.publisher.config.videoSsrc acc block).2
          parsing := some rest }
    | _,_ => none
  | .record =>
    if s.unrecorded then
      some { s with observations := s.observations.recordPli, unrecorded := false }
    else none
  | .finish =>
    match s.unrecorded,s.parsing with
    | false,some rest => if rtcp.next rest = none then some { s with parsing := none } else none
    | _,_ => none
  | .frame =>
    let (pkt,publisher) := s.publisher.buildVp8Packet
    some { s with publisher := publisher, frames := s.frames ++ [pkt] }

theorem step_visit {s next : System} {block : Bytes} (stepped : step s (.visit block) = some next) :
    s.unrecorded = false ∧ ∃ rest,s.parsing.bind rtcp.next = some (block,rest) ∧
      next = if IsPli s.publisher.config.videoSsrc block then
          { s with
            publisher := { s.publisher with forceKeyframe := true }
            parsing := some rest
            unrecorded := true }
        else
          { s with
            observations := (onPublisherBlock s.publisher.config.videoSsrc
              (s.publisher.forceKeyframe,s.observations) block).2
            parsing := some rest } := by
  simp only [step] at stepped
  split at stepped
  next first rest quiet cut =>
    obtain ⟨same,stepped⟩ := Option.ite_none_left_eq_some.mp stepped
    rw [not_not.mp same]
    refine ⟨quiet,rest,cut,?_⟩
    rw [not_not.mp same] at stepped
    split at stepped
    next pli => rw [if_pos pli,Option.some.inj stepped]
    next other => rw [if_neg other,Option.some.inj stepped]
  next => contradiction

theorem step_finish {s next : System} (stepped : step s .finish = some next) :
    ∃ rest,s.parsing = some rest ∧ rtcp.next rest = none ∧ next = { s with parsing := none } := by
  simp only [step] at stepped
  split at stepped
  next rest _ parsing =>
    obtain ⟨ended,same⟩ := Option.ite_none_right_eq_some.mp stepped
    exact ⟨rest,parsing,ended,(Option.some.inj same).symm⟩
  next => contradiction

def received : List Label → List Bytes
  | [] => []
  | .receive buf::rest => buf::received rest
  | _::rest => received rest

def visited : List Label → List Bytes
  | [] => []
  | .visit block::rest => block::visited rest
  | _::rest => visited rest

def frameCalls : List Label → Nat
  | [] => 0
  | .frame::rest => frameCalls rest + 1
  | _::rest => frameCalls rest

/-- The blocks visited since frame `k - 1` and before frame `k`. -/
def window : List Label → Nat → List Bytes
  | [], _ => []
  | .frame::_, 0 => []
  | .frame::rest, k+1 => window rest k
  | .visit block::rest, 0 => block::window rest 0
  | _::rest, k => window rest k

def IsKeyframe (config : RtpPublisherConfig) (pkt : Bytes) : Prop :=
  pkt.drop (payloadStart config.videoMid) = vp8Payload true

def IsInterframe (config : RtpPublisherConfig) (pkt : Bytes) : Prop :=
  pkt.drop (payloadStart config.videoMid) = vp8Payload false

section parse

/-- The steps of one call of `parse_rtcp_compound` that nothing interrupts. -/
def visits (videoSsrc : UInt32) (blocks : List Bytes) : List Label :=
  blocks.flatMap (fun block =>
    if IsPli videoSsrc block then [.visit block,.record] else [.visit block])

/-- A system in the middle of a datagram, by what the walker accumulates. -/
def walking (s : System) (acc : Bool × ObservationsInner) (rest : Bytes) : System := { s with
  publisher := { s.publisher with forceKeyframe := acc.1 }
  observations := acc.2
  parsing := some rest
  unrecorded := false }

variable (s : System)

theorem exec_visit (acc : Bool × ObservationsInner) {buf block rest : Bytes}
    (next : rtcp.next buf = some (block,rest)) :
    Run.exec step (walking s acc buf) (visits s.publisher.config.videoSsrc [block]) =
      some (walking s (onPublisherBlock s.publisher.config.videoSsrc acc block) rest) := by
  by_cases pli : IsPli s.publisher.config.videoSsrc block
  · rw [onPublisherBlock_pli pli]
    simp [visits,pli,step,walking,next]
  · have flag := (onPublisherBlock_other pli acc).1
    simp [visits,pli,step,walking,next,flag]

theorem exec_visits (acc : Bool × ObservationsInner) (buf : Bytes) :
    ∃ rest,rtcp.next rest = none ∧
      Run.exec step (walking s acc buf) (visits s.publisher.config.videoSsrc (rtcp.blocks buf)) =
        some (walking s (parseRtcpCompound buf s.publisher.config.videoSsrc acc) rest) := by
  rw [parseRtcpCompound_blocks]
  generalize cut : rtcp.blocks buf = blocks
  induction blocks generalizing acc buf with
  | nil => exact ⟨buf,rtcp.next_of_blocks_nil cut,rfl⟩
  | cons block others ih =>
    obtain ⟨rest,next,left⟩ := rtcp.next_of_blocks_cons cut
    obtain ⟨tail,ended,ran⟩ := ih (onPublisherBlock s.publisher.config.videoSsrc acc block) rest left
    refine ⟨tail,ended,?_⟩
    have first := exec_visit s acc next
    have split : visits s.publisher.config.videoSsrc (block::others) =
        visits s.publisher.config.videoSsrc [block] ++
          visits s.publisher.config.videoSsrc others := by
      simp [visits]
    rw [split,Run.exec_append,first]
    exact ran

end parse

section shown

structure Shown where
  config : RtpPublisherConfig
  frameCount : UInt32
  asked : Bool
  plis : Nat
  payloads : List Bytes

def shown (s : System) : Shown where
  config := s.publisher.config
  frameCount := s.publisher.videoFrameCount
  asked := s.publisher.forceKeyframe
  plis := s.observations.pliReceivedCount + if s.unrecorded then 1 else 0
  payloads := s.frames.map (·.drop (payloadStart s.publisher.config.videoMid))

def observe (v : Shown) : Label → Shown
  | .visit block =>
    if IsPli v.config.videoSsrc block then { v with asked := true, plis := v.plis + 1 } else v
  | .frame => { v with
      frameCount := v.frameCount + 1
      asked := false
      payloads := v.payloads ++
        [vp8Payload (v.asked || v.frameCount % vp8KeyframeInterval == 0)] }
  | _ => v

theorem step_shown (s : System) (label : Label) (next : System)
    (stepped : step s label = some next) : shown next = observe (shown s) label := by
  cases label with
  | receive buf =>
    obtain ⟨_,rfl⟩ := Option.ite_none_right_eq_some.mp stepped |>.imp id Option.some.inj
    rfl
  | visit block =>
    obtain ⟨quiet,rest,_,rfl⟩ := step_visit stepped
    by_cases pli : IsPli s.publisher.config.videoSsrc block
    · simp [shown,observe,pli,quiet]
    · simp [shown,observe,pli,quiet,(onPublisherBlock_other pli _).2]
  | record =>
    obtain ⟨owed,rfl⟩ := Option.ite_none_right_eq_some.mp stepped |>.imp id Option.some.inj
    simp [shown,observe,owed,ObservationsInner.recordPli]
  | finish =>
    obtain ⟨_,_,_,rfl⟩ := step_finish stepped
    rfl
  | frame =>
    cases Option.some.inj stepped
    have payloads : (s.frames ++ [s.publisher.buildVp8Packet.1]).map
        (·.drop (payloadStart s.publisher.config.videoMid)) =
        (shown s).payloads ++ [vp8Payload s.publisher.nextIsKeyframe] := by
      rw [List.map_append,List.map_singleton,buildVp8Packet_payload]
      rfl
    exact congrArg (Shown.mk s.publisher.config (s.publisher.videoFrameCount + 1) false _) payloads

theorem shown_run (labels : List Label) (v : Shown) :
    ∃ built,(labels.foldl observe v).payloads = v.payloads ++ built ∧
      built.length = frameCalls labels ∧
      ∀ k payload,built[k]? = some payload →
        payload = vp8Payload ((v.frameCount + UInt32.ofNat k) % vp8KeyframeInterval == 0 ||
          (k == 0 && v.asked) ||
          (window labels k).any (fun block => decide (IsPli v.config.videoSsrc block))) := by
  induction labels generalizing v with
  | nil => exact ⟨[],by simp,rfl,by simp⟩
  | cons label rest ih =>
    obtain ⟨built,appended,long,each⟩ := ih (observe v label)
    cases label with
    | receive buf => exact ⟨built,appended,long,each⟩
    | record => exact ⟨built,appended,long,each⟩
    | finish => exact ⟨built,appended,long,each⟩
    | visit block =>
      refine ⟨built,?_,long,?_⟩
      · rw [List.foldl_cons,appended]
        congr 1
        simp only [observe]
        split <;> rfl
      · intro k payload found
        rw [each k payload found]
        congr 1
        cases k with
        | zero => by_cases pli : IsPli v.config.videoSsrc block <;> simp [observe,pli,window]
        | succ k => by_cases pli : IsPli v.config.videoSsrc block <;> simp [observe,pli,window]
    | frame =>
      refine ⟨vp8Payload (v.asked || v.frameCount % vp8KeyframeInterval == 0)::built,?_,?_,?_⟩
      · rw [List.foldl_cons,appended]
        simp [observe]
      · simp [frameCalls,long]
      · intro k payload found
        cases k with
        | zero =>
          simp only [List.getElem?_cons_zero,Option.some.injEq] at found
          subst found
          simp [window,Bool.or_comm]
        | succ k =>
          rw [each k payload (by simpa using found)]
          have later : (observe v .frame).frameCount + UInt32.ofNat k =
              v.frameCount + UInt32.ofNat (k+1) := by
            change v.frameCount + 1 + UInt32.ofNat k = _
            rw [UInt32.ofNat_add,UInt32.add_assoc,UInt32.add_comm 1]
            rfl
          have cleared : (observe v .frame).asked = false := rfl
          rw [later,cleared,Bool.and_false]
          rfl

theorem observe_config (v : Shown) (label : Label) : (observe v label).config = v.config := by
  cases label with
  | visit block =>
    simp only [observe]
    split <;> rfl
  | receive buf => rfl
  | record => rfl
  | finish => rfl
  | frame => rfl

theorem config_run (labels : List Label) (v : Shown) :
    (labels.foldl observe v).config = v.config :=
  Run.keeps_foldl Shown.config observe observe_config labels v

theorem plis_run (labels : List Label) (v : Shown) : (labels.foldl observe v).plis =
    v.plis + ((visited labels).filter (fun block => IsPli v.config.videoSsrc block)).length := by
  induction labels generalizing v with
  | nil => rfl
  | cons label rest ih =>
    rw [List.foldl_cons,ih]
    cases label with
    | visit block =>
      by_cases pli : IsPli v.config.videoSsrc block
      · simp [observe,visited,pli]
        omega
      · simp [observe,visited,pli]
    | receive buf => rfl
    | record => rfl
    | finish => rfl
    | frame => rfl

end shown

/-- What is left of the datagram being parsed. -/
def unvisited (s : System) : List Bytes := s.parsing.elim [] rtcp.blocks

/-- A step takes blocks off the front of the datagram, or brings a datagram. -/
theorem step_visited {s next : System} {label : Label} (stepped : step s label = some next) :
    unvisited s ++ (received [label]).flatMap rtcp.blocks = visited [label] ++ unvisited next := by
  cases label with
  | receive buf =>
    obtain ⟨idle,rfl⟩ := Option.ite_none_right_eq_some.mp stepped |>.imp id Option.some.inj
    simp [unvisited,received,visited,idle]
  | visit block =>
    obtain ⟨_,rest,cut,same⟩ := step_visit stepped
    obtain ⟨buf,parsing,found⟩ := Option.bind_eq_some_iff.mp cut
    have walked : next.parsing = some rest := by
      rw [same]
      split <;> rfl
    have front : rtcp.blocks buf = block::rtcp.blocks rest := by
      rw [rtcp.blocks_eq,found]
    simp [unvisited,received,visited,parsing,walked,front]
  | record =>
    obtain ⟨_,rfl⟩ := Option.ite_none_right_eq_some.mp stepped |>.imp id Option.some.inj
    exact List.append_nil _
  | finish =>
    obtain ⟨rest,parsing,ended,rfl⟩ := step_finish stepped
    have none_left : rtcp.blocks rest = [] := by rw [rtcp.blocks_eq,ended]
    simp [unvisited,received,visited,parsing,none_left]
  | frame =>
    cases Option.some.inj stepped
    exact List.append_nil _

theorem received_cons (label : Label) (rest : List Label) :
    received (label::rest) = received [label] ++ received rest := by
  cases label <;> rfl

theorem visited_cons (label : Label) (rest : List Label) :
    visited (label::rest) = visited [label] ++ visited rest := by
  cases label <;> rfl

theorem visited_run (labels : List Label) (s final : System)
    (ran : Run.exec step s labels = some final) :
    unvisited s ++ (received labels).flatMap rtcp.blocks = visited labels ++ unvisited final := by
  induction labels generalizing s with
  | nil =>
    cases Option.some.inj ran
    exact List.append_nil _
  | cons label rest ih =>
    rw [Run.exec_cons] at ran
    obtain ⟨next,stepped,ran⟩ := Option.bind_eq_some_iff.mp ran
    rw [received_cons,visited_cons,List.flatMap_append,← List.append_assoc,step_visited stepped,
      List.append_assoc,List.append_assoc,ih next ran]

theorem cadence {k : Nat} (inside : k < 2^32) :
    (UInt32.ofNat k % vp8KeyframeInterval == 0) = true ↔ k % 60 = 0 := by
  rw [beq_iff_eq,← UInt32.toNat_inj,UInt32.toNat_mod,UInt32.toNat_ofNat',Nat.mod_eq_of_lt inside]
  rfl

/-- Whether frame `k` is due as a keyframe: by the cadence or by a PLI since the
frame before it. -/
def KeyframeDue (config : RtpPublisherConfig) (labels : List Label) (k : Nat) : Prop :=
  k % 60 = 0 ∨ ∃ block ∈ window labels k,IsPli config.videoSsrc block

/-- Over every run: frame `k` is a keyframe when due and an interframe otherwise,
every PLI is counted once, and the blocks visited are those of the datagrams. The steps
of a datagram that nothing interrupts are one call of the walker. -/
theorem keyframe_when_due (config : RtpPublisherConfig) (labels : List Label) (final : System)
    (ran : Run.exec step (start config) labels = some final) :
    final.frames.length = frameCalls labels ∧
    (∀ k pkt,k < 2^32 → final.frames[k]? = some pkt →
      (IsKeyframe config pkt ↔ KeyframeDue config labels k) ∧
      (IsInterframe config pkt ↔ ¬KeyframeDue config labels k)) ∧
    final.observations.pliReceivedCount + (if final.unrecorded then 1 else 0) =
      ((visited labels).filter (fun block => IsPli config.videoSsrc block)).length ∧
    (received labels).flatMap rtcp.blocks =
      visited labels ++ final.parsing.elim [] rtcp.blocks ∧
    ∀ s acc buf, ∃ rest,rtcp.next rest = none ∧
      Run.exec step (walking s acc buf) (visits s.publisher.config.videoSsrc (rtcp.blocks buf)) =
        some (walking s (parseRtcpCompound buf s.publisher.config.videoSsrc acc) rest) := by
  have view := Run.exec_observed step shown observe step_shown labels (start config) final ran
  obtain ⟨built,appended,long,each⟩ := shown_run labels (shown (start config))
  have same : final.publisher.config = config :=
    (congrArg Shown.config view).trans (config_run labels (shown (start config)))
  have payloads : final.frames.map (·.drop (payloadStart config.videoMid)) = built := by
    have read := (congrArg Shown.payloads view).trans appended
    simp only [shown,same] at read
    exact read
  refine ⟨?_,?_,?_,?_,exec_visits⟩
  · rw [← long,← payloads,List.length_map]
  · intro k pkt inside found
    have payload : built[k]? = some (pkt.drop (payloadStart config.videoMid)) := by
      rw [← payloads,List.getElem?_map,found]
      rfl
    have due : ((UInt32.ofNat k % vp8KeyframeInterval == 0) ||
        (window labels k).any (fun block => decide (IsPli config.videoSsrc block))) = true ↔
        KeyframeDue config labels k := by
      rw [Bool.or_eq_true,cadence inside,List.any_eq_true]
      simp only [decide_eq_true_eq,KeyframeDue]
    have built_k := each k _ payload
    have fresh : (shown (start config)).frameCount + UInt32.ofNat k = UInt32.ofNat k :=
      UInt32.zero_add _
    have unasked : (shown (start config)).asked = false := rfl
    rw [fresh,unasked,Bool.and_false,Bool.or_false] at built_k
    constructor
    · rw [← due,IsKeyframe,built_k,vp8Payload_inj]
      rfl
    · rw [← due,IsInterframe,built_k,vp8Payload_inj,Bool.not_eq_true]
      rfl
  · have plis := (congrArg Shown.plis view).trans (plis_run labels (shown (start config)))
    rw [← Nat.zero_add (List.length _)]
    exact plis
  · simpa [start,unvisited] using visited_run labels (start config) final ran

def pliBlock : Bytes := [0x81,206,0,2,0,0,0,9,0xB0,0,0,1]

/-- A PLI that arrives while frame 0 is built. -/
def pliRun : List Label :=
  [.receive pliBlock,.frame,.visit pliBlock,.record,.finish,.frame,.frame]

theorem keyframe_when_due_pli : ∃ final,
    Run.exec step (start {}) pliRun = some final ∧
    final.frames.length = frameCalls pliRun ∧
    (∀ k pkt,k < 2^32 → final.frames[k]? = some pkt →
      (IsKeyframe {} pkt ↔ KeyframeDue {} pliRun k) ∧
      (IsInterframe {} pkt ↔ ¬KeyframeDue {} pliRun k)) ∧
    final.observations.pliReceivedCount + (if final.unrecorded then 1 else 0) =
      ((visited pliRun).filter (fun block => IsPli 0xB0000001 block)).length ∧
    (received pliRun).flatMap rtcp.blocks =
      visited pliRun ++ final.parsing.elim [] rtcp.blocks := by
  have runs : ∃ final,Run.exec step (start {}) pliRun = some final := ⟨_,rfl⟩
  obtain ⟨final,ran⟩ := runs
  obtain ⟨built,due,counted,walked,_⟩ := keyframe_when_due {} pliRun final ran
  exact ⟨final,ran,built,due,counted,walked⟩

example : (KeyframeDue {} pliRun 0 ∧ KeyframeDue {} pliRun 1) ∧ ¬KeyframeDue {} pliRun 2 := by
  unfold KeyframeDue
  decide

end Oxlab.PliKeyframe
