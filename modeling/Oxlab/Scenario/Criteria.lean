import Mathlib.Order.CompletePartialOrder
import Mathlib.Order.Lattice
import Oxlab.Scenario.Evaluate

/-! What each checkpoint asks for, as conditions on the set of what the bots
observed and the set of what they received: when there is something to judge,
and what fails it. -/
namespace Oxlab.Scenario.Criteria
open Bot.Observations Bot.RtpSubscriber CheckpointEval Evaluate Judge Library

/-- A receive snapshot without the order of its streams. -/
structure Report where
  lost : Nat
  streams : Set SsrcRecvMetrics

/-- Ordered by inclusion: more bots are more evidence. -/
abbrev Evidence := Set ObservationsInner × Set Report

structure Criterion where
  seen : Evidence → Prop
  wrong : Evidence → Prop

def someBot (P : ObservationsInner → Prop) (e : Evidence) : Prop := ∃ obs ∈ e.1,P obs

def someReport (P : Report → Prop) (e : Evidence) : Prop := ∃ report ∈ e.2,P report

/-- Two reports of one SSRC more than two packets apart. -/
def apart (e : Evidence) : Prop :=
  someReport (fun left => ∃ x ∈ left.streams,someReport (fun right => ∃ y ∈ right.streams,
    x.ssrc = y.ssrc ∧ x.packetsReceived + 2 < y.packetsReceived) e) e

def criterion (mode profile : String) (d : CheckpointDef) : Criterion :=
  match d.id with
  | "L1-01" =>
    ⟨someBot (fun obs => 0 < obs.rrReceivedCount),
      someBot (fun obs => 0 < obs.rrReceivedCount ∧ 1 < obs.rrSenderSsrcs.card)⟩
  | "L1-02" =>
    ⟨someBot (fun obs => obs.srReceived ≠ []),
      someBot (fun obs => ∃ earlier later,
        Consecutive obs.srReceived earlier later ∧ ntpOf later ≤ ntpOf earlier)⟩
  | "L1-03" =>
    ⟨someBot (fun obs => obs.srReceived ≠ []),
      someBot (fun obs => ∃ earlier later,
        Consecutive obs.srReceived earlier later ∧ (later.rtpTs - earlier.rtpTs).toInt32 ≤ 0)⟩
  | "L1-04" => ⟨fun _ => mode = "ptt",someBot (fun obs => 0 < obs.pttNonSpeakerRtpCount)⟩
  | "L1-05" =>
    ⟨fun e => mode = "ptt" ∧ someBot (fun obs => 0 < obs.pttSilenceFramesAfterRelease) e,
      someBot (fun obs =>
        0 < obs.pttSilenceFramesAfterRelease ∧ obs.pttSilenceFramesAfterRelease ≠ 3)⟩
  | "L1-06" =>
    ⟨fun e => mode = "ptt" ∧ someBot (fun obs => obs.pttFirstVideoWasKeyframe.isSome) e,
      someBot (fun obs => obs.pttFirstVideoWasKeyframe = some false)⟩
  | "L1-07" =>
    ⟨fun e => mode = "ptt" ∧ someBot (fun obs => obs.pttAudioSsrcs ≠ ∅ ∨ obs.pttVideoSsrcs ≠ ∅) e,
      someBot (fun obs => 1 < obs.pttAudioSsrcs.card ∨ 1 < obs.pttVideoSsrcs.card)⟩
  | "L1-08" =>
    ⟨fun e => mode = "ptt" ∧ someBot (fun obs => ∃ rec, rec ∈ obs.pttTsGapRecords) e,
      someBot (fun obs => ∃ rec ∈ obs.pttTsGapRecords,tsGapOff rec)⟩
  | "L1-09" => ⟨someBot (fun obs => 0 < obs.pliReceivedCount),fun _ => False⟩
  | "L1-10" => ⟨someBot (fun obs => 0 < obs.pliReceivedCount),fun _ => False⟩
  | "L1-11" =>
    ⟨someBot (fun obs => obs.tracksAckSent),someBot (fun obs => 0 < obs.videoBeforeAckCount)⟩
  | "L1-12" =>
    ⟨someBot (fun obs => obs.tracksAckSent),
      fun e => ¬someBot (fun obs => 0 < obs.pliReceivedCount) e⟩
  | "L1-13" =>
    ⟨fun _ => profile = "pristine",
      fun e => e.2 = ∅ ∨ someReport (fun report => 0 < report.lost) e ∨ apart e⟩
  | "L1-14" =>
    ⟨fun e => mode = "ptt" ∧ someBot (fun obs => ∃ grant ∈ obs.floorGrants,grant.granted) e,
      fun _ => False⟩
  | "L1-15" =>
    ⟨fun e => mode = "ptt" ∧ someBot (fun obs => obs.floorRevokeReceived) e,fun _ => False⟩
  | "L1-16" =>
    ⟨fun e => mode = "ptt" ∧ someBot (fun obs => ∃ position, position ∈ obs.queuePositions) e,
      someBot (fun obs => 0 ∈ obs.queuePositions)⟩
  | "L1-17" =>
    ⟨someBot (fun obs => ∃ userId, userId ∈ obs.zombieCleanupDetected),fun _ => False⟩
  | "L1-18" =>
    ⟨someBot (fun obs => ∃ sw, sw ∈ activeSwitches obs),
      someBot (fun obs => ∃ sw ∈ activeSwitches obs,sw.packetsAfter = false)⟩
  | "L1-19" =>
    ⟨someBot (fun obs => ∃ sw, sw ∈ tsSwitches obs),
      someBot (fun obs => ∃ sw ∈ tsSwitches obs,(sw.2.2 - sw.2.1).toInt32 ≤ 0)⟩
  | "L1-20" =>
    ⟨someBot (fun obs => ∃ sw, sw ∈ activeSwitches obs),
      someBot (fun obs => ∃ sw ∈ activeSwitches obs,sw.keyframeAfterMs = none)⟩
  | "L1-21" =>
    ⟨someBot (fun obs => ∃ ssrc, obs.screenShareSsrcPublished = some ssrc),
      fun e => ∃ ssrc, someBot (fun obs => obs.screenShareSsrcPublished = some ssrc) e ∧
        ¬someBot (fun obs => ssrc ∈ obs.screenShareSsrcsReceived) e⟩
  | _ => ⟨fun _ => False,fun _ => False⟩

def reportOf (snap : RecvSnapshot) : Report := ⟨snap.totalLost,{stream | stream ∈ snap.streams}⟩

def evidence (observations : BotObservations) (snapshots : RecvSnapshots) : Evidence :=
  ({obs | obs ∈ observations.values},reportOf '' {snap | snap ∈ snapshots.values})

section monotone

theorem someBot_mono (P : ObservationsInner → Prop) : Monotone (someBot P) := by
  intro e e' more found
  obtain ⟨obs,member,holds⟩ := found
  exact ⟨obs,more.1 member,holds⟩

theorem someReport_mono (P : Report → Prop) : Monotone (someReport P) := by
  intro e e' more found
  obtain ⟨report,member,holds⟩ := found
  exact ⟨report,more.2 member,holds⟩

theorem gated_mono (on : Prop) (P : ObservationsInner → Prop) :
    Monotone (fun e => on ∧ someBot P e) := by
  intro e e' more both
  exact ⟨both.1,someBot_mono P more both.2⟩

theorem apart_mono : Monotone apart := by
  intro e e' more found
  obtain ⟨left,leftIn,x,xIn,right,rightIn,y,yIn,far⟩ := found
  exact ⟨left,more.2 leftIn,x,xIn,right,more.2 rightIn,y,yIn,far⟩

theorem seen_mono (mode profile : String) :
    ∀ d ∈ registry,Monotone (criterion mode profile d).seen := by
  simp only [registry,List.forall_mem_cons,List.not_mem_nil,false_imp_iff,implies_true,and_true]
  refine ⟨?_,?_,?_,?_,?_,?_,?_,?_,?_,?_,?_,?_,?_,?_,?_,?_,?_,?_,?_,?_,?_⟩
  all_goals first
    | exact someBot_mono _
    | exact gated_mono _ _
    | exact monotone_const

/-- The checkpoints that ask for something to be there. -/
def asksForSome : List CheckpointDef := [.l112,.l121]

/-- More evidence excuses no failure but that of a checkpoint that asks for
something to be there, or for any report at all. -/
theorem wrong_mono (mode profile : String) {e e' : Evidence} (more : e ≤ e') :
    ∀ d ∈ registry,d ∉ asksForSome → (d = .l113 → e.2 ≠ ∅) →
      (criterion mode profile d).wrong e → (criterion mode profile d).wrong e' := by
  have fanOut : e.2 ≠ ∅ → (criterion mode profile .l113).wrong e →
      (criterion mode profile .l113).wrong e' := by
    rintro some_there (nothing | lost | far)
    · exact absurd nothing some_there
    · exact Or.inr (Or.inl (someReport_mono _ more lost))
    · exact Or.inr (Or.inr (apart_mono more far))
  simp only [registry,List.forall_mem_cons,List.not_mem_nil,false_imp_iff,implies_true,and_true]
  refine ⟨?_,?_,?_,?_,?_,?_,?_,?_,?_,?_,?_,?_,?_,?_,?_,?_,?_,?_,?_,?_,?_⟩
  all_goals intro kept reported
  all_goals first
    | exact someBot_mono _ more
    | exact id
    | exact fanOut (reported trivial)
    | exact absurd (by simp [asksForSome]) kept

end monotone

section eval
variable (observations : BotObservations) (d : CheckpointDef) (mode : String)

theorem mem_gather {α : Type} (field : ObservationsInner → List α) (item : α) :
    item ∈ gather observations field ↔ ∃ obs ∈ observations.values,item ∈ field obs :=
  List.mem_flatMap

theorem judgeItems_judged {α : Type} (items : List α) (wrong : α → Bool)
    (failText : List α → String) (passText : String) :
    Judged ((judgeItems d items wrong failText passText).map (·.verdict)) (∃ item, item ∈ items)
      (∃ item ∈ items,wrong item) := by
  have flagged : (!(items.filter wrong).isEmpty) = true ↔ ∃ item ∈ items,wrong item := by
    rw [Bool.not_eq_true',← Bool.not_eq_true,List.isEmpty_iff,List.filter_eq_nil_iff]
    simp
  unfold judgeItems
  apply judged_unless
  · rw [List.isEmpty_iff,not_exists,List.eq_nil_iff_forall_not_mem]
  · intro any
    exact judged_either d any flagged _ _

theorem judgeItems_gather {α : Type} (field : ObservationsInner → List α) (wrong : α → Bool)
    (failText : List α → String) (passText : String) :
    Judged ((judgeItems d (gather observations field) wrong failText passText).map (·.verdict))
      (∃ obs ∈ observations.values,∃ item, item ∈ field obs)
      (∃ obs ∈ observations.values,∃ item ∈ field obs,wrong item) := by
  refine (judgeItems_judged d _ wrong failText passText).of_iff ?_ ?_
  · simp only [mem_gather]
    exact ⟨fun ⟨item,obs,member,held⟩ => ⟨obs,member,item,held⟩,
      fun ⟨obs,member,item,held⟩ => ⟨item,obs,member,held⟩⟩
  · simp only [mem_gather]
    exact ⟨fun ⟨item,⟨obs,member,held⟩,bad⟩ => ⟨obs,member,item,held,bad⟩,
      fun ⟨obs,member,item,held,bad⟩ => ⟨item,⟨obs,member,held⟩,bad⟩⟩

theorem weight_eq_zero (f : ObservationsInner → Nat) :
    observations.weight f = 0 ↔ ¬∃ obs ∈ observations.values,0 < f obs := by
  rw [← Table.weight_pos,Nat.pos_iff_ne_zero,not_not]

theorem lt_foldl_max (least : Nat) (counts : List Nat) (bound : Nat) :
    bound < counts.foldl max least ↔ bound < least ∨ ∃ count ∈ counts,bound < count := by
  induction counts generalizing least with
  | nil => simp
  | cons count rest ih =>
    rw [List.foldl_cons,ih,lt_max_iff,List.exists_mem_cons_iff,or_assoc]

theorem evalL101_judged : Judged ((evalL101 observations d).map (·.verdict))
    (∃ obs ∈ observations.values,0 < obs.rrReceivedCount)
    (∃ obs ∈ observations.values,0 < obs.rrReceivedCount ∧ 1 < obs.rrSenderSsrcs.card) := by
  apply judged_unless (weight_eq_zero observations _)
  intro any
  apply judged_either d any
  rw [lt_foldl_max]
  simp [and_assoc]

theorem evalL104_judged : Judged ((evalL104 observations d mode).map (·.verdict)) (mode = "ptt")
    (∃ obs ∈ observations.values,0 < obs.pttNonSpeakerRtpCount) :=
  judged_of_eq (evalL104_verdict observations d mode)

theorem evalL105_judged : Judged ((evalL105 observations d mode).map (·.verdict))
    (mode = "ptt" ∧ ∃ obs ∈ observations.values,0 < obs.pttSilenceFramesAfterRelease)
    (∃ obs ∈ observations.values,
      0 < obs.pttSilenceFramesAfterRelease ∧ obs.pttSilenceFramesAfterRelease ≠ 3) :=
  judged_of_eq (evalL105_verdict observations d mode)

theorem evalL106_judged : Judged ((evalL106 observations d mode).map (·.verdict))
    (mode = "ptt" ∧ ∃ obs ∈ observations.values,obs.pttFirstVideoWasKeyframe.isSome)
    (∃ obs ∈ observations.values,obs.pttFirstVideoWasKeyframe = some false) :=
  judged_of_eq (evalL106_verdict observations d mode)

theorem evalL107_judged (audioOrder videoOrder : String → Table.SetEnumeration UInt32) :
    Judged ((evalL107 observations d mode audioOrder videoOrder).map (·.verdict))
      (mode = "ptt" ∧ ∃ obs ∈ observations.values,obs.pttAudioSsrcs ≠ ∅ ∨ obs.pttVideoSsrcs ≠ ∅)
      (∃ obs ∈ observations.values,1 < obs.pttAudioSsrcs.card ∨ 1 < obs.pttVideoSsrcs.card) := by
  have line (kind id : String) (ssrcs : Finset UInt32) (order : Table.SetEnumeration UInt32) :
      ssrcLine kind id ssrcs order = [] ↔ ¬1 < ssrcs.card := by
    unfold ssrcLine
    split <;> simp_all
  apply judged_gate
  apply judged_unless
  · simp
  · intro any
    apply judged_either d any
    rw [Bool.not_eq_true',← Bool.not_eq_true,List.isEmpty_iff,List.flatMap_eq_nil_iff]
    simp only [List.append_eq_nil_iff,line,← not_or]
    rw [Table.entries_none (fun obs : ObservationsInner =>
      1 < obs.pttAudioSsrcs.card ∨ 1 < obs.pttVideoSsrcs.card) observations,not_not]

theorem evalL108_judged : Judged ((evalL108 observations d mode).map (·.verdict))
    (mode = "ptt" ∧ ∃ obs ∈ observations.values,∃ rec, rec ∈ obs.pttTsGapRecords)
    (∃ obs ∈ observations.values,∃ rec ∈ obs.pttTsGapRecords,tsGapOff rec) := by
  apply judged_gate
  exact judgeItems_gather observations d _ _ _ _

theorem evalL109_judged : Judged ((evalL109 observations d).map (·.verdict))
    (∃ obs ∈ observations.values,0 < obs.pliReceivedCount) False := by
  apply judged_unless (weight_eq_zero observations _)
  intro any
  split
  next => exact judged_pass any id
  next => exact judged_pass any id

theorem evalL110_judged : Judged ((evalL110 observations d).map (·.verdict))
    (∃ obs ∈ observations.values,0 < obs.pliReceivedCount) False := by
  apply judged_unless (weight_eq_zero observations _)
  intro any
  exact judged_pass any id

theorem evalL111_judged : Judged ((evalL111 observations d).map (·.verdict))
    (∃ obs ∈ observations.values,obs.tracksAckSent)
    (∃ obs ∈ observations.values,0 < obs.videoBeforeAckCount) :=
  judged_of_eq (evalL111_verdict observations d)

theorem evalL112_judged : Judged ((evalL112 observations d).map (·.verdict))
    (∃ obs ∈ observations.values,obs.tracksAckSent)
    (¬∃ obs ∈ observations.values,0 < obs.pliReceivedCount) := by
  apply judged_unless
  · simp
  · intro any
    simp only [Table.weight_pos]
    split
    next heard => exact judged_pass any (not_not_intro heard)
    next silent => exact judged_fail any silent

theorem evalL114_judged : Judged ((evalL114 observations d mode).map (·.verdict))
    (mode = "ptt" ∧ ∃ obs ∈ observations.values,∃ grant ∈ obs.floorGrants,grant.granted) False := by
  apply judged_gate
  apply judged_unless
  · rw [List.isEmpty_iff,List.filter_eq_nil_iff]
    simp only [mem_gather]
    simp
    grind
  · intro any
    exact judged_pass any id

theorem evalL115_judged : Judged ((evalL115 observations d mode).map (·.verdict))
    (mode = "ptt" ∧ ∃ obs ∈ observations.values,obs.floorRevokeReceived) False := by
  apply judged_gate
  split
  next revoked => exact judged_pass (List.any_eq_true.mp revoked) id
  next quiet => exact judged_skip (fun any => quiet (List.any_eq_true.mpr any))

theorem evalL116_judged : Judged ((evalL116 observations d mode).map (·.verdict))
    (mode = "ptt" ∧ ∃ obs ∈ observations.values,∃ position, position ∈ obs.queuePositions)
    (∃ obs ∈ observations.values,0 ∈ obs.queuePositions) := by
  apply judged_gate
  refine (judgeItems_gather observations d _ _ _ _).of_iff Iff.rfl ?_
  simp

theorem evalL117_judged : Judged ((evalL117 observations d).map (·.verdict))
    (∃ obs ∈ observations.values,∃ userId, userId ∈ obs.zombieCleanupDetected) False := by
  apply judged_unless
  · rw [List.isEmpty_iff,List.eq_nil_iff_forall_not_mem]
    simp only [mem_gather]
    grind
  · intro any
    exact judged_pass any id

theorem evalL118_judged : Judged ((evalL118 observations d).map (·.verdict))
    (∃ obs ∈ observations.values,∃ sw, sw ∈ activeSwitches obs)
    (∃ obs ∈ observations.values,∃ sw ∈ activeSwitches obs,sw.packetsAfter = false) := by
  have active := (judgeItems_gather observations d activeSwitches (fun sw => !sw.packetsAfter))
  unfold evalL118
  split
  next nothing =>
    refine judged_skip ?_
    rintro ⟨obs,member,sw,switched⟩
    have held : sw ∈ gather observations (·.simulcastLayerSwitches) :=
      (mem_gather observations _ sw).mpr ⟨obs,member,List.mem_of_mem_filter switched⟩
    rw [List.isEmpty_iff.mp nothing] at held
    contradiction
  next =>
    refine (active _ _).of_iff Iff.rfl ?_
    simp

theorem evalL119_judged : Judged ((evalL119 observations d).map (·.verdict))
    (∃ obs ∈ observations.values,∃ sw, sw ∈ tsSwitches obs)
    (∃ obs ∈ observations.values,∃ sw ∈ tsSwitches obs,(sw.2.2 - sw.2.1).toInt32 ≤ 0) := by
  unfold evalL119
  refine (judgeItems_gather observations d tsSwitches _ _ _).of_iff Iff.rfl ?_
  simp only [decide_eq_true_eq]

theorem evalL120_judged : Judged ((evalL120 observations d).map (·.verdict))
    (∃ obs ∈ observations.values,∃ sw, sw ∈ activeSwitches obs)
    (∃ obs ∈ observations.values,∃ sw ∈ activeSwitches obs,sw.keyframeAfterMs = none) := by
  unfold evalL120
  refine (judgeItems_gather observations d activeSwitches _ _ _).of_iff Iff.rfl ?_
  simp only [Option.isNone_iff_eq_none]

theorem mem_receivedScreens (ssrc : UInt32) : ssrc ∈ receivedScreens observations ↔
    ∃ obs ∈ observations.values,ssrc ∈ obs.screenShareSsrcsReceived := by
  have all (bots : List ObservationsInner) (held : Finset UInt32) :
      ssrc ∈ bots.foldl (fun received obs => received ∪ obs.screenShareSsrcsReceived) held ↔
        ssrc ∈ held ∨ ∃ obs ∈ bots,ssrc ∈ obs.screenShareSsrcsReceived := by
    induction bots generalizing held with
    | nil => simp
    | cons obs rest ih => rw [List.foldl_cons,ih,Finset.mem_union,List.exists_mem_cons_iff,or_assoc]
  rw [receivedScreens,all]
  simp

theorem evalL121_judged (order : Table.SetEnumeration UInt32) :
    Judged ((evalL121 observations d order).map (·.verdict))
      (∃ obs ∈ observations.values,∃ ssrc, obs.screenShareSsrcPublished = some ssrc)
      (∃ ssrc, (∃ obs ∈ observations.values,obs.screenShareSsrcPublished = some ssrc) ∧
        ¬∃ obs ∈ observations.values,ssrc ∈ obs.screenShareSsrcsReceived) := by
  simp only [← mem_receivedScreens]
  apply judged_unless
  · simp [List.filterMap_eq_nil_iff,Option.eq_none_iff_forall_ne_some]
  · intro any
    split
    next nobody =>
      obtain ⟨obs,member,ssrc,published⟩ := any
      exact judged_fail ⟨obs,member,ssrc,published⟩
        ⟨ssrc,⟨obs,member,published⟩,by rw [nobody]; exact Finset.notMem_empty ssrc⟩
    next =>
      apply judged_either d any
      rw [Bool.not_eq_true',← Bool.not_eq_true,List.isEmpty_iff,List.filter_eq_nil_iff]
      simp only [List.mem_filterMap,decide_eq_true_eq,not_forall,not_not]
      constructor
      · rintro ⟨ssrc,published,unseen⟩
        exact ⟨ssrc,published,unseen⟩
      · rintro ⟨ssrc,published,unseen⟩
        exact ⟨ssrc,published,unseen⟩

end eval

section evaluate
variable (orders : Orders) (observations : BotObservations) (snapshots : RecvSnapshots)
  (mode profile : String)

theorem some_report (P : Report → Prop) : someReport P (evidence observations snapshots) ↔
    ∃ snap ∈ snapshots.values,P (reportOf snap) := by
  rw [someReport,evidence]
  exact Set.exists_mem_image

theorem broken_iff : FanOutBroken snapshots ↔
    (evidence observations snapshots).2 = ∅ ∨
      someReport (fun report => 0 < report.lost) (evidence observations snapshots) ∨
      apart (evidence observations snapshots) := by
  have empty : (evidence observations snapshots).2 = ∅ ↔ snapshots.values = [] := by
    rw [evidence,Set.image_eq_empty,Set.eq_empty_iff_forall_notMem,
      List.eq_nil_iff_forall_not_mem]
    rfl
  have wide : Mismatch snapshots ↔ apart (evidence observations snapshots) := by
    simp only [Mismatch,apart,some_report,allStreams,List.mem_flatMap,reportOf,Set.mem_ofPred_eq]
    constructor
    · rintro ⟨x,⟨left,leftIn,xIn⟩,y,⟨right,rightIn,yIn⟩,same,far⟩
      exact ⟨left,leftIn,x,xIn,right,rightIn,y,yIn,same,far⟩
    · rintro ⟨left,leftIn,x,xIn,right,rightIn,y,yIn,same,far⟩
      exact ⟨x,⟨left,leftIn,xIn⟩,y,⟨right,rightIn,yIn⟩,same,far⟩
  rw [FanOutBroken,empty,wide,some_report]
  rfl

/-- Every checkpoint of the registry is judged by its criterion. -/
theorem evaluateDef_judged : ∀ d ∈ registry,
    Judged ((evaluateDef orders snapshots observations mode profile d).map (·.verdict))
      ((criterion mode profile d).seen (evidence observations snapshots))
      ((criterion mode profile d).wrong (evidence observations snapshots)) := by
  simp only [registry,List.forall_mem_cons,List.not_mem_nil,false_imp_iff,implies_true,and_true]
  refine ⟨?_,?_,?_,?_,?_,?_,?_,?_,?_,?_,?_,?_,?_,?_,?_,?_,?_,?_,?_,?_,?_⟩
  · exact evalL101_judged observations _
  · exact evalL102_judged observations _ orders.ntps
  · exact evalL103_judged observations _ orders.tss
  · exact evalL104_judged observations _ mode
  · exact evalL105_judged observations _ mode
  · exact evalL106_judged observations _ mode
  · exact evalL107_judged observations _ mode orders.audioSsrcs orders.videoSsrcs
  · exact evalL108_judged observations _ mode
  · exact evalL109_judged observations _
  · exact evalL110_judged observations _
  · exact evalL111_judged observations _
  · exact evalL112_judged observations _
  · exact (evalL113_judged snapshots _ profile orders.receivers).of_iff Iff.rfl
      (broken_iff observations snapshots)
  · exact evalL114_judged observations _ mode
  · exact evalL115_judged observations _ mode
  · exact evalL116_judged observations _ mode
  · exact evalL117_judged observations _
  · exact evalL118_judged observations _
  · exact evalL119_judged observations _
  · exact evalL120_judged observations _
  · exact evalL121_judged observations _ orders.screenSsrcs

end evaluate
end Oxlab.Scenario.Criteria
