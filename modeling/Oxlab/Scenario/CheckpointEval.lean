import Oxlab.Bot.Observations
import Oxlab.Bot.RtpSubscriber
import Oxlab.Judge.Checkpoint
import Oxlab.Library.Table

/-! Evaluation of the SR, PTT, gate and fan-out checkpoints over what all bots report.
No result means the checkpoint was skipped. -/
namespace Oxlab.Scenario.CheckpointEval
open Bot.Observations Bot.RtpSubscriber Judge Library

abbrev BotObservations := Table String ObservationsInner

def listed (lines : List String) : String := ", ".intercalate lines

def joined (lines : List String) : String := "; ".intercalate lines

def hex8 (value : UInt32) : String :=
  "0x" ++ String.ofList ((Nat.toDigits 16 value.toNat).map Char.toUpper |>.leftpad 8 '0')

section sr
variable {β : Type} (observations : BotObservations) (value : SrRecord → β)

/-- The SRs of one bot by SSRC, in order of arrival. -/
def bySsrc (obs : ObservationsInner) : Table UInt32 (List β) :=
  Table.group (·.ssrc) value obs.srReceived

def totalSr : Nat := observations.weight (fun obs => (bySsrc value obs).weight List.length)

/-- Each bot has a hash map of its own, enumerated in an order of its own. -/
def srViolations (wrong : β → β → Bool) (line : β → β → String)
    (order : String → Table.Enumeration UInt32 (List β) := default) : List String :=
  observations.entries.flatMap (fun e =>
    ((order e.1).entries (bySsrc value e.2)).flatMap (fun group =>
      ((group.2.zip group.2.tail).filter (fun pair => wrong pair.1 pair.2)).map (fun pair =>
        e.1 ++ ": SSRC=" ++ hex8 group.1 ++ " " ++ line pair.1 pair.2)))

end sr

def ntp64 (ntp : UInt32 × UInt32) : Nat := ntp.1.toNat <<< 32 ||| ntp.2.toNat

def evalL102 (observations : BotObservations) (d : CheckpointDef)
    (order : String → Table.Enumeration UInt32 (List (UInt32 × UInt32)) := default) :
    Option CheckpointResult :=
  let value (sr : SrRecord) := (sr.ntpSec,sr.ntpFrac)
  let dotted (ntp : UInt32 × UInt32) := toString ntp.1 ++ "." ++ toString ntp.2
  let violations := srViolations observations value
    (fun prev cur => ntp64 cur ≤ ntp64 prev)
    (fun prev cur => "NTP went backward (" ++ dotted prev ++ " → " ++ dotted cur ++ ")") order
  if totalSr observations value = 0 then none
  else if !violations.isEmpty then
    some (.failFromDef d (toString violations.length ++ " NTP violations: " ++ joined violations))
  else
    some (.passFromDef d ("sr_count=" ++ toString (totalSr observations value) ++
      " NTP monotonic OK"))

def evalL103 (observations : BotObservations) (d : CheckpointDef)
    (order : String → Table.Enumeration UInt32 (List UInt32) := default) :
    Option CheckpointResult :=
  let value (sr : SrRecord) := sr.rtpTs
  let violations := srViolations observations value
    (fun prev cur => (cur - prev).toInt32 ≤ 0)
    (fun prev cur => "RTP ts backward (" ++ toString prev ++ " → " ++ toString cur ++ ", Δ=" ++
      toString (cur - prev).toInt32 ++ ")") order
  if totalSr observations value = 0 then none
  else if !violations.isEmpty then
    some (.failFromDef d (toString violations.length ++ " ts violations: " ++ joined violations))
  else
    some (.passFromDef d ("sr_count=" ++ toString (totalSr observations value) ++
      " RTP ts monotonic OK"))

section eval
variable (observations : BotObservations) (d : CheckpointDef) (mode : String)

def linesOf (wrong : ObservationsInner → Bool) (line : String → ObservationsInner → String) :
    List String :=
  (observations.entries.filter (fun e => wrong e.2)).map (fun e => line e.1 e.2)

def evalL104 : Option CheckpointResult :=
  if mode ≠ "ptt" then none
  else
    let totalLeaked := observations.weight (·.pttNonSpeakerRtpCount)
    let details := linesOf observations (fun obs => 0 < obs.pttNonSpeakerRtpCount)
      (fun id obs => id ++ ": " ++ toString obs.pttNonSpeakerRtpCount ++ " packets leaked")
    if 0 < totalLeaked then
      some (.failFromDef d
        (toString totalLeaked ++ " non-speaker RTP leaked [" ++ listed details ++ "]"))
    else some (.passFromDef d "0 non-speaker RTP packets (gating OK)")

def evalL105 : Option CheckpointResult :=
  if mode ≠ "ptt" then none
  else if !observations.values.any (fun obs => 0 < obs.pttSilenceFramesAfterRelease) then none
  else
    let failures := linesOf observations
      (fun obs => 0 < obs.pttSilenceFramesAfterRelease && obs.pttSilenceFramesAfterRelease != 3)
      (fun id obs => id ++ ": " ++ toString obs.pttSilenceFramesAfterRelease ++
        " frames (expected 3)")
    if !failures.isEmpty then
      some (.failFromDef d ("silence flush mismatch: " ++ listed failures))
    else some (.passFromDef d "silence flush 3 frames OK")

def evalL106 : Option CheckpointResult :=
  if mode ≠ "ptt" then none
  else
    let checked := (observations.values.filterMap (·.pttFirstVideoWasKeyframe)).length
    let failures := linesOf observations (fun obs => obs.pttFirstVideoWasKeyframe == some false)
      (fun id _ => id ++ ": first video was NOT keyframe")
    if checked = 0 then none
    else if !failures.isEmpty then some (.failFromDef d (listed failures))
    else some (.passFromDef d (toString checked ++ " speaker switches, all keyframe-first"))

def evalL111 : Option CheckpointResult :=
  if !observations.values.any (·.tracksAckSent) then none
  else
    let totalBefore := observations.weight (·.videoBeforeAckCount)
    let details := linesOf observations (fun obs => 0 < obs.videoBeforeAckCount)
      (fun id obs => id ++ ": " ++ toString obs.videoBeforeAckCount ++ " video pkts before ACK")
    if 0 < totalBefore then
      some (.failFromDef d
        (toString totalBefore ++ " video packets before ACK [" ++ listed details ++ "]"))
    else some (.passFromDef d "0 video packets before TRACKS_ACK (gate OK)")

/-! The verdicts as conditions on what the bots observed. -/

theorem linesOf_isEmpty (wrong : ObservationsInner → Bool)
    (line : String → ObservationsInner → String) :
    (linesOf observations wrong line).isEmpty = !observations.values.any wrong := by
  rw [Bool.eq_iff_iff]
  simp [linesOf,Table.values,List.filter_eq_nil_iff]

theorem mem_zip_tail {α : Type} (items : List α) (a b : α) :
    (a,b) ∈ items.zip items.tail ↔ [a,b] <:+: items := by
  induction items with
  | nil => simp
  | cons first rest ih =>
    rw [List.infix_cons_iff,← ih]
    cases rest with
    | nil => simp [List.cons_prefix_cons]
    | cons second others => simp [List.cons_prefix_cons]

/-- Two SRs of one SSRC that came one after the other. -/
def Consecutive (srs : List SrRecord) (earlier later : SrRecord) : Prop :=
  [earlier,later] <:+: srs.filter (fun sr => sr.ssrc = earlier.ssrc)

section sr
variable {β : Type} (value : SrRecord → β)

theorem totalSr_eq_zero :
    totalSr observations value = 0 ↔ ¬∃ obs ∈ observations.values,obs.srReceived ≠ [] := by
  have counted (obs : ObservationsInner) :
      0 < (bySsrc value obs).weight List.length ↔ obs.srReceived ≠ [] := by
    rw [Table.weight_pos,bySsrc,Table.exists_group _ _ _ (fun held => 0 < held.length) (by simp)]
    simp only [List.length_map,List.length_pos_iff_exists_mem,List.mem_filter,decide_eq_true_eq,
      ne_eq,List.eq_nil_iff_forall_not_mem,not_forall,not_not]
    constructor
    · intro found
      obtain ⟨_,sr,member,_⟩ := found
      exact ⟨sr,member⟩
    · intro found
      obtain ⟨sr,member⟩ := found
      exact ⟨sr.ssrc,sr,member,rfl⟩
  rw [← Nat.le_zero,← Nat.not_lt,totalSr,Table.weight_pos]
  simp only [counted]

theorem neighbours_iff (wrong : β → β → Bool) (srs : List SrRecord) :
    (∃ ssrc,∃ pair ∈ ((srs.filter (fun sr => sr.ssrc = ssrc)).map value).zip
        ((srs.filter (fun sr => sr.ssrc = ssrc)).map value).tail,wrong pair.1 pair.2) ↔
      ∃ earlier later,Consecutive srs earlier later ∧ wrong (value earlier) (value later) := by
  simp only [← List.map_tail,List.zip_map,List.mem_map]
  constructor
  · intro found
    obtain ⟨ssrc,_,⟨⟨earlier,later⟩,paired,rfl⟩,picked⟩ := found
    have near := (mem_zip_tail _ earlier later).mp paired
    have member := List.mem_filter.mp (near.subset List.mem_cons_self)
    have own : earlier.ssrc = ssrc := of_decide_eq_true member.2
    subst own
    exact ⟨earlier,later,near,picked⟩
  · intro found
    obtain ⟨earlier,later,near,picked⟩ := found
    exact ⟨earlier.ssrc,_,⟨(earlier,later),(mem_zip_tail _ earlier later).mpr near,rfl⟩,picked⟩

theorem srViolations_isEmpty (wrong : β → β → Bool) (line : β → β → String)
    (order : String → Table.Enumeration UInt32 (List β)) :
    (srViolations observations value wrong line order).isEmpty = true ↔
      ¬∃ obs ∈ observations.values,∃ earlier later,Consecutive obs.srReceived earlier later ∧
        wrong (value earlier) (value later) := by
  have grouped (obs : ObservationsInner) :
      (∀ group ∈ (bySsrc value obs).entries,
        ¬∃ pair ∈ group.2.zip group.2.tail,wrong pair.1 pair.2) ↔
      ¬∃ earlier later,Consecutive obs.srReceived earlier later ∧
        wrong (value earlier) (value later) := by
    rw [← neighbours_iff value wrong,← Table.exists_group (·.ssrc) value obs.srReceived
      (fun held => ∃ pair ∈ held.zip held.tail,wrong pair.1 pair.2) (by simp),bySsrc]
    exact Table.entries_none
      (fun held : List β => ∃ pair ∈ held.zip held.tail,wrong pair.1 pair.2) _
  rw [← Table.entries_none]
  simp only [← grouped,List.isEmpty_iff,srViolations,List.flatMap_eq_nil_iff,List.map_eq_nil_iff,
    List.filter_eq_nil_iff,not_exists,not_and,Table.Enumeration.mem]

end sr

def ntpOf (sr : SrRecord) : Nat := ntp64 (sr.ntpSec,sr.ntpFrac)

theorem toInt32_nonpos (value : UInt32) :
    value.toInt32 ≤ 0 ↔ value.toNat = 0 ∨ 2^31 ≤ value.toNat := by
  have signed : value.toInt32.toInt =
      if 2*value.toNat < 2^32 then (value.toNat : Int) else value.toNat - 2^32 :=
    BitVec.toInt_eq_toNat_cond value.toBitVec
  have bound := value.toNat_lt
  rw [Int32.le_iff_toInt_le,signed,Int32.toInt_zero]
  split <;> omega

/-- Skipped unless there was something to judge, and then failed for `wrong`. -/
structure Judged (result : Option Verdict) (seen wrong : Prop) : Prop where
  skipped : result = none ↔ ¬seen
  failed : result = some .fail ↔ seen ∧ wrong
  passed : result = some .pass ↔ seen ∧ ¬wrong

theorem Judged.unique {left right : Option Verdict} {seen wrong : Prop}
    (first : Judged left seen wrong) (second : Judged right seen wrong) : left = right := by
  cases value : left with
  | none => exact (second.skipped.mpr (first.skipped.mp value)).symm
  | some verdict =>
    cases verdict with
    | pass => exact (second.passed.mpr (first.passed.mp value)).symm
    | fail => exact (second.failed.mpr (first.failed.mp value)).symm

section judged
variable {seen wrong : Prop}

theorem judged_skip (unseen : ¬seen) : Judged none seen wrong :=
  ⟨by simp [unseen],by simp [unseen],by simp [unseen]⟩

theorem judged_fail (any : seen) (bad : wrong) : Judged (some .fail) seen wrong :=
  ⟨by simp [any],by simp [any,bad],by simp [bad]⟩

theorem judged_pass (any : seen) (good : ¬wrong) : Judged (some .pass) seen wrong :=
  ⟨by simp [any],by simp [good],by simp [any,good]⟩

theorem Judged.of_iff {result : Option Verdict} {seen' wrong' : Prop}
    (judged : Judged result seen wrong) (sameSeen : seen ↔ seen') (sameWrong : wrong ↔ wrong') :
    Judged result seen' wrong' := by
  rw [← sameSeen,← sameWrong]
  exact judged

theorem judged_of_eq [Decidable seen] [Decidable wrong] {result : Option Verdict}
    (verdict : result = if seen then some (if wrong then .fail else .pass) else none) :
    Judged result seen wrong := by
  rw [verdict]
  by_cases any : seen
  · rw [if_pos any]
    by_cases bad : wrong
    · rw [if_pos bad]
      exact judged_fail any bad
    · rw [if_neg bad]
      exact judged_pass any bad
  · rw [if_neg any]
    exact judged_skip any

theorem judged_unless {on : Prop} [Decidable on] {result : Option CheckpointResult}
    (nothing : on ↔ ¬seen) (inside : seen → Judged (result.map (·.verdict)) seen wrong) :
    Judged ((if on then none else result).map (·.verdict)) seen wrong := by
  by_cases skipped : on
  · rw [if_pos skipped]
    exact judged_skip (nothing.mp skipped)
  · rw [if_neg skipped]
    exact inside (not_not.mp (nothing.not.mp skipped))

theorem judged_gate {on : Prop} [Decidable on] {result : Option CheckpointResult}
    (inside : Judged (result.map (·.verdict)) seen wrong) :
    Judged ((if ¬on then none else result).map (·.verdict)) (on ∧ seen) wrong := by
  by_cases opened : on
  · rw [if_neg (not_not_intro opened)]
    exact inside.of_iff (by simp [opened]) Iff.rfl
  · rw [if_pos opened]
    exact judged_skip (fun both => opened both.1)

theorem judged_either {on : Prop} [Decidable on] (any : seen) (same : on ↔ wrong)
    (failText passText : String) :
    Judged ((if on then some (CheckpointResult.failFromDef d failText)
      else some (CheckpointResult.passFromDef d passText)).map (·.verdict)) seen wrong := by
  by_cases bad : on
  · rw [if_pos bad]
    exact judged_fail any (same.mp bad)
  · rw [if_neg bad]
    exact judged_pass any (same.not.mp bad)

theorem judged_check {total : Nat} {violations : List String}
    (nothing : total = 0 ↔ ¬seen) (clear : violations.isEmpty = true ↔ ¬wrong)
    (failText passText : String) :
    Judged ((if total = 0 then none
      else if !violations.isEmpty then some (CheckpointResult.failFromDef d failText)
      else some (CheckpointResult.passFromDef d passText)).map (·.verdict)) seen wrong := by
  apply judged_unless nothing
  intro any
  apply judged_either d any
  rw [Bool.not_eq_true',← Bool.not_eq_true,clear,not_not]

end judged

theorem evalL102_judged
    (order : String → Table.Enumeration UInt32 (List (UInt32 × UInt32)) := default) :
    Judged ((evalL102 observations d order).map (·.verdict))
    (∃ obs ∈ observations.values,obs.srReceived ≠ [])
    (∃ obs ∈ observations.values,∃ earlier later,
      Consecutive obs.srReceived earlier later ∧ ntpOf later ≤ ntpOf earlier) := by
  apply judged_check d (totalSr_eq_zero observations _)
  rw [srViolations_isEmpty]
  simp only [decide_eq_true_eq]
  rfl

theorem evalL103_judged (order : String → Table.Enumeration UInt32 (List UInt32) := default) :
    Judged ((evalL103 observations d order).map (·.verdict))
    (∃ obs ∈ observations.values,obs.srReceived ≠ [])
    (∃ obs ∈ observations.values,∃ earlier later,
      Consecutive obs.srReceived earlier later ∧ (later.rtpTs - earlier.rtpTs).toInt32 ≤ 0) := by
  apply judged_check d (totalSr_eq_zero observations _)
  rw [srViolations_isEmpty]
  simp only [decide_eq_true_eq]

theorem evalL104_verdict : (evalL104 observations d mode).map (·.verdict) =
    if mode = "ptt" then
      some (if ∃ obs ∈ observations.values, 0 < obs.pttNonSpeakerRtpCount then .fail else .pass)
    else none := by
  simp only [evalL104,ne_eq,ite_not,Table.weight_pos]
  split
  next => split <;> rfl
  next => rfl

theorem evalL105_verdict : (evalL105 observations d mode).map (·.verdict) =
    if mode = "ptt" ∧ ∃ obs ∈ observations.values, 0 < obs.pttSilenceFramesAfterRelease then
      some (if ∃ obs ∈ observations.values,
          0 < obs.pttSilenceFramesAfterRelease ∧ obs.pttSilenceFramesAfterRelease ≠ 3
        then .fail else .pass)
    else none := by
  simp only [evalL105,ne_eq,ite_not,linesOf_isEmpty,Bool.not_not,Bool.not_eq_true',
    ← Bool.not_eq_true,List.any_eq_true,Bool.and_eq_true,decide_eq_true_eq,bne_iff_ne,ite_and]
  split
  next =>
    split
    next => split <;> rfl
    next => rfl
  next => rfl

theorem evalL106_verdict : (evalL106 observations d mode).map (·.verdict) =
    if mode = "ptt" ∧ ∃ obs ∈ observations.values, obs.pttFirstVideoWasKeyframe.isSome then
      some (if ∃ obs ∈ observations.values, obs.pttFirstVideoWasKeyframe = some false
        then .fail else .pass)
    else none := by
  have checked : (observations.values.filterMap (·.pttFirstVideoWasKeyframe)).length = 0 ↔
      ¬∃ obs ∈ observations.values, obs.pttFirstVideoWasKeyframe.isSome := by
    simp
  simp only [evalL106,ne_eq,ite_not,linesOf_isEmpty,Bool.not_not,checked,List.any_eq_true,
    beq_iff_eq,ite_and]
  split
  next =>
    split
    next => split <;> rfl
    next => rfl
  next => rfl

theorem evalL111_verdict : (evalL111 observations d).map (·.verdict) =
    if ∃ obs ∈ observations.values, obs.tracksAckSent then
      some (if ∃ obs ∈ observations.values, 0 < obs.videoBeforeAckCount then .fail else .pass)
    else none := by
  simp only [evalL111,Table.weight_pos,Bool.not_eq_true',← Bool.not_eq_true,List.any_eq_true,ite_not]
  split
  next => split <;> rfl
  next => rfl

end eval

abbrev RecvSnapshots := Table String RecvSnapshot

section fanOut
variable (recvSnapshots : RecvSnapshots) (d : CheckpointDef) (profile : String)

def ssrcReceivers : Table UInt32 (List (String × Nat)) :=
  Table.group (·.2.ssrc) (fun r => (r.1,r.2.packetsReceived))
    (recvSnapshots.entries.flatMap (fun e => e.2.streams.map (fun stream => (e.1,stream))))

/-- The largest and the smallest count less than two apart are no mismatch. -/
def spread (receivers : List (String × Nat)) : Nat :=
  (receivers.map (·.2)).max?.getD 0 - (receivers.map (·.2)).min?.getD 0

def mismatched (receivers : List (String × Nat)) : Bool :=
  2 ≤ receivers.length && 2 < spread receivers

def evalL113 (order : Table.Enumeration UInt32 (List (String × Nat)) := default) :
    Option CheckpointResult :=
  if profile ≠ "pristine" then none
  else if recvSnapshots.entries.isEmpty then some (.failFromDef d "no recv data")
  else
    let totalLostAll := recvSnapshots.weight (·.totalLost)
    let lossDetails := (recvSnapshots.entries.filter (fun e => 0 < e.2.totalLost)).map (fun e =>
      e.1 ++ ":lost=" ++ toString e.2.totalLost)
    if 0 < totalLostAll then
      some (.failFromDef d
        ("total_lost=" ++ toString totalLostAll ++ " [" ++ listed lossDetails ++ "]"))
    else
      let mismatchDetails := ((order.entries (ssrcReceivers recvSnapshots)).filter (fun e =>
        mismatched e.2)).map (fun e =>
          "SSRC=" ++ hex8 e.1 ++ " Δ=" ++ toString (spread e.2) ++ " [" ++
            ",".intercalate (e.2.map (fun r => r.1 ++ "=" ++ toString r.2)) ++ "]")
      if !mismatchDetails.isEmpty then
        some (.failFromDef d ("cross-subscriber mismatch: " ++ joined mismatchDetails))
      else
        some (.passFromDef d ("total_rx=" ++ toString (recvSnapshots.weight (·.totalPackets)) ++
          " lost=0 cross-check=OK (" ++ toString recvSnapshots.entries.length ++ " subscribers)"))

def allStreams : List SsrcRecvMetrics := recvSnapshots.values.flatMap (·.streams)

/-- Two reports of one SSRC more than two packets apart. -/
def Mismatch : Prop :=
  ∃ x ∈ allStreams recvSnapshots,∃ y ∈ allStreams recvSnapshots,
    x.ssrc = y.ssrc ∧ x.packetsReceived + 2 < y.packetsReceived

theorem spread_iff (receivers : List (String × Nat)) : 2 < spread receivers ↔
    ∃ x ∈ receivers,∃ y ∈ receivers,x.2 + 2 < y.2 := by
  rw [spread]
  cases top : (receivers.map (·.2)).max? with
  | none =>
    have nobody : receivers = [] := List.map_eq_nil_iff.mp (List.max?_eq_none_iff.mp top)
    simp [nobody]
  | some most =>
    cases bottom : (receivers.map (·.2)).min? with
    | none =>
      have nobody : receivers = [] := List.map_eq_nil_iff.mp (List.min?_eq_none_iff.mp bottom)
      subst nobody
      contradiction
    | some least =>
      obtain ⟨mostIn,above⟩ := List.max?_eq_some_iff.mp top
      obtain ⟨leastIn,below⟩ := List.min?_eq_some_iff.mp bottom
      rw [Option.getD_some,Option.getD_some]
      constructor
      · intro apart
        obtain ⟨x,xIn,low⟩ := List.mem_map.mp leastIn
        obtain ⟨y,yIn,high⟩ := List.mem_map.mp mostIn
        exact ⟨x,xIn,y,yIn,by omega⟩
      · intro found
        obtain ⟨x,xIn,y,yIn,apart⟩ := found
        have high := above y.2 (List.mem_map_of_mem yIn)
        have low := below x.2 (List.mem_map_of_mem xIn)
        omega

theorem mismatched_iff (receivers : List (String × Nat)) : mismatched receivers = true ↔
    ∃ x ∈ receivers,∃ y ∈ receivers,x.2 + 2 < y.2 := by
  simp only [mismatched,Bool.and_eq_true,decide_eq_true_eq,← spread_iff]
  apply and_iff_right_of_imp
  intro wide
  obtain ⟨x,xIn,y,yIn,apart⟩ := (spread_iff receivers).mp wide
  by_contra few
  obtain ⟨only,alone⟩ := List.length_eq_one_iff.mp
    (show receivers.length = 1 by have := List.length_pos_of_mem xIn; omega)
  rw [alone,List.mem_singleton] at xIn yIn
  rw [xIn,yIn] at apart
  omega

theorem mismatch_iff : Mismatch recvSnapshots ↔
    ∃ receivers ∈ (ssrcReceivers recvSnapshots).values,mismatched receivers = true := by
  have reported (stream : SsrcRecvMetrics) : stream ∈ allStreams recvSnapshots ↔
      ∃ id,(id,stream) ∈ recvSnapshots.entries.flatMap (fun e =>
        e.2.streams.map (fun stream => (e.1,stream))) := by
    simp only [allStreams,Table.values,List.mem_flatMap,List.mem_map,Prod.mk.injEq]
    constructor
    · intro found
      obtain ⟨_,⟨e,member,rfl⟩,inside⟩ := found
      exact ⟨e.1,e,member,stream,inside,rfl,rfl⟩
    · intro found
      obtain ⟨id,e,member,_,inside,_,rfl⟩ := found
      exact ⟨e.2,⟨e,member,rfl⟩,inside⟩
  rw [ssrcReceivers,Table.exists_group _ _ _ (fun receivers => mismatched receivers = true) (by decide)]
  simp only [mismatched_iff,Mismatch,reported,List.mem_map,List.mem_filter,decide_eq_true_eq]
  constructor
  · intro found
    obtain ⟨x,⟨left,xIn⟩,y,⟨right,yIn⟩,own,apart⟩ := found
    exact ⟨y.ssrc,_,⟨(left,x),⟨xIn,own⟩,rfl⟩,_,⟨(right,y),⟨yIn,rfl⟩,rfl⟩,apart⟩
  · intro found
    obtain ⟨ssrc,_,⟨⟨left,x⟩,⟨xIn,xOwn⟩,rfl⟩,_,⟨⟨right,y⟩,⟨yIn,yOwn⟩,rfl⟩,apart⟩ := found
    exact ⟨x,⟨left,xIn⟩,y,⟨right,yIn⟩,xOwn.trans yOwn.symm,apart⟩

/-- What fails the gate: nothing received, a loss, or two reports apart. -/
def FanOutBroken : Prop :=
  recvSnapshots.values = [] ∨ (∃ snap ∈ recvSnapshots.values,0 < snap.totalLost) ∨
    Mismatch recvSnapshots

theorem evalL113_judged (order : Table.Enumeration UInt32 (List (String × Nat)) := default) :
    Judged ((evalL113 recvSnapshots d profile order).map (·.verdict)) (profile = "pristine")
      (FanOutBroken recvSnapshots) := by
  have empty : recvSnapshots.entries.isEmpty = true ↔ recvSnapshots.values = [] := by
    simp [Table.values]
  have details (line : (e : Sigma fun _ : UInt32 => List (String × Nat)) → String) :
      (((order.entries (ssrcReceivers recvSnapshots)).filter (fun e => mismatched e.2)).map
        line).isEmpty = true ↔ ¬Mismatch recvSnapshots := by
    rw [mismatch_iff,← Table.entries_none]
    simp [List.filter_eq_nil_iff,Table.Enumeration.mem]
  unfold evalL113
  by_cases pristine : profile = "pristine"
  · rw [if_neg (not_not_intro pristine)]
    by_cases nobody : recvSnapshots.values = []
    · rw [if_pos (empty.mpr nobody)]
      exact judged_fail pristine (Or.inl nobody)
    · rw [if_neg (empty.not.mpr nobody)]
      simp only [Table.weight_pos]
      by_cases lost : ∃ snap ∈ recvSnapshots.values,0 < snap.totalLost
      · rw [if_pos lost]
        exact judged_fail pristine (Or.inr (Or.inl lost))
      · rw [if_neg lost]
        split
        next some_details =>
          refine judged_fail pristine (Or.inr (Or.inr ?_))
          by_contra clear
          rw [(details _).mpr clear] at some_details
          contradiction
        next no_details =>
          rw [Bool.not_eq_true',Bool.not_eq_false,details] at no_details
          refine judged_pass pristine ?_
          rintro (nothing | loss | mismatch)
          · exact nobody nothing
          · exact lost loss
          · exact no_details mismatch
  · rw [if_pos pristine]
    exact judged_skip pristine

theorem evalL113_pass :
    (evalL113 recvSnapshots d "pristine").map (·.verdict) = some .pass ↔
      recvSnapshots.values ≠ [] ∧ (∀ snap ∈ recvSnapshots.values,snap.totalLost = 0) ∧
        ¬Mismatch recvSnapshots := by
  rw [(evalL113_judged recvSnapshots d "pristine").passed,FanOutBroken]
  simp

end fanOut
end Oxlab.Scenario.CheckpointEval
