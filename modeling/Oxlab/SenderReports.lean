import Oxlab.Bot.RtcpParser
import Oxlab.Scenario.CheckpointEval

/-! The SR checks over what the bots received.
A bot is fed datagrams of well-framed blocks; its log, and so both verdicts,
depend on the reports of each SSRC alone. -/
namespace Oxlab.SenderReports
open Common.Media Common.Rtcp Bot.RtcpParser Bot.Observations Scenario.CheckpointEval Judge Library

structure Block where
  bytes : Bytes
  whole : rtcp.Whole bytes

abbrev Datagram := List Block

def Datagram.bytes (datagram : Datagram) : Bytes := (datagram.map Block.bytes).flatten

abbrev Feeds := Table String (List Datagram)

def received (feed : List Datagram) : ObservationsInner :=
  feed.foldl (fun obs datagram => parseRtcpForSr datagram.bytes obs) {}

def observed (feeds : Feeds) : BotObservations := feeds.mapValues received

/-- The reports of a feed, whatever datagrams they came in. -/
def reports (feed : List Datagram) : List SrRecord :=
  feed.flatten.filterMap (fun block => srOf block.bytes)

def stream (feed : List Datagram) (ssrc : UInt32) : List SrRecord :=
  (reports feed).filter (fun sr => sr.ssrc = ssrc)

def SomeReport (feeds : Feeds) : Prop :=
  ∃ feed ∈ feeds.values,∃ datagram ∈ feed,∃ block ∈ datagram,IsSr block.bytes

def ntpTime (sr : SrRecord) : Nat := sr.ntpSec.toNat*2^32 + sr.ntpFrac.toNat

/-- Two reports of one SSRC, adjacent or not, the later with no later time. -/
def NtpBackward (feeds : Feeds) : Prop :=
  ∃ feed ∈ feeds.values,∃ earlier later,[earlier,later].Sublist (reports feed) ∧
    later.ssrc = earlier.ssrc ∧ ntpTime later ≤ ntpTime earlier

def advanceBy (earlier later : SrRecord) : Nat := (later.rtpTs - earlier.rtpTs).toNat

/-- Two consecutive reports of one SSRC whose RTP time stands or goes back. -/
def RtpBackward (feeds : Feeds) : Prop :=
  ∃ feed ∈ feeds.values,∃ ssrc earlier later,[earlier,later] <:+: stream feed ssrc ∧
    (advanceBy earlier later = 0 ∨ 2^31 ≤ advanceBy earlier later)

/-- The same blocks for each bot, cut into other datagrams. -/
def Regrouped (feeds others : Feeds) : Prop :=
  ∀ id,(feeds.lookup id).map List.flatten = (others.lookup id).map List.flatten

/-- The same reports of each SSRC for each bot. -/
def Reinterleaved (feeds others : Feeds) : Prop :=
  ∀ id,(feeds.lookup id).map stream = (others.lookup id).map stream

theorem parse_datagram (datagram : Datagram) (obs : ObservationsInner) :
    parseRtcpForSr datagram.bytes obs =
      (datagram.filterMap (fun block => srOf block.bytes)).foldl ObservationsInner.recordSr obs := by
  have whole : ∀ bytes ∈ datagram.map Block.bytes,rtcp.Whole bytes := by
    intro bytes member
    obtain ⟨block,_,rfl⟩ := List.mem_map.mp member
    exact block.whole
  have cut := rtcp.blocks_flatten whole rtcp.next_nil
  rw [List.append_nil] at cut
  rw [parseRtcpForSr_blocks,Datagram.bytes,cut,List.filterMap_map]
  rfl

theorem received_reports (feed : List Datagram) : (received feed).srReceived = reports feed := by
  have all (obs : ObservationsInner) :
      feed.foldl (fun obs datagram => parseRtcpForSr datagram.bytes obs) obs =
        (reports feed).foldl ObservationsInner.recordSr obs := by
    induction feed generalizing obs with
    | nil => rfl
    | cons datagram rest ih =>
      have split : reports (datagram::rest) =
          datagram.filterMap (fun block => srOf block.bytes) ++ reports rest := by
        rw [reports,List.flatten_cons,List.filterMap_append]
        rfl
      rw [List.foldl_cons,parse_datagram,ih,split,List.foldl_append]
  rw [received,all,recordSr_run]
  rfl

section stream
variable (feed : List Datagram)

theorem mem_stream {feed : List Datagram} {ssrc : UInt32} {sr : SrRecord}
    (member : sr ∈ stream feed ssrc) : sr.ssrc = ssrc :=
  of_decide_eq_true (List.mem_filter.mp member).2

theorem consecutive_iff (good : SrRecord → SrRecord → Prop) :
    (∃ earlier later,Consecutive (reports feed) earlier later ∧ good earlier later) ↔
      ∃ ssrc earlier later,[earlier,later] <:+: stream feed ssrc ∧ good earlier later := by
  constructor
  · intro found
    obtain ⟨earlier,later,near,holds⟩ := found
    exact ⟨earlier.ssrc,earlier,later,near,holds⟩
  · intro found
    obtain ⟨ssrc,earlier,later,near,holds⟩ := found
    have own := mem_stream (near.subset List.mem_cons_self)
    subst own
    exact ⟨earlier,later,near,holds⟩

theorem reports_ne_nil :
    reports feed ≠ [] ↔ ∃ datagram ∈ feed,∃ block ∈ datagram,IsSr block.bytes := by
  simp [reports,srOf,List.filterMap_eq_nil_iff]

theorem chain_all (less : SrRecord → SrRecord → Prop) [IsTrans SrRecord less]
    (ssrc : UInt32) :
    (∀ earlier later,[earlier,later] <:+: stream feed ssrc → less earlier later) ↔
      (stream feed ssrc).Pairwise less := by
  rw [← List.isChain_iff_pairwise,List.isChain_iff_forall_rel_of_append_cons_cons]
  constructor
  · intro near earlier later before after split
    exact near earlier later ⟨before,after,by simp [split]⟩
  · intro near earlier later inside
    obtain ⟨before,after,split⟩ := inside
    exact @near earlier later before after (by simp [← split])

end stream

theorem ntpOf_eq (sr : SrRecord) : ntpOf sr = ntpTime sr := by
  rw [ntpOf,ntp64,ntpTime,← Nat.shiftLeft_add_eq_or_of_lt sr.ntpFrac.toNat_lt,Nat.shiftLeft_eq]

theorem ntp_pairs (feed : List Datagram) :
    (∃ earlier later,Consecutive (reports feed) earlier later ∧ ntpOf later ≤ ntpOf earlier) ↔
      ∃ earlier later,[earlier,later].Sublist (reports feed) ∧
        later.ssrc = earlier.ssrc ∧ ntpTime later ≤ ntpTime earlier := by
  simp only [ntpOf_eq]
  constructor
  · intro found
    obtain ⟨earlier,later,near,back⟩ := found
    have own := mem_stream (near.subset (List.mem_cons_of_mem earlier List.mem_cons_self))
    exact ⟨earlier,later,near.sublist.trans List.filter_sublist,own,back⟩
  · intro found
    obtain ⟨earlier,later,within,own,back⟩ := found
    by_contra rising
    let less (a b : SrRecord) : Prop := ntpTime a < ntpTime b
    have : IsTrans SrRecord less := ⟨fun _ _ _ => Nat.lt_trans⟩
    have ordered : (stream feed earlier.ssrc).Pairwise less := by
      rw [← chain_all]
      intro a b near
      by_contra high
      exact rising ((consecutive_iff feed (fun a b => ntpTime b ≤ ntpTime a)).mpr
        ⟨earlier.ssrc,a,b,near,Nat.not_lt.mp high⟩)
    have kept := within.filter (fun sr => sr.ssrc = earlier.ssrc)
    simp only [List.filter_cons,own,decide_true,if_true,List.filter_nil] at kept
    exact Nat.not_lt.mpr back (List.pairwise_iff_forall_sublist.mp ordered kept)

section feeds
variable (feeds : Feeds)

theorem observed_values (good : List SrRecord → Prop) :
    (∃ obs ∈ (observed feeds).values,good obs.srReceived) ↔
      ∃ feed ∈ feeds.values,good (reports feed) := by
  simp [observed,Table.values_mapValues,received_reports]

theorem someReport_iff :
    (∃ obs ∈ (observed feeds).values,obs.srReceived ≠ []) ↔ SomeReport feeds := by
  rw [observed_values feeds (· ≠ [])]
  simp only [reports_ne_nil,SomeReport]

theorem ntpBackward_iff :
    (∃ obs ∈ (observed feeds).values,∃ earlier later,
      Consecutive obs.srReceived earlier later ∧ ntpOf later ≤ ntpOf earlier) ↔
      NtpBackward feeds := by
  rw [observed_values feeds (fun srs =>
    ∃ earlier later,Consecutive srs earlier later ∧ ntpOf later ≤ ntpOf earlier)]
  simp only [ntp_pairs,NtpBackward]

theorem rtpBackward_iff :
    (∃ obs ∈ (observed feeds).values,∃ earlier later,
      Consecutive obs.srReceived earlier later ∧ (later.rtpTs - earlier.rtpTs).toInt32 ≤ 0) ↔
      RtpBackward feeds := by
  rw [observed_values feeds (fun srs => ∃ earlier later,
    Consecutive srs earlier later ∧ (later.rtpTs - earlier.rtpTs).toInt32 ≤ 0)]
  simp only [toInt32_nonpos,consecutive_iff _ (fun earlier later =>
    (later.rtpTs - earlier.rtpTs).toNat = 0 ∨ 2^31 ≤ (later.rtpTs - earlier.rtpTs).toNat),
    RtpBackward,advanceBy]

theorem exists_stream {feeds others : Feeds} (same : Reinterleaved feeds others)
    (good : (UInt32 → List SrRecord) → Prop) (found : ∃ feed ∈ feeds.values,good (stream feed)) :
    ∃ feed ∈ others.values,good (stream feed) := by
  obtain ⟨feed,member,holds⟩ := found
  obtain ⟨id,own⟩ := (Table.mem_values feeds feed).mp member
  have there := same id
  rw [own,Option.map_some,eq_comm,Option.map_eq_some_iff] at there
  obtain ⟨other,lookup,streams⟩ := there
  exact ⟨other,(Table.mem_values others other).mpr ⟨id,lookup⟩,streams ▸ holds⟩

end feeds

theorem Reinterleaved.symm {feeds others : Feeds} (same : Reinterleaved feeds others) :
    Reinterleaved others feeds := fun id => (same id).symm

theorem Regrouped.reinterleaved {feeds others : Feeds} (same : Regrouped feeds others) :
    Reinterleaved feeds others := by
  intro id
  have blocks := congrArg (Option.map (fun (flat : List Block) (ssrc : UInt32) =>
    (flat.filterMap (fun block => srOf block.bytes)).filter (fun sr => sr.ssrc = ssrc))) (same id)
  rwa [Option.map_map,Option.map_map] at blocks

section same
variable {feeds others : Feeds} (same : Reinterleaved feeds others)
include same

theorem SomeReport.carry (any : SomeReport feeds) : SomeReport others := by
  have form (fs : Feeds) :
      SomeReport fs ↔ ∃ feed ∈ fs.values,∃ ssrc,stream feed ssrc ≠ [] := by
    simp only [SomeReport,← reports_ne_nil,stream,ne_eq,List.eq_nil_iff_forall_not_mem,
      List.mem_filter,decide_eq_true_eq,not_forall,not_not]
    constructor
    · intro found
      obtain ⟨feed,member,sr,logged⟩ := found
      exact ⟨feed,member,sr.ssrc,sr,logged,rfl⟩
    · intro found
      obtain ⟨feed,member,_,sr,logged,_⟩ := found
      exact ⟨feed,member,sr,logged⟩
  rw [form] at any ⊢
  exact exists_stream same (fun streams => ∃ ssrc,streams ssrc ≠ []) any

theorem NtpBackward.carry (back : NtpBackward feeds) : NtpBackward others := by
  simp only [NtpBackward,← ntp_pairs,
    consecutive_iff _ (fun earlier later => ntpOf later ≤ ntpOf earlier)] at back ⊢
  exact exists_stream same (fun streams => ∃ ssrc earlier later,
    [earlier,later] <:+: streams ssrc ∧ ntpOf later ≤ ntpOf earlier) back

theorem RtpBackward.carry (back : RtpBackward feeds) : RtpBackward others :=
  exists_stream same (fun streams => ∃ ssrc earlier later,[earlier,later] <:+: streams ssrc ∧
    (advanceBy earlier later = 0 ∨ 2^31 ≤ advanceBy earlier later)) back

end same

theorem ntpVerdict (feeds : Feeds) (d : CheckpointDef) :
    Judged ((evalL102 (observed feeds) d).map (·.verdict)) (SomeReport feeds) (NtpBackward feeds) := by
  rw [← someReport_iff,← ntpBackward_iff]
  exact evalL102_judged (observed feeds) d

theorem rtpVerdict (feeds : Feeds) (d : CheckpointDef) :
    Judged ((evalL103 (observed feeds) d).map (·.verdict)) (SomeReport feeds) (RtpBackward feeds) := by
  rw [← someReport_iff,← rtpBackward_iff]
  exact evalL103_judged (observed feeds) d

theorem verdicts_carry {feeds others : Feeds} (same : Reinterleaved feeds others)
    (d : CheckpointDef) :
    (evalL102 (observed feeds) d).map (·.verdict) = (evalL102 (observed others) d).map (·.verdict) ∧
    (evalL103 (observed feeds) d).map (·.verdict) = (evalL103 (observed others) d).map (·.verdict) := by
  have seen : SomeReport others ↔ SomeReport feeds := ⟨.carry same.symm,.carry same⟩
  have ntp : NtpBackward others ↔ NtpBackward feeds := ⟨.carry same.symm,.carry same⟩
  have rtp : RtpBackward others ↔ RtpBackward feeds := ⟨.carry same.symm,.carry same⟩
  have first := ntpVerdict others d
  have second := rtpVerdict others d
  rw [seen,ntp] at first
  rw [seen,rtp] at second
  exact ⟨(ntpVerdict feeds d).unique first,(rtpVerdict feeds d).unique second⟩

theorem NtpBackward.some {feeds : Feeds} (back : NtpBackward feeds) : SomeReport feeds := by
  obtain ⟨feed,member,earlier,later,within,_⟩ := back
  refine ⟨feed,member,(reports_ne_nil feed).mp ?_⟩
  exact List.ne_nil_of_mem (within.subset List.mem_cons_self)

theorem RtpBackward.some {feeds : Feeds} (back : RtpBackward feeds) : SomeReport feeds := by
  obtain ⟨feed,member,ssrc,earlier,later,near,_⟩ := back
  refine ⟨feed,member,(reports_ne_nil feed).mp ?_⟩
  exact List.ne_nil_of_mem (List.filter_sublist.subset (near.subset List.mem_cons_self))

/-- Both checks judge the reports of each SSRC, whatever datagrams they came in
and however the reports of different SSRCs were interleaved. -/
theorem sr_checks_judge_streams (feeds : Feeds) (d : CheckpointDef) :
    ((evalL102 (observed feeds) d).map (·.verdict) = none ↔ ¬SomeReport feeds) ∧
    ((evalL102 (observed feeds) d).map (·.verdict) = some .fail ↔ NtpBackward feeds) ∧
    ((evalL102 (observed feeds) d).map (·.verdict) = some .pass ↔
      SomeReport feeds ∧ ¬NtpBackward feeds) ∧
    ((evalL103 (observed feeds) d).map (·.verdict) = some .fail ↔ RtpBackward feeds) ∧
    ∀ others,Regrouped feeds others ∨ Reinterleaved feeds others →
      (evalL102 (observed feeds) d).map (·.verdict) = (evalL102 (observed others) d).map (·.verdict) ∧
      (evalL103 (observed feeds) d).map (·.verdict) = (evalL103 (observed others) d).map (·.verdict) := by
  have ntp := ntpVerdict feeds d
  have rtp := rtpVerdict feeds d
  refine ⟨ntp.skipped,?_,ntp.passed,?_,?_⟩
  · rw [ntp.failed]
    exact and_iff_right_of_imp NtpBackward.some
  · rw [rtp.failed]
    exact and_iff_right_of_imp RtpBackward.some
  · intro others same
    rcases same with regrouped | reinterleaved
    · exact verdicts_carry regrouped.reinterleaved d
    · exact verdicts_carry reinterleaved d

def first : Block where
  bytes := [0x80,200,0,6,0,0,0,9,0,0,0,5,0,0,0,0,0,0,0,10,0,0,0,0,0,0,0,0]
  whole := by decide

def second : Block where
  bytes := [0x80,200,0,6,0,0,0,9,0,0,0,4,0,0,0,0,0,0,0,20,0,0,0,0,0,0,0,0]
  whole := by decide

/-- Two reports of one SSRC in one datagram, and in two. -/
def together : Feeds := AList.singleton "bot-1" [[first,second]]

def apart : Feeds := AList.singleton "bot-1" [[first],[second]]

theorem sr_checks_judge_streams_split :
    (evalL102 (observed together) .l102).map (·.verdict) =
      (evalL102 (observed apart) .l102).map (·.verdict) := by
  have regrouped : Regrouped together apart := by
    intro id
    rw [together,apart,Table.lookup_singleton,Table.lookup_singleton]
    split <;> rfl
  exact ((sr_checks_judge_streams together .l102).2.2.2.2 apart (.inl regrouped)).1

end Oxlab.SenderReports
