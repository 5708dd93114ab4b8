import Oxlab.ConferenceReport
import Oxlab.ReceivePaths
import Oxlab.Scenario.Criteria

/-! The report of a fan-out benchmark.
One publisher sends, and the server hands each subscriber what the publisher's socket
took, in order, and may lose some of it; each subscriber sums up its own latencies, and
the report puts their figures together. -/
namespace Oxlab.FanOutReport
open Common.Media Library Cli.Capacity Bench.Media Bench.Conference ConferenceReport
open ConferenceRun (sentMicros takeAll takeAll_charges)
open LossAccounting (span)
open Scenario.Criteria (lt_foldl_max)

section frames
variable (args : Args) (taken : List Tick)

def frame (k : Nat) : Bytes :=
  let loop := SendLoop.ticks args.fps (taken.take k)
  buildFakeRtp 90000 loop.seq loop.timestamp args.pktSize (sentMicros taken k)

theorem frame_header {k : Nat} (inside : k < taken.length) :
    12 ≤ (frame args taken k).length ∧ u16At (frame args taken k) 2 = UInt16.ofNat k := by
  let loop := SendLoop.ticks args.fps (taken.take k)
  have seq : loop.seq = UInt16.ofNat k := by
    rw [SendLoop.ticks_seq,List.length_take,Nat.min_eq_left (by omega)]
  obtain ⟨rest,layout,_⟩ := buildFakeRtp_layout 90000 loop.seq loop.timestamp args.pktSize
    (sentMicros taken k)
  rw [frame,layout]
  refine ⟨?_,?_⟩
  · rw [List.length_append,fakeHeader_length]
    omega
  · rw [fakeHeader_seq,seq]

/-- A packet that a subscriber decrypts: which, and when it came. -/
structure Heard where
  index : Nat
  micros : Nat
  deriving DecidableEq

namespace Heard

def packet (h : Heard) : Bytes × Nat := (frame args taken h.index,h.micros)

/-- How long the packet was under way, where it carries its send time. -/
def latency (h : Heard) : Option Nat :=
  let sent := (sentMicros taken h.index).toNat
  if 20 ≤ args.pktSize ∧ 0 < sent then some (h.micros - sent) else none

theorem packet_latency (h : Heard) :
    latencyAt 12 (h.packet args taken).1 (h.packet args taken).2 = h.latency args taken := by
  let loop := SendLoop.ticks args.fps (taken.take h.index)
  obtain ⟨rest,layout,latency⟩ := buildFakeRtp_layout 90000 loop.seq loop.timestamp args.pktSize
    (sentMicros taken h.index)
  rw [packet,frame,layout]
  exact latency h.micros

end Heard

end frames

/-- A subscriber's name: its number in three digits at least. -/
def subId (i : Nat) : String :=
  let digits := toString (i+1)
  "S" ++ "".pushn '0' (3 - digits.length) ++ digits

/-- A run of the benchmark: what the publisher and each subscriber's task met. -/
structure Ran (args : Args) (srtp : SrtpCtx) where
  taken : List Tick
  ctx : Fin args.subscribers.toNat → srtp.Ctx
  received : Fin args.subscribers.toNat → List Datagram
  heard : Fin args.subscribers.toNat → List Heard
  relayed : ∀ j,((heard j).map (·.index)).Sublist (handedOver taken)
  decrypted : ∀ j,RecvLoop.opened (ctx j) (received j) = (heard j).map (Heard.packet args taken)

namespace Ran
variable {args : Args} {srtp : SrtpCtx} (run : Ran args srtp)

def handles : List (Option SubDetail) :=
  List.ofFn (fun j => subscriberRecvLoop srtp (subId j) (run.ctx j) (run.received j))

def latencies (j : Fin args.subscribers.toNat) : List Nat :=
  (run.heard j).filterMap (Heard.latency args run.taken)

theorem built (j : Fin args.subscribers.toNat) :
    ∀ h ∈ run.heard j,h.index < run.taken.length := by
  intro h member
  have listed := (run.relayed j).subset (List.mem_map_of_mem member)
  exact List.mem_range.mp (List.mem_of_mem_filter listed)

theorem ordered (j : Fin args.subscribers.toNat) :
    ((run.heard j).map (·.index)).IsChain (fun a b => a < b) :=
  List.isChain_iff_pairwise.mpr ((handedOver_sorted run.taken).sublist (run.relayed j))

end Ran

/-- What a subscriber's result says of the packets it has decrypted. -/
structure Accounts {args : Args} {srtp : SrtpCtx} (run : Ran args srtp)
    (j : Fin args.subscribers.toNat) (d : SubDetail) : Prop where
  received : d.rxPackets = (run.heard j).length
  charged : d.rxLost + d.rxPackets ≤ span ((run.heard j).map (·.index))
  latency : d.latency = sortedStats (run.latencies j)

section report
variable {args : Args} {srtp : SrtpCtx} (run : Ran args srtp)

theorem subscriber_accounts (j : Fin args.subscribers.toNat) :
    ∃ d, subscriberRecvLoop srtp (subId j) (run.ctx j) (run.received j) = some d ∧
      Accounts run j d := by
  have headers : ∀ item ∈ RecvLoop.opened (run.ctx j) (run.received j),12 ≤ item.1.length := by
    intro item member
    rw [run.decrypted j] at member
    obtain ⟨h,listed,rfl⟩ := List.mem_map.mp member
    exact (frame_header args run.taken (run.built j h listed)).1
  obtain ⟨last,ran,packets,lost,latencies⟩ := ReceivePaths.subscriber_recv (run.received j)
    { srtp := run.ctx j } .new rfl headers
  obtain ⟨received,charged,_⟩ := takeAll_charges (Heard.packet args run.taken) (·.index)
    (run.heard j) (fun h member => (frame_header args run.taken (run.built j h member)).2)
    (run.ordered j)
  rw [run.decrypted j] at packets lost latencies
  have counted : last.rxPackets = (run.heard j).length := packets.trans received
  have missed : last.lost =
      (takeAll ((run.heard j).map (Heard.packet args run.taken)) .new).lost := lost
  refine ⟨_,by rw [subscriberRecvLoop,ran]; rfl,counted,?_,?_⟩
  · change last.lost + last.rxPackets ≤ _
    rw [missed,counted]
    exact charged
  · change sortedStats last.latencies = _
    rw [latencies,List.filterMap_map]
    congr 1
    exact List.filterMap_congr (fun h _ => h.packet_latency args run.taken)

theorem handles_details : ∃ detail : Fin args.subscribers.toNat → SubDetail,
    run.handles.reduceOption = List.ofFn detail ∧ ∀ j,Accounts run j (detail j) := by
  choose detail ran accounts using subscriber_accounts run
  refine ⟨detail,?_,accounts⟩
  have all : run.handles = (List.ofFn detail).map some := by
    rw [Ran.handles,List.map_ofFn]
    exact congrArg List.ofFn (funext ran)
  rw [all]
  change List.filterMap id ((List.ofFn detail).map some) = _
  rw [List.filterMap_map]
  exact List.filterMap_some

theorem sum_details (detail : Fin args.subscribers.toNat → SubDetail) (figure : SubDetail → Nat) :
    ((List.ofFn detail).map figure).sum = ∑ j, figure (detail j) := by
  rw [List.map_ofFn,List.sum_ofFn]
  rfl

theorem heard_le (j : Fin args.subscribers.toNat) :
    (run.heard j).length ≤ run.taken.countP Tick.handed := by
  have relayed := (run.relayed j).length_le
  rwa [List.length_map,handedOver_length] at relayed

theorem heard_all :
    (∑ j, (run.heard j).length = args.subscribers.toNat*run.taken.countP Tick.handed) ↔
      ∀ j,(run.heard j).map (·.index) = handedOver run.taken := by
  have whole : args.subscribers.toNat*run.taken.countP Tick.handed =
      ∑ _j : Fin args.subscribers.toNat, run.taken.countP Tick.handed := by
    rw [Finset.sum_const,Finset.card_univ,Fintype.card_fin,Nat.nsmul_eq_mul]
  rw [whole,Finset.sum_eq_sum_iff_of_le (fun j _ => heard_le run j)]
  constructor
  · intro equal j
    apply (run.relayed j).eq_of_length
    rw [List.length_map,handedOver_length]
    exact equal j (Finset.mem_univ j)
  · intro none_missing j _
    rw [← handedOver_length,← none_missing j,List.length_map]

theorem sum_le_each {n : Nat} {share : Fin n → Nat} {bound : Nat} (each : ∀ j,share j ≤ bound) :
    ∑ j, share j ≤ n*bound := by
  have total := Finset.sum_le_card_nsmul Finset.univ share bound (fun j _ => each j)
  rwa [Finset.card_univ,Fintype.card_fin,Nat.nsmul_eq_mul] at total

end report

section peaks
variable {n : Nat} {lats : Fin n → List Nat} {peak : Fin n → Nat}

theorem peak_le (peak : Fin n → Nat) (j : Fin n) : peak j ≤ (List.ofFn peak).foldl max 0 := by
  by_contra above
  have self := (lt_foldl_max 0 (List.ofFn peak) ((List.ofFn peak).foldl max 0)).mpr
    (Or.inr ⟨peak j,List.mem_ofFn.mpr ⟨j,rfl⟩,Nat.lt_of_not_le above⟩)
  exact absurd self (Nat.lt_irrefl _)

theorem peak_reached (measured : ∀ j,lats j ≠ [] → peak j ∈ lats j)
    (nothing : ∀ j,lats j = [] → peak j = 0) (some : (List.ofFn lats).flatten ≠ []) :
    (List.ofFn peak).foldl max 0 ∈ (List.ofFn lats).flatten := by
  have reached : ∃ j,lats j ≠ [] ∧ peak j = (List.ofFn peak).foldl max 0 := by
    obtain ⟨top,named⟩ : ∃ top, top = (List.ofFn peak).foldl max 0 := ⟨_,rfl⟩
    have bounded (j : Fin n) : peak j ≤ top := named ▸ peak_le peak j
    rw [← named]
    cases top with
    | zero =>
      obtain ⟨l,listed⟩ := List.exists_mem_of_ne_nil _ some
      obtain ⟨own,member,inside⟩ := List.mem_flatten.mp listed
      obtain ⟨j,rfl⟩ := List.mem_ofFn.mp member
      exact ⟨j,List.ne_nil_of_mem inside,Nat.le_zero.mp (bounded j)⟩
    | succ below =>
      have higher := (lt_foldl_max 0 (List.ofFn peak) below).mp (by omega)
      obtain ⟨value,member,above⟩ := higher.resolve_left (Nat.not_lt_zero below)
      obtain ⟨j,rfl⟩ := List.mem_ofFn.mp member
      refine ⟨j,?_,Nat.le_antisymm (bounded j) above⟩
      intro empty
      rw [nothing j empty] at above
      exact absurd above (Nat.not_lt_zero below)
  obtain ⟨j,measures,same⟩ := reached
  rw [← same]
  exact List.mem_flatten.mpr ⟨lats j,List.mem_ofFn.mpr ⟨j,rfl⟩,measured j measures⟩

end peaks

theorem sortedStats_avg (lats : List Nat) : (sortedStats lats).avg ≤ (sortedStats lats).max := by
  by_cases some : lats = []
  · rw [some]
    exact le_refl 0
  · have described := sortedStats_describes some
    have card : (0 : ℚ) < (lats : Multiset Nat).card :=
      Nat.cast_pos.mpr (List.length_pos_iff.mpr some)
    have bounded : (lats : Multiset Nat).sum ≤
        (lats : Multiset Nat).card*(sortedStats lats).max := by
      have each := Multiset.sum_le_card_nsmul (lats : Multiset Nat) (sortedStats lats).max
        described.highest
      rwa [Nat.nsmul_eq_mul] at each
    have cast : ((lats : Multiset Nat).sum : ℚ) ≤
        (lats : Multiset Nat).card*(sortedStats lats).max := by
      exact_mod_cast bounded
    rw [← described.avg,mul_comm] at cast
    exact le_of_mul_le_mul_left cast card

theorem latencyAvg_le {details : List SubDetail} {top : ℚ} (nonneg : 0 ≤ top)
    (each : ∀ d ∈ details,d.latency.avg ≤ top) : latencyAvg details ≤ top := by
  unfold latencyAvg
  generalize kept : (details.map (·.latency.avg)).filter (fun avg => 0 < avg) = averages
  simp only
  split
  next => exact nonneg
  next some =>
    have long : (0 : ℚ) < averages.length := by
      apply Nat.cast_pos.mpr
      rw [List.length_pos_iff]
      simpa using some
    rw [div_le_iff₀ long]
    have bounded : ∀ avg ∈ averages,avg ≤ top := by
      intro avg member
      rw [← kept] at member
      obtain ⟨d,listed,rfl⟩ := List.mem_map.mp (List.mem_of_mem_filter member)
      exact each d listed
    have total := List.sum_le_card_nsmul averages top bounded
    rwa [nsmul_eq_mul,mul_comm] at total

/-- What the latency figures of a report say of all that was measured. -/
structure Tells (r : BenchResult) (lats : List Nat) : Prop where
  mostly : 95*lats.length ≤ 100*lats.countP (fun l => l ≤ r.latencyP95Us)
  highest : ∀ l ∈ lats,l ≤ r.latencyMaxUs
  measured : lats ≠ [] → r.latencyP95Us ∈ lats ∧ r.latencyMaxUs ∈ lats
  avg : r.latencyAvgUs ≤ r.latencyMaxUs

section report
variable {args : Args} {srtp : SrtpCtx} (run : Ran args srtp)

def allLatencies : List Nat := (List.ofFn run.latencies).flatten

theorem mostly_all {p95 : Nat}
    (above : ∀ j,(sortedStats (run.latencies j)).p95 ≤ p95) :
    95*(allLatencies run).length ≤ 100*(allLatencies run).countP (fun l => l ≤ p95) := by
  rw [allLatencies,List.length_flatten,List.countP_flatten,← List.sum_map_mul_left,
    ← List.sum_map_mul_left,List.map_ofFn,List.map_ofFn,List.sum_ofFn,List.sum_ofFn]
  apply Finset.sum_le_sum
  intro j _
  change 95*(run.latencies j).length ≤ 100*(run.latencies j).countP (fun l => l ≤ p95)
  by_cases some : run.latencies j = []
  · rw [some]
    exact Nat.le_refl 0
  · have mostly := (sortedStats_describes some).mostly
    rw [Multiset.coe_card,Multiset.coe_countP] at mostly
    have more : (run.latencies j).countP (fun l => l ≤ (sortedStats (run.latencies j)).p95) ≤
        (run.latencies j).countP (fun l => l ≤ p95) := by
      apply List.countP_mono_left
      intro l _ within
      exact decide_eq_true ((of_decide_eq_true within).trans (above j))
    omega

theorem details_tell {detail : Fin args.subscribers.toNat → SubDetail}
    (accounts : ∀ j,Accounts run j (detail j)) {r : BenchResult}
    (avg : r.latencyAvgUs = latencyAvg (List.ofFn detail))
    (p95 : r.latencyP95Us = ((List.ofFn detail).map (·.latency.p95)).foldl max 0)
    (max : r.latencyMaxUs = ((List.ofFn detail).map (·.latency.max)).foldl max 0) :
    Tells r (allLatencies run) := by
  rw [List.map_ofFn] at p95 max
  have own (j : Fin args.subscribers.toNat) :
      (detail j).latency = sortedStats (run.latencies j) := (accounts j).latency
  have described {j : Fin args.subscribers.toNat} (some : run.latencies j ≠ []) :
      Describes (detail j).latency (run.latencies j) := by
    rw [own]
    exact sortedStats_describes some
  have nothing {j : Fin args.subscribers.toNat} (none : run.latencies j = []) :
      (detail j).latency.p95 = 0 ∧ (detail j).latency.max = 0 := by
    rw [own,none]
    exact ⟨rfl,rfl⟩
  have topped (j : Fin args.subscribers.toNat) : (detail j).latency.max ≤ r.latencyMaxUs := by
    rw [max]
    exact peak_le (fun j => (detail j).latency.max) j
  refine ⟨?_,?_,?_,?_⟩
  · apply mostly_all
    intro j
    rw [p95,← own]
    exact peak_le (fun j => (detail j).latency.p95) j
  · intro l listed
    obtain ⟨lats,member,inside⟩ := List.mem_flatten.mp listed
    obtain ⟨j,rfl⟩ := List.mem_ofFn.mp member
    exact ((described (List.ne_nil_of_mem inside)).highest l inside).trans (topped j)
  · intro some
    rw [p95,max]
    exact ⟨peak_reached (fun j some => (described some).p95) (fun j none => (nothing none).1) some,
      peak_reached (fun j some => (described some).max) (fun j none => (nothing none).2) some⟩
  · rw [avg]
    apply latencyAvg_le (Nat.cast_nonneg _)
    intro d member
    obtain ⟨j,rfl⟩ := List.mem_ofFn.mp member
    have within : (detail j).latency.avg ≤ (detail j).latency.max := by
      rw [own]
      exact sortedStats_avg _
    exact within.trans (Nat.cast_le.mpr (topped j))

/-- No report shows more received than the subscribers times what was sent, or as much
unless nothing is missing; received and lost together are no more than all there was to
send; and its latencies, put together from those of the subscribers, bound all of them. -/
theorem fanOut_bounded (elapsed : ℚ) (paced : frameMicros args.fps ≠ 0) :
    ∃ r, runBenchmark args elapsed run.taken run.handles = some r ∧
      r.rxTotalPackets ≤ r.fanOut*r.txPackets ∧
      (r.rxTotalPackets = r.fanOut*r.txPackets ↔
        ∀ j,(run.heard j).map (·.index) = handedOver run.taken) ∧
      r.rxTotalPackets + r.rxTotalLost ≤ r.fanOut*run.taken.length ∧
      r.lossRate*(r.rxTotalPackets + r.rxTotalLost : Nat) = 100*r.rxTotalLost ∧
      Tells r (allLatencies run) := by
  obtain ⟨detail,joined,accounts⟩ := handles_details run
  have received : ((List.ofFn detail).map (·.rxPackets)).sum = ∑ j, (run.heard j).length := by
    rw [sum_details]
    exact Finset.sum_congr rfl (fun j _ => (accounts j).received)
  have sent := SendLoop.ticks_txPackets args.fps run.taken
  refine ⟨_,by rw [runBenchmark,if_neg paced],?_,?_,?_,?_,?_⟩
  · simp only [joined,received,sent]
    exact sum_le_each (heard_le run)
  · simp only [joined,received,sent]
    exact heard_all run
  · simp only [joined]
    rw [sum_details,sum_details,← Finset.sum_add_distrib]
    apply sum_le_each
    intro j
    rw [Nat.add_comm]
    exact (accounts j).charged.trans (span_handedOver (run.relayed j))
  · exact (lossPct_of _ _).1
  · apply details_tell run accounts <;> simp only [joined]

end report

def pair : Args := ⟨0,2,30,20⟩

def sentTicks : List Tick := [⟨10,.sent 30⟩,⟨43,.sendError⟩,⟨76,.sent 30⟩,⟨109,.sent 30⟩]

def pairHeard (j : Fin pair.subscribers.toNat) : List Heard :=
  if j.val = 0 then [⟨0,20⟩,⟨3,115⟩] else []

def pairReceived (j : Fin pair.subscribers.toNat) : List Datagram :=
  ⟨19,[0,1,2]⟩::((pairHeard j).map (Heard.packet pair sentTicks)).map
    (fun item => ⟨item.2,item.1 ++ List.replicate 10 0⟩)

theorem pair_relayed : ∀ j, ((pairHeard j).map (·.index)).Sublist (handedOver sentTicks) := by
  decide

theorem pair_decrypted : ∀ j, @RecvLoop.opened FastPath.untagged () (pairReceived j) =
    (pairHeard j).map (Heard.packet pair sentTicks) := by
  decide +kernel

def pairRun : Ran pair FastPath.untagged :=
  ⟨sentTicks,fun _ => (),pairReceived,pairHeard,pair_relayed,pair_decrypted⟩

theorem fanOut_bounded_pair : ∃ r, runBenchmark pair 1 sentTicks pairRun.handles = some r ∧
    r.rxTotalPackets ≤ r.fanOut*r.txPackets ∧ r.rxTotalPackets + r.rxTotalLost ≤ r.fanOut*4 ∧
      Tells r [10,6] := by
  have measured : allLatencies pairRun = [10,6] := by decide +kernel
  obtain ⟨r,ran,received,_,lost,_,tells⟩ := fanOut_bounded pairRun 1 (by decide)
  rw [measured] at tells
  exact ⟨r,ran,received,lost,tells⟩

end Oxlab.FanOutReport
