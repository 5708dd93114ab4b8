import Mathlib.Algebra.BigOperators.Fin
import Mathlib.Algebra.BigOperators.Ring.Finset
import Mathlib.Data.List.Sort
import Oxlab.ConferenceRun

/-! The report of a conference benchmark.
The server hands a participant what the others' sockets took, in order, and may lose
some of it; the totals of the report are compared with what was sent. -/
namespace Oxlab.ConferenceReport
open Common.Media Library Cli.Capacity Bench.Media Bench.Conference ConferenceRun
open LossAccounting (span)

/-- The places of the frames that the socket took. -/
def handedOver (taken : List Tick) : List Nat :=
  (List.range taken.length).filter (fun k => (taken[k]?.map Tick.handed).getD false)

theorem handedOver_length (taken : List Tick) :
    (handedOver taken).length = taken.countP Tick.handed := by
  induction taken using List.reverseRecOn with
  | nil => rfl
  | append_singleton before t ih =>
    have same : (List.range before.length).filter
        (fun k => ((before ++ [t])[k]?.map Tick.handed).getD false) = handedOver before := by
      apply List.filter_congr
      intro k inside
      rw [List.getElem?_append_left (List.mem_range.mp inside)]
    rw [handedOver,List.length_append,List.length_singleton,List.range_succ,List.filter_append,same,
      List.length_append,ih,List.countP_append,List.filter_singleton,List.countP_singleton]
    simp only [List.getElem?_concat_length,Option.map_some,Option.getD_some]
    cases t.handed <;> rfl

theorem handedOver_sorted (taken : List Tick) : (handedOver taken).Pairwise (fun a b => a < b) := by
  exact List.pairwise_lt_range.filter _

theorem span_handedOver {taken : List Tick} {heard : List Nat}
    (relayed : heard.Sublist (handedOver taken)) : span heard ≤ taken.length := by
  cases heard with
  | nil => exact Nat.zero_le _
  | cons first rest =>
    have last := relayed.subset (List.getLast_mem (List.cons_ne_nil first rest))
    have inside := List.mem_range.mp (List.mem_of_mem_filter last)
    rw [span]
    omega

/-- A run of the benchmark: what each participant's two tasks met. -/
structure Ran (args : Args) (srtp : SrtpCtx) where
  taken : Fin args.participants.toNat → List Tick
  ctx : Fin args.participants.toNat → srtp.Ctx
  received : Fin args.participants.toNat → List Datagram
  heard : Fin args.participants.toNat → List (Heard args.participants.toNat)
  carried : ∀ j,Carried args taken (heard j)
  decrypted : ∀ j,RecvLoop.opened (ctx j) (received j) =
    (heard j).map (Heard.packet args taken)
  relayed : ∀ j,∀ h ∈ heard j,h.sender ≠ j ∧ h.index ∈ handedOver (taken h.sender)

namespace Ran
variable {args : Args} {srtp : SrtpCtx} (run : Ran args srtp)

def joined (j : Fin args.participants.toNat) : Joined :=
  ⟨conferenceSendLoop args.fps (run.taken j),conferenceRecvLoop srtp (run.ctx j) (run.received j)⟩

def handles : List Joined := List.ofFn run.joined

/-- What participant `j` is to hear of participant `i`. -/
def owed (j i : Fin args.participants.toNat) : List Nat :=
  if i = j then [] else handedOver (run.taken i)

theorem indices_owed (j i : Fin args.participants.toNat) :
    (indices (run.heard j) i).Sublist (run.owed j i) := by
  have ordered := List.isChain_iff_pairwise.mp ((run.carried j).ordered i)
  have listed : indices (run.heard j) i ⊆ run.owed j i := by
    intro k member
    obtain ⟨h,own,rfl⟩ := List.mem_map.mp member
    obtain ⟨inside,same⟩ := List.mem_filter.mp own
    obtain ⟨other,handed⟩ := run.relayed j h inside
    rw [decide_eq_true_eq] at same
    subst same
    rwa [owed,if_neg other]
  have sorted : (run.owed j i).Pairwise (fun a b => a < b) := by
    unfold owed
    split
    next => exact List.Pairwise.nil
    next => exact handedOver_sorted _
  exact List.sublist_of_subperm_of_pairwise (List.subperm_of_subset ordered.nodup listed)
    ordered sorted

theorem span_taken (j i : Fin args.participants.toNat) :
    span (indices (run.heard j) i) ≤ if i = j then 0 else (run.taken i).length := by
  have owed := run.indices_owed j i
  split
  next same =>
    rw [Ran.owed,if_pos same,List.sublist_nil] at owed
    rw [owed]
    exact Nat.le_refl _
  next other =>
    rw [Ran.owed,if_neg other] at owed
    exact span_handedOver owed

end Ran

theorem sum_others {n : Nat} (share : Fin n → Nat) :
    ∑ j, ∑ i, (if i = j then 0 else share i) = (∑ i, share i)*(n-1) := by
  rw [Finset.sum_comm,Finset.sum_mul]
  apply Finset.sum_congr rfl
  intro i _
  have others : (Finset.univ.filter (fun j => ¬i = j)).card = n - 1 := by
    rw [Finset.filter_not,Finset.filter_eq,if_pos (Finset.mem_univ i),
      Finset.card_sdiff_of_subset (Finset.subset_univ _),Finset.card_univ,Fintype.card_fin,
      Finset.card_singleton]
  rw [Finset.sum_ite,Finset.sum_const_zero,Nat.zero_add,Finset.sum_const_nat (fun _ _ => rfl),
    others,Nat.mul_comm]

section report
variable {args : Args} {srtp : SrtpCtx} (run : Ran args srtp)

theorem joined_accounts (j : Fin args.participants.toNat) : ∃ r, (run.joined j).rx = some r ∧
    (run.joined j).got = r ∧ Accounts args run.taken (run.heard j) r := by
  obtain ⟨r,ran,accounts⟩ := recvLoop_accounts (run.carried j) (run.decrypted j)
  have rx : (run.joined j).rx = some r := ran
  refine ⟨r,rx,?_,accounts⟩
  rw [Joined.got,rx]
  rfl

theorem received_pairs (j : Fin args.participants.toNat) :
    (run.joined j).got.rxPackets = ∑ i, (indices (run.heard j) i).length := by
  obtain ⟨r,_,got,accounts⟩ := joined_accounts run j
  have ones := sum_ownOf (fun _ => 1) (run.heard j)
  rw [got,accounts.received]
  simpa [indices] using ones.symm

theorem received_owed (j i : Fin args.participants.toNat) :
    (indices (run.heard j) i).length ≤ (run.owed j i).length :=
  (run.indices_owed j i).length_le

theorem owed_total : ∑ j, ∑ i, (run.owed j i).length =
    (∑ i, (run.taken i).countP Tick.handed)*(args.participants.toNat - 1) := by
  rw [← sum_others]
  apply Finset.sum_congr rfl
  intro j _
  apply Finset.sum_congr rfl
  intro i _
  rw [Ran.owed]
  split
  next => rfl
  next => exact handedOver_length _

theorem sum_handles (figure : Joined → Nat) : (run.handles.map figure).sum =
    ∑ j, figure (run.joined j) := by
  rw [Ran.handles,List.map_ofFn,List.sum_ofFn]
  rfl

/-- All the latencies there are to measure. -/
def latencies : List Nat :=
  (List.ofFn run.heard).flatMap (fun heard => heard.filterMap (Heard.latency args run.taken))

theorem handles_latencies :
    (run.handles.flatMap (·.got.latencies)).Perm (latencies run) := by
  have one (j : Fin args.participants.toNat) : ((run.joined j).got.latencies).Perm
      ((run.heard j).filterMap (Heard.latency args run.taken)) := by
    obtain ⟨r,_,got,accounts⟩ := joined_accounts run j
    rw [got]
    exact accounts.latencies
  rw [Ran.handles,latencies,List.ofFn_eq_map,List.ofFn_eq_map,List.flatMap_map,List.flatMap_map]
  exact List.Perm.flatMap_left _ (fun j _ => one j)

theorem sortedStats_describes {lats : List Nat} (some : lats ≠ []) :
    Describes (sortedStats lats) lats := by
  have sorted := List.pairwise_insertionSort (fun a b : Nat => a ≤ b) lats
  have listed : lats.insertionSort (fun a b => a ≤ b) ≠ [] := by
    intro none_sorted
    apply some
    rw [← List.length_eq_zero_iff] at none_sorted ⊢
    rwa [List.length_insertionSort] at none_sorted
  have described := latStats_sorted sorted listed
  rwa [Multiset.coe_eq_coe.mpr (List.perm_insertionSort _ lats)] at described

theorem received_all : (∑ j, (run.joined j).got.rxPackets = ∑ j, ∑ i, (run.owed j i).length) ↔
    ∀ j i, i ≠ j → indices (run.heard j) i = handedOver (run.taken i) := by
  rw [Finset.sum_congr rfl (fun j _ => received_pairs run j),Finset.sum_eq_sum_iff_of_le
    (fun j _ => Finset.sum_le_sum (fun i _ => received_owed run j i))]
  constructor
  · intro equal j i other
    have row := (Finset.sum_eq_sum_iff_of_le (fun i _ => received_owed run j i)).mp
      (equal j (Finset.mem_univ j)) i (Finset.mem_univ i)
    have same := (run.indices_owed j i).eq_of_length row
    rwa [Ran.owed,if_neg other] at same
  · intro whole j _
    apply Finset.sum_congr rfl
    intro i _
    by_cases own : i = j
    · have nothing := run.indices_owed j i
      rw [Ran.owed,if_pos own,List.sublist_nil] at nothing
      rw [nothing,Ran.owed,if_pos own]
    · rw [whole j i own,Ran.owed,if_neg own]

theorem received_lost : ∑ j, ((run.joined j).got.rxPackets + (run.joined j).got.rxLost) ≤
    (∑ i, (run.taken i).length)*(args.participants.toNat - 1) := by
  rw [← sum_others]
  apply Finset.sum_le_sum
  intro j _
  obtain ⟨r,_,got,accounts⟩ := joined_accounts run j
  rw [got]
  exact accounts.charged.trans (Finset.sum_le_sum (fun i _ => run.span_taken j i))

/-- No report shows more received than it expects, or as much unless nothing that was
sent is missing; received and lost together are no more than all there was to send. -/
theorem report_bounded (elapsed : ℚ) (paced : frameMicros args.fps ≠ 0)
    (several : 2 ≤ args.participants.toNat) :
    ∃ r, runConference args elapsed run.handles = some r ∧
      r.totalRx ≤ expectedTotalRx r ∧
      (r.totalRx = expectedTotalRx r ↔
        ∀ j i, i ≠ j → indices (run.heard j) i = handedOver (run.taken i)) ∧
      r.totalRx + r.totalLost ≤ (∑ i, (run.taken i).length)*(args.participants.toNat - 1) ∧
      r.lossRate*(r.totalRx + r.totalLost : Nat) = 100*r.totalLost ∧
      (latencies run ≠ [] → Describes r.latency (latencies run)) := by
  have enough : ¬args.participants.toNat < 2 := by omega
  have sent : ∑ j, (run.joined j).sent = ∑ i, (run.taken i).countP Tick.handed := by
    apply Finset.sum_congr rfl
    intro j _
    rw [Joined.sent,Ran.joined,conferenceSendLoop,if_neg paced]
    exact SendLoop.ticks_txPackets args.fps (run.taken j)
  refine ⟨_,by rw [runConference,if_neg enough],?_,?_,?_,?_,?_⟩
  · simp only [expectedTotalRx,sum_handles,sent]
    rw [← owed_total,Finset.sum_congr rfl (fun j _ => received_pairs run j)]
    exact Finset.sum_le_sum (fun j _ => Finset.sum_le_sum (fun i _ => received_owed run j i))
  · simp only [expectedTotalRx,sum_handles,sent]
    rw [← owed_total]
    exact received_all run
  · simp only [sum_handles]
    rw [← Finset.sum_add_distrib]
    exact received_lost run
  · exact (lossPct_of _ _).1
  · intro some
    have same := handles_latencies run
    have listed : run.handles.flatMap (·.got.latencies) ≠ [] := by
      intro nothing
      rw [nothing] at same
      exact some same.nil_eq.symm
    have described := sortedStats_describes listed
    rwa [Multiset.coe_eq_coe.mpr same] at described

end report

def quietHeard (j : Fin trio.participants.toNat) : List (Heard trio.participants.toNat) :=
  if j.val = 0 then hears else []

def quietReceived (j : Fin trio.participants.toNat) : List Datagram :=
  if j.val = 0 then incoming else []

theorem quiet_carried (j : Fin trio.participants.toNat) : Carried trio ticking (quietHeard j) := by
  unfold quietHeard
  split
  next => exact ⟨by decide,by decide⟩
  next => exact ⟨by simp,by simp [indices,ownOf]⟩

theorem quiet_decrypted (j : Fin trio.participants.toNat) :
    @RecvLoop.opened FastPath.untagged () (quietReceived j) =
      (quietHeard j).map (Heard.packet trio ticking) := by
  unfold quietReceived quietHeard
  split
  next => decide +kernel
  next => rfl

theorem quiet_relayed : ∀ j, ∀ h ∈ quietHeard j,
    h.sender ≠ j ∧ h.index ∈ handedOver (ticking h.sender) := by
  decide

/-- Only the first participant hears anything. -/
def quietRun : Ran trio FastPath.untagged :=
  ⟨ticking,fun _ => (),quietReceived,quietHeard,quiet_carried,quiet_decrypted,quiet_relayed⟩

theorem report_bounded_quiet : ∃ r, runConference trio 1 quietRun.handles = some r ∧
    r.totalRx ≤ expectedTotalRx r ∧ r.totalRx + r.totalLost ≤ 24 := by
  obtain ⟨r,ran,received,_,lost,_⟩ := report_bounded quietRun 1 (by decide) (by decide)
  exact ⟨r,ran,received,lost⟩

end Oxlab.ConferenceReport
