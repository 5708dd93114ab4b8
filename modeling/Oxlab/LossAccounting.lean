import Mathlib.Data.Fintype.Prod
import Oxlab.Bot.RtpPublisher

/-! Loss accounting over a lossy, order-preserving channel.
Publishers number their packets by calls, the channel drops some, the streams
arrive interleaved; the receive side sees only wrapped numbers and still counts
exactly the positions that were skipped. -/
namespace Oxlab.LossAccounting
open Common.Media Library Bot.RtpPublisher Bot.RtpSubscriber

/-- The positions of one stream that got through: forward, by at most half the
sequence range at a time. -/
def InOrder (indices : List Nat) : Prop := indices.IsChain (fun i j => i < j ∧ j - i ≤ 32768)

instance (indices : List Nat) : Decidable (InOrder indices) :=
  inferInstanceAs (Decidable (List.IsChain _ indices))

def span : List Nat → Nat
  | [] => 0
  | first::rest => (first::rest).getLast (List.cons_ne_nil first rest) - first + 1

/-- A record that has counted `count` arrivals from position `first` to `last`. -/
structure Counted (first last count : Nat) (m : SsrcRecvMetrics) : Prop where
  live : m.initialized = true
  seq : m.lastSeq = UInt16.ofNat last
  forward : first ≤ last
  received : m.packetsReceived = count
  lost : m.packetsLost + count = last - first + 1
  ordered : m.outOfOrder = 0

theorem gap_skipped (i j : Nat) (forward : i < j) (near : j - i ≤ 32768) :
    asI16 (UInt16.ofNat j - (UInt16.ofNat i + 1)) = (j : Int) - i - 1 := by
  have next : UInt16.ofNat i + 1 = UInt16.ofNat (i+1) := by rw [UInt16.ofNat_add]; rfl
  rw [next,asI16_sub]
  have wired := Serial.distance_wire 16 (i+1) j (by omega) (by omega)
  refine Eq.trans wired ?_
  push_cast
  ring

theorem new_counted (now : Instant) (ssrc : UInt32) (pt : UInt8) (i : Nat) (ts : UInt32) :
    Counted i i 1 ((SsrcRecvMetrics.new now ssrc pt).update now (UInt16.ofNat i) ts) where
  live := update_initialized ..
  seq := update_lastSeq ..
  forward := Nat.le_refl i
  received := by simp [SsrcRecvMetrics.new]
  lost := by rw [(update_first _ now _ ts rfl).1]; simp [SsrcRecvMetrics.new]
  ordered := (update_first _ now _ ts rfl).2.1

theorem update_counted {first last count : Nat} {m : SsrcRecvMetrics}
    (counted : Counted first last count m) (now : Instant) (ts : UInt32) (next : Nat)
    (forward : last < next) (near : next - last ≤ 32768) :
    Counted first next (count+1) (m.update now (UInt16.ofNat next) ts) := by
  obtain ⟨lost,ordered,_⟩ := update_later m now (UInt16.ofNat next) ts counted.live
  have gap := gap_skipped last next forward near
  rw [← counted.seq] at gap
  have before := counted.lost
  have start := counted.forward
  refine ⟨update_initialized ..,update_lastSeq ..,by omega,?_,?_,?_⟩
  · rw [update_packetsReceived,counted.received]
  · rw [lost,gap]
    omega
  · rw [ordered,gap,counted.ordered]
    have small : ¬((next : Int) - last - 1 < -1) := by omega
    simp [small]

section channel
variable {ι : Type} (pubs : ι → Publisher)

/-- One packet handed over by the channel: which stream, which of its calls,
and when. -/
structure Delivery (ι : Type) where
  publisher : ι
  kind : MediaKind
  index : Nat
  now : Instant

namespace Delivery

def stream (d : Delivery ι) : ι × MediaKind := (d.publisher,d.kind)

def packet (d : Delivery ι) : Bytes := (pubs d.publisher).packet d.kind d.index

end Delivery

def streamSsrc (x : ι × MediaKind) : UInt32 := (pubs x.1).ssrc x.2

def deliver (store : RecvMetricsStore) (d : Delivery ι) : RecvMetricsStore :=
  match parseRtpMini (d.packet pubs) with
  | none => store
  | some h => store.update d.now h.ssrc h.pt h.seq h.ts

def receive (deliveries : List (Delivery ι)) : RecvMetricsStore :=
  deliveries.foldl (deliver pubs) ∅

def header (d : Delivery ι) : RtpMini := (parseRtpMini (d.packet pubs)).getD ⟨0,0,0,0,false⟩

def fresh (d : Delivery ι) : SsrcRecvMetrics :=
  .new d.now (streamSsrc pubs d.stream) (header pubs d).pt

def advanceBy (m : SsrcRecvMetrics) (d : Delivery ι) : SsrcRecvMetrics :=
  m.update d.now (UInt16.ofNat d.index) (header pubs d).ts

theorem deliver_absorb (store : RecvMetricsStore) (d : Delivery ι) :
    deliver pubs store d = Table.absorb (fun d => streamSsrc pubs d.stream) (fresh pubs)
      (advanceBy pubs) store d := by
  obtain ⟨h,parsed,seq,ssrc⟩ := parse_packet (pubs d.publisher) d.kind d.index
  have read : header pubs d = h := by simp [header,Delivery.packet,parsed]
  change parseRtpMini (d.packet pubs) = some h at parsed
  simp only [deliver,parsed,seq,ssrc,Table.absorb,fresh,advanceBy,read]
  rfl

theorem advance_counted (deliveries : List (Delivery ι)) {first last count : Nat}
    {m : SsrcRecvMetrics} (counted : Counted first last count m)
    (ordered : InOrder (last::deliveries.map (·.index))) :
    ∃ final, deliveries.foldl (Table.advance (fresh pubs) (advanceBy pubs)) (some m) = some final ∧
      final.ssrc = m.ssrc ∧
      Counted first ((last::deliveries.map (·.index)).getLast (by simp))
        (count + deliveries.length) final := by
  induction deliveries generalizing last count m with
  | nil => exact ⟨m,rfl,rfl,by simpa using counted⟩
  | cons d rest ih =>
    obtain ⟨⟨forward,near⟩,later⟩ := List.isChain_cons_cons.mp ordered
    have next := update_counted counted d.now (header pubs d).ts d.index forward near
    obtain ⟨final,folded,named,reached⟩ := ih next later
    refine ⟨final,folded,named.trans (update_ssrc ..),?_⟩
    have total : count + 1 + rest.length = count + (d::rest).length := by
      rw [List.length_cons]; omega
    rw [total] at reached
    simpa using reached

/-- What a stream's record says once the positions `indices` have arrived. -/
structure Accounted (ssrc : UInt32) (indices : List Nat) (m : SsrcRecvMetrics) : Prop where
  ssrc : m.ssrc = ssrc
  received : m.packetsReceived = indices.length
  lost : m.packetsLost = span indices - indices.length
  ordered : m.outOfOrder = 0

theorem accounted_of_counted {ssrc : UInt32} {first : Nat} {rest : List Nat} {m : SsrcRecvMetrics}
    (named : m.ssrc = ssrc)
    (counted : Counted first ((first::rest).getLast (List.cons_ne_nil first rest))
      (1 + rest.length) m) : Accounted ssrc (first::rest) m where
  ssrc := named
  received := by rw [counted.received,List.length_cons,Nat.add_comm]
  lost := by
    have lost := counted.lost
    rw [span,List.length_cons]
    omega
  ordered := counted.ordered

theorem named_receive (deliveries : List (Delivery ι)) (ssrc : UInt32)
    (present : ssrc ∈ receive pubs deliveries) : ∃ x, streamSsrc pubs x = ssrc := by
  rw [receive,funext₂ (deliver_absorb pubs),Table.mem_absorbed] at present
  obtain ⟨d,_,named⟩ := present
  exact ⟨d.stream,named⟩

variable [DecidableEq ι]

def indices (deliveries : List (Delivery ι)) (x : ι × MediaKind) : List Nat :=
  (deliveries.filter (fun d => d.stream = x)).map (·.index)

/-- A record is the fold of its own stream, whatever is interleaved with it. -/
theorem lookup_own (distinct : Function.Injective (streamSsrc pubs))
    (deliveries : List (Delivery ι)) (x : ι × MediaKind) :
    (receive pubs deliveries).lookup (streamSsrc pubs x) =
      (deliveries.filter (fun d => d.stream = x)).foldl
        (Table.advance (fresh pubs) (advanceBy pubs)) none := by
  have own : deliveries.filter (fun d => streamSsrc pubs d.stream = streamSsrc pubs x) =
      deliveries.filter (fun d => d.stream = x) := by
    apply List.filter_congr
    intro d _
    simp [distinct.eq_iff]
  rw [receive,funext₂ (deliver_absorb pubs),Table.lookup_absorbed,own,AList.lookup_empty]

theorem lookup_receive (distinct : Function.Injective (streamSsrc pubs))
    (deliveries : List (Delivery ι)) (x : ι × MediaKind)
    (ordered : InOrder (indices deliveries x)) :
    ((receive pubs deliveries).lookup (streamSsrc pubs x) = none ∧ indices deliveries x = []) ∨
      ∃ m, (receive pubs deliveries).lookup (streamSsrc pubs x) = some m ∧
        indices deliveries x ≠ [] ∧ Accounted (streamSsrc pubs x) (indices deliveries x) m := by
  rw [lookup_own pubs distinct]
  unfold indices at ordered ⊢
  cases mine : deliveries.filter (fun d => d.stream = x) with
  | nil => exact Or.inl ⟨rfl,rfl⟩
  | cons d rest =>
    rw [mine] at ordered
    have stream : d.stream = x := by
      have member : d ∈ deliveries.filter (fun d => d.stream = x) := by rw [mine]; simp
      simpa using (List.mem_filter.mp member).2
    have first : Counted d.index d.index 1 (advanceBy pubs (fresh pubs d) d) :=
      new_counted d.now (streamSsrc pubs d.stream) (header pubs d).pt d.index (header pubs d).ts
    obtain ⟨final,folded,named,counted⟩ := advance_counted pubs rest first ordered
    refine Or.inr ⟨final,folded,by simp,?_⟩
    rw [← List.length_map (fun d => d.index)] at counted
    exact accounted_of_counted (named.trans (by rw [← stream]; exact update_ssrc ..)) counted

theorem total_receive [Fintype ι] (distinct : Function.Injective (streamSsrc pubs))
    (deliveries : List (Delivery ι)) (figure : SsrcRecvMetrics → Nat) (expected : List Nat → Nat)
    (empty : expected [] = 0)
    (agrees : ∀ x m, Accounted (streamSsrc pubs x) (indices deliveries x) m →
      figure m = expected (indices deliveries x))
    (ordered : ∀ x, InOrder (indices deliveries x)) :
    ((receive pubs deliveries).snapshot.streams.map figure).sum =
      ∑ x, expected (indices deliveries x) := by
  refine Eq.trans (Table.weight_family figure (receive pubs deliveries) (streamSsrc pubs) distinct
    (named_receive pubs deliveries)) ?_
  apply Finset.sum_congr rfl
  intro x _
  rcases lookup_receive pubs distinct deliveries x (ordered x) with
    ⟨missing,none⟩ | ⟨m,found,_,accounted⟩
  · rw [missing,none,empty,Table.held_none]
  · rw [found,Table.held_some,agrees x m accounted]

/-- The snapshot accounts for every stream exactly, on any interleaving of the
streams the channel let through. -/
theorem snapshot_accounts [Fintype ι] (distinct : Function.Injective (streamSsrc pubs))
    (deliveries : List (Delivery ι)) (ordered : ∀ x, InOrder (indices deliveries x)) :
    let snap := (receive pubs deliveries).snapshot
    (∀ m ∈ snap.streams, ∃ x, Accounted (streamSsrc pubs x) (indices deliveries x) m) ∧
      (∀ x, indices deliveries x ≠ [] →
        ∃ m ∈ snap.streams, Accounted (streamSsrc pubs x) (indices deliveries x) m) ∧
      snap.totalPackets = ∑ x, (indices deliveries x).length ∧
      snap.totalLost = ∑ x, (span (indices deliveries x) - (indices deliveries x).length) ∧
      snap.totalOoo = 0 := by
  refine ⟨?_,?_,?_,?_,?_⟩
  · intro m member
    obtain ⟨ssrc,found⟩ := (Table.mem_values _ m).mp member
    obtain ⟨x,rfl⟩ := named_receive pubs deliveries ssrc
      (AList.lookup_isSome.mp (by rw [found]; rfl))
    rcases lookup_receive pubs distinct deliveries x (ordered x) with
      ⟨missing,_⟩ | ⟨record,present,_,accounted⟩
    · rw [missing] at found
      contradiction
    · exact ⟨x,Option.some.inj (present.symm.trans found) ▸ accounted⟩
  · intro x some
    rcases lookup_receive pubs distinct deliveries x (ordered x) with
      ⟨_,none⟩ | ⟨record,present,_,accounted⟩
    · contradiction
    · exact ⟨record,(Table.mem_values _ record).mpr ⟨_,present⟩,accounted⟩
  · exact total_receive pubs distinct deliveries _ List.length rfl (fun _ _ a => a.received) ordered
  · exact total_receive pubs distinct deliveries _ (fun is => span is - is.length) rfl
      (fun _ _ a => a.lost) ordered
  · refine (total_receive pubs distinct deliveries _ (fun _ => 0) rfl
      (fun _ _ a => a.ordered) ordered).trans ?_
    simp

end channel

def twoPublishers (i : Bool) : Publisher :=
  ⟨{ audioSsrc := if i then 1 else 3, videoSsrc := if i then 2 else 4 },fun _ => false⟩

theorem snapshot_accounts_wrap :
    (receive twoPublishers [⟨true,.audio,65534,0⟩,⟨false,.video,0,1⟩,⟨true,.audio,65537,2⟩,
      ⟨false,.video,32768,3⟩]).snapshot.totalLost = 2 + 32767 := by
  have accounts := snapshot_accounts twoPublishers (by decide)
    [⟨true,.audio,65534,0⟩,⟨false,.video,0,1⟩,⟨true,.audio,65537,2⟩,⟨false,.video,32768,3⟩]
    (by decide)
  exact accounts.2.2.2.1.trans (by decide)

end Oxlab.LossAccounting
