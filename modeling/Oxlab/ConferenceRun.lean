import Oxlab.Bench.Conference
import Oxlab.FastPath
import Oxlab.LossAccounting

/-! A conference benchmark over every interleaving.
Each receiver decrypts packets of the participants, each sender's in order, some
missing; its counters are compared with what it was sent. -/
namespace Oxlab.ConferenceRun
open Common.Media Library Bench.Media Bench.Conference
open LossAccounting (span)

section packets
variable (args : Args)

def videoSsrc (idx : Nat) : UInt32 := 90000 + UInt32.ofNat idx

def sentMicros (taken : List Tick) (k : Nat) : UInt64 := (taken[k]?.map (·.micros)).getD 0

/-- The packet that participant `idx` builds at its `k`-th tick. -/
def video (idx : Nat) (taken : List Tick) (k : Nat) : Bytes :=
  let loop := SendLoop.ticks args.fps (taken.take k)
  buildConferenceRtp (videoSsrc idx) loop.seq loop.timestamp args.pktSize (UInt16.ofNat idx)
    (sentMicros taken k)

theorem video_header (idx : Nat) (taken : List Tick) {k : Nat} (inside : k < taken.length) :
    12 ≤ (video args idx taken k).length ∧ u32At (video args idx taken k) 8 = videoSsrc idx ∧
      u16At (video args idx taken k) 2 = UInt16.ofNat k := by
  let loop := SendLoop.ticks args.fps (taken.take k)
  have seq : loop.seq = UInt16.ofNat k := by
    rw [SendLoop.ticks_seq,List.length_take,Nat.min_eq_left (by omega)]
  obtain ⟨rest,layout,_⟩ := buildConferenceRtp_layout (videoSsrc idx) loop.seq loop.timestamp
    args.pktSize (UInt16.ofNat idx) (sentMicros taken k)
  rw [video,layout]
  refine ⟨?_,fakeHeader_ssrc ..,?_⟩
  · rw [List.length_append,fakeHeader_length]
    omega
  · rw [fakeHeader_seq,seq]

theorem video_latency (idx : Nat) (taken : List Tick) (k nowMicros : Nat) :
    latencyAt 14 (video args idx taken k) nowMicros =
      if 22 ≤ args.pktSize ∧ 0 < (sentMicros taken k).toNat then
        some (nowMicros - (sentMicros taken k).toNat)
      else none := by
  let loop := SendLoop.ticks args.fps (taken.take k)
  obtain ⟨rest,layout,latency⟩ := buildConferenceRtp_layout (videoSsrc idx) loop.seq loop.timestamp
    args.pktSize (UInt16.ofNat idx) (sentMicros taken k)
  rw [video,layout]
  exact latency nowMicros

end packets

theorem videoSsrc_injective {n : UInt32} {i j : Fin n.toNat} (same : videoSsrc i = videoSsrc j) :
    i = j := by
  have bound := n.toNat_lt
  have wire := (UInt32.add_right_inj 90000).mp same
  have value := congrArg UInt32.toNat wire
  rw [UInt32.toNat_ofNat',UInt32.toNat_ofNat',Nat.mod_eq_of_lt (by omega),
    Nat.mod_eq_of_lt (by omega)] at value
  exact Fin.ext value

/-- A tracker that has counted `count` packets from position `first` to `last`;
`close` says that no gap so far reached a thousand. -/
structure Tracked (first last count : Nat) (close : Prop) (t : SenderTracker) : Prop where
  expected : t.expectedSeq = some (UInt16.ofNat last + 1)
  forward : first ≤ last
  received : t.rxPackets = count
  charged : t.lost + count ≤ last - first + 1
  exactly : t.lost + count = last - first + 1 ↔ close

section tracker
variable {pkt : Bytes} {next : Nat} (seq : u16At pkt 2 = UInt16.ofNat next) (now : Nat)
include seq

theorem new_tracked : Tracked next next 1 True (SenderTracker.new.take pkt now) where
  expected := by rw [SenderTracker.take,seq]
  forward := Nat.le_refl next
  received := rfl
  charged := by
    change 0 + 0 + 1 ≤ _
    omega
  exactly := by
    change 0 + 0 + 1 = _ ↔ _
    simp

theorem take_tracked {first last count : Nat} {close : Prop} {t : SenderTracker}
    (tracked : Tracked first last count close t) (forward : last < next) :
    Tracked first next (count+1) (close ∧ next - last ≤ 1000) (t.take pkt now) := by
  have start := tracked.forward
  have charged := tracked.charged
  have gap := gapLost_le forward
  have skipped := gapLost_eq forward
  have lost : (t.take pkt now).lost =
      t.lost + gapLost (UInt16.ofNat next) (some (UInt16.ofNat last + 1)) := by
    rw [SenderTracker.take,seq,tracked.expected]
  refine ⟨?_,by omega,?_,?_,?_⟩
  · rw [SenderTracker.take,seq]
  · rw [SenderTracker.take,tracked.received]
  · rw [lost]
    omega
  · rw [lost,← tracked.exactly,← skipped]
    omega

end tracker

/-- A tracker after the packets, each with the time it came. -/
def takeAll (items : List (Bytes × Nat)) (t : SenderTracker) : SenderTracker :=
  items.foldl (fun t item => t.take item.1 item.2) t

section taken
variable {Item : Type} (packet : Item → Bytes × Nat) (index : Item → Nat)

theorem takeAll_tracked (mine : List Item) {first last count : Nat} {close : Prop}
    {t : SenderTracker} (tracked : Tracked first last count close t)
    (numbered : ∀ h ∈ mine,u16At (packet h).1 2 = UInt16.ofNat (index h))
    (ordered : (last::mine.map index).IsChain (fun a b => a < b)) :
    Tracked first ((last::mine.map index).getLast (List.cons_ne_nil _ _)) (count + mine.length)
      (close ∧ (last::mine.map index).IsChain (fun a b => b - a ≤ 1000))
      (takeAll (mine.map packet) t) := by
  induction mine generalizing last count close t with
  | nil => simpa [takeAll] using tracked
  | cons h rest ih =>
    obtain ⟨forward,later⟩ := List.isChain_cons_cons.mp ordered
    have next := take_tracked (numbered h List.mem_cons_self) (packet h).2 tracked forward
    have reached := ih next (fun other member => numbered other (List.mem_cons_of_mem h member))
      later
    have total : count + 1 + rest.length = count + (h::rest).length := by
      rw [List.length_cons]
      omega
    rw [total] at reached
    rw [List.map_cons,List.getLast_cons (List.cons_ne_nil _ _),List.isChain_cons_cons,← and_assoc]
    exact reached

/-- Packets in order are all counted; together with what is charged they are no more
than the stretch they span, and exactly that unless a gap reaches a thousand. -/
theorem takeAll_charges (mine : List Item)
    (numbered : ∀ h ∈ mine,u16At (packet h).1 2 = UInt16.ofNat (index h))
    (ordered : (mine.map index).IsChain (fun a b => a < b)) :
    let t := takeAll (mine.map packet) .new
    t.rxPackets = mine.length ∧ t.lost + mine.length ≤ span (mine.map index) ∧
      (t.lost + mine.length = span (mine.map index) ↔
        (mine.map index).IsChain (fun a b => b - a ≤ 1000)) := by
  cases mine with
  | nil => exact ⟨rfl,Nat.le_refl 0,by simp [takeAll,span,SenderTracker.new]⟩
  | cons h rest =>
    have first := new_tracked (numbered h List.mem_cons_self) (packet h).2
    have reached := takeAll_tracked packet index rest first
      (fun other member => numbered other (List.mem_cons_of_mem h member)) ordered
    rw [Nat.add_comm 1] at reached
    exact ⟨reached.received,reached.charged,reached.exactly.trans (iff_of_eq (true_and _))⟩

end taken

theorem takeAll_latencies (items : List (Bytes × Nat)) (t : SenderTracker) :
    (takeAll items t).latencies =
      t.latencies ++ items.filterMap (fun item => latencyAt 14 item.1 item.2) := by
  induction items generalizing t with
  | nil => exact (List.append_nil _).symm
  | cons item rest ih =>
    rw [takeAll,List.foldl_cons]
    refine (ih (t.take item.1 item.2)).trans ?_
    rw [SenderTracker.take,List.append_assoc,List.filterMap_cons]
    cases latencyAt 14 item.1 item.2 <;> rfl

section receiver
variable (args : Args) (taken : Fin args.participants.toNat → List Tick)

/-- A packet that one receiver decrypts: whose, which, and when it came. -/
structure Heard (n : Nat) where
  sender : Fin n
  index : Nat
  micros : Nat
  deriving DecidableEq

namespace Heard

def packet (h : Heard args.participants.toNat) : Bytes × Nat :=
  (video args h.sender (taken h.sender) h.index,h.micros)

/-- How long the packet was under way, where it carries its send time. -/
def latency (h : Heard args.participants.toNat) : Option Nat :=
  let sent := (sentMicros (taken h.sender) h.index).toNat
  if 22 ≤ args.pktSize ∧ 0 < sent then some (h.micros - sent) else none

end Heard

def ownOf {n : Nat} (heard : List (Heard n)) (i : Fin n) : List (Heard n) :=
  heard.filter (fun h => h.sender = i)

def indices {n : Nat} (heard : List (Heard n)) (i : Fin n) : List Nat :=
  (ownOf heard i).map (·.index)

/-- What a receiver decrypts are packets that were built, each sender's in order. -/
structure Carried (heard : List (Heard args.participants.toNat)) : Prop where
  built : ∀ h ∈ heard,h.index < (taken h.sender).length
  ordered : ∀ i,(indices heard i).IsChain (fun a b => a < b)

def advanceBy : Option SenderTracker → Bytes × Nat → Option SenderTracker :=
  Table.advance (fun _ => SenderTracker.new) (fun t item => t.take item.1 item.2)

variable {args taken}

theorem packet_seq {h : Heard args.participants.toNat} (built : h.index < (taken h.sender).length) :
    u16At (h.packet args taken).1 2 = UInt16.ofNat h.index :=
  (video_header args h.sender (taken h.sender) built).2.2

theorem packet_latency (h : Heard args.participants.toNat) :
    latencyAt 14 (h.packet args taken).1 (h.packet args taken).2 = h.latency args taken :=
  video_latency args h.sender (taken h.sender) h.index h.micros

/-- What a tracker says of the packets of its sender. -/
structure Follows (args : Args) (taken : Fin args.participants.toNat → List Tick)
    (mine : List (Heard args.participants.toNat)) (t : SenderTracker) : Prop where
  received : t.rxPackets = mine.length
  charged : t.lost + mine.length ≤ span (mine.map (·.index))
  exactly : t.lost + mine.length = span (mine.map (·.index)) ↔
    (mine.map (·.index)).IsChain (fun a b => b - a ≤ 1000)
  latencies : t.latencies = mine.filterMap (Heard.latency args taken)

theorem advance_follows (mine : List (Heard args.participants.toNat))
    (built : ∀ h ∈ mine,h.index < (taken h.sender).length)
    (ordered : (mine.map (·.index)).IsChain (fun a b => a < b)) :
    let entry := (mine.map (Heard.packet args taken)).foldl advanceBy none
    Follows args taken mine (entry.getD .new) ∧ (entry = none ↔ mine = []) := by
  intro entry
  have all : entry.getD .new = takeAll (mine.map (Heard.packet args taken)) .new :=
    Table.advance_getD _ _ SenderTracker.new
  obtain ⟨received,charged,exactly⟩ := takeAll_charges (Heard.packet args taken) (·.index) mine
    (fun h member => packet_seq (built h member)) ordered
  have latencies := takeAll_latencies (mine.map (Heard.packet args taken)) .new
  rw [List.filterMap_map] at latencies
  rw [all]
  refine ⟨⟨received,charged,exactly,?_⟩,?_⟩
  · rw [latencies]
    exact List.filterMap_congr (fun h _ => packet_latency h)
  · have seen : entry.isSome = (false || !(mine.map (Heard.packet args taken)).isEmpty) :=
      Table.advance_isSome (fun _ => SenderTracker.new) _ _ none
    rw [← Option.not_isSome_iff_eq_none,seen]
    simp

variable {srtp : SrtpCtx} {heard : List (Heard args.participants.toNat)}

/-- A receiver's trackers after it has decrypted `heard`. -/
def trackers (args : Args) (taken : Fin args.participants.toNat → List Tick)
    (heard : List (Heard args.participants.toNat)) : Table UInt32 SenderTracker :=
  (heard.map (Heard.packet args taken)).foldl RecvLoop.track ∅

theorem lookup_trackers (carried : Carried args taken heard) (i : Fin args.participants.toNat) :
    (trackers args taken heard).lookup (videoSsrc i) =
      ((ownOf heard i).map (Heard.packet args taken)).foldl advanceBy none := by
  have own : (heard.map (Heard.packet args taken)).filter
      (fun item => u32At item.1 8 = videoSsrc i) =
      (ownOf heard i).map (Heard.packet args taken) := by
    rw [List.filter_map,ownOf]
    congr 1
    apply List.filter_congr
    intro h member
    have ssrc : u32At (h.packet args taken).1 8 = videoSsrc h.sender :=
      (video_header args h.sender (taken h.sender) (carried.built h member)).2.1
    rw [Function.comp_apply,ssrc,decide_eq_decide]
    exact ⟨videoSsrc_injective,congrArg (fun i : Fin _ => videoSsrc i)⟩
  have absorbed := Table.lookup_absorbed (fun item : Bytes × Nat => u32At item.1 8)
    (fun _ => SenderTracker.new) (fun t item => t.take item.1 item.2)
    (heard.map (Heard.packet args taken)) ∅ (videoSsrc i)
  rw [own,AList.lookup_empty] at absorbed
  exact absorbed

theorem trackers_named (carried : Carried args taken heard) {ssrc : UInt32}
    (present : ssrc ∈ trackers args taken heard) :
    ∃ i : Fin args.participants.toNat, videoSsrc i = ssrc := by
  obtain ⟨item,member,named⟩ := (Table.mem_absorbed (fun item : Bytes × Nat => u32At item.1 8)
    (fun _ => SenderTracker.new) (fun t item => t.take item.1 item.2) _ ssrc).mp present
  obtain ⟨h,listed,rfl⟩ := List.mem_map.mp member
  refine ⟨h.sender,?_⟩
  rw [← named]
  exact (video_header args h.sender (taken h.sender) (carried.built h listed)).2.1.symm

theorem follows_own (carried : Carried args taken heard) (i : Fin args.participants.toNat) :
    let entry := (trackers args taken heard).lookup (videoSsrc i)
    Follows args taken (ownOf heard i) (entry.getD .new) ∧ (entry = none ↔ ownOf heard i = []) := by
  intro entry
  have followed := advance_follows (ownOf heard i)
    (fun h member => carried.built h (List.mem_of_mem_filter member)) (carried.ordered i)
  rwa [← lookup_trackers carried i] at followed

theorem weight_trackers (carried : Carried args taken heard) (figure : SenderTracker → Nat)
    (zero : figure .new = 0) : (trackers args taken heard).weight figure =
      ∑ i : Fin args.participants.toNat,
        figure (((trackers args taken heard).lookup (videoSsrc i)).getD .new) := by
  rw [Table.weight_family figure (trackers args taken heard)
    (fun i : Fin args.participants.toNat => videoSsrc i)
    (fun _ _ => videoSsrc_injective) (fun _ => trackers_named carried)]
  apply Finset.sum_congr rfl
  intro i _
  cases (trackers args taken heard).lookup (videoSsrc i) with
  | some t => rfl
  | none => exact zero.symm

end receiver

theorem sum_ownOf {n : Nat} (worth : Heard n → Nat) (heard : List (Heard n)) :
    ∑ i, ((ownOf heard i).map worth).sum = (heard.map worth).sum := by
  induction heard with
  | nil => simp [ownOf]
  | cons h rest ih =>
    have one (i : Fin n) : ((ownOf (h::rest) i).map worth).sum =
        (if i = h.sender then worth h else 0) + ((ownOf rest i).map worth).sum := by
      rw [ownOf,List.filter_cons]
      by_cases mine : h.sender = i
      · simp [mine,ownOf]
      · simp [mine,ownOf,Ne.symm mine]
    rw [Finset.sum_congr rfl (fun i _ => one i),Finset.sum_add_distrib,ih,Finset.sum_ite_eq']
    simp

section accounts
variable {args : Args} {taken : Fin args.participants.toNat → List Tick}
  {heard : List (Heard args.participants.toNat)} (carried : Carried args taken heard)
include carried

theorem trackers_received : (trackers args taken heard).weight (·.rxPackets) = heard.length := by
  have ones := sum_ownOf (fun _ => 1) heard
  rw [List.map_const',List.sum_replicate_nat,Nat.mul_one] at ones
  rw [weight_trackers carried (·.rxPackets) rfl,← ones]
  apply Finset.sum_congr rfl
  intro i _
  rw [(follows_own carried i).1.received,List.map_const',List.sum_replicate_nat,Nat.mul_one]

theorem trackers_named_once : (trackers args taken heard).keys.length =
    (Finset.univ.filter (fun i => ownOf heard i ≠ [])).card := by
  have counted := Table.weight_family (fun _ => 1) (trackers args taken heard)
    (fun i : Fin args.participants.toNat => videoSsrc i)
    (fun _ _ => videoSsrc_injective) (fun _ => trackers_named carried)
  have keys : (trackers args taken heard).weight (fun _ => 1) =
      (trackers args taken heard).keys.length := by
    rw [Table.weight,List.map_const',List.sum_replicate_nat,Nat.mul_one,Table.values,
      AList.keys,List.keys,List.length_map,List.length_map]
  rw [← keys,counted,Finset.card_filter]
  apply Finset.sum_congr rfl
  intro i _
  have listed := (follows_own carried i).2
  cases found : (trackers args taken heard).lookup (videoSsrc i) with
  | some t =>
    have heard_some : ownOf heard i ≠ [] := fun empty => by simpa [found] using listed.mpr empty
    rw [if_pos heard_some]
    rfl
  | none =>
    rw [if_neg (not_not.mpr (listed.mp found))]
    rfl

theorem trackers_charged :
    (trackers args taken heard).weight (·.rxPackets) +
        (trackers args taken heard).weight (·.lost) ≤ ∑ i, span (indices heard i) ∧
      ((trackers args taken heard).weight (·.rxPackets) +
          (trackers args taken heard).weight (·.lost) = ∑ i, span (indices heard i) ↔
        ∀ i,(indices heard i).IsChain (fun a b => b - a ≤ 1000)) := by
  let tracker (i : Fin args.participants.toNat) : SenderTracker :=
    ((trackers args taken heard).lookup (videoSsrc i)).getD .new
  have both : (trackers args taken heard).weight (·.rxPackets) +
      (trackers args taken heard).weight (·.lost) =
      ∑ i, ((tracker i).lost + (ownOf heard i).length) := by
    rw [weight_trackers carried (·.rxPackets) rfl,weight_trackers carried (·.lost) rfl,
      ← Finset.sum_add_distrib]
    apply Finset.sum_congr rfl
    intro i _
    rw [(follows_own carried i).1.received,Nat.add_comm]
  have each (i : Fin args.participants.toNat) : (tracker i).lost + (ownOf heard i).length ≤
      span (indices heard i) := (follows_own carried i).1.charged
  rw [both]
  refine ⟨Finset.sum_le_sum (fun i _ => each i),?_⟩
  rw [Finset.sum_eq_sum_iff_of_le (fun i _ => each i)]
  constructor
  · intro equal i
    exact (follows_own carried i).1.exactly.mp (equal i (Finset.mem_univ i))
  · intro near i _
    exact (follows_own carried i).1.exactly.mpr (near i)

theorem trackers_latencies :
    ((trackers args taken heard).values.flatMap (·.latencies)).Perm
      (heard.filterMap (Heard.latency args taken)) := by
  rw [List.perm_iff_count]
  intro latency
  have counted : (trackers args taken heard).weight (fun t => t.latencies.count latency) =
      ((trackers args taken heard).values.flatMap (·.latencies)).count latency := by
    rw [Table.weight,List.count_flatMap]
    rfl
  have single (mine : List (Heard args.participants.toNat)) :
      (mine.filterMap (Heard.latency args taken)).count latency =
        (mine.map (fun h => if h.latency args taken = some latency then 1 else 0)).sum := by
    induction mine with
    | nil => rfl
    | cons h rest ih =>
      rw [List.map_cons,List.sum_cons,← ih,List.filterMap_cons]
      cases h.latency args taken with
      | none => simp
      | some other =>
        rw [List.count_cons,Nat.add_comm]
        simp
  rw [← counted,weight_trackers carried _ rfl,single,← sum_ownOf]
  apply Finset.sum_congr rfl
  intro i _
  rw [(follows_own carried i).1.latencies,single]

end accounts

/-- What a receiver's result says of the packets it has decrypted. -/
structure Accounts (args : Args) (taken : Fin args.participants.toNat → List Tick)
    (heard : List (Heard args.participants.toNat)) (r : RecvResult) : Prop where
  received : r.rxPackets = heard.length
  senders : r.fromCount = (Finset.univ.filter (fun i => ownOf heard i ≠ [])).card
  charged : r.rxPackets + r.rxLost ≤ ∑ i, span (indices heard i)
  exactly : r.rxPackets + r.rxLost = ∑ i, span (indices heard i) ↔
    ∀ i,(indices heard i).IsChain (fun a b => b - a ≤ 1000)
  latencies : r.latencies.Perm (heard.filterMap (Heard.latency args taken))

section loop
variable {args : Args} {taken : Fin args.participants.toNat → List Tick}
  {heard : List (Heard args.participants.toNat)} {srtp : SrtpCtx} {ctx : srtp.Ctx}
  {received : List Datagram}

theorem recvLoop_accounts (carried : Carried args taken heard)
    (decrypted : RecvLoop.opened ctx received = heard.map (Heard.packet args taken)) :
    ∃ r, conferenceRecvLoop srtp ctx received = some r ∧ Accounts args taken heard r := by
  have headers : ∀ item ∈ RecvLoop.opened ctx received,12 ≤ item.1.length := by
    intro item member
    rw [decrypted] at member
    obtain ⟨h,listed,rfl⟩ := List.mem_map.mp member
    exact (video_header args h.sender (taken h.sender) (carried.built h listed)).1
  obtain ⟨final,ran,senders⟩ := RecvLoop.foldlM_recv received { srtp := ctx } headers
  have tracked : final.senders = trackers args taken heard := by
    rw [senders,decrypted]
    rfl
  refine ⟨final.result,?_,?_⟩
  · rw [conferenceRecvLoop,ran]
    rfl
  · have charged := trackers_charged carried
    refine ⟨?_,?_,?_,?_,?_⟩
    · rw [RecvLoop.result,tracked]
      exact trackers_received carried
    · rw [RecvLoop.result,tracked]
      exact trackers_named_once carried
    · rw [RecvLoop.result,tracked]
      exact charged.1
    · rw [RecvLoop.result,tracked]
      exact charged.2
    · rw [RecvLoop.result,tracked]
      exact trackers_latencies carried

/-- A receiver counts what it decrypts, from whom and how late. Its losses are never
more than what was skipped between a sender's first and last packet, and exactly
that if and only if no gap reaches a thousand. -/
theorem receiver_accounts (carried : Carried args taken heard)
    (decrypted : RecvLoop.opened ctx received = heard.map (Heard.packet args taken)) :
    ∃ r, conferenceRecvLoop srtp ctx received = some r ∧ r.rxPackets = heard.length ∧
      r.fromCount = (Finset.univ.filter (fun i => ∃ h ∈ heard,h.sender = i)).card ∧
      r.latencies.Perm (heard.filterMap (Heard.latency args taken)) ∧
      r.rxLost ≤ ∑ i, (span (indices heard i) - (indices heard i).length) ∧
      (r.rxLost = ∑ i, (span (indices heard i) - (indices heard i).length) ↔
        ∀ i,(indices heard i).IsChain (fun a b => b - a ≤ 1000)) := by
  obtain ⟨r,ran,accounts⟩ := recvLoop_accounts carried decrypted
  have lengths : ∑ i, (indices heard i).length = heard.length := by
    have ones := sum_ownOf (fun _ => 1) heard
    simpa [indices] using ones
  have skipped : ∑ i, (span (indices heard i) - (indices heard i).length) + heard.length =
      ∑ i, span (indices heard i) := by
    rw [← lengths,← Finset.sum_add_distrib]
    apply Finset.sum_congr rfl
    intro i _
    apply Nat.sub_add_cancel
    have charged := (follows_own carried i).1.charged
    rw [indices,List.length_map]
    omega
  have charged := accounts.charged
  have senders (i : Fin args.participants.toNat) : ownOf heard i ≠ [] ↔ ∃ h ∈ heard,h.sender = i := by
    rw [ownOf,ne_eq,List.filter_eq_nil_iff]
    simp
  rw [accounts.received] at charged
  refine ⟨r,ran,accounts.received,?_,accounts.latencies,by omega,?_⟩
  · rw [accounts.senders]
    exact congrArg Finset.card (Finset.filter_congr (fun i _ => senders i))
  · rw [← accounts.exactly,accounts.received]
    omega

end loop

def trio : Args := ⟨3,0,30,22⟩

def ticking (_ : Fin trio.participants.toNat) : List Tick :=
  [⟨10,.sent 32⟩,⟨43,.sendError⟩,⟨76,.sent 32⟩,⟨109,.sent 32⟩]

def hears : List (Heard trio.participants.toNat) :=
  [⟨⟨1,by decide⟩,0,20⟩,⟨⟨2,by decide⟩,3,112⟩,⟨⟨1,by decide⟩,3,115⟩]

/-- Something that is no packet, and the packets with an empty tag. -/
def incoming : List Datagram :=
  ⟨19,[0,1,2]⟩::(hears.map (Heard.packet trio ticking)).map
    (fun item => ⟨item.2,item.1 ++ List.replicate 10 0⟩)

theorem receiver_accounts_trio : ∃ r, conferenceRecvLoop FastPath.untagged () incoming = some r ∧
    r.rxPackets = 3 ∧ r.fromCount = 2 ∧ r.rxLost = 2 := by
  have carried : Carried trio ticking hears := ⟨by decide,by decide⟩
  have decrypted : @RecvLoop.opened FastPath.untagged () incoming =
      hears.map (Heard.packet trio ticking) := by decide +kernel
  obtain ⟨r,ran,received,senders,_,_,exactly⟩ := receiver_accounts carried decrypted
  refine ⟨r,ran,received,senders.trans (by decide),?_⟩
  rw [exactly.mpr (by decide)]
  decide

end Oxlab.ConferenceRun
