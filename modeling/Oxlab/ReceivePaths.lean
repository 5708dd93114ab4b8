import Oxlab.Bench.Conference
import Oxlab.FastPath

/-! The receive loops of the benchmarks against a capacity bot.
All three count what arrives and what is missing, a capacity bot from the headers
alone. They differ in the gaps they charge: a benchmark ignores those of a thousand
and more, a capacity bot those of half the range and more. -/
namespace Oxlab.ReceivePaths
open Common.Media Library Bot.Cap Bot.RtpSubscriber Bench.Media Bench.Conference

/-- A gap that only a capacity bot charges. -/
def Far (seq prev : UInt16) : Prop :=
  1000 ≤ (seq - (prev+1)).toNat ∧ (seq - (prev+1)).toNat < 32768

instance (seq prev : UInt16) : Decidable (Far seq prev) := inferInstanceAs (Decidable (_ ∧ _))

theorem seqGap_eq (seq prev : UInt16) : seqGap seq (some prev) =
    if (seq - (prev+1)).toNat < 32768 then (seq - (prev+1)).toNat else 0 := by
  have bound := (seq - (prev+1)).toNat_lt
  have signed : asI16 (seq - (prev+1)) =
      if (seq - (prev+1)).toNat < 32768 then ((seq - (prev+1)).toNat : Int)
      else (seq - (prev+1)).toNat - 65536 := by
    have zero := asI16_cases (seq - (prev+1)) 0
    rw [UInt16.sub_zero] at zero
    change _ = if ((seq - (prev+1)).toNat : Int) - (0 : Nat) < -32768 then _
      else if 32768 ≤ ((seq - (prev+1)).toNat : Int) - (0 : Nat) then
        ((seq - (prev+1)).toNat : Int) - (0 : Nat) - 65536
      else ((seq - (prev+1)).toNat : Int) - (0 : Nat) at zero
    rw [zero]
    split_ifs <;> omega
  rw [FastPath.seqGap_some,signed]
  split <;> omega

theorem gapLost_eq_ite (seq prev : UInt16) : gapLost seq (some (prev+1)) =
    if (seq - (prev+1)).toNat < 1000 then (seq - (prev+1)).toNat else 0 := by
  rw [gapLost]
  by_cases same : seq = prev+1
  · rw [if_neg (not_not.mpr same),same,UInt16.sub_self]
    rfl
  · rw [if_pos same]
    simp only
    split_ifs <;> omega

theorem gapLost_seqGap (seq : UInt16) (prev : Option UInt16) :
    gapLost seq (prev.map (· + 1)) ≤ seqGap seq prev ∧
      (gapLost seq (prev.map (· + 1)) = seqGap seq prev ↔ ∀ p ∈ prev,¬Far seq p) := by
  cases prev with
  | none => exact ⟨Nat.le_refl 0,by simp [gapLost,seqGap]⟩
  | some p =>
    rw [Option.map_some,gapLost_eq_ite,seqGap_eq]
    simp only [Option.mem_def,Option.some.injEq,forall_eq',Far]
    constructor
    · split_ifs <;> omega
    · split_ifs <;> omega

def ssrcOf (pkt : Bytes) : UInt32 := u32At pkt 8

def seqOf (pkt : Bytes) : UInt16 := u16At pkt 2

def previous (pkts : List Bytes) (ssrc : UInt32) : Option UInt16 :=
  ((pkts.filter (fun pkt => ssrcOf pkt = ssrc)).getLast?).map seqOf

/-- No packet runs ahead of the one before it by a gap of a thousand or more. -/
def Near (pkts : List Bytes) : Prop :=
  ∀ before pkt after, pkts = before ++ pkt::after →
    ∀ p ∈ previous before (ssrcOf pkt),¬Far (seqOf pkt) p

theorem near_concat (pkts : List Bytes) (pkt : Bytes) : Near (pkts ++ [pkt]) ↔
    Near pkts ∧ ∀ p ∈ previous pkts (ssrcOf pkt),¬Far (seqOf pkt) p := by
  constructor
  · intro near
    refine ⟨?_,near pkts pkt [] rfl⟩
    intro before other after split
    exact near before other (after ++ [pkt]) (by rw [split]; simp)
  · intro both before other after split
    rcases List.eq_nil_or_concat after with empty | ⟨front,last,concat⟩
    · subst empty
      obtain ⟨same,last⟩ := List.append_inj' split rfl
      cases last
      rw [← same]
      exact both.2
    · rw [List.concat_eq_append] at concat
      subst concat
      rw [← List.cons_append,← List.append_assoc] at split
      exact both.1 before other front (List.append_inj' split rfl).1

theorem previous_concat (pkts : List Bytes) (pkt : Bytes) (ssrc : UInt32) :
    previous (pkts ++ [pkt]) ssrc =
      if ssrcOf pkt = ssrc then some (seqOf pkt) else previous pkts ssrc := by
  rw [previous,List.filter_append,List.filter_singleton]
  by_cases same : ssrcOf pkt = ssrc
  · simp [same]
  · simp [same,previous]

/-- The trackers of a conference receiver beside the counters of a capacity bot,
after the packets `pkts`. -/
structure Agrees (pkts : List Bytes) (senders : Table UInt32 SenderTracker) (r : Reading) :
    Prop where
  expected : ∀ ssrc, ((senders.lookup ssrc).getD .new).expectedSeq =
    (r.lastSeq.lookup ssrc).map (· + 1)
  last : ∀ ssrc, r.lastSeq.lookup ssrc = previous pkts ssrc
  packets : senders.weight (·.rxPackets) = r.rxPackets
  charged : senders.weight (·.lost) ≤ r.rxLost
  exactly : senders.weight (·.lost) = r.rxLost ↔ Near pkts

theorem start_agrees : Agrees [] ∅ ⟨0,0,0,∅⟩ := by
  refine ⟨?_,?_,rfl,Nat.le_refl 0,?_⟩
  · intro ssrc
    simp [SenderTracker.new]
  · intro ssrc
    simp [previous]
  · have near : Near [] := by
      intro before pkt after split
      simp at split
    exact iff_of_true rfl near

theorem held_getD (figure : SenderTracker → Nat) (zero : figure .new = 0)
    (entry : Option SenderTracker) : Table.held figure entry = figure (entry.getD .new) := by
  cases entry with
  | some value => rfl
  | none => exact zero.symm

theorem step_agrees {history : List Bytes} {senders : Table UInt32 SenderTracker} {r : Reading}
    (agrees : Agrees history senders r) {item : Bytes × Nat} {pkt : Bytes}
    (media : isRtpDatagram pkt) (same : item.1.take 12 = pkt.take 12) :
    Agrees (history ++ [pkt]) (RecvLoop.track senders item) (r.take pkt) := by
  have ssrc : u32At item.1 8 = ssrcOf pkt := u32At_take same (by omega)
  have seq : u16At item.1 2 = seqOf pkt := u16At_take same (by omega)
  obtain ⟨tracker,own⟩ : ∃ t, t = (senders.lookup (ssrcOf pkt)).getD .new := ⟨_,rfl⟩
  have tracked : RecvLoop.track senders item = senders.insert (ssrcOf pkt)
      (tracker.take item.1 item.2) := by
    rw [RecvLoop.track,Table.absorb,ssrc,own]
  have read : r.take pkt =
      { rxPackets := r.rxPackets + 1
        rxBytes := r.rxBytes + pkt.length
        rxLost := r.rxLost + seqGap (seqOf pkt) (r.lastSeq.lookup (ssrcOf pkt))
        lastSeq := r.lastSeq.insert (ssrcOf pkt) (seqOf pkt) } := by
    rw [Reading.take,if_pos media]
    rfl
  have gap := gapLost_seqGap (seqOf pkt) (r.lastSeq.lookup (ssrcOf pkt))
  have lost : (tracker.take item.1 item.2).lost =
      tracker.lost + gapLost (seqOf pkt) ((r.lastSeq.lookup (ssrcOf pkt)).map (· + 1)) := by
    rw [SenderTracker.take,seq,own,agrees.expected (ssrcOf pkt)]
  have packets := Table.weight_insert (·.rxPackets) senders (ssrcOf pkt)
    (tracker.take item.1 item.2)
  have losses := Table.weight_insert (·.lost) senders (ssrcOf pkt) (tracker.take item.1 item.2)
  rw [held_getD (·.rxPackets) rfl,← own] at packets
  rw [held_getD (·.lost) rfl,← own,lost] at losses
  rw [tracked,read]
  have before := agrees.charged
  refine ⟨?_,?_,?_,?_,?_⟩
  · intro other
    by_cases mine : other = ssrcOf pkt
    · subst mine
      rw [AList.lookup_insert,AList.lookup_insert,Option.getD_some,Option.map_some,
        SenderTracker.take,seq]
    · rw [AList.lookup_insert_ne mine,AList.lookup_insert_ne mine]
      exact agrees.expected other
  · intro other
    rw [previous_concat]
    split
    next mine =>
      subst mine
      exact AList.lookup_insert r.lastSeq
    next others =>
      rw [AList.lookup_insert_ne (Ne.symm others)]
      exact agrees.last other
  · have counted : (tracker.take item.1 item.2).rxPackets = tracker.rxPackets + 1 := rfl
    have here := agrees.packets
    simp only
    omega
  · simp only
    omega
  · rw [near_concat,← agrees.last,← gap.2,← agrees.exactly]
    simp only
    omega

theorem run_agrees {history : List Bytes} {senders : Table UInt32 SenderTracker} {r : Reading}
    (agrees : Agrees history senders r) {items : List (Bytes × Nat)} {pkts : List Bytes}
    (media : ∀ pkt ∈ pkts,isRtpDatagram pkt)
    (same : List.Forall₂ (fun item pkt => item.1.take 12 = pkt.take 12) items pkts) :
    Agrees (history ++ pkts) (items.foldl RecvLoop.track senders) (pkts.foldl Reading.take r) := by
  induction same generalizing history senders r with
  | nil => rwa [List.append_nil]
  | @cons item pkt items pkts one rest ih =>
    have next := step_agrees agrees (media pkt List.mem_cons_self) one
    have later := ih next (fun other member => media other (List.mem_cons_of_mem pkt member))
    rwa [List.append_assoc] at later

section subscriber
variable {srtp : SrtpCtx}

/-- A subscriber counts as one tracker would that is given everything, and measures
the packets that carry a send time. -/
theorem subscriber_recv (received : List Bench.Media.Datagram) (s : SubscriberLoop srtp)
    (t : SenderTracker) (expected : s.expectedSeq = t.expectedSeq)
    (headers : ∀ item ∈ RecvLoop.opened s.srtp received,12 ≤ item.1.length) :
    let last := (RecvLoop.opened s.srtp received).foldl (fun t item => t.take item.1 item.2) t
    ∃ final, received.foldlM SubscriberLoop.recv s = some final ∧
      final.rxPackets + t.rxPackets = last.rxPackets + s.rxPackets ∧
      final.lost + t.lost = last.lost + s.lost ∧
      final.latencies = s.latencies ++
        (RecvLoop.opened s.srtp received).filterMap (fun item => latencyAt 12 item.1 item.2) := by
  induction received generalizing s t with
  | nil => exact ⟨s,rfl,Nat.add_comm ..,Nat.add_comm ..,(List.append_nil _).symm⟩
  | cons d rest ih =>
    rw [RecvLoop.opened] at headers ⊢
    simp only [List.foldlM_cons]
    by_cases media : isMedia d.buf = true
    · rw [if_pos media] at headers ⊢
      cases decrypted : srtp.decryptRtp s.srtp d.buf with
      | mk plaintext ctx =>
        cases plaintext with
        | some plaintext =>
          simp only [decrypted] at headers ⊢
          have header : ¬plaintext.length < 4 := by
            have whole := headers _ List.mem_cons_self
            simp only at whole
            omega
          let next : SubscriberLoop srtp := { s with
            totalRecv := s.totalRecv + 1
            srtp := ctx
            rxPackets := s.rxPackets + 1
            rxBytes := s.rxBytes + d.buf.length
            lost := s.lost + gapLost (u16At plaintext 2) s.expectedSeq
            expectedSeq := some (u16At plaintext 2 + 1)
            latencies := s.latencies ++ (latencyAt 12 plaintext d.micros).toList }
          have stepped : SubscriberLoop.recv s d = some next := by
            simp only [SubscriberLoop.recv,media,decrypted,Bool.not_true,Bool.false_eq_true,if_false,
              header]
            rfl
          have counted : next.rxPackets = s.rxPackets + 1 := rfl
          have charged : next.lost = s.lost + gapLost (u16At plaintext 2) t.expectedSeq := by
            rw [← expected]
          rw [stepped]
          obtain ⟨final,ran,packets,lost,latencies⟩ := ih next (t.take plaintext d.micros) rfl
            (fun item member => headers item (List.mem_cons_of_mem _ member))
          have context : next.srtp = ctx := rfl
          rw [context] at packets lost latencies
          refine ⟨final,ran,?_,?_,?_⟩
          · have one : (t.take plaintext d.micros).rxPackets = t.rxPackets + 1 := rfl
            simp only [List.foldl_cons]
            omega
          · have one : (t.take plaintext d.micros).lost =
                t.lost + gapLost (u16At plaintext 2) t.expectedSeq := rfl
            simp only [List.foldl_cons]
            omega
          · rw [latencies,List.append_assoc,List.filterMap_cons]
            simp only
            cases latencyAt 12 plaintext d.micros <;> rfl
        | none =>
          simp only [decrypted] at headers ⊢
          have stepped : SubscriberLoop.recv s d = some { s with
              totalRecv := s.totalRecv + 1
              srtp := ctx
              decryptFail := s.decryptFail + 1 } := by
            simp only [SubscriberLoop.recv,media,decrypted,Bool.not_true,Bool.false_eq_true,if_false]
          rw [stepped]
          exact ih _ t expected headers
    · rw [if_neg media] at headers ⊢
      have stepped : SubscriberLoop.recv s d = some { s with
          totalRecv := s.totalRecv + 1
          nonRtp := s.nonRtp + 1 } := by
        simp only [SubscriberLoop.recv,Bool.eq_false_iff.mpr media,Bool.not_false,if_true]
      rw [stepped]
      exact ih _ t expected headers

end subscriber

theorem lone_tracker (items : List (Bytes × Nat)) {ssrc : UInt32}
    (lone : ∀ item ∈ items,u32At item.1 8 = ssrc) :
    let senders := items.foldl RecvLoop.track ∅
    let all := items.foldl (fun t item => t.take item.1 item.2) SenderTracker.new
    (senders.lookup ssrc).getD .new = all ∧ senders.weight (·.rxPackets) = all.rxPackets ∧
      senders.weight (·.lost) = all.lost := by
  induction items using List.reverseRecOn with
  | nil => exact ⟨rfl,rfl,rfl⟩
  | append_singleton before item ih =>
    obtain ⟨own,packets,lost⟩ := ih (fun other member => lone other (List.mem_append_left _ member))
    have named : u32At item.1 8 = ssrc := lone item (by simp)
    simp only [List.foldl_append,List.foldl_cons,List.foldl_nil]
    generalize before.foldl RecvLoop.track ∅ = senders at own packets lost ⊢
    generalize before.foldl _ SenderTracker.new = all at own packets lost ⊢
    have tracked : RecvLoop.track senders item = senders.insert ssrc (all.take item.1 item.2) := by
      rw [RecvLoop.track,Table.absorb,named,own]
    have more := Table.weight_insert (·.rxPackets) senders ssrc (all.take item.1 item.2)
    have gaps := Table.weight_insert (·.lost) senders ssrc (all.take item.1 item.2)
    rw [held_getD (·.rxPackets) rfl,own,packets] at more
    rw [held_getD (·.lost) rfl,own,lost] at gaps
    rw [tracked]
    refine ⟨?_,by omega,by omega⟩
    rw [AList.lookup_insert,Option.getD_some]

section paths
variable (srtp : SrtpCtx) (mode : RecvMode) (capCtx benchCtx : srtp.Ctx)
  (received : List FastPath.Datagram)

def benched : List Bench.Media.Datagram := received.map (fun d => ⟨d.micros,d.buf⟩)

def mediaPackets : List Bytes := (received.map (·.buf)).filter (fun pkt => isRtpDatagram pkt)

theorem take_media (pkts : List Bytes) (r : Reading) :
    pkts.foldl Reading.take r = (pkts.filter (fun pkt => isRtpDatagram pkt)).foldl Reading.take r := by
  induction pkts generalizing r with
  | nil => rfl
  | cons pkt rest ih =>
    rw [List.foldl_cons,List.filter_cons]
    split
    next => exact ih _
    next other =>
      rw [Reading.take,if_neg other]
      exact ih r

/-- On the same datagrams, where what looks like media is what decrypts: all receive
as much; a conference receiver charges at most the losses of a capacity bot, and as
many if and only if no packet runs ahead by a thousand or more; and of a single SSRC
a subscriber counts the same as a conference receiver. -/
theorem losses_agree
    (decrypted : (RecvLoop.opened benchCtx (benched received)).map (fun item => item.1.take 12) =
      (mediaPackets received).map (fun pkt => pkt.take 12)) :
    ∃ r, conferenceRecvLoop srtp benchCtx (benched received) = some r ∧
      let cap := (FastPath.capRun srtp mode capCtx received).counters
      r.rxPackets = cap.rxPackets ∧ r.rxLost ≤ cap.rxLost ∧
        (r.rxLost = cap.rxLost ↔ Near (mediaPackets received)) ∧
        ∀ id ssrc, (∀ pkt ∈ mediaPackets received,ssrcOf pkt = ssrc) →
          ∃ detail, subscriberRecvLoop srtp id benchCtx (benched received) = some detail ∧
            detail.rxPackets = r.rxPackets ∧ detail.rxLost = r.rxLost := by
  have both : List.Forall₂ (fun item pkt => item.1.take 12 = pkt.take 12)
      (RecvLoop.opened benchCtx (benched received)) (mediaPackets received) := by
    have equal := List.forall₂_eq_eq_eq ▸ decrypted
    rwa [List.forall₂_map_left_iff,List.forall₂_map_right_iff] at equal
  have media : ∀ pkt ∈ mediaPackets received,isRtpDatagram pkt :=
    fun pkt member => (List.mem_filter.mp member).2
  have headers : ∀ item ∈ RecvLoop.opened benchCtx (benched received),12 ≤ item.1.length := by
    intro item member
    obtain ⟨pkt,listed,same⟩ := List.mem_map.mp (decrypted ▸ List.mem_map_of_mem member)
    have sized : 12 ≤ pkt.length := by
      have seen := media pkt listed
      simp only [isRtpDatagram,Bool.and_eq_true,decide_eq_true_eq] at seen
      exact seen.1.1
    have lengths := congrArg List.length same
    rw [List.length_take,List.length_take] at lengths
    omega
  obtain ⟨final,ran,senders⟩ := RecvLoop.foldlM_recv (benched received) { srtp := benchCtx } headers
  have agrees := run_agrees start_agrees media both
  have reading : (FastPath.capRun srtp mode capCtx received).reading =
      (mediaPackets received).foldl Reading.take ⟨0,0,0,∅⟩ := by
    rw [FastPath.capRun_reading,mediaPackets,← take_media,List.foldl_map]
  rw [← reading,List.nil_append,← senders] at agrees
  refine ⟨final.result,?_,agrees.packets,agrees.charged,agrees.exactly,?_⟩
  · rw [conferenceRecvLoop,ran]
    rfl
  · intro id ssrc lone
    have named : ∀ item ∈ RecvLoop.opened benchCtx (benched received),u32At item.1 8 = ssrc := by
      intro item member
      obtain ⟨pkt,listed,same⟩ := List.mem_map.mp (decrypted ▸ List.mem_map_of_mem member)
      rw [← lone pkt listed]
      exact (u32At_take same (by omega)).symm
    obtain ⟨last,finished,packets,lost,_⟩ := subscriber_recv (benched received) { srtp := benchCtx }
      .new rfl headers
    have alone := lone_tracker _ named
    refine ⟨⟨id,last.rxPackets,last.rxBytes,last.lost,sortedStats last.latencies⟩,?_,?_,?_⟩
    · rw [subscriberRecvLoop,finished]
      rfl
    · rw [RecvLoop.result,senders]
      exact packets.trans alone.2.1.symm
    · rw [RecvLoop.result,senders]
      exact lost.trans alone.2.2.symm

end paths

def heading (seq : UInt8) (far : UInt8) : Bytes :=
  [0x80,96,far,seq,0,0,0,0,0,0,0,7] ++ List.replicate 30 0

def jumping : List FastPath.Datagram :=
  [⟨0,0,heading 5 0⟩,⟨1,1,heading 6 0⟩,⟨2,2,[22,1,2]⟩,⟨3,3,heading 7 16⟩]

theorem losses_agree_jump : ∃ r,
    conferenceRecvLoop FastPath.untagged () (benched jumping) = some r ∧ r.rxPackets = 3 ∧
      r.rxLost < (FastPath.capRun FastPath.untagged .count () jumping).counters.rxLost := by
  obtain ⟨r,ran,packets,charged,exactly,_⟩ :=
    losses_agree FastPath.untagged .count () () jumping (by decide +kernel)
  have far : ¬Near (mediaPackets jumping) := by
    intro near
    exact near [heading 5 0,heading 6 0] (heading 7 16) [] (by decide) 6 (by decide) (by decide)
  have unequal : r.rxLost ≠ _ := fun same => far (exactly.mp same)
  exact ⟨r,ran,packets.trans (by decide +kernel),lt_of_le_of_ne charged unequal⟩

end Oxlab.ReceivePaths
