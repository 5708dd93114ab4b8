import Oxlab.Bot.RtpSubscriber
import Oxlab.Library.Run

/-! Reordered and repeated packets on one SSRC.
The reference charges every arrival against the highest sequence number so far;
the record charges it against the arrival right before. The two agree after
every arrival of a history exactly when the history is well spaced. -/
namespace Oxlab.Reordering
open Common.Media Library Bot.RtpSubscriber

theorem asI16_range (x : UInt16) : -32768 ≤ asI16 x ∧ asI16 x ≤ 32767 := by
  have low := Int16.le_toInt x.toInt16
  have high := Int16.toInt_lt x.toInt16
  unfold asI16
  omega

theorem asI16_congr (a b : UInt16) : (asI16 (a-b) - ((a.toNat : Int) - b.toNat)) % 65536 = 0 := by
  rw [asI16_cases]
  split_ifs <;> omega

theorem asI16_zero_iff (a b : UInt16) : asI16 (a-b) = 0 ↔ a = b := by
  have la := a.toNat_lt
  have lb := b.toNat_lt
  rw [asI16_cases,← UInt16.toNat_inj]
  split_ifs <;> omega

structure Arrival where
  now : Instant
  seq : UInt16
  ts : UInt32

def received (ssrc : UInt32) (pt : UInt8) (arrivals : List Arrival) : SsrcRecvMetrics :=
  arrivals.foldl (fun m a => m.update a.now a.seq a.ts) (.new 0 ssrc pt)

structure HighestRef where
  highest : UInt16
  lost : Nat
  ooo : Nat

namespace HighestRef

def start (first : UInt16) : HighestRef := ⟨first,0,0⟩

def observe (r : HighestRef) (s : UInt16) : HighestRef :=
  let d := asI16 (s - r.highest)
  if 0 < d then ⟨s,r.lost + (d-1).toNat,r.ooo⟩
  else if d < 0 then ⟨r.highest,r.lost,r.ooo+1⟩
  else r

end HighestRef

def reference : List UInt16 → HighestRef
  | [] => ⟨0,0,0⟩
  | first::rest => rest.foldl .observe (.start first)

structure Agrees (m : SsrcRecvMetrics) (r : HighestRef) : Prop where
  lost : m.packetsLost = r.lost
  ooo : m.outOfOrder = r.ooo
  highest : m.maxSeqSeen = r.highest

def highestFrom (first : UInt16) (seqs : List UInt16) : UInt16 :=
  seqs.foldl (fun highest s => if 0 < asI16 (s - highest) then s else highest) first

/-- An arrival that the gap from its predecessor `last` and the distance from
the `highest` so far judge alike: it runs ahead only from the highest, repeats
the highest only from there or from one before it, and falls behind only by
falling behind its predecessor too. -/
def WellSpacedStep (last highest s : UInt16) : Prop :=
  (0 < asI16 (s - highest) → last = highest) ∧
    (s = highest → last = highest ∨ last + 1 = highest) ∧
    (asI16 (s - highest) < 0 → -32768 < asI16 (s - last) ∧ asI16 (s - last) < 0)

def WellSpaced : List UInt16 → Prop
  | [] => True
  | first::rest => ∀ before s after, rest = before ++ s::after →
      WellSpacedStep ((first::before).getLast (List.cons_ne_nil first before))
        (highestFrom first before) s

/-- The charges in terms of the four signed gaps: `b` from highest back to
predecessor, `g` and `d` from these to the arrival, `e` what the record reads. -/
theorem charge_iff (b g d e : Int) (behind : -32768 ≤ b ∧ b ≤ 0) (gRange : -32768 ≤ g ∧ g ≤ 32767)
    (dRange : -32768 ≤ d ∧ d ≤ 32767) (eRange : -32768 ≤ e ∧ e ≤ 32767)
    (gd : (d - g - b) % 65536 = 0) (ge : (g - e - 1) % 65536 = 0) :
    (e.toNat = (if 0 < d then (d-1).toNat else 0) ∧
        (if e < -1 then 1 else 0) = (if 0 < d then 0 else if d < 0 then 1 else 0)) ↔
      (0 < d → b = 0) ∧ (d = 0 → b = 0 ∨ b = -1) ∧ (d < 0 → -32768 < g ∧ g < 0) := by
  -- the ranges leave each congruence at most one turn of the counter
  have turnD : d - g - b = 0 ∨ d - g - b = 65536 := by omega
  have turnE : g - e - 1 = 0 ∨ g - e - 1 = -65536 := by omega
  clear gd ge
  rcases Int.lt_trichotomy d 0 with negative | zero | positive
  · have not : ¬0 < d := by omega
    have off : d ≠ 0 := by omega
    simp only [not,off,negative,if_true,if_false,false_implies,true_implies,true_and]
    rcases turnD with gd | gd <;> rcases turnE with ge | ge <;> split <;> omega
  · subst zero
    simp only [Int.lt_irrefl,if_false,false_implies,true_implies,true_and,and_true]
    rcases turnD with gd | gd <;> rcases turnE with ge | ge <;> split <;> omega
  · have not : ¬d < 0 := by omega
    have off : d ≠ 0 := by omega
    simp only [positive,not,off,if_true,false_implies,true_implies,and_true]
    rcases turnD with gd | gd <;> rcases turnE with ge | ge <;> split <;> omega

section step
variable (m : SsrcRecvMetrics) (r : HighestRef)

/-- What both sides keep whatever arrives: the record is live, its highest is
the reference's, and its last arrival is not ahead of it. -/
structure Tracks : Prop where
  live : m.initialized = true
  highest : m.maxSeqSeen = r.highest
  behind : asI16 (m.lastSeq - r.highest) ≤ 0

variable {m r}

theorem start_agrees (fresh : SsrcRecvMetrics) (now : Instant) (s : UInt16) (ts : UInt32)
    (blank : fresh.initialized = false) (lost : fresh.packetsLost = 0) (ooo : fresh.outOfOrder = 0) :
    Tracks (fresh.update now s ts) (.start s) ∧ Agrees (fresh.update now s ts) (.start s) := by
  obtain ⟨sameLost,sameOoo,highest⟩ := update_first fresh now s ts blank
  refine ⟨⟨update_initialized ..,highest,?_⟩,⟨sameLost.trans lost,sameOoo.trans ooo,highest⟩⟩
  rw [update_lastSeq]
  exact Int.le_of_eq ((asI16_zero_iff s s).mpr rfl)

theorem update_tracks (tracks : Tracks m r) (now : Instant) (s : UInt16) (ts : UInt32) :
    Tracks (m.update now s ts) (r.observe s) := by
  obtain ⟨_,_,highest⟩ := update_later m now s ts tracks.live
  rw [tracks.highest] at highest
  refine ⟨update_initialized ..,?_,?_⟩
  · rw [highest,HighestRef.observe]
    split_ifs <;> rfl
  · rw [update_lastSeq,HighestRef.observe]
    split_ifs with ahead older
    · exact Int.le_of_eq ((asI16_zero_iff s s).mpr rfl)
    · exact Int.le_of_lt older
    · omega

theorem observe_lost (s : UInt16) : (r.observe s).lost =
    r.lost + (if 0 < asI16 (s - r.highest) then (asI16 (s - r.highest) - 1).toNat else 0) := by
  rw [HighestRef.observe]
  split_ifs <;> rfl

theorem observe_ooo (s : UInt16) : (r.observe s).ooo =
    r.ooo + (if 0 < asI16 (s - r.highest) then 0 else if asI16 (s - r.highest) < 0 then 1 else 0) := by
  rw [HighestRef.observe]
  split_ifs <;> rfl

theorem observe_highest (s : UInt16) :
    (r.observe s).highest = if 0 < asI16 (s - r.highest) then s else r.highest := by
  rw [HighestRef.observe]
  split_ifs <;> rfl

theorem update_agrees_iff (tracks : Tracks m r) (agrees : Agrees m r) (now : Instant) (s : UInt16)
    (ts : UInt32) :
    Agrees (m.update now s ts) (r.observe s) ↔ WellSpacedStep m.lastSeq r.highest s := by
  obtain ⟨lost,ooo,_⟩ := update_later m now s ts tracks.live
  have next : (m.lastSeq+1).toNat = (m.lastSeq.toNat+1) % 65536 := by rw [UInt16.toNat_add]; rfl
  have b := asI16_congr m.lastSeq r.highest
  have g := asI16_congr s m.lastSeq
  have d := asI16_congr s r.highest
  have e := asI16_congr s (m.lastSeq+1)
  have bRange := asI16_range (m.lastSeq - r.highest)
  have charged := charge_iff (asI16 (m.lastSeq - r.highest)) (asI16 (s - m.lastSeq))
    (asI16 (s - r.highest)) (asI16 (s - (m.lastSeq+1))) ⟨bRange.1,tracks.behind⟩ (asI16_range _)
    (asI16_range _) (asI16_range _) (by omega) (by omega)
  have level : m.lastSeq = r.highest ↔ asI16 (m.lastSeq - r.highest) = 0 :=
    (asI16_zero_iff _ _).symm
  have before : m.lastSeq + 1 = r.highest ↔ asI16 (m.lastSeq - r.highest) = -1 := by
    have bound := r.highest.toNat_lt
    have size := m.lastSeq.toNat_lt
    rw [← UInt16.toNat_inj,next]
    omega
  rw [WellSpacedStep,level,before,← asI16_zero_iff s r.highest,← charged]
  constructor
  · intro same
    have sameLost := same.lost
    have sameOoo := same.ooo
    rw [lost,observe_lost,agrees.lost] at sameLost
    rw [ooo,observe_ooo,agrees.ooo] at sameOoo
    exact ⟨Nat.add_left_cancel sameLost,Nat.add_left_cancel sameOoo⟩
  · intro same
    obtain ⟨sameLost,sameOoo⟩ := same
    refine ⟨?_,?_,(update_tracks tracks now s ts).highest⟩
    · rw [lost,observe_lost,agrees.lost,sameLost]
    · rw [ooo,observe_ooo,agrees.ooo,sameOoo]

end step

def together (pair : SsrcRecvMetrics × HighestRef) (a : Arrival) :
    Option (SsrcRecvMetrics × HighestRef) :=
  some (pair.1.update a.now a.seq a.ts,pair.2.observe a.seq)

theorem exec_together (arrivals : List Arrival) (m : SsrcRecvMetrics) (r : HighestRef) :
    Run.exec together (m,r) arrivals =
      some (arrivals.foldl (fun m a => m.update a.now a.seq a.ts) m,
        (arrivals.map (·.seq)).foldl .observe r) := by
  induction arrivals generalizing m r with
  | nil => rfl
  | cons a rest ih => exact ih _ _

theorem fold_position (arrivals : List Arrival) (m : SsrcRecvMetrics) (r : HighestRef)
    (first : UInt16) (last : m.lastSeq = first) :
    (arrivals.foldl (fun m a => m.update a.now a.seq a.ts) m).lastSeq =
        (first::arrivals.map (·.seq)).getLast (List.cons_ne_nil _ _) ∧
      ((arrivals.map (·.seq)).foldl .observe r).highest =
        highestFrom r.highest (arrivals.map (·.seq)) := by
  induction arrivals generalizing m r first with
  | nil => exact ⟨last,rfl⟩
  | cons a rest ih =>
    obtain ⟨lastly,highest⟩ := ih (m.update a.now a.seq a.ts) (r.observe a.seq) a.seq
      (update_lastSeq ..)
    refine ⟨by simpa using lastly,?_⟩
    rw [List.map_cons,List.foldl_cons,highest,observe_highest]
    rfl

theorem follows_iff (arrivals : List Arrival) (m : SsrcRecvMetrics) (r : HighestRef)
    (first : UInt16) (tracks : Tracks m r) (agrees : Agrees m r) (last : m.lastSeq = first)
    (top : r.highest = first) :
    (∀ history, history <+: arrivals →
        Agrees (history.foldl (fun m a => m.update a.now a.seq a.ts) m)
          ((history.map (·.seq)).foldl .observe r)) ↔
      WellSpaced (first::arrivals.map (·.seq)) := by
  have runs := Run.always_iff_clean together (fun p => Tracks p.1 p.2 ∧ Agrees p.1 p.2)
    (fun p => Agrees p.1 p.2) (fun p a => ¬WellSpacedStep p.1.lastSeq p.2.highest a.seq)
    (fun _ both => both.2)
    (by
      rintro ⟨m,r⟩ a next ⟨tracks,agrees⟩ stepped fine
      cases Option.some.inj stepped
      exact ⟨update_tracks tracks ..,
        (update_agrees_iff tracks agrees ..).mpr (Classical.not_not.mp fine)⟩)
    (by
      rintro ⟨m,r⟩ a next ⟨tracks,agrees⟩ stepped wrong same
      cases Option.some.inj stepped
      exact wrong ((update_agrees_iff tracks agrees ..).mp same))
    arrivals (m,r) _ ⟨tracks,agrees⟩ (exec_together arrivals m r)
  simp only [Run.always_iff,Run.clean_split,exec_together,Option.some.injEq,forall_eq',
    Classical.not_not] at runs
  rw [runs,WellSpaced]
  constructor
  · intro clean before s after split
    obtain ⟨front,tail,rfl,rfl,ends⟩ := List.map_eq_append_iff.mp split
    obtain ⟨a,later,rfl,rfl,rfl⟩ := List.map_eq_cons_iff.mp ends
    obtain ⟨lastly,highest⟩ := fold_position front m r first last
    have step := clean front a later rfl
    rwa [lastly,highest,top] at step
  · rintro spaced before a after rfl
    obtain ⟨lastly,highest⟩ := fold_position before m r first last
    rw [lastly,highest,top]
    have split : (before ++ a::after).map (·.seq) =
        before.map (·.seq) ++ a.seq::after.map (·.seq) := by simp
    exact spaced _ _ _ split

section window
variable (base : Nat)

/-- Where the two stand when every position lies in one window of half the
sequence range, so that no comparison wraps. -/
structure Placed (last highest : Nat) (m : SsrcRecvMetrics) (r : HighestRef) : Prop where
  tracks : Tracks m r
  lastSeq : m.lastSeq = UInt16.ofNat last
  top : r.highest = UInt16.ofNat highest
  above : base ≤ last
  behind : last ≤ highest
  below : highest < base + 32768

theorem asI16_near (p q : Nat) (ahead : p < q + 32768) (behind : q ≤ p + 32768) :
    asI16 (UInt16.ofNat p - UInt16.ofNat q) = (p : Int) - q := by
  rw [asI16_sub]
  exact Serial.distance_wire 16 q p (by omega) (by omega)

variable {base} {m : SsrcRecvMetrics} {r : HighestRef} {last highest : Nat}

/-- Without a wrap the record never charges less loss than the reference, and
never counts more packets out of order. -/
theorem update_excess (placed : Placed base last highest m r) (now : Instant) (p : Nat)
    (ts : UInt32) (inside : base ≤ p ∧ p < base + 32768) :
    Placed base p (max highest p) (m.update now (UInt16.ofNat p) ts) (r.observe (UInt16.ofNat p)) ∧
      m.packetsLost + (r.observe (UInt16.ofNat p)).lost ≤
        (m.update now (UInt16.ofNat p) ts).packetsLost + r.lost ∧
      (m.update now (UInt16.ofNat p) ts).outOfOrder + r.ooo ≤
        m.outOfOrder + (r.observe (UInt16.ofNat p)).ooo := by
  have above := placed.above
  have behind := placed.behind
  have below := placed.below
  have next : m.lastSeq + 1 = UInt16.ofNat (last+1) := by
    rw [placed.lastSeq,UInt16.ofNat_add]
    rfl
  have e := asI16_near p (last+1) (by omega) (by omega)
  have d := asI16_near p highest (by omega) (by omega)
  obtain ⟨lost,ooo,_⟩ := update_later m now (UInt16.ofNat p) ts placed.tracks.live
  rw [next,e] at lost ooo
  refine ⟨⟨update_tracks placed.tracks ..,update_lastSeq ..,?_,inside.1,le_max_right ..,by omega⟩,?_,?_⟩
  · rw [observe_highest,placed.top,d]
    split
    next ahead => rw [Nat.max_eq_right (by omega)]
    next older => rw [Nat.max_eq_left (by omega)]
  · rw [lost,observe_lost,placed.top,d]
    split <;> omega
  · rw [ooo,observe_ooo,placed.top,d]
    split_ifs <;> omega

theorem fold_excess (arrivals : List Arrival) (positions : List Nat)
    (seqs : arrivals.map (·.seq) = positions.map UInt16.ofNat)
    (inside : ∀ p ∈ positions, base ≤ p ∧ p < base + 32768)
    (placed : Placed base last highest m r) :
    let m' := arrivals.foldl (fun m a => m.update a.now a.seq a.ts) m
    let r' := (arrivals.map (·.seq)).foldl .observe r
    (∃ last highest, Placed base last highest m' r') ∧
      m.packetsLost + r'.lost ≤ m'.packetsLost + r.lost ∧
      m'.outOfOrder + r.ooo ≤ m.outOfOrder + r'.ooo := by
  induction arrivals generalizing positions m r last highest with
  | nil => exact ⟨⟨last,highest,placed⟩,Nat.le_refl _,Nat.le_refl _⟩
  | cons a rest ih =>
    obtain ⟨p,later,rfl,seq,others⟩ := List.map_eq_cons_iff.mp seqs.symm
    change UInt16.ofNat p = a.seq at seq
    obtain ⟨here,there⟩ := List.forall_mem_cons.mp inside
    obtain ⟨next,lost,ooo⟩ := update_excess placed a.now p a.ts here
    rw [seq] at next lost ooo
    obtain ⟨stands,tailLost,tailOoo⟩ := ih later others.symm there next
    refine ⟨stands,?_,?_⟩
    · simp only [List.map_cons,List.foldl_cons]
      omega
    · simp only [List.map_cons,List.foldl_cons]
      omega

/-- Inside one window the counters agree at the end of a history exactly when it
is well spaced: no later arrival makes up for a wrong charge. -/
theorem windowed_iff (ssrc : UInt32) (pt : UInt8) (arrivals : List Arrival) (positions : List Nat)
    (seqs : arrivals.map (·.seq) = positions.map UInt16.ofNat)
    (inside : ∀ p ∈ positions, base ≤ p ∧ p < base + 32768) :
    Agrees (received ssrc pt arrivals) (reference (arrivals.map (·.seq))) ↔
      WellSpaced (arrivals.map (·.seq)) := by
  cases arrivals with
  | nil => simpa [WellSpaced] using ⟨rfl,rfl,rfl⟩
  | cons a rest =>
    obtain ⟨p,later,rfl,seq,others⟩ := List.map_eq_cons_iff.mp seqs.symm
    change UInt16.ofNat p = a.seq at seq
    obtain ⟨here,there⟩ := List.forall_mem_cons.mp inside
    obtain ⟨tracks,agrees⟩ := start_agrees (.new 0 ssrc pt) a.now a.seq a.ts rfl rfl rfl
    have placed : Placed base p p (SsrcRecvMetrics.update (.new 0 ssrc pt) a.now a.seq a.ts)
        (.start a.seq) :=
      ⟨tracks,(update_lastSeq ..).trans seq.symm,seq.symm,here.1,Nat.le_refl p,here.2⟩
    rw [List.map_cons,← follows_iff rest _ _ a.seq tracks agrees (update_lastSeq ..) rfl]
    constructor
    · intro final history inside
      obtain ⟨tail,rfl⟩ := inside
      obtain ⟨front,back,rfl,head,ends⟩ := List.map_eq_append_iff.mp
        (others.trans List.map_append)
      obtain ⟨within,beyond⟩ := List.forall_mem_append.mp there
      obtain ⟨⟨_,_,stands⟩,lost,ooo⟩ := fold_excess history front head.symm within placed
      obtain ⟨_,lateLost,lateOoo⟩ := fold_excess tail back ends.symm beyond stands
      rw [← List.foldl_append] at lateLost lateOoo
      rw [← List.foldl_append,← List.map_append] at lateLost lateOoo
      have endLost := final.lost
      have endOoo := final.ooo
      have startLost := agrees.lost
      have startOoo := agrees.ooo
      simp only [received,reference,List.foldl_cons] at endLost endOoo
      exact ⟨by omega,by omega,stands.tracks.highest⟩
    · intro follows
      exact follows rest (List.prefix_refl rest)

end window
/-- The record follows the reference through a whole history exactly when the
history is well spaced. -/
theorem reference_iff (ssrc : UInt32) (pt : UInt8) (arrivals : List Arrival) :
    (∀ history, history <+: arrivals →
        Agrees (received ssrc pt history) (reference (history.map (·.seq)))) ↔
      WellSpaced (arrivals.map (·.seq)) := by
  cases arrivals with
  | nil => simpa [WellSpaced] using ⟨rfl,rfl,rfl⟩
  | cons a rest =>
    obtain ⟨tracks,agrees⟩ := start_agrees (.new 0 ssrc pt) a.now a.seq a.ts rfl rfl rfl
    rw [List.map_cons,← follows_iff rest _ _ a.seq tracks agrees (update_lastSeq ..) rfl]
    constructor
    · intro all history inside
      exact all (a::history) (List.cons_prefix_cons.mpr ⟨rfl,inside⟩)
    · intro follows history inside
      cases history with
      | nil => exact ⟨rfl,rfl,rfl⟩
      | cons b tail =>
        obtain ⟨rfl,within⟩ := List.cons_prefix_cons.mp inside
        exact follows tail within

theorem late_packet_charged :
    let arrivals := [0,1,3,2,4].map (fun s => (⟨0,s,0⟩ : Arrival))
    (received 1 111 arrivals).packetsLost = 2 ∧ (reference (arrivals.map (·.seq))).lost = 1 ∧
      ¬Agrees (received 1 111 arrivals) (reference (arrivals.map (·.seq))) := by
  intro arrivals
  have charged : (received 1 111 arrivals).packetsLost = 2 := by decide +kernel
  have once : (reference (arrivals.map (·.seq))).lost = 1 := by decide +kernel
  refine ⟨charged,once,?_⟩
  intro agrees
  have same := agrees.lost
  omega

end Oxlab.Reordering
