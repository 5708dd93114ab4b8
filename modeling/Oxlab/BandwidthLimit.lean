import Mathlib.Data.List.Infix
import Mathlib.Tactic.Linarith
import Oxlab.Net.Filter

/-! The bandwidth limit over any run of calls.
What a bucket accepts it pays for in tokens, and it gains tokens only at its rate:
so no stretch of calls gets more through than a full bucket and what flows in
meanwhile. -/
namespace Oxlab.BandwidthLimit
open Net.Filter

structure Call where
  time : ℚ
  bytes : Nat

section bucket
variable (bucket : TokenBucket) (now : ℚ) (bytes : Nat)

/-- The bucket with what flowed in since the last call. -/
def refill : TokenBucket :=
  { bucket with
    tokens := min (bucket.tokens + bucket.rate*max 0 (now - bucket.lastRefill)) bucket.capacity
    lastRefill := now }

theorem consume_eq : bucket.consume now bytes =
    if (bytes : ℚ) ≤ (refill bucket now).tokens then
      (true,{ refill bucket now with tokens := (refill bucket now).tokens - bytes })
    else (false,refill bucket now) := rfl

theorem consume_accepted (accepted : (bucket.consume now bytes).1 = true) :
    (bytes : ℚ) ≤ (refill bucket now).tokens ∧
      (bucket.consume now bytes).2 =
        { refill bucket now with tokens := (refill bucket now).tokens - bytes } := by
  rw [consume_eq] at accepted ⊢
  by_cases covered : (bytes : ℚ) ≤ (refill bucket now).tokens
  · rw [if_pos covered]
    exact ⟨covered,rfl⟩
  · rw [if_neg covered] at accepted
    contradiction

theorem consume_rejected (rejected : (bucket.consume now bytes).1 = false) :
    (bucket.consume now bytes).2 = refill bucket now := by
  rw [consume_eq] at rejected ⊢
  by_cases covered : (bytes : ℚ) ≤ (refill bucket now).tokens
  · rw [if_pos covered] at rejected
    contradiction
  · rw [if_neg covered]

def paid : Nat := if (bucket.consume now bytes).1 then bytes else 0

theorem consume_tokens :
    (bucket.consume now bytes).2.tokens + paid bucket now bytes = (refill bucket now).tokens := by
  unfold paid
  cases verdict : (bucket.consume now bytes).1 with
  | true =>
    rw [(consume_accepted bucket now bytes verdict).2]
    exact sub_add_cancel _ _
  | false =>
    rw [consume_rejected bucket now bytes verdict]
    exact add_zero _

theorem consume_fixed :
    (bucket.consume now bytes).2.lastRefill = now ∧
      (bucket.consume now bytes).2.rate = bucket.rate ∧
      (bucket.consume now bytes).2.capacity = bucket.capacity := by
  rw [consume_eq]
  split
  next => exact ⟨rfl,rfl,rfl⟩
  next => exact ⟨rfl,rfl,rfl⟩

end bucket

def turn (bucket : TokenBucket) (call : Call) : TokenBucket := (bucket.consume call.time call.bytes).2

def behind (bucket : TokenBucket) (calls : List Call) : TokenBucket := calls.foldl turn bucket

/-- The bytes of the packets that were let through. -/
def through (bucket : TokenBucket) : List Call → Nat
  | [] => 0
  | call::rest => paid bucket call.time call.bytes + through (turn bucket call) rest

/-- A rate that never drains and a level within the bucket. -/
structure Filled (bucket : TokenBucket) : Prop where
  rate : 0 ≤ bucket.rate
  least : 0 ≤ bucket.tokens
  most : bucket.tokens ≤ bucket.capacity

theorem new_filled (now : ℚ) (bandwidthKbps : Nat) : Filled (.new now bandwidthKbps) := by
  have rate : (0 : ℚ) ≤ (bandwidthKbps : ℚ)*1000/8 :=
    div_nonneg (mul_nonneg (Nat.cast_nonneg _) (by norm_num)) (by norm_num)
  exact ⟨rate,div_nonneg rate (by norm_num),le_refl _⟩

theorem refill_filled {bucket : TokenBucket} (filled : Filled bucket) (now : ℚ) :
    Filled (refill bucket now) := by
  have gained : 0 ≤ bucket.rate*max 0 (now - bucket.lastRefill) :=
    mul_nonneg filled.rate (le_max_left 0 _)
  have capacity : 0 ≤ bucket.capacity := filled.least.trans filled.most
  exact ⟨filled.rate,le_min (add_nonneg filled.least gained) capacity,min_le_right _ _⟩

theorem turn_filled {bucket : TokenBucket} (filled : Filled bucket) (call : Call) :
    Filled (turn bucket call) := by
  have full := refill_filled filled call.time
  cases verdict : (bucket.consume call.time call.bytes).1 with
  | true =>
    obtain ⟨covered,same⟩ := consume_accepted bucket call.time call.bytes verdict
    rw [turn,same]
    refine ⟨full.rate,sub_nonneg.mpr covered,?_⟩
    exact (sub_le_self _ (Nat.cast_nonneg _)).trans full.most
  | false =>
    rw [turn,consume_rejected bucket call.time call.bytes verdict]
    exact full

theorem behind_filled {bucket : TokenBucket} (filled : Filled bucket) (calls : List Call) :
    Filled (behind bucket calls) := by
  induction calls generalizing bucket with
  | nil => exact filled
  | cons call rest ih => exact ih (turn_filled filled call)

theorem behind_fixed (bucket : TokenBucket) (calls : List Call) :
    (behind bucket calls).rate = bucket.rate ∧ (behind bucket calls).capacity = bucket.capacity := by
  induction calls generalizing bucket with
  | nil => exact ⟨rfl,rfl⟩
  | cons call rest ih =>
    obtain ⟨_,rate,capacity⟩ := consume_fixed bucket call.time call.bytes
    obtain ⟨sameRate,sameCapacity⟩ := ih (turn bucket call)
    exact ⟨sameRate.trans rate,sameCapacity.trans capacity⟩

def Ordered (calls : List Call) : Prop := calls.Pairwise (fun earlier later => earlier.time ≤ later.time)

instance (calls : List Call) : Decidable (Ordered calls) := inferInstanceAs (Decidable (List.Pairwise _ _))

theorem ordered_last {first : Call} {between : List Call} (ordered : Ordered (first::between)) :
    ∀ call ∈ first::between,call.time ≤ (between.getLastD first).time := by
  induction between generalizing first with
  | nil =>
    intro call member
    rw [List.mem_singleton.mp member]
    exact le_refl _
  | cons second rest ih =>
    obtain ⟨after,others⟩ := List.pairwise_cons.mp ordered
    have last := ih others
    intro call member
    rw [List.getLastD_cons]
    rcases List.mem_cons.mp member with rfl | inside
    · exact (after second List.mem_cons_self).trans (last second List.mem_cons_self)
    · exact last call inside

/-- Calls after the last refill are paid by the level and by what flows in until
the last of them. -/
theorem through_le {bucket : TokenBucket} (filled : Filled bucket) (calls : List Call) {last : ℚ}
    (ordered : Ordered calls) (since : ∀ call ∈ calls,bucket.lastRefill ≤ call.time)
    (until_last : ∀ call ∈ calls,call.time ≤ last) (reached : bucket.lastRefill ≤ last) :
    (through bucket calls : ℚ) ≤ bucket.tokens + bucket.rate*(last - bucket.lastRefill) := by
  induction calls generalizing bucket with
  | nil =>
    rw [through,Nat.cast_zero]
    exact add_nonneg filled.least (mul_nonneg filled.rate (sub_nonneg.mpr reached))
  | cons call rest ih =>
    obtain ⟨after,others⟩ := List.pairwise_cons.mp ordered
    obtain ⟨fromNow,rate,_⟩ := consume_fixed bucket call.time call.bytes
    have later := ih (turn_filled filled call) others
      (fun next member => by rw [turn,fromNow]; exact after next member)
      (fun next member => until_last next (List.mem_cons_of_mem call member))
      (by rw [turn,fromNow]; exact until_last call List.mem_cons_self)
    have level := consume_tokens bucket call.time call.bytes
    have gained : (refill bucket call.time).tokens ≤
        bucket.tokens + bucket.rate*(call.time - bucket.lastRefill) := by
      have forward : 0 ≤ call.time - bucket.lastRefill :=
        sub_nonneg.mpr (since call List.mem_cons_self)
      refine (min_le_left _ _).trans ?_
      rw [max_eq_right forward]
    rw [turn,fromNow,rate] at later
    rw [through,Nat.cast_add,turn]
    rw [mul_sub] at later gained ⊢
    linarith

/-- From one call through a later one no more gets through than the capacity and
the rate of the time between. -/
theorem window_le {bucket : TokenBucket} (filled : Filled bucket) {first : Call}
    {between : List Call} (ordered : Ordered (first::between)) :
    (through bucket (first::between) : ℚ) ≤
      bucket.capacity + bucket.rate*((between.getLastD first).time - first.time) := by
  obtain ⟨after,others⟩ := List.pairwise_cons.mp ordered
  have last := ordered_last ordered
  obtain ⟨fromNow,rate,_⟩ := consume_fixed bucket first.time first.bytes
  have rest := through_le (turn_filled filled first) between others
    (fun call member => by rw [turn,fromNow]; exact after call member)
    (fun call member => last call (List.mem_cons_of_mem first member))
    (by rw [turn,fromNow]; exact last first List.mem_cons_self)
  have tokens := consume_tokens bucket first.time first.bytes
  have full := (refill_filled filled first.time).most
  change _ ≤ bucket.capacity at full
  rw [turn,fromNow,rate] at rest
  rw [through,Nat.cast_add,turn]
  linarith

/-- What any run of calls at one bucket meets. -/
structure Conforms (bucket : TokenBucket) (calls : List Call) : Prop where
  bounded : ∀ passed, passed <+: calls →
    0 ≤ (behind bucket passed).tokens ∧ (behind bucket passed).tokens ≤ bucket.capacity
  window : ∀ before first between later, calls = before ++ first::between ++ later →
    (through (behind bucket before) (first::between) : ℚ) ≤
      bucket.capacity + bucket.rate*((between.getLastD first).time - first.time)
  rejected : ∀ before call later, calls = before ++ call::later →
    ((behind bucket before).consume call.time call.bytes).1 = false →
      behind bucket (before ++ [call]) = refill (behind bucket before) call.time

/-- Over every run of calls at times that never fall back: the level stays within
the bucket, and from any call through any later one no more gets through than the
capacity and the rate of the time between. -/
theorem bandwidth_conforms (opened : ℚ) (bandwidthKbps : Nat) (calls : List Call)
    (ordered : Ordered calls) : Conforms (.new opened bandwidthKbps) calls := by
  have filled := new_filled opened bandwidthKbps
  generalize TokenBucket.new opened bandwidthKbps = bucket at filled
  refine ⟨?_,?_,?_⟩
  · intro passed _
    have level := behind_filled filled passed
    exact ⟨level.least,(behind_fixed bucket passed).2 ▸ level.most⟩
  · intro before first between later split
    have window : Ordered (first::between) := by
      rw [split,List.append_assoc] at ordered
      exact (List.pairwise_append.mp (List.pairwise_append.mp ordered).2.1).1
    have bound := window_le (behind_filled filled before) window
    rwa [(behind_fixed bucket before).1,(behind_fixed bucket before).2] at bound
  · intro before call later _ verdict
    rw [behind,List.foldl_concat]
    exact consume_rejected _ _ _ verdict

/-- Three packets at once and one after a second, at 8 kbit/s: the third is rejected. -/
theorem bandwidth_conforms_burst :
    Conforms (.new 0 8) [⟨0,50⟩,⟨0,50⟩,⟨0,1⟩,⟨1,100⟩] :=
  bandwidth_conforms 0 8 [⟨0,50⟩,⟨0,50⟩,⟨0,1⟩,⟨1,100⟩] (by decide +kernel)

section filter

/-- The bytes that a filter passes on, of packets with the rolls they meet. -/
def forwarded (f : NetFilter) : List (Roll × Call) → Nat
  | [] => 0
  | (roll,call)::rest =>
    (if (f.filter call.time roll call.bytes).1 = .drop then 0 else call.bytes) +
      forwarded (f.filter call.time roll call.bytes).2 rest

theorem impair_bucket (f : NetFilter) (roll : Roll) :
    (f.impair roll).2.tokenBucket = f.tokenBucket := by
  unfold NetFilter.impair
  split <;> rfl

theorem filter_bucket (f : NetFilter) (now : ℚ) (roll : Roll) (packetLen : Nat) :
    (f.filter now roll packetLen).2.tokenBucket =
      f.tokenBucket.map (fun bucket => (bucket.consume now packetLen).2) := by
  unfold NetFilter.filter
  split
  next => exact impair_bucket (f.charge now packetLen) roll
  next => rfl

theorem forwarded_le {f : NetFilter} {bucket : TokenBucket} (limited : f.tokenBucket = some bucket)
    (packets : List (Roll × Call)) :
    forwarded f packets ≤ through bucket (packets.map Prod.snd) := by
  induction packets generalizing f bucket with
  | nil => exact le_refl 0
  | cons packet rest ih =>
    obtain ⟨roll,call⟩ := packet
    have next : (f.filter call.time roll call.bytes).2.tokenBucket = some (turn bucket call) := by
      rw [filter_bucket,limited]
      rfl
    rw [forwarded,List.map_cons,through]
    refine Nat.add_le_add ?_ (ih next)
    unfold paid
    cases verdict : (bucket.consume call.time call.bytes).1 with
    | true => split <;> simp
    | false =>
      have refused : f.within call.time call.bytes = false := by
        rw [NetFilter.within,limited]
        exact verdict
      have dropped : (f.filter call.time roll call.bytes).1 = .drop := by
        rw [NetFilter.filter,if_neg (Bool.eq_false_iff.mp refused)]
      rw [if_pos dropped]
      exact le_refl 0

theorem forwarded_window (opened : ℚ) {config : FilterConfig} (limit : 0 < config.bandwidthKbps)
    (roll : Roll) (first : Call) (between : List (Roll × Call))
    (ordered : Ordered (first::between.map Prod.snd)) :
    (forwarded (.new opened config) ((roll,first)::between) : ℚ) ≤
      (config.bandwidthKbps : ℚ)*1000/8*
        (1/10 + (((between.map Prod.snd).getLastD first).time - first.time)) := by
  have limited : (NetFilter.new opened config).tokenBucket =
      some (.new opened config.bandwidthKbps) := if_pos limit
  have passed := forwarded_le limited ((roll,first)::between)
  have bound := window_le (new_filled opened config.bandwidthKbps) ordered
  refine (Nat.cast_le.mpr passed).trans (bound.trans (le_of_eq ?_))
  rw [mul_add,mul_one_div]
  rfl

end filter

end Oxlab.BandwidthLimit
