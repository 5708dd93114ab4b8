import Mathlib.Tactic.Linarith
import Oxlab.Reordering

/-! Interarrival jitter across reordered timestamps.
The reference takes the timestamp difference with its sign; the record takes it
as the unsigned number. The estimates move alike exactly on forward steps, and
on a backward step only when the arrival gap is by chance half a turn short of it. -/
namespace Oxlab.JitterReordering
open Common.Media Library Bot.RtpSubscriber Reordering

section step
variable (clockRate : UInt32) (p q : Arrival)

def arrivalTicks : ℚ := ((q.now - p.now : Nat) : ℚ) / 1000000 * clockRate.toNat / 1000

/-- The timestamp difference read forward, from 0 to 2^32 - 1. -/
def forwardTicks : Nat := (q.ts - p.ts).toNat

/-- The timestamp difference with its sign, from -2^31 to 2^31 - 1. -/
def signedTicks : Int := Serial.distance q.ts.toBitVec p.ts.toBitVec

def transitDifference : ℚ := arrivalTicks clockRate p q - signedTicks p q

/-- The step is forward, or its forward reading is as far above the arrival gap
as its signed reading is below. -/
def ForwardStep : Prop :=
  forwardTicks p q < 2^31 ∨ arrivalTicks clockRate p q = forwardTicks p q - 2^31

theorem signedTicks_eq : signedTicks p q =
    if forwardTicks p q < 2^31 then (forwardTicks p q : Int) else forwardTicks p q - 2^32 := by
  have size := (q.ts - p.ts).toNat_lt
  rw [signedTicks,Serial.distance,BitVec.toInt_eq_toNat_cond]
  change (if 2 * forwardTicks p q < 2^32 then _ else _) = _
  split_ifs <;> first | rfl | omega

theorem forward_iff : |arrivalTicks clockRate p q - forwardTicks p q| =
    |transitDifference clockRate p q| ↔ ForwardStep clockRate p q := by
  rw [transitDifference,signedTicks_eq,ForwardStep]
  split
  next forward => exact iff_of_true (by norm_cast) (Or.inl forward)
  next backward =>
    rw [abs_eq_abs,or_iff_right backward]
    push_cast
    constructor
    · rintro (same | opposite) <;> linarith
    · intro chance
      right
      linarith

end step

section run
variable (ssrc : UInt32) (pt : UInt8)

def jitterAfter (history : List Arrival) : ℚ := (received ssrc pt history).jitter

def clockRate : UInt32 := (SsrcRecvMetrics.new 0 ssrc pt).clockRate

/-- After each arrival but the first, the jitter has moved by a sixteenth of the
way to the size of the transit difference. -/
def FollowsRfc (arrivals : List Arrival) : Prop :=
  ∀ before p q after, arrivals = before ++ p::q::after →
    jitterAfter ssrc pt (before ++ [p,q]) = jitterAfter ssrc pt (before ++ [p]) +
      (|transitDifference (clockRate ssrc pt) p q| - jitterAfter ssrc pt (before ++ [p])) / 16

theorem received_concat (history : List Arrival) (a : Arrival) : received ssrc pt (history ++ [a]) =
    (received ssrc pt history).update a.now a.seq a.ts := by
  rw [received,List.foldl_append]
  rfl

theorem received_clockRate (history : List Arrival) :
    (received ssrc pt history).clockRate = clockRate ssrc pt := by
  induction history using List.reverseRecOn with
  | nil => rfl
  | append_singleton front a ih => rw [received_concat,update_clockRate,ih]

theorem jitterAfter_pair (before : List Arrival) (p q : Arrival) :
    jitterAfter ssrc pt (before ++ [p,q]) = jitterAfter ssrc pt (before ++ [p]) +
      (|arrivalTicks (clockRate ssrc pt) p q - forwardTicks p q|
        - jitterAfter ssrc pt (before ++ [p])) / 16 := by
  have live : (received ssrc pt (before ++ [p])).initialized = true := by
    rw [received_concat,update_initialized]
  have arrived : (received ssrc pt (before ++ [p])).lastArrival = p.now := by
    rw [received_concat,update_lastArrival]
  have stamped : (received ssrc pt (before ++ [p])).lastRtpTs = p.ts := by
    rw [received_concat,update_lastRtpTs]
  rw [jitterAfter,List.append_cons before p [q],received_concat,update_jitter _ _ _ _ live,arrived,
    stamped,received_clockRate]
  rfl

/-- For every sequence of arrivals on one SSRC: the jitter follows the recurrence
after each arrival but the first, exactly when each arrival's timestamp is less
than 2^31 ahead of its predecessor's, chance gaps apart. -/
theorem followsRfc_iff (arrivals : List Arrival) : FollowsRfc ssrc pt arrivals ↔
    ∀ before p q after, arrivals = before ++ p::q::after →
      ForwardStep (clockRate ssrc pt) p q := by
  refine forall₅_congr (fun before p q after _ => ?_)
  rw [jitterAfter_pair,← forward_iff,add_right_inj,div_left_inj' (by norm_num),sub_left_inj]

end run

/-- Two packets 20 ms apart, the second with a timestamp older by 960 ticks. -/
theorem older_by_960_dominates : ¬FollowsRfc 7 111 [⟨0,1,1920⟩,⟨20000000,0,960⟩] := by
  intro follows
  have moved := follows [] ⟨0,1,1920⟩ ⟨20000000,0,960⟩ [] rfl
  rw [jitterAfter_pair,add_right_inj,div_left_inj' (by norm_num),sub_left_inj,forward_iff] at moved
  have back : forwardTicks ⟨0,1,1920⟩ ⟨20000000,0,960⟩ = 4294966336 := rfl
  have rate : (clockRate 7 111).toNat = 48000 := rfl
  rw [ForwardStep,arrivalTicks,back,rate] at moved
  norm_num at moved

end Oxlab.JitterReordering
