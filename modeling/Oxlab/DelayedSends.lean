import Oxlab.Net.Filter

/-! The publish loops in virtual time, with a filter that delays.
The loop sleeps for the delay before it sends, and before it asks for the next
tick: a delay holds up the packets behind it when it is longer than the tick
interval. -/
namespace Oxlab.DelayedSends
open Net.Filter

inductive MediaStream
  | audio
  | video
  deriving DecidableEq

def MediaStream.period : MediaStream → Nat
  | .audio => 20
  | .video => 33

/-- `sent` holds the tick of each packet and the time it is handed to the socket. -/
structure PublishLoop where
  now : Nat := 0
  tick : Nat := 0
  sent : List (Nat × Nat) := []

section loop
variable (period : Nat)

/-- One turn: the tick that is due, or overdue, and what the filter says of its
packet, if there is a filter. Only sleeping takes time. -/
def turn (loop : PublishLoop) (result : Option FilterResult) : PublishLoop :=
  let fired := max loop.now (loop.tick*period)
  match result with
  | some .drop => { loop with now := fired, tick := loop.tick + 1 }
  | some (.pass delay) =>
    { now := fired + delay
      tick := loop.tick + 1
      sent := loop.sent ++ [(loop.tick,fired + delay)] }
  | none =>
    { now := fired
      tick := loop.tick + 1
      sent := loop.sent ++ [(loop.tick,fired)] }

def publish (results : List (Option FilterResult)) : List (Nat × Nat) :=
  (results.foldl (turn period) {}).sent

def delayed (delays : List Nat) : List (Option FilterResult) :=
  delays.map (fun delay => some (.pass delay))

def shifted (tick : Nat) (delays : List Nat) : List (Nat × Nat) :=
  delays.mapIdx (fun k delay => (tick + k,(tick + k)*period + delay))

def sentIn (sent : List (Nat × Nat)) (first last : Nat) : Nat :=
  sent.countP (fun packet => first ≤ packet.2 ∧ packet.2 < last)

/-- The delays shift the packets and change nothing else. -/
structure Shifts (delays : List Nat) : Prop where
  times : publish period (delayed delays) = shifted period 0 delays
  counts : ∀ first last,
    sentIn (publish period (delayed delays)) first last = sentIn (shifted period 0 delays) first last

theorem shifted_cons (tick delay : Nat) (rest : List Nat) :
    shifted period tick (delay::rest) =
      (tick,tick*period + delay)::shifted period (tick + 1) rest := by
  have later : (fun k delay : Nat => (tick + (k + 1),(tick + (k + 1))*period + delay)) =
      fun k delay => (tick + 1 + k,(tick + 1 + k)*period + delay) := by
    funext k delay
    rw [Nat.add_comm k 1,Nat.add_assoc]
  rw [shifted,List.mapIdx_cons,later]
  rfl

theorem turn_sent (results : List (Option FilterResult)) (loop : PublishLoop) :
    loop.sent <+: (results.foldl (turn period) loop).sent := by
  induction results generalizing loop with
  | nil => exact List.prefix_refl _
  | cons result rest ih =>
    rw [List.foldl_cons]
    refine List.IsPrefix.trans ?_ (ih (turn period loop result))
    match result with
    | some .drop => exact List.prefix_refl _
    | some (.pass delay) => exact List.prefix_append _ _
    | none => exact List.prefix_append _ _

theorem turn_pass (loop : PublishLoop) (delay : Nat) :
    turn period loop (some (.pass delay)) =
      { now := max loop.now (loop.tick*period) + delay
        tick := loop.tick + 1
        sent := loop.sent ++ [(loop.tick,max loop.now (loop.tick*period) + delay)] } := rfl

theorem publish_iff (delays : List Nat) (loop : PublishLoop)
    (prompt : loop.now ≤ loop.tick*period) :
    ((delayed delays).foldl (turn period) loop).sent =
        loop.sent ++ shifted period loop.tick delays ↔
      ∀ delay ∈ delays.dropLast,delay ≤ period := by
  induction delays generalizing loop with
  | nil => simp [delayed,shifted]
  | cons delay rest ih =>
    have fired : turn period loop (some (.pass delay)) =
        { now := loop.tick*period + delay
          tick := loop.tick + 1
          sent := loop.sent ++ [(loop.tick,loop.tick*period + delay)] } := by
      rw [turn_pass,Nat.max_eq_right prompt]
    change ((delayed rest).foldl (turn period) (turn period loop _)).sent = _ ↔ _
    rw [shifted_cons,List.append_cons loop.sent,fired]
    cases rest with
    | nil => simp [shifted,delayed]
    | cons second others =>
      rw [List.dropLast_cons_cons,List.forall_mem_cons]
      by_cases short : delay ≤ period
      · rw [and_iff_right short]
        apply ih
        simp only [Nat.add_mul]
        omega
      · -- the second packet is sent behind the first, not at its own time
        simp only [short,false_and,iff_false]
        intro same
        have behind : (loop.tick + 1)*period < loop.tick*period + delay := by
          rw [Nat.add_mul]
          omega
        obtain ⟨later,split⟩ := turn_sent period (delayed others) (turn period
          { now := loop.tick*period + delay
            tick := loop.tick + 1
            sent := loop.sent ++ [(loop.tick,loop.tick*period + delay)] } (some (.pass second)))
        have sent := split.trans same
        rw [turn_pass,Nat.max_eq_left behind.le,shifted_cons,List.append_assoc,
          List.append_cancel_left_eq] at sent
        have times := (Prod.mk.inj (List.cons.inj sent).1).2
        omega

end loop

/-- Over every sequence of delays: the packets are handed to the socket at their
due times shifted by their delays, in every interval as many as that gives,
exactly when no delay but the last is longer than the tick interval. -/
theorem shifts_iff (stream : MediaStream) (delays : List Nat) :
    Shifts stream.period delays ↔ ∀ delay ∈ delays.dropLast,delay ≤ stream.period := by
  have times := publish_iff stream.period delays {} (Nat.zero_le _)
  constructor
  · intro shifts
    exact times.mp shifts.times
  · intro short
    have sent : publish stream.period (delayed delays) = shifted stream.period 0 delays :=
      times.mpr short
    exact ⟨sent,fun first last => by rw [sent]⟩

theorem basement_thins : ¬Shifts MediaStream.audio.period [150,50] := by
  intro shifts
  have times := shifts.times
  revert times
  decide

/-! A filter whose delay and jitter fit into the interval never holds up a tick,
whatever it drops. -/

section filtered
variable (period : Nat)

def filterAll (f : NetFilter) : List (ℚ × Roll × Nat) → List (Option FilterResult)
  | [] => []
  | (now,roll,packetLen)::rest =>
    some (f.filter now roll packetLen).1::filterAll (f.filter now roll packetLen).2 rest

theorem filterAll_delay (f : NetFilter) (packets : List (ℚ × Roll × Nat)) {delay : Nat}
    (passed : some (.pass delay) ∈ filterAll f packets) :
    delay ≤ f.config.delayMs + f.config.jitterMs := by
  induction packets generalizing f with
  | nil => contradiction
  | cons packet rest ih =>
    obtain ⟨now,roll,packetLen⟩ := packet
    rw [filterAll,List.mem_cons] at passed
    rcases passed with first | later
    · exact f.filter_delay now roll packetLen (Option.some.inj first).symm
    · rw [← f.filter_config now roll packetLen]
      exact ih (f.filter now roll packetLen).2 later

/-- A loop on time, with every packet that was sent between its due time and the
next tick. -/
structure OnTime (loop : PublishLoop) : Prop where
  now : loop.now ≤ loop.tick*period
  sent : ∀ packet ∈ loop.sent,packet.1*period ≤ packet.2 ∧ packet.2 ≤ (packet.1 + 1)*period

theorem turn_onTime {loop : PublishLoop} (onTime : OnTime period loop) {result : Option FilterResult}
    (short : ∀ delay, result = some (.pass delay) → delay ≤ period) :
    OnTime period (turn period loop result) := by
  have grown : (loop.tick + 1)*period = loop.tick*period + period := Nat.succ_mul _ _
  match result with
  | some .drop =>
    refine ⟨?_,onTime.sent⟩
    simp only [turn,Nat.max_eq_right onTime.now]
    omega
  | some (.pass delay) =>
    have within := short delay rfl
    rw [turn_pass,Nat.max_eq_right onTime.now]
    refine ⟨?_,?_⟩
    · simp only
      omega
    · simp only [List.forall_mem_append,List.forall_mem_singleton]
      exact ⟨onTime.sent,by omega,by omega⟩
  | none =>
    refine ⟨?_,?_⟩
    · simp only [turn,Nat.max_eq_right onTime.now]
      omega
    · simp only [turn,Nat.max_eq_right onTime.now,List.forall_mem_append,List.forall_mem_singleton]
      exact ⟨onTime.sent,by omega,by omega⟩

theorem publish_onTime {f : NetFilter} (calm : f.config.delayMs + f.config.jitterMs ≤ period)
    (packets : List (ℚ × Roll × Nat)) :
    ∀ packet ∈ publish period (filterAll f packets),
      packet.1*period ≤ packet.2 ∧ packet.2 ≤ (packet.1 + 1)*period := by
  have all (results : List (Option FilterResult)) (loop : PublishLoop)
      (short : ∀ delay, some (.pass delay) ∈ results → delay ≤ period)
      (onTime : OnTime period loop) : OnTime period (results.foldl (turn period) loop) := by
    induction results generalizing loop with
    | nil => exact onTime
    | cons result rest ih =>
      apply ih
      · exact fun delay member => short delay (List.mem_cons_of_mem result member)
      · exact turn_onTime period onTime
          (fun delay same => short delay (by rw [same]; exact List.mem_cons_self))
  refine (all _ {} ?_ ⟨Nat.zero_le _,by simp⟩).sent
  exact fun delay passed => (filterAll_delay f packets passed).trans calm

end filtered

end Oxlab.DelayedSends
