import Mathlib.Logic.Function.Basic

/-! The start of a capacity measurement: bots set up a few at a time, count
themselves ready, and the runner triggers the publishing once all are ready or its
patience ends. `run_one` has one publisher apart from its subscribers; in
`run_one_conf` every bot publishes. Times are in milliseconds. -/
namespace Oxlab.Cli.CapSetup

/-- Where a bot is. A bot that is lost after it counted itself stays counted. -/
inductive Phase
  | waiting
  | setting
  | connected
  | counted (since : Nat)
  | publishing (since : Nat)
  | ended
  | lost
  | failed
  deriving DecidableEq

def Phase.isSetting : Phase → Bool
  | .setting => true
  | _ => false

def Phase.hasCounted : Phase → Bool
  | .counted _ => true
  | .publishing _ => true
  | .ended => true
  | .lost => true
  | _ => false

inductive Runner
  | polling (wake : Nat)
  | triggered (fired : Nat)
  deriving DecidableEq

/-- `start` is when the first task is spawned. -/
structure Config where
  n : Nat
  durationSecs : Nat
  conf : Bool
  start : Nat

namespace Config
variable (c : Config)

/-- The creator of a conference room is spawned for any `n`. -/
def bots : Nat := if c.conf then max c.n 1 else c.n

def graceRoom : Nat := 1000

def readyCap : Nat := (20 + c.n/15)*1000

def base : Nat := c.start + graceRoom

def readyDeadline : Nat := c.base + c.readyCap

def spawn (i : Fin c.bots) : Nat := if c.conf ∧ i.val = 0 then c.start else c.base

def duration : Nat := c.durationSecs*1000

def margin : Nat := 2000

def runWindow : Nat := c.readyCap + c.duration + margin

end Config

/-- `free` are the permits of the setup semaphore. -/
structure Sync (n : Nat) where
  now : Nat
  free : Nat := 32
  ready : Nat := 0
  bots : Fin n → Phase := fun _ => .waiting
  publisher : Phase := .setting
  runner : Runner

/-- The publisher of `run_one` sets up without a permit and counts for nothing. -/
inductive Label (n : Nat)
  | elapse (ms : Nat)
  | acquire (i : Fin n)
  | connect (i : Fin n)
  | fail (i : Fin n)
  | count (i : Fin n)
  | publish (i : Fin n)
  | lose (i : Fin n)
  | close (i : Fin n)
  | poll
  | pubConnect
  | pubPublish
  | pubEnd

section step
variable (c : Config)

def launch : Sync c.bots where
  now := c.start
  runner := .polling c.base

def Sync.enter {n : Nat} (s : Sync n) (i : Fin n) (phase : Phase) : Sync n :=
  { s with bots := Function.update s.bots i phase }

def step (s : Sync c.bots) : Label c.bots → Option (Sync c.bots)
  | .elapse ms => some { s with now := s.now + ms }
  | .acquire i =>
    if s.bots i = .waiting ∧ c.spawn i ≤ s.now ∧ 0 < s.free then
      some { s.enter i .setting with free := s.free - 1 }
    else none
  | .connect i =>
    if s.bots i = .setting then some { s.enter i .connected with free := s.free + 1 } else none
  | .fail i =>
    -- an error, or the timeout around the setup
    if s.bots i = .setting then some { s.enter i .failed with free := s.free + 1 } else none
  | .count i =>
    if s.bots i = .connected then
      some { s.enter i (.counted s.now) with ready := s.ready + 1 }
    else none
  | .publish i =>
    match s.bots i,s.runner with
    | .counted _,.triggered _ => if c.conf then some (s.enter i (.publishing s.now)) else none
    | _,_ => none
  | .lose i =>
    match s.bots i with
    | .counted _ => some (s.enter i .lost)
    | .publishing _ => some (s.enter i .lost)
    | _ => none
  | .close i =>
    match s.bots i with
    | .counted since =>
      if c.conf = false ∧ since + c.runWindow ≤ s.now then some (s.enter i .ended) else none
    | .publishing since => if since + c.duration ≤ s.now then some (s.enter i .ended) else none
    | _ => none
  | .poll =>
    match s.runner with
    | .polling wake =>
      if wake ≤ s.now then
        if c.n ≤ s.ready ∨ c.readyDeadline ≤ s.now then
          some { s with runner := .triggered s.now }
        else some { s with runner := .polling (s.now + 200) }
      else none
    | .triggered _ => none
  | .pubConnect =>
    if s.publisher = .setting then some { s with publisher := .connected } else none
  | .pubPublish =>
    match s.publisher,s.runner with
    | .connected,.triggered _ => some { s with publisher := .publishing s.now }
    | _,_ => none
  | .pubEnd =>
    -- an error before it publishes, or the end of its duration
    match s.publisher with
    | .setting => some { s with publisher := .failed }
    | .connected => some { s with publisher := .failed }
    | .publishing since =>
      if since + c.duration ≤ s.now then some { s with publisher := .ended } else none
    | _ => none

structure Moves (s : Sync c.bots) (i : Fin c.bots) (phase : Phase) : Prop where
  spawned : s.bots i = .waiting → c.spawn i ≤ s.now
  counted : (s.bots i).hasCounted → phase.hasCounted
  entered : ∀ since, phase = .counted since → since = s.now
  published : ∀ since, phase = .publishing since →
    c.conf = true ∧ since = s.now ∧ ∃ fired, s.runner = .triggered fired
  ended : phase = .ended →
    (c.conf = false ∧ ∃ since, s.bots i = .counted since ∧ since + c.runWindow ≤ s.now) ∨
      ∃ since, s.bots i = .publishing since ∧ since + c.duration ≤ s.now

/-- What a step can do: let time pass, move one bot, poll, or move the publisher. -/
theorem step_cases {s next : Sync c.bots} {l : Label c.bots} (stepped : step c s l = some next) :
    (∃ ms, next = { s with now := s.now + ms }) ∨
    (∃ i phase free ready, next = { s.enter i phase with free := free, ready := ready } ∧
      Moves c s i phase ∧ free + phase.isSetting.toNat = s.free + (s.bots i).isSetting.toNat ∧
      ready + (s.bots i).hasCounted.toNat = s.ready + phase.hasCounted.toNat) ∨
    (∃ wake, s.runner = .polling wake ∧ wake ≤ s.now ∧ next = { s with
      runner := if c.n ≤ s.ready ∨ c.readyDeadline ≤ s.now then .triggered s.now
        else .polling (s.now + 200) }) ∨
    ∃ phase, next = { s with publisher := phase } ∧ ∀ since, phase = .publishing since →
      since = s.now ∧ ∃ fired, s.runner = .triggered fired := by
  cases l with
  | elapse ms => exact Or.inl ⟨ms,(Option.some.inj stepped).symm⟩
  | acquire i =>
    obtain ⟨⟨was,spawned,permit⟩,made⟩ := Option.ite_none_right_eq_some.mp stepped
    refine Or.inr (Or.inl ⟨i,.setting,s.free - 1,s.ready,(Option.some.inj made).symm,?_,?_,?_⟩)
    · constructor <;> simp [was,spawned,Phase.hasCounted]
    · simp only [was,Phase.isSetting,Bool.toNat_true,Bool.toNat_false]
      omega
    · simp [was,Phase.hasCounted]
  | connect i =>
    obtain ⟨was,made⟩ := Option.ite_none_right_eq_some.mp stepped
    refine Or.inr (Or.inl ⟨i,.connected,s.free + 1,s.ready,(Option.some.inj made).symm,?_,?_,?_⟩)
    · constructor <;> simp [was,Phase.hasCounted]
    · simp [was,Phase.isSetting]
    · simp [was,Phase.hasCounted]
  | fail i =>
    obtain ⟨was,made⟩ := Option.ite_none_right_eq_some.mp stepped
    refine Or.inr (Or.inl ⟨i,.failed,s.free + 1,s.ready,(Option.some.inj made).symm,?_,?_,?_⟩)
    · constructor <;> simp [was,Phase.hasCounted]
    · simp [was,Phase.isSetting]
    · simp [was,Phase.hasCounted]
  | count i =>
    obtain ⟨was,made⟩ := Option.ite_none_right_eq_some.mp stepped
    refine Or.inr (Or.inl ⟨i,.counted s.now,s.free,s.ready + 1,(Option.some.inj made).symm,?_,?_,?_⟩)
    · constructor <;> simp [was,Phase.hasCounted]
    · simp [was,Phase.isSetting]
    · simp [was,Phase.hasCounted]
  | publish i =>
    simp only [step] at stepped
    split at stepped
    next was fired =>
      obtain ⟨conf,made⟩ := Option.ite_none_right_eq_some.mp stepped
      refine Or.inr (Or.inl ⟨i,.publishing s.now,s.free,s.ready,(Option.some.inj made).symm,?_,?_,?_⟩)
      · constructor <;> simp [was,fired,conf,Phase.hasCounted]
      · simp [was,Phase.isSetting]
      · simp [was,Phase.hasCounted]
    next => contradiction
  | lose i =>
    simp only [step] at stepped
    split at stepped
    next was =>
      refine Or.inr (Or.inl ⟨i,.lost,s.free,s.ready,(Option.some.inj stepped).symm,?_,?_,?_⟩)
      · constructor <;> simp [was,Phase.hasCounted]
      · simp [was,Phase.isSetting]
      · simp [was,Phase.hasCounted]
    next was =>
      refine Or.inr (Or.inl ⟨i,.lost,s.free,s.ready,(Option.some.inj stepped).symm,?_,?_,?_⟩)
      · constructor <;> simp [was,Phase.hasCounted]
      · simp [was,Phase.isSetting]
      · simp [was,Phase.hasCounted]
    next => contradiction
  | close i =>
    simp only [step] at stepped
    split at stepped
    next since was =>
      obtain ⟨due,made⟩ := Option.ite_none_right_eq_some.mp stepped
      refine Or.inr (Or.inl ⟨i,.ended,s.free,s.ready,(Option.some.inj made).symm,?_,?_,?_⟩)
      · constructor <;> simp [was,due.1,due.2,Phase.hasCounted]
      · simp [was,Phase.isSetting]
      · simp [was,Phase.hasCounted]
    next since was =>
      obtain ⟨due,made⟩ := Option.ite_none_right_eq_some.mp stepped
      refine Or.inr (Or.inl ⟨i,.ended,s.free,s.ready,(Option.some.inj made).symm,?_,?_,?_⟩)
      · constructor <;> simp [was,due,Phase.hasCounted]
      · simp [was,Phase.isSetting]
      · simp [was,Phase.hasCounted]
    next => contradiction
  | poll =>
    simp only [step] at stepped
    split at stepped
    next wake waiting =>
      obtain ⟨due,made⟩ := Option.ite_none_right_eq_some.mp stepped
      refine Or.inr (Or.inr (Or.inl ⟨wake,waiting,due,?_⟩))
      split at made
      next elapsed => rw [if_pos elapsed,Option.some.inj made]
      next more => rw [if_neg more,Option.some.inj made]
    next => contradiction
  | pubConnect =>
    obtain ⟨_,made⟩ := Option.ite_none_right_eq_some.mp stepped
    exact Or.inr (Or.inr (Or.inr ⟨.connected,(Option.some.inj made).symm,by simp⟩))
  | pubPublish =>
    simp only [step] at stepped
    split at stepped
    next fired =>
      refine Or.inr (Or.inr (Or.inr ⟨.publishing s.now,(Option.some.inj stepped).symm,?_⟩))
      simp [fired]
    next => contradiction
  | pubEnd =>
    simp only [step] at stepped
    split at stepped
    next => exact Or.inr (Or.inr (Or.inr ⟨.failed,(Option.some.inj stepped).symm,by simp⟩))
    next => exact Or.inr (Or.inr (Or.inr ⟨.failed,(Option.some.inj stepped).symm,by simp⟩))
    next =>
      obtain ⟨_,made⟩ := Option.ite_none_right_eq_some.mp stepped
      exact Or.inr (Or.inr (Or.inr ⟨.ended,(Option.some.inj made).symm,by simp⟩))
    next => contradiction

end step

end Oxlab.Cli.CapSetup
