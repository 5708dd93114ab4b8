import Mathlib.Algebra.Order.Field.Rat

/-! The network filter of a bot: a bandwidth limit, loss, and delay with jitter,
injected packet by packet, and the profiles built in. Percentages, tokens and
clock readings, in seconds, are exact. -/
namespace Oxlab.Net.Filter

structure FilterConfig where
  lossPercent : ℚ := 0
  delayMs : Nat := 0
  jitterMs : Nat := 0
  bandwidthKbps : Nat := 0
  deriving DecidableEq

/-- A delay is in milliseconds. -/
inductive FilterResult
  | drop
  | pass (delay : Nat)
  deriving DecidableEq

structure TokenBucket where
  tokens : ℚ
  capacity : ℚ
  rate : ℚ
  lastRefill : ℚ

namespace TokenBucket

def new (now : ℚ) (bandwidthKbps : Nat) : TokenBucket :=
  let rate := (bandwidthKbps : ℚ)*1000/8
  { tokens := rate/10, capacity := rate/10, rate := rate, lastRefill := now }

def consume (bucket : TokenBucket) (now : ℚ) (bytes : Nat) : Bool × TokenBucket :=
  let elapsed := max 0 (now - bucket.lastRefill)
  let tokens := min (bucket.tokens + bucket.rate*elapsed) bucket.capacity
  if (bytes : ℚ) ≤ tokens then
    (true,{ bucket with tokens := tokens - bytes, lastRefill := now })
  else (false,{ bucket with tokens := tokens, lastRefill := now })

end TokenBucket

/-- What the generator rolls for one packet, where it is asked to. -/
structure Roll where
  loss : ℚ
  lossRange : 0 ≤ loss ∧ loss < 100
  jitter : Nat → Int
  jitterRange : ∀ j : Nat, -(j : Int) ≤ jitter j ∧ jitter j ≤ j

structure NetFilter where
  config : FilterConfig
  tokenBucket : Option TokenBucket
  limited : tokenBucket.isSome = decide (0 < config.bandwidthKbps)
  statsTotal : Nat := 0
  statsDropped : Nat := 0

namespace NetFilter

/-- The bucket of a limit, none for an unlimited bandwidth. -/
def bucketOf (now : ℚ) (config : FilterConfig) : Option TokenBucket :=
  if 0 < config.bandwidthKbps then some (.new now config.bandwidthKbps) else none

theorem bucketOf_limited (now : ℚ) (config : FilterConfig) :
    (bucketOf now config).isSome = decide (0 < config.bandwidthKbps) := by
  unfold bucketOf
  split
  next limit => simp [limit]
  next free => simp [free]

def new (now : ℚ) (config : FilterConfig) : NetFilter where
  config := config
  tokenBucket := bucketOf now config
  limited := bucketOf_limited now config

def update (f : NetFilter) (now : ℚ) (config : FilterConfig) : NetFilter :=
  { f with
    config := config
    tokenBucket := bucketOf now config
    limited := bucketOf_limited now config }

/-- Loss, then delay; the bandwidth has let the packet through. -/
def impair (f : NetFilter) (roll : Roll) : FilterResult × NetFilter :=
  if 0 < f.config.lossPercent ∧ roll.loss < f.config.lossPercent then
    (.drop,{ f with statsDropped := f.statsDropped + 1 })
  else
    let jitter := if 0 < f.config.jitterMs then roll.jitter f.config.jitterMs else 0
    (.pass (max ((f.config.delayMs : Int) + jitter) 0).toNat,f)

/-- Whether the bandwidth limit, if any, lets the packet through. -/
def within (f : NetFilter) (now : ℚ) (packetLen : Nat) : Bool :=
  f.tokenBucket.all (fun bucket => (bucket.consume now packetLen).1)

/-- The filter that has drawn on its bucket and counted the packet. -/
def charge (f : NetFilter) (now : ℚ) (packetLen : Nat) : NetFilter :=
  { f with
    tokenBucket := f.tokenBucket.map (fun bucket => (bucket.consume now packetLen).2)
    limited := by rw [Option.isSome_map]; exact f.limited
    statsTotal := f.statsTotal + 1 }

def filter (f : NetFilter) (now : ℚ) (roll : Roll) (packetLen : Nat) : FilterResult × NetFilter :=
  let charged := f.charge now packetLen
  if f.within now packetLen then charged.impair roll
  else (.drop,{ charged with statsDropped := charged.statsDropped + 1 })

def dropRate (f : NetFilter) : ℚ :=
  if f.statsTotal = 0 then 0 else (f.statsDropped : ℚ)/f.statsTotal*100

section filter
variable (f : NetFilter) (now : ℚ) (roll : Roll) (packetLen : Nat)

theorem impair_config : (f.impair roll).2.config = f.config := by
  unfold impair
  split <;> rfl

theorem impair_delay {delay : Nat} (passed : (f.impair roll).1 = .pass delay) :
    delay ≤ f.config.delayMs + f.config.jitterMs := by
  unfold impair at passed
  split at passed
  next => contradiction
  next =>
    cases passed
    have range := (roll.jitterRange f.config.jitterMs).2
    split <;> omega

theorem filter_config : (f.filter now roll packetLen).2.config = f.config := by
  unfold filter
  split
  next => exact impair_config (f.charge now packetLen) roll
  next => rfl

theorem impair_stats : (f.impair roll).2.statsTotal = f.statsTotal ∧
    (f.impair roll).2.statsDropped =
      f.statsDropped + if (f.impair roll).1 = .drop then 1 else 0 := by
  unfold impair
  split
  next => exact ⟨rfl,rfl⟩
  next => exact ⟨rfl,rfl⟩

theorem filter_stats : (f.filter now roll packetLen).2.statsTotal = f.statsTotal + 1 ∧
    (f.filter now roll packetLen).2.statsDropped =
      f.statsDropped + if (f.filter now roll packetLen).1 = .drop then 1 else 0 := by
  unfold filter
  split
  next => exact impair_stats (f.charge now packetLen) roll
  next => exact ⟨rfl,rfl⟩

theorem filter_delay {delay : Nat} (passed : (f.filter now roll packetLen).1 = .pass delay) :
    delay ≤ f.config.delayMs + f.config.jitterMs := by
  unfold filter at passed
  split at passed
  next => exact impair_delay (f.charge now packetLen) roll passed
  next => contradiction

end filter

theorem filter_pristine {f : NetFilter} (pristine : f.config = {}) (now : ℚ) (roll : Roll)
    (packetLen : Nat) : (f.filter now roll packetLen).1 = .pass 0 := by
  have unlimited : f.tokenBucket = none := by
    have limited := f.limited
    rw [pristine] at limited
    exact Option.not_isSome_iff_eq_none.mp (by simp [limited])
  have through : f.within now packetLen = true := by
    rw [within,unlimited]
    rfl
  have config : (f.charge now packetLen).config = {} := pristine
  have lossless : ¬0 < (f.charge now packetLen).config.lossPercent := by
    rw [config]
    exact lt_irrefl 0
  rw [filter,if_pos through,impair,if_neg (fun loss => lossless loss.1)]
  simp [config]

end NetFilter

structure NetworkProfile where
  name : String
  conditions : FilterConfig
  deriving DecidableEq

namespace NetworkProfile

def pristine : NetworkProfile := ⟨"pristine",{}⟩

def officeWifi : NetworkProfile := ⟨"office_wifi",⟨1/2,5,10,50000⟩⟩

def fieldLte : NetworkProfile := ⟨"field_lte",⟨2,50,30,10000⟩⟩

def fieldLtePoor : NetworkProfile := ⟨"field_lte_poor",⟨8,100,80,3000⟩⟩

def basement : NetworkProfile := ⟨"basement",⟨15,150,100,1000⟩⟩

def builtin (name : String) : Option NetworkProfile :=
  match name with
  | "pristine" => some pristine
  | "office_wifi" => some officeWifi
  | "field_lte" => some fieldLte
  | "field_lte_poor" => some fieldLtePoor
  | "basement" => some basement
  | _ => none

end NetworkProfile

end Oxlab.Net.Filter
