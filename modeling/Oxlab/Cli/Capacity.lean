import Mathlib.Algebra.BigOperators.Group.Multiset.Basic
import Mathlib.Data.Multiset.Sort
import Mathlib.Tactic.FieldSimp
import Mathlib.Tactic.Linarith
import Mathlib.Tactic.Positivity
import Oxlab.Bot.CapBots
import Oxlab.Library.Rank

/-! One row of a capacity measurement, from the counters as they are at the end.
Rates and percentages are exact. -/
namespace Oxlab.Cli.Capacity
open Library Bot.Cap

/-- What the sampler saw of the bots' process and of the server's. -/
structure ResStats where
  selfCpuAvg : ℚ := 0
  selfMemMb : ℚ := 0
  sfuCpuAvg : ℚ := 0
  sfuMemMb : ℚ := 0
  cores : Nat := 0

structure Row where
  n : Nat
  active : Nat
  inPps : ℚ
  outPps : ℚ
  outMbps : ℚ
  lossPct : ℚ
  latAvg : ℚ
  latP95 : Nat
  latMax : Nat
  selfCpu : ℚ
  selfMemMb : ℚ
  sfuCpu : ℚ
  sfuMemMb : ℚ
  botHealthy : Bool

structure LatStats where
  avg : ℚ
  p95 : Nat
  max : Nat

def p95Idx (len : Nat) : Nat := min (len*95/100) (len - 1)

/-- Of nothing, all are 0. -/
def latStats (sorted : List Nat) : LatStats where
  avg := if sorted.isEmpty then 0 else (sorted.sum : ℚ)/sorted.length
  p95 := sorted.getD (p95Idx sorted.length) 0
  max := sorted.getLastD 0

def lossPct (out lost : Nat) : ℚ :=
  if 0 < out + lost then (lost : ℚ)/(out + lost : Nat)*100 else 0

section row
variable (n : Nat) (elapsed : ℚ) (res : ResStats)

def row (pubc subc : Counter → Nat) (lats : Multiset Nat) : Row :=
  let lat := latStats (lats.sort (fun a b => a ≤ b))
  let txHealthy : Bool := pubc .txAttempt = 0 || pubc .txAttempt*99 ≤ pubc .txOk*100
  let cpuHeadroom : Bool := res.selfCpuAvg < res.cores*90
  let subsOk : Bool := n = 0 || n*9 ≤ subc .activeSubs*10
  { n := n
    active := subc .activeSubs
    inPps := pubc .txOk/elapsed
    outPps := subc .rxPackets/elapsed
    outMbps := (subc .rxBytes*8)/(elapsed*1000000)
    lossPct := lossPct (subc .rxPackets) (subc .rxLost)
    latAvg := lat.avg
    latP95 := lat.p95
    latMax := lat.max
    selfCpu := res.selfCpuAvg
    selfMemMb := res.selfMemMb
    sfuCpu := res.sfuCpuAvg
    sfuMemMb := res.sfuMemMb
    botHealthy := txHealthy && cpuHeadroom && subsOk }

/-- The publisher and the subscribers count apart. -/
def runOneRow (pubc subc : Shared) : Row := row n elapsed res pubc.1 subc.1 subc.2

/-- All bots count in one place. -/
def runOneConfRow (counters : Shared) : Row := row n elapsed res counters.1 counters.1 counters.2

end row

/-- What the three figures say of the latencies they are taken from. -/
structure Describes (stats : LatStats) (lats : Multiset Nat) : Prop where
  avg : stats.avg*lats.card = lats.sum
  p95 : stats.p95 ∈ lats
  mostly : 95*lats.card ≤ 100*lats.countP (fun l => l ≤ stats.p95)
  rarely : 5*lats.card ≤ 100*lats.countP (fun l => stats.p95 ≤ l)
  max : stats.max ∈ lats
  highest : ∀ l ∈ lats,l ≤ stats.max

theorem p95Idx_lt {len : Nat} (some : 0 < len) : p95Idx len < len := by
  unfold p95Idx
  omega

theorem latStats_sorted {sorted : List Nat} (ordered : sorted.Pairwise (fun a b => a ≤ b))
    (some : sorted ≠ []) : Describes (latStats sorted) sorted := by
  have long : 0 < sorted.length := List.length_pos_iff.mpr some
  have inside := p95Idx_lt long
  have p95 : (latStats sorted).p95 = sorted[p95Idx sorted.length] := by
    simp [latStats,List.getElem?_eq_getElem inside]
  have max : (latStats sorted).max = sorted.getLast some := by
    rw [latStats,List.getLastD_eq_getLast?,List.getLast?_eq_getLast_of_ne_nil some]
    rfl
  refine ⟨?_,?_,?_,?_,?_,?_⟩
  · have nonzero : (sorted.length : ℚ) ≠ 0 := by exact_mod_cast long.ne'
    rw [latStats,if_neg (by simpa using some),Multiset.coe_card,Multiset.sum_coe]
    field_simp
  · rw [p95]
    exact List.getElem_mem inside
  · have below := Rank.countP_below ordered inside
    rw [p95,Multiset.coe_countP,Multiset.coe_card]
    unfold p95Idx at below ⊢
    omega
  · have above := Rank.countP_above ordered inside
    rw [p95,Multiset.coe_countP,Multiset.coe_card]
    unfold p95Idx at above ⊢
    omega
  · rw [max]
    exact List.getLast_mem some
  · rw [max]
    exact Rank.le_last ordered some

theorem latStats_describes {lats : Multiset Nat} (some : lats ≠ 0) :
    Describes (latStats (lats.sort (fun a b => a ≤ b))) lats := by
  have listed : lats.sort (fun a b => a ≤ b) ≠ [] := by
    intro none_sorted
    apply some
    rw [← lats.sort_eq (fun a b => a ≤ b),none_sorted]
    rfl
  have sorted := latStats_sorted (lats.pairwise_sort (fun a b => a ≤ b)) listed
  rwa [Multiset.sort_eq] at sorted

theorem lossPct_of (out lost : Nat) : lossPct out lost*(out + lost : Nat) = 100*lost ∧
    0 ≤ lossPct out lost ∧ lossPct out lost ≤ 100 := by
  unfold lossPct
  split
  next some =>
    have positive : (0 : ℚ) < (out + lost : Nat) := by exact_mod_cast some
    refine ⟨?_,?_,?_⟩
    · field_simp
    · positivity
    · have share : (lost : ℚ)/(out + lost : Nat) ≤ 1 := by
        rw [div_le_one positive]
        exact_mod_cast Nat.le_add_left lost out
      linarith
  next none_counted =>
    have lost_none : lost = 0 := by omega
    refine ⟨?_,le_refl 0,by norm_num⟩
    rw [lost_none]
    norm_num

end Oxlab.Cli.Capacity
