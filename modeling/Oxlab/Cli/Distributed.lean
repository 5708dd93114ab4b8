import Mathlib.Algebra.GroupWithZero.Nat
import Mathlib.Data.List.Basic

/-! The coordinator of a distributed capacity run, as far as it hands out bots to
its worker processes. Where the unsigned numbers would fall below zero there is
no result; a product beyond their range is more than any total and ends the same way. -/
namespace Oxlab.Cli.Distributed

def checkedSub (a b : Nat) : Option Nat := if b ≤ a then some (a - b) else none

def divCeil (a b : Nat) : Nat := if 0 < a % b then a / b + 1 else a / b

/-- What a worker process is started with, besides what all of them share. -/
structure WorkerArgs where
  count : Nat
  full : Nat
  wid : Nat

section runDistributed
variable (total workers fullCount : Nat)

def perWorker : Nat := divCeil total (max workers 1)

-- the last worker absorbs the remainder
def workerCount (w : Nat) : Option Nat :=
  if w = workers - 1 then checkedSub total (perWorker total workers*(workers - 1))
  else some (perWorker total workers)

/-- One turn of the loop: a worker without bots is not started, and the full
receivers are all with the first. -/
def spawn (children : List WorkerArgs) (w : Nat) : Option (List WorkerArgs) :=
  (workerCount total workers w).map (fun cnt =>
    if cnt = 0 then children
    else children ++ [{ count := cnt, full := if w = 0 then fullCount else 0, wid := w }])

def runDistributed : Option (List WorkerArgs) :=
  (List.range workers).foldlM (spawn total workers fullCount) []

end runDistributed

def handedOut (children : List WorkerArgs) : Nat := (children.map (·.count)).sum

section spawn
variable (total workers fullCount : Nat) {w : Nat} (children : List WorkerArgs)

theorem spawn_some {cnt : Nat} (counted : workerCount total workers w = some cnt) :
    ∃ next, spawn total workers fullCount children w = some next ∧
      handedOut next = handedOut children + cnt := by
  rw [spawn,counted]
  by_cases empty : cnt = 0
  · exact ⟨children,congrArg some (if_pos empty),by rw [empty,Nat.add_zero]⟩
  · refine ⟨_,congrArg some (if_neg empty),?_⟩
    simp [handedOut]

theorem spawn_none (underflow : workerCount total workers w = none) :
    spawn total workers fullCount children w = none := by
  rw [spawn,underflow]
  rfl

end spawn

end Oxlab.Cli.Distributed
