import Oxlab.Bot.RtpPublisher
import Oxlab.Net.Filter

/-! The two publish loops of a bot at its one network filter.
Each step of either, and each update of the filter's conditions, may come at any
time; what became of each packet is kept as a history. -/
namespace Oxlab.Bot.Publishing
open Bot.RtpPublisher Net.Filter

/-- What became of a packet that was built: not encrypted, dropped by the filter,
taken by the socket, refused by it, or under delay when the loop was aborted. -/
inductive Fate
  | unencrypted
  | dropped
  | sent
  | refused
  | aborted
  deriving DecidableEq

/-- `waiting` is a loop between the filter and the socket. -/
structure PublishTask where
  built : Nat := 0
  waiting : Bool := false
  running : Bool := true
  fates : List Fate := []
  deriving DecidableEq

structure PublishLoops where
  filter : Option NetFilter
  task : MediaKind → PublishTask := fun _ => {}

/-- A tick builds a packet, of the given length once encrypted. -/
inductive Label
  | tick (kind : MediaKind) (encrypted : Option Nat) (now : ℚ) (roll : Roll)
  | send (kind : MediaKind) (taken : Bool)
  | stop (kind : MediaKind)
  | update (now : ℚ) (config : FilterConfig)

namespace PublishTask

def settle (t : PublishTask) (fate : Fate) : PublishTask :=
  { t with waiting := false, fates := t.fates ++ [fate] }

end PublishTask

namespace PublishLoops

def set (s : PublishLoops) (kind : MediaKind) (t : PublishTask) : PublishLoops :=
  { s with task := Function.update s.task kind t }

def tick (s : PublishLoops) (kind : MediaKind) (encrypted : Option Nat) (now : ℚ) (roll : Roll) :
    PublishLoops :=
  let t := { s.task kind with built := (s.task kind).built + 1 }
  match encrypted with
  | none => s.set kind (t.settle .unencrypted)
  | some len =>
    match s.filter with
    | none => s.set kind { t with waiting := true }
    | some f =>
      let s := { s with filter := some (f.filter now roll len).2 }
      match (f.filter now roll len).1 with
      | .drop => s.set kind (t.settle .dropped)
      | .pass _ => s.set kind { t with waiting := true }

def send (s : PublishLoops) (kind : MediaKind) (taken : Bool) : PublishLoops :=
  if taken then s.set kind ((s.task kind).settle .sent)
  else s.set kind { (s.task kind).settle .refused with running := false }

def stop (s : PublishLoops) (kind : MediaKind) : PublishLoops :=
  let t := if (s.task kind).waiting then (s.task kind).settle .aborted else s.task kind
  s.set kind { t with running := false }

def updateNetFilter (s : PublishLoops) (now : ℚ) (config : FilterConfig) : PublishLoops :=
  { s with filter := s.filter.map (fun f => f.update now config) }

end PublishLoops

def step (s : PublishLoops) : Label → Option PublishLoops
  | .tick kind encrypted now roll =>
    if (s.task kind).running ∧ (s.task kind).waiting = false then
      some (s.tick kind encrypted now roll)
    else none
  | .send kind taken => if (s.task kind).waiting then some (s.send kind taken) else none
  | .stop kind => some (s.stop kind)
  | .update now config => some (s.updateNetFilter now config)

def startPublishing (filter : Option NetFilter) : PublishLoops := { filter := filter }

end Oxlab.Bot.Publishing
