import Oxlab.Library.Run

/-! A bounded channel with one sender and one receiver.
An item is offered, enters the channel when there is room, and is received; the
sender holds at most one item that the channel has not taken. -/
namespace Oxlab.Library

structure Pipe (Item : Type) (capacity : Nat) where
  received : List Item
  channel : List Item
  offered : Option Item
  bounded : channel.length ≤ capacity

namespace Pipe
variable {Item : Type} {capacity : Nat}

def empty : Pipe Item capacity := ⟨[],[],none,Nat.zero_le capacity⟩

def contents (p : Pipe Item capacity) : List Item := p.received ++ p.channel ++ p.offered.toList

theorem entered {channel : List Item} (item : Item) (room : channel.length < capacity) :
    (channel ++ [item]).length ≤ capacity := by
  rw [List.length_append]
  exact room

inductive Move (Item : Type)
  | offer (item : Item)
  | enter
  | receive

def move (p : Pipe Item capacity) : Move Item → Option (Pipe Item capacity)
  | .offer item => if p.offered.isSome then none else some { p with offered := some item }
  | .enter =>
    match p.offered with
    | none => none
    | some item =>
      if room : p.channel.length < capacity then
        some ⟨p.received,p.channel ++ [item],none,entered item room⟩
      else none
  | .receive =>
    match p with
    | ⟨_,[],_,_⟩ => none
    | ⟨received,item::rest,offered,bounded⟩ =>
      some ⟨received ++ [item],rest,offered,Nat.le_of_succ_le bounded⟩

section moves
variable {p next : Pipe Item capacity} {item : Item}

theorem offer_some (moved : p.move (.offer item) = some next) :
    p.offered = none ∧ next.received = p.received ∧ next.channel = p.channel ∧
      next.offered = some item := by
  rw [move] at moved
  split at moved
  next => cases moved
  next free =>
    cases moved
    exact ⟨Option.not_isSome_iff_eq_none.mp free,rfl,rfl,rfl⟩

theorem enter_some (moved : p.move .enter = some next) :
    ∃ item, p.offered = some item ∧ next.received = p.received ∧
      next.channel = p.channel ++ [item] ∧ next.offered = none := by
  rw [move] at moved
  split at moved
  next => cases moved
  next item held =>
    split at moved
    next =>
      cases moved
      exact ⟨item,held,rfl,rfl,rfl⟩
    next => cases moved

theorem receive_some (moved : p.move .receive = some next) :
    ∃ item, p.channel = item::next.channel ∧ next.received = p.received ++ [item] ∧
      next.offered = p.offered := by
  obtain ⟨received,channel,offered,bounded⟩ := p
  cases channel with
  | nil => cases moved
  | cons item rest =>
    cases moved
    exact ⟨item,rfl,rfl,rfl⟩

end moves

def itemOf : Move Item → List Item
  | .offer item => [item]
  | .enter => []
  | .receive => []

/-- What was offered is received, in the channel, or still held, in the order it came. -/
theorem move_contents {p next : Pipe Item capacity} {m : Move Item} (moved : p.move m = some next) :
    next.contents = p.contents ++ itemOf m := by
  cases m with
  | offer item =>
    obtain ⟨free,received,channel,offered⟩ := offer_some moved
    simp [contents,itemOf,free,received,channel,offered]
  | enter =>
    obtain ⟨item,held,received,channel,offered⟩ := enter_some moved
    simp [contents,itemOf,held,received,channel,offered]
  | receive =>
    obtain ⟨item,channel,received,offered⟩ := receive_some moved
    simp [contents,itemOf,channel,received,offered]

theorem exec_contents (moves : List (Move Item)) (p next : Pipe Item capacity)
    (ran : Run.exec move p moves = some next) (quiet : ∀ m ∈ moves,itemOf m = []) :
    next.contents = p.contents := by
  induction moves generalizing p with
  | nil =>
    cases ran
    rfl
  | cons m rest ih =>
    rw [Run.exec_cons] at ran
    obtain ⟨middle,moved,ran⟩ := Option.bind_eq_some_iff.mp ran
    obtain ⟨first,later⟩ := List.forall_mem_cons.mp quiet
    rw [ih middle ran later,move_contents moved,first,List.append_nil]

theorem received_all {p : Pipe Item capacity} (taken : p.channel = []) (free : p.offered = none) :
    p.received = p.contents := by
  simp [contents,taken,free]

theorem receives (p : Pipe Item capacity) :
    ∃ next, Run.exec move p (List.replicate p.channel.length .receive) = some next ∧
      next.channel = [] := by
  obtain ⟨received,channel,offered,bounded⟩ := p
  induction channel generalizing received with
  | nil => exact ⟨_,rfl,rfl⟩
  | cons item rest ih => exact ih (received ++ [item]) (Nat.le_of_succ_le bounded)

/-- A channel that holds anything at all hands everything over when nothing more is
offered. -/
theorem drains (p : Pipe Item capacity) (holds : 0 < capacity) :
    ∃ moves next, Run.exec move p moves = some next ∧ (∀ m ∈ moves,itemOf m = []) ∧
      next.received = p.contents := by
  obtain ⟨middle,ran,taken⟩ := receives p
  have quiet : ∀ m ∈ List.replicate p.channel.length (Move.receive : Move Item),itemOf m = [] := by
    intro m member
    rw [List.eq_of_mem_replicate member]
    rfl
  have kept : middle.contents = p.contents := exec_contents _ p middle ran quiet
  cases held : middle.offered with
  | none => exact ⟨_,middle,ran,quiet,by rw [received_all taken held,kept]⟩
  | some item =>
    obtain ⟨received,channel,offered,bounded⟩ := middle
    cases taken
    cases held
    refine ⟨List.replicate p.channel.length .receive ++ [.enter,.receive],
      ⟨received ++ [item],[],none,Nat.zero_le capacity⟩,?_,?_,?_⟩
    · rw [Run.exec_append,ran]
      simp [move,holds]
    · intro m member
      rcases List.mem_append.mp member with old | new
      · exact quiet m old
      · rcases List.mem_pair.mp new with rfl | rfl <;> rfl
    · rw [← kept]
      simp [contents]

end Pipe
end Oxlab.Library
