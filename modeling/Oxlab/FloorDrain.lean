import Oxlab.Bot.Floor

/-! One buffer of floor messages, two consumers.
The event handler acts on every message it drains; the wait inside a floor
request acts on the first FTKN and drops the rest of its drain. The flags say
what was received only when no message was dropped and the wait did not take
the FTKN that ends a release. -/
namespace Oxlab.FloorDrain
open Common.Media Bot.Subscribe Bot.Floor

inductive Consumer
  | awaitFloorTaken
  | processEvents
  deriving DecidableEq

structure Poll where
  consumer : Consumer
  drained : List FloorBody

namespace Poll

def raws (p : Poll) : List Bytes := p.drained.map (·.raw)

def kinds (p : Poll) : List FloorKind := p.drained.map (·.kind)

def handle (s : Handled) (p : Poll) : Handled :=
  match p.consumer with
  | .awaitFloorTaken => (s.awaitFloorTaken p.raws).2
  | .processEvents => s.processEvents p.raws

end Poll

def run (mode : String) (polls : List Poll) : Handled :=
  polls.foldl Poll.handle { task := { mode := mode } }

def kindsOf (polls : List Poll) : List FloorKind := polls.flatMap Poll.kinds

/-- What the flags and the log should say after every poll was handled. -/
structure Faithful (polls : List Poll) (s : Handled) : Prop where
  idle : s.task.floorState.floorIdle = true ↔ lastTurn (kindsOf polls) ≠ some .ftkn
  released : s.task.floorState.floorJustReleased = true ↔ lastTurn (kindsOf polls) = some .fidl
  revoked : s.task.observations.floorRevokeReceived = true ↔ .frvk ∈ kindsOf polls
  acted : s.acted = polls.flatMap Poll.raws

/-- The wait drains nothing but a lone FTKN. -/
def LoneGrant (p : Poll) : Prop :=
  p.consumer = .awaitFloorTaken → p.kinds = [] ∨ p.kinds = [.ftkn]

/-- No FTKN that the wait took is the last turn over a FIDL the handler took. -/
def GrantSeen (polls : List Poll) : Prop :=
  ¬(lastTurn (kindsOf polls) = some .ftkn ∧
    lastTurn (kindsOf (polls.filter (·.consumer = .processEvents))) = some .fidl)

section flags
variable (s : Handled)

theorem awaitFloorTaken_lone (bodies : List FloorBody) (lone : bodies.map (·.kind) = [] ∨
    bodies.map (·.kind) = [.ftkn]) :
    let next := (s.awaitFloorTaken (bodies.map (·.raw))).2
    let kinds := bodies.map (·.kind)
    next.task.floorState.floorIdle = freed s.task.floorState.floorIdle kinds ∧
      next.task.floorState.floorJustReleased = s.task.floorState.floorJustReleased ∧
      next.task.observations.floorRevokeReceived = s.task.observations.floorRevokeReceived ∧
      next.acted = s.acted ++ bodies.map (·.raw) := by
  rcases lone with none | one
  · obtain rfl := List.map_eq_nil_iff.mp none
    simp [Handled.awaitFloorTaken,freed,lastTurn]
  · obtain ⟨body,rfl,kind⟩ := List.map_eq_singleton_iff.mp one
    have parsed := body.parsed
    rw [kind] at parsed
    simp [Handled.awaitFloorTaken,parsed,kind,freed,lastTurn]

theorem awaitFloorTaken_acted (bodies : List FloorBody) :
    ∃ acted, (s.awaitFloorTaken (bodies.map (·.raw))).2.acted = s.acted ++ acted ∧
      (acted = [] ∨ ∃ body ∈ bodies, acted = [body.raw] ∧ body.kind = .ftkn) := by
  induction bodies with
  | nil => exact ⟨[],by simp [Handled.awaitFloorTaken],Or.inl rfl⟩
  | cons body rest ih =>
    simp only [List.map_cons,Handled.awaitFloorTaken,body.parsed,Option.some.injEq]
    split
    next grant => exact ⟨[body.raw],rfl,Or.inr ⟨body,by simp,rfl,grant⟩⟩
    next =>
      obtain ⟨acted,logged,which⟩ := ih
      refine ⟨acted,logged,which.imp_right ?_⟩
      intro taken
      obtain ⟨found,member,single,grant⟩ := taken
      exact ⟨found,List.mem_cons_of_mem body member,single,grant⟩

end flags

theorem append_eq_iff {first second part other : List Bytes} (short : first.length ≤ part.length)
    (brief : second.length ≤ other.length) :
    first ++ second = part ++ other ↔ first = part ∧ second = other := by
  constructor
  · intro same
    have total := congrArg List.length same
    simp only [List.length_append] at total
    exact List.append_inj same (by omega)
  · rintro ⟨rfl,rfl⟩
    rfl

theorem handle_acted (s : Handled) (p : Poll) :
    ∃ acted, (p.handle s).acted = s.acted ++ acted ∧ acted.length ≤ p.raws.length ∧
      (acted = p.raws ↔ LoneGrant p) := by
  obtain ⟨consumer,bodies⟩ := p
  cases consumer with
  | processEvents =>
    obtain ⟨_,_,_,acted⟩ := processEvents_flags s bodies
    exact ⟨_,acted,Nat.le_refl _,by simp [LoneGrant,Poll.raws]⟩
  | awaitFloorTaken =>
    obtain ⟨acted,logged,which⟩ := awaitFloorTaken_acted s bodies
    refine ⟨acted,logged,?_,?_⟩
    · rcases which with rfl | ⟨body,member,rfl,_⟩
      · exact Nat.zero_le _
      · simpa [Poll.raws,Nat.succ_le_iff] using List.length_pos_of_mem member
    · constructor
      · rintro all -
        rcases which with rfl | ⟨body,member,rfl,grant⟩
        · have empty : bodies = [] := by simpa [Poll.raws] using all.symm
          exact Or.inl (by simp [Poll.kinds,empty])
        · obtain ⟨only,rfl,_⟩ := List.map_eq_singleton_iff.mp all.symm
          rw [List.mem_singleton] at member
          exact Or.inr (by simp [Poll.kinds,← member,grant])
      · intro lone
        obtain ⟨_,_,_,full⟩ := awaitFloorTaken_lone s bodies (lone rfl)
        exact List.append_cancel_left (logged.symm.trans full)

theorem run_acted (polls : List Poll) (s : Handled) :
    ∃ acted, (polls.foldl Poll.handle s).acted = s.acted ++ acted ∧
      acted.length ≤ (polls.flatMap Poll.raws).length ∧
      (acted = polls.flatMap Poll.raws ↔ ∀ p ∈ polls, LoneGrant p) := by
  induction polls generalizing s with
  | nil => exact ⟨[],by simp,Nat.le_refl _,by simp⟩
  | cons p rest ih =>
    obtain ⟨first,headLog,headShort,headAll⟩ := handle_acted s p
    obtain ⟨later,tailLog,tailShort,tailAll⟩ := ih (p.handle s)
    refine ⟨first++later,?_,?_,?_⟩
    · rw [List.foldl_cons,tailLog,headLog,List.append_assoc]
    · simp only [List.flatMap_cons,List.length_append]
      omega
    · rw [List.flatMap_cons,append_eq_iff headShort tailShort,headAll,tailAll,List.forall_mem_cons]

theorem run_flags (polls : List Poll) (s : Handled) (lone : ∀ p ∈ polls, LoneGrant p) :
    let next := polls.foldl Poll.handle s
    next.task.floorState.floorIdle = freed s.task.floorState.floorIdle (kindsOf polls) ∧
      next.task.floorState.floorJustReleased = freed s.task.floorState.floorJustReleased
        (kindsOf (polls.filter (·.consumer = .processEvents))) ∧
      (next.task.observations.floorRevokeReceived = true ↔
        s.task.observations.floorRevokeReceived = true ∨ .frvk ∈ kindsOf polls) := by
  induction polls generalizing s with
  | nil => simp [kindsOf,freed,lastTurn]
  | cons p rest ih =>
    obtain ⟨alone,others⟩ := List.forall_mem_cons.mp lone
    have later := ih (p.handle s) others
    obtain ⟨consumer,bodies⟩ := p
    cases consumer with
    | processEvents =>
      obtain ⟨idle,released,revoked,_⟩ := processEvents_flags s bodies
      simp only [Poll.handle,Poll.raws,idle,released,revoked,or_assoc] at later
      simpa [kindsOf,Poll.kinds,freed_append,Poll.handle,Poll.raws] using later
    | awaitFloorTaken =>
      obtain ⟨idle,released,revoked,_⟩ := awaitFloorTaken_lone s bodies (alone rfl)
      simp only [Poll.handle,Poll.raws,idle,released,revoked] at later
      have quiet : .frvk ∉ bodies.map (·.kind) := by
        rcases alone rfl with none | one
        · change bodies.map (·.kind) = [] at none
          simp [none]
        · change bodies.map (·.kind) = [.ftkn] at one
          simp [one]
      simpa [kindsOf,Poll.kinds,freed_append,Poll.handle,Poll.raws,quiet] using later

theorem lastTurn_handled (polls : List Poll) (lone : ∀ p ∈ polls, LoneGrant p) :
    lastTurn (kindsOf polls) = lastTurn (kindsOf (polls.filter (·.consumer = .processEvents))) ∨
      lastTurn (kindsOf polls) = some .ftkn := by
  induction polls with
  | nil => exact Or.inl rfl
  | cons p rest ih =>
    obtain ⟨alone,others⟩ := List.forall_mem_cons.mp lone
    have tail := ih others
    have turn (polls : List Poll) : lastTurn (kindsOf (p::polls)) =
        (lastTurn (kindsOf polls)).or (lastTurn p.kinds) := lastTurn_append p.kinds _
    by_cases handled : p.consumer = .processEvents
    · rw [List.filter_cons_of_pos (by simpa using handled),turn,turn]
      rcases tail with same | grant
      · rw [same]
        exact Or.inl rfl
      · rw [grant]
        exact Or.inr rfl
    · have waited : p.consumer = .awaitFloorTaken := by
        cases which : p.consumer with
        | awaitFloorTaken => rfl
        | processEvents => contradiction
      rw [List.filter_cons_of_neg (by simpa using handled),turn]
      rcases alone waited with none | one
      · rw [none]
        simpa [lastTurn] using tail
      · rw [one]
        cases last : lastTurn (kindsOf rest) with
        | none => exact Or.inr rfl
        | some kind => simpa [last] using tail

/-- The flags and the log say what was received, whichever consumer drained it,
exactly when the wait drained lone grants only and none of them ended a release. -/
theorem faithful_iff (mode : String) (polls : List Poll) :
    Faithful polls (run mode polls) ↔ (∀ p ∈ polls, LoneGrant p) ∧ GrantSeen polls := by
  obtain ⟨acted,logged,_,all⟩ := run_acted polls { task := { mode := mode } }
  rw [List.nil_append] at logged
  constructor
  · intro faithful
    have lone := all.mp (logged.symm.trans faithful.acted)
    obtain ⟨_,released,_⟩ := run_flags polls { task := { mode := mode } } lone
    refine ⟨lone,?_⟩
    intro hidden
    obtain ⟨grant,release⟩ := hidden
    have ended := faithful.released.mp (by rw [run,released]; exact (freed_false _).mpr release)
    rw [grant] at ended
    contradiction
  · intro polled
    obtain ⟨lone,seen⟩ := polled
    obtain ⟨idle,released,revoked⟩ := run_flags polls { task := { mode := mode } } lone
    refine ⟨?_,?_,?_,logged.trans (all.mpr lone)⟩
    · rw [run,idle]
      exact freed_true _
    · rw [run,released]
      refine (freed_false _).trans ?_
      rcases lastTurn_handled polls lone with same | grant
      · rw [same]
      · rw [grant]
        constructor
        · intro release
          exact absurd ⟨grant,release⟩ seen
        · intro wrong
          contradiction
    · rw [run,revoked]
      simp

/-- A grant and the release behind it in one drain of the wait: the release is
gone and the floor stays taken. A grant that the wait takes after the handler
saw a release leaves the release standing. -/
theorem release_lost :
    (run "ptt" [⟨.awaitFloorTaken,[.ftkn,.fidl]⟩]).task.floorState.floorIdle = false ∧
      (run "ptt" [⟨.awaitFloorTaken,[.ftkn,.fidl]⟩]).acted = [FloorBody.ftkn.raw] ∧
      ¬Faithful [⟨.awaitFloorTaken,[.ftkn,.fidl]⟩] (run "ptt" [⟨.awaitFloorTaken,[.ftkn,.fidl]⟩]) ∧
      (run "ptt" [⟨.processEvents,[.fidl]⟩,⟨.awaitFloorTaken,[.ftkn]⟩]).task.floorState.floorJustReleased
        = true := by
  have taken : (run "ptt" [⟨.awaitFloorTaken,[.ftkn,.fidl]⟩]).task.floorState.floorIdle = false := by
    decide +kernel
  refine ⟨taken,by decide +kernel,?_,by decide +kernel⟩
  intro faithful
  have idle := faithful.idle.mpr (by decide)
  rw [taken] at idle
  contradiction

end Oxlab.FloorDrain
