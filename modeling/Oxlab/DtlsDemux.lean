import Oxlab.Common.MediaSetup

/-! What the DTLS stack is given while a media socket is set up.
Over every run: which datagrams pass, in which order, and that none that passes is
lost, whatever the socket brings and however slowly the stack reads. -/
namespace Oxlab.DtlsDemux
open Common.Media Common.MediaSetup Library

/-- A binding success response. -/
def Answers : Recv → Prop
  | .datagram data => 20 ≤ data.length ∧ u16At data 0 = 0x0101
  | .failed => False

/-- The first byte in the buffer behind the datagrams: an empty one leaves it. -/
def firstByte (stale : UInt8) (data : List Bytes) : UInt8 :=
  data.foldl (fun stale datagram => datagram.headD stale) stale

def forwarded (stale : UInt8) : List Bytes → List Bytes
  | [] => []
  | datagram::rest =>
    let first := datagram.headD stale
    (if isDtls first then [datagram.take 2048] else []) ++ forwarded first rest

def ending (d : Demux) : List Recv := if d.running then [] else [.failed]

section buffer
variable (buf data : Bytes)

theorem recvFrom_length : (recvFrom buf data).length = buf.length := by
  simp only [recvFrom,List.length_append,List.length_take,List.length_drop]
  omega

theorem recvFrom_take : (recvFrom buf data).take (min data.length buf.length) = data.take buf.length := by
  have long : (data.take buf.length).length = min data.length buf.length := by
    rw [List.length_take,Nat.min_comm]
  rw [recvFrom,← long,List.take_left]

theorem recvFrom_inside {i : Nat} (inside : i < min data.length buf.length) :
    byteAt (recvFrom buf data) i = byteAt data i := by
  have same : (recvFrom buf data).take (min data.length buf.length) =
      data.take (min data.length buf.length) := by
    rw [recvFrom_take,Nat.min_comm,List.take_eq_take_iff]
    omega
  exact byteAt_take same inside

theorem recvFrom_first (room : 0 < buf.length) :
    byteAt (recvFrom buf data) 0 = data.headD (byteAt buf 0) := by
  cases data with
  | nil => simp [recvFrom]
  | cons first rest =>
    rw [recvFrom_inside buf (first::rest) (by simp [room])]
    rfl

theorem stun_of_response (bytes : Bytes) (answer : u16At bytes 0 = 0x0101) :
    isStun (byteAt bytes 0) = true := by
  have value : (UInt16.ofNat (BigEndian.decode [byteAt bytes 0,byteAt bytes 1])).toNat = 257 :=
    congrArg UInt16.toNat answer
  have high := (byteAt bytes 0).toNat_lt
  have low := (byteAt bytes 1).toNat_lt
  simp only [BigEndian.decode,List.foldl_cons,List.foldl_nil,UInt16.toNat_ofNat'] at value
  have first : (byteAt bytes 0).toNat ≤ (3 : UInt8).toNat := by
    change (byteAt bytes 0).toNat ≤ 3
    omega
  exact decide_eq_true (UInt8.le_iff_toNat_le.mpr first)

theorem isBindingResponse_iff (sized : buf.length = 2048) :
    isBindingResponse (recvFrom buf data) (min data.length buf.length) = true ↔
      Answers (.datagram data) := by
  have header (long : 20 ≤ data.length) : u16At (recvFrom buf data) 0 = u16At data 0 := by
    rw [u16At,u16At,recvFrom_inside buf data (by omega),recvFrom_inside buf data (by omega)]
  simp only [isBindingResponse,Bool.and_eq_true,decide_eq_true_eq,beq_iff_eq,Answers]
  constructor
  · rintro ⟨⟨_,long⟩,answer⟩
    have long : 20 ≤ data.length := by omega
    exact ⟨long,header long ▸ answer⟩
  · rintro ⟨long,answer⟩
    rw [← header long] at answer
    exact ⟨⟨stun_of_response _ answer,by omega⟩,answer⟩

end buffer

theorem firstByte_append (stale : UInt8) (data : List Bytes) (datagram : Bytes) :
    firstByte stale (data ++ [datagram]) = datagram.headD (firstByte stale data) := by
  simp [firstByte]

theorem forwarded_append (stale : UInt8) (data : List Bytes) (datagram : Bytes) :
    forwarded stale (data ++ [datagram]) = forwarded stale data ++
      (if isDtls (datagram.headD (firstByte stale data)) then [datagram.take 2048] else []) := by
  induction data generalizing stale with
  | nil => simp [forwarded,firstByte]
  | cons first rest ih => simp [forwarded,ih,firstByte]

theorem forwarded_filter (stale : UInt8) (data : List Bytes) (nonempty : [] ∉ data) :
    forwarded stale data =
      (data.filter (fun datagram => isDtls (byteAt datagram 0))).map (·.take 2048) := by
  induction data generalizing stale with
  | nil => rfl
  | cons datagram rest ih =>
    cases datagram with
    | nil => simp at nonempty
    | cons first bytes =>
      have later : [] ∉ rest := fun member => nonempty (List.mem_cons_of_mem _ member)
      have own : byteAt (first::bytes) 0 = first := rfl
      simp only [forwarded,List.headD_cons,ih first later,List.filter_cons,own]
      by_cases dtls : isDtls first = true
      · simp [dtls]
      · simp [dtls]

/-- What the datagrams behind the response have made of the demultiplexer. -/
structure Holds (data : List Bytes) (d : Demux) : Prop where
  sized : d.b.length = 2048
  stale : byteAt d.b 0 = firstByte 0 data
  passed : d.pipe.contents = forwarded 0 data
  sizes : d.sizes.length = d.pipe.received.length
  returned : d.returned = List.zipWith (fun size datagram => datagram.take size) d.sizes d.pipe.received

theorem zeroed_length : zeroed.length = 2048 := List.length_replicate

theorem zeroed_first : byteAt zeroed 0 = 0 := by
  rw [byteAt,zeroed,List.getElem?_replicate,if_pos (by decide)]
  rfl

theorem holds_new : Holds [] .new := ⟨zeroed_length,zeroed_first,rfl,rfl,rfl⟩

section demux
variable {d next : Demux} {data : List Bytes}

theorem carry_some {moved : Option (Pipe Bytes 128)} (carried : d.carry moved = some next) :
    ∃ pipe, moved = some pipe ∧ next = { d with pipe := pipe } := by
  obtain ⟨pipe,some_pipe,rfl⟩ := Option.map_eq_some_iff.mp carried
  exact ⟨pipe,some_pipe,rfl⟩

theorem receive_holds {recv : Recv} (holds : Holds data d) (moved : d.receive recv = some next) :
    d.running = true ∧
      (recv = .failed ∧ next.running = false ∧ Holds data next ∨
        ∃ datagram, recv = .datagram datagram ∧ next.running = true ∧
          Holds (data ++ [datagram]) next) := by
  unfold Demux.receive at moved
  split at moved
  next => cases moved
  next free =>
    simp only [Bool.or_eq_true,not_or,Bool.not_eq_true,Bool.not_eq_false'] at free
    refine ⟨free.1,?_⟩
    cases recv with
    | failed =>
      cases moved
      exact Or.inl ⟨rfl,rfl,holds.sized,holds.stale,holds.passed,holds.sizes,holds.returned⟩
    | datagram datagram =>
      have first : byteAt (recvFrom d.b datagram) 0 = datagram.headD (firstByte 0 data) := by
        rw [recvFrom_first d.b datagram (by rw [holds.sized]; decide),holds.stale]
      have long : (recvFrom d.b datagram).length = 2048 := (recvFrom_length _ _).trans holds.sized
      have cut : (recvFrom d.b datagram).take (min datagram.length d.b.length) = datagram.take 2048 := by
        rw [recvFrom_take,holds.sized]
      refine Or.inr ⟨datagram,rfl,?_⟩
      simp only [first,cut] at moved
      split at moved
      next dtls =>
        obtain ⟨pipe,offered,rfl⟩ := carry_some moved
        obtain ⟨_,same,_⟩ := Pipe.offer_some offered
        refine ⟨free.1,long,by rw [first,firstByte_append],?_,?_,?_⟩
        · rw [Pipe.move_contents offered,forwarded_append,if_pos dtls,← holds.passed]
          rfl
        · rw [same]
          exact holds.sizes
        · rw [same]
          exact holds.returned
      next other =>
        cases moved
        refine ⟨free.1,long,by rw [first,firstByte_append],?_,holds.sizes,holds.returned⟩
        rw [forwarded_append,if_neg other,List.append_nil]
        exact holds.passed

theorem sent_holds (holds : Holds data d) (moved : d.carry (d.pipe.move .enter) = some next) :
    next.running = d.running ∧ Holds data next := by
  obtain ⟨pipe,entered,rfl⟩ := carry_some moved
  obtain ⟨_,_,same,_⟩ := Pipe.enter_some entered
  refine ⟨rfl,holds.sized,holds.stale,?_,?_,?_⟩
  · rw [Pipe.move_contents entered,Pipe.itemOf,List.append_nil]
    exact holds.passed
  · rw [same]
    exact holds.sizes
  · rw [same]
    exact holds.returned

theorem read_holds {size : Nat} (holds : Holds data d) (moved : d.read size = some next) :
    next.running = d.running ∧ Holds data next := by
  unfold Demux.read at moved
  split at moved
  next => cases moved
  next datagram rest queued =>
    obtain ⟨pipe,received,rfl⟩ := carry_some moved
    obtain ⟨item,channel,grown,_⟩ := Pipe.receive_some received
    have head : datagram = item := by
      rw [queued] at channel
      exact (List.cons.inj channel).1
    subst head
    refine ⟨rfl,holds.sized,holds.stale,?_,?_,?_⟩
    · rw [Pipe.move_contents received,Pipe.itemOf,List.append_nil]
      exact holds.passed
    · simp [grown,holds.sizes]
    · simp only [grown,holds.returned]
      rw [List.zipWith_append holds.sizes,List.zipWith_cons_cons,List.zipWith_nil_left]
      simp [Nat.min_comm]

end demux

/-- Where the set-up stands with what it has taken from the socket. -/
structure Stands (inbox : List Recv) (s : Setup) : Prop where
  sized : s.buf.length = 2048
  waiting : s.demux = none → ∃ early, inbox = early ++ s.inbox ∧ ∀ recv ∈ early,¬Answers recv
  passing : ∀ d, s.demux = some d → ∃ early response data,
    inbox = early ++ response::(data.map .datagram ++ ending d) ++ s.inbox ∧
      (∀ recv ∈ early,¬Answers recv) ∧ Answers response ∧ Holds data d
  keyed : ∀ keys, s.result = some (.ok keys) → s.demux.isSome = true ∧ ∃ mat, keys = .ofMaterial mat

section setup
variable {label : String} {inbox : List Recv} {s next : Setup}

theorem demuxed_some {moved : Demux → Option Demux} (ran : s.demuxed moved = some next) :
    ∃ d after, s.demux = some d ∧ moved d = some after ∧ next = { s with demux := some after } := by
  obtain ⟨d,demux,ran⟩ := Option.bind_eq_some_iff.mp ran
  obtain ⟨after,stepped,rfl⟩ := Option.map_eq_some_iff.mp ran
  exact ⟨d,after,demux,stepped,rfl⟩

theorem stands_setup (refused : Option String) : Stands inbox (setupMediaPc refused inbox) := by
  refine ⟨zeroed_length,fun _ => ⟨[],rfl,by simp⟩,?_,?_⟩
  · intro d made
    cases made
  · intro keys ended
    cases refused <;> cases ended

theorem finish_stands {result : Except String MediaKeys} (stands : Stands inbox s)
    (keyed : ∀ keys, result = .ok keys → s.demux.isSome = true ∧ ∃ mat, keys = .ofMaterial mat) :
    Stands inbox (s.finish result) := by
  refine ⟨stands.sized,stands.waiting,stands.passing,?_⟩
  intro keys ended
  exact keyed keys (Option.some.inj ended)

theorem inner_stands {moved : Demux → Option Demux} (stands : Stands inbox s)
    (ran : s.demuxed moved = some next)
    (kept : ∀ d after data, moved d = some after → Holds data d →
      after.running = d.running ∧ Holds data after) : Stands inbox next := by
  obtain ⟨d,after,demux,stepped,rfl⟩ := demuxed_some ran
  obtain ⟨early,response,data,split,before,answers,holds⟩ := stands.passing d demux
  obtain ⟨running,left⟩ := kept d after data stepped holds
  refine ⟨stands.sized,by simp,?_,?_⟩
  · intro other same
    cases same
    exact ⟨early,response,data,by rwa [ending,running],before,answers,left⟩
  · intro keys ended
    exact ⟨rfl,(stands.keyed keys ended).2⟩

theorem await_stands {recv : Recv} {rest : List Recv} (stands : Stands inbox s)
    (waits : s.demux = none) (took : s.inbox = recv::rest) :
    Stands inbox ({ s with inbox := rest }.awaitResponse recv) := by
  obtain ⟨early,split,before⟩ := stands.waiting waits
  have skipped (silent : ¬Answers recv) :
      ∃ early, inbox = early ++ rest ∧ ∀ recv ∈ early,¬Answers recv := by
    refine ⟨early ++ [recv],by simp [split,took],?_⟩
    intro other member
    rcases List.mem_append.mp member with old | new
    · exact before other old
    · rwa [List.mem_singleton.mp new]
  cases recv with
  | failed =>
    refine ⟨stands.sized,fun _ => skipped id,?_,stands.keyed⟩
    intro d made
    have made : s.demux = some d := made
    rw [waits] at made
    cases made
  | datagram data =>
    have judged := isBindingResponse_iff s.buf data stands.sized
    have long : (recvFrom s.buf data).length = 2048 := (recvFrom_length _ _).trans stands.sized
    simp only [Setup.awaitResponse]
    split
    next answered =>
      refine ⟨long,by simp,?_,?_⟩
      · intro d made
        cases made
        exact ⟨early,.datagram data,[],by simp [split,took,ending,Demux.new],before,
          judged.mp answered,holds_new⟩
      · intro keys ended
        exact ⟨rfl,(stands.keyed keys ended).2⟩
    next silent =>
      refine ⟨long,fun _ => skipped (fun answers => silent (judged.mpr answers)),?_,stands.keyed⟩
      intro d made
      rw [waits] at made
      cases made

theorem receive_stands {recv : Recv} {rest : List Recv} (stands : Stands inbox s)
    (took : s.inbox = recv::rest)
    (ran : { s with inbox := rest }.demuxed (·.receive recv) = some next) : Stands inbox next := by
  obtain ⟨d,after,demux,stepped,rfl⟩ := demuxed_some ran
  obtain ⟨early,response,data,split,before,answers,holds⟩ := stands.passing d demux
  obtain ⟨running,left⟩ := receive_holds holds stepped
  refine ⟨stands.sized,by simp,?_,?_⟩
  · intro other same
    cases same
    rcases left with ⟨rfl,stopped,left⟩ | ⟨datagram,rfl,runs,left⟩
    · refine ⟨early,response,data,?_,before,answers,left⟩
      simp [split,took,ending,running,stopped]
    · refine ⟨early,response,data ++ [datagram],?_,before,answers,left⟩
      simp [split,took,ending,running,runs]
  · intro keys ended
    exact ⟨rfl,(stands.keyed keys ended).2⟩

theorem step_stands (event : Event) (stands : Stands inbox s) (ran : s.step label event = some next) :
    Stands inbox next := by
  unfold Setup.step at ran
  split at ran
  next => cases ran
  next =>
    cases event with
    | recv =>
      simp only [Setup.next] at ran
      split at ran
      next => cases ran
      next took waits =>
        cases ran
        exact await_stands stands waits took
      next took _ => exact receive_stands stands took ran
    | deadline =>
      obtain ⟨_,same⟩ := Option.ite_none_right_eq_some.mp ran
      cases same
      exact finish_stands stands (by simp)
    | sent => exact inner_stands stands ran (fun _ _ _ moved holds => sent_holds holds moved)
    | read size => exact inner_stands stands ran (fun _ _ _ moved holds => read_holds holds moved)
    | handshakeFailed error =>
      obtain ⟨_,same⟩ := Option.ite_none_right_eq_some.mp ran
      cases same
      exact finish_stands stands (by simp)
    | exportFailed error =>
      obtain ⟨_,same⟩ := Option.ite_none_right_eq_some.mp ran
      cases same
      exact finish_stands stands (by simp)
    | exported mat =>
      obtain ⟨made,same⟩ := Option.ite_none_right_eq_some.mp ran
      cases same
      apply finish_stands stands
      intro keys ended
      cases ended
      exact ⟨made,mat,rfl⟩

theorem moves_exec (moves : List (Pipe.Move Bytes)) {d : Demux} {pipe : Pipe Bytes 128}
    (running : s.result = none) (demux : s.demux = some d)
    (ran : Run.exec Pipe.move d.pipe moves = some pipe) (quiet : ∀ m ∈ moves,Pipe.itemOf m = []) :
    ∃ events after, Run.exec (Setup.step label) s events = some { s with demux := some after } ∧
      after.pipe = pipe := by
  induction moves generalizing s d with
  | nil =>
    cases ran
    exact ⟨[],d,by rw [← demux]; rfl,rfl⟩
  | cons m rest ih =>
    rw [Run.exec_cons] at ran
    obtain ⟨middle,moved,reaches⟩ := Option.bind_eq_some_iff.mp ran
    obtain ⟨first,later⟩ := List.forall_mem_cons.mp quiet
    cases m with
    | offer item => simp [Pipe.itemOf] at first
    | enter =>
      obtain ⟨events,after,reached,same⟩ := ih (s := { s with demux := some { d with pipe := middle } })
        running rfl reaches later
      refine ⟨.sent::events,after,?_,same⟩
      have stepped : s.step label .sent = some { s with demux := some { d with pipe := middle } } := by
        simp [Setup.step,running,Setup.next,Setup.demuxed,demux,moved,Demux.carry]
      rw [Run.exec_cons,stepped,Option.bind_some,reached]
    | receive =>
      obtain ⟨item,channel,_⟩ := Pipe.receive_some moved
      obtain ⟨events,after,reached,same⟩ := ih
        (s := { s with demux := some ⟨d.b,d.running,middle,d.sizes ++ [2048],
          d.returned ++ [item.take (min item.length 2048)]⟩ }) running rfl reaches later
      refine ⟨.read 2048::events,after,?_,same⟩
      have stepped : s.step label (.read 2048) = some { s with demux := some ⟨d.b,d.running,middle,
          d.sizes ++ [2048],d.returned ++ [item.take (min item.length 2048)]⟩ } := by
        simp [Setup.step,running,Setup.next,Setup.demuxed,demux,moved,Demux.carry,Demux.read,channel]
      rw [Run.exec_cons,stepped,Option.bind_some,reached]

end setup

/-- What the stack has been given of the datagrams behind the response. -/
structure Passed (data : List Bytes) (d : Demux) : Prop where
  contents : d.pipe.contents = forwarded 0 data
  judged : [] ∉ data → d.pipe.contents =
    (data.filter (fun datagram => isDtls (byteAt datagram 0))).map (·.take 2048)
  bounded : d.pipe.channel.length ≤ 128
  returned : d.returned = List.zipWith (fun size datagram => datagram.take size) d.sizes d.pipe.received
  each : d.sizes.length = d.pipe.received.length

theorem Holds.gives {data : List Bytes} {d : Demux} (holds : Holds data d) : Passed data d := by
  refine ⟨holds.passed,?_,d.pipe.bounded,holds.returned,holds.sizes⟩
  intro nonempty
  rw [holds.passed,forwarded_filter 0 data nonempty]

/-- Whatever the socket brings and whenever the stack reads: what is taken before the
response is dropped, the DTLS datagrams behind it pass in order and are cut only by the
buffers, and from every state the stack can still get each of them. Keys are the whole
material, and there are none without a response. -/
theorem datagrams_pass {label : String} {refused : Option String} {inbox : List Recv}
    {events : List Event} {final : Setup}
    (ran : Run.exec (Setup.step label) (setupMediaPc refused inbox) events = some final) :
    (final.demux = none →
      ∃ early, inbox = early ++ final.inbox ∧ ∀ recv ∈ early,¬Answers recv) ∧
    (∀ d, final.demux = some d → ∃ early response data,
      inbox = early ++ response::(data.map .datagram ++ ending d) ++ final.inbox ∧
        (∀ recv ∈ early,¬Answers recv) ∧ Answers response ∧ Passed data d ∧
        (final.result = none → ∃ more after, Run.exec (Setup.step label) final more =
          some { final with demux := some after } ∧ after.pipe.received = forwarded 0 data)) ∧
    ∀ keys, final.result = some (.ok keys) →
      final.demux.isSome = true ∧ ∃ mat : Material, keys.all = mat.bytes := by
  have stands : Stands inbox final := Run.exec_keeps (Setup.step label) (Stands inbox)
    (fun _ event _ stands moved => step_stands event stands moved) events _ final
    (stands_setup refused) ran
  refine ⟨stands.waiting,?_,?_⟩
  · intro d demux
    obtain ⟨early,response,data,split,before,answers,holds⟩ := stands.passing d demux
    refine ⟨early,response,data,split,before,answers,holds.gives,?_⟩
    intro running
    obtain ⟨moves,pipe,moved,quiet,all⟩ := d.pipe.drains (by decide)
    obtain ⟨more,after,reached,same⟩ := moves_exec moves running demux moved quiet
    exact ⟨more,after,reached,by rw [same,all,holds.passed]⟩
  · intro keys ended
    obtain ⟨made,mat,rfl⟩ := stands.keyed keys ended
    exact ⟨made,mat,MediaKeys.ofMaterial_all mat⟩

/-- A record before the response, then one, a packet of media, an empty datagram and
another record, read into a buffer of two bytes and one of the usual size. -/
def mixedInbox : List Recv :=
  [.datagram [22,0],.datagram ([1,1] ++ List.replicate 18 0),.datagram [22,1,2],.datagram [128,0],
    .datagram [],.datagram [23,9]]

def mixedEvents : List Event :=
  [.recv,.recv,.recv,.sent,.recv,.recv,.read 2,.recv,.sent,.read 2048]

theorem mixed_ran : ((Run.exec (Setup.step "sub") (setupMediaPc none mixedInbox) mixedEvents).bind
    (·.demux)).map (·.returned) = some [[22,1],[23,9]] := by decide +kernel

theorem datagrams_pass_mixed : ∃ d early response data,
    d.returned = [[22,1],[23,9]] ∧
      mixedInbox = early ++ response::(data.map .datagram ++ ending d) ∧ Passed data d := by
  obtain ⟨d,demux,returned⟩ := Option.map_eq_some_iff.mp mixed_ran
  obtain ⟨final,ran,demux⟩ := Option.bind_eq_some_iff.mp demux
  obtain ⟨early,response,data,split,_,_,passed,_⟩ := (datagrams_pass ran).2.1 d demux
  refine ⟨d,early,response,data,returned,?_,passed⟩
  have taken : final.inbox = [] := by
    have all : (Run.exec (Setup.step "sub") (setupMediaPc none mixedInbox) mixedEvents).map
        (·.inbox.isEmpty) = some true := by decide +kernel
    rw [ran] at all
    exact List.isEmpty_iff.mp (Option.some.inj all)
  rw [split,taken,List.append_nil]

end Oxlab.DtlsDemux
