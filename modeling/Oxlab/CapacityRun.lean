import Mathlib.Algebra.BigOperators.Pi
import Oxlab.Cli.Capacity

/-! A group of capacity bots that share their counters.
Every addition to a counter is a step of its own and the bots interleave freely;
what the counters come to is read off what each bot's loop went through. -/
namespace Oxlab.CapacityRun
open Common.Media Library Library.Run Library.SharedCounters Bot.Cap Cli.Capacity FastPath

section share
variable {out : SrtpOut} {srtp : SrtpCtx} (args : CapArgs out srtp) (events : List CapEvent)

/-- The RTP datagrams among what a bot heard. -/
def media : List Datagram := (heard events).filter (fun d => isRtpDatagram d.buf)

def received : CapSub srtp := capRun srtp args.recvMode args.subSrtp (heard events)

def tally (sent : List Bytes) : Counter → Nat
  | .txAttempt => events.countP CapEvent.isTick
  | .txOk => sent.length
  | .txBytes => (sent.map List.length).sum
  | .rxPackets => (media events).length
  | .rxBytes => ((media events).map (fun d => d.buf.length)).sum
  | .rxLost => (received args events).counters.rxLost
  | .rxDecryptFail => (received args events).counters.rxDecryptFail
  | .activeSubs => if media events = [] then 0 else 1

/-- What a bot adds by itself: told from its events, and from what it sent and
whether it is closed. -/
def share (bot : CapBot out srtp) : Shared :=
  (tally args events bot.sent,if bot.closed then ((received args events).localLat : Multiset Nat) else 0)

theorem received_reading : (received args events).reading =
    (heard events).foldl (fun r d => r.take d.buf) ⟨0,0,0,∅⟩ :=
  capRun_reading srtp args.recvMode args.subSrtp (heard events)

theorem take_counts (datagrams : List Datagram) (r : Reading) :
    let final := datagrams.foldl (fun r d => r.take d.buf) r
    let counted := datagrams.filter (fun d => isRtpDatagram d.buf)
    final.rxPackets = r.rxPackets + counted.length ∧
      final.rxBytes = r.rxBytes + (counted.map (fun d => d.buf.length)).sum := by
  induction datagrams generalizing r with
  | nil => exact ⟨rfl,rfl⟩
  | cons d rest ih =>
    obtain ⟨packets,bytes⟩ := ih (r.take d.buf)
    simp only [List.foldl_cons,List.filter_cons]
    rw [packets,bytes,Reading.take]
    split
    next =>
      simp only [List.length_cons,List.map_cons,List.sum_cons]
      omega
    next => exact ⟨rfl,rfl⟩

theorem received_read (sent : List Bytes) {counter : Counter}
    (rx : counter ∈ [.rxPackets,.rxBytes,.rxLost,.rxDecryptFail]) :
    (received args events).counters.read counter = tally args events sent counter := by
  obtain ⟨packets,bytes⟩ := take_counts (heard events) ⟨0,0,0,∅⟩
  rw [← received_reading args events] at packets bytes
  simp only [List.mem_cons,List.not_mem_nil,or_false] at rx
  rcases rx with rfl | rfl | rfl | rfl
  · exact packets.trans (Nat.zero_add _)
  · exact bytes.trans (Nat.zero_add _)
  · rfl
  · rfl

end share

section alone
variable {out : SrtpOut} {srtp : SrtpCtx} (args : CapArgs out srtp)

/-- Where a bot stands, by itself, after the events of its loop. -/
structure Stands (events : List CapEvent) (bot : CapBot out srtp) (value : Shared) : Prop where
  mode : bot.recvMode = args.recvMode
  sub : bot.sub = received args events
  seen : bot.seenRtp = !(media events).isEmpty
  value : value = share args events bot

variable {args} {events : List CapEvent} {bot : CapBot out srtp} {value : Shared}

theorem start_stands : Stands args [] (.start args) 0 := by
  refine ⟨rfl,rfl,rfl,?_⟩
  apply Prod.ext
  · funext counter
    cases counter <;> rfl
  · rfl

theorem heard_append (e : CapEvent) : heard (events ++ [e]) = heard events ++ e.datagram?.toList := by
  rw [heard,List.filterMap_append]
  cases e <;> rfl

theorem media_tick {e : CapEvent} (silent : e.datagram? = none) : media (events ++ [e]) = media events := by
  rw [media,heard_append,silent,Option.toList_none,List.append_nil]
  rfl

theorem received_tick {e : CapEvent} (silent : e.datagram? = none) :
    received args (events ++ [e]) = received args events := by
  rw [received,heard_append,silent,Option.toList_none,List.append_nil]
  rfl

theorem tick_stands (stands : Stands args events bot value) {e : CapEvent} (isTick : e.isTick)
    (aState vState : Bot.RtpPublisher.RtpPublisherState) (pkt : Bytes) (isOk : Bool)
    (running : bot.closed = false) :
    let done := { bot with aState := aState, vState := vState }.tick pkt isOk
    Stands args (events ++ [e]) done.1 (value + done.2.sum) := by
  have silent : e.datagram? = none := by cases e <;> trivial
  obtain ⟨mode,sub,seen,rfl⟩ := stands
  refine ⟨mode,?_,?_,?_⟩
  · rw [received_tick silent]
    exact sub
  · rw [media_tick silent]
    exact seen
  · apply Prod.ext
    · funext counter
      simp only [CapBot.tick,sendAdds_sum,share,Prod.fst_add,Pi.add_apply,fetchAdd_fst]
      cases counter <;>
        simp [tally,media_tick silent,received_tick silent,List.countP_append,isTick]
    · simp [CapBot.tick,sendAdds_sum,share,running]

theorem close_stands (stands : Stands args events bot value) (running : bot.closed = false) :
    Stands args (events ++ [.deadline]) bot.close.1 (value + bot.close.2.sum) := by
  have silent : CapEvent.deadline.datagram? = none := rfl
  obtain ⟨mode,sub,seen,rfl⟩ := stands
  refine ⟨mode,?_,?_,?_⟩
  · rw [received_tick silent]
    exact sub
  · rw [media_tick silent]
    exact seen
  · rw [close_sum]
    apply Prod.ext
    · funext counter
      simp only [CapBot.close,share,extend_fst,Prod.fst_add,Pi.add_apply]
      cases counter <;>
        simp [tally,media_tick silent,received_tick silent,List.countP_append,CapEvent.isTick]
    · simp [CapBot.close,share,running,sub,received_tick silent]

theorem received_datagram (d : Datagram) : received args (events ++ [.datagram d]) =
    (handleRtp srtp args.recvMode (received args events) d.micros d.buf).2 := by
  rw [received,heard_append,CapEvent.datagram?,Option.toList_some,capRun,List.foldl_append]
  rfl

theorem media_datagram (d : Datagram) : media (events ++ [.datagram d]) =
    media events ++ if isRtpDatagram d.buf then [d] else [] := by
  rw [media,heard_append,CapEvent.datagram?,Option.toList_some,List.filter_append,
    List.filter_singleton,Bool.cond_eq_ite]
  rfl

theorem receive_stands (stands : Stands args events bot value) (d : Datagram)
    (running : bot.closed = false) :
    Stands args (events ++ [.datagram d]) (bot.receive d).1 (value + (bot.receive d).2.sum) := by
  obtain ⟨mode,sub,seen,rfl⟩ := stands
  have got := handleRtp_fst bot.recvMode bot.sub d.micros d.buf
  have path : (handleRtp srtp bot.recvMode bot.sub d.micros d.buf).2 =
      received args (events ++ [.datagram d]) := by
    rw [received_datagram,mode,sub]
  have first : (bot.seenRtp || isRtpDatagram d.buf) = !(media (events ++ [.datagram d])).isEmpty := by
    rw [seen,media_datagram]
    cases isRtpDatagram d.buf <;> simp
  refine ⟨mode,path,?_,?_⟩
  · simp only [CapBot.receive,got]
    exact first
  · have step (counter : Counter) (rx : counter ∈ [.rxPackets,.rxBytes,.rxLost,.rxDecryptFail]) :
        tally args (events ++ [.datagram d]) bot.sent counter =
          tally args events bot.sent counter +
            (handleRtpAdds bot.recvMode bot.sub d.buf).sum.1 counter := by
      rw [← received_read _ _ _ rx,← received_read _ _ _ rx,← path,← sub]
      exact handleRtp_adds bot.recvMode bot.sub d.micros d.buf counter
    have still (counter : Counter) (other : ∀ counters, CapCounters.read counters counter = 0) :
        (handleRtpAdds bot.recvMode bot.sub d.buf).sum.1 counter = 0 := by
      have adds := handleRtp_adds bot.recvMode bot.sub d.micros d.buf counter
      rw [other,other] at adds
      omega
    rw [receive_sum]
    apply Prod.ext
    · funext counter
      simp only [share,Prod.fst_add,Pi.add_apply,fetchAdd_fst,CapBot.receive]
      cases counter with
      | txAttempt =>
        rw [still .txAttempt (fun _ => rfl)]
        simp [tally,List.countP_append,CapEvent.isTick]
      | txOk => simp [still .txOk (fun _ => rfl),tally]
      | txBytes => simp [still .txBytes (fun _ => rfl),tally]
      | rxPackets => simp [step .rxPackets (by simp)]
      | rxBytes => simp [step .rxBytes (by simp)]
      | rxLost => simp [step .rxLost (by simp)]
      | rxDecryptFail => simp [step .rxDecryptFail (by simp)]
      | activeSubs =>
        rw [still .activeSubs (fun _ => rfl),seen,tally,tally,media_datagram]
        cases isRtpDatagram d.buf <;> cases media events <;> simp
    · simp [share,running,handleRtpAdds_snd,CapBot.receive]

theorem turn_stands (stands : Stands args events bot value) {e : CapEvent}
    {done : CapBot out srtp × List Shared} (turned : bot.turn e = some done) :
    Stands args (events ++ [e]) done.1 (value + done.2.sum) := by
  obtain ⟨running,⟨aState,vState,pkt,isOk,isTick,rfl⟩ | ⟨d,rfl,rfl⟩ | ⟨rfl,rfl⟩⟩ := turn_cases turned
  · exact tick_stands stands isTick aState vState pkt isOk running
  · exact receive_stands stands d running
  · exact close_stands stands running

end alone

section system
variable {out : SrtpOut} {srtp : SrtpCtx} {ι : Type}

def turns (_ : ι) : CapBot out srtp → CapEvent → Option (CapBot out srtp × List Shared) :=
  CapBot.turn

def launch (bots : ι → CapArgs out srtp) : System ι (CapBot out srtp) Shared where
  shared := 0
  task := fun i => .start (bots i)
  pending := fun _ => []

theorem alone_stands (i : ι) (args : CapArgs out srtp) (events : List CapEvent)
    (bot : CapBot out srtp) (value : Shared)
    (ran : exec (alone turns i) (.start args,0) events = some (bot,value)) :
    Stands args events bot value := by
  induction events using List.reverseRecOn generalizing bot value with
  | nil =>
    cases Option.some.inj ran
    exact start_stands
  | append_singleton events e ih =>
    obtain ⟨⟨middle,before⟩,first,last⟩ := exec_split (alone turns i) ran
    rw [exec_cons] at last
    obtain ⟨after,stepped,ended⟩ := Option.bind_eq_some_iff.mp last
    cases Option.some.inj ended
    obtain ⟨done,turned,same⟩ := Option.map_eq_some_iff.mp stepped
    cases same
    exact turn_stands (ih middle before first) turned

variable [DecidableEq ι] [Fintype ι] {bots : ι → CapArgs out srtp}
  {moves : List (Move ι CapEvent)} {final : System ι (CapBot out srtp) Shared}

theorem settled_shares (ran : exec (move turns) (launch bots) moves = some final) :
    settled final = ∑ i, share (bots i) (own i moves) (final.task i) ∧
      ∀ i, (final.task i).sub = received (bots i) (own i moves) := by
  obtain ⟨issued,each,sum⟩ := exec_alone turns (launch bots) final moves ran
  have stands (i : ι) : Stands (bots i) (own i moves) (final.task i) (issued i) :=
    alone_stands i (bots i) (own i moves) (final.task i) (issued i) (each i)
  refine ⟨?_,fun i => (stands i).sub⟩
  rw [sum,funext (fun i => (stands i).value)]
  have nothing : settled (launch bots) = 0 := settled_quiet (fun _ => rfl)
  rw [nothing,zero_add]

def total (bots : ι → CapArgs out srtp) (moves : List (Move ι CapEvent))
    (final : System ι (CapBot out srtp) Shared) (counter : Counter) : Nat :=
  ∑ i, tally (bots i) (own i moves) (final.task i).sent counter

def pool (bots : ι → CapArgs out srtp) (moves : List (Move ι CapEvent)) : Multiset Nat :=
  ∑ i, ((received (bots i) (own i moves)).localLat : Multiset Nat)

theorem fst_shares (counter : Counter) :
    (∑ i, share (bots i) (own i moves) (final.task i)).1 counter =
      total bots moves final counter := by
  rw [Prod.fst_sum,Finset.sum_apply]
  rfl

theorem settled_account (ran : exec (move turns) (launch bots) moves = some final)
    (quiet : Quiet final) : final.shared.1 = total bots moves final ∧
      ((∀ i, (final.task i).closed) → final.shared.2 = pool bots moves) := by
  have sum := (settled_shares ran).1
  rw [settled_quiet quiet] at sum
  refine ⟨?_,?_⟩
  · funext counter
    rw [← fst_shares,← sum]
  · intro closed
    rw [sum,Prod.snd_sum,pool]
    apply Finset.sum_congr rfl
    intro i _
    rw [share,if_pos (closed i)]

theorem shared_le_total (ran : exec (move turns) (launch bots) moves = some final)
    (counter : Counter) : final.shared.1 counter ≤ total bots moves final counter := by
  rw [← fst_shares,← (settled_shares ran).1]
  exact Nat.le_add_right _ _

/-- Over every interleaving of the bots' additions: no counter is ever more than
what the bots' own loops come to, and once nothing is due and every bot is closed
the counters and the latencies are exactly that. -/
theorem counters_account (ran : exec (move turns) (launch bots) moves = some final) :
    (∀ counter, final.shared.1 counter ≤ total bots moves final counter) ∧
      (Quiet final → final.shared.1 = total bots moves final ∧
        ((∀ i, (final.task i).closed) → final.shared.2 = pool bots moves)) :=
  ⟨shared_le_total ran,settled_account ran⟩

end system

/-- A context without a key: it appends an empty tag. -/
def tagging : SrtpOut where
  Ctx := Unit
  encryptRtp := fun ctx pkt => (some (pkt ++ List.replicate 10 0),ctx)

def pair (i : Bool) : CapArgs tagging untagged :=
  ⟨if i then "cap-conf-2-0" else "cap-conf-2-1",.conf,.full,(),()⟩

/-- The second bot hears a packet between the additions of the first. -/
def interleaved : List (Move Bool CapEvent) :=
  [.act true (.vTick 7 true),.add true,
    .act false (.datagram ⟨0,20,[0x80,96,0,0,0,0,0,0,0,0,0,7,15] ++ List.replicate 17 0⟩),
    .add false,.add true,.add false,.add true,.act true (.aTick false),.add false,
    .act false .deadline,.add true,.act true .deadline,.add false]

theorem interleaved_ends : ∃ final, exec (move turns) (launch pair) interleaved = some final ∧
    Quiet final ∧ (∀ i, (final.task i).closed) ∧ final.shared.1 .txBytes = 831 ∧
      final.shared.2 = {5} := by
  have seen : (exec (move turns) (launch pair) interleaved).map (fun s =>
      ([(s.pending true).length,(s.pending false).length,s.shared.1 .txBytes],
        [(s.task true).closed,(s.task false).closed],s.shared.2)) =
      some ([0,0,831],[true,true],{5}) := by
    decide +kernel
  obtain ⟨final,ran,ends⟩ := Option.map_eq_some_iff.mp seen
  simp only [Prod.mk.injEq,List.cons.injEq,List.length_eq_zero_iff,and_true] at ends
  obtain ⟨⟨first,second,bytes⟩,⟨closed,closed'⟩,latencies⟩ := ends
  refine ⟨final,ran,?_,?_,bytes,latencies⟩
  · intro i
    cases i with
    | false => exact second
    | true => exact first
  · intro i
    cases i with
    | false => exact closed'
    | true => exact closed

theorem counters_account_pair : ∃ final, exec (move turns) (launch pair) interleaved = some final ∧
    total pair interleaved final .txBytes = 831 ∧ pool pair interleaved = {5} := by
  obtain ⟨final,ran,quiet,closed,bytes,latencies⟩ := interleaved_ends
  have account := (counters_account ran).2 quiet
  refine ⟨final,ran,?_,?_⟩
  · rw [← account.1,bytes]
  · rw [← account.2 closed,latencies]

section row
variable {out : SrtpOut} {srtp : SrtpCtx} {ι κ : Type} [DecidableEq ι] [Fintype ι] [DecidableEq κ]
  [Fintype κ] {pubs : ι → CapArgs out srtp} {subs : κ → CapArgs out srtp}
  {pubMoves : List (Move ι CapEvent)} {subMoves : List (Move κ CapEvent)}
  {pubFinal : System ι (CapBot out srtp) Shared} {subFinal : System κ (CapBot out srtp) Shared}

def active (subMoves : List (Move κ CapEvent)) : Finset κ :=
  Finset.univ.filter (fun i => media (own i subMoves) ≠ [])

theorem total_active : total subs subMoves subFinal .activeSubs = (active subMoves).card := by
  rw [active,Finset.card_filter]
  apply Finset.sum_congr rfl
  intro i _
  rw [tally,ite_not]

/-- What a row tells, in terms of the bots: how many received at all, what part of
their packets was lost, that the publishers got 99 of 100 packets out and nine of
ten subscribers were reached when it calls the bots healthy, and the latencies. -/
structure RowTells (n : Nat) (res : ResStats) (sending receiving : Counter → Nat)
    (reached : Nat) (lats : Multiset Nat) (row : Row) : Prop where
  active : row.active = reached
  loss : row.lossPct*(receiving .rxPackets + receiving .rxLost : Nat) = 100*receiving .rxLost
  percentage : 0 ≤ row.lossPct ∧ row.lossPct ≤ 100
  healthy : row.botHealthy ↔
    99*sending .txAttempt ≤ 100*sending .txOk ∧ res.selfCpuAvg < res.cores*90 ∧ 9*n ≤ 10*reached
  latencies : lats ≠ 0 → Describes ⟨row.latAvg,row.latP95,row.latMax⟩ lats

/-- The row of a measurement, over every interleaving in the group of publishers
and in the group of subscribers; in a conference the two are one group. -/
theorem row_tells (n : Nat) (elapsed : ℚ) (res : ResStats)
    (pubRan : exec (move turns) (launch pubs) pubMoves = some pubFinal) (pubQuiet : Quiet pubFinal)
    (subRan : exec (move turns) (launch subs) subMoves = some subFinal) (subQuiet : Quiet subFinal)
    (closed : ∀ i, (subFinal.task i).closed) :
    RowTells n res (total pubs pubMoves pubFinal) (total subs subMoves subFinal)
      (active subMoves).card (pool subs subMoves)
      (runOneRow n elapsed res pubFinal.shared subFinal.shared) := by
  have sending := settled_account pubRan pubQuiet
  have receiving := settled_account subRan subQuiet
  have reached : subFinal.shared.1 .activeSubs = (active subMoves).card := by
    rw [receiving.1,total_active]
  rw [runOneRow,sending.1,receiving.2 closed]
  have loss := lossPct_of (subFinal.shared.1 .rxPackets) (subFinal.shared.1 .rxLost)
  refine ⟨reached,?_,loss.2,?_,?_⟩
  · rw [← receiving.1]
    exact loss.1
  · simp only [row,Bool.and_eq_true,Bool.or_eq_true,decide_eq_true_eq,reached]
    constructor
    · intro healthy
      obtain ⟨⟨sent,headroom⟩,heard⟩ := healthy
      exact ⟨by omega,headroom,by omega⟩
    · intro healthy
      obtain ⟨sent,headroom,heard⟩ := healthy
      exact ⟨⟨by omega,headroom⟩,by omega⟩
  · intro some
    exact latStats_describes some

end row

theorem row_tells_pair : ∃ final, exec (move turns) (launch pair) interleaved = some final ∧
    (runOneConfRow 2 1 { cores := 1 } final.shared).latMax = 5 := by
  obtain ⟨final,ran,quiet,closed,_,latencies⟩ := interleaved_ends
  have tells := row_tells 2 1 { cores := 1 } ran quiet ran quiet closed
  have pooled : pool pair interleaved = {5} := by
    rw [← (settled_account ran quiet).2 closed,latencies]
  have max := (tells.latencies (by rw [pooled]; exact Multiset.singleton_ne_zero 5)).max
  rw [pooled,Multiset.mem_singleton] at max
  exact ⟨final,ran,max⟩

/-- The same work of each bot, scheduled in two ways, ends in the same row. -/
theorem rows_agree {out : SrtpOut} {srtp : SrtpCtx} {ι : Type} [DecidableEq ι] [Fintype ι]
    {bots : ι → CapArgs out srtp} {moves others : List (Move ι CapEvent)}
    {first second : System ι (CapBot out srtp) Shared} (n : Nat) (elapsed : ℚ) (res : ResStats)
    (ran : exec (move turns) (launch bots) moves = some first) (quiet : Quiet first)
    (other : exec (move turns) (launch bots) others = some second) (quiet' : Quiet second)
    (same : ∀ i, own i moves = own i others) :
    runOneConfRow n elapsed res first.shared = runOneConfRow n elapsed res second.shared := by
  have agree := (schedules_agree turns ran other same).1
  rw [settled_quiet quiet,settled_quiet quiet'] at agree
  rw [agree]

def inTurn : List (Move Bool CapEvent) :=
  [.act true (.vTick 7 true),.add true,.add true,.add true,.act true (.aTick false),.add true,
    .act true .deadline,
    .act false (.datagram ⟨0,20,[0x80,96,0,0,0,0,0,0,0,0,0,7,15] ++ List.replicate 17 0⟩),
    .add false,.add false,.add false,.act false .deadline,.add false]

theorem rows_agree_inTurn : ∃ first second,
    exec (move turns) (launch pair) interleaved = some first ∧
      exec (move turns) (launch pair) inTurn = some second ∧
      runOneConfRow 2 1 {} first.shared = runOneConfRow 2 1 {} second.shared := by
  obtain ⟨first,ran,quiet,_⟩ := interleaved_ends
  have seen : (exec (move turns) (launch pair) inTurn).map (fun s =>
      [(s.pending true).length,(s.pending false).length]) = some [0,0] := by
    decide +kernel
  obtain ⟨second,other,ends⟩ := Option.map_eq_some_iff.mp seen
  simp only [List.cons.injEq,List.length_eq_zero_iff,and_true] at ends
  refine ⟨first,second,ran,other,?_⟩
  apply rows_agree 2 1 {} ran quiet other
  · intro i
    cases i with
    | false => exact ends.2
    | true => exact ends.1
  · intro i
    cases i <;> rfl

end Oxlab.CapacityRun
