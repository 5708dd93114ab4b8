import Oxlab.CapacityRun
import Oxlab.WorkerShares

/-! The packets of a distributed measurement.
A worker loads each counter at the start and at the end of its window while its
bots go on counting, and reports the difference. A bot is at most one packet
behind what it has handled, so a report is off by at most one packet a bot. -/
namespace Oxlab.MeasureWindow
open Common.Media Library.Run Library.SharedCounters Bot.Cap Cli.Distributed CapacityRun

section window
variable {out : SrtpOut} {srtp : SrtpCtx} {ι : Type} [DecidableEq ι] [Fintype ι]

/-- A run of a worker's bots to the first load of a counter, and on to the second. -/
structure Window (bots : ι → CapArgs out srtp) where
  early : List (Move ι CapEvent)
  window : List (Move ι CapEvent)
  before : System ι (CapBot out srtp) Shared
  after : System ι (CapBot out srtp) Shared
  loaded : exec (move turns) (launch bots) early = some before
  ran : exec (move turns) before window = some after

namespace Window
variable {bots : ι → CapArgs out srtp} (w : Window bots)

/-- The difference the worker reports; the subtraction saturates. -/
def delta (counter : Counter) : Nat := w.after.shared.1 counter - w.before.shared.1 counter

/-- The media packets that the bots handled in the window. -/
def handled : Nat := ∑ i, (media (own i w.window)).length

end Window

def readCounter (counter : Counter) : Shared →+ Nat where
  toFun := fun shared => shared.1 counter
  map_zero' := rfl
  map_add' := fun _ _ => rfl

theorem readCounter_fetchAdd (counter wanted : Counter) (n : Nat) :
    readCounter wanted (fetchAdd counter n) = if wanted = counter then n else 0 :=
  fetchAdd_fst counter wanted n

theorem turn_packets {bot : CapBot out srtp} {e : CapEvent}
    {done : CapBot out srtp × List Shared} (turned : bot.turn e = some done) :
    readCounter .rxPackets done.2.sum ≤ 1 := by
  obtain ⟨_,⟨_,_,pkt,isOk,_,rfl⟩ | ⟨d,_,rfl⟩ | ⟨_,rfl⟩⟩ := turn_cases turned
  · simp [CapBot.tick,sendAdds_sum,readCounter_fetchAdd]
  · rw [receive_sum,map_add,readCounter_fetchAdd]
    by_cases media : isRtpDatagram d.buf
    · have undecrypted : readCounter .rxPackets (decryptAdds bot.recvMode bot.sub d.buf).sum = 0 := by
        unfold decryptAdds
        cases bot.recvMode with
        | count => rfl
        | full => cases (srtp.decryptRtp bot.sub.srtp d.buf).1 <;> rfl
      simp [handleRtpAdds_sum bot.recvMode bot.sub media,readCounter_fetchAdd,undecrypted]
    · rw [handleRtpAdds_other bot.recvMode bot.sub media]
      simp
  · rw [close_sum]
    exact Nat.zero_le 1

theorem media_append (first second : List CapEvent) :
    media (first ++ second) = media first ++ media second := by
  rw [media,heard,List.filterMap_append,List.filter_append]
  rfl

namespace Window
variable {bots : ι → CapArgs out srtp} (w : Window bots)

theorem due_packets {s : System ι (CapBot out srtp) Shared} {moves : List (Move ι CapEvent)}
    (ran : exec (move turns) (launch bots) moves = some s) :
    s.shared.1 .rxPackets + ∑ i, readCounter .rxPackets (due s i) =
        ∑ i, (media (own i moves)).length ∧
      ∑ i, readCounter .rxPackets (due s i) ≤ Fintype.card ι := by
  have settled_sum := congrArg (readCounter .rxPackets) (settled_shares ran).1
  rw [settled,map_add,map_sum,map_sum] at settled_sum
  refine ⟨settled_sum,?_⟩
  have each (i : ι) : readCounter .rxPackets (due s i) ≤ 1 :=
    due_bounded turns (readCounter .rxPackets) 1 (fun _ _ _ _ => turn_packets) moves (launch bots) s
      (fun _ => rfl) ran i
  have sum := Finset.sum_le_card_nsmul Finset.univ _ 1 (fun i _ => each i)
  rwa [smul_eq_mul,Nat.mul_one] at sum

/-- The saturation never bites, and the difference is the packets handled in the
window up to one a bot. -/
theorem delta_packets : w.delta .rxPackets ≤ w.handled + Fintype.card ι ∧
    w.handled ≤ w.delta .rxPackets + Fintype.card ι := by
  have grown := read_grows turns (readCounter .rxPackets) w.window w.before w.after w.ran
  obtain ⟨before,late⟩ := due_packets w.loaded
  have whole : exec (move turns) (launch bots) (w.early ++ w.window) = some w.after := by
    rw [exec_append,w.loaded,Option.bind_some,w.ran]
  obtain ⟨after,later⟩ := due_packets whole
  have split : ∑ i, (media (own i (w.early ++ w.window))).length =
      ∑ i, (media (own i w.early)).length + w.handled := by
    rw [handled,← Finset.sum_add_distrib]
    apply Finset.sum_congr rfl
    intro i _
    rw [own_append,media_append,List.length_append]
  rw [split] at after
  change w.before.shared.1 .rxPackets ≤ w.after.shared.1 .rxPackets at grown
  rw [delta]
  omega

end Window

end window

section workers
variable {out : SrtpOut} {srtp : SrtpCtx}

/-- A worker process: each counter has a window of its own, as the loads follow one
another, and the active bots are read last. -/
structure WorkerRun (out : SrtpOut) (srtp : SrtpCtx) where
  args : WorkerArgs
  bots : Fin args.count → CapArgs out srtp
  packets : Window bots
  lost : Window bots
  bytes : Window bots
  later : List (Move (Fin args.count) CapEvent)
  final : System (Fin args.count) (CapBot out srtp) Shared
  ended : exec (move turns) (launch bots) later = some final

structure WorkerReport where
  active : Nat := 0
  rxPackets : Nat := 0
  rxLost : Nat := 0
  rxBytes : Nat := 0

def WorkerRun.report (run : WorkerRun out srtp) : WorkerReport where
  active := run.final.shared.1 .activeSubs
  rxPackets := run.packets.delta .rxPackets
  rxLost := run.lost.delta .rxLost
  rxBytes := run.bytes.delta .rxBytes

/-- The coordinator adds up the reports it can read. -/
def collect (reports : List (Option WorkerReport)) : WorkerReport :=
  reports.foldl (fun sum report =>
    match report with
    | none => sum
    | some r =>
      { active := sum.active + r.active
        rxPackets := sum.rxPackets + r.rxPackets
        rxLost := sum.rxLost + r.rxLost
        rxBytes := sum.rxBytes + r.rxBytes }) {}

theorem collect_sum (reports : List (Option WorkerReport)) :
    (collect reports).active = ((reports.filterMap id).map (·.active)).sum ∧
      (collect reports).rxPackets = ((reports.filterMap id).map (·.rxPackets)).sum := by
  induction reports using List.reverseRecOn with
  | nil => exact ⟨rfl,rfl⟩
  | append_singleton reports last ih =>
    rw [collect,List.foldl_append]
    change (List.foldl _ (collect reports) _).active = _ ∧ (List.foldl _ (collect reports) _).rxPackets = _
    cases last with
    | none => simpa using ih
    | some r => simp [ih.1,ih.2]

theorem handedOut_le {total workers fullCount : Nat} {children : List WorkerArgs}
    (spawned : runDistributed total workers fullCount = some children) :
    handedOut children ≤ total := by
  rcases workers.eq_zero_or_pos with rfl | positive
  · cases Option.some.inj spawned
    exact Nat.zero_le total
  · obtain ⟨others,last,sum⟩ := WorkerShares.runDistributed_last total workers fullCount positive
    rw [last] at spawned
    have counted : workerCount total workers (workers - 1) =
        checkedSub total (perWorker total workers*(workers - 1)) := if_pos rfl
    by_cases fits : perWorker total workers*(workers - 1) ≤ total
    · rw [checkedSub,if_pos fits] at counted
      obtain ⟨next,made,more⟩ := spawn_some total workers fullCount others counted
      rw [made] at spawned
      cases Option.some.inj spawned
      rw [more,sum,Nat.mul_comm]
      omega
    · rw [checkedSub,if_neg fits] at counted
      rw [spawn_none total workers fullCount others counted] at spawned
      contradiction

/-- What the coordinator reads: each worker comes with whether its report arrives. -/
def reports (runs : List (WorkerRun out srtp × Bool)) : List (Option WorkerReport) :=
  runs.map (fun run => if run.2 then some run.1.report else none)

/-- The media packets that the reporting workers' bots handled in their windows. -/
def handledIn (runs : List (WorkerRun out srtp × Bool)) : Nat :=
  ((runs.filter (·.2)).map (fun run => run.1.packets.handled)).sum

theorem report_active (run : WorkerRun out srtp) : run.report.active ≤ run.args.count := by
  refine (shared_le_total run.ended .activeSubs).trans ?_
  rw [total_active]
  simpa using Finset.card_le_univ (active run.later)

theorem reports_cons (run : WorkerRun out srtp) (arrives : Bool)
    (rest : List (WorkerRun out srtp × Bool)) :
    (reports ((run,arrives)::rest)).filterMap id =
        (if arrives then [run.report] else []) ++ (reports rest).filterMap id ∧
      handledIn ((run,arrives)::rest) =
        (if arrives then run.packets.handled else 0) + handledIn rest := by
  cases arrives with
  | false => exact ⟨rfl,(Nat.zero_add _).symm⟩
  | true => exact ⟨rfl,rfl⟩

theorem reports_packets (runs : List (WorkerRun out srtp × Bool)) :
    let got := (reports runs).filterMap id
    let bots := (runs.map (·.1.args.count)).sum
    (got.map (·.active)).sum ≤ bots ∧ (got.map (·.rxPackets)).sum ≤ handledIn runs + bots ∧
      handledIn runs ≤ (got.map (·.rxPackets)).sum + bots := by
  induction runs with
  | nil => simp [reports,handledIn]
  | cons run rest ih =>
    obtain ⟨run,arrives⟩ := run
    obtain ⟨active,above,below⟩ := ih
    obtain ⟨got,handled⟩ := reports_cons run arrives rest
    rw [got,handled]
    have one := report_active run
    obtain ⟨more,fewer⟩ := run.packets.delta_packets
    rw [Fintype.card_fin] at more fewer
    have packets : run.report.rxPackets = run.packets.delta .rxPackets := rfl
    simp only [List.map_cons,List.sum_cons,List.map_append,List.sum_append]
    split
    next => simp only [List.map_cons,List.map_nil,List.sum_singleton]; omega
    next => simp only [List.map_nil,List.sum_nil]; omega

end workers

def lone (_ : Fin 1) : CapArgs tagging FastPath.untagged := ⟨"w0-sub-0",.subscriber,.count,(),()⟩

def late : Window lone :=
  let window := [.act 0 (.datagram ⟨0,20,[0x80,96] ++ List.replicate 20 0⟩)]
  { early := []
    window := window
    before := launch lone
    after := (exec (move turns) (launch lone) window).get (by decide +kernel)
    loaded := rfl
    ran := (Option.some_get _).symm }

def behind : WorkerRun tagging FastPath.untagged where
  args := ⟨1,30,0⟩
  bots := lone
  packets := late
  lost := late
  bytes := late
  later := []
  final := launch lone
  ended := rfl

end Oxlab.MeasureWindow
