import Oxlab.Bench.Media
import Oxlab.Library.Table

/-! The conference benchmark: everyone sends, everyone receives, each receiver keeps
one tracker a sender. -/
namespace Oxlab.Bench.Conference
open Common.Media Library Cli.Capacity Bench.Media

def buildConferenceRtp (ssrc : UInt32) (seq : UInt16) (timestamp : UInt32) (totalSize : Nat)
    (senderId : UInt16) (nowMicros : UInt64) : Bytes :=
  let payloadSize := if 12 < totalSize then totalSize - 12 else 0
  let pkt := fakeHeader ssrc seq timestamp
  if 10 ≤ payloadSize then
    resize (pkt ++ leBytes 2 senderId.toNat ++ leBytes 8 nowMicros.toNat) (12 + payloadSize)
  else resize pkt (12 + payloadSize)

/-- Without a time from frame to frame the task stops at once. -/
def conferenceSendLoop (fps : UInt32) (taken : List Tick) : Option Nat :=
  if frameMicros fps = 0 then none else some (SendLoop.ticks fps taken).txPackets

structure SenderTracker where
  expectedSeq : Option UInt16 := none
  rxPackets : Nat := 0
  lost : Nat := 0
  latencies : List Nat := []
  deriving DecidableEq

def SenderTracker.new : SenderTracker := {}

def SenderTracker.take (t : SenderTracker) (plaintext : Bytes) (nowMicros : Nat) : SenderTracker :=
  let seq := u16At plaintext 2
  { expectedSeq := some (seq+1)
    rxPackets := t.rxPackets + 1
    lost := t.lost + gapLost seq t.expectedSeq
    latencies := t.latencies ++ (latencyAt 14 plaintext nowMicros).toList }

structure RecvResult where
  rxPackets : Nat
  rxLost : Nat
  fromCount : Nat
  latencies : List Nat
  deriving DecidableEq

structure RecvLoop (srtp : SrtpCtx) where
  srtp : srtp.Ctx
  senders : Table UInt32 SenderTracker := ∅
  totalRecv : Nat := 0
  decryptFail : Nat := 0

namespace RecvLoop
variable {srtp : SrtpCtx}

/-- One datagram. A plaintext without a header stops the task. -/
def recv (s : RecvLoop srtp) (d : Datagram) : Option (RecvLoop srtp) :=
  let s := { s with totalRecv := s.totalRecv + 1 }
  if !isMedia d.buf then some s
  else
    match srtp.decryptRtp s.srtp d.buf with
    | (none,ctx) => some { s with srtp := ctx, decryptFail := s.decryptFail + 1 }
    | (some plaintext,ctx) =>
      if plaintext.length < 12 then none
      else
        let ssrc := u32At plaintext 8
        let tracker := (s.senders.lookup ssrc).getD .new
        some { s with
          srtp := ctx
          senders := s.senders.insert ssrc (tracker.take plaintext d.micros) }

def result (s : RecvLoop srtp) : RecvResult where
  rxPackets := s.senders.weight (·.rxPackets)
  rxLost := s.senders.weight (·.lost)
  fromCount := s.senders.keys.length
  latencies := s.senders.values.flatMap (·.latencies)

end RecvLoop

def conferenceRecvLoop (srtp : SrtpCtx) (ctx : srtp.Ctx) (received : List Datagram) :
    Option RecvResult := do
  let s ← received.foldlM RecvLoop.recv ({ srtp := ctx } : RecvLoop srtp)
  return s.result

structure ParticipantResult where
  id : Nat
  txPackets : Nat
  rxPackets : Nat
  rxLost : Nat
  rxFromCount : Nat
  latency : LatStats

structure ConferenceResult where
  durationSecs : ℚ
  numParticipants : Nat
  totalStreams : Nat
  totalTx : Nat
  totalRx : Nat
  totalLost : Nat
  lossRate : ℚ
  inputPps : ℚ
  outputPps : ℚ
  inputMbps : ℚ
  outputMbps : ℚ
  latency : LatStats
  participants : List ParticipantResult

/-- What the two tasks of a participant came to; a task that stopped counts nothing. -/
structure Joined where
  tx : Option Nat
  rx : Option RecvResult

namespace Joined

def sent (j : Joined) : Nat := j.tx.getD 0

def got (j : Joined) : RecvResult := j.rx.getD ⟨0,0,0,[]⟩

def participant (id : Nat) (j : Joined) : ParticipantResult where
  id := id
  txPackets := j.sent
  rxPackets := j.got.rxPackets
  rxLost := j.got.rxLost
  rxFromCount := j.got.fromCount
  latency := sortedStats j.got.latencies

end Joined

/-- The report of a run with at least two participants. -/
def runConference (args : Args) (elapsed : ℚ) (handles : List Joined) : Option ConferenceResult :=
  let n := args.participants.toNat
  if n < 2 then none
  else
    let totalTx := (handles.map (·.sent)).sum
    let totalRx := (handles.map (·.got.rxPackets)).sum
    let totalLost := (handles.map (·.got.rxLost)).sum
    some
      { durationSecs := elapsed
        numParticipants := n
        totalStreams := n*(n-1)
        totalTx := totalTx
        totalRx := totalRx
        totalLost := totalLost
        lossRate := lossPct totalRx totalLost
        inputPps := totalTx/elapsed
        outputPps := totalRx/elapsed
        inputMbps := totalTx*args.pktSize*8/(elapsed*1000000)
        outputMbps := totalRx*args.pktSize*8/(elapsed*1000000)
        latency := sortedStats (handles.flatMap (·.got.latencies))
        participants := handles.mapIdx (fun i j => j.participant (i+1)) }

/-- The packets the report expects to be received. -/
def expectedTotalRx (r : ConferenceResult) : Nat := r.totalTx*(r.numParticipants - 1)

section packet
variable (ssrc : UInt32) (seq : UInt16) (timestamp : UInt32) (totalSize : Nat) (senderId : UInt16)
  (sent : UInt64)

theorem buildConferenceRtp_layout : ∃ rest,
    buildConferenceRtp ssrc seq timestamp totalSize senderId sent =
      fakeHeader ssrc seq timestamp ++ rest ∧
      ∀ nowMicros, latencyAt 14 (fakeHeader ssrc seq timestamp ++ rest) nowMicros =
        if 22 ≤ totalSize ∧ 0 < sent.toNat then some (nowMicros - sent.toNat) else none := by
  have layout := packet_layout ssrc seq timestamp totalSize sent (leBytes 2 senderId.toNat)
  simpa only [buildConferenceRtp,leBytes_length] using layout

end packet

namespace RecvLoop
variable {srtp : SrtpCtx}

/-- The plaintexts a receiver decrypts, each with the time it came. -/
def opened (ctx : srtp.Ctx) : List Datagram → List (Bytes × Nat)
  | [] => []
  | d::rest =>
    if isMedia d.buf then
      match srtp.decryptRtp ctx d.buf with
      | (some plaintext,ctx) => (plaintext,d.micros)::opened ctx rest
      | (none,ctx) => opened ctx rest
    else opened ctx rest

/-- A tracker is the fold of its sender's plaintexts. -/
def track (senders : Table UInt32 SenderTracker) (item : Bytes × Nat) : Table UInt32 SenderTracker :=
  Table.absorb (fun item => u32At item.1 8) (fun _ => SenderTracker.new)
    (fun t item => t.take item.1 item.2) senders item

theorem foldlM_recv (received : List Datagram) (s : RecvLoop srtp)
    (headers : ∀ item ∈ opened s.srtp received,12 ≤ item.1.length) :
    ∃ final, received.foldlM recv s = some final ∧
      final.senders = (opened s.srtp received).foldl track s.senders := by
  induction received generalizing s with
  | nil => exact ⟨s,rfl,rfl⟩
  | cons d rest ih =>
    rw [opened] at headers ⊢
    simp only [List.foldlM_cons]
    by_cases media : isMedia d.buf = true
    · rw [if_pos media] at headers ⊢
      cases decrypted : srtp.decryptRtp s.srtp d.buf with
      | mk plaintext ctx =>
        cases plaintext with
        | some plaintext =>
          simp only [decrypted] at headers ⊢
          have header : ¬plaintext.length < 12 := Nat.not_lt.mpr (headers _ List.mem_cons_self)
          have stepped : recv s d = some { s with
              totalRecv := s.totalRecv + 1
              srtp := ctx
              senders := track s.senders (plaintext,d.micros) } := by
            simp only [recv,media,decrypted,Bool.not_true,Bool.false_eq_true,if_false,header]
            rfl
          rw [stepped]
          exact ih _ (fun item member => headers item (List.mem_cons_of_mem _ member))
        | none =>
          simp only [decrypted] at headers ⊢
          have stepped : recv s d = some { s with
              totalRecv := s.totalRecv + 1
              srtp := ctx
              decryptFail := s.decryptFail + 1 } := by
            simp only [recv,media,decrypted,Bool.not_true,Bool.false_eq_true,if_false]
          rw [stepped]
          exact ih _ headers
    · rw [if_neg media] at headers ⊢
      have stepped : recv s d = some { s with totalRecv := s.totalRecv + 1 } := by
        simp only [recv,Bool.eq_false_iff.mpr media,Bool.not_false,if_true]
      rw [stepped]
      exact ih _ headers

end RecvLoop

end Oxlab.Bench.Conference
