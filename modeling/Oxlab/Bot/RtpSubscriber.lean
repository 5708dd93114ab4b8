import Mathlib.Algebra.Order.Ring.Abs
import Mathlib.Algebra.Order.Ring.Rat
import Mathlib.Tactic.Ring
import Oxlab.Common.Media
import Oxlab.Library.Serial
import Oxlab.Library.Table

/-! Receive metrics of one bot: one record an SSRC, and their totals.
Sequence numbers and timestamps keep their widths. The 64-bit counters are
natural numbers: one arrival adds less than 2^15, so no run short of 2^49
packets could tell them apart. Jitter is kept in exact arithmetic. -/
namespace Oxlab.Bot.RtpSubscriber
open Common.Media Library

def asI16 (x : UInt16) : Int := x.toInt16.toInt

structure SsrcRecvMetrics where
  ssrc : UInt32
  pt : UInt8
  packetsReceived : Nat
  packetsLost : Nat
  outOfOrder : Nat
  jitter : ℚ
  lastSeq : UInt16
  maxSeqSeen : UInt16
  firstSeq : UInt16
  initialized : Bool
  lastArrival : Instant
  lastRtpTs : UInt32
  clockRate : UInt32

namespace SsrcRecvMetrics

def new (now : Instant) (ssrc : UInt32) (pt : UInt8) : SsrcRecvMetrics where
  ssrc := ssrc
  pt := pt
  packetsReceived := 0
  packetsLost := 0
  outOfOrder := 0
  jitter := 0
  lastSeq := 0
  maxSeqSeen := 0
  firstSeq := 0
  initialized := false
  lastArrival := now
  lastRtpTs := 0
  clockRate := if pt = 111 then 48000 else 90000

def update (m : SsrcRecvMetrics) (now : Instant) (seq : UInt16) (ts : UInt32) : SsrcRecvMetrics :=
  if !m.initialized then
    { m with
      packetsReceived := m.packetsReceived + 1
      firstSeq := seq
      lastSeq := seq
      maxSeqSeen := seq
      lastArrival := now
      lastRtpTs := ts
      initialized := true }
  else
    let expected := m.lastSeq + 1
    let diff := asI16 (seq - expected)
    let fwd := asI16 (seq - m.maxSeqSeen)
    let arrivalDiffMs : ℚ := ((now - m.lastArrival : Nat) : ℚ) / 1000000
    let arrivalDiffTicks := arrivalDiffMs * m.clockRate.toNat / 1000
    let rtpDiff : ℚ := (ts - m.lastRtpTs).toNat
    let d := |arrivalDiffTicks - rtpDiff|
    { m with
      packetsReceived := m.packetsReceived + 1
      packetsLost := if 0 < diff then m.packetsLost + diff.toNat else m.packetsLost
      outOfOrder :=
        if 0 < diff then m.outOfOrder
        else if diff < -1 then m.outOfOrder + 1
        else m.outOfOrder
      maxSeqSeen := if 0 < fwd then seq else m.maxSeqSeen
      jitter := m.jitter + (d - m.jitter) / 16
      lastSeq := seq
      lastArrival := now
      lastRtpTs := ts }

end SsrcRecvMetrics

theorem asI16_sub (a b : UInt16) : asI16 (a-b) = Serial.distance a.toBitVec b.toBitVec := rfl

theorem asI16_cases (a b : UInt16) :
    asI16 (a-b) = if (a.toNat : Int) - b.toNat < -32768 then (a.toNat : Int) - b.toNat + 65536
      else if 32768 ≤ (a.toNat : Int) - b.toNat then (a.toNat : Int) - b.toNat - 65536
      else (a.toNat : Int) - b.toNat := by
  have la := a.toNat_lt
  have lb := b.toNat_lt
  rw [asI16_sub,Serial.distance_bmod,UInt16.toNat_toBitVec,UInt16.toNat_toBitVec,Int.bmod_def]
  split_ifs <;> omega

section update
variable (m : SsrcRecvMetrics) (now : Instant) (seq : UInt16) (ts : UInt32)

@[simp] theorem update_packetsReceived :
    (m.update now seq ts).packetsReceived = m.packetsReceived + 1 := by
  unfold SsrcRecvMetrics.update
  split <;> rfl

@[simp] theorem update_initialized : (m.update now seq ts).initialized = true := by
  unfold SsrcRecvMetrics.update
  split
  next => rfl
  next live => simpa using live

@[simp] theorem update_lastSeq : (m.update now seq ts).lastSeq = seq := by
  unfold SsrcRecvMetrics.update
  split <;> rfl

@[simp] theorem update_ssrc : (m.update now seq ts).ssrc = m.ssrc := by
  unfold SsrcRecvMetrics.update
  split <;> rfl

@[simp] theorem update_lastArrival : (m.update now seq ts).lastArrival = now := by
  unfold SsrcRecvMetrics.update
  split <;> rfl

@[simp] theorem update_lastRtpTs : (m.update now seq ts).lastRtpTs = ts := by
  unfold SsrcRecvMetrics.update
  split <;> rfl

@[simp] theorem update_clockRate : (m.update now seq ts).clockRate = m.clockRate := by
  unfold SsrcRecvMetrics.update
  split <;> rfl

theorem update_jitter (live : m.initialized = true) : (m.update now seq ts).jitter =
    m.jitter + (|((now - m.lastArrival : Nat) : ℚ) / 1000000 * m.clockRate.toNat / 1000
      - (ts - m.lastRtpTs).toNat| - m.jitter) / 16 := by
  simp only [SsrcRecvMetrics.update,live,Bool.not_true,Bool.false_eq_true,if_false]

theorem update_first (fresh : m.initialized = false) :
    (m.update now seq ts).packetsLost = m.packetsLost ∧
      (m.update now seq ts).outOfOrder = m.outOfOrder ∧
      (m.update now seq ts).maxSeqSeen = seq := by
  simp [SsrcRecvMetrics.update,fresh]

theorem update_later (live : m.initialized = true) :
    (m.update now seq ts).packetsLost =
        m.packetsLost + (asI16 (seq - (m.lastSeq+1))).toNat ∧
      (m.update now seq ts).outOfOrder =
        m.outOfOrder + (if asI16 (seq - (m.lastSeq+1)) < -1 then 1 else 0) ∧
      (m.update now seq ts).maxSeqSeen =
        if 0 < asI16 (seq - m.maxSeqSeen) then seq else m.maxSeqSeen := by
  simp only [SsrcRecvMetrics.update,live,Bool.not_true,Bool.false_eq_true,if_false]
  refine ⟨?_,?_,trivial⟩
  · split_ifs <;> omega
  · split_ifs <;> omega

end update

structure RecvSnapshot where
  totalPackets : Nat
  totalLost : Nat
  totalOoo : Nat
  ssrcCount : Nat
  streams : List SsrcRecvMetrics

abbrev RecvMetricsStore := Table UInt32 SsrcRecvMetrics

namespace RecvMetricsStore

def update (store : RecvMetricsStore) (now : Instant) (ssrc : UInt32) (pt : UInt8)
    (seq : UInt16) (ts : UInt32) : RecvMetricsStore :=
  let entry := (store.lookup ssrc).getD (SsrcRecvMetrics.new now ssrc pt)
  store.insert ssrc (entry.update now seq ts)

def snapshot (store : RecvMetricsStore) : RecvSnapshot :=
  let streams := Table.values store
  { totalPackets := (streams.map (·.packetsReceived)).sum
    totalLost := (streams.map (·.packetsLost)).sum
    totalOoo := (streams.map (·.outOfOrder)).sum
    ssrcCount := streams.length
    streams := streams }

end RecvMetricsStore

structure RtpMini where
  pt : UInt8
  seq : UInt16
  ts : UInt32
  ssrc : UInt32
  marker : Bool
  deriving DecidableEq

def parseRtpMini (pkt : Bytes) : Option RtpMini :=
  if pkt.length < 12 then none
  else some
    { marker := byteAt pkt 1 &&& 0x80 ≠ 0
      pt := byteAt pkt 1 &&& 0x7F
      seq := u16At pkt 2
      ts := u32At pkt 4
      ssrc := u32At pkt 8 }

end Oxlab.Bot.RtpSubscriber
