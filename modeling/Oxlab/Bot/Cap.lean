import Oxlab.Library.Table
import Oxlab.Common.Media

/-! The receive path of a capacity bot: the plain header is counted, and a full
receiver also decrypts for the latency. Latencies are whole microseconds. -/
namespace Oxlab.Bot.Cap
open Common.Media Library

inductive RecvMode
  | count
  | full
  deriving DecidableEq

structure CapCounters where
  rxPackets : Nat := 0
  rxBytes : Nat := 0
  rxLost : Nat := 0
  rxDecryptFail : Nat := 0
  deriving DecidableEq

/-- What `handleRtp` is handed by reference. -/
structure CapSub (srtp : SrtpCtx) where
  srtp : srtp.Ctx
  lastSeq : Table UInt32 UInt16 := ∅
  counters : CapCounters := {}
  localLat : List Nat := []

/-- The send time over the last eight bytes, little-endian. -/
def embedSendTs (nowMicros : UInt64) (pkt : Bytes) : Bytes :=
  if 8 ≤ pkt.length then
    pkt.take (pkt.length - 8) ++ (BigEndian.encode 8 nowMicros.toNat).reverse
  else pkt

def sendMicros (plain : Bytes) : Nat :=
  BigEndian.decode (plain.drop (plain.length - 8)).reverse

def latencySample (plain : Bytes) (nowMicros : Nat) : Option Nat :=
  let vpt := if 1 < plain.length then byteAt plain 1 &&& 0x7F else 0
  if vpt ≠ 111 ∧ 8 ≤ plain.length ∧ 0 < sendMicros plain then
    let lat := nowMicros - sendMicros plain
    if 0 < lat ∧ lat < 10000000 then some lat else none
  else none

def measureLatency (srtp : SrtpCtx) (sub : CapSub srtp) (nowMicros : Nat) (pkt : Bytes) :
    CapSub srtp :=
  match srtp.decryptRtp sub.srtp pkt with
  | (some plain,ctx) =>
    { sub with srtp := ctx, localLat := sub.localLat ++ (latencySample plain nowMicros).toList }
  | (none,ctx) =>
    { sub with
      srtp := ctx
      counters := { sub.counters with rxDecryptFail := sub.counters.rxDecryptFail + 1 } }

def seqGap (seq : UInt16) : Option UInt16 → Nat
  | none => 0
  | some prev =>
    let diff := (seq - (prev+1)).toInt16.toInt
    if 0 < diff then diff.toNat else 0

def handleRtp (srtp : SrtpCtx) (mode : RecvMode) (sub : CapSub srtp) (nowMicros : Nat)
    (pkt : Bytes) : Bool × CapSub srtp :=
  if pkt.length < 12 || !isRtp (byteAt pkt 0) then (false,sub)
  else
    let pt := byteAt pkt 1 &&& 0x7F
    if 72 ≤ pt && pt ≤ 79 then (false,sub)
    else
      let seq := u16At pkt 2
      let ssrc := u32At pkt 8
      let sub := { sub with
        lastSeq := sub.lastSeq.insert ssrc seq
        counters := { sub.counters with
          rxPackets := sub.counters.rxPackets + 1
          rxBytes := sub.counters.rxBytes + pkt.length
          rxLost := sub.counters.rxLost + seqGap seq (sub.lastSeq.lookup ssrc) } }
      match mode with
      | .count => (true,sub)
      | .full => (true,measureLatency srtp sub nowMicros pkt)

structure Reading where
  rxPackets : Nat
  rxBytes : Nat
  rxLost : Nat
  lastSeq : Table UInt32 UInt16

def CapSub.reading {srtp : SrtpCtx} (sub : CapSub srtp) : Reading where
  rxPackets := sub.counters.rxPackets
  rxBytes := sub.counters.rxBytes
  rxLost := sub.counters.rxLost
  lastSeq := sub.lastSeq

def isRtpDatagram (pkt : Bytes) : Bool :=
  12 ≤ pkt.length && isRtp (byteAt pkt 0) &&
    !(72 ≤ byteAt pkt 1 &&& 0x7F && byteAt pkt 1 &&& 0x7F ≤ 79)

def Reading.take (r : Reading) (pkt : Bytes) : Reading :=
  if isRtpDatagram pkt then
    { rxPackets := r.rxPackets + 1
      rxBytes := r.rxBytes + pkt.length
      rxLost := r.rxLost + seqGap (u16At pkt 2) (r.lastSeq.lookup (u32At pkt 8))
      lastSeq := r.lastSeq.insert (u32At pkt 8) (u16At pkt 2) }
  else r

theorem embedSendTs_append (nowMicros : UInt64) (front : Bytes) {back : Bytes}
    (long : 8 ≤ back.length) :
    embedSendTs nowMicros (front ++ back) = front ++ embedSendTs nowMicros back := by
  have room : 8 ≤ (front ++ back).length := by rw [List.length_append]; omega
  have start : (front ++ back).length - 8 = front.length + (back.length - 8) := by
    rw [List.length_append]
    omega
  rw [embedSendTs,if_pos room,embedSendTs,if_pos long,start,List.take_length_add_append,
    List.append_assoc]

theorem sendMicros_embed (nowMicros : UInt64) {pkt : Bytes} (long : 8 ≤ pkt.length) :
    sendMicros (embedSendTs nowMicros pkt) = nowMicros.toNat := by
  have ends : (pkt.take (pkt.length - 8) ++ (BigEndian.encode 8 nowMicros.toNat).reverse).length - 8 =
      (pkt.take (pkt.length - 8)).length := by
    rw [List.length_append,List.length_reverse,BigEndian.encode_length]
    omega
  rw [sendMicros,embedSendTs,if_pos long,ends,List.drop_left,List.reverse_reverse,
    BigEndian.decode_encode]
  exact Nat.mod_eq_of_lt nowMicros.toNat_lt

theorem measureLatency_reading (srtp : SrtpCtx) (sub : CapSub srtp) (nowMicros : Nat)
    (pkt : Bytes) : (measureLatency srtp sub nowMicros pkt).reading = sub.reading := by
  unfold measureLatency
  split <;> rfl

theorem handleRtp_reading (srtp : SrtpCtx) (mode : RecvMode) (sub : CapSub srtp)
    (nowMicros : Nat) (pkt : Bytes) :
    (handleRtp srtp mode sub nowMicros pkt).2.reading = sub.reading.take pkt := by
  by_cases plain : isRtpDatagram pkt
  · have sized : ¬(pkt.length < 12 || !isRtp (byteAt pkt 0)) := by
      simp only [isRtpDatagram,Bool.and_eq_true,decide_eq_true_eq] at plain
      simp [plain.1.2,plain.1.1]
    have media : ¬(72 ≤ byteAt pkt 1 &&& 0x7F && byteAt pkt 1 &&& 0x7F ≤ 79) := by
      simp only [isRtpDatagram,Bool.and_eq_true,Bool.not_eq_true'] at plain
      rw [plain.2]
      decide
    simp only [handleRtp,Reading.take,plain,if_true,sized,media]
    cases mode with
    | count => rfl
    | full => exact measureLatency_reading ..
  · rw [Reading.take,if_neg plain]
    simp only [handleRtp]
    split
    next => rfl
    next sized =>
      split
      next => rfl
      next media =>
        refine absurd ?_ plain
        simp only [Bool.or_eq_true,decide_eq_true_eq,Bool.not_eq_true',not_or,Nat.not_lt,
          Bool.not_eq_false] at sized
        simp only [isRtpDatagram,sized.2,Bool.and_true,Bool.and_eq_true,decide_eq_true_eq,
          Bool.not_eq_true']
        exact ⟨sized.1,by simpa using media⟩

end Oxlab.Bot.Cap
