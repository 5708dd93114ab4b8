import Oxlab.Cli.Capacity
import Oxlab.Common.Media

/-! The fan-out benchmark: one paced publisher and the receive loop of a subscriber.
Latencies are whole microseconds, rates are exact. -/
namespace Oxlab.Bench.Media
open Common.Media Library Cli.Capacity

structure Args where
  participants : UInt32
  subscribers : UInt32
  fps : UInt32
  pktSize : Nat

/-- Where a frame went: `bytes` of it to the socket, or nowhere. -/
inductive Sending
  | sent (bytes : Nat)
  | sendError
  | unencrypted
  deriving DecidableEq

structure Tick where
  micros : UInt64
  sending : Sending
  deriving DecidableEq

/-- Whether `send_to` took the frame. -/
def Tick.handed (t : Tick) : Bool :=
  match t.sending with
  | .sent _ => true
  | .sendError => false
  | .unencrypted => false

structure Datagram where
  micros : Nat
  buf : Bytes
  deriving DecidableEq

def resize (buf : Bytes) (len : Nat) : Bytes := (buf ++ List.replicate (len - buf.length) 0).take len

def leBytes (width value : Nat) : Bytes := (BigEndian.encode width value).reverse

def fakeHeader (ssrc : UInt32) (seq : UInt16) (timestamp : UInt32) : Bytes :=
  [0x80,96] ++ u16Bytes seq ++ u32Bytes timestamp ++ u32Bytes ssrc

def buildFakeRtp (ssrc : UInt32) (seq : UInt16) (timestamp : UInt32) (totalSize : Nat)
    (nowMicros : UInt64) : Bytes :=
  let payloadSize := if 12 < totalSize then totalSize - 12 else 0
  let pkt := fakeHeader ssrc seq timestamp
  if 8 ≤ payloadSize then resize (pkt ++ leBytes 8 nowMicros.toNat) (12 + payloadSize)
  else resize pkt (12 + payloadSize)

/-- The time from frame to frame, in whole microseconds. A ticker needs some. -/
def frameMicros (fps : UInt32) : Nat := 1000000/fps.toNat

structure SendLoop where
  seq : UInt16 := 0
  timestamp : UInt32 := 0
  txPackets : Nat := 0
  txBytes : Nat := 0
  heartbeats : Nat := 0
  deriving DecidableEq

namespace SendLoop

def beat (fps : UInt32) (s : SendLoop) : SendLoop :=
  if 0 < s.txPackets ∧ s.txPackets % (fps.toNat*25) = 0 then
    { s with heartbeats := s.heartbeats + 1 }
  else s

/-- The numbers advance whether or not the frame gets out. -/
def tick (fps : UInt32) (s : SendLoop) (t : Tick) : SendLoop :=
  let s := { s with seq := s.seq + 1, timestamp := s.timestamp + 90000/fps }
  match t.sending with
  | .sent bytes =>
    beat fps { s with txPackets := s.txPackets + 1, txBytes := s.txBytes + bytes }
  | .sendError => beat fps s
  | .unencrypted => beat fps s

def ticks (fps : UInt32) (taken : List Tick) : SendLoop := taken.foldl (tick fps) {}

end SendLoop

/-- What a receive loop adds to its losses: a gap of fewer than a thousand. -/
def gapLost (seq : UInt16) : Option UInt16 → Nat
  | none => 0
  | some exp =>
    if seq ≠ exp then
      let gap := (seq - exp).toNat
      if 0 < gap ∧ gap < 1000 then gap else 0
    else 0

/-- The latency of a packet with its send time at `start`, little-endian. -/
def latencyAt (start : Nat) (plaintext : Bytes) (nowMicros : Nat) : Option Nat :=
  if start + 8 ≤ plaintext.length then
    let sendUs := BigEndian.decode ((plaintext.drop start).take 8).reverse
    if 0 < sendUs then some (nowMicros - sendUs) else none
  else none

def isMedia (buf : Bytes) : Bool := isRtp (byteAt buf 0) && 12 ≤ buf.length

structure SubscriberLoop (srtp : SrtpCtx) where
  srtp : srtp.Ctx
  rxPackets : Nat := 0
  rxBytes : Nat := 0
  latencies : List Nat := []
  expectedSeq : Option UInt16 := none
  lost : Nat := 0
  totalRecv : Nat := 0
  nonRtp : Nat := 0
  decryptFail : Nat := 0

/-- One datagram. A plaintext too short to index stops the task. -/
def SubscriberLoop.recv {srtp : SrtpCtx} (s : SubscriberLoop srtp) (d : Datagram) :
    Option (SubscriberLoop srtp) :=
  let s := { s with totalRecv := s.totalRecv + 1 }
  if !isMedia d.buf then some { s with nonRtp := s.nonRtp + 1 }
  else
    match srtp.decryptRtp s.srtp d.buf with
    | (none,ctx) => some { s with srtp := ctx, decryptFail := s.decryptFail + 1 }
    | (some plaintext,ctx) =>
      if plaintext.length < 4 then none
      else
        let seq := u16At plaintext 2
        some { s with
          srtp := ctx
          rxPackets := s.rxPackets + 1
          rxBytes := s.rxBytes + d.buf.length
          lost := s.lost + gapLost seq s.expectedSeq
          expectedSeq := some (seq+1)
          latencies := s.latencies ++ (latencyAt 12 plaintext d.micros).toList }

structure SubDetail where
  id : String
  rxPackets : Nat
  rxBytes : Nat
  rxLost : Nat
  latency : LatStats

def sortedStats (latencies : List Nat) : LatStats :=
  latStats (latencies.insertionSort (fun a b => a ≤ b))

def subscriberRecvLoop (srtp : SrtpCtx) (id : String) (ctx : srtp.Ctx) (received : List Datagram) :
    Option SubDetail := do
  let s ← received.foldlM SubscriberLoop.recv ({ srtp := ctx } : SubscriberLoop srtp)
  return ⟨id,s.rxPackets,s.rxBytes,s.lost,sortedStats s.latencies⟩

structure BenchResult where
  durationSecs : ℚ
  txPackets : Nat
  txBytes : Nat
  txPps : ℚ
  txMbps : ℚ
  numSubscribers : Nat
  fanOut : Nat
  rxTotalPackets : Nat
  rxTotalBytes : Nat
  rxTotalLost : Nat
  rxTotalPps : ℚ
  rxTotalMbps : ℚ
  lossRate : ℚ
  latencyAvgUs : ℚ
  latencyP95Us : Nat
  latencyMaxUs : Nat
  subDetails : List SubDetail

/-- Subscribers count alike in the average, however many packets they heard. -/
def latencyAvg (details : List SubDetail) : ℚ :=
  let averages := (details.map (·.latency.avg)).filter (fun avg => 0 < avg)
  if averages.isEmpty then 0 else averages.sum/averages.length

/-- The report of a run: the publisher's ticks and the subscribers' tasks, of which one
that stopped is left out. -/
def runBenchmark (args : Args) (elapsed : ℚ) (taken : List Tick) (handles : List (Option SubDetail)) :
    Option BenchResult :=
  if frameMicros args.fps = 0 then none
  else
    let sent := SendLoop.ticks args.fps taken
    let details := handles.reduceOption
    let rxTotalPackets := (details.map (·.rxPackets)).sum
    let rxTotalBytes := (details.map (·.rxBytes)).sum
    let rxTotalLost := (details.map (·.rxLost)).sum
    some
      { durationSecs := elapsed
        txPackets := sent.txPackets
        txBytes := sent.txBytes
        txPps := sent.txPackets/elapsed
        txMbps := sent.txBytes*8/(elapsed*1000000)
        numSubscribers := args.subscribers.toNat
        fanOut := args.subscribers.toNat
        rxTotalPackets := rxTotalPackets
        rxTotalBytes := rxTotalBytes
        rxTotalLost := rxTotalLost
        rxTotalPps := rxTotalPackets/elapsed
        rxTotalMbps := rxTotalBytes*8/(elapsed*1000000)
        lossRate := lossPct rxTotalPackets rxTotalLost
        latencyAvgUs := latencyAvg details
        latencyP95Us := (details.map (·.latency.p95)).foldl max 0
        latencyMaxUs := (details.map (·.latency.max)).foldl max 0
        subDetails := details }

theorem resize_pad {buf : Bytes} {len : Nat} (within : buf.length ≤ len) :
    resize buf len = buf ++ List.replicate (len - buf.length) 0 := by
  rw [resize]
  apply List.take_of_length_le
  rw [List.length_append,List.length_replicate]
  omega

@[simp] theorem leBytes_length (width value : Nat) : (leBytes width value).length = width := by
  rw [leBytes,List.length_reverse,BigEndian.encode_length]

section header
variable (ssrc : UInt32) (seq : UInt16) (timestamp : UInt32)

@[simp] theorem fakeHeader_length : (fakeHeader ssrc seq timestamp).length = 12 := by
  simp [fakeHeader,u16Bytes,u32Bytes]

theorem fakeHeader_seq (rest : Bytes) : u16At (fakeHeader ssrc seq timestamp ++ rest) 2 = seq := by
  have split : fakeHeader ssrc seq timestamp ++ rest =
      [0x80,96] ++ u16Bytes seq ++ (u32Bytes timestamp ++ u32Bytes ssrc ++ rest) := by
    simp [fakeHeader]
  rw [split]
  exact u16At_append [0x80,96] seq _

theorem fakeHeader_ssrc (rest : Bytes) : u32At (fakeHeader ssrc seq timestamp ++ rest) 8 = ssrc := by
  have front : ([0x80,96] ++ u16Bytes seq ++ u32Bytes timestamp).length = 8 := by
    simp [u16Bytes,u32Bytes]
  have read := u32At_append ([0x80,96] ++ u16Bytes seq ++ u32Bytes timestamp) ssrc rest
  rwa [front] at read

end header

theorem latencyAt_written {front rest : Bytes} {start : Nat} (placed : front.length = start)
    (sent : UInt64) (nowMicros : Nat) :
    latencyAt start (front ++ (leBytes 8 sent.toNat ++ rest)) nowMicros =
      if 0 < sent.toNat then some (nowMicros - sent.toNat) else none := by
  have room : start + 8 ≤ (front ++ (leBytes 8 sent.toNat ++ rest)).length := by
    rw [List.length_append,List.length_append,leBytes_length]
    omega
  have written : ((front ++ (leBytes 8 sent.toNat ++ rest)).drop start).take 8 =
      leBytes 8 sent.toNat := by
    rw [← placed,List.drop_left]
    exact List.take_left' (leBytes_length 8 sent.toNat)
  have value : BigEndian.decode (leBytes 8 sent.toNat).reverse = sent.toNat := by
    rw [leBytes,List.reverse_reverse,BigEndian.decode_encode]
    exact Nat.mod_eq_of_lt sent.toNat_lt
  rw [latencyAt,if_pos room,written,value]

theorem latencyAt_short {plaintext : Bytes} {start : Nat} (short : plaintext.length < start + 8)
    (nowMicros : Nat) : latencyAt start plaintext nowMicros = none := by
  rw [latencyAt,if_neg (by omega)]

section packet
variable (ssrc : UInt32) (seq : UInt16) (timestamp : UInt32) (totalSize : Nat) (sent : UInt64)

theorem packet_layout (lead : Bytes) : ∃ rest,
    (let payloadSize := if 12 < totalSize then totalSize - 12 else 0
      if lead.length + 8 ≤ payloadSize then
        resize (fakeHeader ssrc seq timestamp ++ lead ++ leBytes 8 sent.toNat) (12 + payloadSize)
      else resize (fakeHeader ssrc seq timestamp) (12 + payloadSize)) =
      fakeHeader ssrc seq timestamp ++ rest ∧
      ∀ nowMicros,
        latencyAt (12 + lead.length) (fakeHeader ssrc seq timestamp ++ rest) nowMicros =
          if lead.length + 20 ≤ totalSize ∧ 0 < sent.toNat then some (nowMicros - sent.toNat)
          else none := by
  by_cases roomy : lead.length + 20 ≤ totalSize
  · have payload : lead.length + 8 ≤ (if 12 < totalSize then totalSize - 12 else 0) := by
      rw [if_pos (by omega)]
      omega
    have front : (fakeHeader ssrc seq timestamp ++ lead).length = 12 + lead.length := by simp
    refine ⟨lead ++ (leBytes 8 sent.toNat ++
      List.replicate (totalSize - (lead.length + 20)) 0),?_,?_⟩
    · simp only [if_pos payload]
      rw [resize_pad (by simp; omega)]
      simp only [List.append_assoc,List.length_append,fakeHeader_length,leBytes_length]
      congr 4
      rw [if_pos (by omega)]
      omega
    · intro nowMicros
      rw [← List.append_assoc,latencyAt_written front]
      simp [roomy]
  · have payload : ¬lead.length + 8 ≤ (if 12 < totalSize then totalSize - 12 else 0) := by
      split <;> omega
    refine ⟨List.replicate (if 12 < totalSize then totalSize - 12 else 0) 0,?_,?_⟩
    · simp only [if_neg payload]
      rw [resize_pad (by simp)]
      simp
    · intro nowMicros
      have untimed : ¬(lead.length + 20 ≤ totalSize ∧ 0 < sent.toNat) := fun both => roomy both.1
      rw [if_neg untimed]
      apply latencyAt_short
      rw [List.length_append,List.length_replicate,fakeHeader_length]
      split <;> omega

theorem buildFakeRtp_layout : ∃ rest,
    buildFakeRtp ssrc seq timestamp totalSize sent = fakeHeader ssrc seq timestamp ++ rest ∧
      ∀ nowMicros, latencyAt 12 (fakeHeader ssrc seq timestamp ++ rest) nowMicros =
        if 20 ≤ totalSize ∧ 0 < sent.toNat then some (nowMicros - sent.toNat) else none := by
  have layout := packet_layout ssrc seq timestamp totalSize sent []
  simpa [buildFakeRtp] using layout

end packet

namespace SendLoop

@[simp] theorem beat_seq (fps : UInt32) (s : SendLoop) : (beat fps s).seq = s.seq := by
  unfold beat
  split <;> rfl

@[simp] theorem beat_txPackets (fps : UInt32) (s : SendLoop) :
    (beat fps s).txPackets = s.txPackets := by
  unfold beat
  split <;> rfl

theorem tick_seq (fps : UInt32) (s : SendLoop) (t : Tick) : (tick fps s t).seq = s.seq + 1 := by
  unfold tick
  cases t.sending <;> exact beat_seq ..

theorem tick_txPackets (fps : UInt32) (s : SendLoop) (t : Tick) :
    (tick fps s t).txPackets = s.txPackets + t.handed.toNat := by
  unfold tick Tick.handed
  cases t.sending <;> exact beat_txPackets ..

theorem ticks_seq (fps : UInt32) (taken : List Tick) :
    (ticks fps taken).seq = UInt16.ofNat taken.length := by
  induction taken using List.reverseRecOn with
  | nil => rfl
  | append_singleton before t ih =>
    rw [ticks,List.foldl_append,List.length_append]
    change (tick fps (ticks fps before) t).seq = _
    rw [tick_seq,ih,UInt16.ofNat_add]
    rfl

theorem ticks_txPackets (fps : UInt32) (taken : List Tick) :
    (ticks fps taken).txPackets = taken.countP Tick.handed := by
  induction taken using List.reverseRecOn with
  | nil => rfl
  | append_singleton before t ih =>
    rw [ticks,List.foldl_append,List.countP_append,← ih]
    change (tick fps (ticks fps before) t).txPackets = _
    rw [tick_txPackets,List.countP_singleton]
    cases t.handed <;> rfl

end SendLoop

section gap
variable {last next : Nat} (forward : last < next)
include forward

theorem gapLost_forward : gapLost (UInt16.ofNat next) (some (UInt16.ofNat last + 1)) =
    if (next - last - 1) % 65536 < 1000 then (next - last - 1) % 65536 else 0 := by
  have gap : (UInt16.ofNat next - (UInt16.ofNat last + 1)).toNat = (next - last - 1) % 65536 := by
    have wire : UInt16.ofNat next = UInt16.ofNat (next - last - 1) + (UInt16.ofNat last + 1) := by
      rw [← UInt16.ofNat_one,← UInt16.ofNat_add,← UInt16.ofNat_add]
      congr 1
      omega
    rw [wire,UInt16.add_sub_cancel,UInt16.toNat_ofNat']
  rw [gapLost,gap]
  split
  next => grind
  next same =>
    rw [not_not.mp same,UInt16.sub_self] at gap
    change 0 = _ at gap
    rw [← gap]
    rfl

/-- A gap is charged at most what was skipped, and exactly when that is fewer than
a thousand. -/
theorem gapLost_le : gapLost (UInt16.ofNat next) (some (UInt16.ofNat last + 1)) ≤
    next - last - 1 := by
  rw [gapLost_forward forward]
  split <;> omega

theorem gapLost_eq : gapLost (UInt16.ofNat next) (some (UInt16.ofNat last + 1)) =
    next - last - 1 ↔ next - last ≤ 1000 := by
  rw [gapLost_forward forward]
  split <;> omega

end gap

end Oxlab.Bench.Media
