import Mathlib.Algebra.Group.Pi.Basic
import Mathlib.Algebra.Group.Prod
import Mathlib.Algebra.Order.Group.Multiset
import Oxlab.FastPath
import Oxlab.Library.SharedCounters
import Oxlab.SsrcAllocation

/-! The measuring loops of the capacity bots: what one turn does to the bot and
what it adds to the counters shared by a group of bots. Turns that count nothing,
the pump, the consent and the floor request, are left out. -/
namespace Oxlab.Bot.Cap
open Common.Media Library RtpPublisher FastPath SsrcAllocation

/-- The shared atomics, one addition a step. -/
inductive Counter
  | txAttempt
  | txOk
  | txBytes
  | rxPackets
  | rxBytes
  | rxLost
  | rxDecryptFail
  | activeSubs
  deriving DecidableEq

/-- The counters and the latencies handed in; these are sorted before they are
read, so their order is left open. -/
abbrev Shared := (Counter → Nat) × Multiset Nat

def fetchAdd (counter : Counter) (n : Nat) : Shared := (Pi.single counter n,0)

def extend (latencies : List Nat) : Shared := (0,latencies)

/-- The outbound context of the third-party stack. -/
structure SrtpOut where
  Ctx : Type
  encryptRtp : Ctx → Bytes → Option Bytes × Ctx

inductive CapRole
  | publisher
  | subscriber
  | conf
  deriving DecidableEq

def CapRole.sends : CapRole → Bool
  | .subscriber => false
  | _ => true

def CapRole.receives : CapRole → Bool
  | .publisher => false
  | _ => true

/-- `sub.counters` is the bot's own share and `sent` what the socket took; the
source keeps neither. -/
structure CapBot (out : SrtpOut) (srtp : SrtpCtx) where
  role : CapRole
  recvMode : RecvMode
  pubSrtp : out.Ctx
  aState : RtpPublisherState
  vState : RtpPublisherState
  sub : CapSub srtp
  seenRtp : Bool := false
  closed : Bool := false
  sent : List Bytes := []

/-- A turn of the loop; a tick comes with what the socket says of its packet. -/
inductive CapEvent
  | aTick (isOk : Bool)
  | vTick (nowMicros : UInt64) (isOk : Bool)
  | datagram (d : Datagram)
  | deadline

def CapEvent.isTick : CapEvent → Bool
  | .aTick _ => true
  | .vTick _ _ => true
  | _ => false

def CapEvent.datagram? : CapEvent → Option Datagram
  | .datagram d => some d
  | _ => none

def heard (events : List CapEvent) : List Datagram := events.filterMap CapEvent.datagram?

/-- What a bot's measuring loop starts from. -/
structure CapArgs (out : SrtpOut) (srtp : SrtpCtx) where
  id : String
  role : CapRole
  recvMode : RecvMode
  pubSrtp : out.Ctx
  subSrtp : srtp.Ctx

section bots
variable {out : SrtpOut} {srtp : SrtpCtx}

def CapBot.start (args : CapArgs out srtp) : CapBot out srtp where
  role := args.role
  recvMode := args.recvMode
  pubSrtp := args.pubSrtp
  aState := .new (rtpConfigFor args.id)
  vState := .new (rtpConfigFor args.id)
  sub := { srtp := args.subSrtp }

/-- The datagram on the wire, if there is one. -/
def sendRtp (ctx : out.Ctx) (pkt : Bytes) (isOk : Bool) : Option Bytes × out.Ctx :=
  match out.encryptRtp ctx pkt with
  | (some enc,ctx) => (if isOk then some enc else none,ctx)
  | (none,ctx) => (none,ctx)

def sendAdds (wire : Option Bytes) : List Shared :=
  fetchAdd .txAttempt 1::
    wire.elim [] (fun enc => [fetchAdd .txOk 1,fetchAdd .txBytes enc.length])

def decryptAdds (mode : RecvMode) (sub : CapSub srtp) (pkt : Bytes) : List Shared :=
  match mode with
  | .count => []
  | .full =>
    match (srtp.decryptRtp sub.srtp pkt).1 with
    | some _ => []
    | none => [fetchAdd .rxDecryptFail 1]

/-- What `handleRtp` adds, in its order. -/
def handleRtpAdds (mode : RecvMode) (sub : CapSub srtp) (pkt : Bytes) : List Shared :=
  if isRtpDatagram pkt then
    let gap := seqGap (u16At pkt 2) (sub.lastSeq.lookup (u32At pkt 8))
    [fetchAdd .rxPackets 1,fetchAdd .rxBytes pkt.length] ++
      (if 0 < gap then [fetchAdd .rxLost gap] else []) ++ decryptAdds mode sub pkt
  else []

namespace CapBot

def tick (bot : CapBot out srtp) (pkt : Bytes) (isOk : Bool) : CapBot out srtp × List Shared :=
  let (wire,ctx) := sendRtp bot.pubSrtp pkt isOk
  ({ bot with pubSrtp := ctx, sent := bot.sent ++ wire.toList },sendAdds wire)

def receive (bot : CapBot out srtp) (d : Datagram) : CapBot out srtp × List Shared :=
  let (got,sub) := handleRtp srtp bot.recvMode bot.sub d.micros d.buf
  let first := got && !bot.seenRtp
  ({ bot with sub := sub, seenRtp := bot.seenRtp || got },
    handleRtpAdds bot.recvMode bot.sub d.buf ++ if first then [fetchAdd .activeSubs 1] else [])

def close (bot : CapBot out srtp) : CapBot out srtp × List Shared :=
  ({ bot with closed := true },
    if bot.sub.localLat.isEmpty then [] else [extend bot.sub.localLat])

/-- One turn of `run_publisher`, `run_subscriber` or `run_conf_bot`. -/
def turn (bot : CapBot out srtp) : CapEvent → Option (CapBot out srtp × List Shared)
  | .aTick isOk =>
    if bot.closed || !bot.role.sends then none
    else
      let (pkt,aState) := bot.aState.buildOpusPacket
      some ({ bot with aState := aState }.tick pkt isOk)
  | .vTick nowMicros isOk =>
    if bot.closed || !bot.role.sends then none
    else
      let (pkt,vState) := bot.vState.buildVp8Packet
      some ({ bot with vState := vState }.tick (embedSendTs nowMicros pkt) isOk)
  | .datagram d =>
    if bot.closed || !bot.role.receives then none
    else some (bot.receive d)
  | .deadline => if bot.closed then none else some bot.close

end CapBot

theorem turn_cases {bot : CapBot out srtp} {e : CapEvent} {done : CapBot out srtp × List Shared}
    (turned : bot.turn e = some done) : bot.closed = false ∧
    ((∃ aState vState pkt isOk, e.isTick ∧
        done = { bot with aState := aState, vState := vState }.tick pkt isOk) ∨
      (∃ d, e = .datagram d ∧ done = bot.receive d) ∨ e = .deadline ∧ done = bot.close) := by
  cases e with
  | aTick isOk =>
    obtain ⟨ready,made⟩ := Option.ite_none_left_eq_some.mp turned
    simp only [Bool.or_eq_true,not_or,Bool.not_eq_true] at ready
    exact ⟨ready.1,Or.inl ⟨_,_,_,isOk,rfl,(Option.some.inj made).symm⟩⟩
  | vTick nowMicros isOk =>
    obtain ⟨ready,made⟩ := Option.ite_none_left_eq_some.mp turned
    simp only [Bool.or_eq_true,not_or,Bool.not_eq_true] at ready
    exact ⟨ready.1,Or.inl ⟨_,_,_,isOk,rfl,(Option.some.inj made).symm⟩⟩
  | datagram d =>
    obtain ⟨ready,made⟩ := Option.ite_none_left_eq_some.mp turned
    simp only [Bool.or_eq_true,not_or,Bool.not_eq_true] at ready
    exact ⟨ready.1,Or.inr (Or.inl ⟨d,rfl,(Option.some.inj made).symm⟩)⟩
  | deadline =>
    obtain ⟨ready,made⟩ := Option.ite_none_left_eq_some.mp turned
    exact ⟨Bool.not_eq_true _ ▸ ready,Or.inr (Or.inr ⟨rfl,(Option.some.inj made).symm⟩)⟩

/-! What is added is what the bot itself would have counted. -/

@[simp] theorem fetchAdd_fst (counter wanted : Counter) (n : Nat) :
    (fetchAdd counter n).1 wanted = if wanted = counter then n else 0 :=
  Pi.single_apply counter n wanted

@[simp] theorem fetchAdd_zero (counter : Counter) : fetchAdd counter 0 = 0 := by
  rw [fetchAdd,Pi.single_zero]
  rfl

@[simp] theorem fetchAdd_snd (counter : Counter) (n : Nat) : (fetchAdd counter n).2 = 0 := rfl

@[simp] theorem extend_fst (latencies : List Nat) : (extend latencies).1 = 0 := rfl

@[simp] theorem extend_snd (latencies : List Nat) : (extend latencies).2 = latencies := rfl

theorem close_sum (bot : CapBot out srtp) : bot.close.2.sum = extend bot.sub.localLat := by
  simp only [CapBot.close]
  split
  next none_measured => rw [List.isEmpty_iff.mp none_measured]; rfl
  next => exact List.sum_singleton

/-- The counters of a receiver under their shared names. -/
def CapCounters.read (counters : CapCounters) : Counter → Nat
  | .rxPackets => counters.rxPackets
  | .rxBytes => counters.rxBytes
  | .rxLost => counters.rxLost
  | .rxDecryptFail => counters.rxDecryptFail
  | _ => 0

theorem decryptAdds_snd (mode : RecvMode) (sub : CapSub srtp) (pkt : Bytes) :
    (decryptAdds mode sub pkt).sum.2 = 0 := by
  unfold decryptAdds
  cases mode with
  | count => rfl
  | full => cases (srtp.decryptRtp sub.srtp pkt).1 <;> rfl

theorem measureLatency_adds (sub : CapSub srtp) (nowMicros : Nat) (pkt : Bytes)
    (counter : Counter) : (measureLatency srtp sub nowMicros pkt).counters.read counter =
      sub.counters.read counter + (decryptAdds .full sub pkt).sum.1 counter := by
  unfold measureLatency decryptAdds
  cases decrypted : srtp.decryptRtp sub.srtp pkt with
  | mk plain ctx =>
    cases plain with
    | some plain => rfl
    | none => cases counter <;> simp [CapCounters.read]

/-- The plain header of a datagram that counts. -/
def counted (sub : CapSub srtp) (pkt : Bytes) : CapSub srtp :=
  { sub with
    lastSeq := sub.lastSeq.insert (u32At pkt 8) (u16At pkt 2)
    counters := { sub.counters with
      rxPackets := sub.counters.rxPackets + 1
      rxBytes := sub.counters.rxBytes + pkt.length
      rxLost := sub.counters.rxLost +
        seqGap (u16At pkt 2) (sub.lastSeq.lookup (u32At pkt 8)) } }

theorem handleRtp_media (mode : RecvMode) (sub : CapSub srtp) (nowMicros : Nat) {pkt : Bytes}
    (media : isRtpDatagram pkt) : handleRtp srtp mode sub nowMicros pkt =
      (true,match mode with
        | .count => counted sub pkt
        | .full => measureLatency srtp (counted sub pkt) nowMicros pkt) := by
  simp only [isRtpDatagram,Bool.and_eq_true,decide_eq_true_eq,Bool.not_eq_true'] at media
  obtain ⟨⟨sized,demuxed⟩,plain⟩ := media
  unfold handleRtp
  rw [if_neg (by simp [demuxed,sized])]
  simp only [plain,Bool.false_eq_true,if_false]
  cases mode <;> rfl

theorem handleRtp_other (mode : RecvMode) (sub : CapSub srtp) (nowMicros : Nat) {pkt : Bytes}
    (other : ¬isRtpDatagram pkt) : handleRtp srtp mode sub nowMicros pkt = (false,sub) := by
  simp only [handleRtp]
  split
  next => rfl
  next sized =>
    split
    next => rfl
    next plain =>
      refine absurd ?_ other
      simp only [Bool.or_eq_true,decide_eq_true_eq,Bool.not_eq_true',not_or,Nat.not_lt,
        Bool.not_eq_false] at sized
      rw [isRtpDatagram,sized.2,decide_eq_true sized.1,Bool.true_and,Bool.true_and]
      exact (Bool.not_eq_true' _).mpr (Bool.eq_false_iff.mpr plain)

theorem handleRtp_fst (mode : RecvMode) (sub : CapSub srtp) (nowMicros : Nat) (pkt : Bytes) :
    (handleRtp srtp mode sub nowMicros pkt).1 = isRtpDatagram pkt := by
  by_cases media : isRtpDatagram pkt
  · rw [handleRtp_media mode sub nowMicros media,media]
  · rw [handleRtp_other mode sub nowMicros media,Bool.eq_false_iff.mpr media]

theorem counted_adds (sub : CapSub srtp) (pkt : Bytes) (counter : Counter) :
    (counted sub pkt).counters.read counter = sub.counters.read counter +
      (fetchAdd .rxPackets 1 + fetchAdd .rxBytes pkt.length +
        fetchAdd .rxLost (seqGap (u16At pkt 2) (sub.lastSeq.lookup (u32At pkt 8)))).1 counter := by
  cases counter <;> simp [counted,CapCounters.read]

theorem handleRtpAdds_sum (mode : RecvMode) (sub : CapSub srtp) {pkt : Bytes}
    (media : isRtpDatagram pkt) : (handleRtpAdds mode sub pkt).sum =
      fetchAdd .rxPackets 1 + fetchAdd .rxBytes pkt.length +
        fetchAdd .rxLost (seqGap (u16At pkt 2) (sub.lastSeq.lookup (u32At pkt 8))) +
        (decryptAdds mode sub pkt).sum := by
  have lost (gap : Nat) : (if 0 < gap then [fetchAdd .rxLost gap] else []).sum =
      fetchAdd .rxLost gap := by
    rcases gap.eq_zero_or_pos with rfl | some
    · simp
    · simp [some]
  rw [handleRtpAdds,if_pos media,List.sum_append,List.sum_append,lost]
  simp only [List.sum_cons,List.sum_nil,add_zero]

theorem handleRtpAdds_other (mode : RecvMode) (sub : CapSub srtp) {pkt : Bytes}
    (other : ¬isRtpDatagram pkt) : handleRtpAdds mode sub pkt = [] := if_neg other

/-- The additions of one datagram are what it raises the bot's own counters by. -/
theorem handleRtp_adds (mode : RecvMode) (sub : CapSub srtp) (nowMicros : Nat) (pkt : Bytes)
    (counter : Counter) : (handleRtp srtp mode sub nowMicros pkt).2.counters.read counter =
      sub.counters.read counter + (handleRtpAdds mode sub pkt).sum.1 counter := by
  by_cases media : isRtpDatagram pkt
  · rw [handleRtp_media mode sub nowMicros media,handleRtpAdds_sum mode sub media,Prod.fst_add,
      Pi.add_apply,← Nat.add_assoc,← counted_adds]
    cases mode with
    | count => rfl
    | full => exact measureLatency_adds (counted sub pkt) nowMicros pkt counter
  · rw [handleRtp_other mode sub nowMicros media,handleRtpAdds_other mode sub media]
    rfl

theorem handleRtpAdds_snd (mode : RecvMode) (sub : CapSub srtp) (pkt : Bytes) :
    (handleRtpAdds mode sub pkt).sum.2 = 0 := by
  by_cases media : isRtpDatagram pkt
  · rw [handleRtpAdds_sum mode sub media]
    simp [decryptAdds_snd]
  · rw [handleRtpAdds_other mode sub media]
    rfl

theorem receive_sum (bot : CapBot out srtp) (d : Datagram) : (bot.receive d).2.sum =
    (handleRtpAdds bot.recvMode bot.sub d.buf).sum +
      fetchAdd .activeSubs (if isRtpDatagram d.buf && !bot.seenRtp then 1 else 0) := by
  simp only [CapBot.receive,handleRtp_fst,List.sum_append]
  split
  next => rw [List.sum_singleton]
  next => rw [List.sum_nil,fetchAdd_zero]

theorem sendAdds_sum (wire : Option Bytes) : (sendAdds wire).sum =
    fetchAdd .txAttempt 1 + fetchAdd .txOk wire.toList.length +
      fetchAdd .txBytes (wire.toList.map List.length).sum := by
  cases wire with
  | none => simp [sendAdds]
  | some enc => simp [sendAdds,add_assoc]

end bots

end Oxlab.Bot.Cap
