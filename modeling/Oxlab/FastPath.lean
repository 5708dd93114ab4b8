import Oxlab.Bot.Cap
import Oxlab.Bot.Subscribe

/-! The decrypt-skip fast path against the full receive path.
A capacity bot keeps a map of last sequence numbers and four totals; a scenario
bot keeps a record an SSRC. The reading of the first simulates the store of the
second, datagram by datagram. -/
namespace Oxlab.FastPath
open Common.Media Library Bot.Cap Bot.RtpSubscriber Bot.Subscribe

structure Datagram where
  now : Instant
  micros : Nat
  buf : Bytes

section runs
variable (srtp : SrtpCtx)

def capRun (mode : RecvMode) (ctx : srtp.Ctx) (datagrams : List Datagram) : CapSub srtp :=
  datagrams.foldl (fun sub d => (handleRtp srtp mode sub d.micros d.buf).2) { srtp := ctx }

def subRun (state : srtp.Ctx × SubTask) (datagrams : List Datagram) : srtp.Ctx × SubTask :=
  datagrams.foldl (fun state d => onDatagram srtp state d.now d.buf) state

def Deciphers (ctx : srtp.Ctx) (buf : Bytes) : Prop :=
  ∃ plaintext, (srtp.decryptRtp ctx buf).1 = some plaintext ∧ plaintext.take 12 = buf.take 12

def DeciphersAll (state : srtp.Ctx × SubTask) (datagrams : List Datagram) : Prop :=
  ∀ before d after, datagrams = before ++ d::after → isRtpDatagram d.buf →
    Deciphers srtp (subRun srtp state before).1 d.buf

theorem capRun_reading (mode : RecvMode) (ctx : srtp.Ctx) (datagrams : List Datagram) :
    (capRun srtp mode ctx datagrams).reading =
      datagrams.foldl (fun r d => r.take d.buf) ⟨0,0,0,∅⟩ := by
  refine (List.foldl_hom CapSub.reading ?_).symm
  intro sub d
  exact (handleRtp_reading srtp mode sub d.micros d.buf).symm

end runs

structure Simulates (r : Reading) (store : RecvMetricsStore) : Prop where
  live : ∀ ssrc m, store.lookup ssrc = some m → m.initialized = true
  lastSeq : ∀ ssrc, r.lastSeq.lookup ssrc = (store.lookup ssrc).map (·.lastSeq)
  packets : r.rxPackets = store.weight (·.packetsReceived)
  lost : r.rxLost = store.weight (·.packetsLost)

theorem seqGap_some (seq prev : UInt16) : seqGap seq (some prev) = (asI16 (seq - (prev+1))).toNat := by
  change (if 0 < asI16 (seq - (prev+1)) then (asI16 (seq - (prev+1))).toNat else 0) = _
  split <;> omega

section take
variable (store : RecvMetricsStore) (now : Instant) (ssrc : UInt32) (pt : UInt8) (seq : UInt16)
  (ts : UInt32)

theorem update_counted :
    ((store.lookup ssrc).getD (.new now ssrc pt) |>.update now seq ts).packetsReceived =
      Table.held (·.packetsReceived) (store.lookup ssrc) + 1 := by
  rw [update_packetsReceived]
  cases store.lookup ssrc <;> rfl

variable {store} {r : Reading} (sim : Simulates r store)
include sim

theorem update_charged :
    ((store.lookup ssrc).getD (.new now ssrc pt) |>.update now seq ts).packetsLost =
      Table.held (·.packetsLost) (store.lookup ssrc) + seqGap seq (r.lastSeq.lookup ssrc) := by
  rw [sim.lastSeq]
  cases found : store.lookup ssrc with
  | none => exact (update_first (.new now ssrc pt) now seq ts rfl).1
  | some m =>
    rw [Option.map_some,seqGap_some]
    exact (update_later m now seq ts (sim.live ssrc m found)).1

theorem update_simulates (bytes : Nat) :
    Simulates
      { rxPackets := r.rxPackets + 1
        rxBytes := r.rxBytes + bytes
        rxLost := r.rxLost + seqGap seq (r.lastSeq.lookup ssrc)
        lastSeq := r.lastSeq.insert ssrc seq }
      (store.update now ssrc pt seq ts) := by
  have counted := update_counted store now ssrc pt seq ts
  have charged := update_charged now ssrc pt seq ts sim
  have packets := Table.weight_insert (·.packetsReceived) store ssrc
    (((store.lookup ssrc).getD (.new now ssrc pt)).update now seq ts)
  have lost := Table.weight_insert (·.packetsLost) store ssrc
    (((store.lookup ssrc).getD (.new now ssrc pt)).update now seq ts)
  refine ⟨?_,?_,?_,?_⟩
  · intro other m found
    by_cases same : other = ssrc
    · subst same
      rw [RecvMetricsStore.update,AList.lookup_insert] at found
      exact Option.some.inj found ▸ update_initialized ..
    · rw [RecvMetricsStore.update,AList.lookup_insert_ne same] at found
      exact sim.live other m found
  · intro other
    by_cases same : other = ssrc
    · subst same
      simp [RecvMetricsStore.update]
    · simp only [RecvMetricsStore.update,AList.lookup_insert_ne same]
      exact sim.lastSeq other
  · have before := sim.packets
    simp only [RecvMetricsStore.update]
    omega
  · have before := sim.lost
    simp only [RecvMetricsStore.update]
    omega

end take

theorem header_kept {plaintext buf : Bytes} (same : plaintext.take 12 = buf.take 12)
    (sized : 12 ≤ buf.length) :
    ¬plaintext.length < 12 ∧ u32At plaintext 8 = u32At buf 8 ∧ u16At plaintext 2 = u16At buf 2 := by
  have whole : min 12 plaintext.length = min 12 buf.length := by
    simpa using congrArg List.length same
  have read (i : Nat) (inside : i < 12) : byteAt plaintext i = byteAt buf i :=
    byteAt_take same inside
  refine ⟨by omega,?_,?_⟩
  · rw [u32At,u32At,read 8 (by decide),read 9 (by decide),read 10 (by decide),read 11 (by decide)]
  · rw [u16At,u16At,read 2 (by decide),read 3 (by decide)]

theorem onDatagram_simulates (srtp : SrtpCtx) (state : srtp.Ctx × SubTask) (d : Datagram)
    {r : Reading} (sim : Simulates r state.2.recvMetrics)
    (deciphers : isRtpDatagram d.buf → Deciphers srtp state.1 d.buf) :
    Simulates (r.take d.buf) (onDatagram srtp state d.now d.buf).2.recvMetrics := by
  by_cases media : isRtpDatagram d.buf
  · obtain ⟨plaintext,plain,kept⟩ := deciphers media
    obtain ⟨sized,demuxed⟩ : 12 ≤ d.buf.length ∧ (isRtp (byteAt d.buf 0) &&
        !(72 ≤ byteAt d.buf 1 &&& 0x7F && byteAt d.buf 1 &&& 0x7F ≤ 79)) = true := by
      simpa [isRtpDatagram,and_assoc] using media
    obtain ⟨whole,ssrc,seq⟩ := header_kept kept sized
    have received : (onDatagram srtp state d.now d.buf).2 = state.2.onRtp d.now plaintext := by
      simp only [onDatagram,Nat.not_lt.mpr sized,if_false,demuxed,if_true]
      split
      next failed => rw [failed] at plain; contradiction
      next out _ decrypted => rw [decrypted] at plain; cases Option.some.inj plain; rfl
    rw [received,onRtp_recvMetrics _ _ whole,ssrc,seq,Reading.take,if_pos media]
    exact update_simulates d.now _ _ _ _ sim _
  · have untouched : (onDatagram srtp state d.now d.buf).2.recvMetrics = state.2.recvMetrics := by
      unfold onDatagram
      split
      next => rfl
      next sized =>
        have other : (isRtp (byteAt d.buf 0) &&
            !(72 ≤ byteAt d.buf 1 &&& 0x7F && byteAt d.buf 1 &&& 0x7F ≤ 79)) = false := by
          rw [isRtpDatagram,Bool.and_assoc,decide_eq_true (Nat.not_lt.mp sized),
            Bool.true_and] at media
          exact Bool.eq_false_iff.mpr media
        simp only [other,Bool.false_eq_true,if_false]
        split <;> rfl
    rw [untouched,Reading.take,if_neg media]
    exact sim

theorem subRun_simulates (srtp : SrtpCtx) (datagrams : List Datagram) (state : srtp.Ctx × SubTask)
    (r : Reading) (sim : Simulates r state.2.recvMetrics)
    (deciphers : DeciphersAll srtp state datagrams) :
    Simulates (datagrams.foldl (fun r d => r.take d.buf) r)
      (subRun srtp state datagrams).2.recvMetrics := by
  induction datagrams generalizing state r with
  | nil => exact sim
  | cons d rest ih =>
    refine ih (onDatagram srtp state d.now d.buf) (r.take d.buf) ?_ ?_
    · exact onDatagram_simulates srtp state d sim (deciphers [] d rest rfl)
    · intro before e after split media
      exact deciphers (d::before) e after (by rw [split,List.cons_append]) media

/-- A capacity bot reads the same in both of its modes whatever decryption
returns, and where decryption succeeds it reads what a scenario bot would. -/
theorem paths_agree (srtp : SrtpCtx) (countCtx fullCtx subCtx : srtp.Ctx) (task : SubTask)
    (datagrams : List Datagram) :
    (capRun srtp .count countCtx datagrams).reading = (capRun srtp .full fullCtx datagrams).reading ∧
      (DeciphersAll srtp (subCtx,{ task with recvMetrics := ∅ }) datagrams →
        let store := (subRun srtp (subCtx,{ task with recvMetrics := ∅ }) datagrams).2.recvMetrics
        ∀ sub ∈ [capRun srtp .count countCtx datagrams,capRun srtp .full fullCtx datagrams],
          sub.counters.rxPackets = store.snapshot.totalPackets ∧
            sub.counters.rxLost = store.snapshot.totalLost ∧
            ∀ ssrc, sub.lastSeq.lookup ssrc = (store.lookup ssrc).map (·.lastSeq)) := by
  have count := capRun_reading srtp .count countCtx datagrams
  have full := capRun_reading srtp .full fullCtx datagrams
  refine ⟨count.trans full.symm,?_⟩
  intro deciphers store
  have sim : Simulates (datagrams.foldl (fun r d => r.take d.buf) ⟨0,0,0,∅⟩) store :=
    subRun_simulates srtp datagrams _ _ ⟨by simp,by simp,rfl,rfl⟩ deciphers
  have agree (sub : CapSub srtp)
      (reads : sub.reading = datagrams.foldl (fun r d => r.take d.buf) ⟨0,0,0,∅⟩) :
      sub.counters.rxPackets = store.snapshot.totalPackets ∧
        sub.counters.rxLost = store.snapshot.totalLost ∧
        ∀ ssrc, sub.lastSeq.lookup ssrc = (store.lookup ssrc).map (·.lastSeq) := by
    rw [← reads] at sim
    exact ⟨sim.packets,sim.lost,sim.lastSeq⟩
  simp only [List.forall_mem_cons,List.not_mem_nil,false_implies,implies_true,and_true]
  exact ⟨agree _ count,agree _ full⟩

/-- A context whose key stream is zero: it strips the authentication tag. -/
def untagged : SrtpCtx where
  Ctx := Unit
  decryptRtp := fun ctx buf => (some (buf.take (buf.length - 10)),ctx)
  decryptRtcp := fun ctx buf => (some (buf.take (buf.length - 14)),ctx)

def acrossWrap : List Datagram :=
  [⟨0,0,[0x80,111,255,255,0,0,0,0,0,0,0,7] ++ List.replicate 13 0⟩,
    ⟨1,1,[0x80,200] ++ List.replicate 40 0⟩,
    ⟨2,2,[0x80,111,0,1,0,0,3,192,0,0,0,7] ++ List.replicate 13 0⟩]

theorem paths_agree_wrap :
    (capRun untagged .count () acrossWrap).counters.rxLost = 1 ∧
      (subRun untagged ((),{ mode := "conference" }) acrossWrap).2.recvMetrics.snapshot.totalLost
        = 1 := by
  have tagged : ∀ d ∈ acrossWrap, isRtpDatagram d.buf → 22 ≤ d.buf.length := by decide
  have agree := (paths_agree untagged () () () { mode := "conference" } acrossWrap).2
    (by
      intro before d after split media
      have long := tagged d (by simp [split]) media
      refine ⟨_,rfl,?_⟩
      rw [List.take_take,Nat.min_eq_left (by omega)])
  have counted : (capRun untagged .count () acrossWrap).counters.rxLost = 1 := by decide +kernel
  exact ⟨counted,(agree _ (by simp)).2.1.symm.trans counted⟩

end Oxlab.FastPath
