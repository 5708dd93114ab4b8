import Oxlab.Bot.CapBots

/-! The latencies of a full receiver.
A capacity bot writes the send time over the end of each video packet. A relay may
write a header of its own, and drop or repeat packets; the receiver still measures
the time each packet was under way. -/
namespace Oxlab.CapLatency
open Common.Media Library Bot.Cap Bot.RtpPublisher FastPath SsrcAllocation

/-- The streams of a capacity bot; nothing asks it for a keyframe. -/
def capPublisher (id : String) : Publisher := ⟨rtpConfigFor id,fun _ => false⟩

/-- A packet under way: whose, which, when it was sent and what arrived of it. -/
structure Relayed where
  id : String
  kind : MediaKind
  index : Nat
  sentMicros : UInt64
  arrival : Datagram

namespace Relayed

def packet (r : Relayed) : Bytes :=
  match r.kind with
  | .audio => (capPublisher r.id).packet .audio r.index
  | .video => embedSendTs r.sentMicros ((capPublisher r.id).packet .video r.index)

def underWay (r : Relayed) : Nat := r.arrival.micros - r.sentMicros.toNat

/-- Stamped after the clock's start, and under way for some time but not for ten seconds. -/
def Timely (r : Relayed) : Prop :=
  0 < r.sentMicros.toNat ∧ 0 < r.underWay ∧ r.underWay < 10000000

instance (r : Relayed) : Decidable r.Timely := by
  unfold Timely
  infer_instance

end Relayed

/-- Another header before the same payload, with the payload type kept. -/
structure Relays (pkt plain : Bytes) : Prop where
  long : 12 ≤ plain.length
  payloadType : byteAt plain 1 &&& 0x7F = byteAt pkt 1 &&& 0x7F
  payload : plain.drop 12 = pkt.drop 12

/-- Decryption returns what the relay encrypted, or fails. -/
def Authentic (srtp : SrtpCtx) (r : Relayed) : Prop :=
  ∀ ctx plain, (srtp.decryptRtp ctx r.arrival.buf).1 = some plain → Relays r.packet plain

section packet
variable (id : String) (k : Nat)

theorem opus_payloadType : byteAt ((capPublisher id).packet .audio k) 1 &&& 0x7F = 111 := by
  simp only [Publisher.packet,Publisher.call,RtpPublisherState.buildOpusPacket,rtpFixedHeader,
    List.append_assoc,List.cons_append]
  change (111 : UInt8) &&& 0x7F = 111
  decide

theorem vp8_packet : ∃ header rest, (capPublisher id).packet .video k = header ++ rest ∧
    header.length = 12 ∧ byteAt header 1 &&& 0x7F ≠ 111 ∧ 8 ≤ rest.length := by
  let s : RtpPublisherState := { (capPublisher id).state .video k with
    forceKeyframe := ((capPublisher id).state .video k).forceKeyframe || false }
  have config : s.config = rtpConfigFor id := (capPublisher id).state_config .video k
  have layout : (capPublisher id).packet .video k = _ := buildVp8Packet_layout s
  rw [List.append_assoc] at layout
  refine ⟨_,_,layout,rtpFixedHeader_length ..,?_,?_⟩
  · rw [config]
    simp only [rtpFixedHeader,List.append_assoc,List.cons_append]
    change (if s.nextIsKeyframe then (96 : UInt8) ||| 0x80 else 96) &&& 0x7F ≠ 111
    split <;> decide
  · rw [List.length_append]
    have payload : 8 ≤ (vp8Payload s.nextIsKeyframe).length := by
      rw [vp8Payload,List.length_append,List.length_replicate]
      split <;> simp [vp8KeyframeSize,vp8PframeSize]
    omega

end packet

theorem embedSendTs_length (nowMicros : UInt64) (pkt : Bytes) :
    (embedSendTs nowMicros pkt).length = pkt.length := by
  unfold embedSendTs
  split
  next long =>
    rw [List.length_append,List.length_take,List.length_reverse,BigEndian.encode_length]
    omega
  next => rfl

theorem Relays.sendMicros {pkt plain : Bytes} (relays : Relays pkt plain) (long : 20 ≤ pkt.length) :
    plain.length = pkt.length ∧ Bot.Cap.sendMicros plain = Bot.Cap.sendMicros pkt := by
  have same : plain.length = pkt.length := by
    have lengths := congrArg List.length relays.payload
    rw [List.length_drop,List.length_drop] at lengths
    have header := relays.long
    omega
  have back (buf : Bytes) (sized : 20 ≤ buf.length) :
      buf.drop (buf.length - 8) = (buf.drop 12).drop (buf.length - 20) := by
    rw [List.drop_drop]
    congr 1
    omega
  refine ⟨same,?_⟩
  rw [Bot.Cap.sendMicros,back plain (by omega),relays.payload,same,← back pkt long]
  rfl

theorem latencySample_relayed (r : Relayed) {plain : Bytes} (relays : Relays r.packet plain) :
    latencySample plain r.arrival.micros =
      if r.kind = .video ∧ r.Timely then some r.underWay else none := by
  have header := relays.long
  have type := relays.payloadType
  unfold latencySample Relayed.Timely Relayed.underWay
  rw [if_pos (by omega : 1 < plain.length)]
  cases kind : r.kind with
  | audio =>
    rw [Relayed.packet,kind] at type
    rw [type]
    simp [opus_payloadType]
  | video =>
    obtain ⟨front,rest,layout,sized,other,long⟩ := vp8_packet r.id r.index
    have packet : r.packet = front ++ embedSendTs r.sentMicros rest := by
      rw [Relayed.packet,kind,layout]
      exact embedSendTs_append r.sentMicros front long
    have first : byteAt r.packet 1 = byteAt front 1 := by
      rw [packet,byteAt,byteAt,List.getElem?_append_left (by omega)]
    have whole : 20 ≤ r.packet.length := by
      rw [packet,List.length_append,embedSendTs_length]
      omega
    obtain ⟨same,ends⟩ := relays.sendMicros whole
    have time : Bot.Cap.sendMicros r.packet = r.sentMicros.toNat := by
      rw [Relayed.packet,kind]
      apply sendMicros_embed
      rw [layout,List.length_append]
      omega
    rw [type,first,ends,time]
    simp only [ne_eq,other,not_false_eq_true,true_and,(by omega : 8 ≤ plain.length)]
    split <;> simp_all

def stamped (rs : List Relayed) : List Relayed :=
  rs.filter (fun r => isRtpDatagram r.arrival.buf && r.kind == .video)

def exacts (rs : List Relayed) : List Nat := (stamped rs).map Relayed.underWay

def timely (rs : List Relayed) : List Relayed := (stamped rs).filter Relayed.Timely

theorem timely_append (first second : List Relayed) :
    timely (first ++ second) = timely first ++ timely second := by
  rw [timely,stamped,List.filter_append,List.filter_append]
  rfl

section run
variable {srtp : SrtpCtx}

theorem measured_single {r : Relayed} (media : isRtpDatagram r.arrival.buf) :
    ((timely [r]).map Relayed.underWay) =
      (if r.kind = .video ∧ r.Timely then some r.underWay else none).toList := by
  by_cases video : r.kind = .video <;> by_cases time : r.Timely <;>
    simp [timely,stamped,media,video,time]

theorem handleRtp_latency (sub : CapSub srtp) {r : Relayed} (authentic : Authentic srtp r) :
    let after := (handleRtp srtp .full sub r.arrival.micros r.arrival.buf).2
    ∃ gained, after.localLat = sub.localLat ++ gained ∧
      gained.Sublist ((timely [r]).map Relayed.underWay) ∧
      (timely [r]).length + sub.counters.rxDecryptFail ≤
        gained.length + after.counters.rxDecryptFail := by
  intro after
  by_cases media : isRtpDatagram r.arrival.buf
  · have measured : after = measureLatency srtp (counted sub r.arrival.buf) r.arrival.micros
        r.arrival.buf := congrArg Prod.snd (handleRtp_media .full sub r.arrival.micros media)
    rw [measured,measureLatency]
    cases decrypted : srtp.decryptRtp (counted sub r.arrival.buf).srtp r.arrival.buf with
    | mk plain ctx =>
      cases plain with
      | some plain =>
        have relays := authentic _ plain (congrArg Prod.fst decrypted)
        refine ⟨(timely [r]).map Relayed.underWay,?_,List.Sublist.refl _,?_⟩
        · rw [measured_single media]
          simp only [latencySample_relayed r relays]
          rfl
        · rw [List.length_map]
          exact Nat.le_refl _
      | none =>
        refine ⟨[],(List.append_nil _).symm,List.nil_sublist _,?_⟩
        have short : (timely [r]).length ≤ 1 :=
          (List.length_filter_le _ _).trans (List.length_filter_le _ _)
        change _ + sub.counters.rxDecryptFail ≤ 0 + (sub.counters.rxDecryptFail + 1)
        omega
  · have ignored : after = sub :=
      congrArg Prod.snd (handleRtp_other .full sub r.arrival.micros media)
    have nothing : timely [r] = [] := by simp [timely,stamped,media]
    rw [ignored,nothing]
    exact ⟨[],(List.append_nil _).symm,List.nil_sublist _,Nat.le_refl _⟩

theorem run_latency (rs : List Relayed) (authentic : ∀ r ∈ rs,Authentic srtp r)
    (sub : CapSub srtp) :
    let final := (rs.map (·.arrival)).foldl
      (fun sub d => (handleRtp srtp .full sub d.micros d.buf).2) sub
    ∃ gained, final.localLat = sub.localLat ++ gained ∧
      gained.Sublist ((timely rs).map Relayed.underWay) ∧
      (timely rs).length + sub.counters.rxDecryptFail ≤
        gained.length + final.counters.rxDecryptFail := by
  induction rs generalizing sub with
  | nil => exact ⟨[],(List.append_nil _).symm,List.Sublist.refl _,Nat.le_refl _⟩
  | cons r rest ih =>
    obtain ⟨head,first,within,counted⟩ := handleRtp_latency sub (authentic r (by simp))
    obtain ⟨tail,later,withinRest,countedRest⟩ := ih
      (fun other member => authentic other (List.mem_cons_of_mem r member))
      (handleRtp srtp .full sub r.arrival.micros r.arrival.buf).2
    have split : timely (r::rest) = timely [r] ++ timely rest := timely_append [r] rest
    refine ⟨head ++ tail,?_,?_,?_⟩
    · rw [List.map_cons,List.foldl_cons,later,first,List.append_assoc]
    · rw [split,List.map_append]
      exact within.append withinRest
    · rw [split,List.length_append,List.length_append,List.map_cons,List.foldl_cons]
      omega

/-- What a full receiver measures is the time under way of video packets that reach it,
in their order; it misses no more than it failed to decrypt and than were not timely, and
with every decryption in order it misses none exactly when all were timely. -/
theorem latencies_exact (rs : List Relayed) (authentic : ∀ r ∈ rs,Authentic srtp r)
    (ctx : srtp.Ctx) :
    let final := capRun srtp .full ctx (rs.map (·.arrival))
    final.localLat.Sublist (exacts rs) ∧
      (exacts rs).length ≤ final.localLat.length + final.counters.rxDecryptFail +
        ((stamped rs).filter (fun r => ¬r.Timely)).length ∧
      (final.counters.rxDecryptFail = 0 →
        (final.localLat = exacts rs ↔ ∀ r ∈ stamped rs,r.Timely)) := by
  intro final
  obtain ⟨gained,measured,within,counted⟩ := run_latency rs authentic { srtp := ctx }
  have all : final.localLat = gained := measured
  change _ + 0 ≤ _ + final.counters.rxDecryptFail at counted
  have parts : (exacts rs).length =
      (timely rs).length + ((stamped rs).filter (fun r => ¬r.Timely)).length := by
    rw [exacts,List.length_map,timely]
    simpa using List.length_eq_length_filter_add (fun r : Relayed => decide r.Timely)
  rw [all]
  refine ⟨within.trans (List.filter_sublist.map _),by omega,?_⟩
  intro decrypted
  have whole : gained = (timely rs).map Relayed.underWay := by
    apply within.eq_of_length_le
    rw [List.length_map]
    omega
  rw [whole]
  constructor
  · intro same
    have sizes := congrArg List.length same
    rw [exacts,List.length_map,List.length_map,timely] at sizes
    simpa using List.length_filter_eq_length_iff.mp sizes
  · intro every
    rw [exacts,timely,List.filter_eq_self.mpr (by simpa using every)]

end run

def tagged (sentMicros : UInt64) (micros : Nat) : Relayed :=
  let r : Relayed := ⟨"cap-pub-1",.video,0,sentMicros,⟨0,micros,[]⟩⟩
  { r with arrival := ⟨0,micros,r.packet ++ List.replicate 10 0⟩ }

theorem tagged_authentic (sentMicros : UInt64) (micros : Nat) :
    Authentic untagged (tagged sentMicros micros) := by
  intro ctx plain decrypted
  have stripped : plain = (tagged sentMicros micros).packet := by
    rw [← Option.some.inj decrypted]
    apply List.take_left'
    simp [tagged,Relayed.packet]
  obtain ⟨front,rest,layout,sized,_,_⟩ := vp8_packet "cap-pub-1" 0
  rw [stripped]
  refine ⟨?_,rfl,rfl⟩
  change 12 ≤ (embedSendTs sentMicros ((capPublisher "cap-pub-1").packet .video 0)).length
  rw [embedSendTs_length,layout,List.length_append]
  omega

theorem latencies_exact_two :
    (capRun untagged .full () ([tagged 15 20,tagged 40 60].map (·.arrival))).localLat = [5,20] := by
  have authentic : ∀ r ∈ [tagged 15 20,tagged 40 60],Authentic untagged r := by
    simp [tagged_authentic]
  have exact_run := latencies_exact [tagged 15 20,tagged 40 60] authentic ()
  rw [(exact_run.2.2 (by decide +kernel)).mpr (by decide +kernel)]
  decide +kernel

end Oxlab.CapLatency
