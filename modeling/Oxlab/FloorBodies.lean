import Oxlab.Bot.Floor

/-! The native grammar of floor bodies, and what the two senders of FLOOR_MBCP
put on the WebSocket.
The reader follows the wire comment of the native builders: a type, a field
count, and that many fields with nothing after them. -/
namespace Oxlab.FloorBodies
open Common.Media Common.Mbcp Bot.Floor Bot.RtpPublisher Library

def fieldSize : Bytes → Option Nat
  | _::len::_ => some (2 + len.toNat)
  | _ => none

/-- Fields of an id, a length and a value. -/
def fields : Framing.Header UInt8 where
  size := fieldSize
  positive := by
    intro input n declared
    unfold fieldSize at declared
    split at declared
    next => cases Option.some.inj declared; omega
    next => contradiction
  stable := by
    intro input rest n declared
    unfold fieldSize at declared
    split at declared
    next => exact declared
    next => contradiction

def nameSize : Bytes → Option Nat
  | len::_ => some (1 + len.toNat)
  | [] => none

def names : Framing.Header UInt8 where
  size := nameSize
  positive := by
    intro input n declared
    unfold nameSize at declared
    split at declared
    next => cases Option.some.inj declared; omega
    next => contradiction
  stable := by
    intro input rest n declared
    unfold nameSize at declared
    split at declared
    next => exact declared
    next => contradiction

structure NativeMessage where
  msgType : UInt8
  fields : List (UInt8 × Bytes)

def parseNative : Bytes → Option NativeMessage
  | b0::count::rest =>
    match fields.split rest with
    | none => none
    | some blocks =>
      if blocks.length = count.toNat then
        some ⟨b0 &&& 0x0F,blocks.map (fun block => (byteAt block 0,block.drop 2))⟩
      else none
  | _ => none

def parseDestinations : Bytes → Option (List String)
  | [] => none
  | count::rest =>
    match names.split rest with
    | none => none
    | some blocks =>
      if blocks.length = count.toNat then
        blocks.mapM (fun block => String.fromUTF8? ⟨(block.drop 1).toArray⟩)
      else none

namespace NativeMessage
variable (message : NativeMessage)

def field (id : UInt8) : Option Bytes := message.fields.lookup id

def priority : Option UInt8 :=
  match message.field nativeFieldPriority with
  | some [value] => some value
  | _ => none

def destinations : Option (List String) :=
  (message.field nativeFieldDestinations).bind parseDestinations

end NativeMessage

def IsFloorRequest (body : Bytes) (priority : UInt8) (rooms : List String) : Prop :=
  ∃ message,parseNative body = some message ∧ message.msgType = msgFloorRequest ∧
    message.priority = some priority ∧ message.destinations = some rooms

def IsFloorRelease (body : Bytes) : Prop := parseNative body = some ⟨msgFloorRelease,[]⟩

theorem parseNative_split {rest : Bytes} {blocks : List Bytes} {b0 count : UInt8}
    (cut : fields.split rest = some blocks) (counted : blocks.length = count.toNat) :
    parseNative (b0::count::rest) =
      some ⟨b0 &&& 0x0F,blocks.map (fun block => (byteAt block 0,block.drop 2))⟩ := by
  simp only [parseNative,cut,if_pos counted]

theorem parseNative_some {rest : Bytes} {b0 count : UInt8} {message : NativeMessage}
    (decoded : parseNative (b0::count::rest) = some message) :
    (fields.blocks rest).flatten = rest ∧ (fields.blocks rest).length = count.toNat := by
  simp only [parseNative,Framing.Header.split] at decoded
  split at decoded
  next => contradiction
  next blocks cut =>
    obtain ⟨joined,same⟩ := Option.ite_none_right_eq_some.mp cut
    obtain ⟨counted,_⟩ := Option.ite_none_right_eq_some.mp decoded
    cases Option.some.inj same
    exact ⟨joined,counted⟩

theorem parseDestinations_split {rest : Bytes} {blocks : List Bytes} {count : UInt8}
    (cut : names.split rest = some blocks) (counted : blocks.length = count.toNat) :
    parseDestinations (count::rest) =
      blocks.mapM (fun block => String.fromUTF8? ⟨(block.drop 1).toArray⟩) := by
  simp only [parseDestinations,cut,if_pos counted]

section native
variable (roomId : String)

def destValue : Bytes := [1,UInt8.ofNat (strBytes roomId).length] ++ strBytes roomId

theorem destValue_length : (destValue roomId).length = 2 + (strBytes roomId).length := by
  simp only [destValue,List.length_append,List.length_cons,List.length_nil]

theorem parseDestinations_destValue (fits : (strBytes roomId).length ≤ 253) :
    parseDestinations (destValue roomId) = some [roomId] := by
  have name : names.Whole (UInt8.ofNat (strBytes roomId).length::strBytes roomId) := by
    change some (1 + (UInt8.ofNat (strBytes roomId).length).toNat) = some _
    rw [UInt8.toNat_ofNat',Nat.mod_eq_of_lt (by omega),List.length_cons,Nat.add_comm]
  have cut := names.split_flatten (List.forall_mem_singleton.mpr name)
  rw [List.flatten_singleton] at cut
  refine (parseDestinations_split cut rfl).trans ?_
  simp [fromUTF8_strBytes]

theorem parseNative_freq (priority : UInt8) (fits : (strBytes roomId).length ≤ 253) :
    parseNative (buildNativeFreq priority roomId) = some ⟨msgFloorRequest,
      [(nativeFieldPriority,[priority]),(nativeFieldDestinations,destValue roomId)]⟩ := by
  have dest : fields.Whole ([nativeFieldDestinations,UInt8.ofNat (destValue roomId).length] ++
      destValue roomId) := by
    change some (2 + (UInt8.ofNat (destValue roomId).length).toNat) = some _
    rw [UInt8.toNat_ofNat',Nat.mod_eq_of_lt (by rw [destValue_length]; omega),List.length_append]
    rfl
  have whole : ∀ block ∈ [[nativeFieldPriority,1,priority],
      [nativeFieldDestinations,UInt8.ofNat (destValue roomId).length] ++ destValue roomId],
      fields.Whole block :=
    List.forall_mem_cons.mpr ⟨rfl,List.forall_mem_singleton.mpr dest⟩
  have cut := fields.split_flatten whole
  rw [List.flatten_cons,List.flatten_singleton] at cut
  exact parseNative_split cut rfl

theorem native_freq_decodes (priority : UInt8) (fits : (strBytes roomId).length ≤ 253) :
    IsFloorRequest (buildNativeFreq priority roomId) priority [roomId] :=
  ⟨_,parseNative_freq roomId priority fits,rfl,rfl,parseDestinations_destValue roomId fits⟩

/-- A longer name leaves whole multiples of 256 bytes behind the length that its
field declares, too many for two fields. -/
theorem parseNative_freq_long (priority : UInt8) (long : 253 < (strBytes roomId).length) :
    parseNative (buildNativeFreq priority roomId) = none := by
  have size := destValue_length roomId
  have declared : (UInt8.ofNat (destValue roomId).length).toNat = (destValue roomId).length % 256 :=
    UInt8.toNat_ofNat'
  have cut := (List.take_append_drop ((destValue roomId).length % 256) (destValue roomId)).symm
  generalize keeps : (destValue roomId).take ((destValue roomId).length % 256) = kept at cut
  generalize leaves : (destValue roomId).drop ((destValue roomId).length % 256) = left at cut
  have some_left : left ≠ [] := by
    rw [← leaves,ne_eq,List.drop_eq_nil_iff]
    omega
  have dest : fields.Whole
      ([nativeFieldDestinations,UInt8.ofNat (destValue roomId).length] ++ kept) := by
    change some (2 + (UInt8.ofNat (destValue roomId).length).toNat) = some _
    rw [declared,List.length_append,← keeps,List.length_take,Nat.min_eq_left (Nat.mod_le _ _)]
    rfl
  have first : fields.Whole [nativeFieldPriority,1,priority] := rfl
  have blocks := (fields.blocks_cons first _).trans
    (congrArg (List.cons _) (fields.blocks_cons dest left))
  rw [List.append_assoc,← cut] at blocks
  have body : buildNativeFreq priority roomId = (nativeAckReq ||| msgFloorRequest)::2::
      ([nativeFieldPriority,1,priority] ++
        ([nativeFieldDestinations,UInt8.ofNat (destValue roomId).length] ++ destValue roomId)) := rfl
  cases decoded : parseNative (buildNativeFreq priority roomId) with
  | none => rfl
  | some message =>
    rw [body] at decoded
    obtain ⟨joined,counted⟩ := parseNative_some decoded
    rw [blocks] at joined counted
    have others : fields.blocks left = [] :=
      List.eq_nil_of_length_eq_zero (Nat.succ.inj (Nat.succ.inj counted))
    rw [others] at joined
    refine absurd ?_ some_left
    simpa [cut] using joined

/-- For every priority and room: the request reads back exactly when the name takes
at most 253 bytes, and is rejected when it takes more. -/
theorem native_freq_decodes_iff (priority : UInt8) :
    (IsFloorRequest (buildNativeFreq priority roomId) priority [roomId] ↔
        (strBytes roomId).length ≤ 253) ∧
      (parseNative (buildNativeFreq priority roomId) = none ↔ 253 < (strBytes roomId).length) := by
  by_cases fits : (strBytes roomId).length ≤ 253
  · refine ⟨iff_of_true (native_freq_decodes roomId priority fits) fits,iff_of_false ?_ (by omega)⟩
    rw [parseNative_freq roomId priority fits]
    exact Option.some_ne_none _
  · have refused := parseNative_freq_long roomId priority (Nat.lt_of_not_le fits)
    refine ⟨iff_of_false ?_ fits,iff_of_true refused (Nat.lt_of_not_le fits)⟩
    rintro ⟨message,decoded,_⟩
    rw [refused] at decoded
    contradiction

end native

theorem parseNative_length {body : Bytes} {message : NativeMessage}
    (decoded : parseNative body = some message) : 2 + 2*(byteAt body 1).toNat ≤ body.length := by
  have floor : ∀ input n,fields.size input = some n → 2 ≤ n := by
    intro input n declared
    change fieldSize input = some n at declared
    unfold fieldSize at declared
    split at declared
    next => cases Option.some.inj declared; omega
    next => contradiction
  match body,decoded with
  | b0::count::rest,decoded =>
    obtain ⟨_,counted⟩ := parseNative_some decoded
    have room := fields.blocks_length_le floor rest
    rw [counted] at room
    change 2 + 2*count.toNat ≤ rest.length + 1 + 1
    omega

theorem app_not_native (subtype : UInt8) (ssrc : UInt32) :
    parseNative (build subtype ssrc none) = none := by
  cases decoded : parseNative (build subtype ssrc none) with
  | none => rfl
  | some message =>
    have room := parseNative_length decoded
    have long := build_length subtype ssrc none
    have count : byteAt (build subtype ssrc none) 1 = 204 := rfl
    rw [count,long] at room
    contradiction

/-- The bot's bodies are RTCP APP packets, whatever the SSRC and the priority:
neither is a native message, while those of the native builders are. -/
theorem ws_bodies_not_native (rtpConfig : RtpPublisherConfig) (priority : UInt8) (roomId : String)
    (fits : (strBytes roomId).length ≤ 253) :
    IsFloorRequest (buildNativeFreq priority roomId) priority [roomId] ∧
      IsFloorRelease buildNativeFrel ∧
      ¬IsFloorRequest (floorRequestWsBody rtpConfig priority) priority [roomId] ∧
      ¬IsFloorRelease (floorReleaseWsBody rtpConfig) := by
  refine ⟨native_freq_decodes roomId priority fits,rfl,?_,?_⟩
  · intro request
    obtain ⟨message,decoded,_⟩ := request
    have refused := app_not_native subtypeFreq rtpConfig.audioSsrc
    rw [show build subtypeFreq rtpConfig.audioSsrc none =
      floorRequestWsBody rtpConfig priority from rfl,decoded] at refused
    contradiction
  · intro release
    have refused := app_not_native subtypeFrel rtpConfig.audioSsrc
    rw [show build subtypeFrel rtpConfig.audioSsrc none = floorReleaseWsBody rtpConfig from rfl,
      release] at refused
    contradiction

theorem ws_bodies_not_native_default :
    IsFloorRequest (buildNativeFreq 10 "room") 10 ["room"] ∧
      IsFloorRelease buildNativeFrel ∧
      ¬IsFloorRequest (floorRequestWsBody {} 10) 10 ["room"] ∧
      ¬IsFloorRelease (floorReleaseWsBody {}) :=
  ws_bodies_not_native {} 10 "room" (by decide)

/-- The bodies of a bot in room "room" at priority 10. -/
theorem ws_request_unread :
    ¬∀ (rtpConfig : RtpPublisherConfig) (priority : UInt8) (roomId : String),
      (strBytes roomId).length ≤ 253 →
        IsFloorRequest (floorRequestWsBody rtpConfig priority) priority [roomId] ∧
          IsFloorRelease (floorReleaseWsBody rtpConfig) := by
  intro claimed
  obtain ⟨⟨message,decoded,_⟩,_⟩ := claimed {} 10 "room" (by decide)
  have refused : parseNative (floorRequestWsBody {} 10) = none := by decide +kernel
  rw [refused] at decoded
  contradiction

end Oxlab.FloorBodies
