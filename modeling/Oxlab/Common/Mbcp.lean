import Oxlab.Common.Rtcp

/-! MBCP floor messages as RTCP APP packets, single or in a compound, and the
native TLV bodies of the WebSocket path. -/
namespace Oxlab.Common.Mbcp
open Media Rtcp

def rtcpPtApp : UInt8 := 204
def subtypeFreq : UInt8 := 0
def subtypeFrel : UInt8 := 1
def subtypeFtkn : UInt8 := 2
def subtypeFidl : UInt8 := 3
def subtypeFrvk : UInt8 := 4
def appName : Bytes := [77,66,67,80]

structure MbcpMessage where
  subtype : UInt8
  ssrc : UInt32
  data : Option String
  deriving DecidableEq

/-- Header, SSRC and name, then the data padded to whole words. -/
def build (subtype : UInt8) (ssrc : UInt32) (data : Option String) : Bytes :=
  let dataBytes := (data.map strBytes).getD []
  let paddedLen := (dataBytes.length + 3) / 4 * 4
  let totalLen := 12 + paddedLen
  let lengthField := totalLen / 4 - 1
  [0x80 ||| (subtype &&& 0x1F),rtcpPtApp] ++ u16Bytes (UInt16.ofNat lengthField) ++
    u32Bytes ssrc ++ appName ++ dataBytes ++ List.replicate (paddedLen - dataBytes.length) 0

def parse (buf : Bytes) : Option MbcpMessage :=
  if buf.length < 12 then none
  else if byteAt buf 1 ≠ rtcpPtApp then none
  else if (buf.drop 8).take 4 ≠ appName then none
  else
    let trimmed := (buf.drop 12).takeWhile (· ≠ 0)
    some
      { subtype := byteAt buf 0 &&& 0x1F
        ssrc := u32At buf 4
        data :=
          if 12 < buf.length ∧ trimmed ≠ [] then String.fromUTF8? ⟨trimmed.toArray⟩ else none }

/-- The loop of `parse_compound`; a block takes at least four bytes, so the
buffer's length is fuel enough. -/
def compoundFrom (buf : Bytes) : Nat → Nat → List MbcpMessage → List MbcpMessage
  | 0, _, results => results
  | fuel+1, offset, results =>
    if offset + 4 ≤ buf.length then
      let pt := byteAt buf (offset+1)
      let pktLen := ((u16At buf (offset+2)).toNat + 1)*4
      if pktLen = 0 ∨ buf.length < offset + pktLen then results
      else
        let found := if pt = rtcpPtApp then parse ((buf.drop offset).take pktLen) else none
        compoundFrom buf fuel (offset+pktLen) (results ++ found.toList)
    else results

def parseCompound (buf : Bytes) : List MbcpMessage := compoundFrom buf buf.length 0 []

def buildFreq (ssrc : UInt32) : Bytes := build subtypeFreq ssrc none

def buildFrel (ssrc : UInt32) : Bytes := build subtypeFrel ssrc none

def msgFloorRequest : UInt8 := 0
def msgFloorRelease : UInt8 := 3
def nativeFieldPriority : UInt8 := 0
def nativeFieldDestinations : UInt8 := 0x18
def nativeAckReq : UInt8 := 0x10

def buildNativeFreq (priority : UInt8) (roomId : String) : Bytes :=
  let rb := strBytes roomId
  let dest := [1,UInt8.ofNat rb.length] ++ rb
  [nativeAckReq ||| msgFloorRequest,2] ++ [nativeFieldPriority,1,priority] ++
    [nativeFieldDestinations] ++ [UInt8.ofNat dest.length] ++ dest

def buildNativeFrel : Bytes := [msgFloorRelease,0]

theorem fromUTF8_strBytes (s : String) : String.fromUTF8? ⟨(strBytes s).toArray⟩ = some s := by
  have same : (⟨(strBytes s).toArray⟩ : ByteArray) = s.toByteArray := rfl
  rw [same,String.fromUTF8?,dif_pos s.isValidUTF8]
  rfl

theorem strBytes_eq_nil {s : String} : strBytes s = [] ↔ s = "" := by
  constructor
  · intro nothing
    have read := fromUTF8_strBytes s
    rw [nothing] at read
    exact Option.some.inj (read.symm.trans (fromUTF8_strBytes ""))
  · intro same
    subst same
    rfl

theorem subtype_masked {subtype : UInt8} (small : subtype < 32) :
    (0x80 ||| (subtype &&& 0x1F)) &&& 0x1F = subtype := by
  have all : ∀ b : Fin 256, UInt8.ofNat b < 32 →
      (0x80 ||| (UInt8.ofNat b &&& 0x1F)) &&& 0x1F = UInt8.ofNat b := by decide +kernel
  have read := all ⟨subtype.toNat,subtype.toNat_lt⟩
  simp only [UInt8.ofNat_toNat] at read
  exact read small

theorem takeWhile_padded {bytes : Bytes} (noNul : ∀ b ∈ bytes, b ≠ 0) (count : Nat) :
    (bytes ++ List.replicate count 0).takeWhile (· ≠ 0) = bytes := by
  rw [List.takeWhile_append_of_pos (by simpa using noNul)]
  cases count with
  | zero => simp
  | succ count => simp [List.replicate_succ]

section build
variable (subtype : UInt8) (ssrc : UInt32) (data : Option String)

def dataBytes : Bytes := (data.map strBytes).getD []

theorem build_length : (build subtype ssrc data).length = 12 + ((dataBytes data).length + 3) / 4 * 4 := by
  simp only [build,dataBytes,appName,u16Bytes,u32Bytes,List.length_append,List.length_cons,
    List.length_nil,List.length_replicate,Library.BigEndian.encode_length]
  omega

theorem build_whole (fits : 12 + ((dataBytes data).length + 3) / 4 * 4 ≤ 4*65536) :
    rtcp.Whole (build subtype ssrc data) := by
  have long := build_length subtype ssrc data
  have words := u16At_append [0x80 ||| (subtype &&& 0x1F),rtcpPtApp]
    (UInt16.ofNat ((12 + ((dataBytes data).length + 3) / 4 * 4) / 4 - 1))
    (u32Bytes ssrc ++ appName ++ dataBytes data ++
      List.replicate (((dataBytes data).length + 3) / 4 * 4 - (dataBytes data).length) 0)
  have read : u16At (build subtype ssrc data) 2 =
      UInt16.ofNat ((12 + ((dataBytes data).length + 3) / 4 * 4) / 4 - 1) := by
    rw [← words]
    simp only [build,dataBytes,List.append_assoc]
    rfl
  change blockSize (build subtype ssrc data) = some (build subtype ssrc data).length
  rw [blockSize,if_pos (by omega),read,long,UInt16.toNat_ofNat']
  congr 1
  omega

theorem build_split : ∃ head : Bytes,head.length = 12 ∧ byteAt head 0 = 0x80 ||| (subtype &&& 0x1F) ∧
    byteAt head 1 = rtcpPtApp ∧ u32At head 4 = ssrc ∧ head.drop 8 = appName ∧
    build subtype ssrc data = head ++ (dataBytes data ++
      List.replicate (((dataBytes data).length + 3) / 4 * 4 - (dataBytes data).length) 0) := by
  refine ⟨[0x80 ||| (subtype &&& 0x1F),rtcpPtApp] ++
    u16Bytes (UInt16.ofNat ((12 + ((dataBytes data).length + 3) / 4 * 4) / 4 - 1)) ++
    u32Bytes ssrc ++ appName,?_,rfl,rfl,?_,?_,?_⟩
  · simp [u16Bytes,u32Bytes,appName,Library.BigEndian.encode_length]
  · exact u32At_append ([0x80 ||| (subtype &&& 0x1F),rtcpPtApp] ++ u16Bytes _) ssrc appName
  · exact List.drop_left' (by simp [u16Bytes,u32Bytes,Library.BigEndian.encode_length])
  · simp only [build,dataBytes,List.append_assoc]

/-- What was built is read back; an empty text is read as no text. -/
theorem parse_build (small : subtype < 32) (noNul : ∀ b ∈ dataBytes data, b ≠ 0) :
    parse (build subtype ssrc data) =
      some { subtype := subtype, ssrc := ssrc, data := data.filter (· ≠ "") } := by
  have long := build_length subtype ssrc data
  obtain ⟨head,size,first,pt,source,name,bytes⟩ := build_split subtype ssrc data
  have payload : (build subtype ssrc data).drop 12 = dataBytes data ++
      List.replicate (((dataBytes data).length + 3) / 4 * 4 - (dataBytes data).length) 0 := by
    rw [bytes]
    exact List.drop_left' size
  have app : ((build subtype ssrc data).drop 8).take 4 = appName := by
    rw [bytes,List.drop_append_of_le_length (by omega),name]
    rfl
  have prefixed : (build subtype ssrc data).take 12 = head.take 12 := by
    rw [bytes,List.take_append_of_le_length (by omega)]
  rw [parse,if_neg (by omega),if_neg (by rw [byteAt_take prefixed (by omega),pt]; decide),
    if_neg (by rw [app]; decide)]
  simp only [payload,takeWhile_padded noNul,byteAt_take prefixed (Nat.zero_lt_succ 11),first,
    u32At_take prefixed (show 4 + 4 ≤ 12 by omega),source,subtype_masked small]
  refine congrArg (fun text => some (MbcpMessage.mk subtype ssrc text)) ?_
  cases data with
  | none => rfl
  | some text =>
    have own : dataBytes (some text) = strBytes text := rfl
    simp only [own]
    by_cases empty : text = ""
    · rw [if_neg (by simp [strBytes_eq_nil,empty]),empty]
      rfl
    · have some_bytes : 0 < (strBytes text).length :=
        List.length_pos_iff.mpr (strBytes_eq_nil.not.mpr empty)
      have longer : 12 < (build subtype ssrc (some text)).length := by
        rw [long,own]
        omega
      rw [if_pos ⟨longer,strBytes_eq_nil.not.mpr empty⟩,fromUTF8_strBytes]
      exact (Option.filter_some_pos (by simpa using empty)).symm

end build

theorem parse_app (block : Bytes) :
    (if byteAt block 1 = rtcpPtApp then parse block else none) = parse block := by
  split
  next => rfl
  next other => simp [parse,other]

theorem compoundFrom_blocks (buf : Bytes) (fuel offset : Nat) (results : List MbcpMessage)
    (enough : buf.length - offset ≤ fuel) :
    compoundFrom buf fuel offset results =
      results ++ (rtcp.blocks (buf.drop offset)).filterMap parse := by
  induction fuel generalizing offset results with
  | zero =>
    have done : buf.drop offset = [] := List.drop_eq_nil_of_le (by omega)
    simp [compoundFrom,done,Library.Framing.Header.blocks,Library.Framing.Header.blocksIn]
  | succ fuel ih =>
    rw [Library.Framing.Header.blocks_eq,next_drop,compoundFrom]
    by_cases header : offset + 4 ≤ buf.length
    · rw [if_pos header,if_pos header]
      by_cases whole : buf.length < offset + ((u16At buf (offset+2)).toNat + 1)*4
      · simp [whole]
      · have proceeds : ¬(((u16At buf (offset+2)).toNat + 1)*4 = 0 ∨
            buf.length < offset + ((u16At buf (offset+2)).toNat + 1)*4) := by omega
        simp only [if_neg proceeds,if_neg whole]
        have pt : byteAt buf (offset+1) =
            byteAt ((buf.drop offset).take (((u16At buf (offset+2)).toNat + 1)*4)) 1 :=
          (byteAt_block buf offset (by omega)).symm
        rw [ih _ _ (by omega),pt,parse_app,List.append_assoc,List.filterMap_cons]
        split
        next skipped => rw [skipped]; rfl
        next msg read => rw [read]; rfl
    · simp [header]

theorem parseCompound_blocks (buf : Bytes) :
    parseCompound buf = (rtcp.blocks buf).filterMap parse := by
  rw [parseCompound,compoundFrom_blocks buf buf.length 0 [] (by omega)]
  rfl

end Oxlab.Common.Mbcp
