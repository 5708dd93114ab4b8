import Oxlab.Common.Stun
import Oxlab.Library.Framing

/-! The binding request before an independent verifier.
The verifier walks the attributes by their declared lengths, hashes what stands
before MESSAGE-INTEGRITY under a length that ends behind it, and what stands
before FINGERPRINT under the length of the message. -/
namespace Oxlab.StunRequest
open Common.Media Common.Stun Library

def attrSize (input : Bytes) : Option Nat :=
  if 4 ≤ input.length then some (4 + ((u16At input 2).toNat + 3) / 4 * 4) else none

def attrs : Framing.Header UInt8 where
  size := attrSize
  positive := by
    intro input n declared
    obtain ⟨_,read⟩ := Option.ite_none_right_eq_some.mp declared
    have size := Option.some.inj read
    omega
  stable := by
    intro input rest n declared
    exact size_append (fun len => 4 + (len.toNat + 3) / 4 * 4) rest declared

def attrType (block : Bytes) : UInt16 := u16At block 0

def attrValue (block : Bytes) : Bytes := (block.drop 4).take (u16At block 2).toNat

def textBefore (type : UInt16) (blocks : List Bytes) : Bytes :=
  (blocks.takeWhile (fun block => attrType block ≠ type)).flatten

/-- The message that the HMAC covers: its length ends behind MESSAGE-INTEGRITY. -/
def integrityInput (msg : Bytes) (blocks : List Bytes) : Bytes :=
  msg.take 2 ++ u16Bytes (UInt16.ofNat ((textBefore 0x0008 blocks).length + 24)) ++
    (msg.drop 4).take 16 ++ textBefore 0x0008 blocks

/-- The message that the CRC covers, under its own length. -/
def fingerprintInput (msg : Bytes) (blocks : List Bytes) : Bytes :=
  msg.take 20 ++ textBefore 0x8028 blocks

structure Verified (hashes : Hashes) (key tid msg : Bytes) (blocks : List Bytes) : Prop where
  type : u16At msg 0 = 0x0001
  cookie : u32At msg 4 = 0x2112A442
  transaction : (msg.drop 8).take 12 = tid
  length : msg.length = 20 + (u16At msg 2).toNat
  aligned : (u16At msg 2).toNat % 4 = 0
  walked : attrs.split (msg.drop 20) = some blocks
  integrity : (blocks.find? (fun block => attrType block = 0x0008)).map attrValue =
    some (hashes.hmacSha1 (integrityInput msg blocks) key)
  fingerprint : (blocks.getLast?).map (fun block => (attrType block,attrValue block)) =
    some (0x8028,u32Bytes (hashes.crc32 (fingerprintInput msg blocks) ^^^ 0x5354554E))

section attrBytes
variable (type : UInt16) (value : Bytes)

theorem attrType_attrBytes : attrType (attrBytes type value) = type := by
  have read := u16At_append [] type (u16Bytes (UInt16.ofNat value.length) ++ value ++
    List.replicate ((4 - value.length % 4) % 4) 0)
  rw [attrType,attrBytes,writeAttr]
  simp only [List.append_assoc,List.length_nil] at read ⊢
  exact read

variable {value} (fits : value.length < 65536)
include fits

theorem attrLength_attrBytes : (u16At (attrBytes type value) 2).toNat = value.length := by
  have read := u16At_append (u16Bytes type) (UInt16.ofNat value.length)
    (value ++ List.replicate ((4 - value.length % 4) % 4) 0)
  have same : u16At (attrBytes type value) 2 = UInt16.ofNat value.length := by
    rw [← read,attrBytes,writeAttr]
    simp only [List.append_assoc,List.nil_append]
    rfl
  rw [same,UInt16.toNat_ofNat',Nat.mod_eq_of_lt fits]

theorem attrValue_attrBytes : attrValue (attrBytes type value) = value := by
  rw [attrValue,attrLength_attrBytes type fits]
  have behind : (attrBytes type value).drop 4 =
      value ++ List.replicate ((4 - value.length % 4) % 4) 0 := by
    rw [attrBytes,writeAttr,List.nil_append,List.append_assoc _ value]
    apply List.drop_left'
    rw [List.length_append]
    rfl
  rw [behind,List.take_left]

theorem attrBytes_whole : attrs.Whole (attrBytes type value) := by
  have long := attrBytes_length type value
  change attrSize (attrBytes type value) = some (attrBytes type value).length
  rw [attrSize,if_pos (by omega),attrLength_attrBytes type fits,long]

end attrBytes

section header
variable {tid : Bytes} (own : tid.length = 12) (len : Nat) (rest : Bytes)
include own

theorem header_fields : ((header tid len ++ rest).drop 4).take 16 = u32Bytes magicCookie ++ tid ∧
    ((header tid len ++ rest).drop 8).take 12 = tid ∧
    (header tid len ++ rest).drop 20 = rest := by
  have four : (header tid len ++ rest).drop 4 = u32Bytes magicCookie ++ tid ++ rest := by
    simp only [header,List.append_assoc]
    rfl
  have eight : (header tid len ++ rest).drop 8 = tid ++ rest := by
    simp only [header,List.append_assoc]
    rfl
  refine ⟨?_,?_,List.drop_left' (header_length own len)⟩
  · rw [four]
    apply List.take_left'
    rw [List.length_append,own]
    rfl
  · rw [eight]
    exact List.take_left' own

omit own in
theorem header_numbers : u16At (header tid len ++ rest) 0 = bindingRequest ∧
    u16At (header tid len ++ rest) 2 = UInt16.ofNat len ∧
    u32At (header tid len ++ rest) 4 = magicCookie := by
  have type := u16At_append [] bindingRequest
    (u16Bytes (UInt16.ofNat len) ++ u32Bytes magicCookie ++ tid ++ rest)
  have length := u16At_append (u16Bytes bindingRequest) (UInt16.ofNat len)
    (u32Bytes magicCookie ++ tid ++ rest)
  have cookie := u32At_append (u16Bytes bindingRequest ++ u16Bytes (UInt16.ofNat len)) magicCookie
    (tid ++ rest)
  simp only [List.append_assoc,List.nil_append] at type length cookie
  simp only [header,List.append_assoc]
  exact ⟨type,length,cookie⟩

end header

section request
variable (hashes : Hashes) (random : Random) (serverUfrag clientUfrag serverPwd : String)

def requestBlocks : List Bytes :=
  [attrBytes attrUsername (strBytes (serverUfrag ++ ":" ++ clientUfrag)),
    attrBytes attrPriority (u32Bytes 2130706431),
    attrBytes attrIceControlling random.tieBreaker,
    attrBytes attrUseCandidate [],
    integrityAttribute hashes random serverUfrag clientUfrag serverPwd,
    attrBytes attrFingerprint (u32Bytes (hashes.crc32
      (fingerprintText hashes random serverUfrag clientUfrag serverPwd) ^^^ 0x5354554E))]

theorem request_blocks : buildBindingRequest hashes random serverUfrag clientUfrag serverPwd =
    header random.tid ((covered random serverUfrag clientUfrag).length + 32) ++
      (requestBlocks hashes random serverUfrag clientUfrag serverPwd).flatten := by
  rw [buildBindingRequest_layout]
  simp only [fingerprintText,covered,requestBlocks,List.flatten_cons,List.flatten_nil,
    List.append_assoc,List.append_nil]

theorem textBefore_integrity :
    textBefore 0x0008 (requestBlocks hashes random serverUfrag clientUfrag serverPwd) =
      covered random serverUfrag clientUfrag := by
  simp [textBefore,requestBlocks,covered,integrityAttribute,attrType_attrBytes,attrUsername,
    attrPriority,attrIceControlling,attrUseCandidate,attrMessageIntegrity]

theorem textBefore_fingerprint :
    textBefore 0x8028 (requestBlocks hashes random serverUfrag clientUfrag serverPwd) =
      covered random serverUfrag clientUfrag ++
        integrityAttribute hashes random serverUfrag clientUfrag serverPwd := by
  simp [textBefore,requestBlocks,covered,integrityAttribute,attrType_attrBytes,attrUsername,
    attrPriority,attrIceControlling,attrUseCandidate,attrMessageIntegrity,attrFingerprint]

theorem request_integrityInput :
    integrityInput (buildBindingRequest hashes random serverUfrag clientUfrag serverPwd)
      (requestBlocks hashes random serverUfrag clientUfrag serverPwd) =
      integrityText random serverUfrag clientUfrag := by
  have fields := (header_fields random.tid_length
    ((covered random serverUfrag clientUfrag).length + 32)
    (requestBlocks hashes random serverUfrag clientUfrag serverPwd).flatten).1
  rw [integrityInput,textBefore_integrity,request_blocks,fields,integrityText,header]
  simp only [List.append_assoc]
  rfl

theorem request_fingerprintInput :
    fingerprintInput (buildBindingRequest hashes random serverUfrag clientUfrag serverPwd)
      (requestBlocks hashes random serverUfrag clientUfrag serverPwd) =
      fingerprintText hashes random serverUfrag clientUfrag serverPwd := by
  have head := header_length random.tid_length ((covered random serverUfrag clientUfrag).length + 32)
  rw [fingerprintInput,textBefore_fingerprint,request_blocks,List.take_left' head,fingerprintText,
    List.append_assoc]

theorem covered_length : (covered random serverUfrag clientUfrag).length =
    28 + ((strBytes (serverUfrag ++ ":" ++ clientUfrag)).length + 3) / 4 * 4 := by
  simp only [covered,List.length_append,attrBytes_length,u32Bytes,BigEndian.encode_length,
    random.tieBreaker_length,List.length_nil]
  omega

theorem request_length :
    (buildBindingRequest hashes random serverUfrag clientUfrag serverPwd).length =
      20 + ((covered random serverUfrag clientUfrag).length + 32) := by
  rw [buildBindingRequest_layout,fingerprintText,integrityAttribute]
  simp only [List.length_append,attrBytes_length,hashes.hmac_length,u32Bytes,
    BigEndian.encode_length,header_length random.tid_length]
  omega

variable (fits : (buildBindingRequest hashes random serverUfrag clientUfrag serverPwd).length <
  20 + 2^16)
include fits

theorem requestBlocks_whole (block : Bytes)
    (inside : block ∈ requestBlocks hashes random serverUfrag clientUfrag serverPwd) :
    attrs.Whole block := by
  have long := request_length hashes random serverUfrag clientUfrag serverPwd
  have texts := covered_length random serverUfrag clientUfrag
  simp only [requestBlocks,integrityAttribute,List.mem_cons,List.not_mem_nil,or_false] at inside
  rcases inside with rfl | rfl | rfl | rfl | rfl | rfl
  · exact attrBytes_whole _ (by omega)
  · exact attrBytes_whole _ (by decide)
  · exact attrBytes_whole _ (by rw [random.tieBreaker_length]; decide)
  · exact attrBytes_whole _ (by decide)
  · exact attrBytes_whole _ (by rw [hashes.hmac_length]; decide)
  · exact attrBytes_whole _ (by rw [u32Bytes,BigEndian.encode_length]; decide)

theorem requestBlocks_read :
    (requestBlocks hashes random serverUfrag clientUfrag serverPwd).map (fun block =>
      (attrType block,attrValue block)) =
      [(0x0006,strBytes (serverUfrag ++ ":" ++ clientUfrag)),(0x0024,u32Bytes 2130706431),
        (0x802A,random.tieBreaker),(0x0025,[]),
        (0x0008,hashes.hmacSha1 (integrityText random serverUfrag clientUfrag) (strBytes serverPwd)),
        (0x8028,u32Bytes (hashes.crc32
          (fingerprintText hashes random serverUfrag clientUfrag serverPwd) ^^^ 0x5354554E))] := by
  have long := request_length hashes random serverUfrag clientUfrag serverPwd
  have texts := covered_length random serverUfrag clientUfrag
  have username : (strBytes (serverUfrag ++ ":" ++ clientUfrag)).length < 65536 := by omega
  have tie : random.tieBreaker.length < 65536 := by rw [random.tieBreaker_length]; decide
  have word (value : UInt32) : (u32Bytes value).length < 65536 := by
    rw [u32Bytes,BigEndian.encode_length]
    decide
  have mac (data key : Bytes) : (hashes.hmacSha1 data key).length < 65536 := by
    rw [hashes.hmac_length]
    decide
  simp only [requestBlocks,integrityAttribute,List.map_cons,List.map_nil,attrType_attrBytes,
    attrValue_attrBytes _ username,attrValue_attrBytes _ tie,attrValue_attrBytes _ (word _),
    attrValue_attrBytes _ (mac _ _),attrValue_attrBytes _ (show ([] : Bytes).length < 65536 by decide)]
  rfl

theorem requestBlocks_verified :
    Verified hashes (strBytes serverPwd) random.tid
      (buildBindingRequest hashes random serverUfrag clientUfrag serverPwd)
      (requestBlocks hashes random serverUfrag clientUfrag serverPwd) := by
  have long := request_length hashes random serverUfrag clientUfrag serverPwd
  have texts := covered_length random serverUfrag clientUfrag
  obtain ⟨_,transaction,behind⟩ := header_fields random.tid_length
    ((covered random serverUfrag clientUfrag).length + 32)
    (requestBlocks hashes random serverUfrag clientUfrag serverPwd).flatten
  obtain ⟨type,length,cookie⟩ := @header_numbers random.tid
    ((covered random serverUfrag clientUfrag).length + 32)
    (requestBlocks hashes random serverUfrag clientUfrag serverPwd).flatten
  rw [← request_blocks] at transaction behind type length cookie
  have body : (u16At (buildBindingRequest hashes random serverUfrag clientUfrag serverPwd) 2).toNat =
      (covered random serverUfrag clientUfrag).length + 32 := by
    rw [length,UInt16.toNat_ofNat',Nat.mod_eq_of_lt (by omega)]
  have mac : (attrValue (integrityAttribute hashes random serverUfrag clientUfrag serverPwd)) =
      hashes.hmacSha1 (integrityText random serverUfrag clientUfrag) (strBytes serverPwd) :=
    attrValue_attrBytes _ (by rw [hashes.hmac_length]; decide)
  refine ⟨type,cookie,transaction,by rw [long,body],by omega,?_,?_,?_⟩
  · rw [behind]
    exact attrs.split_flatten (requestBlocks_whole hashes random serverUfrag clientUfrag serverPwd fits)
  · rw [request_integrityInput,← mac]
    simp [requestBlocks,integrityAttribute,attrType_attrBytes,attrUsername,attrPriority,
      attrIceControlling,attrUseCandidate,attrMessageIntegrity]
  · rw [request_fingerprintInput]
    simp only [requestBlocks,List.getLast?_cons_cons,List.getLast?_singleton,Option.map_some,
      attrType_attrBytes]
    rw [attrValue_attrBytes _ (by rw [u32Bytes,BigEndian.encode_length]; decide)]
    rfl

/-- Every request passes the verifier, and the walk finds its six attributes. -/
theorem request_verified : ∃ blocks mac crc,
    Verified hashes (strBytes serverPwd) random.tid
      (buildBindingRequest hashes random serverUfrag clientUfrag serverPwd) blocks ∧
    blocks.map (fun block => (attrType block,attrValue block)) =
      [(0x0006,strBytes (serverUfrag ++ ":" ++ clientUfrag)),(0x0024,u32Bytes 2130706431),
        (0x802A,random.tieBreaker),(0x0025,[]),(0x0008,mac),(0x8028,crc)] :=
  ⟨_,_,_,requestBlocks_verified hashes random serverUfrag clientUfrag serverPwd fits,
    requestBlocks_read hashes random serverUfrag clientUfrag serverPwd fits⟩

end request

/-- HMAC-SHA1 and CRC-32 of the two texts of the request below. -/
def knownHashes : Hashes where
  hmacSha1 := fun _ _ => [204,193,98,81,217,226,112,34,141,154,121,57,242,20,198,210,189,231,110,198]
  crc32 := fun _ => 0x54DC5A6B
  hmac_length := fun _ _ => rfl

def knownRandom : Random where
  tid := [1,2,3,4,5,6,7,8,9,10,11,12]
  tieBreaker := [1,2,3,4,5,6,7,8]
  tid_length := rfl
  tieBreaker_length := rfl

theorem request_verified_known : ∃ blocks mac crc,
    Verified knownHashes (strBytes "pwd") knownRandom.tid
      (buildBindingRequest knownHashes knownRandom "srv" "cli" "pwd") blocks ∧
    blocks.map (fun block => (attrType block,attrValue block)) =
      [(0x0006,strBytes "srv:cli"),(0x0024,u32Bytes 2130706431),
        (0x802A,[1,2,3,4,5,6,7,8]),(0x0025,[]),(0x0008,mac),(0x8028,crc)] :=
  request_verified knownHashes knownRandom "srv" "cli" "pwd" (by decide +kernel)

end Oxlab.StunRequest
