import Oxlab.Common.Media

/-! The STUN binding request of the lab clients.
HMAC-SHA1 and CRC-32 are third-party and known here by their types alone; the
random bytes of a call are its arguments. -/
namespace Oxlab.Common.Stun
open Media Library

/-- `hmacSha1 data key` and `crc32 data`. -/
structure Hashes where
  hmacSha1 : Bytes → Bytes → Bytes
  crc32 : Bytes → UInt32
  hmac_length : ∀ data key, (hmacSha1 data key).length = 20

structure Random where
  tid : Bytes
  tieBreaker : Bytes
  tid_length : tid.length = 12
  tieBreaker_length : tieBreaker.length = 8

def magicCookie : UInt32 := 0x2112A442
def headerSize : Nat := 20
def bindingRequest : UInt16 := 0x0001
def attrUsername : UInt16 := 0x0006
def attrMessageIntegrity : UInt16 := 0x0008
def attrPriority : UInt16 := 0x0024
def attrUseCandidate : UInt16 := 0x0025
def attrIceControlling : UInt16 := 0x802A
def attrFingerprint : UInt16 := 0x8028

def writeAttr (buf : Bytes) (attrType : UInt16) (value : Bytes) : Bytes :=
  buf ++ u16Bytes attrType ++ u16Bytes (UInt16.ofNat value.length) ++ value ++
    List.replicate ((4 - value.length % 4) % 4) 0

/-- The length field of a message that has one, overwritten. -/
def putLength (buf : Bytes) (len : Nat) : Bytes :=
  buf.take 2 ++ u16Bytes (UInt16.ofNat len) ++ buf.drop 4

variable (hashes : Hashes) (random : Random)

def buildBindingRequest (serverUfrag clientUfrag serverPwd : String) : Bytes :=
  let buf := u16Bytes bindingRequest ++ u16Bytes 0 ++ u32Bytes magicCookie ++ random.tid
  let username := serverUfrag ++ ":" ++ clientUfrag
  let buf := writeAttr buf attrUsername (strBytes username)
  let priority : UInt32 := 2130706431
  let buf := writeAttr buf attrPriority (u32Bytes priority)
  let buf := writeAttr buf attrIceControlling random.tieBreaker
  let buf := writeAttr buf attrUseCandidate []
  let key := strBytes serverPwd
  let buf := putLength buf (buf.length - headerSize + 24)
  let buf := writeAttr buf attrMessageIntegrity (hashes.hmacSha1 buf key)
  let buf := putLength buf (buf.length - headerSize + 8)
  let crc := hashes.crc32 buf ^^^ 0x5354554E
  let buf := writeAttr buf attrFingerprint (u32Bytes crc)
  putLength buf (buf.length - headerSize)

def attrBytes (attrType : UInt16) (value : Bytes) : Bytes := writeAttr [] attrType value

def header (tid : Bytes) (len : Nat) : Bytes :=
  u16Bytes bindingRequest ++ u16Bytes (UInt16.ofNat len) ++ u32Bytes magicCookie ++ tid

theorem writeAttr_attrBytes (buf : Bytes) (attrType : UInt16) (value : Bytes) :
    writeAttr buf attrType value = buf ++ attrBytes attrType value := by
  simp only [writeAttr,attrBytes,List.append_assoc,List.nil_append]

theorem attrBytes_length (attrType : UInt16) (value : Bytes) :
    (attrBytes attrType value).length = 4 + (value.length + 3) / 4 * 4 := by
  simp only [attrBytes,writeAttr,u16Bytes,List.length_append,List.length_nil,List.length_replicate,
    BigEndian.encode_length]
  omega

theorem header_length {tid : Bytes} (own : tid.length = 12) (len : Nat) :
    (header tid len).length = 20 := by
  simp only [header,u16Bytes,u32Bytes,List.length_append,BigEndian.encode_length,own]

theorem putLength_header (tid rest : Bytes) (before after : Nat) :
    putLength (header tid before ++ rest) after = header tid after ++ rest := by
  simp only [header,List.append_assoc]
  rfl

section layout
variable (serverUfrag clientUfrag serverPwd : String)

def covered : Bytes :=
  attrBytes attrUsername (strBytes (serverUfrag ++ ":" ++ clientUfrag)) ++
    attrBytes attrPriority (u32Bytes 2130706431) ++
    attrBytes attrIceControlling random.tieBreaker ++ attrBytes attrUseCandidate []

def integrityText : Bytes :=
  header random.tid ((covered random serverUfrag clientUfrag).length + 24) ++
    covered random serverUfrag clientUfrag

def integrityAttribute : Bytes :=
  attrBytes attrMessageIntegrity
    (hashes.hmacSha1 (integrityText random serverUfrag clientUfrag) (strBytes serverPwd))

def fingerprintText : Bytes :=
  header random.tid ((covered random serverUfrag clientUfrag).length + 32) ++
    covered random serverUfrag clientUfrag ++
    integrityAttribute hashes random serverUfrag clientUfrag serverPwd

theorem buildBindingRequest_layout :
    buildBindingRequest hashes random serverUfrag clientUfrag serverPwd =
      fingerprintText hashes random serverUfrag clientUfrag serverPwd ++
        attrBytes attrFingerprint (u32Bytes
          (hashes.crc32 (fingerprintText hashes random serverUfrag clientUfrag serverPwd) ^^^
            0x5354554E)) := by
  have unsigned : writeAttr (writeAttr (writeAttr (writeAttr
      (u16Bytes bindingRequest ++ u16Bytes 0 ++ u32Bytes magicCookie ++ random.tid)
      attrUsername (strBytes (serverUfrag ++ ":" ++ clientUfrag)))
      attrPriority (u32Bytes 2130706431)) attrIceControlling random.tieBreaker)
      attrUseCandidate [] = header random.tid 0 ++ covered random serverUfrag clientUfrag := by
    simp only [writeAttr_attrBytes,covered,header,List.append_assoc]
    rfl
  have behind (len : Nat) (rest : Bytes) : (header random.tid len ++ rest).length - headerSize =
      rest.length := by
    rw [List.length_append,header_length random.tid_length,headerSize,Nat.add_sub_cancel_left]
  have signed : (integrityAttribute hashes random serverUfrag clientUfrag serverPwd).length = 24 := by
    rw [integrityAttribute,attrBytes_length,hashes.hmac_length]
  have mac : attrBytes attrMessageIntegrity (hashes.hmacSha1
      (header random.tid ((covered random serverUfrag clientUfrag).length + 24) ++
        covered random serverUfrag clientUfrag) (strBytes serverPwd)) =
      integrityAttribute hashes random serverUfrag clientUfrag serverPwd := rfl
  have hashed : (covered random serverUfrag clientUfrag ++
      integrityAttribute hashes random serverUfrag clientUfrag serverPwd).length + 8 =
      (covered random serverUfrag clientUfrag).length + 32 := by
    rw [List.length_append,signed]
  have complete (crc : UInt32) : (covered random serverUfrag clientUfrag ++
      (integrityAttribute hashes random serverUfrag clientUfrag serverPwd ++
        attrBytes attrFingerprint (u32Bytes crc))).length =
      (covered random serverUfrag clientUfrag).length + 32 := by
    rw [List.length_append,List.length_append,signed,attrBytes_length,u32Bytes,
      BigEndian.encode_length]
  simp only [buildBindingRequest]
  rw [unsigned]
  simp only [behind,putLength_header,writeAttr_attrBytes,mac,List.append_assoc,hashed,complete,
    fingerprintText]

end layout

end Oxlab.Common.Stun
