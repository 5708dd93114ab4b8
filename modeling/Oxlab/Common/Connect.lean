import Oxlab.Common.Signaling

/-! Opening a signaling session: HELLO, IDENTIFY and its result, the room, the join.
A call works on what the socket brings and leaves what it sent; JSON, the frame
reader and the outcome of a send are third-party. -/
namespace Oxlab.Common.Connect
open Media Signaling

/-- What opening uses of the wire crate and of the JSON values; `index` is null
where there is nothing. -/
structure ConnectWire extends Wire where
  opHello : UInt16
  opIdentify : UInt16
  opIdentifyResult : UInt16
  opRoomCreate : UInt16
  opRoomJoin : UInt16
  index : Json → String → Json
  asStr : Json → Option String
  asU64 : Json → Option UInt64
  debug : Json → String

structure ServerConfig where
  pubUfrag : String
  pubPwd : String
  subUfrag : String
  subPwd : String
  serverIp : String
  serverPort : UInt16
  fingerprint : String
  deriving DecidableEq

variable (w : ConnectWire)

def ServerConfig.parse (d : w.Json) : ServerConfig :=
  let sc := w.index d "server_config"
  let ice := w.index sc "ice"
  let dtls := w.index sc "dtls"
  { pubUfrag := (w.asStr (w.index ice "publish_ufrag")).getD ""
    pubPwd := (w.asStr (w.index ice "publish_pwd")).getD ""
    subUfrag := (w.asStr (w.index ice "subscribe_ufrag")).getD ""
    subPwd := (w.asStr (w.index ice "subscribe_pwd")).getD ""
    serverIp := (w.asStr (w.index ice "ip")).getD "127.0.0.1"
    serverPort := ((w.asU64 (w.index ice "port")).getD 19740).toUInt16
    fingerprint := (w.asStr (w.index dtls "fingerprint")).getD "" }

/-- What the socket brings: a binary message, split or not, a message of another
kind, or its end. `acked` says whether an ACK that is sent for the frame goes out. -/
inductive Incoming
  | frame (rf : RecvFrame) (acked : Bool)
  | malformed (error : String)
  | ignored
  | closed
  | failed (error : String)

/-- What is handed to the socket; a body is an object of strings. -/
inductive Outgoing
  | message (op : UInt16) (pid : UInt32) (body : List (String × String))
  | ack (header : WireHeader)
  deriving DecidableEq

structure Session where
  session : SignalingSession w.toWire := {}
  userId : String
  roomId : String := ""
  serverConfig : Option ServerConfig := none
  inbox : List Incoming
  outbox : List Outgoing := []

namespace Session
variable {w} (s : Session w)

def acknowledge (rf : RecvFrame) (acked : Bool) : Session w :=
  if needsAck w.toWire rf then
    -- an error of the send is only logged
    if acked then { s with outbox := s.outbox ++ [.ack (ackHeader rf)] } else s
  else s

def bufferFrame (rf : RecvFrame) : Session w := { s with session := s.session.bufferFrame rf }

/-- The frames are buffered until one stops the loop. -/
def readFrom (stop : RecvFrame → Bool) : Session w → List Incoming →
    Except String RecvFrame × Session w
  | s, [] => (.error "ws closed",{ s with inbox := [] })
  | s, .closed::rest => (.error "ws closed",{ s with inbox := rest })
  | s, .failed error::rest => (.error ("ws error: " ++ error),{ s with inbox := rest })
  | s, .malformed error::rest => (.error error,{ s with inbox := rest })
  | s, .ignored::rest => readFrom stop s rest
  | s, .frame rf acked::rest =>
    if stop rf then (.ok rf,{ s.acknowledge rf acked with inbox := rest })
    else readFrom stop ((s.acknowledge rf acked).bufferFrame rf) rest

def awaitFrame (stop : RecvFrame → Bool) : Except String RecvFrame × Session w :=
  readFrom stop s s.inbox

def recvFrame : Except String RecvFrame × Session w := s.awaitFrame (fun _ => true)

/-- `refused` is the error of a send, by the opcode that is sent. -/
def sendMsg (refused : UInt16 → Option String) (op : UInt16) (pid : UInt32)
    (body : List (String × String)) : Except String Unit × Session w :=
  match refused op with
  | some error => (.error error,s)
  | none => (.ok (),{ s with outbox := s.outbox ++ [.message op pid body] })

end Session

def hexDigit (value : Nat) : Char := "0123456789ABCDEF".toList.getD value '0'

def hex (op : UInt16) : String :=
  let value := op.toNat
  String.ofList [hexDigit (value/4096),hexDigit (value/256%16),hexDigit (value/16%16),
    hexDigit (value%16)]

section calls
variable {w} (refused : UInt16 → Option String)

/-- A call on the session, which stays as it is at an error. -/
abbrev Call (w : ConnectWire) (α : Type) := Session w → Except String α × Session w

def Call.andThen {α β : Type} (first : Call w α) (next : α → Call w β) : Call w β := fun s =>
  match first s with
  | (.ok value,s) => next value s
  | (.error error,s) => (.error error,s)

def fail {α : Type} (error : String) : Call w α := fun s => (.error error,s)

def request (op : UInt16) (body : List (String × String)) : Call w (Packet w.Json) := fun s =>
  match s.session.nextPid with
  | none => (.error "attempt to add with overflow",s)
  | some (pid,session) =>
    Call.andThen (fun s => s.sendMsg refused op pid body)
      (fun _ => Call.andThen (fun s => s.awaitFrame (isAnswer w.toWire op))
        (fun rf s => (.ok (frameToPacket w.toWire rf),s)))
      { s with session := session }

def doJoin (roomId : String) : Call w Unit :=
  Call.andThen (request refused w.opRoomJoin [("room_id",roomId)]) (fun resp s =>
    if resp.ok ≠ some true then (.error ("ROOM_JOIN failed: " ++ w.debug resp.d),s)
    else (.ok (),{ s with roomId := roomId, serverConfig := some (.parse w resp.d) }))

def identified (rf : RecvFrame) : Call w Unit := fun s =>
  let d := (w.fromSlice rf.body).getD w.null
  (.ok (),{ s with userId := (w.asStr (w.index d "user_id")).getD s.userId })

def openSession : Call w Unit :=
  Call.andThen Session.recvFrame (fun hello =>
    if hello.header.op ≠ w.opHello then
      fail ("expected HELLO, got op=0x" ++ hex hello.header.op)
    else fun s =>
      Call.andThen
        (fun s => s.sendMsg refused w.opIdentify 0 [("token","oxlab"),("user_id",s.userId)])
        (fun _ => Call.andThen
          (fun s => s.awaitFrame (fun rf => rf.header.op == w.opIdentifyResult)) identified) s)

def connect (roomName : String) : Call w Unit :=
  Call.andThen (openSession refused) (fun _ =>
    Call.andThen (request refused w.opRoomCreate [("name",roomName)]) (fun create =>
      if create.ok ≠ some true then fail ("ROOM_CREATE failed: " ++ w.debug create.d)
      else
        match w.asStr (w.index create.d "room_id") with
        | none => fail "ROOM_CREATE response missing room_id"
        | some roomId => doJoin refused roomId))

def connectWithRoomId (roomId : String) : Call w Unit :=
  Call.andThen (openSession refused) (fun _ =>
    Call.andThen (request refused w.opRoomCreate [("room_id",roomId),("name",roomId)]) (fun create =>
      if create.ok ≠ some true then fail ("ROOM_CREATE(ensure) failed: " ++ w.debug create.d)
      else doJoin refused roomId))

def connectToRoom (roomId : String) : Call w Unit :=
  Call.andThen (openSession refused) (fun _ => doJoin refused roomId)

end calls

end Oxlab.Common.Connect
