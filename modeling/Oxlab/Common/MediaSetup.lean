import Oxlab.Common.Media
import Oxlab.Library.Pipe

/-! Setting up a media socket: the answer to the binding request, then a DTLS
handshake over the datagrams that the demultiplexer passes on. The DTLS stack is
third-party: when it reads, how it ends and what it exports are its own. -/
namespace Oxlab.Common.MediaSetup
open Media Library

inductive Recv
  | datagram (data : Bytes)
  | failed

def zeroed : Bytes := List.replicate 2048 0

/-- A buffer behind `recv_from`: the datagram, cut to it, over what was there. -/
def recvFrom (buf data : Bytes) : Bytes := data.take buf.length ++ buf.drop data.length

/-- The test on the buffer and the size that `recv_from` returned. -/
def isBindingResponse (buf : Bytes) (n : Nat) : Bool :=
  isStun (byteAt buf 0) && 20 ≤ n && u16At buf 0 == 0x0101

/-- The receiving task with its buffer, its channel to the stack, and the reads of the
stack: the sizes of their buffers and what they returned. -/
structure Demux where
  b : Bytes
  running : Bool
  pipe : Pipe Bytes 128
  sizes : List Nat
  returned : List Bytes

namespace Demux
variable (d : Demux)

def new : Demux := ⟨zeroed,true,Pipe.empty,[],[]⟩

def carry (moved : Option (Pipe Bytes 128)) : Option Demux :=
  moved.map (fun pipe => { d with pipe := pipe })

/-- The task takes nothing from the socket while the channel has no room for what it holds. -/
def receive (recv : Recv) : Option Demux :=
  if !d.running || d.pipe.offered.isSome then none
  else
    match recv with
    | .failed => some { d with running := false }
    | .datagram data =>
      let b := recvFrom d.b data
      let n := min data.length d.b.length
      if isDtls (byteAt b 0) then { d with b := b }.carry (d.pipe.move (.offer (b.take n)))
      else some { d with b := b }

/-- `DemuxConn::recv` into a buffer of the given size. -/
def read (size : Nat) : Option Demux :=
  match d.pipe.channel with
  | [] => none
  | data::_ =>
    let len := min data.length size
    { d with sizes := d.sizes ++ [size], returned := d.returned ++ [data.take len] }.carry
      (d.pipe.move .receive)

end Demux

structure Material where
  bytes : Bytes
  sized : bytes.length = 60

structure MediaKeys where
  clientKey : Bytes
  serverKey : Bytes
  clientSalt : Bytes
  serverSalt : Bytes

namespace MediaKeys

def ofMaterial (mat : Material) : MediaKeys where
  clientKey := mat.bytes.take 16
  serverKey := (mat.bytes.take 32).drop 16
  clientSalt := (mat.bytes.take 46).drop 32
  serverSalt := (mat.bytes.take 60).drop 46

def all (keys : MediaKeys) : Bytes :=
  keys.clientKey ++ keys.serverKey ++ keys.clientSalt ++ keys.serverSalt

theorem ofMaterial_all (mat : Material) : (ofMaterial mat).all = mat.bytes := by
  have upTo (i j : Nat) (inside : i ≤ j) :
      mat.bytes.take i ++ (mat.bytes.take j).drop i = mat.bytes.take j := by
    have shorter : mat.bytes.take i = (mat.bytes.take j).take i := by
      rw [List.take_take,Nat.min_eq_left inside]
    rw [shorter,List.take_append_drop]
  rw [all,ofMaterial,upTo 16 32 (by decide),upTo 32 46 (by decide),upTo 46 60 (by decide)]
  exact List.take_of_length_le mat.sized.le

end MediaKeys

inductive Event
  | recv
  | deadline
  | sent
  | read (size : Nat)
  | handshakeFailed (error : String)
  | exportFailed (error : String)
  | exported (mat : Material)

structure Setup where
  inbox : List Recv
  buf : Bytes := zeroed
  demux : Option Demux := none
  result : Option (Except String MediaKeys) := none

namespace Setup
variable (label : String) (s : Setup)

def finish (result : Except String MediaKeys) : Setup := { s with result := some result }

def awaitResponse (recv : Recv) : Setup :=
  match recv with
  | .failed => s
  | .datagram data =>
    let buf := recvFrom s.buf data
    if isBindingResponse buf (min data.length s.buf.length) then
      { s with buf := buf, demux := some .new }
    else { s with buf := buf }

def demuxed (moved : Demux → Option Demux) : Option Setup :=
  s.demux.bind (fun d => (moved d).map (fun d => { s with demux := some d }))

/-- The channel cannot close during the handshake, for the set-up keeps a sender. -/
def next : Event → Option Setup
  | .recv =>
    match s.inbox,s.demux with
    | [],_ => none
    | recv::rest,none => some ({ s with inbox := rest }.awaitResponse recv)
    | recv::rest,some _ => { s with inbox := rest }.demuxed (·.receive recv)
  | .deadline => if s.demux.isNone then some (s.finish (.error (label ++ " STUN timeout"))) else none
  | .sent => s.demuxed (fun d => d.carry (d.pipe.move .enter))
  | .read size => s.demuxed (·.read size)
  | .handshakeFailed error =>
    if s.demux.isSome then some (s.finish (.error (label ++ " DTLS failed: " ++ error))) else none
  | .exportFailed error =>
    if s.demux.isSome then some (s.finish (.error ("export_keying_material: " ++ error))) else none
  | .exported mat => if s.demux.isSome then some (s.finish (.ok (.ofMaterial mat))) else none

/-- The set-up ends with its result. On an error the code leaves its detached task
reading the socket; that is not followed further. -/
def step (event : Event) : Option Setup := if s.result.isSome then none else s.next label event

end Setup

def setupMediaPc (refused : Option String) (inbox : List Recv) : Setup where
  inbox := inbox
  result := refused.map .error

end Oxlab.Common.MediaSetup
