import Oxlab.Common.Connect

/-! The handshake of a signaling session.
Which messages a connection accepts, in which order it sends its own, and what it
holds at the end, whatever the server sends in between. -/
namespace Oxlab.Handshake
open Common.Connect Common.Signaling

variable {w : ConnectWire}

/-- A frame, and whether an ACK for it goes out. -/
abbrev Arrival := RecvFrame × Bool

def arrivalsIn (items : List Incoming) : List Arrival :=
  items.filterMap (fun item =>
    match item with
    | .frame rf acked => some (rf,acked)
    | _ => none)

/-- What was read for one answer: other messages, then the answer. -/
structure Exchange where
  passed : List Incoming
  answer : RecvFrame
  acked : Bool

namespace Exchange
variable (e : Exchange)

def read : List Incoming := e.passed ++ [.frame e.answer e.acked]

def others : List Arrival := arrivalsIn e.passed

def arrivals : List Arrival := e.others ++ [(e.answer,e.acked)]

/-- The first frame at which the loop stops is the answer, and nothing before it ends
the loop. -/
structure Meets (stop : RecvFrame → Bool) : Prop where
  open_still : ∀ item ∈ e.passed,item = .ignored ∨ ∃ rf acked, item = .frame rf acked
  passes : ∀ arrival ∈ e.others,stop arrival.1 = false
  stops : stop e.answer = true

end Exchange

def acksOf (w : ConnectWire) (arrivals : List Arrival) : List Outgoing :=
  (arrivals.filter (fun a => needsAck w.toWire a.1 && a.2)).map (fun a => .ack (ackHeader a.1))

def buffered (session : SignalingSession w.toWire) (arrivals : List Arrival) :
    SignalingSession w.toWire :=
  let frames := arrivals.map Prod.fst
  { session with
    eventBuf := session.eventBuf ++
      (frames.filter (fun rf => rf.header.op ≠ opFloorMbcp)).map (frameToPacket w.toWire)
    floorMbcpBuf := session.floorMbcpBuf ++
      (frames.filter (fun rf => rf.header.op = opFloorMbcp)).map (·.body) }

def through (s : Session w) (e : Exchange) (rest : List Incoming) : Session w :=
  { s with
    session := buffered s.session e.others
    inbox := rest
    outbox := s.outbox ++ acksOf w e.arrivals }

section read
variable (stop : RecvFrame → Bool)

theorem acksOf_append (first second : List Arrival) :
    acksOf w (first ++ second) = acksOf w first ++ acksOf w second := by
  rw [acksOf,List.filter_append,List.map_append]
  rfl

theorem acknowledge_eq (s : Session w) (rf : RecvFrame) (acked : Bool) :
    s.acknowledge rf acked = { s with outbox := s.outbox ++ acksOf w [(rf,acked)] } := by
  unfold Session.acknowledge acksOf
  split
  next needs => cases acked <;> simp [needs]
  next quiet => simp [quiet]

theorem buffered_nil (session : SignalingSession w.toWire) : buffered session [] = session := by
  simp [buffered]

theorem buffered_cons (session : SignalingSession w.toWire) (rf : RecvFrame) (acked : Bool)
    (rest : List Arrival) :
    buffered (session.bufferFrame rf) rest = buffered session ((rf,acked)::rest) := by
  unfold SignalingSession.bufferFrame buffered
  split
  next floor => simp [floor]
  next event => simp [event]

theorem through_cons (s : Session w) (rf : RecvFrame) (acked : Bool) (e : Exchange)
    (rest : List Incoming) :
    through ((s.acknowledge rf acked).bufferFrame rf) e rest =
      through s ⟨.frame rf acked::e.passed,e.answer,e.acked⟩ rest := by
  have frames : Exchange.others ⟨.frame rf acked::e.passed,e.answer,e.acked⟩ =
      (rf,acked)::e.others := rfl
  have acks : acksOf w [(rf,acked)] ++ acksOf w e.arrivals =
      acksOf w (Exchange.arrivals ⟨.frame rf acked::e.passed,e.answer,e.acked⟩) := by
    rw [← acksOf_append]
    rfl
  rw [acknowledge_eq,through,through,frames,← acks,← buffered_cons]
  simp only [Session.bufferFrame,List.append_assoc]

theorem through_stop (s : Session w) (rf : RecvFrame) (acked : Bool) (rest : List Incoming) :
    { s.acknowledge rf acked with inbox := rest } = through s ⟨[],rf,acked⟩ rest := by
  have nothing : Exchange.others ⟨[],rf,acked⟩ = [] := rfl
  rw [acknowledge_eq,through,Exchange.arrivals,nothing,buffered_nil,List.nil_append]

theorem readFrom_ok (s t : Session w) (items : List Incoming) (rf : RecvFrame) :
    s.readFrom stop items = (.ok rf,t) ↔
      ∃ e rest, items = e.read ++ rest ∧ e.Meets stop ∧ e.answer = rf ∧ t = through s e rest := by
  constructor
  · intro ran
    induction items generalizing s with
    | nil => simp [Session.readFrom] at ran
    | cons item later ih =>
      cases item with
      | frame first acked =>
        rw [Session.readFrom] at ran
        split at ran
        next stops =>
          rw [through_stop] at ran
          cases ran
          exact ⟨⟨[],_,acked⟩,later,rfl,⟨by simp,by simp [Exchange.others,arrivalsIn],stops⟩,rfl,rfl⟩
        next passes =>
          obtain ⟨e,rest,split,meets,answer,left⟩ := ih _ ran
          refine ⟨⟨.frame first acked::e.passed,e.answer,e.acked⟩,rest,?_,⟨?_,?_,meets.stops⟩,
            answer,?_⟩
          · rw [split]
            rfl
          · intro item member
            rcases List.mem_cons.mp member with rfl | old
            · exact Or.inr ⟨first,acked,rfl⟩
            · exact meets.open_still item old
          · intro other member
            rcases List.mem_cons.mp member with rfl | old
            · exact Bool.eq_false_iff.mpr passes
            · exact meets.passes other old
          · rw [left,through_cons]
      | ignored =>
        rw [Session.readFrom] at ran
        obtain ⟨e,rest,split,meets,answer,left⟩ := ih _ ran
        refine ⟨⟨.ignored::e.passed,e.answer,e.acked⟩,rest,?_,⟨?_,meets.passes,meets.stops⟩,answer,
          left⟩
        · rw [split]
          rfl
        · intro item member
          rcases List.mem_cons.mp member with rfl | old
          · exact Or.inl rfl
          · exact meets.open_still item old
      | malformed error => simp [Session.readFrom] at ran
      | closed => simp [Session.readFrom] at ran
      | failed error => simp [Session.readFrom] at ran
  · intro read
    obtain ⟨⟨passed,answer,sent⟩,rest,rfl,meets,rfl,rfl⟩ := read
    induction passed generalizing s with
    | nil =>
      have stops : stop answer = true := meets.stops
      simp only [Exchange.read,List.nil_append,List.singleton_append,Session.readFrom,stops,if_true]
      rw [through_stop]
    | cons item later ih =>
      have rest_meets : Exchange.Meets ⟨later,answer,sent⟩ stop := by
        refine ⟨?_,?_,meets.stops⟩
        · intro other member
          exact meets.open_still other (List.mem_cons_of_mem item member)
        · intro other member
          apply meets.passes other
          cases item <;> simp_all [Exchange.others,arrivalsIn]
      rcases meets.open_still item List.mem_cons_self with rfl | ⟨first,acked,rfl⟩
      · exact ih s rest_meets
      · have passes : stop first = false := meets.passes (first,acked) List.mem_cons_self
        have step : s.readFrom stop (Exchange.read ⟨.frame first acked::later,answer,sent⟩ ++ rest) =
            ((s.acknowledge first acked).bufferFrame first).readFrom stop
              (Exchange.read ⟨later,answer,sent⟩ ++ rest) := by
          simp only [Exchange.read,List.cons_append,Session.readFrom,passes,Bool.false_eq_true,if_false]
        rw [step,ih _ rest_meets,through_cons]

end read

section calls
variable (refused : UInt16 → Option String)

theorem andThen_ok {α β : Type} (first : Call w α) (next : α → Call w β) (s t : Session w) (b : β) :
    first.andThen next s = (.ok b,t) ↔
      ∃ a middle, first s = (.ok a,middle) ∧ next a middle = (.ok b,t) := by
  unfold Call.andThen
  cases first s with
  | mk result middle =>
    cases result with
    | error error => simp
    | ok a => simp

theorem sendMsg_ok (s t : Session w) (op : UInt16) (pid : UInt32) (body : List (String × String))
    (done : Unit) : s.sendMsg refused op pid body = (.ok done,t) ↔
      refused op = none ∧ t = { s with outbox := s.outbox ++ [.message op pid body] } := by
  unfold Session.sendMsg
  cases refused op with
  | none => simp [eq_comm]
  | some error => simp

def sending (s : Session w) (op : UInt16) (pid : UInt32) (body : List (String × String)) : Session w :=
  { s with outbox := s.outbox ++ [.message op pid body] }

def requested (s : Session w) (op : UInt16) (body : List (String × String)) (e : Exchange)
    (rest : List Incoming) : Session w :=
  through (sending { s with session := { s.session with pid := s.session.pid + 1 } }
    op s.session.pid body) e rest

theorem request_ok (op : UInt16) (body : List (String × String)) {s : Session w}
    (room : s.session.pid.toNat + 1 < 2^32) (t : Session w) (resp : Packet w.Json) :
    request refused op body s = (.ok resp,t) ↔
      refused op = none ∧ ∃ e rest, s.inbox = e.read ++ rest ∧ e.Meets (isAnswer w.toWire op) ∧
        frameToPacket w.toWire e.answer = resp ∧ t = requested s op body e rest := by
  have issued : s.session.nextPid = some (s.session.pid,{ s.session with pid := s.session.pid + 1 }) :=
    if_pos room
  simp only [request,issued,andThen_ok,sendMsg_ok,Session.awaitFrame,readFrom_ok]
  constructor
  · intro ran
    obtain ⟨_,_,⟨sent,rfl⟩,rf,_,⟨e,rest,split,meets,rfl,rfl⟩,same⟩ := ran
    cases same
    exact ⟨sent,e,rest,split,meets,rfl,rfl⟩
  · intro ran
    obtain ⟨sent,e,rest,split,meets,rfl,rfl⟩ := ran
    exact ⟨(),_,⟨sent,rfl⟩,e.answer,_,⟨e,rest,split,meets,rfl,rfl⟩,rfl⟩

def joinedWith (s : Session w) (roomId : String) (e : Exchange) : Session w :=
  { s with
    roomId := roomId
    serverConfig := some (.parse w (frameToPacket w.toWire e.answer).d) }

theorem doJoin_ok (roomId : String) {s : Session w} (room : s.session.pid.toNat + 1 < 2^32)
    (t : Session w) (done : Unit) :
    doJoin refused roomId s = (.ok done,t) ↔
      refused w.opRoomJoin = none ∧ ∃ e rest, s.inbox = e.read ++ rest ∧
        e.Meets (isAnswer w.toWire w.opRoomJoin) ∧
        (frameToPacket w.toWire e.answer).ok = some true ∧
        t = joinedWith (requested s w.opRoomJoin [("room_id",roomId)] e rest) roomId e := by
  rw [doJoin,andThen_ok]
  simp only [request_ok refused w.opRoomJoin [("room_id",roomId)] room]
  constructor
  · intro ran
    obtain ⟨resp,_,⟨sent,e,rest,split,meets,rfl,rfl⟩,last⟩ := ran
    split at last
    next => simp at last
    next granted =>
      cases last
      exact ⟨sent,e,rest,split,meets,not_not.mp granted,rfl⟩
  · intro ran
    obtain ⟨sent,e,rest,split,meets,granted,rfl⟩ := ran
    refine ⟨_,_,⟨sent,e,rest,split,meets,rfl,rfl⟩,?_⟩
    rw [if_neg (not_not.mpr granted)]
    rfl

def assigned (w : ConnectWire) (userId : String) (rf : RecvFrame) : String :=
  (w.asStr (w.index ((w.fromSlice rf.body).getD w.null) "user_id")).getD userId

def identifiedWith (s : Session w) (hello identity : Exchange) (rest : List Incoming) : Session w :=
  { through (sending (through s hello (identity.read ++ rest)) w.opIdentify 0
      [("token","oxlab"),("user_id",s.userId)]) identity rest with
    userId := assigned w s.userId identity.answer }

theorem openSession_ok (s t : Session w) (done : Unit) :
    openSession refused s = (.ok done,t) ↔
      refused w.opIdentify = none ∧ ∃ hello identity rest,
        s.inbox = hello.read ++ identity.read ++ rest ∧
        hello.Meets (fun _ => true) ∧ hello.answer.header.op = w.opHello ∧
        identity.Meets (fun rf => rf.header.op == w.opIdentifyResult) ∧
        t = identifiedWith s hello identity rest := by
  simp only [openSession,andThen_ok,Session.recvFrame,Session.awaitFrame,readFrom_ok]
  constructor
  · intro ran
    obtain ⟨_,_,⟨hello,left,split,greets,rfl,rfl⟩,last⟩ := ran
    split at last
    next => simp [fail] at last
    next op =>
      simp only [andThen_ok,sendMsg_ok,readFrom_ok] at last
      obtain ⟨_,_,⟨sent,rfl⟩,_,_,⟨identity,rest,after,meets,rfl,rfl⟩,same⟩ := last
      cases same
      have inbox : left = identity.read ++ rest := after
      subst inbox
      exact ⟨sent,hello,identity,rest,by rw [split,List.append_assoc],greets,not_not.mp op,meets,rfl⟩
  · intro ran
    obtain ⟨sent,hello,identity,rest,split,greets,op,meets,rfl⟩ := ran
    refine ⟨_,_,⟨hello,identity.read ++ rest,by rw [split,List.append_assoc],greets,rfl,rfl⟩,?_⟩
    rw [if_neg (not_not.mpr op)]
    simp only [andThen_ok,sendMsg_ok,readFrom_ok]
    exact ⟨(),_,⟨sent,rfl⟩,identity.answer,_,⟨identity,rest,rfl,meets,rfl,rfl⟩,rfl⟩

theorem create_ok (body : List (String × String)) (refusal : Packet w.Json → String)
    (next : Packet w.Json → Call w Unit) {s : Session w}
    (room : s.session.pid.toNat + 1 < 2^32) (t : Session w) (done : Unit) :
    (request refused w.opRoomCreate body).andThen (fun create =>
        if create.ok ≠ some true then fail (refusal create) else next create) s = (.ok done,t) ↔
      refused w.opRoomCreate = none ∧ ∃ e rest, s.inbox = e.read ++ rest ∧
        e.Meets (isAnswer w.toWire w.opRoomCreate) ∧
        (frameToPacket w.toWire e.answer).ok = some true ∧
        next (frameToPacket w.toWire e.answer) (requested s w.opRoomCreate body e rest) =
          (.ok done,t) := by
  rw [andThen_ok]
  simp only [request_ok refused w.opRoomCreate body room]
  constructor
  · intro ran
    obtain ⟨create,_,⟨sent,e,rest,split,meets,rfl,rfl⟩,last⟩ := ran
    split at last
    next => simp [fail] at last
    next created => exact ⟨sent,e,rest,split,meets,not_not.mp created,last⟩
  · intro ran
    obtain ⟨sent,e,rest,split,meets,created,last⟩ := ran
    refine ⟨_,_,⟨sent,e,rest,split,meets,rfl,rfl⟩,?_⟩
    rw [if_neg (not_not.mpr created)]
    exact last

end calls

/-- The ways to open a session: in a room by its name, in a room that is made sure of, or
in one that is there. -/
inductive Opening
  | connect (roomName : String)
  | connectWithRoomId (roomId : String)
  | connectToRoom (roomId : String)

namespace Opening

def enter (refused : UInt16 → Option String) : Opening → Call w Unit
  | .connect roomName =>
    Call.andThen (request refused w.opRoomCreate [("name",roomName)]) (fun create =>
      if create.ok ≠ some true then fail ("ROOM_CREATE failed: " ++ w.debug create.d)
      else
        match w.asStr (w.index create.d "room_id") with
        | none => fail "ROOM_CREATE response missing room_id"
        | some roomId => doJoin refused roomId)
  | .connectWithRoomId roomId =>
    Call.andThen (request refused w.opRoomCreate [("room_id",roomId),("name",roomId)])
      (fun create =>
        if create.ok ≠ some true then fail ("ROOM_CREATE(ensure) failed: " ++ w.debug create.d)
        else doJoin refused roomId)
  | .connectToRoom roomId => doJoin refused roomId

def call (refused : UInt16 → Option String) : Opening → Call w Unit
  | .connect roomName => Common.Connect.connect refused roomName
  | .connectWithRoomId roomId => Common.Connect.connectWithRoomId refused roomId
  | .connectToRoom roomId => Common.Connect.connectToRoom refused roomId

theorem call_eq (refused : UInt16 → Option String) (opening : Opening) :
    (opening.call refused : Call w Unit) =
      (openSession refused).andThen (fun _ => opening.enter refused) := by
  cases opening <;> rfl

/-- The request that creates the room, if there is one. -/
def creates : Opening → Option (List (String × String))
  | .connect roomName => some [("name",roomName)]
  | .connectWithRoomId roomId => some [("room_id",roomId),("name",roomId)]
  | .connectToRoom _ => none

/-- The room to join: the one in the answer, or the one asked for. -/
def joins (w : ConnectWire) (create : Option Exchange) : Opening → Option String
  | .connect _ => create.bind (fun e =>
      w.asStr (w.index (frameToPacket w.toWire e.answer).d "room_id"))
  | .connectWithRoomId roomId => some roomId
  | .connectToRoom roomId => some roomId

end Opening

/-- What the server says to a session that is to enter a room. -/
structure Enters (w : ConnectWire) (opening : Opening) (create : Option Exchange)
    (join : Exchange) (roomId : String) : Prop where
  asked : create.isSome = opening.creates.isSome
  creates : ∀ e ∈ create,e.Meets (isAnswer w.toWire w.opRoomCreate) ∧
    (frameToPacket w.toWire e.answer).ok = some true
  named : opening.joins w create = some roomId
  joins : join.Meets (isAnswer w.toWire w.opRoomJoin)
  joined : (frameToPacket w.toWire join.answer).ok = some true

def created (s : Session w) (opening : Opening) (create : Option Exchange) (rest : List Incoming) :
    Session w :=
  create.elim s (fun e => requested s w.opRoomCreate (opening.creates.getD []) e rest)

def entered (s : Session w) (opening : Opening) (create : Option Exchange) (join : Exchange)
    (roomId : String) (rest : List Incoming) : Session w :=
  joinedWith (requested (created s opening create (join.read ++ rest)) w.opRoomJoin
    [("room_id",roomId)] join rest) roomId join

def readOf (create : Option Exchange) : List Incoming := create.elim [] Exchange.read

section enter
variable (refused : UInt16 → Option String) {s : Session w} (fresh : s.session.pid = 1) (t : Session w)
include fresh

theorem enter_creates (opening : Opening) {body : List (String × String)}
    (asks : opening.creates = some body) (refusal : Packet w.Json → String)
    (next : Packet w.Json → Call w Unit)
    (enters : opening.enter refused = (request refused w.opRoomCreate body).andThen (fun create =>
      if create.ok ≠ some true then fail (refusal create) else next create))
    (follows : ∀ (e : Exchange) (s : Session w), next (frameToPacket w.toWire e.answer) s = (.ok (),t) ↔
      ∃ roomId, opening.joins w (some e) = some roomId ∧ doJoin refused roomId s = (.ok (),t)) :
    opening.enter refused s = (.ok (),t) ↔
      ((opening.creates.isSome → refused w.opRoomCreate = none) ∧ refused w.opRoomJoin = none) ∧
        ∃ create join rest roomId, s.inbox = readOf create ++ join.read ++ rest ∧
          Enters w opening create join roomId ∧ t = entered s opening create join roomId rest := by
  have first : s.session.pid.toNat + 1 < 2^32 := by
    rw [fresh]
    decide
  have second (body : List (String × String)) (e : Exchange) (rest : List Incoming) :
      (requested s w.opRoomCreate body e rest).session.pid.toNat + 1 < 2^32 := by
    change (s.session.pid + 1).toNat + 1 < 2^32
    rw [fresh]
    decide
  rw [enters,create_ok refused body refusal next first]
  simp only [follows,doJoin_ok refused _ (second _ _ _)]
  constructor
  · intro ran
    obtain ⟨sent,e,later,split,meets,created,roomId,named,joins,join,rest,after,answers,joined,rfl⟩ := ran
    have tail : later = join.read ++ rest := after
    subst tail
    refine ⟨⟨fun _ => sent,joins⟩,some e,join,rest,roomId,?_,
      ⟨by rw [asks]; rfl,?_,named,answers,joined⟩,?_⟩
    · rw [split,List.append_assoc]
      rfl
    · intro other member
      cases member
      exact ⟨meets,created⟩
    · rw [entered,Handshake.created,asks]
      rfl
  · intro ran
    obtain ⟨⟨sent,joins⟩,create,join,rest,roomId,split,accepts,rfl⟩ := ran
    have asked : opening.creates.isSome := by rw [asks]; rfl
    obtain ⟨e,rfl⟩ := Option.isSome_iff_exists.mp (accepts.asked.trans asked)
    obtain ⟨meets,created⟩ := accepts.creates e rfl
    refine ⟨sent asked,e,join.read ++ rest,?_,meets,created,roomId,accepts.named,joins,join,rest,rfl,
      accepts.joins,accepts.joined,?_⟩
    · rw [split,List.append_assoc]
      rfl
    · rw [entered,Handshake.created,asks]
      rfl

theorem enter_ok (opening : Opening) :
    opening.enter refused s = (.ok (),t) ↔
      ((opening.creates.isSome → refused w.opRoomCreate = none) ∧ refused w.opRoomJoin = none) ∧
        ∃ create join rest roomId, s.inbox = readOf create ++ join.read ++ rest ∧
          Enters w opening create join roomId ∧ t = entered s opening create join roomId rest := by
  cases opening with
  | connect roomName =>
    apply enter_creates refused fresh t (.connect roomName) rfl _ _ rfl
    intro e s
    change _ ↔ ∃ roomId,w.asStr (w.index (frameToPacket w.toWire e.answer).d "room_id") =
      some roomId ∧ _
    cases w.asStr (w.index (frameToPacket w.toWire e.answer).d "room_id") with
    | none => simp [fail]
    | some roomId => simp
  | connectWithRoomId room =>
    apply enter_creates refused fresh t (.connectWithRoomId room) rfl _ _ rfl
    intro e s
    simp [Opening.joins]
  | connectToRoom room =>
    have first : s.session.pid.toNat + 1 < 2^32 := by
      rw [fresh]
      decide
    rw [Opening.enter,doJoin_ok refused room first]
    constructor
    · intro ran
      obtain ⟨joins,join,rest,split,answers,joined,rfl⟩ := ran
      exact ⟨⟨by simp [Opening.creates],joins⟩,none,join,rest,room,split,
        ⟨rfl,by simp,rfl,answers,joined⟩,rfl⟩
    · intro ran
      obtain ⟨⟨_,joins⟩,create,join,rest,roomId,split,accepts,rfl⟩ := ran
      have unasked : create = none := by
        rw [← Option.not_isSome_iff_eq_none,accepts.asked]
        exact Bool.false_ne_true
      subst unasked
      cases Option.some.inj accepts.named
      exact ⟨joins,join,rest,split,accepts.joins,accepts.joined,rfl⟩

end enter

def start (w : ConnectWire) (userId : String) (inbox : List Incoming) : Session w :=
  { userId := userId, inbox := inbox }

/-- What the server says to a session that is to be opened. -/
structure Accepts (w : ConnectWire) (opening : Opening) (hello identity : Exchange)
    (create : Option Exchange) (join : Exchange) (roomId : String) : Prop
    extends Enters w opening create join roomId where
  greets : hello.Meets (fun _ => true)
  hello : hello.answer.header.op = w.opHello
  identifies : identity.Meets (fun rf => rf.header.op == w.opIdentifyResult)

def othersOf (create : Option Exchange) : List Arrival := create.elim [] Exchange.others

def creation (w : ConnectWire) (opening : Opening) (create : Option Exchange) : List Outgoing :=
  create.elim [] (fun e =>
    [.message w.opRoomCreate 1 (opening.creates.getD [])] ++ acksOf w e.arrivals)

def connected (w : ConnectWire) (userId roomId : String) (opening : Opening)
    (hello identity : Exchange) (create : Option Exchange) (join : Exchange)
    (rest : List Incoming) : Session w where
  session := { buffered {} (identity.others ++ othersOf create ++ join.others) with
    pid := if create.isSome then 3 else 2 }
  userId := assigned w userId identity.answer
  roomId := roomId
  serverConfig := some (.parse w (frameToPacket w.toWire join.answer).d)
  inbox := rest
  outbox := acksOf w hello.arrivals ++
    [.message w.opIdentify 0 [("token","oxlab"),("user_id",userId)]] ++
    acksOf w identity.arrivals ++ creation w opening create ++
    [.message w.opRoomJoin (if create.isSome then 2 else 1) [("room_id",roomId)]] ++
    acksOf w join.arrivals

theorem greets_first {hello : Exchange} (greets : hello.Meets (fun _ => true)) :
    hello.others = [] := by
  rw [List.eq_nil_iff_forall_not_mem]
  intro arrival member
  have stopped := greets.passes arrival member
  contradiction

section connect
variable (refused : UInt16 → Option String) (userId : String) (inbox : List Incoming)

theorem connected_eq {hello : Exchange} (greets : hello.Meets (fun _ => true))
    (identity join : Exchange) (create : Option Exchange) (opening : Opening) (roomId : String)
    (between rest : List Incoming) :
    entered (identifiedWith (start w userId inbox) hello identity between) opening create join
      roomId rest = connected w userId roomId opening hello identity create join rest := by
  have three : (2 : UInt32) + 1 = 3 := rfl
  have two : (1 : UInt32) + 1 = 2 := rfl
  cases create with
  | none =>
    simp only [entered,created,Option.elim,joinedWith,requested,identifiedWith,through,sending,start,
      connected,creation,othersOf,buffered,greets_first greets,List.filter_append,List.map_append,
      List.filter_nil,List.map_nil,List.nil_append,List.append_nil,List.append_assoc,two]
    rfl
  | some e =>
    simp only [entered,created,Option.elim,joinedWith,requested,identifiedWith,through,sending,start,
      connected,creation,othersOf,buffered,greets_first greets,List.filter_append,List.map_append,
      List.filter_nil,List.map_nil,List.nil_append,List.append_assoc,three,two]
    rfl

/-- A session is opened exactly on what `Accepts` says, whatever stands between the
answers; it has then sent its messages, each after the answer it waits for, and once the
ACK of every event where its send went out, and holds every other frame in the order it
came. -/
theorem connect_iff (opening : Opening) (t : Session w) :
    opening.call refused (start w userId inbox) = (.ok (),t) ↔
      (refused w.opIdentify = none ∧
        (opening.creates.isSome → refused w.opRoomCreate = none) ∧ refused w.opRoomJoin = none) ∧
        ∃ hello identity create join rest roomId,
          inbox = hello.read ++ identity.read ++ readOf create ++ join.read ++ rest ∧
          Accepts w opening hello identity create join roomId ∧
          t = connected w userId roomId opening hello identity create join rest := by
  have fresh (hello identity : Exchange) (between : List Incoming) :
      (identifiedWith (start w userId inbox) hello identity between).session.pid = 1 := rfl
  rw [Opening.call_eq,andThen_ok]
  simp only [openSession_ok]
  constructor
  · intro ran
    obtain ⟨_,_,⟨identify,hello,identity,between,split,greets,op,identifies,rfl⟩,entering⟩ := ran
    rw [enter_ok refused (fresh hello identity between)] at entering
    obtain ⟨⟨creates,joins⟩,create,join,rest,roomId,after,enters,rfl⟩ := entering
    have tail : between = readOf create ++ join.read ++ rest := after
    refine ⟨⟨identify,creates,joins⟩,hello,identity,create,join,rest,roomId,?_,
      ⟨enters,greets,op,identifies⟩,connected_eq userId inbox greets ..⟩
    have whole : inbox = hello.read ++ identity.read ++ between := split
    rw [whole,tail]
    simp only [List.append_assoc]
  · intro ran
    obtain ⟨⟨identify,creates,joins⟩,hello,identity,create,join,rest,roomId,split,accepts,rfl⟩ := ran
    have whole : inbox = hello.read ++ identity.read ++ (readOf create ++ join.read ++ rest) := by
      rw [split]
      simp only [List.append_assoc]
    refine ⟨(),_,⟨identify,hello,identity,_,whole,accepts.greets,accepts.hello,accepts.identifies,
      rfl⟩,?_⟩
    rw [enter_ok refused (fresh hello identity _)]
    exact ⟨⟨creates,joins⟩,create,join,rest,roomId,rfl,accepts.toEnters,
      (connected_eq userId inbox accepts.greets ..).symm⟩

end connect

end Oxlab.Handshake
