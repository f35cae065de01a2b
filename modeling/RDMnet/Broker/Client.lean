import RDMnet.Conn.Buffer
import RDMnet.Core.Rdm
import RDMnet.Prot.RoundTrip

/-!
# The clients of a broker

`broker_client.cpp`: a client of the broker with its queues of outgoing messages.  `BrokerClient`,
`RPTController` and `RPTDevice` are one structure with a `kind`; a function that they override is one
function that looks at it.

A message in a queue carries the message it was packed from.  Two fields of a client are not in the
source: `queued` lists all messages that were ever packed for the client, and `wire` the bytes that
its socket has taken, each with the number of its message in `queued`.
-/

namespace RDMnet

/-- `BrokerClient::Handle` -/
abbrev Handle := Int

/-- `BrokerClient::kInvalidHandle` -/
def kInvalidHandle : Handle := -1

/-- `MessageRef`: `data` is what `msg` is packed into, and `size` its length. -/
structure MessageRef where
  id : Nat
  msg : Uuid × Outgoing
  sizeSent : Nat

inductive ClientKind
  | pending | controller | device
  deriving DecidableEq, Repr

/-- `ClientDestroyAction` -/
inductive ClientDestroyAction
  | doNothing
  | sendDisconnect (reason : UInt16)
  | sendConnectReply (connectStatus : UInt16)
  | markSocketInvalid
  deriving DecidableEq, Repr

/-- `ClientPushResult` -/
inductive ClientPushResult
  | ok | queueFull | error
  deriving DecidableEq, Repr

abbrev brokerConnectReplyFullMsgSize : Nat := brokerPduFullHeaderSize + brokerConnectReplyDataSize
abbrev brokerDisconnectFullMsgSize : Nat := brokerPduFullHeaderSize + disconnectDataSize
abbrev brokerNullFullMsgSize : Nat := brokerPduFullHeaderSize

/-! ### The queue of a device -/

/-- `RPTDevice::RptMsgQ`: the map from controllers to their messages is a list, sorted by handle. -/
structure RptMsgQ where
  totalMsgCount : Nat
  rptMsgs : List (Handle × List MessageRef)
  currentController : Handle

namespace RptMsgQ

def init : RptMsgQ := ⟨0, [], kInvalidHandle⟩

/-- `empty` -/
def empty (q : RptMsgQ) : Bool := q.totalMsgCount = 0

/-- The entries of the map from `upper_bound(current_controller_)` on, and around. -/
def rotated (q : RptMsgQ) : List (Handle × List MessageRef) :=
  q.rptMsgs.filter (q.currentController < ·.1) ++ q.rptMsgs.filter (·.1 ≤ q.currentController)

/-- The loop of `front`, up to where it returns: past empty queues, but not past the controller that
was served last.  Behind the last entry of `rotated` the loop of the source starts all over again,
which happens only if all queues are empty. -/
def frontLoop (current : Handle) : List (Handle × List MessageRef) → Option (Handle × MessageRef)
  | [] => none
  | (h, []) :: rest => if h = current then none else frontLoop current rest
  | (h, m :: _) :: _ => some (h, m)

/-- `front`: the message, and the controller that is served. -/
def front (q : RptMsgQ) : Option (Handle × MessageRef) := frontLoop q.currentController q.rotated

def get (q : RptMsgQ) (h : Handle) : List MessageRef := (q.rptMsgs.lookup h).getD []

def modify (h : Handle) (f : List MessageRef → List MessageRef) (q : RptMsgQ) : RptMsgQ :=
  { q with rptMsgs := q.rptMsgs.map fun e => if e.1 = h then (e.1, f e.2) else e }

/-- `pop_front` -/
def popFront (q : RptMsgQ) : RptMsgQ :=
  if q.currentController ≠ kInvalidHandle then
    { q.modify q.currentController (·.drop 1) with totalMsgCount := q.totalMsgCount - 1 }
  else q

/-- `rpt_msgs_[controller].push_back(value)` -/
def insert (controller : Handle) (value : MessageRef) :
    List (Handle × List MessageRef) → List (Handle × List MessageRef)
  | [] => [(controller, [value])]
  | (h, ms) :: rest =>
    if controller < h then (controller, [value]) :: (h, ms) :: rest
    else if controller = h then (h, ms ++ [value]) :: rest
    else (h, ms) :: insert controller value rest

/-- `push_back` -/
def pushBack (controller : Handle) (value : MessageRef) (q : RptMsgQ) : RptMsgQ :=
  { q with rptMsgs := insert controller value q.rptMsgs, totalMsgCount := q.totalMsgCount + 1 }

/-- `RemoveCurrentController` -/
def removeCurrentController (q : RptMsgQ) : RptMsgQ :=
  { q with
    totalMsgCount := q.totalMsgCount - (q.get q.currentController).length
    rptMsgs := q.rptMsgs.filter (·.1 ≠ q.currentController) }

end RptMsgQ

/-! ### Clients -/

/-- A client.  An RPT client has a client entry; `object` is its place in memory. -/
structure BrokerClient where
  object : Nat
  kind : ClientKind
  handle : Handle
  socket : Option Nat
  maxQSize : Nat
  markedForDestruction : Bool
  entry : RptClientEntry
  brokerMsgs : List MessageRef
  statusMsgs : List MessageRef
  /-- `RPTController::rpt_msgs_` -/
  rptMsgs : List MessageRef
  /-- `RPTDevice::rpt_msgs_` -/
  rptMsgQ : RptMsgQ
  sendTimer : EtcPalTimer
  queued : List (Uuid × Outgoing)
  wire : List (Nat × UInt8)

namespace BrokerClient

/-- The constructor of a client that has not connected yet. -/
def new (object : Nat) (handle : Handle) (socket : Nat) (now : Nat) : BrokerClient where
  object
  kind := .pending
  handle
  socket := some socket
  maxQSize := 0
  markedForDestruction := false
  entry := default
  brokerMsgs := []
  statusMsgs := []
  rptMsgs := []
  rptMsgQ := .init
  sendTimer := ⟨now, 15000⟩
  queued := []
  wire := []

/-- The constructors of `RPTController` and `RPTDevice`: the queues and the mark of the client before
are not copied. -/
def newRpt (kind : ClientKind) (object maxQSize : Nat) (entry : RptClientEntry) (now : Nat)
    (prev : BrokerClient) : BrokerClient :=
  { new object prev.handle 0 now with socket := prev.socket, kind, maxQSize, entry }

/-- `client_protocol_ == E133_CLIENT_PROTOCOL_RPT` -/
def isRpt (c : BrokerClient) : Bool := c.kind ≠ .pending

/-- The number of messages that count against `max_q_size_`. -/
def queueSize (c : BrokerClient) : Nat :=
  match c.kind with
  | .pending => c.brokerMsgs.length
  | .controller => c.statusMsgs.length + c.brokerMsgs.length + c.rptMsgs.length
  | .device => c.statusMsgs.length + c.brokerMsgs.length + c.rptMsgQ.totalMsgCount

/-- `HasRoomToPush` -/
def hasRoomToPush (c : BrokerClient) : Bool := c.maxQSize = 0 ∨ c.queueSize < c.maxQSize

section Push

variable (pal : EtcPal)

def enqueue (put : MessageRef → BrokerClient → BrokerClient) (msg : Uuid × Outgoing)
    (c : BrokerClient) : BrokerClient × ClientPushResult :=
  if msg.2.bytes pal msg.1 = [] then (c, .error)
  else ({ put ⟨c.queued.length, msg, 0⟩ c with queued := c.queued ++ [msg] }, .ok)

def putBroker (m : MessageRef) (c : BrokerClient) : BrokerClient :=
  { c with brokerMsgs := c.brokerMsgs ++ [m] }

def putStatus (m : MessageRef) (c : BrokerClient) : BrokerClient :=
  { c with statusMsgs := c.statusMsgs ++ [m] }

def putRpt (m : MessageRef) (c : BrokerClient) : BrokerClient :=
  { c with rptMsgs := c.rptMsgs ++ [m] }

def putFrom (controller : Handle) (m : MessageRef) (c : BrokerClient) : BrokerClient :=
  { c with rptMsgQ := c.rptMsgQ.pushBack controller m }

/-- The message that `PushPostSizeCheck` packs for a Broker message, if there is one. -/
def brokerOutgoing (msg : BrokerMessage) : Option Outgoing :=
  let clientList := msg.clientList.rpt.items.toList
  let list : Option Outgoing :=
    if msg.clientList.clientProtocol = kClientProtocolRPT then
      some (.rptClientList (brokerPduFullHeaderSize + clientList.length * rptClientEntrySize)
        msg.vector clientList)
    else none
  match BrokerKind.ofVector msg.vector with
  | .connectReply => some (.connectReply brokerConnectReplyFullMsgSize msg.connectReply)
  | .connectedClientList => list
  | .clientAdd => list
  | .clientRemove => list
  | .clientEntryChange => list
  | .disconnect => some (.disconnect brokerDisconnectFullMsgSize msg.disconnect)
  | _ => none

/-- `BrokerClient::PushPostSizeCheck` -/
def pushPostSizeCheck (senderCid : Uuid) (msg : BrokerMessage) (c : BrokerClient) :
    BrokerClient × ClientPushResult :=
  if c.markedForDestruction then (c, .error) else
    match brokerOutgoing msg with
    | some out => c.enqueue pal putBroker (senderCid, out)
    | none => (c, .error)

/-- The checks that every `Push` begins with. -/
def checked (c : BrokerClient) (push : BrokerClient × ClientPushResult) :
    BrokerClient × ClientPushResult :=
  if c.markedForDestruction then (c, .error)
  else if !c.hasRoomToPush then (c, .queueFull)
  else push

/-- `Push` of a Broker message. -/
def push (senderCid : Uuid) (msg : BrokerMessage) (c : BrokerClient) :
    BrokerClient × ClientPushResult :=
  c.checked (c.pushPostSizeCheck pal senderCid msg)

/-- `RPTClient::PushPostSizeCheck` -/
def pushStatusPostSizeCheck (senderCid : Uuid) (header : RptHeader) (msg : RptStatusMsg)
    (c : BrokerClient) : BrokerClient × ClientPushResult :=
  c.enqueue pal putStatus
    (senderCid, .status (rptPduFullHeaderSize + calcStatusPduSize msg) header msg)

/-- `RPTController::Push` of a status message. -/
def pushStatus (senderCid : Uuid) (header : RptHeader) (msg : RptStatusMsg) (c : BrokerClient) :
    BrokerClient × ClientPushResult :=
  c.checked (c.pushStatusPostSizeCheck pal senderCid header msg)

/-- An RPT Request with the first RDM command of a list. -/
def requestOutgoing (msg : RptMessage) : Option Outgoing :=
  msg.rdm.items.toList.head?.map fun cmd =>
    .request (rptPduFullHeaderSize + calcRequestPduSize cmd) msg.header cmd

/-- `Push` of an RPT message from a client. -/
def pushRpt (fromConn : Handle) (senderCid : Uuid) (msg : RptMessage) (c : BrokerClient) :
    BrokerClient × ClientPushResult :=
  let request (put : MessageRef → BrokerClient → BrokerClient) : BrokerClient × ClientPushResult :=
    match requestOutgoing msg with
    | some out => c.enqueue pal put (senderCid, out)
    | none => (c, .error)
  match c.kind with
  | .pending => (c, .error)
  | .controller =>
    c.checked <|
      if msg.vector = vectorRptRequest then request putRpt
      else if msg.vector = vectorRptStatus then
        c.pushStatusPostSizeCheck pal senderCid msg.header msg.status
      else if msg.vector = vectorRptNotification then
        let cmds := msg.rdm.items.toList
        c.enqueue pal putRpt (senderCid,
          .notification (rptPduFullHeaderSize + calcNotificationPduSize cmds) msg.header cmds)
      else (c, .error)
  | .device =>
    c.checked <|
      if msg.vector = vectorRptStatus then
        c.pushStatusPostSizeCheck pal senderCid msg.header msg.status
      else if msg.vector = vectorRptRequest then request (putFrom fromConn)
      else (c, .error)

/-! ### Destruction -/

/-- `ClearAllQueues` -/
def clearAllQueues (c : BrokerClient) : BrokerClient :=
  match c.kind with
  | .pending => { c with brokerMsgs := [] }
  | .controller => { c with brokerMsgs := [], statusMsgs := [], rptMsgs := [] }
  | .device => { c with brokerMsgs := [], statusMsgs := [], rptMsgQ := .init }

/-- `ApplyDestroyAction` -/
def applyDestroyAction (brokerCid : Uuid) (brokerUid : RdmUid) (action : ClientDestroyAction)
    (c : BrokerClient) : BrokerClient :=
  match action with
  | .sendConnectReply connectStatus =>
    (c.push pal brokerCid { (default : BrokerMessage) with
      vector := BrokerKind.connectReply.vector
      connectReply := ⟨connectStatus, e133Version, brokerUid, default⟩ }).1
  | .sendDisconnect reason =>
    (c.push pal brokerCid { (default : BrokerMessage) with
      vector := BrokerKind.disconnect.vector
      disconnect := reason }).1
  | .markSocketInvalid => { c with socket := none }
  | .doNothing => c

/-- `MarkForDestruction` -/
def markForDestruction (brokerCid : Uuid) (brokerUid : RdmUid) (action : ClientDestroyAction)
    (c : BrokerClient) : BrokerClient :=
  { c.clearAllQueues.applyDestroyAction pal brokerCid brokerUid action with
    markedForDestruction := true }

/-! ### Sending -/

/-- Where the next message comes from. -/
inductive Queue
  | broker | status | rpt
  /-- The messages of a device from this controller. -/
  | of (controller : Handle)
  deriving DecidableEq

/-- The message that `Send` picks; a device remembers which controller it serves. -/
def pick (c : BrokerClient) : Option (Queue × MessageRef) :=
  match c.kind, c.brokerMsgs, c.statusMsgs, c.rptMsgs with
  | _, m :: _, _, _ => some (.broker, m)
  | .pending, [], _, _ => none
  | .controller, [], m :: _, _ => some (.status, m)
  | .controller, [], [], m :: _ => some (.rpt, m)
  | .controller, [], [], [] => none
  | .device, [], _, _ =>
    if c.rptMsgQ.empty then none else c.rptMsgQ.front.map fun (h, m) => (.of h, m)

def modifyQueue (q : Queue) (f : List MessageRef → List MessageRef) (c : BrokerClient) :
    BrokerClient :=
  match q with
  | .broker => { c with brokerMsgs := f c.brokerMsgs }
  | .status => { c with statusMsgs := f c.statusMsgs }
  | .rpt => { c with rptMsgs := f c.rptMsgs }
  | .of h => { c with rptMsgQ := c.rptMsgQ.modify h f }

def popQueue (q : Queue) (c : BrokerClient) : BrokerClient :=
  match q with
  | .of _ => { c with rptMsgQ := c.rptMsgQ.popFront }
  | q => c.modifyQueue q (·.drop 1)

/-- `rptMsgQ.front()` has set `current_controller_`. -/
def serve (q : Queue) (c : BrokerClient) : BrokerClient :=
  match q with
  | .of h => { c with rptMsgQ.currentController := h }
  | _ => c

/-- `rc_send` on the socket of the client, which fails on an invalid socket. -/
def rcSend (res : Except EtcPalErr Nat) (c : BrokerClient) : Except EtcPalErr Nat :=
  if c.socket.isSome then res else .error .sys

/-- `&msg.data[msg.size_sent]` -/
def unsent (m : MessageRef) : Bytes := (m.msg.2.bytes pal m.msg.1).drop m.sizeSent

def accept (id : Nat) (bytes : Bytes) (c : BrokerClient) : BrokerClient :=
  { c with wire := c.wire ++ bytes.map (id, ·) }

/-- `SendNull`: whatever the socket takes of the message is all there will be of it. -/
def sendNull (brokerCid : Uuid) (now : Nat) (res : Except EtcPalErr Nat) (c : BrokerClient) :
    BrokerClient × Bool :=
  let msg : Uuid × Outgoing := (brokerCid, .null brokerNullFullMsgSize)
  match c.rcSend res with
  | .ok n =>
    ({ c.accept c.queued.length ((msg.2.bytes pal msg.1).take n) with
        queued := c.queued ++ [msg], sendTimer.resetTime := now }, true)
  | .error _ => (c, false)

/-- The rest of `Send` with the message that was picked.  Only a `BrokerClient` leaves its send timer
alone when a message is done, and only a `RPTDevice` forgets a controller when sending fails. -/
def sendMessage (now : Nat) (res : Except EtcPalErr Nat) (q : Queue) (m : MessageRef)
    (c : BrokerClient) : BrokerClient × Bool :=
  let c := c.serve q
  match c.rcSend res with
  | .ok n =>
    let c := c.accept m.id ((unsent pal m).take n)
    if (m.msg.2.bytes pal m.msg.1).length ≤ m.sizeSent + n then
      let c := c.popQueue q
      (if c.kind = .pending then c else { c with sendTimer.resetTime := now }, true)
    else
      (c.modifyQueue q (fun ms => { m with sizeSent := m.sizeSent + n } :: ms.drop 1), true)
  | .error err =>
    match q with
    | .of _ =>
      if err ≠ .wouldBlock then ({ c with rptMsgQ := c.rptMsgQ.removeCurrentController }, false)
      else (c, false)
    | _ => (c, false)

/-- `Send`, at time `now`; `res` is the result of `rc_send`. -/
def send (brokerCid : Uuid) (now : Nat) (res : Except EtcPalErr Nat) (c : BrokerClient) :
    BrokerClient × Bool :=
  match c.pick with
  | some (q, m) => c.sendMessage pal now res q m
  | none =>
    if etcpalTimerIsExpired c.sendTimer now then c.sendNull pal brokerCid now res
    else (c, false)

end Push

end BrokerClient

end RDMnet
