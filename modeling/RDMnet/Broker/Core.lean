import RDMnet.Broker.Uids

/-!
# The core of a broker

`broker_core.cpp`: the clients of a broker, from a new connection over the Connect request to
destruction, and the routing of RPT messages between them.

`clients_` owns the clients; `rpt_clients_`, `controllers_` and `devices_` point to them.  A pointer is
the number of the object, so that one that does not point to the object that `clients_` has is seen to
dangle.  What the broker does with a dangling pointer is not defined; in the model it does nothing.
-/

namespace RDMnet

open BrokerKind

/-! ### Settings -/

/-- `rpt_status_code_t` -/
abbrev kRptStatusUnknownRptUid : UInt16 := 1
abbrev kRptStatusBroadcastComplete : UInt16 := 6
abbrev kRptStatusInvalidMessage : UInt16 := 8

/-- `Broker::Settings::Limits`; 0 is no limit. -/
structure BrokerLimits where
  connections : Nat := 0
  controllers : Nat := 0
  controllerMessages : Nat := 500
  devices : Nat := 0
  deviceMessages : Nat := 500
  rejectConnections : Nat := 1000

/-- `Broker::Settings`, as far as the core reads it. -/
structure BrokerSettings where
  cid : Uuid
  uid : RdmUid
  scope : Bytes
  limits : BrokerLimits

structure BrokerEnv where
  pal : EtcPal
  rdm : RdmLib
  settings : BrokerSettings

namespace BrokerEnv

/-- `my_uid_` -/
def myUid (env : BrokerEnv) : RdmUid :=
  if env.rdm.uidIsDynamicUidRequest env.settings.uid then { env.settings.uid with id := 1 }
  else env.settings.uid

/-- `next_device_id_` after `Startup`. -/
def firstDeviceId (env : BrokerEnv) : UInt32 :=
  if env.rdm.uidIsDynamicUidRequest env.settings.uid then 2 else 1

end BrokerEnv

/-- `HandleMessageResult` -/
inductive HandleMessageResult
  | getNextMessage | retryLater
  deriving DecidableEq, Repr

/-- `BrokerCore` -/
structure Broker where
  clients : Table Handle BrokerClient
  /-- The keys of `clients_` whose pointer is null. -/
  nulls : List Handle
  rptClients : Table Handle Nat
  controllers : Table Handle Nat
  devices : Table Handle Nat
  clientsToDestroy : List Handle
  uids : UidManager
  /-- The next object will be stored here. -/
  nextObject : Nat

namespace Broker

section Core

variable (env : BrokerEnv)

/-- After `Startup`. -/
def start : Broker := ⟨∅, [], ∅, ∅, ∅, [], .init env.firstDeviceId, 0⟩

/-- `clients_.size()` -/
def numClients (b : Broker) : Nat := b.clients.size + b.nulls.length

def updateAll (m : Table Handle Nat) (f : Handle → BrokerClient → BrokerClient) (b : Broker) :
    Broker :=
  { b with clients := b.clients.map fun h c => if m.lookup h = some c.object then f h c else c }

/-! ### Messages of the broker -/

def rptClientListMsg (vector : UInt16) (entries : List RptClientEntry) : BrokerMessage :=
  { (default : BrokerMessage) with
    vector
    clientList := ⟨kClientProtocolRPT, entries.foldl Arr.push .null, false⟩ }

/-- `SendClientsAdded` -/
def sendClientsAdded (handleToIgnore : Handle) (entries : List RptClientEntry) (b : Broker) :
    Broker :=
  b.updateAll b.controllers fun h c =>
    if h ≠ handleToIgnore then
      (c.push env.pal env.settings.cid (rptClientListMsg clientAdd.vector entries)).1
    else c

/-- `SendClientsRemoved` -/
def sendClientsRemoved (entries : List RptClientEntry) (b : Broker) : Broker :=
  b.updateAll b.controllers fun _ c =>
    (c.push env.pal env.settings.cid (rptClientListMsg clientRemove.vector entries)).1

/-- The entries that `SendRptClientList` sends. -/
def rptEntries (b : Broker) : List RptClientEntry :=
  b.rptClients.entries.filterMap fun ⟨h, object⟩ =>
    ((b.clients.lookup h).filter (·.object = object)).map (·.entry)

/-- `SendClientList`; nothing is sent to a client that is not an RPT client. -/
def sendClientList (clientHandle : Handle) (b : Broker) : Broker :=
  match b.clients.lookup clientHandle with
  | none => b
  | some c =>
    if c.isRpt ∧ b.rptEntries ≠ [] then
      { b with clients := b.clients.insert clientHandle (c.push env.pal env.settings.cid
        (rptClientListMsg connectedClientList.vector b.rptEntries)).1 }
    else b

/-! ### Destruction -/

/-- `MarkClientForDestruction` -/
def markClientForDestruction (clientHandle : Handle) (destroyAction : ClientDestroyAction)
    (b : Broker) : Broker :=
  match b.clients.lookup clientHandle with
  | none => b
  | some c =>
    let c := c.markForDestruction env.pal env.settings.cid env.myUid destroyAction
    let b := { b with clients := b.clients.insert clientHandle c }
    let b :=
      if c.isRpt then
        { b with uids := b.uids.removeUid c.entry.uid }.sendClientsRemoved env [c.entry]
      else b
    { b with clientsToDestroy := b.clientsToDestroy.insert c.handle }

def destroyed (b : Broker) (p : BrokerClient → Bool) : List Handle :=
  b.clientsToDestroy.filter fun h => (b.clients.lookup h).any p

/-- `DestroyMarkedClients` -/
def destroyMarkedClients (b : Broker) : Broker :=
  { b with
    clients := b.clients.eraseAll b.clientsToDestroy
    rptClients := b.rptClients.eraseAll (b.destroyed (·.isRpt))
    controllers := b.controllers.eraseAll
      (b.destroyed fun c => c.isRpt && c.entry.type = kRPTClientTypeController)
    devices := b.devices.eraseAll
      (b.destroyed fun c => c.isRpt && c.entry.type = kRPTClientTypeDevice)
    clientsToDestroy := [] }

/-! ### Connections -/

/-- `HandleNewConnection`, with the handle that the generator gives. -/
def handleNewConnection (newHandle : Handle) (newSock now : Nat) (b : Broker) : Broker :=
  let limits := env.settings.limits
  if limits.connections = 0 ∨ b.numClients ≤ limits.connections + limits.rejectConnections then
    { b with
      clients := b.clients.insert newHandle (.new b.nextObject newHandle newSock now)
      nextObject := b.nextObject + 1 }
  else b

/-- `ResolveNewClientUid`: the UID manager, the UID of the client, and the status if it fails. -/
def resolveNewClientUid (clientHandle : Handle) (clientEntry : RptClientEntry) (m : UidManager) :
    UidManager × RdmUid × Option UInt16 :=
  let status : AddResult → Option UInt16
    | .ok => none
    | .duplicateId => some kRdmnetConnectDuplicateUid
    | .capacityExceeded => some kRdmnetConnectCapacityExceeded
  if env.rdm.uidIsDynamicUidRequest clientEntry.uid then
    let (m, uid, res) := m.addDynamicUid clientHandle clientEntry.cid clientEntry.uid
    (m, uid, status res)
  else if env.rdm.uidIsStatic clientEntry.uid then
    let (m, res) := m.addStaticUid clientHandle clientEntry.uid
    (m, clientEntry.uid, status res)
  else (m, clientEntry.uid, some kRdmnetConnectInvalidUid)

/-- An RPT client takes the place of the one that has sent a Connect request, if there is one.  If the
handle is not in `clients_`, looking for it there puts it there. -/
def addRptClient (kind : ClientKind) (maxQSize : Nat) (clientHandle : Handle)
    (entry : RptClientEntry) (now : Nat) (b : Broker) : Broker × Option BrokerClient :=
  match b.clients.lookup clientHandle with
  | none => ({ b with nulls := b.nulls.insert clientHandle }, none)
  | some prev =>
    let c := BrokerClient.newRpt kind b.nextObject maxQSize entry now prev
    let m := if kind = .controller then b.controllers else b.devices
    let m := m.insertNew clientHandle b.nextObject
    ({ b with
        controllers := if kind = .controller then m else b.controllers
        devices := if kind = .controller then b.devices else m
        rptClients := b.rptClients.insertNew clientHandle b.nextObject
        clients := b.clients.insert clientHandle c
        nextObject := b.nextObject + 1 }, some c)

/-- The Connect Reply to a client that was added, and the news to the others. -/
def welcome (clientHandle : Handle) (c : BrokerClient) (b : Broker) : Broker :=
  let reply := { (default : BrokerMessage) with
    vector := connectReply.vector
    connectReply := ⟨kRdmnetConnectOk, e133Version, env.myUid, c.entry.uid⟩ }
  let b := { b with clients := b.clients.insert clientHandle (c.push env.pal env.settings.cid reply).1 }
  b.sendClientsAdded env clientHandle [c.entry]

/-- The rest of `ProcessRPTConnectRequest` for a client of a known type; `limit` is how many there may
be of it, and `size` how many there are. -/
def addWithin (limit size : Nat) (kind : ClientKind) (maxQSize : Nat) (clientHandle : Handle)
    (entry : RptClientEntry) (status : UInt16) (now : Nat) (b : Broker) : Broker × Bool × UInt16 :=
  if 0 < limit ∧ limit ≤ size then
    ({ b with uids := b.uids.removeUid entry.uid }, false, kRdmnetConnectCapacityExceeded)
  else
    match b.addRptClient kind maxQSize clientHandle entry now with
    | (b, none) => (b, false, status)
    | (b, some c) => (b.welcome env clientHandle c, true, status)

/-- `ProcessRPTConnectRequest`: whether the client is added, and the status if it is not.  The check of
the number of connections has no effect but on the status. -/
def processRPTConnectRequest (clientHandle : Handle) (clientEntry : RptClientEntry)
    (status : UInt16) (now : Nat) (b : Broker) : Broker × Bool × UInt16 :=
  let limits := env.settings.limits
  let status :=
    if 0 < limits.connections ∧ limits.connections ≤ b.numClients then kRdmnetConnectCapacityExceeded
    else status
  match resolveNewClientUid env clientHandle clientEntry b.uids with
  | (uids, _, some status) => ({ b with uids }, false, status)
  | (uids, uid, none) =>
    let b := { b with uids }
    let entry := { clientEntry with uid }
    if entry.type = kRPTClientTypeController then
      b.addWithin env limits.controllers b.controllers.size .controller limits.controllerMessages
        clientHandle entry status now
    else if entry.type = kRPTClientTypeDevice then
      b.addWithin env limits.devices b.devices.size .device limits.deviceMessages clientHandle entry
        status now
    else (b, true, status)

/-- `ProcessConnectRequest` -/
def processConnectRequest (clientHandle : Handle) (cmsg : BrokerClientConnectMsg) (now : Nat)
    (b : Broker) : Broker :=
  let (b, added, status) :=
    if cmsg.e133Version ≤ e133Version ∧ cmsg.scope.chars = env.settings.scope then
      if cmsg.clientEntry.clientProtocol = kClientProtocolRPT then
        b.processRPTConnectRequest env clientHandle cmsg.clientEntry.data kRdmnetConnectScopeMismatch
          now
      else (b, false, kRdmnetConnectInvalidClientEntry)
    else (b, false, kRdmnetConnectScopeMismatch)
  if added then b else b.markClientForDestruction env clientHandle (.sendConnectReply status)

/-! ### Routing -/

/-- `IsValidControllerDestinationUID` -/
def isValidControllerDestinationUID (uid : RdmUid) (b : Broker) : Bool :=
  env.rdm.uidIsDeviceBroadcast uid || env.rdm.uidIsDeviceManuBroadcast uid || uid = env.myUid ||
    (b.uids.uidToHandle uid).isSome

/-- `IsValidDeviceDestinationUID` -/
def isValidDeviceDestinationUID (uid : RdmUid) (b : Broker) : Bool :=
  env.rdm.uidIsControllerBroadcast uid || (b.uids.uidToHandle uid).isSome

/-- `FindRptClient`: the handle and the pointer in `rpt_clients_`. -/
def findRptClient (uid : RdmUid) (b : Broker) : Option (Handle × Nat) := do
  let h ← b.uids.uidToHandle uid
  let object ← b.rptClients.lookup h
  pure (h, object)

def destinations (dests : Table Handle Nat) (filter : BrokerClient → Bool) (b : Broker) :
    List BrokerClient :=
  dests.entries.filterMap fun ⟨h, object⟩ =>
    (b.clients.lookup h).filter fun c => c.object = object && filter c

/-- The result of pushing to several clients: the first that is not `Ok`. -/
def firstBad (results : List ClientPushResult) : ClientPushResult :=
  (results.find? (· ≠ .ok)).getD .ok

/-- `PushToRptClients`: nothing is pushed if one of the queues is full. -/
def pushToRptClients (senderHandle : Handle) (msg : RdmnetMessage) (dests : Table Handle Nat)
    (filter : BrokerClient → Bool) (b : Broker) : Broker × ClientPushResult :=
  if (b.destinations dests filter).any (!·.hasRoomToPush) then (b, .queueFull)
  else
    (b.updateAll dests fun _ c =>
        if filter c then (c.pushRpt env.pal senderHandle msg.senderCid msg.rpt).1 else c,
      firstBad ((b.destinations dests filter).map fun c =>
        (c.pushRpt env.pal senderHandle msg.senderCid msg.rpt).2))

/-- `PushToAllControllers` -/
def pushToAllControllers (senderHandle : Handle) (msg : RdmnetMessage) (b : Broker) :
    Broker × ClientPushResult :=
  b.pushToRptClients env senderHandle msg b.controllers fun _ => true

/-- `PushToAllDevices` -/
def pushToAllDevices (senderHandle : Handle) (msg : RdmnetMessage) (b : Broker) :
    Broker × ClientPushResult :=
  b.pushToRptClients env senderHandle msg b.devices fun _ => true

/-- `PushToManuSpecificDevices` -/
def pushToManuSpecificDevices (senderHandle : Handle) (msg : RdmnetMessage) (manu : UInt16)
    (b : Broker) : Broker × ClientPushResult :=
  b.pushToRptClients env senderHandle msg b.devices fun c => c.entry.uid.manu &&& 0x7fff = manu

/-- `PushToSpecificRptClient` -/
def pushToSpecificRptClient (senderHandle : Handle) (msg : RdmnetMessage) (b : Broker) :
    Broker × ClientPushResult :=
  match b.findRptClient msg.rpt.header.destUid with
  | none => (b, .error)
  | some (h, object) =>
    match (b.clients.lookup h).filter (·.object = object) with
    | none => (b, .error)
    | some c =>
      let (c, result) := c.pushRpt env.pal senderHandle msg.senderCid msg.rpt
      ({ b with clients := b.clients.insert h c }, result)

def isBroadcast (uid : RdmUid) : Bool :=
  env.rdm.uidIsControllerBroadcast uid || env.rdm.uidIsDeviceBroadcast uid ||
    env.rdm.uidIsDeviceManuBroadcast uid

/-- `HandleRPTClientBadPushResult` -/
def handleRPTClientBadPushResult (header : RptHeader) (result : ClientPushResult) (b : Broker) :
    HandleMessageResult :=
  if isBroadcast env header.destUid = false ∧ b.findRptClient header.destUid = none then
    .getNextMessage
  else if result = .queueFull then .retryLater
  else .getNextMessage

/-- The push of `RouteRPTMessage`. -/
def pushToDestination (clientHandle : Handle) (msg : RdmnetMessage) (b : Broker) :
    Broker × ClientPushResult :=
  let destUid := msg.rpt.header.destUid
  if env.rdm.uidIsControllerBroadcast destUid then b.pushToAllControllers env clientHandle msg
  else if env.rdm.uidIsDeviceBroadcast destUid then b.pushToAllDevices env clientHandle msg
  else if env.rdm.uidIsDeviceManuBroadcast destUid then
    b.pushToManuSpecificDevices env clientHandle msg (env.rdm.deviceBroadcastManuId destUid)
  else b.pushToSpecificRptClient env clientHandle msg

/-- `RouteRPTMessage` -/
def routeRPTMessage (clientHandle : Handle) (msg : RdmnetMessage) (b : Broker) :
    Broker × HandleMessageResult :=
  let (b, result) := b.pushToDestination env clientHandle msg
  if result = .ok then (b, .getNextMessage)
  else (b, b.handleRPTClientBadPushResult env msg.rpt.header result)

def statusHeader (header : RptHeader) : RptHeader :=
  { header with
    destEndpointId := header.sourceEndpointId
    destUid := header.sourceUid
    sourceEndpointId := header.destEndpointId
    sourceUid := header.destUid }

/-- `SendStatus` to the controller with this handle. -/
def sendStatus (controller : Handle) (c : BrokerClient) (header : RptHeader) (statusCode : UInt16)
    (b : Broker) : Broker × HandleMessageResult :=
  let newHeader := statusHeader header
  let (c, result) := c.pushStatus env.pal env.settings.cid newHeader ⟨statusCode, none⟩
  let b := { b with clients := b.clients.insert controller c }
  if result = .ok then (b, .getNextMessage)
  else (b, b.handleRPTClientBadPushResult env newHeader result)

/-- `ProcessRPTMessage` -/
def processRPTMessage (clientHandle : Handle) (msg : RdmnetMessage) (b : Broker) :
    Broker × HandleMessageResult :=
  match b.clients.lookup clientHandle with
  | none => (b, .getNextMessage)
  | some c =>
    let header := msg.rpt.header
    if !c.isRpt then (b, .getNextMessage)
    else if msg.rpt.vector = vectorRptRequest then
      if c.entry.type = kRPTClientTypeController then
        if !b.isValidControllerDestinationUID env header.destUid then
          b.sendStatus env clientHandle c header kRptStatusUnknownRptUid
        else if 1 < msg.rpt.rdm.items.toList.length then
          b.sendStatus env clientHandle c header kRptStatusInvalidMessage
        else b.routeRPTMessage env clientHandle msg
      else (b, .getNextMessage)
    else if msg.rpt.vector = vectorRptStatus then
      if c.entry.type = kRPTClientTypeDevice ∧
          b.isValidDeviceDestinationUID env header.destUid = true ∧
          msg.rpt.status.statusCode ≠ kRptStatusBroadcastComplete then
        b.routeRPTMessage env clientHandle msg
      else (b, .getNextMessage)
    else if msg.rpt.vector = vectorRptNotification then
      -- the type of an RPT client is never unknown
      if b.isValidDeviceDestinationUID env header.destUid then b.routeRPTMessage env clientHandle msg
      else (b, .getNextMessage)
    else (b, .getNextMessage)

/-! ### Events -/

/-- `HandleSocketMessageReceived` -/
def handleSocketMessageReceived (clientHandle : Handle) (msg : RdmnetMessage) (now : Nat)
    (b : Broker) : Broker × HandleMessageResult :=
  if msg.vector = acnVectorRootBroker then
    match ofVector msg.broker.vector with
    | .connect =>
      (b.processConnectRequest env clientHandle msg.broker.clientConnect now, .getNextMessage)
    | .fetchClientList => (b.sendClientList env clientHandle, .getNextMessage)
    | .disconnect => (b.markClientForDestruction env clientHandle .doNothing, .getNextMessage)
    | _ => (b, .getNextMessage)
  else if msg.vector = acnVectorRootRpt then b.processRPTMessage env clientHandle msg
  else (b, .getNextMessage)

/-- The turn of a client in `ServiceClients`; `res` is what its socket answers. -/
def serviceClient (clientHandle : Handle) (tcpConnExpired : Bool) (now : Nat)
    (res : Except EtcPalErr Nat) (b : Broker) : Broker :=
  if tcpConnExpired then b.markClientForDestruction env clientHandle .doNothing
  else
    match b.clients.lookup clientHandle with
    | none => b
    | some c =>
      { b with clients := b.clients.insert clientHandle (c.send env.pal env.settings.cid now res).1 }

/-- The events of a broker.  The handle of a new connection is that of the handle generator;
`ServiceClients` takes its clients in any order. -/
inductive Event
  | newConnection (newHandle : Handle) (newSock now : Nat)
  | messageReceived (clientHandle : Handle) (msg : RdmnetMessage) (now : Nat)
  | socketClosed (clientHandle : Handle)
  | service (clientHandle : Handle) (tcpConnExpired : Bool) (now : Nat) (res : Except EtcPalErr Nat)
  | destroyMarkedClients

/-- An event; the handle generator gives no handle that is in use. -/
def step (event : Event) (b : Broker) : Option Broker :=
  match event with
  | .newConnection newHandle newSock now =>
    if newHandle ∈ b.clients ∨ newHandle ∈ b.nulls ∨ newHandle < 0 then none
    else some (b.handleNewConnection env newHandle newSock now)
  | .messageReceived clientHandle msg now =>
    some (b.handleSocketMessageReceived env clientHandle msg now).1
  | .socketClosed clientHandle => some (b.markClientForDestruction env clientHandle .markSocketInvalid)
  | .service clientHandle tcpConnExpired now res =>
    some (b.serviceClient env clientHandle tcpConnExpired now res)
  | .destroyMarkedClients => some b.destroyMarkedClients

end Core

end Broker

end RDMnet
