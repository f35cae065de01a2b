import RDMnet.Client.Scope
import RDMnet.Conn.Notices

/-!
# The client

`client.c` for an RPT client with all its scopes: the calls of the application, the callbacks of
discovery and of the connections, and the end of the client.

Discovery and the connections run in one background thread, the tick thread.  It works on one scope
after the other, and the callbacks of discovery come between two such pieces of work.  The
application can come in wherever the thread does not hold the client's lock.
-/

namespace RDMnet

/-- `RCClient` -/
structure RCClient (β ι : Type) where
  data : ClientData
  markedForDestruction : Bool
  scopes : List (RCClientScope β ι)
  targetValid : Bool
  /-- Ghost data: the calls of the `destroyed` callback, with the handles of the scopes and
  `target_valid` at each of them. -/
  destroyedCalls : List (List (Option Nat) × Bool)

/-- What the calls of `rc_client_add_scope` come to. -/
structure AddScopeRes (β : Type) where
  /-- `get_next_int_handle` -/
  handle : Option Nat
  /-- Whether there is memory for a new entry. -/
  memory : Bool
  /-- `rc_conn_register` -/
  register : EtcPalErr
  /-- `rdmnet_disc_start_monitoring` -/
  monitor : Except EtcPalErr Nat
  /-- What a new entry, whose memory is not initialized, holds. -/
  buf : β
  connData : BrokerClientConnectMsg
  now : Nat

section Functions

variable {β ι : Type} (env : ClientEnv β ι)

namespace RCClient

def modifyScope (i : Nat) (f : RCClientScope β ι → RCClientScope β ι) (c : RCClient β ι) :
    RCClient β ι :=
  { c with scopes := c.scopes.modify i f }

/-- `get_scope` -/
def getScope (handle : Nat) (c : RCClient β ι) : Option Nat :=
  c.scopes.findIdx? (·.handle = some handle)

/-- `get_scope_by_id` -/
def getScopeById (scope : Bytes) (c : RCClient β ι) : Option Nat :=
  c.scopes.findIdx? fun sc =>
    sc.handle.isSome ∧ sc.state ≠ .markedForDestruction ∧ sc.id.chars = scope

/-- `rc_rpt_client_register`, if it succeeds. -/
def rcRptClientRegister (data : ClientData) (createLlrpTarget : Bool) : RCClient β ι :=
  ⟨data, false, [], createLlrpTarget, []⟩

/-! ### New scopes -/

def newEntry (r : AddScopeRes β) : RCClientScope β ι where
  handle := none
  state := .inactive
  id := default
  staticBrokerAddr := ⟨none, 0⟩
  uid := default
  monitorHandle := none
  brokerFound := false
  brokerName := default
  brokerListenAddrs := []
  currentListenAddr := 0
  port := 0
  currentBrokerAddr := none
  unhealthyCounter := 0
  conn := { rcConnRegister env.conn r.buf r.connData r.now with listed := .removed }
  telling := none
  removed := none
  late := []
  refused := 0

/-- `get_unused_scope_entry` -/
def getUnusedScopeEntry (r : AddScopeRes β) (c : RCClient β ι) : Option (Nat × RCClient β ι) :=
  match c.scopes.findIdx? (·.handle.isNone) with
  | some i => some (i, c)
  | none =>
    if r.memory then some (c.scopes.length, { c with scopes := c.scopes ++ [newEntry env r] })
    else none

/-- What `create_and_add_scope_entry` writes to an entry. -/
def createScopeEntry (data : ClientData) (config : ScopeConfig) (handle : Nat) (r : AddScopeRes β)
    (sc : RCClientScope β ι) : RCClientScope β ι :=
  { sc with
    handle := some handle
    id := safeStrncpy e133ScopeStringPaddedLength scopeString_pos config.scope
    staticBrokerAddr := config.staticBrokerAddr
    state := if config.staticBrokerAddr.ip.isSome then .connecting else .discovery
    uid := data.uid
    monitorHandle := none
    brokerFound := false
    brokerListenAddrs := []
    currentListenAddr := 0
    port := 0
    currentBrokerAddr := none
    unhealthyCounter := 0
    conn := rcConnRegister env.conn sc.conn.conn.recvBuf sc.conn.conn.connData r.now
    telling := none
    removed := none
    late := []
    refused := 0 }

/-- The rest of `rc_client_add_scope`: discovery or the connection is started, and if that fails
the scope is marked. -/
def startNewScope (data : ClientData) (config : ScopeConfig) (r : AddScopeRes β)
    (sc : RCClientScope β ι) : RCClientScope β ι × EtcPalErr :=
  let (sc, res) :=
    if config.staticBrokerAddr.ip.isNone then sc.startScopeDiscovery r.monitor
    else sc.startConnectionForScope env data sc.staticBrokerAddr none
  (if res = .ok then sc else sc.markScopeForDestruction none, res)

/-- A new scope in the entry `sc`. -/
def newScope (data : ClientData) (config : ScopeConfig) (handle : Nat) (r : AddScopeRes β)
    (sc : RCClientScope β ι) : RCClientScope β ι × EtcPalErr :=
  startNewScope env data config r (createScopeEntry env data config handle r sc)

/-- `rc_client_add_scope` -/
def rcClientAddScope (config : ScopeConfig) (r : AddScopeRes β) (c : RCClient β ι) :
    RCClient β ι × EtcPalErr :=
  if (c.getScopeById config.scope).isSome then (c, kEtcPalErrExists)
  else
    match r.handle with
    | none => (c, kEtcPalErrNoMem)
    | some handle =>
      match getUnusedScopeEntry env r c with
      | none => (c, kEtcPalErrNoMem)
      | some (i, c) =>
        if r.register ≠ .ok then (c, r.register)
        else
          (c.modifyScope i fun sc => (newScope env c.data config handle r sc).1,
            ((c.scopes[i]?).map fun sc => (newScope env c.data config handle r sc).2).getD .sys)

/-! ### Calls of the application -/

/-- `rc_client_remove_scope` -/
def rcClientRemoveScope (handle : Nat) (disconnectReason : UInt16) (c : RCClient β ι) :
    RCClient β ι × EtcPalErr :=
  match c.getScope handle with
  | none => (c, kEtcPalErrNotFound)
  | some i => (c.modifyScope i (·.remove disconnectReason), .ok)

/-- `rc_client_change_scope` -/
def rcClientChangeScope (handle : Nat) (config : ScopeConfig) (disconnectReason : UInt16)
    (monitor : Except EtcPalErr Nat) (c : RCClient β ι) : RCClient β ι × EtcPalErr :=
  match c.getScope handle with
  | none => (c, kEtcPalErrNotFound)
  | some i =>
    (c.modifyScope i fun sc => (sc.change env c.data config disconnectReason monitor).1,
      ((c.scopes[i]?).map fun sc => (sc.change env c.data config disconnectReason monitor).2).getD .sys)

/-- `rc_client_change_search_domain`, where discovery on scope `i` gives `monitor i`. -/
def rcClientChangeSearchDomain (newSearchDomain : Bytes) (disconnectReason : UInt16)
    (monitor : Nat → Except EtcPalErr Nat) (c : RCClient β ι) : RCClient β ι :=
  if newSearchDomain = c.data.searchDomain.chars then c
  else
    { c with
      data.searchDomain :=
        safeStrncpy e133DomainStringPaddedLength domainString_pos newSearchDomain
      scopes := c.scopes.mapIdx fun i sc => sc.changeSearchDomain disconnectReason (monitor i) }

/-! ### The end of a client -/

/-- `client_fully_destroyed` -/
def clientFullyDestroyed (c : RCClient β ι) : RCClient β ι × Bool :=
  if c.targetValid then (c, false)
  else if c.scopes.all (·.handle.isNone) then ({ c with scopes := [] }, true)
  else (c, false)

/-- `rc_client_unregister`; the LLRP target, if there is one, is unregistered too. -/
def rcClientUnregister (disconnectReason : UInt16) (c : RCClient β ι) : RCClient β ι × Bool :=
  clientFullyDestroyed
    { c with
      scopes := c.scopes.map fun sc =>
        if sc.handle.isSome then sc.remove disconnectReason else sc
      markedForDestruction := true }

/-- The end of `conncb_destroyed` and `llrpcb_target_destroyed`: the application is told if nothing
is left. -/
def tellIfDestroyed (c : RCClient β ι) : RCClient β ι :=
  if c.markedForDestruction then
    let (c', sendDestroyedCb) := c.clientFullyDestroyed
    if sendDestroyedCb then
      { c' with
        destroyedCalls := c.destroyedCalls ++ [(c.scopes.map (·.handle), c.targetValid)] }
    else c'
  else c

/-- `conncb_destroyed` of the connection of scope `i`. -/
def conncbDestroyed (i : Nat) (c : RCClient β ι) : RCClient β ι :=
  (c.modifyScope i (·.ended)).tellIfDestroyed

/-- `llrpcb_target_destroyed` -/
def llrpcbTargetDestroyed (c : RCClient β ι) : RCClient β ι :=
  { c with targetValid := false }.tellIfDestroyed

end RCClient

/-! ### Steps -/

/-- What the background thread does with a scope. -/
inductive ScopeEvent (ι : Type)
  | brokerFound (info : FoundBroker) (copied : Bool)
  | brokerUpdated (info : FoundBroker) (copied : Bool)
  | brokerLost
  /-- A step of the connection that calls nothing back. -/
  | connection (a : Action ι)
  /-- A tick comes to a connection that was marked after the tick had removed the marked ones. -/
  | visit
  /-- A callback of the connection does what it does with the lock. -/
  | notify
  /-- It calls the application; `rpt_msg_received` asks for `action`. -/
  | callback (action : MessageAction)

/-- The thread is not in the middle of something on this scope. -/
def RCClientScope.Idle (sc : RCClientScope β ι) : Prop :=
  sc.conn.thread = .idle ∧ sc.telling = none

instance (sc : RCClientScope β ι) : Decidable sc.Idle := inferInstanceAs (Decidable (_ ∧ _))

/-- The steps of a connection that the thread takes on its own. -/
def Action.OfThread (a : Action ι) (s : Sys β ι) : Prop :=
  match a with
  | .connect _ _ => False
  | .reconnect _ _ _ => False
  | .disconnect _ => False
  | .unregister _ => False
  | .deliver _ => s.thread.event = .none
  | _ => True

instance (a : Action ι) (s : Sys β ι) : Decidable (a.OfThread s) := by
  delta Action.OfThread
  rcases a with _ | _ <;> (dsimp only; infer_instance)

/-- What `conncb_msg_received` returns to the connection. -/
def ClientCallback.action (action : MessageAction) : ClientCallback → MessageAction
  | .rptMsgReceived _ => action
  | _ => .processNext

namespace RCClientScope

def moveConnection (a : Action ι) (sc : RCClientScope β ι) : Option (RCClientScope β ι) :=
  (connStep env.conn a sc.conn).map fun conn => { sc with conn }

/-- `deliver_event_callback` up to where the application is called; without such a call the thread
goes on. -/
def notify (data : ClientData) (sc : RCClientScope β ι) : Option (RCClientScope β ι) :=
  match sc.conn.thread.event with
  | .none => none
  | .connected info => some (sc.conncbConnected env data info)
  | .connectFailed info => some (sc.conncbConnectFailed env data info)
  | .disconnected info => some (sc.conncbDisconnected env data info)
  | .msgReceived message =>
    match sc.conncbMsgReceived env message with
    | some callback => some { sc with telling := some callback }
    | none => sc.moveConnection env (.deliver .processNext)

def callback (action : MessageAction) (sc : RCClientScope β ι) : Option (RCClientScope β ι) :=
  match sc.telling with
  | none => none
  | some told =>
    ({ sc with
        telling := none
        late := if sc.removed.isSome then sc.late ++ [told] else sc.late } :
      RCClientScope β ι).moveConnection env (.deliver (told.action action))

def step (data : ClientData) (e : ScopeEvent ι) (sc : RCClientScope β ι) :
    Option (RCClientScope β ι) :=
  match e with
  -- discovery calls back for a scope that it watches
  | .brokerFound info copied =>
    if sc.Idle ∧ sc.monitorHandle.isSome then some (sc.monitorcbBrokerFound env data info copied)
    else none
  | .brokerUpdated info copied =>
    if sc.Idle ∧ sc.monitorHandle.isSome then some (sc.monitorcbBrokerUpdated info copied)
    else none
  | .brokerLost =>
    if sc.Idle ∧ sc.monitorHandle.isSome then some sc.monitorcbBrokerLost else none
  | .connection a =>
    if sc.telling = none ∧ a.OfThread sc.conn then sc.moveConnection env a else none
  | .visit =>
    if sc.Idle ∧ sc.conn.listed = .active ∧ sc.conn.toRemove then
      some { sc with conn.thread := .receive .tick sc.conn.conn.retryCurrentMessage }
    else none
  | .notify => if sc.telling = none then sc.notify env data else none
  | .callback action => sc.callback env action

end RCClientScope

/-- What can happen next. -/
inductive ClientAction (β ι : Type)
  | addScope (config : ScopeConfig) (r : AddScopeRes β)
  | removeScope (handle : Nat) (disconnectReason : UInt16)
  | changeScope (handle : Nat) (config : ScopeConfig) (disconnectReason : UInt16)
      (monitor : Except EtcPalErr Nat)
  | changeSearchDomain (newSearchDomain : Bytes) (disconnectReason : UInt16)
      (monitor : Nat → Except EtcPalErr Nat)
  | unregister (disconnectReason : UInt16)
  | event (i : Nat) (e : ScopeEvent ι)
  | targetDestroyed

namespace RCClient

/-- A step of the background thread on scope `i`, while it is not in the middle of something on another
one.  If it destroys the connection, `conncb_destroyed` is called. -/
def eventStep (i : Nat) (e : ScopeEvent ι) (c : RCClient β ι) : Option (RCClient β ι) :=
  if (c.scopes.eraseIdx i).all (·.Idle) then
    match c.scopes[i]? with
    | none => none
    | some sc =>
      match sc.step env c.data e with
      | none => none
      | some sc' =>
        let c' := { c with scopes := c.scopes.set i sc' }
        if sc.conn.listed ≠ .removed ∧ sc'.conn.listed = .removed then some (c'.conncbDestroyed i)
        else some c'
  else none

def step (a : ClientAction β ι) (c : RCClient β ι) : Option (RCClient β ι) :=
  match a with
  | .addScope config r =>
    -- a new handle is not in use
    if c.scopes.any fun sc => sc.handle.isSome ∧ sc.handle = r.handle then none
    else some (c.rcClientAddScope env config r).1
  | .removeScope handle reason => some (c.rcClientRemoveScope handle reason).1
  | .changeScope handle config reason monitor =>
    some (c.rcClientChangeScope env handle config reason monitor).1
  | .changeSearchDomain domain reason monitor =>
    some (c.rcClientChangeSearchDomain domain reason monitor)
  | .unregister reason => some (c.rcClientUnregister reason).1
  | .event i e => c.eventStep env i e
  | .targetDestroyed =>
    if c.markedForDestruction ∧ c.targetValid then some c.llrpcbTargetDestroyed else none

end RCClient

end Functions

/-! ### A client -/

def sampleClientEnv : ClientEnv RecvBuf (List RecvRes) where
  conn := msgBufEnv .reference
  rdm := .reference
  initDynamicUidRequest := fun manu => ⟨manu ||| 0x8000, 0⟩
  ipAndPortEqual := fun a b => a = b
  forApplication := fun _ => true

def sampleClientData : ClientData := ⟨default, kRPTClientTypeController, ⟨0x8001, 0⟩, default⟩

/-- All calls of `rc_client_add_scope` succeed, and the scope has this handle. -/
def sampleAdded (handle : Nat) : AddScopeRes RecvBuf :=
  ⟨some handle, true, .ok, .ok 1, ⟨rcMsgBufInit, (default, .plenty), []⟩, default, 0⟩

def sampleDynamic : ScopeConfig := ⟨[115], none, 0⟩
def sampleStatic : ScopeConfig := ⟨[115], some (.v4 1), 8888⟩

def sampleScope (config : ScopeConfig) : RCClientScope RecvBuf (List RecvRes) :=
  (RCClient.newScope sampleClientEnv sampleClientData config 0 (sampleAdded 0)
    (RCClient.newEntry sampleClientEnv (sampleAdded 0))).1

def sampleConnection (l : List (Action (List RecvRes))) : List (ClientAction RecvBuf (List RecvRes)) :=
  l.map fun a => .event 0 (.connection a)

def sampleCallback : List (ClientAction RecvBuf (List RecvRes)) :=
  [.event 0 .notify, .event 0 (.callback .processNext)]

/-- A scope with a static broker is added, and its connection comes up; the application is still to be
told. -/
def sampleComesUp : List (ClientAction RecvBuf (List RecvRes)) :=
  .addScope sampleStatic (sampleAdded 0) :: sampleConnection (quietTick (fastConnect 0) ++
    [.tick, .recv (recvBytes sampleReply), .parse, .lock (fastConnect 0)])

def sampleIsUp : List (ClientAction RecvBuf (List RecvRes)) :=
  sampleComesUp ++ sampleCallback ++
    sampleConnection [.parse, .recv [], .lock (fastConnect 0), .deliver .processNext]

def sampleMoved : ClientAction RecvBuf (List RecvRes) :=
  .changeScope 0 ⟨[115], some (.v4 2), 8888⟩ 1 (.ok 1)

theorem RCClient.exists_scope_of_play (ok : ClientAction RecvBuf (List RecvRes) → RCClient _ _ → Prop)
    [∀ a c, Decidable (ok a c)] {γ : Type} (f : RCClientScope RecvBuf (List RecvRes) → γ) (x : γ)
    (as : List (ClientAction RecvBuf (List RecvRes))) (h : (play (step sampleClientEnv) ok as
      (rcRptClientRegister sampleClientData false)).map (·.scopes.map f) = some [x]) :
    ∃ c, Runs (step sampleClientEnv) ok (rcRptClientRegister sampleClientData false) c ∧
      ∃ sc ∈ c.scopes, f sc = x := by
  obtain ⟨c, hr, hc⟩ := Runs.exists_of_play _ _ _ _ as h
  obtain ⟨sc, hscs, hsc⟩ := List.map_eq_singleton_iff.mp hc
  exact ⟨c, hr, sc, by simp [hscs], hsc⟩

end RDMnet
