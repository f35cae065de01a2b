import RDMnet.Core.Rdm
import RDMnet.Disc.Broker

/-!
# The scopes of a client

`client.c` for one scope of an RPT client: the functions that discovery, the connection and the
application call on it.  A scope holds its connection, so that what it asks of the connection is
answered by the connection's own state.

A callback of the connection takes the client's lock, changes the scope, releases the lock and only
then calls the application.  `telling` is what the background thread has yet to tell the application
in such a callback.  The arrays of the dynamic-memory build are lists; the empty list is the null
pointer.
-/

namespace RDMnet

/-! ### Types -/

abbrev e133ServiceNameStringPaddedLength : Nat := 64

abbrev ServiceName := CString e133ServiceNameStringPaddedLength

/-- `BROKER_CONNECT_FLAG_INCREMENTAL_UPDATES` -/
abbrev brokerConnectFlagIncrementalUpdates : UInt8 := 1

abbrev kEtcPalErrNotFound : EtcPalErr := .other 1
abbrev kEtcPalErrExists : EtcPalErr := .other 2
abbrev kEtcPalErrInvalid : EtcPalErr := .other 3
abbrev kEtcPalErrNoMem : EtcPalErr := .other 4

/-- `EtcPalSockAddr`; there is no IP if it is invalid. -/
structure EtcPalSockAddr where
  ip : Option IpAddr
  port : UInt16
  deriving DecidableEq

def EtcPalSockAddr.remote (addr : EtcPalSockAddr) : RedirectAddr :=
  match addr.ip with
  | some (.v4 ip) => .v4 ip addr.port
  | some (.v6 ip) => .v6 (Vector.ofFn fun i => ip.getD i 0) addr.port
  | none => .v4 0 addr.port

/-- `rc_scope_state_t` -/
inductive ScopeState
  | inactive | discovery | connecting | connected | markedForDestruction
  deriving DecidableEq, Repr

/-- What the client reads of an `RdmnetBrokerDiscInfo`.  Discovery reports a broker with at least one
address. -/
structure FoundBroker where
  serviceInstanceName : ServiceName
  listenAddrs : List IpAddr
  port : UInt16
  listenAddrs_ne : listenAddrs ≠ []

/-- `RdmnetScopeConfig`; `scope` are the characters of the string. -/
structure ScopeConfig where
  scope : Bytes
  staticBrokerAddr : EtcPalSockAddr

/-- `RdmnetClientConnectFailedInfo` -/
structure ClientConnectFailedInfo where
  event : ConnectFailEvent
  socketErr : EtcPalErr
  rdmnetReason : UInt16
  willRetry : Bool
  deriving DecidableEq

/-- `RdmnetClientDisconnectedInfo` -/
structure ClientDisconnectedInfo where
  event : DisconnectEvent
  socketErr : EtcPalErr
  rdmnetReason : UInt16
  willRetry : Bool
  deriving DecidableEq

/-- `RdmnetClientConnectedInfo` -/
structure ClientConnectedInfo where
  brokerAddr : Option RedirectAddr
  brokerCid : Uuid
  brokerName : ServiceName
  brokerUid : RdmUid
  deriving DecidableEq

/-- The callbacks of the application that are for a scope. -/
inductive ClientCallback
  | connected (info : ClientConnectedInfo)
  | connectFailed (info : ClientConnectFailedInfo)
  | disconnected (info : ClientDisconnectedInfo)
  | brokerMsgReceived (msg : BrokerMessage)
  | rptMsgReceived (msg : RptMessage)
  deriving DecidableEq

/-- The items of an `RCClient` that are filled in before it is registered. -/
structure ClientData where
  cid : Uuid
  /-- `RCRptClientData` -/
  type : UInt32
  uid : RdmUid
  searchDomain : SearchDomain

/-- `RCClientScope` -/
structure RCClientScope (β ι : Type) where
  handle : Option Nat
  state : ScopeState
  id : Scope
  staticBrokerAddr : EtcPalSockAddr
  uid : RdmUid
  monitorHandle : Option Nat
  brokerFound : Bool
  brokerName : ServiceName
  brokerListenAddrs : List IpAddr
  currentListenAddr : Nat
  port : UInt16
  currentBrokerAddr : Option RedirectAddr
  unhealthyCounter : Nat
  conn : Sys β ι
  /-- What the background thread tells the application next, in a callback of the connection that
  has released the lock. -/
  telling : Option ClientCallback
  /-- Ghost data: the application has removed the scope, and how long the trace of the connection
  was then. -/
  removed : Option Nat
  /-- Ghost data: the callbacks since then. -/
  late : List ClientCallback
  /-- Ghost data: how many requests of the scope the connection has refused. -/
  refused : Nat

/-- What the client stands on. -/
structure ClientEnv (β ι : Type) where
  conn : ConnEnv β ι
  rdm : RdmLib
  /-- `RDMNET_INIT_DYNAMIC_UID_REQUEST` -/
  initDynamicUidRequest : UInt16 → RdmUid
  /-- `etcpal_ip_and_port_equal` -/
  ipAndPortEqual : EtcPalSockAddr → EtcPalSockAddr → Bool
  /-- Whether `parse_rpt_message` succeeds and `handle_rdm_command_internally` leaves the message to
  the application. -/
  forApplication : RptMessage → Bool

section Functions

variable {β ι : Type} (env : ClientEnv β ι) (data : ClientData)

namespace RCClientScope

/-! ### Connections -/

/-- `clear_discovered_broker_info` -/
def clearDiscoveredBrokerInfo (sc : RCClientScope β ι) : RCClientScope β ι :=
  { sc with brokerFound := false, brokerListenAddrs := [], currentListenAddr := 0, port := 0 }

/-- `start_scope_discovery`, where `rdmnet_disc_start_monitoring` gives `monitor`. -/
def startScopeDiscovery (monitor : Except EtcPalErr Nat) (sc : RCClientScope β ι) :
    RCClientScope β ι × EtcPalErr :=
  match monitor with
  | .ok handle => ({ sc with monitorHandle := some handle, state := .discovery }, .ok)
  | .error res => (sc, res)

/-- `rdmnet_disc_stop_monitoring` of the scope's monitor, if it has one. -/
def stopMonitoring (sc : RCClientScope β ι) : RCClientScope β ι := { sc with monitorHandle := none }

end RCClientScope

/-- The Client Connect message of `start_connection_for_scope`. -/
def connectMsg (id : Scope) : BrokerClientConnectMsg where
  scope := id
  e133Version := e133Version
  searchDomain := data.searchDomain
  connectFlags :=
    if data.type = kRPTClientTypeController then brokerConnectFlagIncrementalUpdates else 0
  clientEntry :=
    { clientProtocol := kClientProtocolRPT
      data :=
        { cid := data.cid
          uid := if env.rdm.uidIsStatic data.uid then data.uid
            else env.initDynamicUidRequest data.uid.manu
          type := data.type
          bindingCid := default } }

namespace RCClientScope

/-- What `start_connection_for_scope` asks of the connection. -/
def askConnection (brokerAddr : EtcPalSockAddr) (disconnectReason : Option UInt16)
    (sc : RCClientScope β ι) : Sys β ι × EtcPalErr :=
  match disconnectReason with
  | some reason =>
    if sc.state = .discovery ∨ sc.state = .inactive then
      rcConnConnect brokerAddr.remote (connectMsg env data sc.id) sc.conn
    else rcConnReconnect brokerAddr.remote (connectMsg env data sc.id) reason sc.conn
  | none => rcConnConnect brokerAddr.remote (connectMsg env data sc.id) sc.conn

/-- `start_connection_for_scope` -/
def startConnectionForScope (brokerAddr : EtcPalSockAddr) (disconnectReason : Option UInt16)
    (sc : RCClientScope β ι) : RCClientScope β ι × EtcPalErr :=
  let (conn, res) := askConnection env data brokerAddr disconnectReason sc
  ({ sc with
      conn := conn
      state := if res = .ok then .connecting else sc.state
      refused := if res = .ok then sc.refused else sc.refused + 1 }, res)

/-- The index of the listen address behind another one. -/
def addrAfter (index : Nat) (sc : RCClientScope β ι) : Nat :=
  if index + 1 = sc.brokerListenAddrs.length then 0 else index + 1

def clearIf (allTried : Bool) (sc : RCClientScope β ι) : RCClientScope β ι :=
  if allTried then clearDiscoveredBrokerInfo sc else sc

/-- The loop of `attempt_connection_on_listen_addrs`, for at most so many rounds. -/
def attemptLoop : Nat → Nat → RCClientScope β ι → RCClientScope β ι
  | 0, _, sc => sc
  | rounds + 1, index, sc =>
    let addr : EtcPalSockAddr := ⟨sc.brokerListenAddrs[index]?, sc.port⟩
    let (sc, res) := startConnectionForScope env data addr none sc
    if res = .ok then { sc with currentListenAddr := index }
    else
      let index := sc.addrAfter index
      let sc := clearIf (index = sc.currentListenAddr) sc
      if sc.brokerFound then attemptLoop rounds index sc else { sc with state := .discovery }

/-- `attempt_connection_on_listen_addrs`; no address is tried twice. -/
def attemptConnectionOnListenAddrs (sc : RCClientScope β ι) : RCClientScope β ι :=
  if sc.brokerListenAddrs = [] then sc
  else attemptLoop env data sc.brokerListenAddrs.length sc.currentListenAddr sc

/-! ### Callbacks of discovery -/

/-- What a report about a broker writes to the scope. -/
def takeBroker (info : FoundBroker) (sc : RCClientScope β ι) : RCClientScope β ι :=
  { sc with
    brokerListenAddrs := info.listenAddrs, brokerName := info.serviceInstanceName
    currentListenAddr := 0, port := info.port }

/-- `monitorcb_broker_found`; `copied` tells whether there is memory for the addresses. -/
def monitorcbBrokerFound (info : FoundBroker) (copied : Bool) (sc : RCClientScope β ι) :
    RCClientScope β ι :=
  if sc.state = .markedForDestruction then sc
  else if sc.brokerFound = false ∧ copied then
    attemptConnectionOnListenAddrs env data { takeBroker info sc with brokerFound := true }
  else sc

/-- `monitorcb_broker_updated` -/
def monitorcbBrokerUpdated (info : FoundBroker) (copied : Bool) (sc : RCClientScope β ι) :
    RCClientScope β ι :=
  if sc.state = .markedForDestruction then sc
  else if sc.brokerFound ∧ copied then takeBroker info sc
  else sc

/-- `monitorcb_broker_lost`; the names of the scope and of the broker are only logged. -/
def monitorcbBrokerLost (sc : RCClientScope β ι) : RCClientScope β ι :=
  if sc.state = .markedForDestruction then sc else clearDiscoveredBrokerInfo sc

/-! ### Callbacks of the connection, with the lock -/

/-- `conncb_connected` -/
def conncbConnected (info : RCConnectedInfo) (sc : RCClientScope β ι) : RCClientScope β ι :=
  { sc with
    state := .connected
    currentBrokerAddr := info.connectedAddr
    uid := if env.rdm.uidIsStatic data.uid then sc.uid else info.clientUid
    telling := some (.connected
      ⟨info.connectedAddr, info.brokerCid, sc.brokerName, info.brokerUid⟩) }

/-- `connect_failed_will_retry` -/
def connectFailedWillRetry (event : ConnectFailEvent) (status : UInt16) : Bool :=
  match event with
  | .socketFailure => false
  | .rejected => status = kRdmnetConnectCapacityExceeded ∨ status = kRdmnetConnectDuplicateUid
  | .tcpLevel => true
  | .noReply => true

/-- `disconnected_will_retry` -/
def disconnectedWillRetry (_event : DisconnectEvent) (_reason : UInt16) : Bool := true

/-- What `conncb_connect_failed` and `conncb_disconnected` do if they retry, and whether they still
do.  `next` is what comes before the addresses of a discovered broker are tried. -/
def retry (next : RCClientScope β ι → RCClientScope β ι) (sc : RCClientScope β ι) :
    RCClientScope β ι × Bool :=
  if sc.monitorHandle.isSome then
    (if sc.brokerFound then attemptConnectionOnListenAddrs env data (next sc) else sc, true)
  else
    let (sc, res) := startConnectionForScope env data sc.staticBrokerAddr none sc
    (sc, res = .ok)

def giveUp (sc : RCClientScope β ι) : RCClientScope β ι :=
  { clearDiscoveredBrokerInfo (stopMonitoring sc) with state := .inactive }

def retryOrGiveUp (willRetry : Bool) (next : RCClientScope β ι → RCClientScope β ι)
    (sc : RCClientScope β ι) : RCClientScope β ι × Bool :=
  let (sc, willRetry) := if willRetry then retry env data next sc else (sc, false)
  (if willRetry then sc else giveUp sc, willRetry)

def nextListenAddr (sc : RCClientScope β ι) : RCClientScope β ι :=
  { sc with currentListenAddr := sc.addrAfter sc.currentListenAddr }

/-- `conncb_connect_failed` -/
def conncbConnectFailed (info : RCConnectFailedInfo) (sc : RCClientScope β ι) :
    RCClientScope β ι :=
  let (sc, willRetry) := retryOrGiveUp env data
    (connectFailedWillRetry info.event info.rdmnetReason) nextListenAddr sc
  { sc with
    telling := some (.connectFailed ⟨info.event, info.socketErr, info.rdmnetReason, willRetry⟩) }

/-- `conncb_disconnected` -/
def conncbDisconnected (info : RCDisconnectedInfo) (sc : RCClientScope β ι) :
    RCClientScope β ι :=
  let sc := { sc with
    currentBrokerAddr := none
    unhealthyCounter :=
      if info.event = .noHeartbeat ∧ sc.unhealthyCounter < 65535 then sc.unhealthyCounter + 1
      else sc.unhealthyCounter }
  let (sc, willRetry) := retryOrGiveUp env data
    (disconnectedWillRetry info.event info.rdmnetReason) (fun sc => sc) sc
  { sc with
    telling := some (.disconnected ⟨info.event, info.socketErr, info.rdmnetReason, willRetry⟩) }

/-- `conncb_msg_received`: what the application is told. -/
def conncbMsgReceived (message : RdmnetMessage) (sc : RCClientScope β ι) :
    Option ClientCallback :=
  if sc.state ≠ .connected then none
  else if message.vector = acnVectorRootBroker then
    some (.brokerMsgReceived (env.conn.getBrokerMsg message))
  else if message.vector = acnVectorRootRpt ∧ env.forApplication message.rpt then
    some (.rptMsgReceived message.rpt)
  else none

/-- What `conncb_destroyed` does with the scope, which is nobody's from now on. -/
def ended (sc : RCClientScope β ι) : RCClientScope β ι :=
  { sc with handle := none, state := .inactive, removed := none }

/-! ### Calls of the application -/

/-- `mark_scope_for_destruction` -/
def markScopeForDestruction (disconnectReason : Option UInt16) (sc : RCClientScope β ι) :
    RCClientScope β ι :=
  let sc := clearDiscoveredBrokerInfo (stopMonitoring sc)
  { sc with conn := rcConnUnregister disconnectReason sc.conn, state := .markedForDestruction }

/-- The scope is marked for the application, for which it is removed from now on. -/
def remove (disconnectReason : UInt16) (sc : RCClientScope β ι) : RCClientScope β ι :=
  { markScopeForDestruction (some disconnectReason) sc with
    removed := some (sc.removed.getD sc.conn.trace.length)
    late := if sc.removed.isSome then sc.late else [] }

/-- `rc_conn_disconnect` of a scope that is connecting or connected. -/
def disconnectIfStarted (disconnectReason : UInt16) (sc : RCClientScope β ι) :
    RCClientScope β ι :=
  if sc.state = .connecting ∨ sc.state = .connected then
    let (conn, res) := rcConnDisconnect disconnectReason sc.conn
    { sc with conn := conn, refused := if res = .ok then sc.refused else sc.refused + 1 }
  else sc

/-- The scope is what `config` says. -/
def sameConfig (config : ScopeConfig) (sc : RCClientScope β ι) : Bool :=
  config.scope = sc.id.chars ∧ env.ipAndPortEqual config.staticBrokerAddr sc.staticBrokerAddr

/-- The new settings of a scope, which forgets what discovery found for the old ones. -/
def reconfigure (config : ScopeConfig) (sc : RCClientScope β ι) : RCClientScope β ι :=
  stopMonitoring (clearDiscoveredBrokerInfo { sc with
      id := safeStrncpy e133ScopeStringPaddedLength scopeString_pos config.scope
      staticBrokerAddr := config.staticBrokerAddr })

/-- `rc_client_change_scope`, once the scope has been found. -/
def change (config : ScopeConfig) (disconnectReason : UInt16) (monitor : Except EtcPalErr Nat)
    (sc : RCClientScope β ι) : RCClientScope β ι × EtcPalErr :=
  if sameConfig env config sc then (sc, .ok)
  else if sc.state = .markedForDestruction then (sc, kEtcPalErrInvalid)
  else if config.staticBrokerAddr.ip.isNone then
    startScopeDiscovery monitor (disconnectIfStarted disconnectReason (reconfigure config sc))
  else
    startConnectionForScope env data config.staticBrokerAddr (some disconnectReason)
      (reconfigure config sc)

/-- What `rc_client_change_search_domain` does with a scope. -/
def changeSearchDomain (disconnectReason : UInt16) (monitor : Except EtcPalErr Nat)
    (sc : RCClientScope β ι) : RCClientScope β ι :=
  if sc.handle.isSome ∧ sc.state ≠ .markedForDestruction ∧ sc.monitorHandle.isSome then
    (startScopeDiscovery monitor
      (clearDiscoveredBrokerInfo (stopMonitoring (disconnectIfStarted disconnectReason sc)))).1
  else sc

end RCClientScope

end Functions

/-! ### What an attempt comes to -/

/-- The states in which `rc_conn_connect` accepts a request. -/
def ConnState.Accepts (st : ConnState) : Prop := st = .notStarted ∨ st = .disconnectPending

instance (st : ConnState) : Decidable st.Accepts := inferInstanceAs (Decidable (_ ∨ _))

section Attempts

variable {β ι : Type} {env : ClientEnv β ι} {data : ClientData} {sc : RCClientScope β ι}

theorem rcConnConnect_refused {s : Sys β ι} (h : ¬ s.conn.state.Accepts) (addr : RedirectAddr)
    (msg : BrokerClientConnectMsg) : rcConnConnect addr msg s = (s, .isConn) := by
  unfold rcConnConnect
  rw [if_pos]
  simpa [ConnState.Accepts, not_or] using h

theorem rcConnConnect_accepted {s : Sys β ι} (h : s.conn.state.Accepts) (addr : RedirectAddr)
    (msg : BrokerClientConnectMsg) : (rcConnConnect addr msg s).2 = .ok := by
  unfold rcConnConnect
  rw [if_neg]
  rcases h with h | h <;> simp [h]

namespace RCClientScope

theorem startConnectionForScope_refused (h : ¬ sc.conn.conn.state.Accepts) (addr : EtcPalSockAddr) :
    sc.startConnectionForScope env data addr none = ({ sc with refused := sc.refused + 1 }, .isConn) := by
  simp [startConnectionForScope, askConnection, rcConnConnect_refused h]

theorem startConnectionForScope_accepted (h : sc.conn.conn.state.Accepts) (addr : EtcPalSockAddr) :
    sc.startConnectionForScope env data addr none = ({ sc with
          conn := (rcConnConnect addr.remote (connectMsg env data sc.id) sc.conn).1
          state := .connecting }, .ok) := by
  simp [startConnectionForScope, askConnection, rcConnConnect_accepted h]

theorem attemptLoop_accepted (h : sc.conn.conn.state.Accepts) (rounds index : Nat) :
    attemptLoop env data (rounds + 1) index sc =
      { (sc.startConnectionForScope env data ⟨sc.brokerListenAddrs[index]?, sc.port⟩ none).1 with
        currentListenAddr := index } := by
  rw [attemptLoop, startConnectionForScope_accepted h]
  rfl

/-- The listen addresses of a broker that was found: there are some, and one of them is the
current one. -/
structure Addressed (sc : RCClientScope β ι) : Prop where
  found : sc.brokerFound = true
  current : sc.currentListenAddr < sc.brokerListenAddrs.length

/-- **An attempt** connects to the current listen address if the connection accepts it. -/
theorem attemptConnectionOnListenAddrs_accepted (h : sc.Addressed) (hacc : sc.conn.conn.state.Accepts) :
    sc.attemptConnectionOnListenAddrs env data = (sc.startConnectionForScope env data
        ⟨sc.brokerListenAddrs[sc.currentListenAddr]?, sc.port⟩ none).1 := by
  have hpos : 0 < sc.brokerListenAddrs.length := Nat.zero_lt_of_lt h.current
  obtain ⟨n, hn⟩ := Nat.exists_eq_succ_of_ne_zero (Nat.ne_of_gt hpos)
  unfold attemptConnectionOnListenAddrs
  rw [if_neg (List.length_pos_iff.mp hpos), hn, attemptLoop_accepted hacc, startConnectionForScope_accepted hacc]

theorem monitorcbBrokerFound_accepted (hst : sc.state ≠ .markedForDestruction)
    (hf : sc.brokerFound = false) (hacc : sc.conn.conn.state.Accepts) (info : FoundBroker) :
    sc.monitorcbBrokerFound env data info true = { takeBroker info sc with
        brokerFound := true
        conn := (rcConnConnect (EtcPalSockAddr.remote ⟨info.listenAddrs[0]?, info.port⟩)
          (connectMsg env data sc.id) sc.conn).1
        state := .connecting } := by
  have haddr : Addressed { takeBroker info sc with brokerFound := true } :=
    ⟨rfl, List.length_pos_iff.mpr info.listenAddrs_ne⟩
  have hacc' : ConnState.Accepts ({ takeBroker info sc with brokerFound := true } :
    RCClientScope β ι).conn.conn.state := hacc
  unfold monitorcbBrokerFound
  rw [if_neg hst, if_pos ⟨hf, rfl⟩, attemptConnectionOnListenAddrs_accepted haddr hacc',
    startConnectionForScope_accepted hacc']
  rfl

theorem monitorcbBrokerFound_same {info : FoundBroker} {copied : Bool}
    (h : sc.state = .markedForDestruction ∨ sc.brokerFound = true ∨ copied = false) :
    sc.monitorcbBrokerFound env data info copied = sc := by
  unfold monitorcbBrokerFound
  split
  · rfl
  · rw [if_neg]
    rintro ⟨hf, hc⟩
    rcases h with h | h | h
    · contradiction
    · rw [hf] at h
      cases h
    · rw [hc] at h
      cases h

/-! ### What the functions leave alone -/

def identity (sc : RCClientScope β ι) : Option Nat × Option Nat × List ClientCallback :=
  (sc.handle, sc.removed, sc.late)

@[simp] theorem startConnectionForScope_identity (addr : EtcPalSockAddr) (reason : Option UInt16)
    (sc : RCClientScope β ι) : (sc.startConnectionForScope env data addr reason).1.identity = sc.identity := rfl

@[simp] theorem startScopeDiscovery_identity (monitor : Except EtcPalErr Nat)
    (sc : RCClientScope β ι) : (sc.startScopeDiscovery monitor).1.identity = sc.identity := by
  cases monitor <;> rfl

/-- What an attempt keeps besides: the monitor, and what the application is about to be told. -/
structure Keeps (sc sc' : RCClientScope β ι) : Prop where
  identity : sc'.identity = sc.identity
  monitorHandle : sc'.monitorHandle = sc.monitorHandle
  telling : sc'.telling = sc.telling

theorem Keeps.trans {sc sc' sc'' : RCClientScope β ι} (h : Keeps sc sc') (h' : Keeps sc' sc'') : Keeps sc sc'' :=
  ⟨h'.identity.trans h.identity, h'.monitorHandle.trans h.monitorHandle, h'.telling.trans h.telling⟩

theorem clearIf_keeps (allTried : Bool) (sc : RCClientScope β ι) : Keeps sc (clearIf allTried sc) := by
  cases allTried <;> exact ⟨rfl, rfl, rfl⟩

theorem attemptLoop_keeps (rounds : Nat) : ∀ (index : Nat) (sc : RCClientScope β ι),
    Keeps sc (attemptLoop env data rounds index sc) := by
  induction rounds with
  | zero => exact fun _ _ => ⟨rfl, rfl, rfl⟩
  | succ rounds ih =>
    intro index sc
    have hstart : ∀ addr, Keeps sc (sc.startConnectionForScope env data addr none).1 :=
      fun _ => ⟨rfl, rfl, rfl⟩
    have hclear : ∀ addr b,
        Keeps sc (clearIf b (sc.startConnectionForScope env data addr none).1) :=
      fun addr b => (hstart addr).trans (clearIf_keeps b _)
    rw [attemptLoop]
    dsimp only
    split
    · exact ⟨rfl, rfl, rfl⟩
    · split
      · exact (hclear _ _).trans (ih _ _)
      · exact (hclear _ _).trans ⟨rfl, rfl, rfl⟩

theorem attemptConnectionOnListenAddrs_keeps (sc : RCClientScope β ι) :
    Keeps sc (sc.attemptConnectionOnListenAddrs env data) := by
  unfold attemptConnectionOnListenAddrs
  split
  · exact ⟨rfl, rfl, rfl⟩
  · exact attemptLoop_keeps _ _ _

theorem monitorcbBrokerFound_keeps (info : FoundBroker) (copied : Bool) (sc : RCClientScope β ι) :
    Keeps sc (sc.monitorcbBrokerFound env data info copied) := by
  have htake : Keeps sc { takeBroker info sc with brokerFound := true } := ⟨rfl, rfl, rfl⟩
  unfold monitorcbBrokerFound
  split
  · exact ⟨rfl, rfl, rfl⟩
  · split
    · exact htake.trans (attemptConnectionOnListenAddrs_keeps _)
    · exact ⟨rfl, rfl, rfl⟩

theorem monitorcbBrokerUpdated_keeps (info : FoundBroker) (copied : Bool) (sc : RCClientScope β ι) :
    Keeps sc (sc.monitorcbBrokerUpdated info copied) := by
  unfold monitorcbBrokerUpdated
  split
  · exact ⟨rfl, rfl, rfl⟩
  · split <;> exact ⟨rfl, rfl, rfl⟩

theorem monitorcbBrokerLost_keeps (sc : RCClientScope β ι) : Keeps sc sc.monitorcbBrokerLost := by
  unfold monitorcbBrokerLost
  split <;> exact ⟨rfl, rfl, rfl⟩

@[simp] theorem retryOrGiveUp_identity (willRetry : Bool)
    {next : RCClientScope β ι → RCClientScope β ι} (hnext : ∀ sc, (next sc).identity = sc.identity)
    (sc : RCClientScope β ι) : (retryOrGiveUp env data willRetry next sc).1.identity = sc.identity := by
  have hretry : (retry env data next sc).1.identity = sc.identity := by
    unfold retry
    split
    · dsimp only
      split
      · rw [(attemptConnectionOnListenAddrs_keeps _).identity, hnext]
      · rfl
    · rfl
  have htried : (if willRetry then retry env data next sc else (sc, false)).1.identity =
      sc.identity := by
    split
    · exact hretry
    · rfl
  unfold retryOrGiveUp
  generalize (if willRetry = true then retry env data next sc else (sc, false)) = tried at htried ⊢
  dsimp only
  split
  · exact htried
  · exact htried

@[simp] theorem conncbConnectFailed_identity (info : RCConnectFailedInfo) (sc : RCClientScope β ι) :
    (sc.conncbConnectFailed env data info).identity = sc.identity := by
  have hnext : ∀ sc : RCClientScope β ι, (nextListenAddr sc).identity = sc.identity := fun _ => rfl
  exact retryOrGiveUp_identity _ hnext sc

@[simp] theorem conncbDisconnected_identity (info : RCDisconnectedInfo) (sc : RCClientScope β ι) :
    (sc.conncbDisconnected env data info).identity = sc.identity := by
  unfold conncbDisconnected
  exact (retryOrGiveUp_identity _ (fun _ => rfl) _).trans rfl

@[simp] theorem disconnectIfStarted_identity (reason : UInt16) (sc : RCClientScope β ι) :
    (sc.disconnectIfStarted reason).identity = sc.identity := by
  unfold disconnectIfStarted
  split <;> rfl

@[simp] theorem change_identity (config : ScopeConfig) (reason : UInt16)
    (monitor : Except EtcPalErr Nat) (sc : RCClientScope β ι) :
    (sc.change env data config reason monitor).1.identity = sc.identity := by
  unfold change
  split
  · rfl
  · split
    · rfl
    · split
      · rw [startScopeDiscovery_identity, disconnectIfStarted_identity]
        rfl
      · rw [startConnectionForScope_identity]
        rfl

@[simp] theorem changeSearchDomain_identity (reason : UInt16) (monitor : Except EtcPalErr Nat)
    (sc : RCClientScope β ι) : (sc.changeSearchDomain reason monitor).identity = sc.identity := by
  unfold changeSearchDomain
  split
  · rw [startScopeDiscovery_identity]
    exact disconnectIfStarted_identity reason sc
  · rfl

end RCClientScope

end Attempts

end RDMnet
