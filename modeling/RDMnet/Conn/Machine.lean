import RDMnet.MsgBuf.Parse
import RDMnet.Lib.Runs

/-!
# The connection

`connection.c` for one registered connection: the functions that an application thread calls, and
the background thread that polls the socket, ticks, receives messages and delivers callbacks.

The background thread holds the connection's lock only in parts of its work: while it handles a
message, a socket error or a TCP connection, and in the `switch` of a tick.  Callbacks are delivered
without the lock.  `Thread` says where it is between two such parts, and an application thread can
come in at each of these places.  What sockets, timers, the random generator and the application's
callback give back comes with the actions; everything that happens is kept in a trace.
-/

namespace RDMnet

open List

/-! ### Types of the connection -/

/-- `etcpal_error_t`, as far as the connection tells its values apart. -/
inductive EtcPalErr
  | ok | noData | wouldBlock | inProgress | connClosed | hostUnreach | isConn | sys
  | other (code : Nat)
  deriving DecidableEq, Repr

/-- `rc_client_conn_state_t` -/
inductive ConnState
  | notStarted | connectPending | backoff | tcpConnPending | rdmnetConnPending | heartbeat
  | disconnectPending | reconnectPending | markedForDestruction
  deriving DecidableEq, Repr

/-- `rdmnet_connect_fail_event_t` -/
inductive ConnectFailEvent
  | socketFailure | tcpLevel | noReply | rejected
  deriving DecidableEq, Repr

/-- `rdmnet_disconnect_event_t` -/
inductive DisconnectEvent
  | abruptClose | noHeartbeat | redirected | gracefulRemoteInitiated | gracefulLocalInitiated
  deriving DecidableEq, Repr

structure RCConnectedInfo where
  brokerCid : Uuid
  brokerUid : RdmUid
  clientUid : RdmUid
  connectedAddr : Option RedirectAddr
  deriving DecidableEq

structure RCConnectFailedInfo where
  event : ConnectFailEvent
  socketErr : EtcPalErr
  rdmnetReason : UInt16
  deriving DecidableEq

structure RCDisconnectedInfo where
  event : DisconnectEvent
  socketErr : EtcPalErr
  rdmnetReason : UInt16
  deriving DecidableEq

/-- `RCConnEvent` -/
inductive RCConnEvent
  | none
  | connected (info : RCConnectedInfo)
  | connectFailed (info : RCConnectFailedInfo)
  | disconnected (info : RCDisconnectedInfo)
  | msgReceived (message : RdmnetMessage)
  deriving DecidableEq

/-- `rc_message_action_t` -/
inductive MessageAction
  | retryLater | processNext
  deriving DecidableEq, Repr

/-- `EtcPalTimer` -/
structure EtcPalTimer where
  resetTime : Nat
  interval : Nat
  deriving DecidableEq, Repr, Inhabited

/-- What the poll context watches a socket for. -/
inductive PollEvents
  | connect | pollIn
  deriving DecidableEq, Repr

/-- `RCConnection`: the receive buffer with its message is a `β`. -/
structure RCConnection (β : Type) where
  sock : Option Nat
  remoteAddr : Option RedirectAddr
  state : ConnState
  connData : BrokerClientConnectMsg
  backoffTimer : EtcPalTimer
  rdmnetConnFailed : Bool
  sentConnectedNotification : Bool
  sendTimer : EtcPalTimer
  hbTimer : EtcPalTimer
  recvBuf : β
  retryCurrentMessage : Bool

/-- What a run of the connection does that can be seen from outside, and what it does with the
message of its receive buffer. -/
inductive Obs (ι : Type)
  | connected (info : RCConnectedInfo)
  | connectFailed (info : RCConnectFailedInfo)
  | disconnected (info : RCDisconnectedInfo)
  | messageReceived (message : RdmnetMessage) (action : MessageAction)
  | destroyed
  /-- `rc_msg_buf_recv` was called, and what it returned. -/
  | received (input : ι) (res : EtcPalErr)
  /-- `rc_msg_buf_parse_data` returned `kEtcPalErrOk` with this message. -/
  | parsed (message : RdmnetMessage)
  /-- `handle_message` was called with this message. -/
  | handled (message : RdmnetMessage)
  /-- `rc_free_message_resources` was called. -/
  | freed
  | opened (sock : Nat)
  | connecting (sock : Nat) (addr : Option RedirectAddr)
  | closed (sock : Nat)
  | sentClientConnect (data : BrokerClientConnectMsg)
  | sentDisconnect (reason : UInt16)
  | sentNull
  deriving DecidableEq

/-- The parts of the library and of its environment that the connection stands on: the receive
buffer, where `ι` is what the socket has for one call of `rc_msg_buf_recv`, and the timers. -/
structure ConnEnv (β ι : Type) where
  /-- `rc_msg_buf_init` -/
  rcMsgBufInit : β → β
  /-- `rc_msg_buf_recv` -/
  rcMsgBufRecv : ι → β → β × EtcPalErr
  /-- `rc_msg_buf_parse_data` -/
  rcMsgBufParseData : β → β × MsgBufRes
  /-- `rc_free_message_resources` of the message in the buffer. -/
  rcFreeMessageResources : β → β
  /-- The message in the buffer. -/
  msg : β → RdmnetMessage
  /-- `RDMNET_GET_BROKER_MSG`: the Broker member of the union, whatever the union holds. -/
  getBrokerMsg : RdmnetMessage → BrokerMessage
  /-- `etcpal_timer_is_expired` at a time. -/
  timerIsExpired : EtcPalTimer → Nat → Bool

/-- What the calls made under the lock come to: the results of the socket functions, the time and
the random number. -/
structure SocketRes where
  /-- `etcpal_socket`: a socket, or an error. -/
  socket : Except EtcPalErr Nat
  setblocking : EtcPalErr
  connect : EtcPalErr
  addPolled : EtcPalErr
  modifyPolled : EtcPalErr
  now : Nat
  rand : Nat

/-- Who called `receive_and_process_messages`: a poll event, or a tick. -/
inductive Caller
  | poll | tick
  deriving DecidableEq, Repr

/-- Where the background thread is. -/
inductive Thread
  | idle
  /-- At the head of the outer loop of `receive_and_process_messages`, with the local variable
  `retry_current_message`. -/
  | receive (caller : Caller) (retry : Bool)
  /-- At the head of the inner loop, with `recv_res`. -/
  | parse (caller : Caller) (recvRes : EtcPalErr) (retry : Bool)
  /-- In `process_message`, before it takes the lock. -/
  | process (caller : Caller) (recvRes : EtcPalErr)
  /-- In `process_message`, before its callback. -/
  | deliver (caller : Caller) (recvRes : EtcPalErr) (event : RCConnEvent)
  /-- In `handle_socket_error`, before it takes the lock; without a caller it is a poll event. -/
  | socketError (caller : Option Caller) (err : EtcPalErr)
  /-- In `handle_socket_error`, before its callback. -/
  | errorDeliver (caller : Option Caller) (event : RCConnEvent)
  /-- In `handle_tcp_connection_established`, before it takes the lock. -/
  | tcpEstablished
  /-- In `process_connection_state`, before it takes the lock. -/
  | tickLock
  /-- In `process_connection_state`, before its callback. -/
  | tickDeliver (event : RCConnEvent)
  deriving DecidableEq

/-- Which of the lists of the module the connection is in. -/
inductive Listed
  | pending | active | removed
  deriving DecidableEq, Repr

/-- The connection with the module around it. -/
structure Sys (β ι : Type) where
  conn : RCConnection β
  polled : Option PollEvents
  listed : Listed
  /-- It is in the list `to_remove`. -/
  toRemove : Bool
  thread : Thread
  trace : List (Obs ι)

section Functions

variable {β ι : Type} (env : ConnEnv β ι)

/-- The lists of the module that the connection is in. -/
def Sys.place (s : Sys β ι) : Listed × Bool := (s.listed, s.toRemove)

def Sys.emit (o : Obs ι) (s : Sys β ι) : Sys β ι := { s with trace := s.trace ++ [o] }

/-- `rc_free_message_resources(&conn->recv_buf.msg)` -/
def freeMessage (s : Sys β ι) : Sys β ι :=
  ({ s with conn.recvBuf := env.rcFreeMessageResources s.conn.recvBuf } : Sys β ι).emit .freed

/-! ### The state machine -/

/-- `update_backoff` -/
def updateBackoff (rand previousBackoff : Nat) : Nat :=
  let result := (rand % 4001 + 1000 + previousBackoff) % 4294967296
  if result > 30000 then 30000 else result

/-- The first half of `cleanup_connection_resources`: the socket. -/
def closeSocket (s : Sys β ι) : Sys β ι :=
  match s.conn.sock with
  | some n => ({ s with polled := none, conn.sock := none } : Sys β ι).emit (.closed n)
  | none => s

/-- `cleanup_connection_resources` -/
def cleanupConnectionResources (s : Sys β ι) : Sys β ι :=
  let s := closeSocket s
  if s.conn.retryCurrentMessage then freeMessage env s else s

/-- What `reset_connection`, `retry_connection` and a reconnection have in common: the resources are
cleaned up and the receive buffer starts afresh. -/
def clearConnection (s : Sys β ι) : Sys β ι :=
  let s := cleanupConnectionResources env s
  { s with conn.recvBuf := env.rcMsgBufInit s.conn.recvBuf, conn.retryCurrentMessage := false }

/-- `reset_connection` -/
def resetConnection (s : Sys β ι) : Sys β ι :=
  { clearConnection env s with conn.state := .notStarted }

/-- `retry_connection` -/
def retryConnection (s : Sys β ι) : Sys β ι :=
  { clearConnection env s with conn.state := .connectPending }

@[simp] theorem emit_conn (o : Obs ι) (s : Sys β ι) : (s.emit o).conn = s.conn := rfl
@[simp] theorem emit_thread (o : Obs ι) (s : Sys β ι) : (s.emit o).thread = s.thread := rfl
@[simp] theorem emit_place (o : Obs ι) (s : Sys β ι) : (s.emit o).place = s.place := rfl
@[simp] theorem emit_polled (o : Obs ι) (s : Sys β ι) : (s.emit o).polled = s.polled := rfl
@[simp] theorem emit_trace (o : Obs ι) (s : Sys β ι) : (s.emit o).trace = s.trace ++ [o] := rfl

def clearTrace (c : RCConnection β) : List (Obs ι) :=
  (c.sock.map Obs.closed).toList ++ if c.retryCurrentMessage then [.freed] else []

theorem cleanupConnectionResources_eq (s : Sys β ι) :
    cleanupConnectionResources env s = { s with
        conn.sock := none
        conn.recvBuf := if s.conn.retryCurrentMessage then
          env.rcFreeMessageResources s.conn.recvBuf else s.conn.recvBuf
        polled := if s.conn.sock.isSome then none else s.polled
        trace := s.trace ++ clearTrace s.conn } := by
  obtain ⟨⟨sock, _, _, _, _, _, _, _, _, _, retry⟩, _, _, _, _, _⟩ := s
  cases sock <;> cases retry <;>
    simp [cleanupConnectionResources, closeSocket, freeMessage, Sys.emit, clearTrace]

@[simp] theorem clearConnection_state (s : Sys β ι) : (clearConnection env s).conn.state = s.conn.state := by
  simp [clearConnection, cleanupConnectionResources_eq]
@[simp] theorem clearConnection_sent (s : Sys β ι) :
    (clearConnection env s).conn.sentConnectedNotification = s.conn.sentConnectedNotification := by
  simp [clearConnection, cleanupConnectionResources_eq]
@[simp] theorem clearConnection_failed (s : Sys β ι) :
    (clearConnection env s).conn.rdmnetConnFailed = s.conn.rdmnetConnFailed := by
  simp [clearConnection, cleanupConnectionResources_eq]
@[simp] theorem clearConnection_backoffTimer (s : Sys β ι) :
    (clearConnection env s).conn.backoffTimer = s.conn.backoffTimer := by
  simp [clearConnection, cleanupConnectionResources_eq]
@[simp] theorem clearConnection_thread (s : Sys β ι) : (clearConnection env s).thread = s.thread := by
  simp [clearConnection, cleanupConnectionResources_eq]
@[simp] theorem clearConnection_place (s : Sys β ι) : (clearConnection env s).place = s.place := by
  simp [clearConnection, cleanupConnectionResources_eq, Sys.place]
@[simp] theorem clearConnection_trace (s : Sys β ι) :
    (clearConnection env s).trace = s.trace ++ clearTrace s.conn := by
  simp [clearConnection, cleanupConnectionResources_eq]

/-- The trace of `s'` is that of `s` with observations behind it that all meet `P`. -/
def Adds (P : Obs ι → Prop) (s s' : Sys β ι) : Prop :=
  ∃ new, s'.trace = s.trace ++ new ∧ ∀ o ∈ new, P o

variable {P : Obs ι → Prop} {s s' : Sys β ι}

theorem Adds.same (h : s'.trace = s.trace) : Adds P s s' :=
  ⟨[], by rw [h, append_nil], fun _ ho => nomatch ho⟩

theorem Adds.one (o : Obs ι) (h : s'.trace = s.trace ++ [o]) (ho : P o) : Adds P s s' :=
  ⟨[o], h, fun _ hx => mem_singleton.mp hx ▸ ho⟩

theorem Adds.trans {s'' : Sys β ι} (h : Adds P s s') (h' : Adds P s' s'') : Adds P s s'' := by
  obtain ⟨new, hs, hn⟩ := h
  obtain ⟨new', hs', hn'⟩ := h'
  exact ⟨new ++ new', by rw [hs', hs, append_assoc],
    fun o ho => (mem_append.mp ho).elim (hn o) (hn' o)⟩

theorem clearConnection_adds (hclosed : ∀ n, P (.closed n)) (hfreed : P .freed)
    (s : Sys β ι) : Adds P s (clearConnection env s) := by
  refine ⟨clearTrace s.conn, clearConnection_trace env s, fun o ho => ?_⟩
  rcases mem_append.mp ho with ho | ho
  · obtain ⟨n, -, rfl⟩ := by simpa using ho
    exact hclosed n
  · split at ho
    · rw [mem_singleton.mp ho]
      exact hfreed
    · cases ho

/-- `start_rdmnet_connection` -/
def startRdmnetConnection (r : SocketRes) (s : Sys β ι) : Sys β ι :=
  ({ s with
      conn.state := .rdmnetConnPending
      -- `rc_modify_polled_socket`, whose result is not looked at
      polled := if s.polled.isSome ∧ r.modifyPolled = .ok then some .pollIn else s.polled
      conn.hbTimer := ⟨r.now, 45000⟩
      conn.sendTimer := ⟨r.now, 15000⟩ } : Sys β ι).emit (.sentClientConnect s.conn.connData)

/-- The end of `start_tcp_connection` if one of its calls fails. -/
def tcpConnectionFailed (event : ConnectFailEvent) (err : EtcPalErr) (s : Sys β ι) :
    Sys β ι × RCConnEvent :=
  (resetConnection env s, .connectFailed ⟨event, err, 0⟩)

/-- `start_tcp_connection`; it leaves the event as it is unless it fails. -/
def startTcpConnection (r : SocketRes) (s : Sys β ι) (event : RCConnEvent) :
    Sys β ι × RCConnEvent :=
  match r.socket with
  | .error res => tcpConnectionFailed env .socketFailure res s
  | .ok n =>
    let s := ({ s with conn.sock := some n } : Sys β ι).emit (.opened n)
    if r.setblocking ≠ .ok then
      tcpConnectionFailed env .socketFailure r.setblocking s
    else
      let s := ({ s with conn.rdmnetConnFailed := false } : Sys β ι).emit
        (.connecting n s.conn.remoteAddr)
      if r.connect = .ok then
        (startRdmnetConnection r s, event)
      else if r.connect = .inProgress ∨ r.connect = .wouldBlock then
        let s := { s with conn.state := .tcpConnPending }
        if r.addPolled = .ok then
          ({ s with polled := some .connect }, event)
        else
          tcpConnectionFailed env .socketFailure r.addPolled s
      else if r.connect = .hostUnreach then
        tcpConnectionFailed env .tcpLevel r.connect s
      else
        tcpConnectionFailed env .socketFailure r.connect s

/-- `start_connection` -/
def startConnection (r : SocketRes) (s : Sys β ι) (event : RCConnEvent) : Sys β ι × RCConnEvent :=
  if s.conn.rdmnetConnFailed ∨ s.conn.backoffTimer.interval ≠ 0 then
    ({ s with
        conn.backoffTimer :=
          if s.conn.rdmnetConnFailed then
            ⟨r.now, updateBackoff r.rand s.conn.backoffTimer.interval⟩
          else s.conn.backoffTimer
        conn.state := .backoff }, event)
  else
    startTcpConnection env r s event

def localDisconnect (s : Sys β ι) : Sys β ι × RCConnEvent :=
  if s.conn.sentConnectedNotification then
    ({ s with conn.sentConnectedNotification := false }, .disconnected ⟨.gracefulLocalInitiated, .ok, 0⟩)
  else (s, .none)

/-- The `switch` of `process_connection_state`. -/
def processConnectionState (r : SocketRes) (s : Sys β ι) : Sys β ι × RCConnEvent :=
  match s.conn.state with
  | .connectPending => startConnection env r s .none
  | .backoff =>
    if env.timerIsExpired s.conn.backoffTimer r.now then startTcpConnection env r s .none
    else (s, .none)
  | .rdmnetConnPending =>
    if env.timerIsExpired s.conn.hbTimer r.now then
      (resetConnection env s, .connectFailed ⟨.noReply, .ok, 0⟩)
    else (s, .none)
  | .heartbeat =>
    if env.timerIsExpired s.conn.hbTimer r.now then
      (resetConnection env s, .disconnected ⟨.noHeartbeat, .ok, 0⟩)
    else if env.timerIsExpired s.conn.sendTimer r.now then
      (({ s with conn.sendTimer.resetTime := r.now } : Sys β ι).emit .sentNull, .none)
    else (s, .none)
  | .reconnectPending =>
    let told := localDisconnect (clearConnection env s)
    startConnection env r told.1 told.2
  | .disconnectPending =>
    let told := localDisconnect s
    (resetConnection env told.1, told.2)
  | _ => (s, .none)

/-- `destroy_connection` -/
def destroyConnection (s : Sys β ι) : Sys β ι :=
  (cleanupConnectionResources env s).emit .destroyed

/-! ### Incoming messages -/

/-- `handle_socket_error`, under the lock. -/
def handleSocketError (err : EtcPalErr) (s : Sys β ι) : Sys β ι × RCConnEvent :=
  match s.conn.state with
  | .tcpConnPending => (resetConnection env s, .connectFailed ⟨.tcpLevel, err, 0⟩)
  | .rdmnetConnPending =>
    (resetConnection env { s with conn.rdmnetConnFailed := true }, .connectFailed ⟨.tcpLevel, err, 0⟩)
  | .heartbeat => (resetConnection env s, .disconnected ⟨.abruptClose, err, 0⟩)
  | _ => (s, .none)

/-- `handle_rdmnet_message` -/
def handleRdmnetMessage (now : Nat) (s : Sys β ι) : Sys β ι × RCConnEvent :=
  let msg := env.msg s.conn.recvBuf
  let s := { s with conn.hbTimer.resetTime := now }
  if msg.vector = acnVectorRootBroker then
    match BrokerKind.ofVector (env.getBrokerMsg msg).vector with
    | .connectReply => (freeMessage env s, .none)
    | .null => (freeMessage env s, .none)
    | .disconnect =>
      (freeMessage env (resetConnection env s),
        .disconnected ⟨.gracefulRemoteInitiated, .ok, (env.getBrokerMsg msg).disconnect⟩)
    | _ => (s, .msgReceived msg)
  else (s, .msgReceived msg)

/-- `handle_rdmnet_connect_result` before it releases the message. -/
def connectResult (now : Nat) (s : Sys β ι) : Sys β ι × RCConnEvent :=
  let msg := env.msg s.conn.recvBuf
  let bmsg := env.getBrokerMsg msg
  let redirect : Sys β ι × RCConnEvent :=
    (retryConnection env { s with conn.remoteAddr := some bmsg.clientRedirect }, .none)
  match BrokerKind.ofVector bmsg.vector with
  | .connectReply =>
    if bmsg.connectReply.connectStatus = 0 then
      ({ s with
          conn.state := .heartbeat
          conn.sentConnectedNotification := true
          conn.backoffTimer := ⟨now, 0⟩ },
        .connected ⟨msg.senderCid, bmsg.connectReply.brokerUid, bmsg.connectReply.clientUid,
          s.conn.remoteAddr⟩)
    else
      ({ resetConnection env s with conn.rdmnetConnFailed := true },
        .connectFailed ⟨.rejected, .ok, bmsg.connectReply.connectStatus⟩)
  | .redirectV4 => redirect
  | .redirectV6 => redirect
  | _ => (s, .none)

/-- `handle_rdmnet_connect_result` -/
def handleRdmnetConnectResult (now : Nat) (s : Sys β ι) : Sys β ι × RCConnEvent :=
  let (s, event) := connectResult env now s
  (freeMessage env s, event)

/-- `handle_message` -/
def handleMessage (now : Nat) (s : Sys β ι) : Sys β ι × RCConnEvent :=
  let s := s.emit (.handled (env.msg s.conn.recvBuf))
  if s.conn.state = .rdmnetConnPending then handleRdmnetConnectResult env now s
  else handleRdmnetMessage env now s

/-- `process_message`, under the lock. -/
def processMessage (now : Nat) (s : Sys β ι) : Sys β ι × RCConnEvent :=
  if s.conn.state = .heartbeat ∨ s.conn.state = .rdmnetConnPending then handleMessage env now s
  else (s, .none)

theorem processMessage_cases (now : Nat) (s : Sys β ι) :
    (s.conn.state = .rdmnetConnPending ∧ processMessage env now s =
      handleRdmnetConnectResult env now (s.emit (.handled (env.msg s.conn.recvBuf)))) ∨
    (s.conn.state = .heartbeat ∧ processMessage env now s =
      handleRdmnetMessage env now (s.emit (.handled (env.msg s.conn.recvBuf)))) ∨
    (s.conn.state ≠ .heartbeat ∧ s.conn.state ≠ .rdmnetConnPending ∧ processMessage env now s = (s, .none)) := by
  by_cases hp : s.conn.state = .rdmnetConnPending
  · exact .inl ⟨hp, by simp [processMessage, handleMessage, hp]⟩
  by_cases hh : s.conn.state = .heartbeat
  · exact .inr (.inl ⟨hh, by simp [processMessage, handleMessage, hh]⟩)
  · exact .inr (.inr ⟨hh, hp, by simp [processMessage, hp, hh]⟩)

/-- `deliver_event_callback`, where `message_received` returns `action`. -/
def deliverEventCallback (event : RCConnEvent) (action : MessageAction) (s : Sys β ι) :
    Sys β ι × MessageAction :=
  match event with
  | .connected info => (s.emit (.connected info), .processNext)
  | .connectFailed info => (s.emit (.connectFailed info), .processNext)
  | .disconnected info => (s.emit (.disconnected info), .processNext)
  | .msgReceived message =>
    let s := s.emit (.messageReceived message action)
    (if action = .processNext then freeMessage env s else s, action)
  | .none => (s, .processNext)

/-! ### The functions of the application -/

/-- `rc_conn_register`: `buf` is what the receive buffer holds before, `connData` the connect data. -/
def rcConnRegister (buf : β) (connData : BrokerClientConnectMsg) (now : Nat) : Sys β ι where
  conn :=
    { sock := none, remoteAddr := none, state := .notStarted, connData,
      backoffTimer := ⟨now, 0⟩, rdmnetConnFailed := false, sentConnectedNotification := false,
      sendTimer := default, hbTimer := default, recvBuf := env.rcMsgBufInit buf,
      retryCurrentMessage := false }
  polled := none
  listed := .pending
  toRemove := false
  thread := .idle
  trace := []

/-- `rc_broker_send_disconnect`, which is sent only while the connection is healthy. -/
def sendDisconnect (reason : UInt16) (s : Sys β ι) : Sys β ι :=
  if s.conn.state = .heartbeat then s.emit (.sentDisconnect reason) else s

@[simp] theorem sendDisconnect_conn (reason : UInt16) (s : Sys β ι) :
    (sendDisconnect reason s).conn = s.conn := by
  unfold sendDisconnect
  split <;> rfl
@[simp] theorem sendDisconnect_thread (reason : UInt16) (s : Sys β ι) :
    (sendDisconnect reason s).thread = s.thread := by
  unfold sendDisconnect
  split <;> rfl

@[simp] theorem sendDisconnect_polled (reason : UInt16) (s : Sys β ι) :
    (sendDisconnect reason s).polled = s.polled := by
  unfold sendDisconnect
  split <;> rfl
@[simp] theorem sendDisconnect_place (reason : UInt16) (s : Sys β ι) :
    (sendDisconnect reason s).place = s.place := by
  unfold sendDisconnect
  split <;> rfl

/-- `rc_conn_unregister` -/
def rcConnUnregister (reason : Option UInt16) (s : Sys β ι) : Sys β ι :=
  let s := match reason with
    | some reason => sendDisconnect reason s
    | none => s
  { s with conn.state := .markedForDestruction, toRemove := true }

/-- `rc_conn_connect` -/
def rcConnConnect (remoteAddr : RedirectAddr) (connectData : BrokerClientConnectMsg)
    (s : Sys β ι) : Sys β ι × EtcPalErr :=
  if s.conn.state ≠ .notStarted ∧ s.conn.state ≠ .disconnectPending then (s, .isConn) else
    ({ s with
        conn.remoteAddr := some remoteAddr
        conn.connData := connectData
        conn.state :=
          if s.conn.state = .notStarted then .connectPending else .reconnectPending }, .ok)

/-- `rc_conn_reconnect` -/
def rcConnReconnect (remoteAddr : RedirectAddr) (connectData : BrokerClientConnectMsg)
    (reason : UInt16) (s : Sys β ι) : Sys β ι × EtcPalErr :=
  if s.conn.state = .notStarted ∨ s.conn.state = .markedForDestruction ∨
      s.conn.state = .disconnectPending then
    (s, .sys)
  else
    let s := sendDisconnect reason s
    ({ s with
        conn.remoteAddr := some remoteAddr
        conn.connData := connectData
        conn.state := if s.conn.state = .backoff then .connectPending else .reconnectPending }, .ok)

/-- `rc_conn_disconnect` -/
def rcConnDisconnect (reason : UInt16) (s : Sys β ι) : Sys β ι × EtcPalErr :=
  if s.conn.state = .notStarted ∨ s.conn.state = .markedForDestruction then (s, .sys) else
    let s := sendDisconnect reason s
    ({ s with
        conn.state :=
          if s.conn.state = .connectPending ∨ s.conn.state = .backoff then .notStarted
          else .disconnectPending }, .ok)

/-! ### Steps -/

/-- What can happen next. -/
inductive Action (ι : Type)
  | connect (remoteAddr : RedirectAddr) (connectData : BrokerClientConnectMsg)
  | reconnect (remoteAddr : RedirectAddr) (connectData : BrokerClientConnectMsg) (reason : UInt16)
  | disconnect (reason : UInt16)
  | unregister (reason : Option UInt16)
  /-- `socket_activity_callback` with `ETCPAL_POLL_ERR`, `ETCPAL_POLL_IN` or
  `ETCPAL_POLL_CONNECT`. -/
  | pollErr (err : EtcPalErr)
  | pollIn
  | pollConnect
  /-- `rc_conn_module_tick` begins. -/
  | tick
  /-- The thread calls `rc_msg_buf_recv`. -/
  | recv (input : ι)
  /-- The thread calls `rc_msg_buf_parse_data`, unless it has a message to retry. -/
  | parse
  /-- The thread takes the lock and does what it has to do with it. -/
  | lock (r : SocketRes)
  /-- The thread delivers its event; `message_received` returns `action`. -/
  | deliver (action : MessageAction)

/-- The end of `receive_and_process_messages`. -/
def finishReceive (caller : Caller) (action : MessageAction) (s : Sys β ι) : Sys β ι :=
  { s with
    conn.retryCurrentMessage := decide (action = .retryLater)
    thread := match caller with
      | .poll => .idle
      | .tick => .tickLock }

/-- `rc_conn_module_tick`, up to where `receive_and_process_messages` begins. -/
def moduleTick (s : Sys β ι) : Option (Sys β ι) :=
  if s.listed = .removed then none
  else if s.toRemove then
    some { destroyConnection env s with listed := .removed, toRemove := false }
  else
    some { s with listed := .active, thread := .receive .tick s.conn.retryCurrentMessage }

/-- The body of the outer loop of `receive_and_process_messages` up to the inner loop. -/
def recvStep (caller : Caller) (retry : Bool) (input : ι) (s : Sys β ι) : Sys β ι :=
  let r := env.rcMsgBufRecv input s.conn.recvBuf
  let s := ({ s with conn.recvBuf := r.1 } : Sys β ι).emit (.received input r.2)
  if r.2 = .ok ∨ retry then { s with thread := .parse caller r.2 retry }
  else if r.2 ≠ .wouldBlock then { s with thread := .socketError (some caller) r.2 }
  else finishReceive caller .processNext s

/-- The body of the inner loop up to `process_message`. -/
def parseStep (caller : Caller) (recvRes : EtcPalErr) (retry : Bool) (s : Sys β ι) :
    Option (Sys β ι) :=
  if retry then some { s with thread := .process caller recvRes } else
    let r := env.rcMsgBufParseData s.conn.recvBuf
    let s := { s with conn.recvBuf := r.1 }
    match r.2 with
    | .ok => some { s.emit (.parsed (env.msg r.1)) with thread := .process caller recvRes }
    | .stuck => none
    | _ =>
      if recvRes = .ok then some { s with thread := .receive caller false }
      else some (finishReceive caller .processNext s)

theorem parseStep_cases {caller : Caller} {recvRes : EtcPalErr} {retry : Bool}
    (hs : parseStep env caller recvRes retry s = some s') :
    (retry = true ∧ s' = { s with thread := .process caller recvRes }) ∨
    (retry = false ∧ (env.rcMsgBufParseData s.conn.recvBuf).2 = .ok ∧ s' = { s with
        conn.recvBuf := (env.rcMsgBufParseData s.conn.recvBuf).1
        thread := .process caller recvRes
        trace := s.trace ++ [.parsed (env.msg (env.rcMsgBufParseData s.conn.recvBuf).1)] }) ∨
    (retry = false ∧ (env.rcMsgBufParseData s.conn.recvBuf).2 ≠ .ok ∧ ((recvRes = .ok ∧ s' = { s with
          conn.recvBuf := (env.rcMsgBufParseData s.conn.recvBuf).1
          thread := .receive caller false }) ∨ (recvRes ≠ .ok ∧ s' = finishReceive caller .processNext
          { s with conn.recvBuf := (env.rcMsgBufParseData s.conn.recvBuf).1 }))) := by
  unfold parseStep at hs
  cases retry with
  | true =>
    cases hs
    exact .inl ⟨rfl, rfl⟩
  | false =>
    dsimp only at hs
    by_cases hrecv : recvRes = .ok <;>
      cases hres : (env.rcMsgBufParseData s.conn.recvBuf).2 <;>
      simp only [hres, hrecv, if_true, if_false, Bool.false_eq_true] at hs <;> cases hs <;>
      simp [hrecv, Sys.emit]

def lockStep (r : SocketRes) (s : Sys β ι) : Option (Sys β ι) :=
  match s.thread with
  | .process caller recvRes =>
    let (s, event) := processMessage env r.now s
    some { s with thread := .deliver caller recvRes event }
  | .socketError caller err =>
    let (s, event) := handleSocketError env err s
    some { s with thread := .errorDeliver caller event }
  | .tcpEstablished => some { startRdmnetConnection r s with thread := .idle }
  | .tickLock =>
    let (s, event) := processConnectionState env r s
    some { s with thread := .tickDeliver event }
  | _ => none

def deliverStep (action : MessageAction) (s : Sys β ι) : Option (Sys β ι) :=
  match s.thread with
  | .deliver caller recvRes event =>
    let (s, action) := deliverEventCallback env event action s
    if action = .processNext then some { s with thread := .parse caller recvRes false }
    else some (finishReceive caller action s)
  | .errorDeliver caller event =>
    let (s, _) := deliverEventCallback env event action s
    match caller with
    | some caller => some (finishReceive caller .processNext s)
    | none => some { s with thread := .idle }
  | .tickDeliver event =>
    let (s, _) := deliverEventCallback env event action s
    some { s with thread := .idle }
  | _ => none

def connStep (a : Action ι) (s : Sys β ι) : Option (Sys β ι) :=
  match a with
  | .connect addr data => if s.listed = .removed then none else some (rcConnConnect addr data s).1
  | .reconnect addr data reason =>
    if s.listed = .removed then none else some (rcConnReconnect addr data reason s).1
  | .disconnect reason => if s.listed = .removed then none else some (rcConnDisconnect reason s).1
  | .unregister reason => if s.listed = .removed then none else some (rcConnUnregister reason s)
  -- a poll event comes for a socket that is registered, to a thread that waits for it
  | .pollErr err =>
    if s.thread = .idle ∧ s.polled.isSome then some { s with thread := .socketError none err }
    else none
  | .pollIn =>
    if s.thread = .idle ∧ s.polled.isSome then
      some { s with thread := .receive .poll s.conn.retryCurrentMessage }
    else none
  | .pollConnect =>
    if s.thread = .idle ∧ s.polled.isSome then some { s with thread := .tcpEstablished } else none
  | .tick => if s.thread = .idle then moduleTick env s else none
  | .recv input =>
    match s.thread with
    | .receive caller retry => some (recvStep env caller retry input s)
    | _ => none
  | .parse =>
    match s.thread with
    | .parse caller recvRes retry => parseStep env caller recvRes retry s
    | _ => none
  | .lock r => lockStep env r s
  | .deliver action => deliverStep env action s

/-! ### What a step can be -/

/-- The steps one by one, with where the thread is before. -/
inductive Moves (s : Sys β ι) : Action ι → Sys β ι → Prop
  | connect (addr : RedirectAddr) (data : BrokerClientConnectMsg) :
      Moves s (.connect addr data) (rcConnConnect addr data s).1
  | reconnect (addr : RedirectAddr) (data : BrokerClientConnectMsg) (reason : UInt16) :
      Moves s (.reconnect addr data reason) (rcConnReconnect addr data reason s).1
  | disconnect (reason : UInt16) : Moves s (.disconnect reason) (rcConnDisconnect reason s).1
  | unregister (reason : Option UInt16) : Moves s (.unregister reason) (rcConnUnregister reason s)
  | pollErr (err : EtcPalErr) (hth : s.thread = .idle) (hp : s.polled.isSome = true) :
      Moves s (.pollErr err) { s with thread := .socketError none err }
  | pollIn (hth : s.thread = .idle) (hp : s.polled.isSome = true) :
      Moves s .pollIn { s with thread := .receive .poll s.conn.retryCurrentMessage }
  | pollConnect (hth : s.thread = .idle) (hp : s.polled.isSome = true) :
      Moves s .pollConnect { s with thread := .tcpEstablished }
  | destroy (hth : s.thread = .idle) (hl : s.listed ≠ .removed) (hrem : s.toRemove = true) :
      Moves s .tick { destroyConnection env s with listed := .removed, toRemove := false }
  | tick (hth : s.thread = .idle) (hl : s.listed ≠ .removed) (hrem : s.toRemove = false) :
      Moves s .tick
        { s with listed := .active, thread := .receive .tick s.conn.retryCurrentMessage }
  | recv (caller : Caller) (retry : Bool) (input : ι) (hth : s.thread = .receive caller retry) :
      Moves s (.recv input) (recvStep env caller retry input s)
  | parse (caller : Caller) (recvRes : EtcPalErr) (retry : Bool) (s' : Sys β ι)
      (hth : s.thread = .parse caller recvRes retry)
      (hs : parseStep env caller recvRes retry s = some s') : Moves s .parse s'
  | process (r : SocketRes) (caller : Caller) (recvRes : EtcPalErr)
      (hth : s.thread = .process caller recvRes) :
      Moves s (.lock r) { (processMessage env r.now s).1 with
        thread := .deliver caller recvRes (processMessage env r.now s).2 }
  | socketError (r : SocketRes) (caller : Option Caller) (err : EtcPalErr)
      (hth : s.thread = .socketError caller err) :
      Moves s (.lock r) { (handleSocketError env err s).1 with
        thread := .errorDeliver caller (handleSocketError env err s).2 }
  | tcpEstablished (r : SocketRes) (hth : s.thread = .tcpEstablished) :
      Moves s (.lock r) { startRdmnetConnection r s with thread := .idle }
  | tickLock (r : SocketRes) (hth : s.thread = .tickLock) :
      Moves s (.lock r) { (processConnectionState env r s).1 with
        thread := .tickDeliver (processConnectionState env r s).2 }
  | deliver (action : MessageAction) (caller : Caller) (recvRes : EtcPalErr) (event : RCConnEvent)
      (hth : s.thread = .deliver caller recvRes event)
      (hnext : (deliverEventCallback env event action s).2 = .processNext) :
      Moves s (.deliver action) { (deliverEventCallback env event action s).1 with
        thread := .parse caller recvRes false }
  | deliverRetry (action : MessageAction) (caller : Caller) (recvRes : EtcPalErr)
      (event : RCConnEvent) (hth : s.thread = .deliver caller recvRes event)
      (hnext : (deliverEventCallback env event action s).2 = .retryLater) :
      Moves s (.deliver action) (finishReceive caller .retryLater (deliverEventCallback env event action s).1)
  | errorDeliver (action : MessageAction) (caller : Caller) (event : RCConnEvent)
      (hth : s.thread = .errorDeliver (some caller) event) :
      Moves s (.deliver action) (finishReceive caller .processNext
        (deliverEventCallback env event action s).1)
  | pollDeliver (action : MessageAction) (event : RCConnEvent)
      (hth : s.thread = .errorDeliver none event) :
      Moves s (.deliver action) { (deliverEventCallback env event action s).1 with thread := .idle }
  | tickDeliver (action : MessageAction) (event : RCConnEvent)
      (hth : s.thread = .tickDeliver event) :
      Moves s (.deliver action) { (deliverEventCallback env event action s).1 with thread := .idle }

theorem lockStep_moves {r : SocketRes} (hs : lockStep env r s = some s') : Moves env s (.lock r) s' := by
  cases hth : s.thread <;> simp only [lockStep, hth, reduceCtorEq, Option.some.injEq] at hs <;>
    subst hs
  case process => exact .process r _ _ hth
  case socketError => exact .socketError r _ _ hth
  case tcpEstablished => exact .tcpEstablished r hth
  case tickLock => exact .tickLock r hth

theorem deliverStep_moves {action : MessageAction}
    (hs : deliverStep env action s = some s') : Moves env s (.deliver action) s' := by
  cases hth : s.thread with
  | deliver caller recvRes event =>
    simp only [deliverStep, hth] at hs
    cases hnext : (deliverEventCallback env event action s).2 <;>
      simp only [hnext, if_true, reduceCtorEq, if_false] at hs <;> cases hs
    · exact .deliverRetry action _ _ _ hth hnext
    · exact .deliver action _ _ _ hth hnext
  | errorDeliver caller event =>
    simp only [deliverStep, hth] at hs
    cases caller <;> cases hs
    · exact .pollDeliver action _ hth
    · exact .errorDeliver action _ _ hth
  | tickDeliver event =>
    simp only [deliverStep, hth, Option.some.injEq] at hs
    subst hs
    exact .tickDeliver action _ hth
  | _ => simp [deliverStep, hth] at hs

theorem connStep_moves {a : Action ι} (hs : connStep env a s = some s') : Moves env s a s' := by
  cases a <;> simp only [connStep] at hs
  case recv input =>
    cases hth : s.thread <;> simp only [hth, reduceCtorEq, Option.some.injEq] at hs
    subst hs
    exact .recv _ _ input hth
  case parse =>
    cases hth : s.thread <;> simp only [hth, reduceCtorEq] at hs
    exact .parse _ _ _ s' hth hs
  case lock r => exact lockStep_moves env hs
  case deliver action => exact deliverStep_moves env hs
  case tick =>
    unfold moduleTick at hs
    split at hs
    · rename_i hth
      split at hs
      · cases hs
      · rename_i hl
        split at hs <;> cases hs
        · exact .destroy hth hl ‹_›
        · exact .tick hth hl (Bool.eq_false_iff.mpr ‹_›)
    · cases hs
  case connect addr data =>
    split at hs <;> cases hs
    exact .connect addr data
  case reconnect addr data reason =>
    split at hs <;> cases hs
    exact .reconnect addr data reason
  case disconnect reason =>
    split at hs <;> cases hs
    exact .disconnect reason
  case unregister reason =>
    split at hs <;> cases hs
    exact .unregister reason
  case pollErr err =>
    split at hs <;> cases hs
    exact .pollErr err (And.left ‹_›) (And.right ‹_›)
  case pollIn =>
    split at hs <;> cases hs
    exact .pollIn (And.left ‹_›) (And.right ‹_›)
  case pollConnect =>
    split at hs <;> cases hs
    exact .pollConnect (And.left ‹_›) (And.right ‹_›)

end Functions

end RDMnet
