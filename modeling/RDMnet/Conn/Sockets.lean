import RDMnet.Conn.Release

/-!
# The socket of a connection

`conn->sock` is opened by `start_tcp_connection` and closed by `cleanup_connection_resources`, and
the state says whether there is one.  `Accounted` reads the trace: the sockets that were opened are
those that were closed, one after the other, and the one that the connection holds.  `OwnsSocket` adds
that the state agrees.

The application's functions change the state without looking at the socket, and the background thread
comes to its calls in states that it did not leave behind; the states in which there may or may not
be a socket (`kRCConnStateDisconnectPending`, `kRCConnStateReconnectPending`,
`kRCConnStateMarkedForDestruction`) are those that end in a cleanup.
-/

namespace RDMnet

open List Obs ConnState

variable {β ι : Type} {env : ConnEnv β ι} {s s' : Sys β ι}

/-! ### The sockets of a trace -/

inductive SocketEvent
  | opened (sock : Nat)
  | closed (sock : Nat)
  deriving DecidableEq, Repr

def Obs.socketEvent : Obs ι → Option SocketEvent
  | .opened n => some (.opened n)
  | .closed n => some (.closed n)
  | _ => none

/-- Each of the sockets was opened, and closed before the next one was opened. -/
def openedAndClosed (socks : List Nat) : List SocketEvent :=
  socks.flatMap fun n => [.opened n, .closed n]

/-- The trace has the sockets that were closed and the one that the connection holds; no other
socket is polled. -/
structure Accounted (s : Sys β ι) : Prop where
  history : ∃ socks, s.trace.filterMap socketEvent =
    openedAndClosed socks ++ (s.conn.sock.map SocketEvent.opened).toList
  polled : s.polled.isSome = true → s.conn.sock.isSome = true

theorem Accounted.of_adds (h : Accounted s) (hsock : s'.conn.sock = s.conn.sock)
    (hpolled : s'.polled.isSome = true → s.polled.isSome = true)
    (hadds : Adds (fun o => o.socketEvent = none) s s') : Accounted s' := by
  obtain ⟨new, htrace, hnew⟩ := hadds
  refine ⟨?_, fun hp => by rw [hsock]; exact h.polled (hpolled hp)⟩
  obtain ⟨socks, hs⟩ := h.history
  refine ⟨socks, ?_⟩
  rw [htrace, filterMap_append, filterMap_eq_nil_iff.mpr hnew, append_nil, hs, hsock]

theorem Accounted.clear (h : Accounted s) (hsock : s'.conn.sock = none)
    (hpolled : s'.polled = if s.conn.sock.isSome then none else s.polled)
    (htrace : s'.trace = s.trace ++ clearTrace s.conn) : Accounted s' := by
  obtain ⟨socks, hs⟩ := h.history
  have hfreed : (if s.conn.retryCurrentMessage then [freed] else [] : List (Obs ι)).filterMap
      socketEvent = [] := by
    split <;> rfl
  cases hold : s.conn.sock with
  | none =>
    refine ⟨⟨socks, ?_⟩, fun hp => ?_⟩
    · rw [htrace, filterMap_append, hs, hsock, hold, clearTrace, filterMap_append, hfreed, hold]
      simp
    · rw [hpolled, hold] at hp
      have := h.polled hp
      rw [hold] at this
      cases this
  | some n =>
    refine ⟨⟨socks ++ [n], ?_⟩, fun hp => ?_⟩
    · rw [htrace, filterMap_append, hs, hsock, hold, clearTrace, filterMap_append, hfreed,
        hold, openedAndClosed, openedAndClosed, flatMap_append]
      simp [socketEvent]
    · rw [hpolled, hold] at hp
      cases hp

variable (env) in
theorem Accounted.cleanup (h : Accounted s) : Accounted (cleanupConnectionResources env s) := by
  rw [cleanupConnectionResources_eq]
  exact h.clear rfl rfl rfl

@[simp] theorem clearConnection_sock (s : Sys β ι) : (clearConnection env s).conn.sock = none := by
  simp [clearConnection, cleanupConnectionResources_eq]

variable (env) in
theorem Accounted.clearConnection (h : Accounted s) : Accounted (clearConnection env s) :=
  ⟨(h.cleanup env).history, (h.cleanup env).polled⟩

theorem Accounted.opened (h : Accounted s) (hsock : s.conn.sock = none) (n : Nat) :
    Accounted (({ s with conn.sock := some n } : Sys β ι).emit (.opened n)) := by
  obtain ⟨socks, hs⟩ := h.history
  refine ⟨⟨socks, ?_⟩, fun _ => rfl⟩
  rw [emit_trace, filterMap_append, hs, hsock]
  simp [socketEvent]

/-! ### The state and the socket -/

def ConnState.Unconnected (st : ConnState) : Prop :=
  st = .notStarted ∨ st = .connectPending ∨ st = .backoff

def ConnState.Connecting (st : ConnState) : Prop :=
  st = .tcpConnPending ∨ st = .rdmnetConnPending ∨ st = .heartbeat

structure RCConnection.SocketAgrees (c : RCConnection β) : Prop where
  without : c.state.Unconnected → c.sock = none
  within : c.state.Connecting → c.sock.isSome = true

theorem ConnState.Unconnected.not_connecting {st : ConnState} (h : st.Unconnected) : ¬ st.Connecting := by
  rcases h with rfl | rfl | rfl <;> simp [Connecting]

variable {c : RCConnection β}

theorem RCConnection.SocketAgrees.unconnected (hst : c.state.Unconnected)
    (hsock : c.sock = none) : c.SocketAgrees :=
  ⟨fun _ => hsock, fun h => absurd h hst.not_connecting⟩

theorem RCConnection.SocketAgrees.connecting (hst : c.state.Connecting)
    (hsock : c.sock.isSome = true) : c.SocketAgrees :=
  ⟨fun h => absurd hst h.not_connecting, fun _ => hsock⟩

theorem RCConnection.SocketAgrees.leaving (hst : c.state = .disconnectPending ∨ c.state = .reconnectPending ∨
      c.state = .markedForDestruction) : c.SocketAgrees := by
  rcases hst with hst | hst | hst <;> constructor <;>
    simp [hst, Unconnected, Connecting]

structure OwnsSocket (s : Sys β ι) : Prop extends Accounted s where
  agrees : s.conn.SocketAgrees

theorem OwnsSocket.of_eq (h : OwnsSocket s) (hconn : s'.conn = s.conn) (hpolled : s'.polled = s.polled)
    (htrace : s'.trace = s.trace) : OwnsSocket s' := by
  refine ⟨⟨?_, ?_⟩, ?_⟩
  · rw [hconn, htrace]
    exact h.history
  · rw [hconn, hpolled]
    exact h.polled
  · rw [hconn]
    exact h.agrees

theorem OwnsSocket.of_adds (h : OwnsSocket s) (hsock : s'.conn.sock = s.conn.sock)
    (hstate : s'.conn.state = s.conn.state) (hpolled : s'.polled = s.polled)
    (hadds : Adds (fun o => o.socketEvent = none) s s') : OwnsSocket s' := by
  refine ⟨h.toAccounted.of_adds hsock (fun hp => by rwa [hpolled] at hp) hadds, ?_, ?_⟩
  · rw [hsock, hstate]
    exact h.agrees.without
  · rw [hsock, hstate]
    exact h.agrees.within

theorem resetConnection_ownsSocket (h : Accounted s) : OwnsSocket (resetConnection env s) :=
  ⟨⟨(h.clearConnection env).history, (h.clearConnection env).polled⟩,
    .unconnected (.inl rfl) (clearConnection_sock s)⟩

theorem retryConnection_ownsSocket (h : Accounted s) : OwnsSocket (retryConnection env s) :=
  ⟨⟨(h.clearConnection env).history, (h.clearConnection env).polled⟩,
    .unconnected (.inr (.inl rfl)) (clearConnection_sock s)⟩

theorem freeMessage_ownsSocket (h : OwnsSocket s) : OwnsSocket (freeMessage env s) :=
  h.of_adds rfl rfl rfl (.one .freed rfl rfl)

/-! ### What the connection does with the lock -/

section

variable (h : Accounted s)
include h

theorem startRdmnetConnection_ownsSocket (hsock : s.conn.sock.isSome = true)
    (r : SocketRes) : OwnsSocket (startRdmnetConnection r s) := by
  refine ⟨h.of_adds rfl (fun hp => ?_) (.one _ rfl rfl), .connecting (.inr (.inl rfl)) hsock⟩
  simp only [startRdmnetConnection, emit_polled] at hp
  split at hp
  · exact And.left ‹_›
  · exact hp

theorem startTcpConnection_ownsSocket (hsock : s.conn.sock = none) (r : SocketRes)
    (event : RCConnEvent) : OwnsSocket (startTcpConnection env r s event).1 := by
  unfold startTcpConnection
  cases hs : r.socket with
  | error res => exact resetConnection_ownsSocket h
  | ok n =>
    have hopen := h.opened hsock n
    have htry : Accounted ((({ (({ s with conn.sock := some n } : Sys β ι).emit (.opened n)) with
        conn.rdmnetConnFailed := false } : Sys β ι)).emit (.connecting n s.conn.remoteAddr)) :=
      hopen.of_adds rfl (fun hp => hp) (.one _ rfl rfl)
    dsimp only
    split
    · exact resetConnection_ownsSocket hopen
    · split
      · exact startRdmnetConnection_ownsSocket htry rfl r
      · split
        · -- the connection is in progress, and is polled if that is possible
          split
          · exact ⟨⟨htry.history, fun _ => rfl⟩, .connecting (.inl rfl) rfl⟩
          · exact resetConnection_ownsSocket ⟨htry.history, htry.polled⟩
        · split <;> exact resetConnection_ownsSocket htry

theorem startConnection_ownsSocket (hsock : s.conn.sock = none) (r : SocketRes)
    (event : RCConnEvent) : OwnsSocket (startConnection env r s event).1 := by
  unfold startConnection
  split
  · exact ⟨⟨h.history, h.polled⟩, .unconnected (.inr (.inr rfl)) hsock⟩
  · exact startTcpConnection_ownsSocket h hsock r event

theorem localDisconnect_accounted : Accounted (localDisconnect s).1 := by
  unfold localDisconnect
  split
  · exact ⟨h.history, h.polled⟩
  · exact h

end

theorem localDisconnect_sock (s : Sys β ι) : (localDisconnect s).1.conn.sock = s.conn.sock := by
  unfold localDisconnect
  split <;> rfl

section

variable (h : OwnsSocket s)
include h

theorem processConnectionState_ownsSocket (r : SocketRes) : OwnsSocket (processConnectionState env r s).1 := by
  have hacc := h.toAccounted
  unfold processConnectionState
  split <;> rename_i hst
  · exact startConnection_ownsSocket hacc (h.agrees.without (.inr (.inl hst))) r .none
  · split
    · exact startTcpConnection_ownsSocket hacc (h.agrees.without (.inr (.inr hst))) r .none
    · exact h
  · split
    · exact resetConnection_ownsSocket hacc
    · exact h
  · split
    · exact resetConnection_ownsSocket hacc
    · split
      · exact h.of_adds rfl rfl rfl (.one _ rfl rfl)
      · exact h
  · refine startConnection_ownsSocket (localDisconnect_accounted (hacc.clearConnection env)) ?_ r _
    rw [localDisconnect_sock, clearConnection_sock]
  · exact resetConnection_ownsSocket (localDisconnect_accounted hacc)
  · exact h

theorem handleSocketError_ownsSocket (err : EtcPalErr) : OwnsSocket (handleSocketError env err s).1 := by
  have hacc := h.toAccounted
  unfold handleSocketError
  split
  · exact resetConnection_ownsSocket hacc
  · exact resetConnection_ownsSocket ⟨hacc.history, hacc.polled⟩
  · exact resetConnection_ownsSocket hacc
  · exact h

theorem handleRdmnetMessage_ownsSocket (now : Nat) : OwnsSocket (handleRdmnetMessage env now s).1 := by
  have hreset : OwnsSocket ({ s with conn.hbTimer.resetTime := now } : Sys β ι) :=
    h.of_adds rfl rfl rfl (.same rfl)
  unfold handleRdmnetMessage
  dsimp only
  split
  · split
    · exact freeMessage_ownsSocket hreset
    · exact freeMessage_ownsSocket hreset
    · exact freeMessage_ownsSocket (resetConnection_ownsSocket hreset.toAccounted)
    · exact hreset
  · exact hreset

theorem connectResult_ownsSocket (hst : s.conn.state = .rdmnetConnPending) (now : Nat) :
    OwnsSocket (connectResult env now s).1 := by
  have hacc := h.toAccounted
  have hredirect (a : Option RedirectAddr) :
      OwnsSocket (retryConnection env { s with conn.remoteAddr := a }) :=
    retryConnection_ownsSocket ⟨hacc.history, hacc.polled⟩
  unfold connectResult
  dsimp only
  split
  · split
    · exact ⟨⟨hacc.history, hacc.polled⟩, .connecting (.inr (.inr rfl)) (h.agrees.within (.inr (.inl hst)))⟩
    · exact (resetConnection_ownsSocket hacc).of_adds rfl rfl rfl (.same rfl)
  · exact hredirect _
  · exact hredirect _
  · exact h

theorem processMessage_ownsSocket (now : Nat) : OwnsSocket (processMessage env now s).1 := by
  have hseen : OwnsSocket (s.emit (.handled (env.msg s.conn.recvBuf))) :=
    h.of_adds rfl rfl rfl (.one _ rfl rfl)
  rcases processMessage_cases env now s with ⟨hst, heq⟩ | ⟨-, heq⟩ | ⟨-, -, heq⟩ <;> rw [heq]
  · exact freeMessage_ownsSocket (connectResult_ownsSocket hseen hst now)
  · exact handleRdmnetMessage_ownsSocket hseen now
  · exact h

theorem deliverEventCallback_ownsSocket (event : RCConnEvent) (action : MessageAction) :
    OwnsSocket (deliverEventCallback env event action s).1 := by
  have hseen (o : Obs ι) (ho : o.socketEvent = none) : OwnsSocket (s.emit o) :=
    h.of_adds rfl rfl rfl (.one o rfl ho)
  unfold deliverEventCallback
  cases event with
  | none => exact h
  | msgReceived m =>
    dsimp only
    split
    · exact freeMessage_ownsSocket (hseen _ rfl)
    · exact hseen _ rfl
  | _ => exact hseen _ rfl

end

/-! ### What the application does -/

section

variable (h : OwnsSocket s)
include h

theorem sendDisconnect_ownsSocket (reason : UInt16) : OwnsSocket (sendDisconnect reason s) := by
  unfold sendDisconnect
  split
  · exact h.of_adds rfl rfl rfl (.one _ rfl rfl)
  · exact h

theorem rcConnUnregister_ownsSocket (reason : Option UInt16) : OwnsSocket (rcConnUnregister reason s) := by
  cases reason with
  | none => exact ⟨⟨h.history, h.polled⟩, .leaving (.inr (.inr rfl))⟩
  | some reason =>
    have hsent := sendDisconnect_ownsSocket h reason
    exact ⟨⟨hsent.history, hsent.polled⟩, .leaving (.inr (.inr rfl))⟩

theorem rcConnConnect_ownsSocket (addr : RedirectAddr) (data : BrokerClientConnectMsg) :
    OwnsSocket (rcConnConnect addr data s).1 := by
  unfold rcConnConnect
  split
  · exact h
  · refine ⟨⟨h.history, h.polled⟩, ?_⟩
    by_cases hst : s.conn.state = .notStarted
    · exact .unconnected (.inr (.inl (if_pos hst))) (h.agrees.without (.inl hst))
    · exact .leaving (.inr (.inl (if_neg hst)))

theorem rcConnReconnect_ownsSocket (addr : RedirectAddr) (data : BrokerClientConnectMsg)
    (reason : UInt16) : OwnsSocket (rcConnReconnect addr data reason s).1 := by
  unfold rcConnReconnect
  split
  · exact h
  · have hsent := sendDisconnect_ownsSocket h reason
    refine ⟨⟨hsent.history, hsent.polled⟩, ?_⟩
    by_cases hst : (sendDisconnect reason s).conn.state = .backoff
    · exact .unconnected (.inr (.inl (if_pos hst))) (hsent.agrees.without (.inr (.inr hst)))
    · exact .leaving (.inr (.inl (if_neg hst)))

theorem rcConnDisconnect_ownsSocket (reason : UInt16) : OwnsSocket (rcConnDisconnect reason s).1 := by
  unfold rcConnDisconnect
  split
  · exact h
  · have hsent := sendDisconnect_ownsSocket h reason
    refine ⟨⟨hsent.history, hsent.polled⟩, ?_⟩
    by_cases hst : (sendDisconnect reason s).conn.state = .connectPending ∨
        (sendDisconnect reason s).conn.state = .backoff
    · exact .unconnected (.inl (if_pos hst)) (hsent.agrees.without (.inr hst))
    · exact .leaving (.inl (if_neg hst))

end

/-! ### Runs -/

/-- The invariant: until the connection is destroyed it owns its socket; then it has none, and the
thread is done with it. -/
structure SocketInv (s : Sys β ι) : Prop extends Accounted s where
  owned : s.listed ≠ .removed → OwnsSocket s
  removed : s.listed = .removed → s.conn.sock = none ∧ s.thread = .idle
  /-- A poll event for a socket that is connected: the socket is still there. -/
  established : s.thread = .tcpEstablished → s.conn.sock.isSome = true

/-- A connection that is not removed and whose thread has no such poll event. -/
theorem SocketInv.of_owns (h : OwnsSocket s) (hl : s.listed ≠ .removed)
    (hth : s.thread ≠ .tcpEstablished) : SocketInv s :=
  ⟨h.toAccounted, fun _ => h, fun hrem => absurd hrem hl, fun hest => absurd hest hth⟩

/-- A request of the application leaves the socket and the thread alone, and the list that is
processed. -/
structure Asks (s s' : Sys β ι) : Prop where
  sock : s'.conn.sock = s.conn.sock
  thread : s'.thread = s.thread
  listed : s'.listed = s.listed

theorem sendDisconnect_asks (reason : UInt16) (s : Sys β ι) : Asks s (sendDisconnect reason s) :=
  ⟨by simp, by simp, congrArg Prod.fst (sendDisconnect_place reason s)⟩

theorem rcConnConnect_asks (addr : RedirectAddr) (data : BrokerClientConnectMsg) (s : Sys β ι) :
    Asks s (rcConnConnect addr data s).1 := by
  unfold rcConnConnect
  split <;> exact ⟨rfl, rfl, rfl⟩

theorem rcConnReconnect_asks (addr : RedirectAddr) (data : BrokerClientConnectMsg) (reason : UInt16)
    (s : Sys β ι) : Asks s (rcConnReconnect addr data reason s).1 := by
  have h := sendDisconnect_asks reason s
  unfold rcConnReconnect
  split
  · exact ⟨rfl, rfl, rfl⟩
  · exact { h with }

theorem rcConnDisconnect_asks (reason : UInt16) (s : Sys β ι) : Asks s (rcConnDisconnect reason s).1 := by
  have h := sendDisconnect_asks reason s
  unfold rcConnDisconnect
  split
  · exact ⟨rfl, rfl, rfl⟩
  · exact { h with }

theorem rcConnUnregister_asks (reason : Option UInt16) (s : Sys β ι) : Asks s (rcConnUnregister reason s) := by
  cases reason with
  | none => exact ⟨rfl, rfl, rfl⟩
  | some reason =>
    have h := sendDisconnect_asks reason s
    exact { h with }

theorem SocketInv.request (h : SocketInv s) (hl : s.listed ≠ .removed) (how : OwnsSocket s')
    (ha : Asks s s') : SocketInv s' := by
  refine ⟨how.toAccounted, fun _ => how, fun hrem => absurd (ha.listed ▸ hrem) hl, fun he => ?_⟩
  rw [ha.sock]
  exact h.established (ha.thread ▸ he)

theorem SocketInv.stays (h : SocketInv s) {a : Action ι} (hs : connStep env a s = some s') :
    s.listed ≠ .removed := by
  intro hrem
  obtain ⟨hsock, hth⟩ := h.removed hrem
  have hpolled : s.polled.isSome = false := by
    refine Bool.eq_false_iff.mpr fun hp => ?_
    have := h.polled hp
    rw [hsock] at this
    cases this
  cases a <;>
    simp [connStep, moduleTick, lockStep, deliverStep, hrem, hth, hpolled] at hs

theorem recvStep_ownsSocket (h : OwnsSocket s) (caller : Caller) (retry : Bool) (input : ι) :
    OwnsSocket (recvStep env caller retry input s) := by
  have hseen : OwnsSocket (({ s with conn.recvBuf := (env.rcMsgBufRecv input s.conn.recvBuf).1 } :
      Sys β ι).emit (.received input (env.rcMsgBufRecv input s.conn.recvBuf).2)) :=
    h.of_adds rfl rfl rfl (.one _ rfl rfl)
  unfold recvStep
  dsimp only
  split
  · exact hseen.of_eq rfl rfl rfl
  · split
    · exact hseen.of_eq rfl rfl rfl
    · exact hseen.of_adds rfl rfl rfl (.same rfl)

theorem parseStep_ownsSocket (h : OwnsSocket s) {caller : Caller} {recvRes : EtcPalErr} {retry : Bool}
    (hs : parseStep env caller recvRes retry s = some s') : OwnsSocket s' := by
  rcases parseStep_cases env hs with ⟨-, rfl⟩ | ⟨-, -, rfl⟩ | ⟨-, -, ⟨-, rfl⟩ | ⟨-, rfl⟩⟩
  · exact h.of_eq rfl rfl rfl
  · exact h.of_adds rfl rfl rfl (.one _ rfl rfl)
  · exact h.of_adds rfl rfl rfl (.same rfl)
  · exact h.of_adds rfl rfl rfl (.same rfl)

theorem finishReceive_goes (caller : Caller) (action : MessageAction) (s : Sys β ι) :
    (finishReceive caller action s).thread ≠ .tcpEstablished := by
  cases caller <;> exact nofun

variable (env) in
theorem recvStep_goes (caller : Caller) (retry : Bool) (input : ι) (s : Sys β ι) :
    (recvStep env caller retry input s).listed = s.listed ∧
      (recvStep env caller retry input s).thread ≠ .tcpEstablished := by
  unfold recvStep
  dsimp only
  split
  · exact ⟨rfl, nofun⟩
  · split
    · exact ⟨rfl, nofun⟩
    · exact ⟨rfl, finishReceive_goes _ _ _⟩

theorem parseStep_goes {caller : Caller} {recvRes : EtcPalErr} {retry : Bool}
    (hs : parseStep env caller recvRes retry s = some s') :
    s'.listed = s.listed ∧ s'.thread ≠ .tcpEstablished := by
  rcases parseStep_cases env hs with ⟨-, rfl⟩ | ⟨-, -, rfl⟩ | ⟨-, -, ⟨-, rfl⟩ | ⟨-, rfl⟩⟩
  · exact ⟨rfl, nofun⟩
  · exact ⟨rfl, nofun⟩
  · exact ⟨rfl, nofun⟩
  · exact ⟨rfl, finishReceive_goes _ _ _⟩

theorem Moves.sockets {a : Action ι} (hm : Moves env s a s') (h : SocketInv s)
    (hl : s.listed ≠ .removed) : SocketInv s' := by
  have how := h.owned hl
  have hlisted {t : Sys β ι} (hp : t.place = s.place) : t.listed ≠ .removed := by
    rw [show t.listed = s.listed from congrArg Prod.fst hp]
    exact hl
  cases hm with
  | connect addr data =>
    exact h.request hl (rcConnConnect_ownsSocket how addr data) (rcConnConnect_asks addr data s)
  | reconnect addr data reason =>
    exact h.request hl (rcConnReconnect_ownsSocket how addr data reason)
      (rcConnReconnect_asks addr data reason s)
  | disconnect reason =>
    exact h.request hl (rcConnDisconnect_ownsSocket how reason) (rcConnDisconnect_asks reason s)
  | unregister reason =>
    exact h.request hl (rcConnUnregister_ownsSocket how reason) (rcConnUnregister_asks reason s)
  | pollErr | pollIn => exact .of_owns (how.of_eq rfl rfl rfl) hl nofun
  | pollConnect hth hp =>
    have how' : OwnsSocket { s with thread := .tcpEstablished } := how.of_eq rfl rfl rfl
    exact ⟨how'.toAccounted, fun _ => how', fun hr => absurd hr hl, fun _ => how.polled hp⟩
  | destroy hth hl hrem =>
    have hacc := how.toAccounted.cleanup env
    have hsock : (cleanupConnectionResources env s).conn.sock = none := by
      rw [cleanupConnectionResources_eq]
    have hidle : (cleanupConnectionResources env s).thread = .idle := by
      rw [cleanupConnectionResources_eq]
      exact hth
    have hacc' : Accounted ((cleanupConnectionResources env s).emit .destroyed) :=
      hacc.of_adds rfl (fun hp => hp) (.one _ rfl rfl)
    refine ⟨⟨hacc'.history, hacc'.polled⟩, fun hr => absurd rfl hr, fun _ => ⟨hsock, hidle⟩, ?_⟩
    intro he
    have he : (cleanupConnectionResources env s).thread = .tcpEstablished := he
    rw [hidle] at he
    cases he
  | tick hth hl hrem => exact .of_owns (how.of_eq rfl rfl rfl) nofun nofun
  | recv caller retry input hth =>
    obtain ⟨hlist, hgoes⟩ := recvStep_goes env caller retry input s
    exact .of_owns (recvStep_ownsSocket how caller retry input) (hlist ▸ hl) hgoes
  | parse caller recvRes retry s' hth hs =>
    obtain ⟨hlist, hgoes⟩ := parseStep_goes hs
    exact .of_owns (parseStep_ownsSocket how hs) (hlist ▸ hl) hgoes
  | process r caller recvRes hth =>
    exact .of_owns ((processMessage_ownsSocket how r.now).of_eq rfl rfl rfl)
      (hlisted (processMessage_place r.now s)) nofun
  | socketError r caller err hth =>
    exact .of_owns ((handleSocketError_ownsSocket how err).of_eq rfl rfl rfl)
      (hlisted (handleSocketError_place err s)) nofun
  | tcpEstablished r hth =>
    have how' := startRdmnetConnection_ownsSocket how.toAccounted (h.established hth) r
    exact .of_owns (how'.of_eq rfl rfl rfl) hl nofun
  | tickLock r hth =>
    exact .of_owns ((processConnectionState_ownsSocket how r).of_eq rfl rfl rfl)
      (hlisted (processConnectionState_place r s)) nofun
  | deliver action caller recvRes event hth hnext | pollDeliver action event hth
  | tickDeliver action event hth =>
    exact .of_owns ((deliverEventCallback_ownsSocket how event action).of_eq rfl rfl rfl)
      (hlisted (deliverEventCallback_place event action s)) nofun
  | deliverRetry action caller recvRes event hth hnext | errorDeliver action caller event hth =>
    refine .of_owns ((deliverEventCallback_ownsSocket how event action).of_adds rfl rfl rfl (.same rfl))
      (hlisted (deliverEventCallback_place event action s)) ?_
    cases caller <;> exact nofun

/-! ### Where `etcpal_socket` is called -/

/-- `start_connection` waits before it connects. -/
def RCConnection.mustWait (c : RCConnection β) : Bool :=
  c.rdmnetConnFailed || c.backoffTimer.interval != 0

/-- The connection and the event with which `process_connection_state` comes to the call of
`etcpal_socket`, if it does. -/
def socketCall (env : ConnEnv β ι) (r : SocketRes) (s : Sys β ι) : Option (Sys β ι × RCConnEvent) :=
  match s.conn.state with
  | .connectPending => if s.conn.mustWait then none else some (s, .none)
  | .backoff => if env.timerIsExpired s.conn.backoffTimer r.now then some (s, .none) else none
  | .reconnectPending =>
    let told := localDisconnect (clearConnection env s)
    if told.1.conn.mustWait then none else some told
  | _ => none

variable {r : SocketRes}

theorem startConnection_eq (event : RCConnEvent) : startConnection env r s event =
    if s.conn.mustWait then
      ({ s with
          conn.backoffTimer :=
            if s.conn.rdmnetConnFailed then ⟨r.now, updateBackoff r.rand s.conn.backoffTimer.interval⟩
            else s.conn.backoffTimer
          conn.state := .backoff }, event)
    else startTcpConnection env r s event := by
  simp [startConnection, RCConnection.mustWait]

theorem processConnectionState_of_socketCall {t : Sys β ι} {event : RCConnEvent}
    (hcall : socketCall env r s = some (t, event)) :
    processConnectionState env r s = startTcpConnection env r t event := by
  unfold socketCall at hcall
  unfold processConnectionState
  cases hst : s.conn.state with
  | connectPending =>
    simp only [hst, Option.ite_none_left_eq_some, Option.some.injEq] at hcall ⊢
    rw [startConnection_eq, if_neg hcall.1, ← (Prod.mk.inj hcall.2).1, ← (Prod.mk.inj hcall.2).2]
  | backoff =>
    simp only [hst, Option.ite_none_right_eq_some, Option.some.injEq] at hcall ⊢
    rw [if_pos hcall.1, ← (Prod.mk.inj hcall.2).1, ← (Prod.mk.inj hcall.2).2]
  | reconnectPending =>
    simp only [hst, Option.ite_none_left_eq_some, Option.some.injEq] at hcall ⊢
    rw [startConnection_eq, if_neg hcall.1, hcall.2]
  | _ => simp [hst] at hcall

/-- Otherwise the result of `etcpal_socket` is not read. -/
theorem processConnectionState_of_no_socketCall (hcall : socketCall env r s = none)
    (socket : Except EtcPalErr Nat) :
    processConnectionState env { r with socket } s = processConnectionState env r s := by
  unfold socketCall at hcall
  unfold processConnectionState
  cases hst : s.conn.state <;> simp only [hst] at hcall ⊢
  all_goals
    split at hcall <;> cases hcall
    simp_all [startConnection_eq]

theorem socketCall_sock (h : s.conn.SocketAgrees) {t : Sys β ι} {event : RCConnEvent}
    (hcall : socketCall env r s = some (t, event)) : t.conn.sock = none := by
  unfold socketCall at hcall
  split at hcall <;> rename_i hst
  · split at hcall <;> cases hcall
    exact h.without (.inr (.inl hst))
  · split at hcall <;> cases hcall
    exact h.without (.inr (.inr hst))
  · dsimp only at hcall
    split at hcall
    · cases hcall
    · obtain rfl := congrArg Prod.fst (Option.some.inj hcall)
      rw [localDisconnect_sock, clearConnection_sock]
  · cases hcall

theorem socketInv_of_runs {buf : β} {connData : BrokerClientConnectMsg} {now : Nat}
    (h : Runs (connStep env) anyStep (rcConnRegister env buf connData now) s) : SocketInv s := by
  have hinit : OwnsSocket (rcConnRegister env buf connData now : Sys β ι) :=
    ⟨⟨⟨[], rfl⟩, nofun⟩, .unconnected (.inl rfl) rfl⟩
  refine h.keeps (I := SocketInv) (fun a t t' _ ht hs => ?_) (.of_owns hinit nofun nofun)
  exact (connStep_moves env hs).sockets ht (ht.stays hs)

/-- **Socket ownership.**  In every state that a connection can reach, whatever the application, the
poll events, the messages and the socket functions do: until the connection is destroyed its state
says whether it has a socket; `etcpal_socket` is called only without one; and the sockets opened so
far have each been closed once, before the next one was opened, but for the one that is held, which
is none when the connection has been destroyed. -/
theorem socket_owned (env : ConnEnv β ι) (buf : β) (connData : BrokerClientConnectMsg) (now : Nat)
    {s : Sys β ι} (h : Runs (connStep env) anyStep (rcConnRegister env buf connData now) s) :
    (s.listed ≠ .removed → s.conn.SocketAgrees) ∧
    (∀ r t event, s.thread = .tickLock → socketCall env r s = some (t, event) → t.conn.sock = none) ∧
    (∃ socks, s.trace.filterMap socketEvent =
      openedAndClosed socks ++ (s.conn.sock.map SocketEvent.opened).toList) ∧
    (s.listed = .removed → s.conn.sock = none) := by
  have hinv := socketInv_of_runs h
  refine ⟨fun hl => (hinv.owned hl).agrees, fun r t event hth hcall => ?_, hinv.history,
    fun hl => (hinv.removed hl).1⟩
  have hl : s.listed ≠ .removed := by
    intro hrem
    rw [(hinv.removed hrem).2] at hth
    cases hth
  exact socketCall_sock (hinv.owned hl).agrees hcall

/-- A connection that comes up, is asked to connect elsewhere, comes up again and is unregistered. -/
theorem socket_owned_reconnected : ∃ s, Runs (connStep (msgBufEnv .reference)) anyStep sampleConn s ∧
      (s.listed = .removed ∧ s.trace.filterMap socketEvent = openedAndClosed [3, 3]) ∧
      (s.listed ≠ .removed → s.conn.SocketAgrees) ∧
      (∀ r t event, s.thread = .tickLock → socketCall (msgBufEnv .reference) r s = some (t, event) →
        t.conn.sock = none) ∧ (∃ socks, s.trace.filterMap socketEvent =
        openedAndClosed socks ++ (s.conn.sock.map SocketEvent.opened).toList) ∧
      (s.listed = .removed → s.conn.sock = none) := by
  obtain ⟨s, hr, hx⟩ := Runs.exists_of_play (s := sampleConn) (connStep (msgBufEnv .reference))
    anyStep (fun s => (s.listed, s.trace.filterMap socketEvent))
    (.removed, openedAndClosed [3, 3])
    (connectActions ++ [.reconnect default default 0] ++ quietTick (fastConnect 0) ++
      messageTick sampleReply 0 ++ [.unregister (some 0), .tick]) (by decide +kernel)
  exact ⟨s, hr, Prod.mk.inj hx, socket_owned _ _ _ _ hr⟩

end RDMnet
