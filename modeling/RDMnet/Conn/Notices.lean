import RDMnet.Conn.Buffer

/-!
# Connected and disconnected notifications alternate

The application is told that a connection is up, that an attempt failed, or that the connection is
down.  `Alternating` says what such a sequence should look like.  The invariant ties the sequence,
with the notification that is still on its way, to the state of the connection and to the flag
`sent_connected_notification`: while a disconnection or a reconnection is pending, the flag must say
whether the connection is up.

The flag is not cleared when a connection ends by itself, and a reconnection has only one event for
the end of the old connection and the failure of the new one; `NoticesInOrder` are the steps at
which neither matters.
-/

namespace RDMnet

open List RCConnEvent Sys Obs SocketRes

variable {β ι : Type}

/-- The notifications about the state of the connection. -/
inductive Notice
  | connected | connectFailed | disconnected
  deriving DecidableEq, Repr

def Obs.notice : Obs ι → Option Notice
  | .connected _ => some .connected
  | .connectFailed _ => some .connectFailed
  | .disconnected _ => some .disconnected
  | _ => none

def RCConnEvent.notice : RCConnEvent → Option Notice
  | .connected _ => some .connected
  | .connectFailed _ => some .connectFailed
  | .disconnected _ => some .disconnected
  | _ => Option.none

/-- The last of the notifications is `connected`, failed attempts aside. -/
def IsUp (l : List Notice) : Prop := (l.filter (· ≠ .connectFailed)).getLast? = some .connected

instance (l : List Notice) : Decidable (IsUp l) := inferInstanceAs (Decidable (_ = _))

def Notice.Fits (n : Notice) (l : List Notice) : Prop :=
  match n with
  -- the last of the others, failed attempts aside, is `connected`: no other `disconnected` between
  | .disconnected => IsUp l
  | .connected => ¬ IsUp l
  | .connectFailed => ¬ IsUp l

/-- Each `disconnected` is preceded by a `connected` with no other `disconnected` in between, two
`connected` are separated by a `disconnected`, and no `connectFailed` occurs between a `connected`
and its `disconnected`. -/
def Alternating (l : List Notice) : Prop := ∀ a n b, l = a ++ n :: b → n.Fits a

theorem alternating_nil : Alternating [] := by
  intro a n b h
  cases a <;> cases h

variable {l : List Notice}

theorem Alternating.snoc {n : Notice} (h : Alternating l) (hn : n.Fits l) : Alternating (l ++ [n]) := by
  intro a m b hab
  rcases eq_nil_or_concat b with rfl | ⟨b, x, rfl⟩
  · obtain ⟨rfl, hm⟩ := append_inj' hab rfl
    cases hm
    exact hn
  · rw [concat_eq_append, ← cons_append, ← append_assoc] at hab
    obtain ⟨hl, -⟩ := append_inj' hab rfl
    exact h a m b hl

theorem Alternating.of_append {l' : List Notice} (h : Alternating (l ++ l')) : Alternating l := by
  intro a n b hl
  exact h a n (b ++ l') (by rw [hl, append_assoc, cons_append])

@[simp] theorem isUp_nil : ¬ IsUp [] := by decide

@[simp] theorem isUp_connected (l : List Notice) : IsUp (l ++ [.connected]) := by
  simp [IsUp, filter_append]

@[simp] theorem isUp_disconnected (l : List Notice) : ¬ IsUp (l ++ [.disconnected]) := by
  simp [IsUp, filter_append]

@[simp] theorem isUp_connectFailed (l : List Notice) : IsUp (l ++ [.connectFailed]) ↔ IsUp l := by
  simp [IsUp, filter_append]

/-! ### The invariant -/

def Thread.event : Thread → RCConnEvent
  | .deliver _ _ event => event
  | .errorDeliver _ event => event
  | .tickDeliver event => event
  | _ => .none

def Sys.notices (s : Sys β ι) : List Notice := s.trace.filterMap Obs.notice

def Link (c : RCConnection β) (up : Prop) : Prop :=
  match c.state with
  | .heartbeat => up ∧ c.sentConnectedNotification = true
  | .disconnectPending => up ↔ c.sentConnectedNotification = true
  | .reconnectPending => up ↔ c.sentConnectedNotification = true
  | .markedForDestruction => up → c.sentConnectedNotification = true
  | _ => ¬ up

/-- The notifications up to `l` alternate and agree with the connection. -/
structure InOrder (l : List Notice) (c : RCConnection β) : Prop where
  alternating : Alternating l
  link : Link c (IsUp l)

theorem InOrder.of_conn {c c' : RCConnection β} (h : InOrder l c) (hst : c'.state = c.state)
    (hsent : c'.sentConnectedNotification = c.sentConnectedNotification) : InOrder l c' :=
  ⟨h.alternating, by simpa only [Link, hst, hsent] using h.link⟩

/-- All socket calls of `start_tcp_connection` succeed, or the connection is in progress. -/
def SocketRes.Starts (r : SocketRes) : Prop :=
  r.socket.isOk = true ∧ r.setblocking = .ok ∧
    (r.connect = .ok ∨ (r.connect = .inProgress ∨ r.connect = .wouldBlock) ∧ r.addPolled = .ok)

/-- What is done with the lock keeps the notifications in order: a reconnection does not fail at
once while the end of the old connection is still to be told, and the socket does not report a new
connection while the old one is up. -/
def LockInOrder (r : SocketRes) (c : RCConnection β) : Thread → Prop
  | .tickLock =>
    c.state = .reconnectPending → c.sentConnectedNotification = true →
      c.rdmnetConnFailed = true ∨ c.backoffTimer.interval ≠ 0 ∨ r.Starts
  | .tcpEstablished =>
    c.state = .heartbeat ∨ c.state = .disconnectPending ∨ c.state = .reconnectPending ∨
        c.state = .markedForDestruction →
      c.sentConnectedNotification = false
  | _ => True

/-- The steps that keep the notifications in order: with those of `LockInOrder`, a flag left over
from an earlier connection is not taken for the present one. -/
def NoticesInOrder (a : Action ι) (s : Sys β ι) : Prop :=
  match a with
  | .disconnect _ =>
    s.conn.state = .tcpConnPending ∨ s.conn.state = .rdmnetConnPending →
      s.conn.sentConnectedNotification = false
  | .reconnect _ _ _ =>
    s.conn.state = .connectPending ∨ s.conn.state = .tcpConnPending ∨
        s.conn.state = .rdmnetConnPending →
      s.conn.sentConnectedNotification = false
  | .lock r => LockInOrder r s.conn s.thread
  | _ => True

instance (r : SocketRes) : Decidable r.Starts := inferInstanceAs (Decidable (_ ∧ _))

instance (r : SocketRes) (c : RCConnection β) : DecidablePred (LockInOrder r c) := fun t => by
  unfold LockInOrder
  split <;> infer_instance

instance (a : Action ι) (s : Sys β ι) : Decidable (NoticesInOrder a s) := by
  delta NoticesInOrder
  rcases a with _ | _ <;> (dsimp only; infer_instance)

/-! ### Steps -/

variable (env : ConnEnv β ι)

@[simp] theorem notices_clearTrace (c : RCConnection β) :
    (clearTrace c : List (Obs ι)).filterMap Obs.notice = [] := by
  unfold clearTrace
  cases c.sock <;> cases c.retryCurrentMessage <;> rfl

@[simp] theorem notices_clearConnection (s : Sys β ι) : (clearConnection env s).notices = s.notices := by
  simp [notices]

@[simp] theorem notices_resetConnection (s : Sys β ι) : (resetConnection env s).notices = s.notices :=
  notices_clearConnection env s

@[simp] theorem notices_freeMessage (s : Sys β ι) : (freeMessage env s).notices = s.notices := by
  simp [freeMessage, notices, Obs.notice]

/-- What is done with the lock, and the event that comes of it, keep the notifications in order. -/
structure Tells (l : List Notice) (s : Sys β ι) (r : Sys β ι × RCConnEvent) : Prop where
  notices : r.1.notices = s.notices
  inOrder : InOrder (l ++ r.2.notice.toList) r.1.conn

variable {env}

structure Down (l : List Notice) (event : RCConnEvent) : Prop where
  alternating : Alternating (l ++ event.notice.toList)
  down : ¬ IsUp (l ++ event.notice.toList)

theorem Down.of_none (h : Alternating l) (hd : ¬ IsUp l) : Down l .none := by
  constructor <;> simpa [RCConnEvent.notice]

variable {s : Sys β ι}

theorem tcpConnectionFailed_tells {s0 : Sys β ι} (h : Down l .none)
    (hs : s.notices = s0.notices) (ev : ConnectFailEvent) (err : EtcPalErr) :
    Tells l s0 (tcpConnectionFailed env ev err s) := by
  obtain ⟨ha, hd⟩ := h
  simp only [RCConnEvent.notice, Option.toList_none, append_nil] at ha hd
  refine ⟨by simpa [tcpConnectionFailed] using hs, ha.snoc hd, ?_⟩
  simpa [tcpConnectionFailed, resetConnection, Link, RCConnEvent.notice] using hd

variable {r : SocketRes} {event : RCConnEvent}

theorem startTcpConnection_tells (h : Down l event) (hev : event = .none ∨ r.Starts) :
    Tells l s (startTcpConnection env r s event) := by
  -- without an event any failure can be told; with one there is none
  have hfail : ¬ r.Starts → Down l .none := fun hr => by
    rcases hev with rfl | hr'
    · exact h
    · exact absurd hr' hr
  unfold startTcpConnection
  split
  · rename_i hr
    exact tcpConnectionFailed_tells (hfail (by simp [Starts, hr, Except.isOk, Except.toBool]))
      rfl _ _
  · rename_i n hr
    dsimp only
    split_ifs with hblock hok hprog hadd hunreach
    · exact tcpConnectionFailed_tells (hfail (by simp [Starts, hblock]))
        (by simp [notices, Obs.notice]) _ _
    · exact ⟨by simp [startRdmnetConnection, notices, Obs.notice], h.alternating, h.down⟩
    · exact ⟨by simp [notices, Obs.notice], h.alternating, h.down⟩
    · exact tcpConnectionFailed_tells (hfail (by simp [Starts, hok, hadd]))
        (by simp [notices, Obs.notice]) _ _
    · exact tcpConnectionFailed_tells (hfail (by simp [Starts, hok, hprog]))
        (by simp [notices, Obs.notice]) _ _
    · exact tcpConnectionFailed_tells (hfail (by simp [Starts, hok, hprog]))
        (by simp [notices, Obs.notice]) _ _

theorem startConnection_tells (h : Down l event)
    (hev : event = .none ∨ s.conn.rdmnetConnFailed = true ∨ s.conn.backoffTimer.interval ≠ 0 ∨ r.Starts) :
    Tells l s (startConnection env r s event) := by
  unfold startConnection
  by_cases hb : s.conn.rdmnetConnFailed = true ∨ s.conn.backoffTimer.interval ≠ 0
  · rw [if_pos hb]
    exact ⟨rfl, h.alternating, h.down⟩
  · rw [if_neg hb]
    refine startTcpConnection_tells h ?_
    rw [not_or, not_not] at hb
    rcases hev with hev | hev | hev | hev
    · exact .inl hev
    · exact absurd hev hb.1
    · exact absurd hb.2 hev
    · exact .inr hev

theorem Tells.of_notices {s1 : Sys β ι} {r : Sys β ι × RCConnEvent}
    (h : Tells l s1 r) (hs : s1.notices = s.notices) : Tells l s r :=
  ⟨h.notices.trans hs, h.inOrder⟩

/-- A disconnection that the application asked for is told if and only if the connection is up. -/
theorem localDisconnect_down (ha : Alternating l)
    (hl : IsUp l ↔ s.conn.sentConnectedNotification = true) : Down l (localDisconnect s).2 := by
  unfold localDisconnect
  split_ifs with hsent
  · exact ⟨ha.snoc (hl.mpr hsent), isUp_disconnected l⟩
  · exact .of_none ha (mt hl.mp hsent)

@[simp] theorem notices_localDisconnect (s : Sys β ι) : (localDisconnect s).1.notices = s.notices := by
  unfold localDisconnect
  split_ifs <;> rfl

theorem processConnectionState_tells (h : InOrder l s.conn) (hok : LockInOrder r s.conn .tickLock) :
    Tells l s (processConnectionState env r s) := by
  obtain ⟨ha, hl⟩ := h
  -- a state in which nothing is done
  have hsame : Tells l s (s, .none) := ⟨rfl, by simpa [RCConnEvent.notice] using ⟨ha, hl⟩⟩
  unfold processConnectionState
  split <;> rename_i hst <;> simp only [Link, hst] at hl
  · exact startConnection_tells (.of_none ha hl) (.inl rfl)
  · split_ifs
    · exact startTcpConnection_tells (.of_none ha hl) (.inl rfl)
    · exact hsame
  · split_ifs
    · exact ⟨by simp, ha.snoc hl, by simpa [resetConnection, Link, RCConnEvent.notice] using hl⟩
    · exact hsame
  · split_ifs
    · exact ⟨by simp, ha.snoc hl.1, by simp [resetConnection, Link, RCConnEvent.notice]⟩
    · refine ⟨by simp [notices, Obs.notice], ?_⟩
      simpa [RCConnEvent.notice, InOrder, Link, hst] using ⟨ha, hl⟩
    · exact hsame
  · refine Tells.of_notices (startConnection_tells (localDisconnect_down ha (by simpa using hl)) ?_)
      (by simp)
    by_cases hsent : s.conn.sentConnectedNotification = true
    · exact .inr (by simpa [localDisconnect, hsent] using hok hst hsent)
    · exact .inl (by simp [localDisconnect, hsent])
  · have hdown := localDisconnect_down (s := s) ha hl
    exact ⟨by simp, hdown.alternating, hdown.down⟩
  · exact hsame

theorem handleSocketError_tells {err : EtcPalErr}
    (h : InOrder l s.conn) : Tells l s (handleSocketError env err s) := by
  obtain ⟨ha, hl⟩ := h
  unfold handleSocketError
  split <;> rename_i hst <;> simp only [Link, hst] at hl
  · exact ⟨by simp, ha.snoc hl, by simpa [resetConnection, Link, RCConnEvent.notice] using hl⟩
  · exact ⟨by simp [notices, resetConnection], ha.snoc hl,
      by simpa [resetConnection, Link, RCConnEvent.notice] using hl⟩
  · exact ⟨by simp, ha.snoc hl.1, by simp [resetConnection, Link, RCConnEvent.notice]⟩
  · refine ⟨rfl, ?_⟩
    simpa [RCConnEvent.notice] using (⟨ha, by simpa only [Link] using hl⟩ : InOrder l s.conn)

variable {now : Nat}

theorem handleRdmnetMessage_tells (h : InOrder l s.conn) (hst : s.conn.state = .heartbeat) :
    Tells l s (handleRdmnetMessage env now s) := by
  have hl := h.link
  simp only [Link, hst] at hl
  have hsame {s' : Sys β ι} (h1 : s'.conn.state = s.conn.state)
      (h2 : s'.conn.sentConnectedNotification = s.conn.sentConnectedNotification) :
      InOrder (l ++ []) s'.conn := by
    rw [append_nil]
    exact h.of_conn h1 h2
  unfold handleRdmnetMessage
  dsimp only
  split_ifs
  · split
    · exact ⟨notices_freeMessage env _, hsame rfl rfl⟩
    · exact ⟨notices_freeMessage env _, hsame rfl rfl⟩
    · exact ⟨by simp [notices, resetConnection, freeMessage, Obs.notice],
        h.alternating.snoc hl.1, by simp [freeMessage, resetConnection, Link, RCConnEvent.notice]⟩
    · exact ⟨rfl, hsame rfl rfl⟩
  · exact ⟨rfl, hsame rfl rfl⟩

theorem handleRdmnetConnectResult_tells (h : InOrder l s.conn) (hst : s.conn.state = .rdmnetConnPending) :
    Tells l s (handleRdmnetConnectResult env now s) := by
  obtain ⟨ha, hl⟩ := h
  simp only [Link, hst] at hl
  unfold handleRdmnetConnectResult connectResult
  dsimp only
  split
  · split_ifs
    · exact ⟨by simp [notices, freeMessage, Obs.notice], ha.snoc hl,
        by simp [freeMessage, Link, RCConnEvent.notice]⟩
    · exact ⟨by simp [notices, freeMessage, resetConnection, Obs.notice], ha.snoc hl,
        by simpa [freeMessage, resetConnection, Link, RCConnEvent.notice] using hl⟩
  · exact ⟨by simp [notices, freeMessage, retryConnection, Obs.notice],
      by simpa [RCConnEvent.notice] using ha,
      by simpa [freeMessage, retryConnection, Link, RCConnEvent.notice] using hl⟩
  · exact ⟨by simp [notices, freeMessage, retryConnection, Obs.notice],
      by simpa [RCConnEvent.notice] using ha,
      by simpa [freeMessage, retryConnection, Link, RCConnEvent.notice] using hl⟩
  · exact ⟨by simp [notices, freeMessage, Obs.notice], by simpa [RCConnEvent.notice] using ha,
      by simpa [freeMessage, Link, RCConnEvent.notice, hst] using hl⟩

theorem processMessage_tells (h : InOrder l s.conn) : Tells l s (processMessage env now s) := by
  have hemit : (s.emit (.handled (env.msg s.conn.recvBuf))).notices = s.notices := by
    simp [notices, Obs.notice]
  obtain ⟨hst, heq⟩ | ⟨hst, heq⟩ | ⟨-, -, heq⟩ := processMessage_cases env now s <;> rw [heq]
  · exact Tells.of_notices (handleRdmnetConnectResult_tells (by exact h) hst) hemit
  · exact Tells.of_notices (handleRdmnetMessage_tells (by exact h) hst) hemit
  · exact ⟨rfl, by simpa [RCConnEvent.notice] using h⟩

/-- The notifications that have been delivered and the one that is on its way are in order. -/
def Told (s : Sys β ι) : Prop := InOrder (s.notices ++ s.thread.event.notice.toList) s.conn

variable {s' : Sys β ι}

theorem Told.still (h : Told s) (hn : s'.notices = s.notices)
    (hev : s'.thread.event = s.thread.event) (hst : s'.conn.state = s.conn.state)
    (hsent : s'.conn.sentConnectedNotification = s.conn.sentConnectedNotification) : Told s' := by
  unfold Told
  rw [hn, hev]
  exact h.of_conn hst hsent

theorem Told.lock {p : Sys β ι × RCConnEvent} {t : Thread} (h : Told s)
    (hev : s.thread.event = .none) (hp : InOrder s.notices s.conn → Tells s.notices s p)
    (ht : t.event = p.2) : Told { p.1 with thread := t } := by
  have hp := hp (by simpa [Told, hev, RCConnEvent.notice] using h)
  unfold Told
  rw [ht]
  show InOrder (p.1.notices ++ _) p.1.conn
  rw [hp.notices]
  exact hp.inOrder

theorem startRdmnetConnection_tells (h : InOrder l s.conn) (hok : LockInOrder r s.conn .tcpEstablished) :
    Tells l s (startRdmnetConnection r s, .none) := by
  obtain ⟨ha, hl⟩ := h
  have hdown : ¬ IsUp l := by
    unfold Link at hl
    simp only [LockInOrder] at hok
    cases hst : s.conn.state <;> simp_all
  exact ⟨by simp [startRdmnetConnection, notices, Obs.notice],
    by simpa [RCConnEvent.notice] using ha,
    by simpa [startRdmnetConnection, Link, RCConnEvent.notice] using hdown⟩

variable (env) in
theorem deliverEventCallback_notices (event : RCConnEvent) (action : MessageAction) (s : Sys β ι) :
    (deliverEventCallback env event action s).1.notices = s.notices ++ event.notice.toList ∧
      (deliverEventCallback env event action s).1.conn.state = s.conn.state ∧
      (deliverEventCallback env event action s).1.conn.sentConnectedNotification =
        s.conn.sentConnectedNotification := by
  cases event with
  | msgReceived message =>
    cases action <;>
      simp [deliverEventCallback, freeMessage, notices, Obs.notice, RCConnEvent.notice]
  | _ => simp [deliverEventCallback, notices, Obs.notice, RCConnEvent.notice]

theorem Told.deliver {action : MessageAction} (h : Told s) (hev : s.thread.event = event)
    (hn : s'.notices = (deliverEventCallback env event action s).1.notices)
    (hst : s'.conn.state = (deliverEventCallback env event action s).1.conn.state)
    (hsent : s'.conn.sentConnectedNotification =
      (deliverEventCallback env event action s).1.conn.sentConnectedNotification)
    (hth : s'.thread.event = .none) : Told s' := by
  obtain ⟨h1, h2, h3⟩ := deliverEventCallback_notices env event action s
  unfold Told
  rw [hn, h1, hth, ← hev]
  simpa [RCConnEvent.notice] using InOrder.of_conn h (hst.trans h2) (hsent.trans h3)

theorem recvStep_told {caller : Caller} {retry : Bool} {input : ι} (h : Told s)
    (hth : s.thread = .receive caller retry) : Told (recvStep env caller retry input s) := by
  unfold recvStep
  dsimp only
  split_ifs
  · exact h.still (by simp [notices, Obs.notice]) (by rw [hth]; rfl) rfl rfl
  · exact h.still (by simp [notices, Obs.notice]) (by rw [hth]; rfl) rfl rfl
  · exact h.still (by simp [finishReceive, notices, Obs.notice])
      (by rw [hth]; cases caller <;> rfl) rfl rfl

theorem parseStep_told {caller : Caller} {recvRes : EtcPalErr} {retry : Bool}
    (h : Told s) (hth : s.thread = .parse caller recvRes retry)
    (hs : parseStep env caller recvRes retry s = some s') : Told s' := by
  obtain ⟨-, rfl⟩ | ⟨-, -, rfl⟩ | ⟨-, -, ⟨-, rfl⟩ | ⟨-, rfl⟩⟩ := parseStep_cases env hs
  · exact h.still rfl (by rw [hth]; rfl) rfl rfl
  · exact h.still (by simp [notices, Obs.notice]) (by rw [hth]; rfl) rfl rfl
  · exact h.still rfl (by rw [hth]; rfl) rfl rfl
  · exact h.still rfl (by rw [hth]; cases caller <;> rfl) rfl rfl

theorem Told.relink (h : Told s) (hn : s'.notices = s.notices)
    (hth : s'.thread = s.thread) (hl : ∀ up, Link s.conn up → Link s'.conn up) : Told s' := by
  unfold Told
  rw [hn, hth]
  exact ⟨h.alternating, hl _ h.link⟩

@[simp] theorem notices_sendDisconnect (reason : UInt16) (s : Sys β ι) :
    (sendDisconnect reason s).notices = s.notices := by
  unfold sendDisconnect
  split_ifs <;> simp [notices, Obs.notice]

theorem rcConnConnect_told {addr : RedirectAddr} {data : BrokerClientConnectMsg}
    (h : Told s) : Told (rcConnConnect addr data s).1 := by
  unfold rcConnConnect
  by_cases hst : s.conn.state ≠ .notStarted ∧ s.conn.state ≠ .disconnectPending
  · rwa [if_pos hst]
  · rw [if_neg hst]
    refine h.relink rfl rfl fun up hl => ?_
    rw [not_and_or, not_not, not_not] at hst
    rcases hst with hst | hst <;> simpa [Link, hst] using hl

theorem rcConnReconnect_told {addr : RedirectAddr} {data : BrokerClientConnectMsg} {reason : UInt16}
    (h : Told s) (hok : NoticesInOrder (.reconnect addr data reason) s) :
    Told (rcConnReconnect addr data reason s).1 := by
  unfold rcConnReconnect
  split
  · exact h
  · refine h.relink (notices_sendDisconnect reason s) (sendDisconnect_thread reason s) fun up hl => ?_
    simp only [NoticesInOrder] at hok
    unfold Link at hl ⊢
    cases hst : s.conn.state <;> simp_all [sendDisconnect_conn]

theorem rcConnDisconnect_told {reason : UInt16} (h : Told s)
    (hok : NoticesInOrder (.disconnect reason) s) : Told (rcConnDisconnect reason s).1 := by
  unfold rcConnDisconnect
  split
  · exact h
  · refine h.relink (notices_sendDisconnect reason s) (sendDisconnect_thread reason s) fun up hl => ?_
    simp only [NoticesInOrder] at hok
    unfold Link at hl ⊢
    cases hst : s.conn.state <;> simp_all [sendDisconnect_conn]

theorem rcConnUnregister_told {reason : Option UInt16} (h : Told s) : Told (rcConnUnregister reason s) := by
  have hlink : ∀ up, Link s.conn up → (up → s.conn.sentConnectedNotification = true) := by
    intro up hl
    unfold Link at hl
    cases hst : s.conn.state <;> simp_all
  cases reason with
  | none => exact h.relink rfl rfl hlink
  | some reason =>
    refine h.relink (notices_sendDisconnect reason s) (sendDisconnect_thread reason s) ?_
    simpa [rcConnUnregister, Link, sendDisconnect_conn] using hlink

theorem finishReceive_event (caller : Caller) (action : MessageAction) (s : Sys β ι) :
    (finishReceive caller action s).thread.event = .none := by
  cases caller <;> rfl

theorem Moves.told {a : Action ι} (hm : Moves env s a s')
    (hok : NoticesInOrder a s) (h : Told s) : Told s' := by
  cases hm with
  | connect addr data => exact rcConnConnect_told h
  | reconnect addr data reason => exact rcConnReconnect_told h hok
  | disconnect reason => exact rcConnDisconnect_told h hok
  | unregister reason => exact rcConnUnregister_told h
  | pollErr err hth hp | pollIn hth hp | pollConnect hth hp | tick hth hl hrem =>
    exact h.still rfl (by rw [hth]; rfl) rfl rfl
  | destroy hth hl hrem =>
    refine h.still ?_ ?_ ?_ ?_ <;>
      simp [destroyConnection, cleanupConnectionResources_eq, notices, Obs.notice]
  | recv caller retry input hth => exact recvStep_told h hth
  | parse caller recvRes retry s' hth hs => exact parseStep_told h hth hs
  | process r caller recvRes hth => exact h.lock (by rw [hth]; rfl) processMessage_tells rfl
  | socketError r caller err hth => exact h.lock (by rw [hth]; rfl) handleSocketError_tells rfl
  | tcpEstablished r hth =>
    simp only [NoticesInOrder, hth] at hok
    exact h.lock (by rw [hth]; rfl) (fun hl => startRdmnetConnection_tells hl hok) rfl
  | tickLock r hth =>
    simp only [NoticesInOrder, hth] at hok
    exact h.lock (by rw [hth]; rfl) (fun hl => processConnectionState_tells hl hok) rfl
  | deliver action caller recvRes event hth hnext | pollDeliver action event hth
  | tickDeliver action event hth => exact h.deliver (by rw [hth]; rfl) rfl rfl rfl rfl
  | deliverRetry action caller recvRes event hth hnext | errorDeliver action caller event hth =>
    exact h.deliver (by rw [hth]; rfl) rfl rfl rfl (finishReceive_event _ _ _)

/-- **Connected and disconnected notifications alternate** in every run of a registered connection
that meets `NoticesInOrder`: any interleaving of the functions of the application, ticks, poll
events and received messages, with any results of the socket calls, timers and callbacks. -/
theorem notices_alternate (env : ConnEnv β ι) (buf : β) (connData : BrokerClientConnectMsg)
    (now : Nat) {s : Sys β ι} (h : Runs (connStep env) NoticesInOrder (rcConnRegister env buf connData now) s) :
    Alternating s.notices := by
  have hinit : Told (rcConnRegister env buf connData now : Sys β ι) :=
    ⟨alternating_nil, isUp_nil⟩
  have htold : Told s := Runs.keeps (fun a t t' hok ht hs => (connStep_moves env hs).told hok ht) h hinit
  exact htold.alternating.of_append

/-- A connection that comes up, runs into a heartbeat timeout and is asked for again. -/
theorem notices_alternate_timeout : ∃ s, Runs (connStep (msgBufEnv .reference)) NoticesInOrder sampleConn s ∧
      s.notices = [.connected, .disconnected, .connectFailed] ∧ Alternating s.notices := by
  obtain ⟨s, hr, hn⟩ := Runs.exists_of_play (s := sampleConn) (connStep (msgBufEnv .reference))
    NoticesInOrder notices [.connected, .disconnected, .connectFailed]
    (connectActions ++ quietTick (fastConnect 100000) ++ [.connect default default] ++
      quietTick { fastConnect 0 with connect := .hostUnreach }) (by decide +kernel)
  exact ⟨s, hr, hn, notices_alternate _ _ _ _ hr⟩

/-- The flag that the heartbeat timeout leaves set is told once more, when the next attempt is
given up. -/
theorem disconnected_twice : ∃ s, Runs (connStep (msgBufEnv .reference)) anyStep sampleConn s ∧
      s.notices = [.connected, .disconnected, .disconnected] ∧ ¬ Alternating s.notices := by
  obtain ⟨s, hr, hn⟩ := Runs.exists_of_play (s := sampleConn) (connStep (msgBufEnv .reference))
    anyStep notices [.connected, .disconnected, .disconnected]
    (connectActions ++ quietTick (fastConnect 100000) ++ [.connect default default] ++
      quietTick (slowConnect 0) ++ [.disconnect 0] ++ quietTick (fastConnect 0)) (by decide +kernel)
  refine ⟨s, hr, hn, fun h => ?_⟩
  have hup : IsUp [.connected, .disconnected] := h _ .disconnected [] hn
  exact absurd hup (by decide)

end RDMnet
