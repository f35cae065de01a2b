import RDMnet.Conn.Requests

/-!
# Every message is released once

The message of the receive buffer owns memory from the moment the parser returns it until
`rc_free_message_resources`.  `owned` reads the trace: it says whether there is such a message, and
fails if a message is released twice or overwritten before it is released.

The connection does not keep track of its message but for the flag `retry_current_message`, which is
written when `receive_and_process_messages` ends and read whenever the connection is cleaned up.
`Sys.holding` says from the place the thread is at whether there is a message; the invariant is that
the trace agrees.
-/

namespace RDMnet

open List Obs Thread

variable {β ι : Type} {env : ConnEnv β ι}

/-- Whether there is a message to be released, after one more observation: it is dropped if another
one is parsed, and cannot be released without being there. -/
def Obs.own : Option Bool → Obs ι → Option Bool
  | some false, .parsed _ => some true
  | some true, .freed => some false
  | _, .parsed _ => none
  | _, .freed => none
  | held, _ => held

/-- Whether there is a message to be released, at the end of a trace in which every other message
was released exactly once. -/
def owned (trace : List (Obs ι)) : Option Bool := trace.foldl own (some false)

theorem owned_append (l l' : List (Obs ι)) : owned (l ++ l') = l'.foldl own (owned l) :=
  foldl_append

def Obs.Neutral : Obs ι → Prop
  | .parsed _ => False
  | .freed => False
  | _ => True

theorem Obs.Neutral.own {o : Obs ι} (h : o.Neutral) (held : Option Bool) : o.own held = held := by
  cases o with
  | parsed _ => cases h
  | freed => cases h
  | _ => rcases held with _ | _ | _ <;> rfl

theorem foldl_own_neutral {l : List (Obs ι)} (h : ∀ o ∈ l, o.Neutral) (held : Option Bool) :
    l.foldl own held = held := by
  induction l with
  | nil => rfl
  | cons o l ih =>
    rw [foldl_cons, (h o mem_cons_self).own]
    exact ih fun x hx => h x (mem_cons_of_mem _ hx)

variable {s s' : Sys β ι}

theorem Adds.owned_eq (h : Adds Neutral s s') : owned s'.trace = owned s.trace := by
  obtain ⟨new, hs, hn⟩ := h
  rw [hs, owned_append, foldl_own_neutral hn]

theorem owned_clearTrace (l : List (Obs ι)) (c : RCConnection β) :
    owned (l ++ clearTrace c) =
      if c.retryCurrentMessage then (freed : Obs ι).own (owned l) else owned l := by
  have hclosed : (c.sock.map (closed : Nat → Obs ι)).toList.foldl own (owned l) = owned l :=
    foldl_own_neutral (by cases c.sock <;> simp [Neutral]) _
  unfold clearTrace
  rw [owned_append, foldl_append, hclosed]
  cases c.retryCurrentMessage <;> rfl

/-! ### Where the message is -/

def RCConnEvent.isMsg : RCConnEvent → Bool
  | .msgReceived _ => true
  | _ => false

/-- Whether the thread has a message, where `flag` is `retry_current_message`: in the loops of
`receive_and_process_messages` the flag is that of the call before. -/
def Thread.holding (flag : Bool) : Thread → Bool
  | .receive _ retry => retry
  | .parse _ _ retry => retry
  | .process _ _ => true
  | .deliver _ _ event => event.isMsg
  | .socketError (some _) _ => false
  | .errorDeliver (some _) _ => false
  | _ => flag

def Thread.processing : Thread → Bool
  | .process _ _ => true
  | _ => false

def Thread.otherEvent : Thread → RCConnEvent
  | .tickDeliver event => event
  | .errorDeliver _ event => event
  | _ => .none

def ConnState.Settled (st : ConnState) : Prop :=
  st = .rdmnetConnPending ∨ st = .heartbeat ∨ st = .disconnectPending ∨ st = .reconnectPending ∨
    st = .markedForDestruction

instance (st : ConnState) : Decidable st.Settled := inferInstanceAs (Decidable (_ ∨ _))

/-- The message in the buffer ends the connection: a Disconnect, a refusal or a redirection. -/
def EndsConnection (env : ConnEnv β ι) (c : RCConnection β) : Prop :=
  let msg := env.msg c.recvBuf
  let bmsg := env.getBrokerMsg msg
  let kind := BrokerKind.ofVector bmsg.vector
  (kind = .disconnect ∧ c.state = .heartbeat ∧ msg.vector = acnVectorRootBroker) ∨
    (kind = .connectReply ∧ c.state = .rdmnetConnPending ∧ bmsg.connectReply.connectStatus ≠ 0) ∨
    ((kind = .redirectV4 ∨ kind = .redirectV6) ∧ c.state = .rdmnetConnPending)

/-- What is done with the lock releases the message once: the connection is in a state that takes
messages, and it does not come to its end in a call of `receive_and_process_messages` that began
with a message to retry. -/
def LockReleases (env : ConnEnv β ι) (c : RCConnection β) : Thread → Prop
  | .process _ _ =>
    (c.state = .heartbeat ∨ c.state = .rdmnetConnPending) ∧
      (c.retryCurrentMessage = true → ¬ EndsConnection env c)
  | .socketError (some _) _ =>
    c.retryCurrentMessage = true →
      c.state ≠ .tcpConnPending ∧ c.state ≠ .rdmnetConnPending ∧ c.state ≠ .heartbeat
  | _ => True

def ReleasesOnce (env : ConnEnv β ι) (a : Action ι) (s : Sys β ι) : Prop :=
  match a with
  | .lock _ => LockReleases env s.conn s.thread
  | _ => True

instance (env : ConnEnv β ι) (c : RCConnection β) : Decidable (EndsConnection env c) :=
  inferInstanceAs (Decidable (_ ∨ _ ∨ _))

instance (env : ConnEnv β ι) (c : RCConnection β) : DecidablePred (LockReleases env c) := fun t => by
  unfold LockReleases
  split <;> infer_instance

instance (env : ConnEnv β ι) (a : Action ι) (s : Sys β ι) : Decidable (ReleasesOnce env a s) := by
  delta ReleasesOnce
  rcases a with _ | _ <;> (dsimp only; infer_instance)

/-- The trace agrees with the flag, outside of `receive_and_process_messages`. -/
structure Rest (s : Sys β ι) : Prop where
  own : owned s.trace = some s.conn.retryCurrentMessage
  polled : s.polled.isSome = true → s.conn.sock.isSome = true
  settled : s.conn.retryCurrentMessage = true → s.conn.state.Settled

structure Owns (s : Sys β ι) : Prop where
  own : owned s.trace =
    some (s.thread.holding (s.conn.retryCurrentMessage && decide (s.listed ≠ .removed)))
  polled : s.polled.isSome = true → s.conn.sock.isSome = true
  settled : s.conn.retryCurrentMessage = true ∨
      s.thread.holding s.conn.retryCurrentMessage = true ∧ s.thread.processing = false →
    s.conn.state.Settled
  removed : s.listed = .removed → s.polled = none ∧ s.thread = .idle
  plain : s.thread.otherEvent.isMsg = false

def PolledOpen (s : Sys β ι) : Prop := s.polled.isSome = true → s.conn.sock.isSome = true

/-! ### What is done with the lock -/

theorem Rest.still (h : Rest s) (hadds : Adds Neutral s s')
    (hret : s'.conn.retryCurrentMessage = s.conn.retryCurrentMessage) (hpol : PolledOpen s')
    (hset : s.conn.retryCurrentMessage = true → s'.conn.state.Settled) : Rest s' :=
  ⟨by rw [hadds.owned_eq, h.own, hret], hpol, by rwa [hret]⟩

variable (env) in
theorem clearConnection_polled (h : PolledOpen s) : (clearConnection env s).polled = none := by
  unfold PolledOpen at h
  simp only [clearConnection, cleanupConnectionResources_eq]
  cases hsock : s.conn.sock <;> simp_all

variable (env) in
theorem clearConnection_rest (h : Rest s) (htr : s'.trace = (clearConnection env s).trace)
    (hret : s'.conn.retryCurrentMessage = false)
    (hpol : s'.polled = (clearConnection env s).polled) : Rest s' := by
  refine ⟨?_, ?_, by rw [hret]; exact nofun⟩
  · rw [htr, clearConnection_trace, owned_clearTrace, h.own, hret]
    cases s.conn.retryCurrentMessage <;> rfl
  · rw [hpol, clearConnection_polled env h.polled]
    exact nofun

theorem resetConnection_rest (h : Rest s) : Rest (resetConnection env s) :=
  clearConnection_rest env h rfl rfl rfl

/-- What the thread does with the lock while there is no message of its own, and the event that
comes of it. -/
structure Rests (r : Sys β ι × RCConnEvent) : Prop where
  rest : Rest r.1
  event : r.2.isMsg = false

theorem tcpConnectionFailed_rests (h : Rest s) (ev : ConnectFailEvent)
    (err : EtcPalErr) : Rests (tcpConnectionFailed env ev err s) :=
  ⟨resetConnection_rest h, rfl⟩

variable {r : SocketRes} {event : RCConnEvent}

theorem startTcpConnection_rests (h : Rest s)
    (hret : s.conn.retryCurrentMessage = false) (hev : event.isMsg = false) :
    Rests (startTcpConnection env r s event) := by
  have hno : s.conn.retryCurrentMessage = true → ∀ st : ConnState, st.Settled :=
    fun h => absurd h (by simp [hret])
  unfold startTcpConnection
  split
  · exact tcpConnectionFailed_rests h _ _
  · rename_i n hsock
    have h1 : Rest (({ s with conn.sock := some n } : Sys β ι).emit (.opened n)) :=
      h.still (.one (.opened n) rfl trivial) rfl (fun _ => rfl) fun hr => hno hr _
    -- every later state has the same socket, and no message
    have h2 (s2 : Sys β ι) (hsock : s2.conn.sock = some n)
        (hret2 : s2.conn.retryCurrentMessage = s.conn.retryCurrentMessage)
        (htr : s2.trace = s.trace ++ [.opened n, .connecting n s.conn.remoteAddr]) : Rest s2 :=
      h.still ⟨_, htr, by simp [Neutral]⟩ hret2 (fun _ => by rw [hsock]; rfl) fun hr => hno hr _
    split_ifs
    · exact tcpConnectionFailed_rests h1 _ _
    · have h3 := h2 ((({ s with conn.sock := some n, conn.rdmnetConnFailed := false } : Sys β ι).emit
        (.opened n)).emit (.connecting n s.conn.remoteAddr)) rfl rfl (by simp)
      exact ⟨h3.still (.one (.sentClientConnect s.conn.connData) rfl trivial) rfl (fun _ => rfl)
        fun hr => hno hr _, hev⟩
    · exact ⟨h2 _ rfl rfl (by simp), hev⟩
    all_goals
      refine tcpConnectionFailed_rests ?_ _ _
      exact h2 _ rfl rfl (by simp)

theorem startConnection_rests (h : Rest s)
    (hret : s.conn.retryCurrentMessage = false) (hev : event.isMsg = false) :
    Rests (startConnection env r s event) := by
  unfold startConnection
  split
  · exact ⟨h.still (.same rfl) rfl h.polled fun hr => absurd hr (by simp [hret]), hev⟩
  · exact startTcpConnection_rests h hret hev

theorem localDisconnect_rests (h : Rest s) : Rests (localDisconnect s) := by
  unfold localDisconnect
  split
  · exact ⟨h.still (.same rfl) rfl h.polled h.settled, rfl⟩
  · exact ⟨h, rfl⟩

theorem localDisconnect_retry (s : Sys β ι) :
    (localDisconnect s).1.conn.retryCurrentMessage = s.conn.retryCurrentMessage := by
  unfold localDisconnect
  split <;> rfl

theorem processConnectionState_rests (h : Rest s) : Rests (processConnectionState env r s) := by
  have hret (hst : ¬ s.conn.state.Settled) : s.conn.retryCurrentMessage = false :=
    Bool.eq_false_iff.mpr (mt h.settled hst)
  unfold processConnectionState
  split <;> rename_i hst
  · exact startConnection_rests h (hret (by rw [hst]; decide)) rfl
  · split
    · exact startTcpConnection_rests h (hret (by rw [hst]; decide)) rfl
    · exact ⟨h, rfl⟩
  · split
    · exact ⟨resetConnection_rest h, rfl⟩
    · exact ⟨h, rfl⟩
  · split_ifs
    · exact ⟨resetConnection_rest h, rfl⟩
    · exact ⟨h.still (.one .sentNull rfl trivial) rfl h.polled h.settled, rfl⟩
    · exact ⟨h, rfl⟩
  · have hclear : Rest (clearConnection env s) := clearConnection_rest env h rfl rfl rfl
    exact startConnection_rests (localDisconnect_rests hclear).rest
      ((localDisconnect_retry _).trans rfl) (localDisconnect_rests hclear).event
  · exact ⟨resetConnection_rest (localDisconnect_rests h).rest, (localDisconnect_rests h).event⟩
  · exact ⟨h, rfl⟩

theorem handleSocketError_rests {err : EtcPalErr} (h : Rest s) : Rests (handleSocketError env err s) := by
  unfold handleSocketError
  split
  · exact ⟨resetConnection_rest h, rfl⟩
  · exact ⟨resetConnection_rest (h.still (.same rfl) rfl h.polled h.settled), rfl⟩
  · exact ⟨resetConnection_rest h, rfl⟩
  · exact ⟨h, rfl⟩

/-- What becomes of a message in `process_message`: it is released, unless it is to be delivered. -/
structure Disposes (r : Sys β ι × RCConnEvent) : Prop where
  own : owned r.1.trace = some r.2.isMsg
  polled : r.1.polled.isSome = true → r.1.conn.sock.isSome = true
  settled : r.1.conn.retryCurrentMessage = true ∨ r.2.isMsg = true → r.1.conn.state.Settled

variable (env) in
theorem takes_clear {r : Sys β ι × RCConnEvent} (hown : owned s.trace = some true)
    (hret : s.conn.retryCurrentMessage = false) (hpol : PolledOpen s)
    (htr : r.1.trace = (clearConnection env s).trace ++ [.freed])
    (hp : r.1.polled = (clearConnection env s).polled) (hret' : r.1.conn.retryCurrentMessage = false)
    (hev : r.2.isMsg = false) : Disposes r := by
  refine ⟨?_, ?_, by rw [hret', hev]; simp⟩
  · rw [htr, clearConnection_trace, owned_append, owned_clearTrace, hown, hret, hev]
    rfl
  · rw [hp, clearConnection_polled env hpol]
    exact nofun

theorem takes_still {r : Sys β ι × RCConnEvent} (hown : owned r.1.trace = some r.2.isMsg)
    (hpol : PolledOpen s) (hp : r.1.polled = s.polled) (hs : r.1.conn.sock = s.conn.sock)
    (hst : r.1.conn.state.Settled) : Disposes r :=
  ⟨hown, by rw [hp, hs]; exact hpol, fun _ => hst⟩

theorem handleRdmnetMessage_takes {now : Nat} (hown : owned s.trace = some true)
    (hpol : PolledOpen s) (hst : s.conn.state = .heartbeat)
    (hend : s.conn.retryCurrentMessage = true → ¬ EndsConnection env s.conn) :
    Disposes (handleRdmnetMessage env now s) := by
  have hset : s.conn.state.Settled := by rw [hst]; decide
  have hfree : owned (s.trace ++ [.freed]) = some false := by rw [owned_append, hown]; rfl
  unfold handleRdmnetMessage
  dsimp only
  split_ifs with hb
  · split <;> rename_i hk
    · exact takes_still hfree hpol rfl rfl hset
    · exact takes_still hfree hpol rfl rfl hset
    · have hret : s.conn.retryCurrentMessage = false :=
        Bool.eq_false_iff.mpr fun h => hend h (.inl ⟨hk, hst, hb⟩)
      exact takes_clear env (s := { s with conn.hbTimer.resetTime := now }) hown hret hpol rfl rfl rfl
        rfl
    · exact takes_still hown hpol rfl rfl hset
  · exact takes_still hown hpol rfl rfl hset

theorem handleRdmnetConnectResult_takes {now : Nat} (hown : owned s.trace = some true)
    (hpol : PolledOpen s) (hst : s.conn.state = .rdmnetConnPending)
    (hend : s.conn.retryCurrentMessage = true → ¬ EndsConnection env s.conn) :
    Disposes (handleRdmnetConnectResult env now s) := by
  have hfree : owned (s.trace ++ [.freed]) = some false := by rw [owned_append, hown]; rfl
  have hret (h : EndsConnection env s.conn) : s.conn.retryCurrentMessage = false :=
    Bool.eq_false_iff.mpr fun hr => hend hr h
  unfold handleRdmnetConnectResult connectResult
  dsimp only
  split <;> rename_i hk
  · split_ifs with hs
    · exact takes_still hfree hpol rfl rfl (.inr (.inl rfl))
    · exact takes_clear env hown (hret (.inr (.inl ⟨hk, hst, hs⟩))) hpol rfl rfl rfl rfl
  · exact takes_clear env
      (s := { s with
        conn.remoteAddr := some (env.getBrokerMsg (env.msg s.conn.recvBuf)).clientRedirect })
      hown (hret (.inr (.inr ⟨.inl hk, hst⟩))) hpol rfl rfl rfl rfl
  · exact takes_clear env
      (s := { s with
        conn.remoteAddr := some (env.getBrokerMsg (env.msg s.conn.recvBuf)).clientRedirect })
      hown (hret (.inr (.inr ⟨.inr hk, hst⟩))) hpol rfl rfl rfl rfl
  · exact takes_still hfree hpol rfl rfl (by show s.conn.state.Settled; rw [hst]; decide)

theorem processMessage_takes (now : Nat) (hown : owned s.trace = some true) (hpol : PolledOpen s)
    (hst : s.conn.state = .heartbeat ∨ s.conn.state = .rdmnetConnPending)
    (hend : s.conn.retryCurrentMessage = true → ¬ EndsConnection env s.conn) :
    Disposes (processMessage env now s) := by
  have hown' : owned (s.trace ++ [.handled (env.msg s.conn.recvBuf)]) = some true := by
    rw [owned_append, hown]
    rfl
  obtain ⟨hst, heq⟩ | ⟨hst, heq⟩ | ⟨h1, h2, -⟩ := processMessage_cases env now s
  · rw [heq]
    exact handleRdmnetConnectResult_takes hown' hpol hst hend
  · rw [heq]
    exact handleRdmnetMessage_takes hown' hpol hst hend
  · exact absurd hst (not_or.mpr ⟨h1, h2⟩)

/-! ### Steps -/

theorem Owns.listed (h : Owns s) (hx : s.thread ≠ .idle ∨ s.polled.isSome = true) : s.listed ≠ .removed := by
  intro hl
  obtain ⟨hp, hth⟩ := h.removed hl
  rcases hx with hx | hx
  · exact hx hth
  · rw [hp] at hx
    cases hx

theorem Owns.listed_of {t : Thread} (h : Owns s) (hth : s.thread = t) (ht : t ≠ .idle) : s.listed ≠ .removed :=
  h.listed (.inl (hth ▸ ht))

theorem Owns.held (h : Owns s) (hl : s.listed ≠ .removed) :
    owned s.trace = some (s.thread.holding s.conn.retryCurrentMessage) := by
  simpa [hl] using h.own

theorem Owns.of_listed (hl : s.listed ≠ .removed)
    (hown : owned s.trace = some (s.thread.holding s.conn.retryCurrentMessage))
    (hpol : PolledOpen s) (hset : s.conn.retryCurrentMessage = true ∨
      s.thread.holding s.conn.retryCurrentMessage = true ∧ s.thread.processing = false → s.conn.state.Settled)
    (hplain : s.thread.otherEvent.isMsg = false) : Owns s :=
  ⟨by simpa [hl] using hown, hpol, hset, fun h => absurd h hl, hplain⟩

section

variable (h : Owns s)
include h

theorem Owns.request (hadds : Adds Neutral s s') (hret : s'.conn.retryCurrentMessage = s.conn.retryCurrentMessage)
    (hsock : s'.conn.sock = s.conn.sock) (hp : s'.polled = s.polled)
    (hl : s'.listed = s.listed) (hth : s'.thread = s.thread)
    (hset : s.conn.state.Settled → s'.conn.state.Settled) : Owns s' := by
  refine ⟨?_, ?_, ?_, ?_, ?_⟩
  · rw [hadds.owned_eq, hth, hret, hl]
    exact h.own
  · rw [hp, hsock]
    exact h.polled
  · rw [hret, hth]
    exact fun hr => hset (h.settled hr)
  · rw [hl, hp, hth]
    exact h.removed
  · rw [hth]
    exact h.plain

theorem rcConnConnect_owns {addr : RedirectAddr} {data : BrokerClientConnectMsg} :
    Owns (rcConnConnect addr data s).1 := by
  unfold rcConnConnect
  split
  · exact h
  · refine h.request (.same rfl) rfl rfl rfl rfl rfl ?_
    rename_i hst
    dsimp only
    split
    · rename_i hns
      rw [hns]
      decide
    · exact fun _ => by decide

theorem rcConnReconnect_owns {addr : RedirectAddr} {data : BrokerClientConnectMsg} {reason : UInt16} :
    Owns (rcConnReconnect addr data reason s).1 := by
  unfold rcConnReconnect
  split
  · exact h
  · refine h.request (sendDisconnect_adds trivial s) (by simp) (by simp) (by simp) ?_ (by simp) ?_
    · exact congrArg Prod.fst (sendDisconnect_place reason s)
    · dsimp only
      rw [sendDisconnect_conn]
      split
      · rename_i hst
        rw [hst]
        decide
      · exact fun _ => by decide

theorem rcConnDisconnect_owns {reason : UInt16} : Owns (rcConnDisconnect reason s).1 := by
  unfold rcConnDisconnect
  split
  · exact h
  · refine h.request (sendDisconnect_adds trivial s) (by simp) (by simp) (by simp) ?_ (by simp) ?_
    · exact congrArg Prod.fst (sendDisconnect_place reason s)
    · dsimp only
      rw [sendDisconnect_conn]
      split
      · rename_i hst
        rcases hst with hst | hst <;> rw [hst] <;> decide
      · exact fun _ => by decide

theorem rcConnUnregister_owns {reason : Option UInt16} : Owns (rcConnUnregister reason s) := by
  cases reason with
  | none => exact h.request (.same rfl) rfl rfl rfl rfl rfl fun _ => .inr (.inr (.inr (.inr rfl)))
  | some reason =>
    exact h.request (sendDisconnect_adds trivial s) (by simp [rcConnUnregister])
      (by simp [rcConnUnregister]) (by simp [rcConnUnregister])
      (congrArg Prod.fst (sendDisconnect_place reason s)) (by simp [rcConnUnregister])
      fun _ => .inr (.inr (.inr (.inr rfl)))

theorem Owns.goes (hl : s.listed ≠ .removed) (hl' : s'.listed ≠ .removed) (hadds : Adds Neutral s s')
    (hhold : s'.thread.holding s'.conn.retryCurrentMessage = s.thread.holding s.conn.retryCurrentMessage)
    (hpol : PolledOpen s') (hset : s'.conn.retryCurrentMessage = true ∨
      s'.thread.holding s'.conn.retryCurrentMessage = true ∧ s'.thread.processing = false →
      s'.conn.state.Settled) (hplain : s'.thread.otherEvent.isMsg = false) : Owns s' :=
  .of_listed hl' (by rw [hadds.owned_eq, h.held hl, hhold]) hpol hset hplain

theorem Owns.wakes (hl : s.listed ≠ .removed)
    (hl' : s'.listed ≠ .removed) (hth : s.thread = .idle) (htr : s'.trace = s.trace)
    (hconn : s'.conn = s.conn) (hp : s'.polled = s.polled)
    (hhold : s'.thread.holding s.conn.retryCurrentMessage = s.conn.retryCurrentMessage)
    (hplain : s'.thread.otherEvent.isMsg = false) : Owns s' := by
  refine h.goes hl hl' (.same htr) ?_ ?_ ?_ hplain
  · rw [hconn, hhold, hth]
    rfl
  · rw [PolledOpen, hp, hconn]
    exact h.polled
  · rw [hconn, hhold]
    exact fun hr => h.settled (.inl (hr.elim id And.left))

end

variable {caller : Caller} {action : MessageAction}

theorem finishReceive_owns
    (hl : s.listed ≠ .removed) (hown : owned s.trace = some (decide (action = .retryLater))) (hpol : PolledOpen s)
    (hset : action = .retryLater → s.conn.state.Settled) : Owns (finishReceive caller action s) := by
  refine .of_listed hl ?_ hpol (fun hr => hset ?_) ?_
  · cases caller <;> exact hown
  · cases caller <;> simpa [finishReceive, holding, processing] using hr
  · cases caller <;> rfl

theorem recvStep_owns {retry : Bool} {input : ι} (h : Owns s)
    (hth : s.thread = .receive caller retry) : Owns (recvStep env caller retry input s) := by
  have hl := h.listed_of hth nofun
  have hset := h.settled
  rw [hth] at hset
  unfold recvStep
  dsimp only
  split
  · refine h.goes hl hl (.one (.received input _) rfl trivial) (by rw [hth]; rfl) h.polled ?_ rfl
    exact fun hr => hset (hr.imp_right fun hr => ⟨hr.1, rfl⟩)
  · rename_i hres
    have hretry : retry = false := Bool.eq_false_iff.mpr fun hr => hres (.inr hr)
    subst hretry
    split
    · refine h.goes hl hl (.one (.received input _) rfl trivial) (by rw [hth]; rfl) h.polled ?_ rfl
      exact fun hr => hset (hr.imp_right fun hr => nomatch hr.1)
    · refine finishReceive_owns hl ?_ h.polled nofun
      have hheld := h.held hl
      rw [hth] at hheld
      exact (Adds.owned_eq (.one (.received input _) rfl trivial)).trans hheld

variable {recvRes : EtcPalErr}

theorem parseStep_owns {retry : Bool} (h : Owns s) (hth : s.thread = .parse caller recvRes retry)
    (hs : parseStep env caller recvRes retry s = some s') : Owns s' := by
  have hl := h.listed_of hth nofun
  have hheld := h.held hl
  have hset := h.settled
  rw [hth] at hheld hset
  obtain ⟨rfl, rfl⟩ | ⟨rfl, -, rfl⟩ | ⟨rfl, -, ⟨-, rfl⟩ | ⟨-, rfl⟩⟩ := parseStep_cases env hs
  · refine h.goes hl hl (.same rfl) (by rw [hth]; rfl) h.polled ?_ rfl
    exact fun hr => hset (hr.imp_right fun hr => nomatch hr.2)
  · refine .of_listed hl ?_ h.polled ?_ rfl
    · rw [owned_append, hheld]
      rfl
    · exact fun hr => hset (hr.imp_right fun hr => nomatch hr.2)
  · refine h.goes hl hl (.same rfl) (by rw [hth]; rfl) h.polled ?_ rfl
    exact fun hr => hset (hr.imp_right fun hr => nomatch hr.1)
  · exact finishReceive_owns hl hheld h.polled nofun

variable (env) in
theorem deliverEventCallback_owned (h : owned s.trace = some event.isMsg) (action : MessageAction) :
    owned (deliverEventCallback env event action s).1.trace =
      some (decide ((deliverEventCallback env event action s).2 = .retryLater)) := by
  cases event with
  | msgReceived message =>
    cases action <;>
      simp [deliverEventCallback, freeMessage, owned_append, h, own, RCConnEvent.isMsg]
  | _ => simp [deliverEventCallback, owned_append, h, own, RCConnEvent.isMsg]

theorem deliverEventCallback_other (h : event.isMsg = false) (action : MessageAction) (s : Sys β ι) :
    Adds Neutral s (deliverEventCallback env event action s).1 := by
  cases event with
  | msgReceived message => cases h
  | none => exact .same rfl
  | connected info => exact .one (.connected info) rfl trivial
  | connectFailed info => exact .one (.connectFailed info) rfl trivial
  | disconnected info => exact .one (.disconnected info) rfl trivial

variable (env) in
theorem deliverEventCallback_frame (event : RCConnEvent) (action : MessageAction) (s : Sys β ι) :
    (deliverEventCallback env event action s).1.listed = s.listed ∧
      (deliverEventCallback env event action s).1.polled = s.polled ∧
      (deliverEventCallback env event action s).1.conn.sock = s.conn.sock ∧
      (deliverEventCallback env event action s).1.conn.retryCurrentMessage = s.conn.retryCurrentMessage := by
  cases event with
  | msgReceived message => cases action <;> exact ⟨rfl, rfl, rfl, rfl⟩
  | _ => exact ⟨rfl, rfl, rfl, rfl⟩

theorem deliver_owns (h : Owns s) (hth : s.thread = .deliver caller recvRes event)
    (hnext : (deliverEventCallback env event action s).2 = .processNext) :
    Owns { (deliverEventCallback env event action s).1 with thread := .parse caller recvRes false } := by
  have hl := h.listed_of hth nofun
  have hheld := h.held hl
  rw [hth] at hheld
  obtain ⟨h0, h1, h2, h3⟩ := deliverEventCallback_frame env event action s
  refine .of_listed ?_ ?_ ?_ ?_ rfl
  · exact fun hr => hl (h0.symm.trans hr)
  · have hown := deliverEventCallback_owned env hheld action
    rw [hnext] at hown
    exact hown
  · exact fun hp => h2 ▸ h.polled (h1 ▸ hp)
  · simp only [holding, Bool.false_eq_true, false_and, or_false, deliverEventCallback_state, h3]
    exact fun hr => h.settled (.inl hr)

theorem deliverRetry_owns (h : Owns s) (hth : s.thread = .deliver caller recvRes event)
    (hnext : (deliverEventCallback env event action s).2 = .retryLater) :
    Owns (finishReceive caller .retryLater (deliverEventCallback env event action s).1) := by
  have hl := h.listed_of hth nofun
  have hheld := h.held hl
  rw [hth] at hheld
  obtain ⟨h0, h1, h2, -⟩ := deliverEventCallback_frame env event action s
  refine finishReceive_owns ?_ ?_ ?_ fun _ => ?_
  · exact fun hr => hl (h0.symm.trans hr)
  · have hown := deliverEventCallback_owned env hheld action
    rwa [hnext] at hown
  · exact fun hp => h2 ▸ h.polled (h1 ▸ hp)
  · -- only a message is retried, and its connection takes messages
    have hmsg : event.isMsg = true := by
      cases event with
      | msgReceived message => rfl
      | _ => cases hnext
    rw [deliverEventCallback_state]
    exact h.settled (.inr (by rw [hth]; exact ⟨hmsg, rfl⟩))

theorem otherDeliver_owns {t : Thread} (h : Owns s) (hth : s.thread ≠ .idle) (hev : event.isMsg = false)
    (hhold : ∀ flag, t.holding flag = s.thread.holding flag) (hproc : s.thread.processing = false)
    (hplain : t.otherEvent.isMsg = false) :
    Owns { (deliverEventCallback env event action s).1 with thread := t } := by
  have hl := h.listed (.inl hth)
  obtain ⟨h0, h1, h2, h3⟩ := deliverEventCallback_frame env event action s
  refine h.goes hl (fun hr => hl (h0.symm.trans hr)) (deliverEventCallback_other hev action s) ?_ ?_
    ?_ hplain
  · simp only [h3, hhold]
  · exact fun hp => h2 ▸ h.polled (h1 ▸ hp)
  · simp only [h3, hhold, deliverEventCallback_state]
    exact fun hr => h.settled (hr.imp_right fun hr => ⟨hr.1, hproc⟩)

theorem Owns.rest (h : Owns s) (hl : s.listed ≠ .removed)
    (hhold : s.thread.holding s.conn.retryCurrentMessage = s.conn.retryCurrentMessage) : Rest s :=
  ⟨by rw [h.held hl, hhold], h.polled, fun hr => h.settled (.inl hr)⟩

theorem Rests.owns {r : Sys β ι × RCConnEvent} {t : Thread} (h : Rests r)
    (hl : s.listed ≠ .removed) (hplace : r.1.place = s.place)
    (ht : t.holding r.1.conn.retryCurrentMessage = r.1.conn.retryCurrentMessage)
    (hplain : t.otherEvent = r.2) : Owns { r.1 with thread := t } := by
  refine .of_listed (fun hr => hl ((congrArg Prod.fst hplace).symm.trans hr)) ?_ h.rest.polled ?_ ?_
  · exact h.rest.own.trans (congrArg some ht.symm)
  · exact fun hr => h.rest.settled (hr.elim id fun hr => ht ▸ hr.1)
  · rw [hplain]
    exact h.event

variable (env) in
theorem handleSocketError_retry (err : EtcPalErr) (s : Sys β ι) : handleSocketError env err s = (s, .none) ∨
      (s.conn.state = .tcpConnPending ∨ s.conn.state = .rdmnetConnPending ∨ s.conn.state = .heartbeat) ∧
      (handleSocketError env err s).1.conn.retryCurrentMessage = false := by
  unfold handleSocketError
  split <;> rename_i hst
  · exact .inr ⟨.inl hst, rfl⟩
  · exact .inr ⟨.inr (.inl hst), rfl⟩
  · exact .inr ⟨.inr (.inr hst), rfl⟩
  · exact .inl rfl

theorem socketError_owns {err : EtcPalErr} (h : Owns s) (hth : s.thread = .socketError (some caller) err)
    (hok : LockReleases env s.conn s.thread) :
    Owns { (handleSocketError env err s).1 with
      thread := .errorDeliver (some caller) (handleSocketError env err s).2 } := by
  have hl := h.listed_of hth nofun
  have hheld := h.held hl
  rw [hth] at hok hheld
  obtain heq | ⟨hst, hret'⟩ := handleSocketError_retry env err s
  · rw [heq]
    refine h.goes hl hl (.same rfl) (by rw [hth]; rfl) h.polled ?_ rfl
    exact fun hr => h.settled (.inl (hr.resolve_right nofun))
  · -- the flag is not that of a message that was released already
    have hret : s.conn.retryCurrentMessage = false := by
      refine Bool.eq_false_iff.mpr fun hr => ?_
      obtain ⟨h1, h2, h3⟩ := hok hr
      rcases hst with hst | hst | hst
      · exact h1 hst
      · exact h2 hst
      · exact h3 hst
    have hrest : Rest s := ⟨by rw [hheld, hret]; rfl, h.polled, fun hr => h.settled (.inl hr)⟩
    exact (handleSocketError_rests hrest).owns hl (handleSocketError_place err s)
      (by rw [hret']; rfl) rfl

theorem destroy_owns (h : Owns s) (hth : s.thread = .idle) (hl : s.listed ≠ .removed) :
    Owns { destroyConnection env s with listed := .removed, toRemove := false } := by
  have hrest := h.rest hl (by rw [hth]; rfl)
  have hpol : (cleanupConnectionResources env s).polled = none := clearConnection_polled env h.polled
  refine ⟨?_, ?_, ?_, fun _ => ⟨hpol, ?_⟩, ?_⟩
  · have hthread : (destroyConnection env s).thread = .idle := by
      simp [destroyConnection, cleanupConnectionResources_eq, hth]
    simp only [hthread, ne_eq, not_true_eq_false, decide_false, Bool.and_false, holding]
    rw [destroyConnection, emit_trace, owned_append, cleanupConnectionResources_eq]
    rw [owned_clearTrace, hrest.own]
    cases s.conn.retryCurrentMessage <;> rfl
  · show (cleanupConnectionResources env s).polled.isSome = true → _
    rw [hpol]
    rintro ⟨⟩
  · simp only [destroyConnection, cleanupConnectionResources_eq, emit_conn, emit_thread, hth, holding]
    exact fun hr => hrest.settled (hr.elim id And.left)
  · simp [destroyConnection, cleanupConnectionResources_eq, hth]
  · simp [destroyConnection, cleanupConnectionResources_eq, hth, otherEvent, RCConnEvent.isMsg]

theorem Moves.owns {a : Action ι} (hm : Moves env s a s')
    (hok : ReleasesOnce env a s) (h : Owns s) : Owns s' := by
  cases hm with
  | connect addr data => exact rcConnConnect_owns h
  | reconnect addr data reason => exact rcConnReconnect_owns h
  | disconnect reason => exact rcConnDisconnect_owns h
  | unregister reason => exact rcConnUnregister_owns h
  | pollErr err hth hp | pollIn hth hp | pollConnect hth hp =>
    have hl := h.listed (.inr hp)
    exact h.wakes hl hl hth rfl rfl rfl rfl rfl
  | destroy hth hl hrem => exact destroy_owns h hth hl
  | tick hth hl hrem => exact h.wakes hl nofun hth rfl rfl rfl rfl rfl
  | recv caller retry input hth => exact recvStep_owns h hth
  | parse caller recvRes retry s' hth hs => exact parseStep_owns h hth hs
  | process r caller recvRes hth =>
    have hl := h.listed_of hth nofun
    have hheld := h.held hl
    simp only [ReleasesOnce, hth] at hok hheld
    have hd := processMessage_takes r.now hheld h.polled hok.1 hok.2
    refine .of_listed ?_ hd.own hd.polled ?_ rfl
    · exact fun hr => hl ((congrArg Prod.fst (processMessage_place r.now s)).symm.trans hr)
    · exact fun hr => hd.settled (hr.imp_right And.left)
  | socketError r caller err hth =>
    cases caller with
    | none =>
      have hl := h.listed_of hth nofun
      exact (handleSocketError_rests (h.rest hl (by rw [hth]; rfl))).owns hl
        (handleSocketError_place err s) rfl rfl
    | some caller => exact socketError_owns h hth hok
  | tcpEstablished r hth =>
    have hl := h.listed_of hth nofun
    refine h.goes hl hl (.one (.sentClientConnect s.conn.connData) rfl trivial) (by rw [hth]; rfl) ?_
      (fun _ => .inl rfl) rfl
    intro hp
    refine h.polled ?_
    have hp : (if s.polled.isSome ∧ r.modifyPolled = .ok then some .pollIn else s.polled).isSome =
      true := hp
    split at hp
    · exact And.left ‹_›
    · exact hp
  | tickLock r hth =>
    have hl := h.listed_of hth nofun
    exact (processConnectionState_rests (h.rest hl (by rw [hth]; rfl))).owns hl
      (processConnectionState_place r s) rfl rfl
  | deliver action caller recvRes event hth hnext => exact deliver_owns h hth hnext
  | deliverRetry action caller recvRes event hth hnext => exact deliverRetry_owns h hth hnext
  | errorDeliver action caller event hth =>
    have hl := h.listed_of hth nofun
    have hheld := h.held hl
    have hev := h.plain
    rw [hth] at hheld hev
    obtain ⟨h0, h1, h2, -⟩ := deliverEventCallback_frame env event action s
    refine finishReceive_owns (fun hr => hl (h0.symm.trans hr)) ?_ ?_ nofun
    · exact (deliverEventCallback_other hev action s).owned_eq.trans hheld
    · exact fun hp => h2 ▸ h.polled (h1 ▸ hp)
  | pollDeliver action event hth | tickDeliver action event hth =>
    have hev := h.plain
    rw [hth] at hev
    exact otherDeliver_owns h (by rw [hth]; exact nofun) hev (by rw [hth]; exact fun _ => rfl)
      (by rw [hth]; rfl) rfl

/-- **Message resources are released exactly once.**  In every run whose steps all meet
`ReleasesOnce`, a message that the parser returned is released once before the next one is parsed,
never twice, and none is left when the connection has been reset or destroyed. -/
theorem messages_released_once (env : ConnEnv β ι) (buf : β) (connData : BrokerClientConnectMsg)
    (now : Nat) {s : Sys β ι}
    (h : Runs (connStep env) (ReleasesOnce env) (rcConnRegister env buf connData now) s) :
    ∃ held, owned s.trace = some held ∧
      (s.listed = .removed ∨ s.conn.state = .notStarted ∧ s.thread.processing = false → held = false) := by
  have hinit : Owns (rcConnRegister env buf connData now : Sys β ι) :=
    .of_listed nofun rfl nofun nofun rfl
  have howns : Owns s :=
    Runs.keeps (fun a t t' hok ht hs => (connStep_moves env hs).owns hok ht) h hinit
  refine ⟨_, howns.own, fun hend => ?_⟩
  rcases hend with hl | ⟨hst, hproc⟩
  · rw [hl, (howns.removed hl).2]
    simp [holding]
  · refine Bool.eq_false_iff.mpr fun hheld => ?_
    have hset : s.conn.state.Settled := howns.settled (by
      by_cases hl : s.listed = .removed
      · rw [hl, (howns.removed hl).2] at hheld
        simp [holding] at hheld
      · exact .inr ⟨by simpa [hl] using hheld, hproc⟩)
    rw [hst] at hset
    exact absurd hset (by decide)

def sampleList : Bytes :=
  rcBrokerPackRptClientList .reference 1000 default BrokerKind.connectedClientList.vector [default]

/-- A message is kept for a tick and processed in the next; then the connection runs into a heartbeat
timeout. -/
theorem messages_released_once_retry :
    ∃ s, Runs (connStep (msgBufEnv .reference)) (ReleasesOnce (msgBufEnv .reference)) sampleConn s ∧
      (s.conn.state = .notStarted ∧ s.thread = .idle) ∧ ∃ held, owned s.trace = some held ∧
        (s.listed = .removed ∨ s.conn.state = .notStarted ∧ s.thread.processing = false → held = false) := by
  obtain ⟨s, hr, hx⟩ := Runs.exists_of_play (s := sampleConn) (connStep (msgBufEnv .reference))
    (ReleasesOnce (msgBufEnv .reference)) (fun s => (s.conn.state, s.thread)) (.notStarted, .idle)
    (connectActions ++
      [.tick, .recv (recvBytes sampleList), .parse, .lock (fastConnect 0), .deliver .retryLater,
        .lock (fastConnect 0), .deliver .processNext,
        .tick, .recv [], .parse, .lock (fastConnect 0), .deliver .processNext, .parse,
        .lock (fastConnect 0), .deliver .processNext] ++ quietTick (fastConnect 100000)) (by decide +kernel)
  exact ⟨s, hr, Prod.mk.inj hx, messages_released_once _ _ _ _ hr⟩

/-- A message that arrives after the application gave up the connection is parsed and never
released. -/
theorem message_leaked : ∃ s, Runs (connStep (msgBufEnv .reference)) anyStep sampleConn s ∧
      s.conn.state = .notStarted ∧ s.thread = .idle ∧ owned s.trace = some true := by
  obtain ⟨s, hr, hx⟩ := Runs.exists_of_play (s := sampleConn) (connStep (msgBufEnv .reference))
    anyStep (fun s => (s.conn.state, s.thread, owned s.trace)) (.notStarted, .idle, some true)
    (connectActions ++ [.disconnect 0] ++ messageTick sampleList 0) (by decide +kernel)
  simp only [Prod.mk.injEq] at hx
  exact ⟨s, hr, hx⟩

end RDMnet
