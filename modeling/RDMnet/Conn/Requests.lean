import RDMnet.Conn.Notices

/-!
# A request to disconnect is not lost

`rc_conn_disconnect` and `rc_conn_unregister` only set a state that the next tick acts upon.  In
that state the background thread must do nothing but wait for the tick: `Halted` are the states in
which no message, socket error or timer brings the connection up again.

A TCP connection that is reported established is taken up in every state, and a notification that
the thread has already got out of the lock is still delivered; `RequestsKept` are the steps at which
this does not come in the way of a request.
-/

namespace RDMnet

variable {β ι : Type} {env : ConnEnv β ι}

def ConnState.Halted (st : ConnState) : Prop :=
  st = .notStarted ∨ st = .disconnectPending ∨ st = .markedForDestruction

instance (st : ConnState) : Decidable st.Halted := inferInstanceAs (Decidable (_ ∨ _ ∨ _))

def RCConnEvent.isConnected : RCConnEvent → Bool
  | .connected _ => true
  | _ => false

/-- The steps that keep a request: the TCP connection is not reported established in a state in
which the connection was given up, and it is not given up between the lock and the callback of a
connection that has just come up. -/
def RequestsKept (a : Action ι) (s : Sys β ι) : Prop :=
  match a with
  | .disconnect _ => s.thread.event.isConnected = false
  | .lock _ => s.thread = .tcpEstablished → ¬ s.conn.state.Halted
  | _ => True

instance (a : Action ι) (s : Sys β ι) : Decidable (RequestsKept a s) := by
  delta RequestsKept
  rcases a with _ | _ <;> (dsimp only; infer_instance)

def Action.asksConnection : Action ι → Bool
  | .connect _ _ => true
  | .reconnect _ _ _ => true
  | _ => false

def KeptUnasked (a : Action ι) (s : Sys β ι) : Prop := RequestsKept a s ∧ a.asksConnection = false

def Obs.NotUp : Obs ι → Prop
  | .connected _ => False
  | .sentClientConnect _ => False
  | _ => True

/-! ### What is done with the lock in a halted state -/

variable {s : Sys β ι}

theorem processMessage_halted (h : s.conn.state.Halted) (now : Nat) :
    processMessage env now s = (s, .none) := by
  obtain ⟨hst, -⟩ | ⟨hst, -⟩ | ⟨-, -, heq⟩ := processMessage_cases env now s
  · rw [hst] at h
    exact absurd h (by decide)
  · rw [hst] at h
    exact absurd h (by decide)
  · exact heq

theorem handleSocketError_halted (h : s.conn.state.Halted) (err : EtcPalErr) :
    handleSocketError env err s = (s, .none) := by
  rcases h with h | h | h <;> simp [handleSocketError, h]

variable (env) in
theorem processConnectionState_halted (h : s.conn.state.Halted) (r : SocketRes) :
    (s.conn.state ≠ .disconnectPending ∧ processConnectionState env r s = (s, .none)) ∨
    (s.conn.state = .disconnectPending ∧ processConnectionState env r s =
        (resetConnection env (localDisconnect s).1, (localDisconnect s).2)) := by
  rcases h with h | h | h <;> simp [processConnectionState, h]

theorem localDisconnect_notUp (s : Sys β ι) : (localDisconnect s).2.isConnected = false := by
  unfold localDisconnect
  split <;> rfl

@[simp] theorem localDisconnect_trace (s : Sys β ι) : (localDisconnect s).1.trace = s.trace := by
  unfold localDisconnect
  split <;> rfl

@[simp] theorem localDisconnect_place (s : Sys β ι) : (localDisconnect s).1.place = s.place := by
  unfold localDisconnect
  split <;> rfl

variable (env) in
theorem resetConnection_place (s : Sys β ι) : (resetConnection env s).place = s.place :=
  clearConnection_place env s

variable {P : Obs ι → Prop}

theorem sendDisconnect_adds {reason : UInt16} (hP : P (.sentDisconnect reason))
    (s : Sys β ι) : Adds P s (sendDisconnect reason s) := by
  unfold sendDisconnect
  split
  · exact .one _ rfl hP
  · exact .same rfl

theorem deliverEventCallback_adds {event : RCConnEvent} (h : event.isConnected = false)
    (action : MessageAction) (s : Sys β ι) : Adds Obs.NotUp s (deliverEventCallback env event action s).1 := by
  cases event with
  | connected info => cases h
  | msgReceived message =>
    cases action with
    | processNext =>
      exact Adds.trans (.one (.messageReceived message .processNext) rfl trivial)
        (.one .freed rfl trivial)
    | retryLater => exact .one (.messageReceived message .retryLater) rfl trivial
  | none => exact .same rfl
  | connectFailed info => exact .one (.connectFailed info) rfl trivial
  | disconnected info => exact .one (.disconnected info) rfl trivial

@[simp] theorem deliverEventCallback_state (event : RCConnEvent) (action : MessageAction)
    (s : Sys β ι) : (deliverEventCallback env event action s).1.conn.state = s.conn.state :=
  (deliverEventCallback_notices env event action s).2.1

theorem recvStep_adds (hP : ∀ i res, P (.received i res)) (caller : Caller)
    (retry : Bool) (input : ι) (s : Sys β ι) : Adds P s (recvStep env caller retry input s) := by
  unfold recvStep
  dsimp only
  split
  · exact .one _ rfl (hP _ _)
  · split
    · exact .one _ rfl (hP _ _)
    · exact .one _ rfl (hP _ _)

variable {caller : Caller} {recvRes : EtcPalErr} {retry : Bool} {s' : Sys β ι}

theorem parseStep_adds (hP : ∀ m, P (.parsed m))
    (hs : parseStep env caller recvRes retry s = some s') : Adds P s s' := by
  obtain ⟨-, rfl⟩ | ⟨-, -, rfl⟩ | ⟨-, -, ⟨-, rfl⟩ | ⟨-, rfl⟩⟩ := parseStep_cases env hs
  · exact .same rfl
  · exact .one _ rfl (hP _)
  · exact .same rfl
  · exact .same rfl

theorem recvStep_state (caller : Caller) (retry : Bool) (input : ι) (s : Sys β ι) :
    (recvStep env caller retry input s).conn.state = s.conn.state := by
  unfold recvStep
  dsimp only
  split
  · rfl
  · split <;> rfl

theorem parseStep_state
    (hs : parseStep env caller recvRes retry s = some s') : s'.conn.state = s.conn.state := by
  obtain ⟨-, rfl⟩ | ⟨-, -, rfl⟩ | ⟨-, -, ⟨-, rfl⟩ | ⟨-, rfl⟩⟩ := parseStep_cases env hs <;> rfl

/-! ### After a request -/

/-- Since `s0` the connection has been given up: nothing that brings it up has happened, nor is a
notification of that kind on its way. -/
structure GivenUp (s0 s : Sys β ι) : Prop where
  halted : s.conn.state.Halted
  event : s.thread.event.isConnected = false
  adds : Adds Obs.NotUp s0 s

variable {s0 : Sys β ι}

theorem GivenUp.still (h : GivenUp s0 s) (hst : s'.conn.state = s.conn.state)
    (hev : s'.thread.event.isConnected = false) (hadds : Adds Obs.NotUp s s') : GivenUp s0 s' :=
  ⟨hst ▸ h.halted, hev, h.adds.trans hadds⟩

theorem recvStep_event (caller : Caller) (retry : Bool) (input : ι) (s : Sys β ι) :
    (recvStep env caller retry input s).thread.event = .none := by
  unfold recvStep
  dsimp only
  split
  · rfl
  · split
    · rfl
    · exact finishReceive_event _ _ _

theorem parseStep_event (hs : parseStep env caller recvRes retry s = some s') : s'.thread.event = .none := by
  obtain ⟨-, rfl⟩ | ⟨-, -, rfl⟩ | ⟨-, -, ⟨-, rfl⟩ | ⟨-, rfl⟩⟩ := parseStep_cases env hs
  · rfl
  · rfl
  · rfl
  · exact finishReceive_event _ _ _

theorem processConnectionState_givenUp (h : GivenUp s0 s) (r : SocketRes) :
    GivenUp s0 { (processConnectionState env r s).1 with
      thread := .tickDeliver (processConnectionState env r s).2 } := by
  obtain ⟨-, heq⟩ | ⟨-, heq⟩ := processConnectionState_halted env h.halted r
  · rw [heq]
    exact h.still rfl rfl (.same rfl)
  · rw [heq]
    refine ⟨.inl rfl, localDisconnect_notUp s, h.adds.trans ?_⟩
    exact (Adds.same (localDisconnect_trace s)).trans
      (clearConnection_adds env (fun _ => trivial) trivial _)

theorem GivenUp.deliver {event : RCConnEvent} {action : MessageAction}
    (h : GivenUp s0 s) (hev : s.thread.event = event)
    (hst : s'.conn.state = (deliverEventCallback env event action s).1.conn.state)
    (htr : s'.trace = (deliverEventCallback env event action s).1.trace)
    (hth : s'.thread.event = .none) : GivenUp s0 s' := by
  refine h.still (hst.trans (deliverEventCallback_state _ _ _)) (by rw [hth]; rfl) ?_
  have hadds : Adds Obs.NotUp s (deliverEventCallback env event action s).1 :=
    deliverEventCallback_adds (hev ▸ h.event) action s
  exact hadds.trans (.same htr)

variable {a : Action ι}

theorem Moves.givenUp (hm : Moves env s a s') (hok : KeptUnasked a s) (h : GivenUp s0 s) : GivenUp s0 s' := by
  cases hm with
  | connect | reconnect => cases hok.2
  | disconnect reason =>
    unfold rcConnDisconnect
    split
    · exact h
    · rename_i hst
      refine ⟨?_, ?_, h.adds.trans (sendDisconnect_adds trivial s)⟩
      · rcases h.halted with h | h | h <;> simp_all [ConnState.Halted]
      · simpa using h.event
  | unregister reason =>
    refine ⟨.inr (.inr rfl), ?_, h.adds.trans ?_⟩
    · cases reason <;> simpa [rcConnUnregister] using h.event
    · cases reason with
      | none => exact .same rfl
      | some reason => exact sendDisconnect_adds trivial s
  | pollErr | pollIn | pollConnect | tick => exact h.still rfl rfl (.same rfl)
  | destroy hth hl hrem =>
    refine h.still ?_ (by simp [destroyConnection, cleanupConnectionResources_eq, hth]; rfl) ?_
    · simp [destroyConnection, cleanupConnectionResources_eq]
    · exact (clearConnection_adds env (fun _ => trivial) trivial s).trans
        (.one .destroyed (by simp [destroyConnection, cleanupConnectionResources_eq]) trivial)
  | recv caller retry input hth =>
    exact h.still (recvStep_state _ _ _ _) (by rw [recvStep_event]; rfl)
      (recvStep_adds (fun _ _ => trivial) _ _ _ _)
  | parse caller recvRes retry s' hth hs =>
    exact h.still (parseStep_state hs) (by rw [parseStep_event hs]; rfl)
      (parseStep_adds (fun _ => trivial) hs)
  | process r caller recvRes hth =>
    rw [processMessage_halted h.halted]
    exact h.still rfl rfl (.same rfl)
  | socketError r caller err hth =>
    rw [handleSocketError_halted h.halted]
    exact h.still rfl rfl (.same rfl)
  | tcpEstablished r hth => exact absurd h.halted (hok.1 hth)
  | tickLock r hth => exact processConnectionState_givenUp h r
  | deliver action caller recvRes event hth hnext | pollDeliver action event hth
  | tickDeliver action event hth => exact h.deliver (by rw [hth]; rfl) rfl rfl rfl
  | deliverRetry action caller recvRes event hth hnext | errorDeliver action caller event hth =>
    exact h.deliver (by rw [hth]; rfl) rfl rfl (finishReceive_event _ _ _)

/-! ### The next tick -/

/-- The thread is in a tick and has not come to its `switch`. -/
def Thread.beforeSwitch : Thread → Bool
  | .receive .tick _ => true
  | .parse .tick _ _ => true
  | .process .tick _ => true
  | .deliver .tick _ _ => true
  | .socketError (some .tick) _ => true
  | .errorDeliver (some .tick) _ => true
  | .tickLock => true
  | _ => false

/-- The connection is down, or a disconnection is pending; once a tick has begun (`ticked`), the
latter is so only until the tick comes to its `switch`. -/
structure Ending (ticked : Prop) (s : Sys β ι) : Prop where
  stays : s.toRemove = false
  ends : s.conn.state = .notStarted ∨
    s.conn.state = .disconnectPending ∧ (ticked → s.thread.beforeSwitch = true)

/-- Neither does the application ask for a connection, nor does it give the structure back. -/
def Action.leavesAlone : Action ι → Bool
  | .connect _ _ => false
  | .reconnect _ _ _ => false
  | .unregister _ => false
  | _ => true

variable {ticked : Prop}

theorem Ending.still (h : Ending ticked s) (hst : s'.conn.state = s.conn.state) (hrem : s'.place = s.place)
    (hth : s.thread.beforeSwitch = true → s'.thread.beforeSwitch = true) : Ending ticked s' :=
  ⟨(congrArg Prod.snd hrem).trans h.stays, hst ▸ h.ends.imp_right (And.imp_right fun hb ht => hth (hb ht))⟩

theorem Ending.halted (h : Ending ticked s) : s.conn.state.Halted :=
  h.ends.imp_right fun h => .inl h.1

theorem recvStep_ending {input : ι} (h : Ending ticked s) (hth : s.thread = .receive caller retry) :
    Ending ticked (recvStep env caller retry input s) := by
  unfold recvStep
  dsimp only
  split
  · exact h.still rfl rfl (by rw [hth]; cases caller <;> exact id)
  · split
    · exact h.still rfl rfl (by rw [hth]; cases caller <;> exact id)
    · exact h.still rfl rfl (by rw [hth]; cases caller <;> exact id)

theorem parseStep_ending (h : Ending ticked s) (hth : s.thread = .parse caller recvRes retry)
    (hs : parseStep env caller recvRes retry s = some s') : Ending ticked s' := by
  obtain ⟨-, rfl⟩ | ⟨-, -, rfl⟩ | ⟨-, -, ⟨-, rfl⟩ | ⟨-, rfl⟩⟩ := parseStep_cases env hs <;>
    exact h.still rfl rfl (by rw [hth]; cases caller <;> exact id)

@[simp] theorem deliverEventCallback_place (event : RCConnEvent) (action : MessageAction)
    (s : Sys β ι) : (deliverEventCallback env event action s).1.place = s.place := by
  cases event with
  | msgReceived message => cases action <;> rfl
  | _ => rfl

theorem Moves.ending (hm : Moves env s a s')
    (hok : RequestsKept a s) (ha : a.leavesAlone = true) (h : Ending ticked s) : Ending ticked s' := by
  cases hm with
  | connect | reconnect | unregister => cases ha
  | disconnect reason =>
    unfold rcConnDisconnect
    rcases h.ends with hst | ⟨hst, hth⟩
    · rw [if_pos (.inl hst)]
      exact h
    · rw [if_neg (by rw [hst]; decide)]
      exact ⟨(congrArg Prod.snd (sendDisconnect_place reason s)).trans h.stays,
        .inr ⟨by simp [hst], fun ht => by simpa using hth ht⟩⟩
  | pollErr err hth hp | pollIn hth hp | pollConnect hth hp =>
    exact h.still rfl rfl (by rw [hth]; rintro ⟨⟩)
  | destroy hth hl hrem => rw [h.stays] at hrem; cases hrem
  | tick hth hl hrem => exact ⟨h.stays, h.ends.imp_right (And.imp_right fun _ _ => rfl)⟩
  | recv caller retry input hth => exact recvStep_ending h hth
  | parse caller recvRes retry s' hth hs => exact parseStep_ending h hth hs
  | process r caller recvRes hth =>
    rw [processMessage_halted h.halted]
    exact h.still rfl rfl (by rw [hth]; cases caller <;> exact id)
  | socketError r caller err hth =>
    rw [handleSocketError_halted h.halted]
    exact h.still rfl rfl (by rw [hth]; rcases caller with _ | _ | _ <;> exact id)
  | tcpEstablished r hth => exact absurd h.halted (hok hth)
  | tickLock r hth =>
    obtain ⟨hst, heq⟩ | ⟨-, heq⟩ := processConnectionState_halted env h.halted r <;> rw [heq]
    · exact ⟨h.stays, .inl (h.ends.resolve_right fun h => hst h.1)⟩
    · have hplace := (resetConnection_place env _).trans (localDisconnect_place s)
      exact ⟨(congrArg Prod.snd hplace).trans h.stays, .inl rfl⟩
  | deliver action caller recvRes event hth hnext =>
    exact h.still (by simp) (deliverEventCallback_place event action s)
      (by rw [hth]; cases caller <;> exact id)
  | deliverRetry action caller recvRes event hth hnext | errorDeliver action caller event hth =>
    exact h.still (by simp [finishReceive]) (deliverEventCallback_place event action s)
      (by rw [hth]; cases caller <;> exact id)
  | pollDeliver action event hth | tickDeliver action event hth =>
    exact h.still (by simp) (deliverEventCallback_place event action s) (by rw [hth]; rintro ⟨⟩)

/-! ### A connection that was given back -/

theorem startTcpConnection_place (r : SocketRes) (s : Sys β ι) (event : RCConnEvent) :
    (startTcpConnection env r s event).1.place = s.place := by
  unfold startTcpConnection
  split
  · exact resetConnection_place env s
  · dsimp only
    split_ifs
    all_goals first | rfl | exact resetConnection_place env _

theorem startConnection_place (r : SocketRes) (s : Sys β ι) (event : RCConnEvent) :
    (startConnection env r s event).1.place = s.place := by
  unfold startConnection
  split
  · rfl
  · exact startTcpConnection_place r s event

theorem processConnectionState_place (r : SocketRes) (s : Sys β ι) :
    (processConnectionState env r s).1.place = s.place := by
  unfold processConnectionState
  split
  · exact startConnection_place r s .none
  · split
    · exact startTcpConnection_place r s .none
    · rfl
  · split
    · exact resetConnection_place env s
    · rfl
  · split_ifs
    · exact resetConnection_place env s
    · rfl
    · rfl
  · exact (startConnection_place r _ _).trans (by simp)
  · exact (resetConnection_place env _).trans (localDisconnect_place s)
  · rfl

theorem handleSocketError_place (err : EtcPalErr) (s : Sys β ι) :
    (handleSocketError env err s).1.place = s.place := by
  unfold handleSocketError
  split
  · exact resetConnection_place env s
  · exact resetConnection_place env _
  · exact resetConnection_place env s
  · rfl

theorem processMessage_place (now : Nat) (s : Sys β ι) : (processMessage env now s).1.place = s.place := by
  obtain ⟨-, heq⟩ | ⟨-, heq⟩ | ⟨-, -, heq⟩ := processMessage_cases env now s <;> rw [heq]
  · unfold handleRdmnetConnectResult connectResult
    dsimp only
    split
    · split_ifs
      · rfl
      · exact resetConnection_place env (s.emit _)
    · exact clearConnection_place env { s.emit _ with conn.remoteAddr := _ }
    · exact clearConnection_place env { s.emit _ with conn.remoteAddr := _ }
    · rfl
  · unfold handleRdmnetMessage
    dsimp only
    split_ifs
    · split
      · rfl
      · rfl
      · exact resetConnection_place env { s.emit _ with conn.hbTimer.resetTime := now }
      · rfl
    · rfl

theorem Moves.marked (hm : Moves env s a s') (hok : RequestsKept a s) (h : s.conn.state = .markedForDestruction) :
    s'.conn.state = .markedForDestruction := by
  have hhalt : s.conn.state.Halted := .inr (.inr h)
  cases hm with
  | connect addr data => simp [rcConnConnect, h]
  | reconnect addr data reason => simp [rcConnReconnect, h]
  | disconnect reason => simp [rcConnDisconnect, h]
  | unregister reason => rfl
  | pollErr | pollIn | pollConnect | tick => exact h
  | destroy hth hl hrem => simpa [destroyConnection, cleanupConnectionResources_eq] using h
  | recv caller retry input hth => exact (recvStep_state _ _ _ _).trans h
  | parse caller recvRes retry s' hth hs => exact (parseStep_state hs).trans h
  | process r caller recvRes hth => rwa [processMessage_halted hhalt]
  | socketError r caller err hth => rwa [handleSocketError_halted hhalt]
  | tcpEstablished r hth => exact absurd hhalt (hok hth)
  | tickLock r hth =>
    obtain ⟨-, heq⟩ | ⟨hst, -⟩ := processConnectionState_halted env hhalt r
    · rwa [heq]
    · rw [h] at hst
      cases hst
  | deliver | pollDeliver | tickDeliver => simpa using h
  | deliverRetry | errorDeliver => simpa [finishReceive] using h

theorem rcConnDisconnect_place (reason : UInt16) (s : Sys β ι) :
    (rcConnDisconnect reason s).1.place = s.place := by
  unfold rcConnDisconnect
  split
  · rfl
  · exact sendDisconnect_place reason s

/-- The connection is in the list `to_remove` only if it is marked. -/
def RemovalMarked (s : Sys β ι) : Prop :=
  s.toRemove = true → s.conn.state = .markedForDestruction

theorem Moves.removalMarked (hm : Moves env s a s')
    (hok : RequestsKept a s) (h : RemovalMarked s) : RemovalMarked s' := by
  intro hrem
  have hmarked (hsame : s'.place = s.place) : s'.conn.state = .markedForDestruction :=
    hm.marked hok (h ((congrArg Prod.snd hsame).symm.trans hrem))
  cases hm with
  | unregister reason => rfl
  | destroy hth hl hrem' => cases hrem
  | connect addr data => exact hmarked (by unfold rcConnConnect; split <;> rfl)
  | reconnect addr data reason =>
    refine hmarked ?_
    unfold rcConnReconnect
    split
    · rfl
    · exact sendDisconnect_place reason s
  | disconnect reason => exact hmarked (rcConnDisconnect_place reason s)
  | pollErr | pollIn | pollConnect | tcpEstablished => exact hmarked rfl
  | tick hth hl hrem' =>
    rw [show s.toRemove = true from hrem] at hrem'
    cases hrem'
  | recv caller retry input hth =>
    refine hmarked ?_
    unfold recvStep
    dsimp only
    split_ifs <;> rfl
  | parse caller recvRes retry s' hth hs =>
    refine hmarked ?_
    obtain ⟨-, rfl⟩ | ⟨-, -, rfl⟩ | ⟨-, -, ⟨-, rfl⟩ | ⟨-, rfl⟩⟩ := parseStep_cases env hs <;> rfl
  | process r caller recvRes hth => exact hmarked (processMessage_place r.now s)
  | socketError r caller err hth => exact hmarked (handleSocketError_place err s)
  | tickLock r hth => exact hmarked (processConnectionState_place r s)
  | deliver action caller recvRes event hth hnext
  | deliverRetry action caller recvRes event hth hnext | errorDeliver action caller event hth
  | pollDeliver action event hth | tickDeliver action event hth =>
    exact hmarked (deliverEventCallback_place event action s)

/-! ### Requests are kept -/

theorem rcConnDisconnect_ok {reason : UInt16} (h : (rcConnDisconnect reason s).2 = .ok) :
    s.conn.state ≠ .markedForDestruction ∧ ((rcConnDisconnect reason s).1.conn.state = .notStarted ∨
        (rcConnDisconnect reason s).1.conn.state = .disconnectPending) ∧
      (rcConnDisconnect reason s).1.thread = s.thread ∧ (rcConnDisconnect reason s).1.place = s.place := by
  unfold rcConnDisconnect at h ⊢
  by_cases hst : s.conn.state = .notStarted ∨ s.conn.state = .markedForDestruction
  · rw [if_pos hst] at h
    cases h
  · rw [if_neg hst]
    refine ⟨fun hm => hst (.inr hm), ?_, by simp, sendDisconnect_place reason s⟩
    dsimp only
    split
    · exact .inl rfl
    · exact .inr rfl

/-- **A request to disconnect or to unregister is never lost.**  From every state that is reached:
once `rc_conn_disconnect` has returned `kEtcPalErrOk`, until the application asks for a connection
again, no `connected` callback is delivered and no Client Connect is sent, and when a tick that
began after it is over the connection is down; once `rc_conn_unregister` has been called, the
connection stays marked for destruction. -/
theorem requests_never_lost (env : ConnEnv β ι) (buf : β) (connData : BrokerClientConnectMsg)
    (now : Nat) {s : Sys β ι} (h : Runs (connStep env) RequestsKept (rcConnRegister env buf connData now) s) :
    (∀ reason, RequestsKept (.disconnect reason) s → (rcConnDisconnect reason s).2 = .ok →
      (∀ s', Runs (connStep env) KeptUnasked (rcConnDisconnect reason s).1 s' →
        Adds Obs.NotUp (rcConnDisconnect reason s).1 s') ∧
      (∀ t t' s', Runs (connStep env) (fun a x => RequestsKept a x ∧ a.leavesAlone = true)
          (rcConnDisconnect reason s).1 t → connStep env .tick t = some t' →
        Runs (connStep env) (fun a x => RequestsKept a x ∧ a.leavesAlone = true) t' s' →
        s'.thread = .idle → s'.conn.state = .notStarted)) ∧
    (∀ reason s', Runs (connStep env) RequestsKept (rcConnUnregister reason s) s' →
      s'.conn.state = .markedForDestruction) := by
  have hrem : RemovalMarked s :=
    Runs.keeps (fun a t t' hok ht hs => (connStep_moves env hs).removalMarked hok ht) h nofun
  refine ⟨fun reason hok hdis => ?_, fun reason s' hrun => ?_⟩
  · obtain ⟨hmark, hst, hth, hto⟩ := rcConnDisconnect_ok hdis
    refine ⟨fun s' hrun => ?_, fun t t' s' hrun htick hrun' hidle => ?_⟩
    · have hup : GivenUp (rcConnDisconnect reason s).1 (rcConnDisconnect reason s).1 :=
        ⟨hst.imp_right .inl, by rw [hth]; exact hok, .same rfl⟩
      exact (Runs.keeps (fun a t t' hok ht hs => (connStep_moves env hs).givenUp hok ht) hrun hup).adds
    · have hstays : (rcConnDisconnect reason s).1.toRemove = false := by
        rw [show (rcConnDisconnect reason s).1.toRemove = s.toRemove from congrArg Prod.snd hto]
        exact Bool.eq_false_iff.mpr fun hr => hmark (hrem hr)
      have hend : Ending False t :=
        Runs.keeps (fun a t t' hok ht hs => (connStep_moves env hs).ending hok.1 hok.2 ht) hrun
          ⟨hstays, hst.imp_right fun h => ⟨h, False.elim⟩⟩
      have hend' : Ending True t' := by
        cases connStep_moves env htick with
        | destroy hth hl hr => rw [hend.stays] at hr; cases hr
        | tick hth hl hr => exact ⟨hend.stays, hend.ends.imp_right fun h => ⟨h.1, fun _ => rfl⟩⟩
      have hlast : Ending True s' :=
        Runs.keeps (fun a t t' hok ht hs => (connStep_moves env hs).ending hok.1 hok.2 ht) hrun'
          hend'
      refine hlast.ends.resolve_right fun hb => ?_
      rw [hidle] at hb
      cases hb.2 trivial
  · exact Runs.keeps (I := fun t => t.conn.state = .markedForDestruction)
      (fun a t t' hok ht hs => (connStep_moves env hs).marked hok ht) hrun rfl

/-- A connection that is up is given up. -/
theorem requests_never_lost_up : ∃ s, Runs (connStep (msgBufEnv .reference)) RequestsKept sampleConn s ∧
      s.conn.state = .heartbeat ∧ (rcConnDisconnect 0 s).2 = .ok ∧
      ∀ s', Runs (connStep (msgBufEnv .reference)) KeptUnasked (rcConnDisconnect 0 s).1 s' →
        Adds Obs.NotUp (rcConnDisconnect 0 s).1 s' := by
  obtain ⟨s, hr, hx⟩ := Runs.exists_of_play (s := sampleConn) (connStep (msgBufEnv .reference))
    RequestsKept (fun s => (s.conn.state, s.thread.event.isConnected, (rcConnDisconnect 0 s).2))
    (.heartbeat, false, .ok) connectActions (by decide +kernel)
  simp only [Prod.mk.injEq] at hx
  exact ⟨s, hr, hx.1, hx.2.2, ((requests_never_lost _ _ _ _ hr).1 0 hx.2.1 hx.2.2).1⟩

def sampleInProgress : Sys RecvBuf (List RecvRes) :=
  played (connStep (msgBufEnv .reference)) anyStep
    (.connect default default :: quietTick (slowConnect 0)) sampleConn (by decide +kernel)

def sampleEstablished : Sys RecvBuf (List RecvRes) :=
  played (connStep (msgBufEnv .reference)) (fun a _ => a.asksConnection = false)
    [.pollConnect, .lock (fastConnect 0)] (rcConnDisconnect 0 sampleInProgress).1 (by decide +kernel)

/-- The handshake goes on although the connection was given up: a Client Connect is sent, and the
connection waits for the reply. -/
theorem disconnect_lost : Runs (connStep (msgBufEnv .reference)) anyStep sampleConn sampleInProgress ∧
      (rcConnDisconnect 0 sampleInProgress).2 = .ok ∧
      Runs (connStep (msgBufEnv .reference)) (fun a _ => a.asksConnection = false)
        (rcConnDisconnect 0 sampleInProgress).1 sampleEstablished ∧ sampleEstablished.trace =
        (rcConnDisconnect 0 sampleInProgress).1.trace ++ [.sentClientConnect default] ∧
      sampleEstablished.conn.state = .rdmnetConnPending :=
  ⟨.played _ _, by decide +kernel, .played _ _, by decide +kernel, by decide +kernel⟩

end RDMnet
