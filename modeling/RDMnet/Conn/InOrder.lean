import RDMnet.Conn.Receive

/-!
# Messages in order

A connection that is up parses one message at a time into its receive buffer and offers it to the
application, which may ask for it again.  `Offers` reads the trace of such a connection: what was
parsed, what was offered, and which message waits for an answer.  The invariant says where the thread
keeps that message: in the buffer, with the flag `retry_current_message`, in the local variable of
`receive_and_process_messages`, or in the event that is about to be delivered.
-/

namespace RDMnet

open List

variable {pal : EtcPal} {s s' : Sys RecvBuf (List RecvRes)}

/-! ### What was offered -/

inductive Offer
  /-- `rc_msg_buf_parse_data` returned this message. -/
  | parsed (message : RdmnetMessage)
  /-- `message_received` was called with this message, and what it returned. -/
  | answered (message : RdmnetMessage) (action : MessageAction)
  deriving DecidableEq

def Obs.offer {ι : Type} : Obs ι → Option Offer
  | .parsed m => some (.parsed m)
  | .messageReceived m action => some (.answered m action)
  | _ => none

/-- The message, if it was parsed and is not consumed by the connection itself. -/
def Offer.forApplication : Offer → Option RdmnetMessage
  | .parsed m => if m.Internal then none else some m
  | .answered _ _ => none

def Offer.processed : Offer → Option RdmnetMessage
  | .answered m .processNext => some m
  | _ => none

/-- One message after another is parsed, and offered until it is accepted; `waiting` is the one that
has not been accepted. -/
inductive Offers : List Offer → Option RdmnetMessage → Prop
  | nil : Offers [] none
  | consumed {l : List Offer} {m : RdmnetMessage} (h : Offers l none) (hint : m.Internal) :
      Offers (l ++ [.parsed m]) none
  | parsed {l : List Offer} {m : RdmnetMessage} (h : Offers l none) (hint : ¬ m.Internal) :
      Offers (l ++ [.parsed m]) (some m)
  | later {l : List Offer} {m : RdmnetMessage} (h : Offers l (some m)) :
      Offers (l ++ [.answered m .retryLater]) (some m)
  | next {l : List Offer} {m : RdmnetMessage} (h : Offers l (some m)) :
      Offers (l ++ [.answered m .processNext]) none

variable {l : List Offer} {waiting : Option RdmnetMessage}

theorem Offers.accepted (h : Offers l waiting) :
    l.filterMap Offer.forApplication = l.filterMap Offer.processed ++ waiting.toList := by
  induction h with
  | nil => rfl
  | consumed h hint ih | parsed h hint ih =>
    simp [filterMap_append, ih, Offer.forApplication, Offer.processed, hint]
  | later h ih | next h ih =>
    simpa [filterMap_append, filterMap_cons, Offer.forApplication, Offer.processed] using ih

theorem Offers.external {m : RdmnetMessage} (h : Offers l waiting) (hw : waiting = some m) : ¬ m.Internal := by
  induction h with
  | nil | consumed | next => cases hw
  | parsed h hint ih =>
    cases hw
    exact hint
  | later h ih => exact ih hw

theorem Offers.waits {pre : List Offer} {m : RdmnetMessage}
    (h : Offers l waiting) (hl : l = pre ++ [.answered m .retryLater]) : waiting = some m := by
  cases h with
  | nil => simp at hl
  | consumed | parsed | next => simpa using (append_inj' hl rfl).2
  | later h =>
    obtain ⟨rfl, -⟩ := by simpa using (append_inj' hl rfl).2
    rfl

/-- A message that the application asked for again is the next thing it gets, unchanged and before
anything else is parsed. -/
def OfferedAgain (l : List Offer) : Prop :=
  ∀ pre m post, l = pre ++ .answered m .retryLater :: post →
    post = [] ∨ ∃ action post', post = .answered m action :: post'

theorem OfferedAgain.snoc {x : Offer} (h : OfferedAgain l)
    (hx : ∀ pre m, l = pre ++ [.answered m .retryLater] → ∃ action, x = .answered m action) :
    OfferedAgain (l ++ [x]) := by
  intro pre m post hl
  rcases eq_nil_or_concat' post with rfl | ⟨post', y, rfl⟩
  · exact .inl rfl
  · rw [← cons_append, ← append_assoc] at hl
    obtain ⟨rfl, hy⟩ := append_inj' hl rfl
    obtain rfl : x = y := by simpa using hy
    right
    rcases h pre m post' rfl with rfl | ⟨action, post'', rfl⟩
    · obtain ⟨action, rfl⟩ := hx pre m rfl
      exact ⟨action, [], rfl⟩
    · exact ⟨action, post'' ++ [x], rfl⟩

theorem Offers.again (h : Offers l waiting) : OfferedAgain l := by
  induction h with
  | nil => exact fun pre m post hl => by simp at hl
  | consumed h hint ih | parsed h hint ih => exact ih.snoc fun pre m hl => nomatch h.waits hl
  | later h ih | next h ih =>
    refine ih.snoc fun pre m hl => ?_
    cases h.waits hl
    exact ⟨_, rfl⟩

/-! ### Where the message is that waits -/

/-- The message that waits is the one in the buffer, if `retry` says that there is one. -/
def Kept (retry : Bool) (b : RecvBuf) (waiting : Option RdmnetMessage) : Prop :=
  waiting = if retry then some b.msg.1 else none

/-- What a connection that is up knows about the message that waits, where `flag` is
`retry_current_message`. -/
def Thread.Waits (flag : Bool) (b : RecvBuf) (waiting : Option RdmnetMessage) : Thread → Prop
  | .receive _ retry => Kept retry b waiting
  | .parse _ _ retry => Kept retry b waiting
  | .process _ _ => Kept (!decide b.msg.1.Internal) b waiting
  | .deliver _ _ event =>
    Kept event.isMsg b waiting ∧ (event.isMsg = true → event = .msgReceived b.msg.1)
  -- the connection does not stay up from here
  | .socketError _ _ => True
  | .tcpEstablished => True
  | .errorDeliver _ _ => False
  | .tickDeliver event => Kept flag b waiting ∧ event.isMsg = false
  | .tickLock => Kept flag b waiting
  | .idle => Kept flag b waiting

/-- Since the trace was `seen`, messages were offered one after another, and the thread has the one
that waits. -/
structure Orderly (seen : List (Obs (List RecvRes))) (s : Sys RecvBuf (List RecvRes)) : Prop where
  state : s.conn.state = .heartbeat
  order : ∃ new waiting, s.trace = seen ++ new ∧ Offers (new.filterMap Obs.offer) waiting ∧
    s.thread.Waits s.conn.retryCurrentMessage s.conn.recvBuf waiting

variable {seen : List (Obs (List RecvRes))}

theorem Orderly.offers (h : Orderly seen s) (hst : s'.conn.state = .heartbeat)
    (l : List (Obs (List RecvRes))) (htr' : s'.trace = s.trace ++ l)
    (hwaits : ∀ offered waiting, Offers offered waiting →
      s.thread.Waits s.conn.retryCurrentMessage s.conn.recvBuf waiting →
      ∃ waiting', Offers (offered ++ l.filterMap Obs.offer) waiting' ∧
        s'.thread.Waits s'.conn.retryCurrentMessage s'.conn.recvBuf waiting') : Orderly seen s' := by
  obtain ⟨new, waiting, htr, hoff, hw⟩ := h.order
  obtain ⟨waiting', hoff', hw'⟩ := hwaits _ _ hoff hw
  refine ⟨hst, new ++ l, waiting', by rw [htr', htr, append_assoc], ?_, hw'⟩
  rwa [filterMap_append]

theorem Orderly.goes (h : Orderly seen s) (hst : s'.conn.state = .heartbeat)
    (hadds : Adds (fun o => o.offer = none) s s')
    (hwaits : ∀ waiting, s.thread.Waits s.conn.retryCurrentMessage s.conn.recvBuf waiting →
      s'.thread.Waits s'.conn.retryCurrentMessage s'.conn.recvBuf waiting) : Orderly seen s' := by
  obtain ⟨l, htr, hl⟩ := hadds
  refine h.offers hst l htr fun offered waiting hoff hw => ⟨waiting, ?_, hwaits waiting hw⟩
  rwa [filterMap_eq_nil_iff.mpr hl, append_nil]

theorem finishReceive_waits (caller : Caller) (action : MessageAction)
    (s : Sys RecvBuf (List RecvRes)) (waiting : Option RdmnetMessage) :
    (finishReceive caller action s).thread.Waits (finishReceive caller action s).conn.retryCurrentMessage
        s.conn.recvBuf waiting ↔ Kept (decide (action = .retryLater)) s.conn.recvBuf waiting := by
  cases caller <;> rfl

/-! ### Steps of a connection that stays up -/

def RemainsUp (pal : EtcPal) (a : Action (List RecvRes)) (s : Sys RecvBuf (List RecvRes)) : Prop :=
  ((connStep (msgBufEnv pal) a s).all fun s' =>
    decide (s'.conn.state = .heartbeat ∧ s'.listed ≠ .removed)) = true

instance (a : Action (List RecvRes)) (s : Sys RecvBuf (List RecvRes)) :
    Decidable (RemainsUp pal a s) :=
  inferInstanceAs (Decidable (_ = true))

variable {a : Action (List RecvRes)}

theorem RemainsUp.result (h : RemainsUp pal a s) (hs : connStep (msgBufEnv pal) a s = some s') :
    s'.conn.state = .heartbeat ∧ s'.listed ≠ .removed := by
  unfold RemainsUp at h
  rw [hs] at h
  simpa using h

variable {caller : Caller}

theorem recvStep_orderly {retry : Bool} (h : Orderly seen s)
    (hth : s.thread = .receive caller retry) (input : List RecvRes) :
    Orderly seen (recvStep (msgBufEnv pal) caller retry input s) := by
  refine h.goes ((recvStep_state caller retry input s).trans h.state)
    (recvStep_adds (fun _ _ => rfl) caller retry input s) fun waiting hw => ?_
  rw [hth] at hw
  unfold recvStep
  dsimp only
  split
  · exact hw
  · rename_i hgo
    split
    · exact trivial
    · -- nothing to read and nothing to retry
      have hretry : retry = false := Bool.eq_false_iff.mpr fun hr => hgo (.inr hr)
      rw [hretry] at hw
      exact (finishReceive_waits caller .processNext _ waiting).mpr hw

variable {recvRes : EtcPalErr}

theorem parseStep_orderly {retry : Bool} (h : Orderly seen s) (hth : s.thread = .parse caller recvRes retry)
    (hs : parseStep (msgBufEnv pal) caller recvRes retry s = some s') : Orderly seen s' := by
  rcases parseStep_cases (msgBufEnv pal) hs with
    ⟨rfl, rfl⟩ | ⟨rfl, -, rfl⟩ | ⟨rfl, -, ⟨-, rfl⟩ | ⟨-, rfl⟩⟩
  · -- the message to retry goes to `process_message` as it is
    refine h.offers h.state [] (append_nil _).symm fun offered waiting hoff hw => ?_
    rw [hth] at hw
    have hw : waiting = some s.conn.recvBuf.msg.1 := hw
    refine ⟨waiting, by rwa [filterMap_nil, append_nil], ?_⟩
    simp [Thread.Waits, Kept, hw, hoff.external hw]
  · -- nothing waits: a message is parsed
    refine h.offers h.state [.parsed _] rfl fun offered waiting hoff hw => ?_
    rw [hth] at hw
    cases (hw : waiting = none)
    by_cases hint : ((msgBufEnv pal).rcMsgBufParseData s.conn.recvBuf).1.msg.1.Internal
    · exact ⟨none, .consumed hoff hint, by simp [Thread.Waits, Kept, hint]⟩
    · exact ⟨some _, .parsed hoff hint, by simp [Thread.Waits, Kept, hint]; rfl⟩
  · refine h.goes h.state (.same rfl) fun waiting hw => ?_
    rw [hth] at hw
    exact hw
  · refine h.goes h.state (.same rfl) fun waiting hw => ?_
    rw [hth] at hw
    exact (finishReceive_waits caller .processNext _ waiting).mpr hw

theorem process_orderly (h : Orderly seen s) (hth : s.thread = .process caller recvRes) (now : Nat)
    (hup : (processMessage (msgBufEnv pal) now s).1.conn.state = .heartbeat) :
    Orderly seen { (processMessage (msgBufEnv pal) now s).1 with
      thread := .deliver caller recvRes (processMessage (msgBufEnv pal) now s).2 } := by
  have hmsg : processMessage (msgBufEnv pal) now s = handleRdmnetMessage (msgBufEnv pal) now
      (s.emit (.handled s.conn.recvBuf.msg.1)) := by
    simp [processMessage, handleMessage, h.state, msgBufEnv]
  rw [hmsg] at hup ⊢
  rcases handleRdmnetMessage_cases pal now (s.emit (.handled s.conn.recvBuf.msg.1)) with
    ⟨-, -, hres⟩ | ⟨hint, -, hres⟩ | ⟨hint, hres⟩ <;> rw [hres] at hup ⊢
  · -- after a Disconnect the connection is not up
    cases hup
  · refine h.goes h.state ⟨[.handled s.conn.recvBuf.msg.1, .freed], append_assoc .., ?_⟩ ?_
    · simp [Obs.offer]
    · intro waiting hw
      rw [hth] at hw
      have hint : s.conn.recvBuf.msg.1.Internal := hint
      simp only [Thread.Waits, Kept, hint, decide_true, Bool.not_true] at hw
      exact ⟨hw, by rintro ⟨⟩⟩
  · refine h.goes h.state (.one (.handled s.conn.recvBuf.msg.1) rfl rfl) fun waiting hw => ?_
    rw [hth] at hw
    have hint : ¬ s.conn.recvBuf.msg.1.Internal := hint
    simp only [Thread.Waits, Kept, hint, decide_false, Bool.not_false] at hw
    exact ⟨hw, fun _ => rfl⟩

variable {event : RCConnEvent}

theorem deliver_orderly
    {action : MessageAction} (h : Orderly seen s) (hth : s.thread = .deliver caller recvRes event)
    (hnext : (deliverEventCallback (msgBufEnv pal) event action s).2 = .processNext) :
    Orderly seen { (deliverEventCallback (msgBufEnv pal) event action s).1 with
      thread := .parse caller recvRes false } := by
  cases event with
  | msgReceived m =>
    cases (hnext : action = .processNext)
    refine h.offers h.state [.messageReceived m .processNext, .freed] (append_assoc ..)
      fun offered waiting hoff hw => ?_
    rw [hth] at hw
    obtain ⟨hkept, hev⟩ := hw
    cases hev rfl
    have hkept : waiting = some s.conn.recvBuf.msg.1 := hkept
    rw [hkept] at hoff
    exact ⟨none, .next hoff, rfl⟩
  | none =>
    refine h.goes h.state (.same rfl) fun waiting hw => ?_
    rw [hth] at hw
    exact hw.1
  | _ =>
    refine h.goes h.state (.one _ rfl rfl) fun waiting hw => ?_
    rw [hth] at hw
    exact hw.1

theorem deliverRetry_orderly
    {action : MessageAction} (h : Orderly seen s) (hth : s.thread = .deliver caller recvRes event)
    (hnext : (deliverEventCallback (msgBufEnv pal) event action s).2 = .retryLater) :
    Orderly seen (finishReceive caller .retryLater (deliverEventCallback (msgBufEnv pal) event action s).1) := by
  cases event with
  | msgReceived m =>
    cases (hnext : action = .retryLater)
    refine h.offers h.state [.messageReceived m .retryLater] rfl fun offered waiting hoff hw => ?_
    rw [hth] at hw
    obtain ⟨hkept, hev⟩ := hw
    cases hev rfl
    have hkept : waiting = some s.conn.recvBuf.msg.1 := hkept
    rw [hkept] at hoff
    exact ⟨some _, .later hoff, (finishReceive_waits caller .retryLater _ _).mpr rfl⟩
  | _ => cases hnext

theorem tickLock_orderly (h : Orderly seen s) (hth : s.thread = .tickLock) (r : SocketRes)
    (hup : (processConnectionState (msgBufEnv pal) r s).1.conn.state = .heartbeat) :
    Orderly seen { (processConnectionState (msgBufEnv pal) r s).1 with
      thread := .tickDeliver (processConnectionState (msgBufEnv pal) r s).2 } := by
  unfold processConnectionState at hup ⊢
  simp only [h.state] at hup ⊢
  split at hup
  · cases hup
  · rename_i hexp
    rw [if_neg hexp]
    split
    · refine h.goes rfl (.one .sentNull rfl rfl) fun waiting hw => ?_
      rw [hth] at hw
      exact ⟨hw, rfl⟩
    · refine h.goes h.state (.same rfl) fun waiting hw => ?_
      rw [hth] at hw
      exact ⟨hw, rfl⟩

theorem tickDeliver_orderly (h : Orderly seen s) (hth : s.thread = .tickDeliver event) (action : MessageAction) :
    Orderly seen { (deliverEventCallback (msgBufEnv pal) event action s).1 with thread := .idle } := by
  cases event with
  | msgReceived m =>
    obtain ⟨new, waiting, -, -, hw⟩ := h.order
    rw [hth] at hw
    cases hw.2
  | none =>
    refine h.goes h.state (.same rfl) fun waiting hw => ?_
    rw [hth] at hw
    exact hw.1
  | _ =>
    refine h.goes h.state (.one _ rfl rfl) fun waiting hw => ?_
    rw [hth] at hw
    exact hw.1

theorem Moves.orderly (hm : Moves (msgBufEnv pal) s a s')
    (hup : s'.conn.state = .heartbeat) (hl : s'.listed ≠ .removed) (h : Orderly seen s) : Orderly seen s' := by
  have hst := h.state
  cases hm with
  | connect addr data =>
    have hrefused : (rcConnConnect addr data s).1 = s := by simp [rcConnConnect, hst]
    rw [hrefused]
    exact h
  | reconnect addr data reason => simp [rcConnReconnect, hst] at hup
  | disconnect reason => simp [rcConnDisconnect, hst] at hup
  | unregister | tcpEstablished => cases hup
  | pollErr | pollConnect => exact h.goes hst (.same rfl) fun _ _ => trivial
  | pollIn hth hp | tick hth hl' hrem =>
    refine h.goes hst (.same rfl) fun waiting hw => ?_
    rw [hth] at hw
    exact hw
  | destroy hth hl' hrem => exact absurd rfl hl
  | recv caller retry input hth => exact recvStep_orderly h hth input
  | parse caller recvRes retry s' hth hs => exact parseStep_orderly h hth hs
  | process r caller recvRes hth => exact process_orderly h hth r.now hup
  | socketError r caller err hth => simp [handleSocketError, hst, resetConnection] at hup
  | tickLock r hth => exact tickLock_orderly h hth r hup
  | deliver action caller recvRes event hth hnext => exact deliver_orderly h hth hnext
  | deliverRetry action caller recvRes event hth hnext => exact deliverRetry_orderly h hth hnext
  | errorDeliver action caller event hth | pollDeliver action event hth =>
    obtain ⟨new, waiting, -, -, hw⟩ := h.order
    rw [hth] at hw
    exact hw.elim
  | tickDeliver action event hth => exact tickDeliver_orderly h hth action

/-! ### How a connection comes up -/

variable {β ι : Type}

theorem startTcpConnection_not_up {env : ConnEnv β ι} (r : SocketRes) (s : Sys β ι)
    (event : RCConnEvent) : (startTcpConnection env r s event).1.conn.state ≠ .heartbeat := by
  unfold startTcpConnection
  split
  · exact nofun
  · dsimp only
    split_ifs <;> exact nofun

theorem startConnection_not_up {env : ConnEnv β ι} (r : SocketRes) (s : Sys β ι)
    (event : RCConnEvent) : (startConnection env r s event).1.conn.state ≠ .heartbeat := by
  unfold startConnection
  split
  · exact nofun
  · exact startTcpConnection_not_up r s event

theorem processConnectionState_not_up {env : ConnEnv β ι} (r : SocketRes) {s : Sys β ι}
    (h : s.conn.state ≠ .heartbeat) : (processConnectionState env r s).1.conn.state ≠ .heartbeat := by
  unfold processConnectionState
  split
  · exact startConnection_not_up r s .none
  · split
    · exact startTcpConnection_not_up r s .none
    · exact h
  · split
    · exact nofun
    · exact h
  · exact absurd ‹_› h
  · exact startConnection_not_up r _ _
  · exact nofun
  · exact h

theorem processMessage_up {env : ConnEnv β ι} {now : Nat} {s : Sys β ι} (hdown : s.conn.state ≠ .heartbeat)
    (hup : (processMessage env now s).1.conn.state = .heartbeat) :
    ∃ info, (processMessage env now s).2 = .connected info := by
  rcases processMessage_cases env now s with ⟨-, heq⟩ | ⟨hst, -⟩ | ⟨-, -, heq⟩
  · rw [heq] at hup ⊢
    have hup : (connectResult env now (s.emit (.handled (env.msg s.conn.recvBuf)))).1.conn.state =
      .heartbeat := hup
    show ∃ info, (connectResult env now (s.emit (.handled (env.msg s.conn.recvBuf)))).2 =
      .connected info
    unfold connectResult at hup ⊢
    dsimp only at hup ⊢
    split
    · rename_i hkind
      split
      · exact ⟨_, rfl⟩
      · rename_i hrefused
        simp only [hkind, if_neg hrefused] at hup
        cases hup
    all_goals simp only [*] at hup
    · cases hup
    · cases hup
    · exact absurd hup hdown
  · exact absurd hst hdown
  · rw [heq] at hup
    exact absurd hup hdown

theorem Moves.comesUp (hm : Moves (msgBufEnv pal) s a s')
    (hdown : s.conn.state ≠ .heartbeat) (hup : s'.conn.state = .heartbeat) : Orderly s'.trace s' := by
  cases hm with
  | process r caller recvRes hth =>
    obtain ⟨info, hev⟩ := processMessage_up hdown hup
    refine ⟨hup, [], none, (append_nil _).symm, .nil, ?_⟩
    rw [hev]
    exact ⟨rfl, nofun⟩
  | connect addr data =>
    unfold rcConnConnect at hup
    split at hup
    · exact absurd hup hdown
    · dsimp only at hup
      split at hup <;> cases hup
  | reconnect addr data reason =>
    unfold rcConnReconnect at hup
    split at hup
    · exact absurd hup hdown
    · dsimp only at hup
      split at hup <;> cases hup
  | disconnect reason =>
    unfold rcConnDisconnect at hup
    split at hup
    · exact absurd hup hdown
    · dsimp only at hup
      split at hup <;> cases hup
  | unregister | tcpEstablished => cases hup
  | pollErr | pollIn | pollConnect | tick => exact absurd hup hdown
  | destroy hth hl hrem =>
    simp only [destroyConnection, cleanupConnectionResources_eq, emit_conn] at hup
    exact absurd hup hdown
  | recv caller retry input hth => exact absurd ((recvStep_state ..).symm.trans hup) hdown
  | parse caller recvRes retry s' hth hs => exact absurd ((parseStep_state hs).symm.trans hup) hdown
  | socketError r caller err hth =>
    unfold handleSocketError at hup
    dsimp only at hup
    split at hup
    · cases hup
    · cases hup
    · cases hup
    · exact absurd hup hdown
  | tickLock r hth => exact absurd hup (processConnectionState_not_up r hdown)
  | deliver | deliverRetry | errorDeliver | pollDeliver | tickDeliver =>
    exact absurd ((deliverEventCallback_state ..).symm.trans hup) hdown

/-- **In-order exactly-once processing with retries.**  From the moment a connection comes up, and as
long as it stays up: what the application accepted is, in order, the first part of the messages that
were parsed and not consumed internally, and a message that it asked for again is the next one it
gets, the same and before anything else is parsed. -/
theorem messages_in_order (pal : EtcPal) {s₀ s₁ s : Sys RecvBuf (List RecvRes)}
    {a : Action (List RecvRes)} (hdown : s₀.conn.state ≠ .heartbeat)
    (hcomes : connStep (msgBufEnv pal) a s₀ = some s₁) (hup : s₁.conn.state = .heartbeat)
    (h : Runs (connStep (msgBufEnv pal)) (RemainsUp pal) s₁ s) :
    ∃ new, s.trace = s₁.trace ++ new ∧ (new.filterMap Obs.offer).filterMap Offer.processed <+:
        (new.filterMap Obs.offer).filterMap Offer.forApplication ∧ OfferedAgain (new.filterMap Obs.offer) := by
  have hstart := (connStep_moves _ hcomes).comesUp hdown hup
  have hend : Orderly s₁.trace s := by
    refine Runs.keeps (fun b t t' hok ht hs => ?_) h hstart
    obtain ⟨hst, hl⟩ := hok.result hs
    exact (connStep_moves _ hs).orderly hst hl ht
  obtain ⟨new, waiting, htr, hoff, -⟩ := hend.order
  exact ⟨new, htr, ⟨_, hoff.accepted.symm⟩, hoff.again⟩

/-- A Connect Reply is about to be handled; then a Connected Client List comes, which the application
accepts at the third time, and a second one, which it accepts at once. -/
theorem messages_in_order_retried : ∃ s₀ s₁ s : Sys RecvBuf (List RecvRes), (s₀.conn.state ≠ .heartbeat ∧
        connStep (msgBufEnv .reference) (.lock (fastConnect 0)) s₀ = some s₁ ∧ s₁.conn.state = .heartbeat) ∧
      Runs (connStep (msgBufEnv .reference)) (RemainsUp .reference) s₁ s ∧
      ∃ new, s.trace = s₁.trace ++ new ∧ (new.filterMap Obs.offer).filterMap Offer.processed <+:
          (new.filterMap Obs.offer).filterMap Offer.forApplication ∧ OfferedAgain (new.filterMap Obs.offer) := by
  obtain ⟨s₀, -, hx⟩ := Runs.exists_of_play (s := sampleConn) (connStep (msgBufEnv .reference))
    anyStep
    (fun s => (s.conn.state, (connStep (msgBufEnv .reference) (.lock (fastConnect 0)) s).map
      fun s₁ => (s₁.conn.state, (play (connStep (msgBufEnv .reference)) (RemainsUp .reference)
        ([.deliver .processNext, .parse, .recv [], .lock (fastConnect 0), .deliver .processNext,
          .tick, .recv (recvBytes (sampleList ++ sampleList)), .parse, .lock (fastConnect 0),
          .deliver .retryLater, .lock (fastConnect 0), .deliver .processNext,
          .tick, .recv [], .parse, .lock (fastConnect 0), .deliver .retryLater,
          .lock (fastConnect 0), .deliver .processNext,
          .tick, .recv [], .parse, .lock (fastConnect 0), .deliver .processNext, .parse,
          .lock (fastConnect 0), .deliver .processNext]) s₁).isSome)))
    (.rdmnetConnPending, some (.heartbeat, true))
    (.connect default default :: quietTick (fastConnect 0) ++
      [.tick, .recv (recvBytes sampleReply), .parse]) (by decide +kernel)
  obtain ⟨hpending, hmap⟩ := Prod.mk.inj hx
  obtain ⟨s₁, hcomes, hy⟩ := Option.map_eq_some_iff.mp hmap
  obtain ⟨hup, hplay⟩ := Prod.mk.inj hy
  have hdown : s₀.conn.state ≠ .heartbeat := by
    rw [hpending]
    exact nofun
  have hrun := Runs.played _ hplay
  exact ⟨s₀, s₁, _, ⟨hdown, hcomes, hup⟩, hrun, messages_in_order .reference hdown hcomes hup hrun⟩

end RDMnet
