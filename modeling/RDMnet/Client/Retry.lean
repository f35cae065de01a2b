import RDMnet.Client.Steps
import RDMnet.Conn.Requests

/-!
# What the application is told about retries

`connect_failed` and `disconnected` tell the application with `will_retry` whether the client goes on
trying.  The callbacks of the connection come to this from whether the connection accepts their own
request, and from the monitor, which shows how things stand only if the connection has not moved on since
it left the state that is told; and the application may change the scope once more before it is told.
-/

namespace RDMnet

open RCClientScope

variable {β ι : Type} {env : ClientEnv β ι} {data : ClientData}

/-! ### What is told, and when it is true -/

def ConnState.Trying (st : ConnState) : Prop :=
  st = .connectPending ∨ st = .backoff ∨ st = .tcpConnPending ∨ st = .rdmnetConnPending ∨
    st = .reconnectPending

instance (st : ConnState) : Decidable st.Trying := inferInstanceAs (Decidable (_ ∨ _))

theorem ConnState.Halted.not_trying {st : ConnState} (h : st.Halted) : ¬ st.Trying := by
  rcases h with rfl | rfl | rfl <;> decide

theorem ConnState.Halted.ne_heartbeat {st : ConnState} (h : st.Halted) : st ≠ .heartbeat := by
  rcases h with rfl | rfl | rfl <;> decide

def ClientCallback.willRetry : ClientCallback → Option Bool
  | .connectFailed info => some info.willRetry
  | .disconnected info => some info.willRetry
  | _ => none

namespace RCClientScope

def Tries (sc : RCClientScope β ι) : Prop :=
  sc.conn.conn.state.Trying ∨ sc.monitorHandle.isSome = true

instance (sc : RCClientScope β ι) : Decidable sc.Tries := inferInstanceAs (Decidable (_ ∨ _))

/-- `will_retry` of the callback that the application is about to get. -/
def promised (sc : RCClientScope β ι) : Option Bool := sc.telling.bind (·.willRetry)

/-- It is true: the client tries, or it does not and is not connected. -/
def TellsTruth (sc : RCClientScope β ι) : Prop :=
  ∀ willRetry ∈ sc.promised,
    if willRetry then sc.Tries else ¬ sc.Tries ∧ sc.conn.conn.state ≠ .heartbeat

/-- The scope is to be told of the end of a connection or of an attempt while it is retried with
discovery on, or the connection has not been started again since. -/
def NotifiesTruly (sc : RCClientScope β ι) : Prop :=
  match sc.conn.thread.event with
  | .connectFailed info =>
    connectFailedWillRetry info.event info.rdmnetReason = true ∧ sc.monitorHandle.isSome = true ∨
      sc.conn.conn.state.Halted
  | .disconnected info =>
    disconnectedWillRetry info.event info.rdmnetReason = true ∧ sc.monitorHandle.isSome = true ∨
      sc.conn.conn.state.Halted
  | _ => True

instance (sc : RCClientScope β ι) : Decidable sc.NotifiesTruly := by
  delta NotifiesTruly
  rcases sc.conn.thread.event with _ | _ <;> (dsimp only; infer_instance)

/-- `rc_client_change_scope` finds the connection in a state in which it accepts the request. -/
def Asks (sc : RCClientScope β ι) : Prop :=
  if sc.state = .discovery ∨ sc.state = .inactive then sc.conn.conn.state.Accepts
  else ¬ sc.conn.conn.state.Halted

instance (sc : RCClientScope β ι) : Decidable sc.Asks := by
  unfold Asks
  infer_instance

def TriesDiscovered (monitor : Except EtcPalErr Nat) (sc : RCClientScope β ι) : Prop :=
  monitor.isOk = true ∨
    ¬ (sc.state = .connecting ∨ sc.state = .connected) ∧ sc.conn.conn.state.Trying

instance (monitor : Except EtcPalErr Nat) (sc : RCClientScope β ι) :
    Decidable (sc.TriesDiscovered monitor) := inferInstanceAs (Decidable (_ ∨ _))

def TriesAfter (env : ClientEnv β ι) (k : ScopeCall) (sc : RCClientScope β ι) : Prop :=
  match k with
  | .remove _ => False
  | .change config _ monitor =>
    if sc.sameConfig env config ∨ sc.state = .markedForDestruction then sc.Tries
    else if config.staticBrokerAddr.ip.isNone then sc.TriesDiscovered monitor
    else sc.Asks ∨ sc.conn.conn.state.Trying
  | .changeSearchDomain _ monitor =>
    if sc.handle.isSome ∧ sc.state ≠ .markedForDestruction ∧ sc.monitorHandle.isSome then
      sc.TriesDiscovered monitor
    else sc.Tries

instance (k : ScopeCall) (sc : RCClientScope β ι) : Decidable (sc.TriesAfter env k) := by
  delta TriesAfter
  rcases k with _ | _ <;> (dsimp only; infer_instance)

/-- A call of the application leaves the client trying exactly if the application is about to be told
so. -/
def KeepsWord (env : ClientEnv β ι) (k : ScopeCall) (sc : RCClientScope β ι) : Prop :=
  ∀ willRetry ∈ sc.promised, willRetry = true ↔ sc.TriesAfter env k

instance (k : ScopeCall) (sc : RCClientScope β ι) : Decidable (sc.KeepsWord env k) := by
  unfold KeepsWord
  infer_instance

end RCClientScope

/-- Scope `i` is told of an event of its connection. -/
def ClientAction.Notifies (a : ClientAction β ι) (i : Nat) : Prop :=
  match a with
  | .event j .notify => i = j
  | _ => False

instance (a : ClientAction β ι) (i : Nat) : Decidable (a.Notifies i) := by
  delta ClientAction.Notifies
  rcases a with _ | _ | _ | _ | _ | ⟨j, _ | _⟩ | _ <;> (dsimp only; infer_instance)

/-- An event of a connection is told while the connection has not moved on, and the application does not
change a scope behind the callback that it is about to get. -/
def ToldInTime (env : ClientEnv β ι) (a : ClientAction β ι) (c : RCClient β ι) : Prop :=
  ∀ i < c.scopes.length, ∀ sc ∈ c.scopes[i]?,
    (∀ k ∈ c.calls a i, sc.KeepsWord env k) ∧ (a.Notifies i → sc.NotifiesTruly)

instance (a : ClientAction β ι) (c : RCClient β ι) : Decidable (ToldInTime env a c) := by
  unfold ToldInTime
  infer_instance

/-! ### Requests to the connection -/

theorem rcConnConnect_trying {s : Sys β ι} (h : s.conn.state.Accepts) (addr : RedirectAddr)
    (msg : BrokerClientConnectMsg) : (rcConnConnect addr msg s).1.conn.state.Trying := by
  rcases h with h | h <;> simp [rcConnConnect, h, ConnState.Trying]

theorem rcConnReconnect_trying {s : Sys β ι} (h : ¬ s.conn.state.Halted) (addr : RedirectAddr)
    (msg : BrokerClientConnectMsg) (reason : UInt16) :
    (rcConnReconnect addr msg reason s).1.conn.state.Trying := by
  unfold rcConnReconnect
  rw [if_neg (by simpa [ConnState.Halted, or_comm, or_left_comm] using h)]
  dsimp only
  split <;> simp [ConnState.Trying]

theorem rcConnReconnect_refused {s : Sys β ι} (h : s.conn.state.Halted) (addr : RedirectAddr)
    (msg : BrokerClientConnectMsg) (reason : UInt16) : rcConnReconnect addr msg reason s = (s, .sys) := by
  unfold rcConnReconnect
  rw [if_pos (by simpa [ConnState.Halted, or_comm, or_left_comm] using h)]

theorem rcConnDisconnect_halted (reason : UInt16) (s : Sys β ι) :
    (rcConnDisconnect reason s).1.conn.state.Halted := by
  unfold rcConnDisconnect
  split
  · rename_i h
    rcases h with h | h
    · exact .inl h
    · exact .inr (.inr h)
  · dsimp only
    split
    · exact .inl rfl
    · exact .inr (.inl rfl)

variable (env data) in
theorem askConnection_tries (sc : RCClientScope β ι) (addr : EtcPalSockAddr) (reason : UInt16) :
    ((sc.askConnection env data addr (some reason)).1.conn.state.Trying ↔ sc.Asks ∨ sc.conn.conn.state.Trying) ∧
      ((sc.askConnection env data addr (some reason)).1.conn.state = .heartbeat →
        sc.conn.conn.state = .heartbeat) := by
  unfold askConnection RCClientScope.Asks
  dsimp only
  split
  · by_cases hacc : sc.conn.conn.state.Accepts
    · have htry := rcConnConnect_trying hacc addr.remote (connectMsg env data sc.id)
      refine ⟨by simp [htry, hacc], fun hheart => ?_⟩
      rw [hheart] at htry
      exact absurd htry (by decide)
    · rw [rcConnConnect_refused hacc]
      simp [hacc]
  · by_cases hhalt : sc.conn.conn.state.Halted
    · rw [rcConnReconnect_refused hhalt]
      simp [hhalt]
    · have htry := rcConnReconnect_trying hhalt addr.remote (connectMsg env data sc.id) reason
      refine ⟨by simp [htry, hhalt], fun hheart => ?_⟩
      rw [hheart] at htry
      exact absurd htry (by decide)

namespace RCClientScope

variable {sc sc' : RCClientScope β ι}

/-! ### Calls of the application -/

theorem startScopeDiscovery_tries {sc₀ : RCClientScope β ι} (monitor : Except EtcPalErr Nat)
    (hmonitor : sc.monitorHandle = none)
    (hconn : if sc₀.state = .connecting ∨ sc₀.state = .connected then sc.conn.conn.state.Halted
      else sc.conn.conn.state = sc₀.conn.conn.state) :
    ((sc.startScopeDiscovery monitor).1.Tries ↔ sc₀.TriesDiscovered monitor) ∧
      ((sc.startScopeDiscovery monitor).1.conn.conn.state = .heartbeat →
        sc₀.conn.conn.state = .heartbeat) := by
  have hheart : sc.conn.conn.state = .heartbeat → sc₀.conn.conn.state = .heartbeat := by
    intro hheart
    split at hconn
    · exact absurd hheart hconn.ne_heartbeat
    · exact hconn.symm.trans hheart
  cases monitor with
  | ok handle =>
    have hok : (Except.ok handle : Except EtcPalErr Nat).isOk = true := rfl
    exact ⟨by simp [startScopeDiscovery, Tries, TriesDiscovered, hok], hheart⟩
  | error res =>
    have herr : (Except.error res : Except EtcPalErr Nat).isOk = false := rfl
    refine ⟨?_, hheart⟩
    simp only [startScopeDiscovery, Tries, TriesDiscovered, hmonitor, herr, Option.isSome_none,
      Bool.false_eq_true, or_false, false_or]
    split at hconn
    · rename_i hst
      simp [hst, hconn.not_trying]
    · rename_i hst
      simp [hst, hconn]

theorem disconnectIfStarted_conn (reason : UInt16) (sc : RCClientScope β ι) :
    if sc.state = .connecting ∨ sc.state = .connected then
      (sc.disconnectIfStarted reason).conn.conn.state.Halted
    else (sc.disconnectIfStarted reason).conn.conn.state = sc.conn.conn.state := by
  unfold disconnectIfStarted
  split
  · exact rcConnDisconnect_halted reason sc.conn
  · rfl

@[simp] theorem disconnectIfStarted_monitorHandle (reason : UInt16) (sc : RCClientScope β ι) :
    (sc.disconnectIfStarted reason).monitorHandle = sc.monitorHandle := by
  unfold disconnectIfStarted
  split <;> rfl

@[simp] theorem disconnectIfStarted_telling (reason : UInt16) (sc : RCClientScope β ι) :
    (sc.disconnectIfStarted reason).telling = sc.telling := by
  unfold disconnectIfStarted
  split <;> rfl

variable (env) in
theorem call_tries (data : ClientData) (k : ScopeCall) (sc : RCClientScope β ι) :
    ((sc.call env data k).Tries ↔ sc.TriesAfter env k) ∧
      ((sc.call env data k).conn.conn.state = .heartbeat → sc.conn.conn.state = .heartbeat) := by
  cases k with
  | remove reason =>
    refine ⟨iff_of_false ?_ not_false, fun h => (by cases h)⟩
    rintro (h | h)
    · exact absurd h (by simp [call, remove, markScopeForDestruction, rcConnUnregister,
        ConnState.Trying])
    · cases h
  | change config reason monitor =>
    unfold call TriesAfter change
    dsimp only
    by_cases hsame : sc.sameConfig env config = true
    · simp [hsame]
    by_cases hst : sc.state = .markedForDestruction
    · simp [hsame, hst]
    have hnew : ¬ (sc.sameConfig env config = true ∨ sc.state = .markedForDestruction) := by
      simp [hsame, hst]
    rw [if_neg hsame, if_neg hst, if_neg hnew]
    by_cases hip : config.staticBrokerAddr.ip.isNone = true
    · rw [if_pos hip, if_pos hip]
      exact startScopeDiscovery_tries monitor (disconnectIfStarted_monitorHandle reason _)
        (disconnectIfStarted_conn reason (sc.reconfigure config))
    · rw [if_neg hip, if_neg hip]
      obtain ⟨htry, hheart⟩ := askConnection_tries env data (sc.reconfigure config) config.staticBrokerAddr reason
      refine ⟨?_, hheart⟩
      unfold Tries
      exact ⟨fun h => htry.mp (h.resolve_right (fun h => by cases h)), fun h => .inl (htry.mpr h)⟩
  | changeSearchDomain reason monitor =>
    unfold call TriesAfter changeSearchDomain
    dsimp only
    split
    · exact startScopeDiscovery_tries monitor rfl (disconnectIfStarted_conn reason sc)
    · exact ⟨Iff.rfl, fun h => h⟩

theorem call_telling (data : ClientData) (k : ScopeCall) (sc : RCClientScope β ι) :
    (sc.call env data k).telling = sc.telling := by
  cases k with
  | remove reason => rfl
  | change config reason monitor =>
    unfold call change
    dsimp only
    split
    · rfl
    · split
      · rfl
      · split
        · cases monitor <;> exact disconnectIfStarted_telling reason _
        · rfl
  | changeSearchDomain reason monitor =>
    unfold call changeSearchDomain
    dsimp only
    split
    · cases monitor <;> exact disconnectIfStarted_telling reason _
    · rfl

/-- **A call of the application** between the decision and the callback leaves what is told true exactly
if it leaves the client trying when that is what is told. -/
theorem call_tellsTruth_iff (h : sc.TellsTruth) (data : ClientData) (k : ScopeCall) :
    (sc.call env data k).TellsTruth ↔ sc.KeepsWord env k := by
  obtain ⟨htries, hheart⟩ := call_tries env data k sc
  have hpromised : (sc.call env data k).promised = sc.promised := by
    unfold promised
    rw [call_telling]
  unfold TellsTruth KeepsWord
  rw [hpromised]
  refine forall_congr' fun willRetry => forall_congr' fun hw => ?_
  have htold := h willRetry hw
  cases willRetry with
  | true => simpa using htries
  | false =>
    simp only [Bool.false_eq_true, if_false, false_iff] at htold ⊢
    rw [htries]
    exact ⟨fun h => h.1, fun hno => ⟨hno, fun hh => htold.2 (hheart hh)⟩⟩

/-! ### The decision -/

theorem retryOrGiveUp_truth_iff (willRetry : Bool) {next : RCClientScope β ι → RCClientScope β ι}
    (hnext : ∀ sc, (next sc).monitorHandle = sc.monitorHandle) (sc : RCClientScope β ι) :
    (if (retryOrGiveUp env data willRetry next sc).2 then (retryOrGiveUp env data willRetry next sc).1.Tries
      else ¬ (retryOrGiveUp env data willRetry next sc).1.Tries ∧
        (retryOrGiveUp env data willRetry next sc).1.conn.conn.state ≠ .heartbeat) ↔
      (willRetry = true ∧ sc.monitorHandle.isSome = true ∨ sc.conn.conn.state.Halted) := by
  have hgive : ∀ sc : RCClientScope β ι, (¬ (giveUp sc).Tries ∧
      (giveUp sc).conn.conn.state ≠ .heartbeat) ↔ sc.conn.conn.state.Halted := by
    intro sc
    have hconn : (giveUp sc).conn = sc.conn := rfl
    unfold Tries
    rw [hconn]
    cases sc.conn.conn.state <;> simp [giveUp, clearDiscoveredBrokerInfo, stopMonitoring,
      ConnState.Trying, ConnState.Halted]
  cases willRetry with
  | false => simpa [retryOrGiveUp] using hgive sc
  | true =>
    by_cases hmonitor : sc.monitorHandle.isSome = true
    · -- discovery goes on, whatever comes of an attempt
      have hkept : (retry env data next sc).1.monitorHandle = sc.monitorHandle := by
        unfold retry
        rw [if_pos hmonitor]
        dsimp only
        split
        · rw [(attemptConnectionOnListenAddrs_keeps (next sc)).monitorHandle, hnext]
        · rfl
      have htrue : (retry env data next sc).2 = true := by
        unfold retry
        rw [if_pos hmonitor]
      have htries : (retry env data next sc).1.Tries := .inr (by rw [hkept]; exact hmonitor)
      simp [retryOrGiveUp, htrue, htries, hmonitor]
    · have hstart : retry env data next sc =
          ((sc.startConnectionForScope env data sc.staticBrokerAddr none).1,
            decide ((sc.startConnectionForScope env data sc.staticBrokerAddr none).2 = .ok)) := by
        unfold retry
        rw [if_neg hmonitor]
      by_cases hacc : sc.conn.conn.state.Accepts
      · have htries : (sc.startConnectionForScope env data sc.staticBrokerAddr none).1.Tries := by
          rw [startConnectionForScope_accepted hacc]
          exact .inl (rcConnConnect_trying hacc _ _)
        have hhalt : sc.conn.conn.state.Halted := hacc.elim .inl fun h => .inr (.inl h)
        have hok : (sc.startConnectionForScope env data sc.staticBrokerAddr none).2 = .ok := by
          rw [startConnectionForScope_accepted hacc]
        simp [retryOrGiveUp, hstart, hok, htries, hhalt]
      · have hgive' := hgive { sc with refused := sc.refused + 1 }
        simp [retryOrGiveUp, hstart, startConnectionForScope_refused hacc, hmonitor]
        simpa using hgive'

theorem TellsTruth.of_silent (h : sc.promised = none) : sc.TellsTruth := by
  intro willRetry hw
  rw [h] at hw
  cases hw

theorem tellsTruth_of_promised {willRetry : Bool} (h : sc.promised = some willRetry) :
    sc.TellsTruth ↔
      if willRetry then sc.Tries else ¬ sc.Tries ∧ sc.conn.conn.state ≠ .heartbeat := by
  constructor
  · exact fun ht => ht willRetry h
  · intro ht w hw
    rw [h] at hw
    cases hw
    exact ht

/-- **The callback of a connection** tells the truth exactly if the connection has not moved on, or
discovery goes on. -/
theorem notify_tellsTruth_iff (hs : sc.notify env data = some sc') (htelling : sc.telling = none) :
    sc'.TellsTruth ↔ sc.NotifiesTruly := by
  unfold notify at hs
  unfold NotifiesTruly
  cases hevent : sc.conn.thread.event with
  | none => simp [hevent] at hs
  | connected info =>
    rw [hevent] at hs
    cases hs
    exact iff_of_true (.of_silent rfl) trivial
  | connectFailed info =>
    rw [hevent] at hs
    cases hs
    have hnext : ∀ sc : RCClientScope β ι, (nextListenAddr sc).monitorHandle = sc.monitorHandle :=
      fun _ => rfl
    exact (tellsTruth_of_promised rfl).trans (retryOrGiveUp_truth_iff _ hnext sc)
  | disconnected info =>
    rw [hevent] at hs
    cases hs
    exact (tellsTruth_of_promised rfl).trans
      (retryOrGiveUp_truth_iff (disconnectedWillRetry info.event info.rdmnetReason) (fun _ => rfl) _)
  | msgReceived message =>
    rw [hevent] at hs
    dsimp only at hs
    refine iff_of_true (.of_silent ?_) trivial
    split at hs
    · rename_i told htold
      cases hs
      -- a message is not about a connection
      unfold conncbMsgReceived at htold
      split at htold
      · cases htold
      · split at htold
        · cases htold
          rfl
        · split at htold <;> cases htold
          rfl
    · obtain ⟨conn, -, rfl⟩ := Option.map_eq_some_iff.mp hs
      simp [promised, htelling]

/-- **One step of the thread.** -/
theorem step_tellsTruth {e : ScopeEvent ι} (hok : e = .notify → sc.NotifiesTruly)
    (hs : sc.step env data e = some sc') : sc'.TellsTruth := by
  have hsilent : sc'.telling = none → sc'.TellsTruth := fun h => .of_silent (by simp [promised, h])
  unfold step at hs
  cases e with
  | brokerFound info copied =>
    dsimp only at hs
    split at hs <;> cases hs
    rename_i hidle
    exact hsilent ((monitorcbBrokerFound_keeps info copied sc).telling.trans hidle.1.2)
  | brokerUpdated info copied =>
    dsimp only at hs
    split at hs <;> cases hs
    rename_i hidle
    exact hsilent ((monitorcbBrokerUpdated_keeps info copied sc).telling.trans hidle.1.2)
  | brokerLost =>
    dsimp only at hs
    split at hs <;> cases hs
    rename_i hidle
    exact hsilent ((monitorcbBrokerLost_keeps sc).telling.trans hidle.1.2)
  | connection a =>
    dsimp only at hs
    split at hs
    · rename_i hthread
      obtain ⟨conn, -, rfl⟩ := Option.map_eq_some_iff.mp hs
      exact hsilent hthread.1
    · cases hs
  | visit =>
    dsimp only at hs
    split at hs <;> cases hs
    rename_i hidle
    exact hsilent hidle.1.2
  | notify =>
    dsimp only at hs
    split at hs
    · exact (notify_tellsTruth_iff hs ‹_›).mpr (hok rfl)
    · cases hs
  | callback action =>
    dsimp only [callback] at hs
    split at hs
    · cases hs
    · obtain ⟨conn, -, rfl⟩ := Option.map_eq_some_iff.mp hs
      exact hsilent rfl

end RCClientScope

namespace RCClient

variable {c : RCClient β ι}

/-- **`will_retry` tells the truth** whenever the application is called, in every run in which the events
of the connections are told in time. -/
theorem will_retry_true (env : ClientEnv β ι) (data : ClientData) (createLlrpTarget : Bool)
    (hr : Runs (step env) (ToldInTime env) (rcRptClientRegister data createLlrpTarget) c)
    (sc : RCClientScope β ι) (hsc : sc ∈ c.scopes) : sc.TellsTruth := by
  obtain ⟨i, hi⟩ := List.getElem?_of_mem hsc
  have hlt : ∀ {c : RCClient β ι} {sc : RCClientScope β ι}, c.scopes[i]? = some sc →
      i < c.scopes.length := fun h => (List.getElem?_eq_some_iff.mp h).1
  refine scope_keeps (P := TellsTruth) i ?_ ?_ ?_ ?_ ?_ hr ?_ sc hi
  · exact fun r => .of_silent rfl
  · intro data config handle r sc _
    exact .of_silent (by simp [promised, newScope_fresh])
  · intro a c sc k data hok hsc hcall h
    exact (call_tellsTruth_iff h data k).mpr ((hok i (hlt hsc) sc hsc).1 k hcall)
  · intro e c sc sc' hok hsc _ hs
    refine step_tellsTruth ?_ hs
    rintro rfl
    exact (hok i (hlt hsc) sc hsc).2 rfl
  · exact fun sc h _ => h
  · intro sc hsc
    simp [rcRptClientRegister] at hsc

/-- A scope that is connected gets another static broker: the connection has started its next attempt when
the end of the old connection is told, so that its own request is refused and the application hears that
the client does not retry. -/
theorem will_retry_false_while_trying :
    ∃ c, Runs (step sampleClientEnv) anyStep (rcRptClientRegister sampleClientData false) c ∧
      ∃ sc ∈ c.scopes, ¬ sc.TellsTruth := by
  obtain ⟨c, hr, sc, hmem, hsc⟩ := exists_scope_of_play anyStep
    (fun sc => (sc.promised, sc.conn.conn.state)) (some false, .tcpConnPending)
    (sampleIsUp ++ sampleMoved :: sampleConnection [.tick, .recv [], .lock (slowConnect 0)] ++
      [.event 0 .notify])
    (by decide +kernel)
  obtain ⟨hpromised, hst⟩ := Prod.mk.inj hsc
  refine ⟨c, hr, sc, hmem, fun h => ?_⟩
  have hfalse := (h false hpromised).1
  exact hfalse (.inl (by rw [hst]; decide))

/-- A TCP connection that fails is retried, and the application is told so. -/
theorem will_retry_true_unreachable : ∃ c, Runs (step sampleClientEnv) (ToldInTime sampleClientEnv)
        (rcRptClientRegister sampleClientData false) c ∧
      ∃ sc ∈ c.scopes, sc.promised = some true ∧ sc.TellsTruth := by
  obtain ⟨c, hr, sc, hmem, hsc⟩ := exists_scope_of_play (ToldInTime sampleClientEnv)
    (·.promised) (some true)
    (.addScope sampleStatic (sampleAdded 0) ::
      sampleConnection [.tick, .recv [], .lock { fastConnect 0 with connect := .hostUnreach }] ++
      [.event 0 .notify])
    (by decide +kernel)
  exact ⟨c, hr, sc, hmem, hsc, will_retry_true sampleClientEnv sampleClientData false hr sc hmem⟩

end RCClient

end RDMnet
