import RDMnet.Client.Steps
import RDMnet.Conn.Requests

/-!
# Removing a scope

Once the application has removed a scope, nothing should be heard of it any more.  The callbacks of a
connection take the client's lock after the connection has released it, and three of them then write the
state of the scope without a look at what it is; and a TCP connection that comes up is taken further
whatever the state of the connection.  A removal is final if it does not fall into these gaps.
-/

namespace RDMnet

open List

variable {β ι : Type} {env : ClientEnv β ι}

/-! ### What is expected, and when it holds -/

/-- A connection attempt: a TCP connection is started, or a Client Connect message is sent. -/
def Obs.Attempt : Obs ι → Prop
  | .connecting _ _ => True
  | .sentClientConnect _ => True
  | _ => False

namespace RCClientScope

/-- Since the application removed the scope it is marked, no connection attempt was started for it and
no callback was called. -/
def RemovedForGood (sc : RCClientScope β ι) : Prop :=
  ∀ n, sc.removed = some n →
    sc.state = .markedForDestruction ∧ (∀ o ∈ sc.conn.trace.drop n, ¬ o.Attempt) ∧ sc.late = []

/-- No callback is on its way to the application: the connection has not left a change of its state to
be told, and the application is not about to be called. -/
def Untold (sc : RCClientScope β ι) : Prop :=
  sc.telling = none ∧ sc.conn.thread.event.notice = none

instance (sc : RCClientScope β ι) : Decidable sc.Untold := inferInstanceAs (Decidable (_ ∧ _))

end RCClientScope

/-- A scope is removed while no callback is on its way, and the TCP connection of a scope that was removed
is not reported established. -/
def RemovesQuietly (a : ClientAction β ι) (c : RCClient β ι) : Prop :=
  match a with
  | .removeScope handle _ => ∀ sc ∈ c.scopes, sc.handle = some handle → sc.Untold
  | .unregister _ => ∀ sc ∈ c.scopes, sc.handle.isSome = true → sc.Untold
  | .event i (.connection (.lock _)) =>
    ∀ sc ∈ c.scopes[i]?, sc.conn.thread = .tcpEstablished → sc.removed = none
  | _ => True

instance (a : ClientAction β ι) (c : RCClient β ι) : Decidable (RemovesQuietly a c) := by
  delta RemovesQuietly
  rcases a with _ | _ | _ | _ | _ | ⟨i, _ | _ | _ | ⟨_ | _⟩ | _⟩ | _ <;>
    (dsimp only; infer_instance)

/-! ### A marked connection -/

theorem deliverEventCallback_attempts (event : RCConnEvent) (action : MessageAction) (s : Sys β ι) :
    Adds (fun o => ¬ o.Attempt) s (deliverEventCallback env.conn event action s).1 := by
  cases event with
  | none => exact .same rfl
  | connected info => exact .one (.connected info) rfl id
  | connectFailed info => exact .one (.connectFailed info) rfl id
  | disconnected info => exact .one (.disconnected info) rfl id
  | msgReceived message =>
    have htold : Adds (fun o => ¬ o.Attempt) s (s.emit (.messageReceived message action)) :=
      .one (.messageReceived message action) rfl id
    cases action with
    | processNext => exact htold.trans (.one .freed rfl id)
    | retryLater => exact htold

def Action.TakesUp (a : Action ι) (s : Sys β ι) : Prop :=
  match a with
  | .lock _ => s.thread = .tcpEstablished
  | _ => False

/-- A connection that is marked, with nothing to tell. -/
structure Sys.Dead (s : Sys β ι) : Prop where
  marked : s.conn.state = .markedForDestruction
  untold : s.thread.event.notice = none

theorem Sys.Dead.moves {a : Action ι} {s s' : Sys β ι} (hm : Moves env.conn s a s') (h : s.Dead)
    (hup : ¬ a.TakesUp s) : s'.Dead ∧ Adds (fun o => ¬ o.Attempt) s s' := by
  have hhalt : s.conn.state.Halted := .inr (.inr h.marked)
  cases hm with
  | connect addr data =>
    have hsame : (rcConnConnect addr data s).1 = s := by simp [rcConnConnect, h.marked]
    rw [hsame]
    exact ⟨h, .same rfl⟩
  | reconnect addr data reason =>
    have hsame : (rcConnReconnect addr data reason s).1 = s := by simp [rcConnReconnect, h.marked]
    rw [hsame]
    exact ⟨h, .same rfl⟩
  | disconnect reason =>
    have hsame : (rcConnDisconnect reason s).1 = s := by simp [rcConnDisconnect, h.marked]
    rw [hsame]
    exact ⟨h, .same rfl⟩
  | unregister reason =>
    have hsend : ∀ reason, sendDisconnect reason s = s := by simp [sendDisconnect, h.marked]
    cases reason <;> simp only [rcConnUnregister, hsend] <;> exact ⟨⟨rfl, h.untold⟩, .same rfl⟩
  | pollErr | pollIn | pollConnect | tick => exact ⟨⟨h.marked, rfl⟩, .same rfl⟩
  | destroy hth hl hrem =>
    refine ⟨⟨by simpa [destroyConnection, cleanupConnectionResources_eq] using h.marked,
      by simpa [destroyConnection, cleanupConnectionResources_eq] using h.untold⟩, ?_⟩
    exact (clearConnection_adds env.conn (fun _ => id) id s).trans
      (.one .destroyed (by simp [destroyConnection, cleanupConnectionResources_eq]) id)
  | recv caller retry input hth =>
    exact ⟨⟨(recvStep_state _ _ _ _).trans h.marked, by rw [recvStep_event]; rfl⟩,
      recvStep_adds (fun _ _ => id) _ _ _ _⟩
  | parse caller recvRes retry s' hth hs =>
    exact ⟨⟨(parseStep_state hs).trans h.marked, by rw [parseStep_event hs]; rfl⟩,
      parseStep_adds (fun _ => id) hs⟩
  | process r caller recvRes hth =>
    rw [processMessage_halted hhalt]
    exact ⟨⟨h.marked, rfl⟩, .same rfl⟩
  | socketError r caller err hth =>
    rw [handleSocketError_halted hhalt]
    exact ⟨⟨h.marked, rfl⟩, .same rfl⟩
  | tcpEstablished r hth => exact absurd hth hup
  | tickLock r hth =>
    obtain ⟨-, heq⟩ | ⟨hst, -⟩ := processConnectionState_halted env.conn hhalt r
    · rw [heq]
      exact ⟨⟨h.marked, rfl⟩, .same rfl⟩
    · rw [h.marked] at hst
      cases hst
  | deliver action caller recvRes event hth hnext | pollDeliver action event hth
  | tickDeliver action event hth =>
    exact ⟨⟨by simpa using h.marked, rfl⟩,
      (deliverEventCallback_attempts event action s).trans (.same rfl)⟩
  | deliverRetry action caller recvRes event hth hnext | errorDeliver action caller event hth =>
    exact ⟨⟨by simpa [finishReceive] using h.marked, by rw [finishReceive_event]; rfl⟩,
      (deliverEventCallback_attempts event action s).trans (.same rfl)⟩

/-! ### The invariant -/

namespace RCClientScope

variable {sc sc' : RCClientScope β ι}

/-- The scope was removed when the trace of its connection had length `n`, and nothing is left of it. -/
structure Gone (n : Nat) (sc : RCClientScope β ι) : Prop where
  state : sc.state = .markedForDestruction
  dead : sc.conn.Dead
  telling : sc.telling = none
  late : sc.late = []
  attempts : ∀ o ∈ sc.conn.trace.drop n, ¬ o.Attempt

def GoneIfRemoved (sc : RCClientScope β ι) : Prop := ∀ n, sc.removed = some n → sc.Gone n

theorem GoneIfRemoved.of_none (h : sc.removed = none) : sc.GoneIfRemoved := by
  intro n hn
  rw [h] at hn
  cases hn

theorem removed_of_identity (h : sc'.identity = sc.identity) : sc'.removed = sc.removed :=
  congrArg (fun x => x.2.1) h

theorem GoneIfRemoved.next (h : sc.GoneIfRemoved) (hid : sc'.identity = sc.identity)
    (hgone : ∀ n, sc.Gone n → sc'.Gone n) : sc'.GoneIfRemoved :=
  fun n hn => hgone n (h n ((removed_of_identity hid).symm.trans hn))

theorem drop_adds {P : Obs ι → Prop} {s s' : Sys β ι} {n : Nat} (hadds : Adds P s s')
    (h : ∀ o ∈ s.trace.drop n, P o) : ∀ o ∈ s'.trace.drop n, P o := by
  obtain ⟨new, htrace, hnew⟩ := hadds
  intro o ho
  rw [htrace, drop_append] at ho
  rcases mem_append.mp ho with ho | ho
  · exact h o ho
  · exact hnew o (mem_of_mem_drop ho)

theorem Gone.moveConnection {n : Nat} {a : Action ι} (h : sc.Gone n)
    (hs : sc.moveConnection env a = some sc') (hup : ¬ a.TakesUp sc.conn) : sc'.Gone n := by
  obtain ⟨conn, hconn, rfl⟩ := Option.map_eq_some_iff.mp hs
  obtain ⟨hdead, hadds⟩ := h.dead.moves (connStep_moves env.conn hconn) hup
  exact ⟨h.state, hdead, h.telling, h.late, drop_adds hadds h.attempts⟩

theorem moveConnection_identity {a : Action ι} (hs : sc.moveConnection env a = some sc') :
    sc'.identity = sc.identity := by
  obtain ⟨conn, -, rfl⟩ := Option.map_eq_some_iff.mp hs
  rfl

theorem remove_gone (h : sc.GoneIfRemoved) (hu : sc.Untold) (reason : UInt16) :
    (sc.remove reason).GoneIfRemoved := by
  have hdead : ∀ s : Sys β ι, s.thread.event.notice = none →
      (rcConnUnregister (some reason) s).Dead := fun s hs => ⟨rfl, by simpa [rcConnUnregister] using hs⟩
  intro n hn
  cases hrem : sc.removed with
  | none =>
    have hn' : n = sc.conn.trace.length := by simpa [remove, hrem] using hn.symm
    refine ⟨rfl, hdead _ hu.2, hu.1, by simp [remove, hrem], ?_⟩
    have hadds : Adds (fun o => ¬ o.Attempt) sc.conn (rcConnUnregister (some reason) sc.conn) :=
      (sendDisconnect_adds not_false sc.conn).trans (.same rfl)
    exact drop_adds hadds (by simp [hn'])
  | some m =>
    have hn' : n = m := by simpa [remove, hrem] using hn.symm
    have hgone := h m hrem
    refine ⟨rfl, hdead _ hu.2, hu.1, by simpa [remove, hrem] using hgone.late, ?_⟩
    rw [hn']
    have hadds : Adds (fun o => ¬ o.Attempt) sc.conn (rcConnUnregister (some reason) sc.conn) :=
      (sendDisconnect_adds not_false sc.conn).trans (.same rfl)
    exact drop_adds hadds hgone.attempts

theorem change_gone (h : sc.GoneIfRemoved) (data : ClientData) (config : ScopeConfig)
    (reason : UInt16) (monitor : Except EtcPalErr Nat) :
    (sc.change env data config reason monitor).1.GoneIfRemoved := by
  refine h.next (change_identity config reason monitor sc) fun n hgone => ?_
  unfold change
  rw [if_pos hgone.state]
  split <;> exact hgone

theorem changeSearchDomain_gone (h : sc.GoneIfRemoved) (reason : UInt16)
    (monitor : Except EtcPalErr Nat) : (sc.changeSearchDomain reason monitor).GoneIfRemoved := by
  refine h.next (changeSearchDomain_identity reason monitor sc) fun n hgone => ?_
  unfold changeSearchDomain
  rw [if_neg fun h => h.2.1 hgone.state]
  exact hgone

theorem notify_identity {data : ClientData} (hs : sc.notify env data = some sc') :
    sc'.identity = sc.identity := by
  unfold notify at hs
  split at hs
  · cases hs
  · cases hs
    rfl
  · cases hs
    exact conncbConnectFailed_identity _ sc
  · cases hs
    exact conncbDisconnected_identity _ sc
  · split at hs
    · cases hs
      rfl
    · exact moveConnection_identity hs

theorem Gone.notify {n : Nat} {data : ClientData} (h : sc.Gone n)
    (hs : sc.notify env data = some sc') : sc'.Gone n := by
  have hev := h.dead.untold
  unfold RCClientScope.notify at hs
  cases hevent : sc.conn.thread.event with
  | none => simp [hevent] at hs
  | connected | connectFailed | disconnected => simp [hevent, RCConnEvent.notice] at hev
  | msgReceived message =>
    have hnone : sc.conncbMsgReceived env message = none := by
      simp [conncbMsgReceived, h.state]
    rw [hevent] at hs
    dsimp only at hs
    rw [hnone] at hs
    exact h.moveConnection hs not_false

/-- **One step of the thread.** -/
theorem step_gone {data : ClientData} {e : ScopeEvent ι} (h : sc.GoneIfRemoved)
    (hok : ∀ r, e = .connection (.lock r) → sc.conn.thread = .tcpEstablished → sc.removed = none)
    (hs : sc.step env data e = some sc') : sc'.GoneIfRemoved := by
  unfold RCClientScope.step at hs
  cases e with
  | brokerFound info copied =>
    dsimp only at hs
    split at hs <;> cases hs
    refine h.next (monitorcbBrokerFound_keeps info copied sc).identity fun n hgone => ?_
    rwa [monitorcbBrokerFound_same (.inl hgone.state)]
  | brokerUpdated info copied =>
    dsimp only at hs
    split at hs <;> cases hs
    refine h.next (monitorcbBrokerUpdated_keeps info copied sc).identity fun n hgone => ?_
    rwa [monitorcbBrokerUpdated, if_pos hgone.state]
  | brokerLost =>
    dsimp only at hs
    split at hs <;> cases hs
    refine h.next (monitorcbBrokerLost_keeps sc).identity fun n hgone => ?_
    rwa [monitorcbBrokerLost, if_pos hgone.state]
  | connection a =>
    dsimp only at hs
    split at hs
    · intro n hn
      have hn' := (removed_of_identity (moveConnection_identity hs)).symm.trans hn
      refine (h n hn').moveConnection hs ?_
      cases a with
      | lock r =>
        intro hth
        rw [hok r rfl hth] at hn'
        cases hn'
      | _ => exact not_false
    · cases hs
  | visit =>
    dsimp only at hs
    split at hs <;> cases hs
    exact fun n hn => ⟨(h n hn).state, ⟨(h n hn).dead.marked, rfl⟩, (h n hn).telling, (h n hn).late,
      (h n hn).attempts⟩
  | notify =>
    dsimp only at hs
    split at hs
    · exact h.next (notify_identity hs) fun n hgone => hgone.notify hs
    · cases hs
  | callback action =>
    dsimp only [callback] at hs
    split at hs
    · cases hs
    · rename_i told htold
      intro n hn
      have hn' := (removed_of_identity (moveConnection_identity hs)).symm.trans hn
      have htelling := (h n hn').telling
      rw [htold] at htelling
      cases htelling

end RCClientScope

namespace RCClient

variable {c : RCClient β ι}

theorem untold_of_remove {a : ClientAction β ι} {i : Nat} {sc : RCClientScope β ι} {reason : UInt16}
    (hok : RemovesQuietly a c) (hsc : c.scopes[i]? = some sc)
    (hcall : c.calls a i = some (.remove reason)) : sc.Untold := by
  have hmem := mem_of_getElem? hsc
  cases a with
  | removeScope handle _ =>
    simp only [calls] at hcall
    split at hcall
    · exact hok sc hmem (getScope_handle ‹_› hsc)
    · cases hcall
  | unregister _ =>
    simp only [calls, hsc] at hcall
    split at hcall
    · exact hok sc hmem ‹_›
    · cases hcall
  | changeScope | changeSearchDomain =>
    simp only [calls] at hcall
    split at hcall <;> cases hcall
  | _ => cases hcall

/-- **Removing a scope is final**, in every run in which scopes are removed while no callback is on its
way, and no TCP connection of a removed scope is reported established. -/
theorem removal_final (env : ClientEnv β ι) (data : ClientData) (createLlrpTarget : Bool)
    (hr : Runs (step env) RemovesQuietly (rcRptClientRegister data createLlrpTarget) c)
    (sc : RCClientScope β ι) (hsc : sc ∈ c.scopes) : sc.RemovedForGood := by
  obtain ⟨i, hi⟩ := getElem?_of_mem hsc
  have hgone : sc.GoneIfRemoved := by
    refine scope_keeps (P := RCClientScope.GoneIfRemoved) i ?_ ?_ ?_ ?_ ?_ hr ?_ sc hi
    · exact fun r => .of_none rfl
    · intro data config handle r sc _
      exact .of_none (congrArg (fun x => x.2.1) (newScope_fresh data config handle r sc).1)
    · intro a c sc k data hok hsc hcall h
      have hmem := mem_of_getElem? hsc
      cases k with
      | remove reason =>
        exact RCClientScope.remove_gone h (untold_of_remove hok hsc hcall) reason
      | change config reason monitor => exact RCClientScope.change_gone h data config reason monitor
      | changeSearchDomain reason monitor => exact RCClientScope.changeSearchDomain_gone h reason monitor
    · intro e c sc sc' hok hsc h hs
      refine RCClientScope.step_gone h ?_ hs
      rintro r rfl
      exact hok sc hsc
    · exact fun sc _ _ => .of_none rfl
    · intro sc hsc
      simp [rcRptClientRegister] at hsc
  intro n hn
  exact ⟨(hgone n hn).state, (hgone n hn).attempts, (hgone n hn).late⟩

/-- A scope is removed between the connection's coming up and the callback that tells it: it is connected
again, and the application hears of it. -/
theorem removed_scope_connected :
    ∃ c, Runs (step sampleClientEnv) anyStep (rcRptClientRegister sampleClientData false) c ∧
      ∃ sc ∈ c.scopes, ¬ sc.RemovedForGood := by
  obtain ⟨c, hr, sc, hmem, hsc⟩ := exists_scope_of_play anyStep
    (fun sc => (sc.removed.isSome, sc.state)) (true, .connected)
    (sampleComesUp ++ .removeScope 0 1 :: sampleCallback) (by decide +kernel)
  obtain ⟨hrem, hst⟩ := Prod.mk.inj hsc
  obtain ⟨n, hn⟩ := Option.isSome_iff_exists.mp hrem
  refine ⟨c, hr, sc, hmem, fun h => ?_⟩
  have hmarked := (h n hn).1
  rw [hst] at hmarked
  cases hmarked

/-- A scope is removed after the callback.  The rest of the tick leaves it alone, and the next tick destroys its
connection. -/
theorem removal_final_connected :
    ∃ c, Runs (step sampleClientEnv) RemovesQuietly (rcRptClientRegister sampleClientData false) c ∧
      (∃ sc ∈ c.scopes, (sc.removed.isSome = true ∧ sc.Idle) ∧ sc.RemovedForGood) ∧
      ∃ c', step sampleClientEnv (.event 0 (.connection .tick)) c = some c' ∧ c'.scopes.all (·.handle.isNone) := by
  obtain ⟨c, hr, hx⟩ := Runs.exists_of_play (s := rcRptClientRegister sampleClientData false)
    (step sampleClientEnv) RemovesQuietly
    (fun c => (c.scopes.map fun sc => (sc.removed.isSome, decide sc.Idle),
      (step sampleClientEnv (.event 0 (.connection .tick)) c).map (·.scopes.all (·.handle.isNone))))
    ([(true, true)], some true)
    (sampleComesUp ++ sampleCallback ++ .removeScope 0 1 ::
      sampleConnection [.parse, .recv [], .lock (fastConnect 0), .deliver .processNext]) (by decide +kernel)
  obtain ⟨hscopes, hdestroy⟩ := Prod.mk.inj hx
  obtain ⟨sc, hmem, hsc⟩ := mem_map.mp (hscopes ▸ mem_singleton_self _ :
    (true, true) ∈ c.scopes.map fun sc => (sc.removed.isSome, decide sc.Idle))
  obtain ⟨hremoved, hidle⟩ := Prod.mk.inj hsc
  exact ⟨c, hr, ⟨sc, hmem, ⟨hremoved, of_decide_eq_true hidle⟩,
    removal_final sampleClientEnv sampleClientData false hr sc hmem⟩, Option.map_eq_some_iff.mp hdestroy⟩

end RCClient

end RDMnet
