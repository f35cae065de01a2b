import RDMnet.Broker.DeviceQueue
import RDMnet.Lib.Outbox
import RDMnet.Lib.Runs

/-!
# What a client of the broker is sent

The queues of a client as an `Outbox`: pushing, sending and marking for destruction are operations on
it.  The bytes that the socket takes are a sequence of complete messages as long as no message is left
in the middle; `KeepsOrder` says when a step does so.
-/

namespace RDMnet

open Outbox List RptMsgQ

namespace BrokerClient

/-! ### The queues as an outbox -/

def queue (c : BrokerClient) : Queue → List MessageRef
  | .broker => c.brokerMsgs
  | .status => c.statusMsgs
  | .rpt => c.rptMsgs
  | .of h => c.rptMsgQ.get h

variable (pal : EtcPal)

def packed (msg : Uuid × Outgoing) : Bytes := msg.2.bytes pal msg.1

def ref (m : MessageRef) : Ref UInt8 := ⟨m.id, packed pal m.msg, m.sizeSent⟩

def outbox (c : BrokerClient) : Outbox Queue UInt8 where
  queue := fun q => (c.queue q).map (ref pal)
  offered := c.queued.map (packed pal)
  wire := c.wire

/-- A client has messages only in the queues of its class, and a device sends no status messages. -/
structure WF (c : BrokerClient) : Prop where
  device : c.rptMsgQ.WF
  handles : ∀ h, c.rptMsgQ.get h ≠ [] → h ≠ kInvalidHandle
  notController : c.kind ≠ .controller → c.rptMsgs = []
  notDevice : c.kind ≠ .device → ∀ h, c.rptMsgQ.get h = []
  pending : c.kind = .pending → c.statusMsgs = []
  status : c.kind ≠ .controller → ∀ m ∈ c.statusMsgs, m.sizeSent = 0

variable {pal} {c c' : BrokerClient} {q : Queue} {m : MessageRef}

variable (pal c c') in
theorem outbox_eq {l : List MessageRef} (hq : c'.queue q = l) (hothers : ∀ q' ≠ q, c'.queue q' = c.queue q') :
    (fun q' => (c'.queue q').map (ref pal)) =
      Function.update (fun q' => (c.queue q').map (ref pal)) q (l.map (ref pal)) := by
  funext q'
  by_cases h : q' = q
  · rw [h, Function.update_self, hq]
  · rw [Function.update_of_ne h, hothers q' h]

/-- What is put into a queue goes to its end. -/
structure Puts (put : MessageRef → BrokerClient → BrokerClient) (q : Queue) (c : BrokerClient) :
    Prop where
  queue : ∀ m, (put m c).queue q = c.queue q ++ [m]
  others : ∀ m, ∀ q' ≠ q, (put m c).queue q' = c.queue q'
  wire : ∀ m, (put m c).wire = c.wire
  socket : ∀ m, (put m c).socket = c.socket
  wf : ∀ m : MessageRef, m.sizeSent = 0 → (put m c).WF

variable (pal) in
theorem enqueue_outbox {put : MessageRef → BrokerClient → BrokerClient} (hput : Puts put q c)
    (msg : Uuid × Outgoing) :
    (c.enqueue pal put msg).1.outbox pal =
      if packed pal msg = [] then c.outbox pal else (c.outbox pal).push q (packed pal msg) := by
  unfold enqueue
  split
  · rw [if_pos ‹_›]
  · rw [if_neg ‹_›]
    simp only [outbox, Outbox.push, map_append, map_cons, map_nil, hput.wire,
      length_map, Outbox.mk.injEq, and_true]
    have hput' := outbox_eq pal c _ (hput.queue ⟨c.queued.length, msg, 0⟩)
      (hput.others ⟨c.queued.length, msg, 0⟩)
    simp only [map_append, map_cons, map_nil, ref] at hput'
    exact hput'

theorem puts_broker (hc : c.WF) : Puts putBroker .broker c where
  queue := fun _ => rfl
  others := fun _ q' hq => by cases q' <;> first | exact absurd rfl hq | rfl
  wire := fun _ => rfl
  socket := fun _ => rfl
  wf := fun _ _ => { hc with }

theorem puts_status (hc : c.WF) (hk : c.kind ≠ .pending) : Puts putStatus .status c where
  queue := fun _ => rfl
  others := fun _ q' hq => by cases q' <;> first | exact absurd rfl hq | rfl
  wire := fun _ => rfl
  socket := fun _ => rfl
  wf := fun m hm => by
    refine { hc with pending := fun hk' => absurd hk' hk, status := fun hk m' hm' => ?_ }
    rcases mem_append.mp hm' with hm' | hm'
    · exact hc.status hk m' hm'
    · rw [mem_singleton.mp hm', hm]

theorem puts_rpt (hc : c.WF) (hk : c.kind = .controller) : Puts putRpt .rpt c where
  queue := fun _ => rfl
  others := fun _ q' hq => by cases q' <;> first | exact absurd rfl hq | rfl
  wire := fun _ => rfl
  socket := fun _ => rfl
  wf := fun _ _ => { hc with notController := fun hk' => absurd hk hk' }

theorem puts_from (hc : c.WF) (hk : c.kind = .device) {h : Handle} (hh : h ≠ kInvalidHandle) :
    Puts (putFrom h) (.of h) c where
  queue := fun m => (get_pushBack hc.device).trans (if_pos rfl)
  others := fun m q' hq => by
    cases q' with
    | of h' => exact (get_pushBack hc.device).trans (if_neg fun he => hq (congrArg Queue.of he))
    | _ => rfl
  wire := fun _ => rfl
  socket := fun _ => rfl
  wf := fun m _ => by
    refine { hc with
      device := hc.device.pushBack
      handles := fun h' hne => ?_
      notDevice := fun hk' => absurd hk hk' }
    have hget := get_pushBack (c := h) (v := m) (h := h') hc.device
    by_cases he : h' = h
    · exact he ▸ hh
    · rw [if_neg he] at hget
      exact hc.handles h' (hget ▸ hne)

/-! ### Sound clients -/

/-- The stream of a client is well sent, and as long as its socket is valid it is orderly. -/
structure Sound (pal : EtcPal) (c : BrokerClient) : Prop where
  wf : c.WF
  wellSent : (c.outbox pal).WellSent
  orderly : c.socket.isSome = true → (c.outbox pal).Orderly

theorem Sound.of_orderly (hc : c.WF) (h : (c.outbox pal).Orderly) : Sound pal c :=
  ⟨hc, h.wellSent, fun _ => h⟩

theorem Sound.enqueue {put : MessageRef → BrokerClient → BrokerClient} (h : Sound pal c)
    (hput : Puts put q c) (msg : Uuid × Outgoing) : Sound pal (c.enqueue pal put msg).1 := by
  have hout := enqueue_outbox pal hput msg
  by_cases hmsg : packed pal msg = []
  · have hsame : (c.enqueue pal put msg).1 = c := by
      unfold BrokerClient.enqueue
      exact congrArg Prod.fst (if_pos hmsg)
    rwa [hsame]
  · rw [if_neg hmsg] at hout
    have hc' : (c.enqueue pal put msg).1 =
        { put ⟨c.queued.length, msg, 0⟩ c with queued := c.queued ++ [msg] } := by
      unfold BrokerClient.enqueue
      exact congrArg Prod.fst (if_neg hmsg)
    have hwf := hput.wf ⟨c.queued.length, msg, 0⟩ rfl
    refine ⟨?_, ?_, fun hs => ?_⟩
    · rw [hc']
      exact { hwf with }
    · rw [hout]
      exact h.wellSent.offer [packed pal msg] rfl rfl
    · rw [hout]
      refine (h.orderly ?_).push hmsg
      rw [hc'] at hs
      exact (hput.socket _) ▸ hs

theorem Sound.checked (h : Sound pal c) {r : BrokerClient × ClientPushResult} (hr : Sound pal r.1) :
    Sound pal (c.checked r).1 := by
  unfold BrokerClient.checked
  split
  · exact h
  · split
    · exact h
    · exact hr

theorem Sound.push (h : Sound pal c) (senderCid : Uuid) (msg : BrokerMessage) :
    Sound pal (c.push pal senderCid msg).1 := by
  refine h.checked ?_
  unfold pushPostSizeCheck
  split
  · exact h
  · split
    · exact h.enqueue (puts_broker h.wf) _
    · exact h

theorem Sound.pushStatus (h : Sound pal c) (hk : c.kind ≠ .pending) (senderCid : Uuid)
    (header : RptHeader) (msg : RptStatusMsg) :
    Sound pal (c.pushStatusPostSizeCheck pal senderCid header msg).1 :=
  h.enqueue (puts_status h.wf hk) _

theorem Sound.pushRpt (h : Sound pal c) {fromConn : Handle} (hh : fromConn ≠ kInvalidHandle)
    (senderCid : Uuid) (msg : RptMessage) : Sound pal (c.pushRpt pal fromConn senderCid msg).1 := by
  unfold BrokerClient.pushRpt
  dsimp only
  cases hk : c.kind with
  | pending => exact h
  | controller =>
    refine h.checked ?_
    split
    · split
      · exact h.enqueue (puts_rpt h.wf hk) _
      · exact h
    · split
      · exact h.pushStatus (by rw [hk]; exact nofun) ..
      · split
        · exact h.enqueue (puts_rpt h.wf hk) _
        · exact h
  | device =>
    refine h.checked ?_
    split
    · exact h.pushStatus (by rw [hk]; exact nofun) ..
    · split
      · split
        · exact h.enqueue (puts_from h.wf hk hh) _
        · exact h
      · exact h

/-! ### Destruction -/

theorem clearAllQueues_queue (hc : c.WF) (q : Queue) : c.clearAllQueues.queue q = [] := by
  unfold clearAllQueues
  cases hk : c.kind with
  | pending =>
    cases q with
    | broker => rfl
    | status => exact hc.pending hk
    | rpt => exact hc.notController (by rw [hk]; exact nofun)
    | of h => exact hc.notDevice (by rw [hk]; exact nofun) h
  | controller =>
    cases q with
    | of h => exact hc.notDevice (by rw [hk]; exact nofun) h
    | _ => rfl
  | device =>
    cases q with
    | rpt => exact hc.notController (by rw [hk]; exact nofun)
    | _ => rfl

theorem clearAllQueues_frame (c : BrokerClient) :
    c.clearAllQueues.queued = c.queued ∧ c.clearAllQueues.wire = c.wire ∧
      c.clearAllQueues.socket = c.socket ∧ c.clearAllQueues.kind = c.kind := by
  unfold clearAllQueues
  cases c.kind <;> exact ⟨rfl, rfl, rfl, rfl⟩

theorem clearAllQueues_outbox (hc : c.WF) : c.clearAllQueues.outbox pal = (c.outbox pal).clear := by
  obtain ⟨hq, hw, -⟩ := clearAllQueues_frame c
  simp only [outbox, Outbox.clear, clearAllQueues_queue hc, hq, hw, map_nil]

theorem clearAllQueues_wf (hc : c.WF) : c.clearAllQueues.WF := by
  have hnil := clearAllQueues_queue hc
  refine ⟨?_, fun h hne => absurd (hnil (.of h)) hne, fun _ => hnil .rpt, fun _ h => hnil (.of h),
    fun _ => hnil .status, fun _ m hm => ?_⟩
  · unfold clearAllQueues
    cases c.kind
    · exact hc.device
    · exact hc.device
    · exact wf_init
  · have hs : c.clearAllQueues.statusMsgs = [] := hnil .status
    rw [hs] at hm
    cases hm

theorem Sound.clear (h : Sound pal c) (hno : c.socket = none ∨ ∀ q, ¬ Begun (c.outbox pal) q) :
    Sound pal c.clearAllQueues := by
  refine ⟨clearAllQueues_wf h.wf, ?_, fun hs => ?_⟩
  · rw [clearAllQueues_outbox h.wf]
    exact h.wellSent
  · rw [clearAllQueues_outbox h.wf]
    rw [(clearAllQueues_frame c).2.2.1] at hs
    refine (h.orderly hs).clear (hno.resolve_left fun hn => ?_)
    rw [hn] at hs
    cases hs

/-- Nothing is sent after the socket has become invalid; otherwise no message must have been begun. -/
theorem Sound.mark (h : Sound pal c) (brokerCid : Uuid) (brokerUid : RdmUid)
    (action : ClientDestroyAction) (hno : c.socket = none ∨ action = .markSocketInvalid ∨
      ∀ q, ¬ Begun (c.outbox pal) q) : Sound pal (c.markForDestruction pal brokerCid brokerUid action) := by
  have hmark : ∀ {c' : BrokerClient}, Sound pal c' →
      Sound pal { c' with markedForDestruction := true } := fun h' =>
    ⟨⟨h'.wf.device, h'.wf.handles, h'.wf.notController, h'.wf.notDevice, h'.wf.pending,
      h'.wf.status⟩, h'.wellSent, h'.orderly⟩
  by_cases ha : action = .markSocketInvalid
  · subst ha
    have hwf := clearAllQueues_wf h.wf
    refine ⟨{ hwf with }, ?_, nofun⟩
    show (c.clearAllQueues.outbox pal).WellSent
    rw [clearAllQueues_outbox h.wf]
    exact h.wellSent
  · have hclear := h.clear (hno.imp_right fun hno => hno.resolve_left ha)
    refine hmark ?_
    cases action with
    | doNothing => exact hclear
    | markSocketInvalid => exact absurd rfl ha
    | sendDisconnect reason | sendConnectReply connectStatus => exact hclear.push ..

/-! ### Sending -/

/-- The queues that `Send` looks at. -/
def Queue.sentTo (kind : ClientKind) : Queue → Bool
  | .broker => true
  | .status | .rpt => kind = .controller
  | .of _ => kind = .device

/-- A message of the first queue is sent before those that wait in the second one: the broker's own
messages come first, then statuses, and the controllers take turns. -/
def Queue.goesBefore : Queue → Queue → Bool
  | .broker, q => q ≠ .broker
  | .status, q => q = .rpt
  | .of h, .of k => h ≠ k
  | _, _ => false

/-- The message that is sent is the first of a queue that is looked at. -/
theorem pick_some (hc : c.WF) (hp : c.pick = some (q, m)) :
    (∃ ms, c.queue q = m :: ms) ∧ q.sentTo c.kind = true := by
  unfold pick at hp
  split at hp
  · cases hp
    exact ⟨⟨_, ‹_›⟩, rfl⟩
  · cases hp
  · cases hp
    exact ⟨⟨_, ‹_›⟩, decide_eq_true ‹_›⟩
  · cases hp
    exact ⟨⟨_, ‹_›⟩, decide_eq_true ‹_›⟩
  · cases hp
  · split at hp
    · cases hp
    · obtain ⟨⟨h, m'⟩, hf, he⟩ := Option.map_eq_some_iff.mp hp
      cases he
      exact ⟨front_some hc.device hf, decide_eq_true ‹_›⟩

theorem not_sentTo (hc : c.WF) (hq : q.sentTo c.kind = false) : ∀ m ∈ c.queue q, m.sizeSent = 0 := by
  have hnil : c.queue q = [] → ∀ m ∈ c.queue q, m.sizeSent = 0 := fun h => by
    rw [h]
    exact nofun
  cases q with
  | broker => cases hq
  | status => exact hc.status (of_decide_eq_false hq)
  | rpt => exact hnil (hc.notController (of_decide_eq_false hq))
  | of h => exact hnil (hc.notDevice (of_decide_eq_false hq) h)

/-- Nothing is sent only if nothing waits. -/
theorem pick_none (hc : c.WF) (hp : c.pick = none) (hq : q.sentTo c.kind = true) : c.queue q = [] := by
  unfold pick at hp
  split at hp
  · cases hp
  · rename_i hk hb
    rw [hk] at hq
    cases q <;> first | exact hb | cases hq
  · cases hp
  · cases hp
  · rename_i hk hb hs hr
    rw [hk] at hq
    cases q <;> first | exact hb | exact hs | exact hr | cases hq
  · rename_i hk hb
    rw [hk] at hq
    cases q with
    | broker => exact hb
    | status | rpt => cases hq
    | of h =>
      refine Classical.byContradiction fun hne => ?_
      have hfront := front_isSome hc.device hne
      split at hp
      · exact hne ((empty_iff hc.device).mp ‹_› h)
      · rw [Option.map_eq_none_iff.mp hp] at hfront
        cases hfront

/-- What is sent goes before all else that waits. -/
theorem pick_first (q' : Queue) (hp : c.pick = some (q, m)) (hq : q'.sentTo c.kind = true)
    (hne : c.queue q' ≠ []) : q' = q ∨ q.goesBefore q' = true := by
  unfold pick at hp
  split at hp
  · cases hp
    by_cases h : q' = .broker
    · exact .inl h
    · exact .inr (decide_eq_true h)
  · cases hp
  · rename_i hk hb hs
    rw [hk] at hq
    cases hp
    cases q' with
    | broker => exact absurd hb hne
    | status => exact .inl rfl
    | rpt => exact .inr rfl
    | of h => cases hq
  · rename_i hk hb hs hr
    rw [hk] at hq
    cases hp
    cases q' with
    | broker => exact absurd hb hne
    | status => exact absurd hs hne
    | rpt => exact .inl rfl
    | of h => cases hq
  · cases hp
  · rename_i hk hb
    rw [hk] at hq
    split at hp
    · cases hp
    · obtain ⟨⟨h, m'⟩, -, he⟩ := Option.map_eq_some_iff.mp hp
      cases he
      cases q' with
      | broker => exact absurd hb hne
      | status | rpt => cases hq
      | of k =>
        by_cases hk : h = k
        · exact .inl (congrArg Queue.of hk.symm)
        · exact .inr (decide_eq_true hk)

theorem serve_queue (c : BrokerClient) (q q' : Queue) : (c.serve q).queue q' = c.queue q' := by
  cases q <;> rfl

theorem serve_wf (hc : c.WF) : (c.serve q).WF := by
  cases q with
  | of h =>
    exact { hc with device := ⟨hc.device.sorted, hc.device.count⟩ }
  | _ => exact hc

theorem modifyQueue_queue (f : List MessageRef → List MessageRef) (hne : c.queue q ≠ []) (q' : Queue) :
    (c.modifyQueue q f).queue q' = if q' = q then f (c.queue q) else c.queue q' := by
  cases q with
  | of h =>
    cases q' with
    | of h' =>
      simp only [Queue.of.injEq]
      exact get_modify f (.inr hne)
    | _ => rfl
  | _ => cases q' <;> rfl

theorem modifyQueue_wf (hc : c.WF) (f : List MessageRef → List MessageRef) (hne : c.queue q ≠ [])
    (hlen : (f (c.queue q)).length = (c.queue q).length) (hq : q = .status → c.kind = .controller) :
    (c.modifyQueue q f).WF := by
  cases q with
  | broker => exact { hc with }
  | status =>
    have hk := hq rfl
    exact { hc with
      pending := fun hk' => absurd (hk.symm.trans hk') nofun
      status := fun hk' => absurd hk hk' }
  | rpt =>
    exact { hc with notController := fun hk => absurd (hc.notController hk) hne }
  | of h =>
    have hget := fun h' => get_modify (h := h') f (.inr hne)
    refine { hc with
      device := hc.device.modify f hne hlen
      handles := fun h' hne' => ?_
      notDevice := fun hk => absurd (hc.notDevice hk h) hne }
    by_cases hh : h' = h
    · exact hh ▸ hc.handles h hne
    · have := hget h'
      rw [if_neg hh] at this
      exact hc.handles h' (this ▸ hne')

/-- The controller whose message is sent is the one that `pop_front` and `RemoveCurrentController`
are about. -/
def Serves (q : Queue) (c : BrokerClient) : Prop :=
  ∀ h, q = .of h → c.rptMsgQ.currentController = h ∧ h ≠ kInvalidHandle

theorem serve_serves (hc : c.WF) (hne : c.queue q ≠ []) : (c.serve q).Serves q := by
  rintro h rfl
  exact ⟨rfl, hc.handles h hne⟩

theorem popQueue_queue (hserve : c.Serves q) (hne : c.queue q ≠ []) (q' : Queue) :
    (c.popQueue q).queue q' = if q' = q then (c.queue q).drop 1 else c.queue q' := by
  cases q with
  | of h =>
    obtain ⟨rfl, hh⟩ := hserve h rfl
    cases q' with
    | of h' =>
      simp only [Queue.of.injEq]
      exact get_popFront hh
    | _ => rfl
  | _ => exact modifyQueue_queue _ hne q'

theorem popQueue_wf (hc : c.WF) (hserve : c.Serves q) (hne : c.queue q ≠ []) : (c.popQueue q).WF := by
  cases q with
  | broker => exact { hc with }
  | status =>
    exact { hc with
      pending := fun hk => absurd (hc.pending hk) hne
      status := fun hk m' hm' => hc.status hk m' (mem_of_mem_drop hm') }
  | rpt =>
    exact { hc with notController := fun hk => absurd (hc.notController hk) hne }
  | of h =>
    obtain ⟨rfl, hh⟩ := hserve h rfl
    refine { hc with
      device := hc.device.popFront hne
      handles := fun h' hne' => ?_
      notDevice := fun hk => absurd (hc.notDevice hk _) hne }
    by_cases he : h' = c.rptMsgQ.currentController
    · exact he ▸ hh
    · have hget := get_popFront (h := h') hh
      rw [if_neg he] at hget
      exact hc.handles h' (hget ▸ hne')

theorem accept_wf (hc : c.WF) (id : Nat) (bytes : Bytes) : (c.accept id bytes).WF :=
  { hc with }

theorem map_advance (m : MessageRef) (ms : List MessageRef) (n : Nat) :
    advance n ((m :: ms).map (ref pal)) = (if (packed pal m.msg).length ≤ m.sizeSent + n then ms
        else { m with sizeSent := m.sizeSent + n } :: ms).map (ref pal) := by
  rw [map_cons, advance]
  by_cases h : (packed pal m.msg).length ≤ m.sizeSent + n
  · rw [if_pos h]
    exact if_pos h
  · rw [if_neg h]
    exact if_neg h

variable {res : Except EtcPalErr Nat}

variable (pal) in
theorem sendMessage_ok (hc : c.WF) (hp : c.pick = some (q, m)) (now : Nat)
    {n : Nat} (hres : c.rcSend res = .ok n) :
    (c.sendMessage pal now res q m).1.WF ∧ (c.sendMessage pal now res q m).1.socket = c.socket ∧
      (c.sendMessage pal now res q m).1.outbox pal = (c.outbox pal).write q n := by
  obtain ⟨⟨ms, hq⟩, hsent⟩ := pick_some hc hp
  have hstatus : q = .status → c.kind = .controller := by
    rintro rfl
    exact of_decide_eq_true hsent
  have hne : c.queue q ≠ [] := by rw [hq]; exact nofun
  have hrc : (c.serve q).rcSend res = .ok n := by
    rw [← hres]
    cases q <;> rfl
  -- the client that sends, with the new bytes on its wire
  set c1 := (c.serve q).accept m.id ((unsent pal m).take n) with hc1
  have hwf1 : c1.WF := accept_wf (serve_wf hc) _ _
  have hqueue1 : ∀ q', c1.queue q' = c.queue q' := serve_queue c q
  have hne1 : c1.queue q ≠ [] := by rwa [hqueue1]
  have hframe1 : c1.queued = c.queued ∧ c1.kind = c.kind ∧ c1.socket = c.socket ∧
      c1.wire = c.wire ++ ((unsent pal m).take n).map (m.id, ·) := by
    cases q <;> exact ⟨rfl, rfl, rfl, rfl⟩
  obtain ⟨hqueued1, hkind1, hsock1, hwire1⟩ := hframe1
  have hserves : c1.Serves q := serve_serves hc hne
  -- the outbox of any client that differs from it in this one queue
  have hout : ∀ c2 : BrokerClient, c2.queued = c1.queued → c2.wire = c1.wire →
      (∀ q', c2.queue q' = if q' = q then
        (if (packed pal m.msg).length ≤ m.sizeSent + n then ms
          else { m with sizeSent := m.sizeSent + n } :: ms) else c.queue q') →
      c2.outbox pal = (c.outbox pal).write q n := by
    intro c2 hqueued hwire hqueue
    have hupd := outbox_eq pal c c2 ((hqueue q).trans (if_pos rfl))
      (fun q' hne => (hqueue q').trans (if_neg hne))
    simp only [outbox, Outbox.write, hupd, hq, map_advance, hqueued, hwire, hqueued1, hwire1]
    rfl
  unfold sendMessage
  dsimp only
  rw [hrc]
  dsimp only
  rw [← hc1]
  by_cases hdone : (packed pal m.msg).length ≤ m.sizeSent + n
  · have hpop := popQueue_queue hserves hne1
    have hwf := popQueue_wf hwf1 hserves hne1
    have hframe : (c1.popQueue q).queued = c1.queued ∧ (c1.popQueue q).socket = c1.socket ∧
        (c1.popQueue q).wire = c1.wire := by
      cases q <;> exact ⟨rfl, rfl, rfl⟩
    have hqueue : ∀ q', (c1.popQueue q).queue q' = if q' = q then
        (if (packed pal m.msg).length ≤ m.sizeSent + n then ms
          else { m with sizeSent := m.sizeSent + n } :: ms) else c.queue q' := by
      intro q'
      rw [hpop, hqueue1, hqueue1, if_pos hdone, hq]
      rfl
    rw [if_pos (show (m.msg.2.bytes pal m.msg.1).length ≤ m.sizeSent + n from hdone)]
    dsimp only
    split
    · exact ⟨hwf, hframe.2.1.trans hsock1, hout _ hframe.1 hframe.2.2 hqueue⟩
    · exact ⟨{ hwf with },
        hframe.2.1.trans hsock1, hout _ hframe.1 hframe.2.2 hqueue⟩
  · have hmod := modifyQueue_queue (fun l => { m with sizeSent := m.sizeSent + n } :: l.drop 1) hne1
    rw [if_neg (show ¬ (m.msg.2.bytes pal m.msg.1).length ≤ m.sizeSent + n from hdone)]
    dsimp only
    refine ⟨modifyQueue_wf hwf1 _ hne1 ?_ (fun h => hkind1.trans (hstatus h)), ?_, hout _ ?_ ?_ ?_⟩
    · rw [hqueue1, hq]
      rfl
    · rw [← hsock1]
      cases q <;> rfl
    · cases q <;> rfl
    · cases q <;> rfl
    · intro q'
      rw [hmod, hqueue1, hqueue1, if_neg hdone, hq]
      rfl

variable (pal) in
theorem sendMessage_error (hc : c.WF) (hp : c.pick = some (q, m)) (now : Nat)
    {err : EtcPalErr} (hres : c.rcSend res = .error err) :
    (c.sendMessage pal now res q m).1.WF ∧ (c.sendMessage pal now res q m).1.socket = c.socket ∧
      ((c.sendMessage pal now res q m).1.outbox pal = c.outbox pal ∨ (∃ h, q = .of h) ∧ err ≠ .wouldBlock ∧
          (c.sendMessage pal now res q m).1.outbox pal = (c.outbox pal).drop q) := by
  obtain ⟨⟨ms, hq⟩, -⟩ := pick_some hc hp
  have hne : c.queue q ≠ [] := by rw [hq]; exact nofun
  have hrc : (c.serve q).rcSend res = .error err := by
    rw [← hres]
    cases q <;> rfl
  unfold sendMessage
  dsimp only
  rw [hrc]
  dsimp only
  cases q with
  | of h =>
    have hwf : (c.serve (.of h)).WF := serve_wf hc
    dsimp only
    split
    · refine ⟨{ hc with
        device := hwf.device.remove
        handles := fun h' hne' => ?_
        notDevice := fun hk => absurd (hc.notDevice hk h) hne }, rfl, .inr ⟨⟨h, rfl⟩, ‹_›, ?_⟩⟩
      · have hget := get_remove (q := (c.serve (.of h)).rptMsgQ) (h := h')
        by_cases he : h' = h
        · exact he ▸ hc.handles h hne
        · have hsame := hget.trans (if_neg he)
          exact hc.handles h' (hsame ▸ hne')
      · have hupd := outbox_eq pal c { c.serve (.of h) with
            rptMsgQ := (c.serve (.of h)).rptMsgQ.removeCurrentController } (q := .of h) (l := [])
          (get_remove.trans (if_pos rfl)) (fun q' hq' => by
            cases q' with
            | of h' => exact get_remove.trans (if_neg fun he => hq' (congrArg Queue.of he))
            | _ => rfl)
        simp only [outbox, Outbox.drop, hupd]
        rfl
    · exact ⟨hwf, rfl, .inl rfl⟩
  | _ => exact ⟨hc, rfl, .inl rfl⟩

/-! ### What keeps the stream in order -/

def queues (c : BrokerClient) : List Queue :=
  [Queue.broker, .status, .rpt] ++ c.rptMsgQ.rptMsgs.map fun e => Queue.of e.1

theorem mem_queues (h : c.queue q ≠ []) : q ∈ c.queues := by
  unfold queues
  cases q with
  | of k => exact mem_append_right _ (mem_map.mpr ⟨(k, c.rptMsgQ.get k), mem_of_get h, rfl⟩)
  | _ => simp

/-- The queues with a message of which a part is sent. -/
def begunQueues (c : BrokerClient) : List Queue :=
  c.queues.filter fun q => (c.queue q).any (0 < ·.sizeSent)

/-- The queues with a message to be sent. -/
def waitingQueues (c : BrokerClient) : List Queue :=
  c.queues.filter fun q => q.sentTo c.kind ∧ c.queue q ≠ []

theorem mem_begunQueues : q ∈ c.begunQueues ↔ Begun (c.outbox pal) q := by
  have hiff : Begun (c.outbox pal) q ↔ (c.queue q).any (0 < ·.sizeSent) = true := by
    simp [Begun, Fresh, outbox, ref, Nat.pos_iff_ne_zero]
  rw [hiff]
  unfold begunQueues
  rw [mem_filter]
  refine ⟨And.right, fun h => ⟨mem_queues fun hnil => ?_, h⟩⟩
  rw [hnil] at h
  cases h

theorem waiting_of_begun (hc : c.WF) (h : q ∈ c.begunQueues) :
    q.sentTo c.kind = true ∧ c.queue q ≠ [] := by
  obtain ⟨m, hm, hpos⟩ := any_eq_true.mp (mem_filter.mp h).2
  refine ⟨Classical.byContradiction fun hq => ?_, ne_nil_of_mem hm⟩
  have := not_sentTo hc (Bool.not_eq_true _ ▸ hq) m hm
  exact absurd (of_decide_eq_true hpos) (by omega)

/-- No message waits that would be sent before the rest of one that has been begun. -/
def Undisturbed (c : BrokerClient) : Prop :=
  ∀ q ∈ c.begunQueues, ∀ q' ∈ c.waitingQueues, q'.goesBefore q = false

instance (c : BrokerClient) : Decidable c.Undisturbed :=
  inferInstanceAs (Decidable (∀ q ∈ _, ∀ q' ∈ _, _))

theorem Undisturbed.finishes (h : c.Undisturbed) (hc : c.WF) (hp : c.pick = some (q, m)) :
    ∀ q' ∈ c.begunQueues, q' = q := by
  intro q' hq'
  obtain ⟨hsent, hne⟩ := waiting_of_begun hc hq'
  refine (pick_first _ hp hsent hne).resolve_right fun hbefore => ?_
  obtain ⟨⟨ms, hq⟩, hsent⟩ := pick_some hc hp
  have hne : c.queue q ≠ [] := by rw [hq]; exact nofun
  rw [h q' hq' q (mem_filter.mpr ⟨mem_queues hne, decide_eq_true ⟨hsent, hne⟩⟩)] at hbefore
  cases hbefore

theorem waitingQueues_of_pick (hc : c.WF) (hp : c.pick = none) : c.waitingQueues = [] := by
  refine filter_eq_nil_iff.mpr fun q _ h => ?_
  obtain ⟨hsent, hne⟩ := of_decide_eq_true h
  exact hne (pick_none hc hp hsent)

/-- When `rc_send` gives this result, a message that has been begun is finished before another one is
begun or given up, and a Null message is sent completely. -/
def SendKeepsOrder (pal : EtcPal) (brokerCid : Uuid) (now : Nat) (res : Except EtcPalErr Nat)
    (c : BrokerClient) : Prop :=
  match c.rcSend res with
  | .ok n => n = 0 ∨ c.Undisturbed ∧
      (c.waitingQueues = [] → etcpalTimerIsExpired c.sendTimer now = true →
        (packed pal (brokerCid, .null brokerNullFullMsgSize)).length ≤ n)
  -- a device forgets the controller whose request it could not send
  | .error err => c.kind = .device → err = .wouldBlock ∨ c.brokerMsgs ≠ [] ∨ c.begunQueues = []

instance (brokerCid : Uuid) (now : Nat) (res : Except EtcPalErr Nat) (c : BrokerClient) :
    Decidable (SendKeepsOrder pal brokerCid now res c) := by
  unfold SendKeepsOrder
  split <;> infer_instance

/-- A client is marked for destruction between two messages, or without another byte to be sent. -/
def MarkKeepsOrder (action : ClientDestroyAction) (c : BrokerClient) : Prop :=
  c.socket = none ∨ action = .markSocketInvalid ∨ c.begunQueues = []

instance (action : ClientDestroyAction) (c : BrokerClient) : Decidable (MarkKeepsOrder action c) :=
  inferInstanceAs (Decidable (_ ∨ _ ∨ _))

theorem not_begun (h : c.begunQueues = []) (q : Queue) : ¬ Begun (c.outbox pal) q := fun hb => by
  have := mem_begunQueues.mpr hb
  rw [h] at this
  cases this

theorem sendNull_ok (h : Sound pal c) (hp : c.pick = none) (brokerCid : Uuid) (now : Nat)
    {n : Nat} (hres : c.rcSend res = .ok n)
    (hn : n = 0 ∨ (packed pal (brokerCid, .null brokerNullFullMsgSize)).length ≤ n) :
    Sound pal (c.sendNull pal brokerCid now res).1 := by
  have hout : (c.sendNull pal brokerCid now res).1.outbox pal =
      (c.outbox pal).writeOnce (packed pal (brokerCid, .null brokerNullFullMsgSize)) n := by
    unfold sendNull
    rw [hres]
    simp only [outbox, Outbox.writeOnce, map_append, map_cons, map_nil, accept, length_map]
    rfl
  have hsock : c.socket.isSome = true := by
    unfold rcSend at hres
    by_contra hs
    rw [if_neg hs] at hres
    cases hres
  refine .of_orderly ?_ ?_
  · unfold sendNull
    rw [hres]
    exact ⟨h.wf.device, h.wf.handles, h.wf.notController, h.wf.notDevice, h.wf.pending, h.wf.status⟩
  · rw [hout]
    refine (h.orderly hsock).writeOnce (hn.imp_right fun hn => ⟨fun q hb => ?_, hn⟩)
    obtain ⟨hsent, hne⟩ := waiting_of_begun h.wf (mem_begunQueues.mpr hb)
    exact hne (pick_none h.wf hp hsent)

theorem Sound.send (h : Sound pal c) (brokerCid : Uuid) (now : Nat) (res : Except EtcPalErr Nat)
    (hok : SendKeepsOrder pal brokerCid now res c) : Sound pal (c.send pal brokerCid now res).1 := by
  have hsome : ∀ {n : Nat}, c.rcSend res = .ok n → c.socket.isSome = true := fun hres => by
    unfold rcSend at hres
    by_contra hs
    rw [if_neg hs] at hres
    cases hres
  unfold BrokerClient.send
  unfold SendKeepsOrder at hok
  cases hp : c.pick with
  | none =>
    dsimp only
    split
    · cases hres : c.rcSend res with
      | error err =>
        unfold sendNull
        rw [hres]
        exact h
      | ok n =>
        rw [hres] at hok
        exact sendNull_ok h hp brokerCid now hres
          (hok.imp_right fun hok => hok.2 (waitingQueues_of_pick h.wf hp) ‹_›)
    · exact h
  | some picked =>
    obtain ⟨q, m⟩ := picked
    dsimp only
    cases hres : c.rcSend res with
    | ok n =>
      rw [hres] at hok
      obtain ⟨hwf, -, hout⟩ := sendMessage_ok pal h.wf hp now hres
      refine .of_orderly hwf ?_
      rw [hout]
      exact (h.orderly (hsome hres)).write
        (hok.imp_right fun hok q' hb => hok.1.finishes h.wf hp q' (mem_begunQueues.mpr hb))
    | error err =>
      rw [hres] at hok
      obtain ⟨hwf, hsock, hout | ⟨⟨k, rfl⟩, herr, hout⟩⟩ :=
        sendMessage_error pal h.wf hp now hres
      · refine ⟨hwf, ?_, fun hs => ?_⟩
        · rw [hout]
          exact h.wellSent
        · rw [hout]
          exact h.orderly (hsock ▸ hs)
      · refine ⟨hwf, ?_, fun hs => ?_⟩
        · rw [hout]
          exact h.wellSent
        · rw [hout]
          refine (h.orderly (hsock ▸ hs)).drop fun hb => ?_
          have hno := hok (of_decide_eq_true (pick_some h.wf hp).2)
          rcases hno.resolve_left herr with hbroker | hnone
          · rcases pick_first .broker hp rfl hbroker with h | h <;> cases h
          · exact not_begun hnone _ hb

/-! ### Runs -/

/-- What happens to a client. -/
inductive Action
  | push (senderCid : Uuid) (msg : BrokerMessage)
  | pushStatus (senderCid : Uuid) (header : RptHeader) (msg : RptStatusMsg)
  | pushRpt (fromConn : Handle) (senderCid : Uuid) (msg : RptMessage)
  | mark (brokerCid : Uuid) (brokerUid : RdmUid) (action : ClientDestroyAction)
  | send (brokerCid : Uuid) (now : Nat) (res : Except EtcPalErr Nat)

/-- Only controllers are sent statuses of the broker itself, and every RPT message is from a client. -/
def step (pal : EtcPal) (a : Action) (c : BrokerClient) : Option BrokerClient :=
  match a with
  | .push senderCid msg => some (c.push pal senderCid msg).1
  | .pushStatus senderCid header msg =>
    if c.kind = .controller then some (c.pushStatus pal senderCid header msg).1 else none
  | .pushRpt fromConn senderCid msg =>
    if fromConn ≠ kInvalidHandle then some (c.pushRpt pal fromConn senderCid msg).1 else none
  | .mark brokerCid brokerUid action => some (c.markForDestruction pal brokerCid brokerUid action)
  | .send brokerCid now res => some (c.send pal brokerCid now res).1

def KeepsOrder (pal : EtcPal) (a : Action) (c : BrokerClient) : Prop :=
  match a with
  | .mark _ _ action => MarkKeepsOrder action c
  | .send brokerCid now res => SendKeepsOrder pal brokerCid now res c
  | _ => True

instance (a : Action) (c : BrokerClient) : Decidable (KeepsOrder pal a c) := by
  unfold KeepsOrder
  split <;> infer_instance

def Created (c : BrokerClient) : Prop :=
  (∃ object handle socket now, c = new object handle socket now) ∨
    ∃ kind object maxQSize entry now prev, c = newRpt kind object maxQSize entry now prev

theorem Created.sound (h : c.Created) : Sound pal c := by
  have hwf : c.WF := by
    rcases h with ⟨_, _, _, _, rfl⟩ | ⟨_, _, _, _, _, _, rfl⟩ <;>
      exact ⟨wf_init, fun _ h => absurd rfl h, fun _ => rfl, fun _ _ => rfl, fun _ => rfl,
        fun _ _ h => nomatch h⟩
  have hempty : (∀ q, c.queue q = []) ∧ c.queued = [] ∧ c.wire = [] := by
    rcases h with ⟨_, _, _, _, rfl⟩ | ⟨_, _, _, _, _, _, rfl⟩ <;>
      exact ⟨fun q => by cases q <;> rfl, rfl, rfl⟩
  obtain ⟨hqueue, -, hwire⟩ := hempty
  have hnil : ∀ q, (c.outbox pal).queue q = [] := fun q => by
    show (c.queue q).map (ref pal) = []
    rw [hqueue q]
    rfl
  refine .of_orderly hwf ⟨fun q r hr => ?_, [], nofun, .inl ⟨fun q => ?_, hwire⟩⟩
  · rw [hnil] at hr
    cases hr
  · rw [hnil]
    exact fresh_nil

theorem Sound.step {a : Action} (h : Sound pal c) (hok : KeepsOrder pal a c)
    (hs : step pal a c = some c') : Sound pal c' := by
  cases a with
  | push senderCid msg =>
    cases hs
    exact h.push senderCid msg
  | pushStatus senderCid header msg =>
    unfold BrokerClient.step at hs
    dsimp only at hs
    split at hs
    · rename_i hk
      cases hs
      exact h.checked (h.pushStatus (by rw [hk]; exact nofun) senderCid header msg)
    · cases hs
  | pushRpt fromConn senderCid msg =>
    unfold BrokerClient.step at hs
    dsimp only at hs
    split at hs
    · cases hs
      exact h.pushRpt ‹_› senderCid msg
    · cases hs
  | mark brokerCid brokerUid action =>
    cases hs
    exact h.mark brokerCid brokerUid action (hok.imp_right fun hok => hok.imp_right not_begun)
  | send brokerCid now res =>
    cases hs
    exact h.send brokerCid now res hok

/-- **The output stream of a client**: what the socket has taken is a sequence of complete messages and
the beginning of another one, in every run that leaves no message in the middle. -/
theorem output_stream_wellSent (pal : EtcPal) (hc : c.Created)
    (hr : Runs (step pal) (KeepsOrder pal) c c') : (c'.outbox pal).WellSent :=
  (hr.keeps (fun _ _ _ hok h hs => h.step hok hs) (hc.sound : Sound pal c)).wellSent

/-! ### A controller and two messages -/

def sampleController : BrokerClient := newRpt .controller 0 0 default 0 (new 0 0 0 0)

def sampleFarewell : BrokerMessage :=
  { (default : BrokerMessage) with vector := BrokerKind.disconnect.vector }

/-- A message that the socket takes in two parts, with another one pushed in between. -/
theorem output_stream_wellSent_resumed : ∃ c, Runs (step .reference) (KeepsOrder .reference) sampleController c ∧
      c.wire.length = 118 ∧ (c.outbox .reference).WellSent := by
  obtain ⟨c, hr, hlen⟩ := Runs.exists_of_play (s := sampleController) (step .reference)
    (KeepsOrder .reference) (fun c => c.wire.length) 118
    [.push default sampleFarewell, .send default 0 (.ok 20), .pushStatus default default default,
      .send default 0 (.ok 100), .send default 0 (.ok 100)] (by decide +kernel)
  exact ⟨c, hr, hlen, output_stream_wellSent .reference
    (.inr ⟨.controller, 0, 0, default, 0, new 0 0 0 0, rfl⟩) hr⟩

/-- A message of the broker is begun in the middle of an RPT Status. -/
theorem output_stream_interleaved :
    ∃ c c', Created c ∧ Runs (step .reference) anyStep c c' ∧ ¬ (c'.outbox .reference).WellSent := by
  have hplay := Runs.exists_of_play (s := sampleController) (step .reference) anyStep
    (fun c => (c.wire, c.queued.map fun m => (packed .reference m).length))
    ([(0, 65), (1, 65)], [72, 46])
    [.pushStatus default default default, .send default 0 (.ok 1), .push default sampleFarewell,
      .send default 0 (.ok 1)] (by decide +kernel)
  obtain ⟨c, hr, hx⟩ := hplay
  obtain ⟨hwire, hlens⟩ := Prod.mk.inj hx
  refine ⟨_, c, .inr ⟨.controller, 0, 0, default, 0, new 0 0 0 0, rfl⟩, hr, fun hsent => ?_⟩
  have hlen : ((c.queued.map (packed .reference))[0]?.getD []).length = 72 := by
    have := congrArg (fun l : List Nat => l[0]?.getD 0) hlens
    cases hq : c.queued with
    | nil =>
      rw [hq] at this
      cases this
    | cons m ms =>
      rw [hq] at this
      exact this
  exact absurd (hsent.same_message hwire (by
    show 1 < ((c.queued.map (packed .reference))[0]?.getD []).length
    omega)) (by decide)

end BrokerClient

end RDMnet
