import RDMnet.Broker.Registry

/-!
# Connect requests

What a Connect request comes to: it is refused, it finds no room, it comes from no client, it is
admitted, or it is of a type that the broker does not know.  `Broker.Decides` has one case for each.
-/

namespace RDMnet

open Function BrokerKind BrokerClient Outgoing Table

/-! ### The first message of a client -/

theorem Outgoing.connectReply_bytes {pal : EtcPal} (hpk : pal.Packs) (cid : Uuid) (data : BrokerConnectReplyMsg) :
    (Outgoing.connectReply brokerConnectReplyFullMsgSize data).bytes pal cid ≠ [] := by
  intro h
  have hlen := (@packBroker_eq _ hpk brokerConnectReplyFullMsgSize BrokerKind.connectReply.vector
    (brokerRlp cid (brokerPduHeaderSize + brokerConnectReplyDataSize)) (by decide)
    (packU16 data.connectStatus ++ packU16 data.e133Version ++ packUid data.brokerUid ++
      packUid data.clientUid)).2
  rw [bytes, rcBrokerPackConnectReply, if_neg (Nat.lt_irrefl _)] at h
  rw [h] at hlen
  rw [List.length_nil] at hlen
  omega

namespace BrokerClient

variable {pal : EtcPal} {c : BrokerClient}

def withReply (c : BrokerClient) (msg : Uuid × Outgoing) : BrokerClient :=
  { c.putBroker ⟨c.queued.length, msg, 0⟩ with queued := c.queued ++ [msg] }

theorem push_connectReply (hpk : pal.Packs) (cid : Uuid) (data : BrokerConnectReplyMsg)
    (hmark : c.markedForDestruction = false) (hroom : c.hasRoomToPush = true) :
    c.push pal cid { (default : BrokerMessage) with
      vector := BrokerKind.connectReply.vector, connectReply := data } =
      (c.withReply (cid, .connectReply brokerConnectReplyFullMsgSize data), .ok) := by
  have hout : brokerOutgoing { (default : BrokerMessage) with
      vector := BrokerKind.connectReply.vector, connectReply := data } =
      some (.connectReply brokerConnectReplyFullMsgSize data) := rfl
  unfold push checked pushPostSizeCheck enqueue
  rw [hmark, hroom, hout]
  exact if_neg (connectReply_bytes hpk cid data)

theorem hasRoomToPush_of_empty (h : c.queueSize = 0) : c.hasRoomToPush = true := by
  unfold hasRoomToPush
  rw [decide_eq_true_iff, h]
  exact Nat.eq_zero_or_pos _

theorem newRpt_queueSize (kind : ClientKind) (object maxQSize : Nat) (entry : RptClientEntry)
    (now : Nat) : (newRpt kind object maxQSize entry now c).queueSize = 0 := by
  cases kind <;> rfl

theorem clearAllQueues_queueSize : c.clearAllQueues.queueSize = 0 := by
  unfold clearAllQueues
  cases hk : c.kind <;> simp [queueSize, RptMsgQ.init]

theorem markForDestruction_reply (hpk : pal.Packs) (brokerCid : Uuid) (brokerUid : RdmUid)
    (status : UInt16) (hmark : c.markedForDestruction = false) :
    c.markForDestruction pal brokerCid brokerUid (.sendConnectReply status) =
      { c.clearAllQueues.withReply (brokerCid, .connectReply brokerConnectReplyFullMsgSize
        ⟨status, e133Version, brokerUid, default⟩) with markedForDestruction := true } := by
  have hmark' : c.clearAllQueues.markedForDestruction = false := by
    unfold clearAllQueues
    cases c.kind <;> exact hmark
  have hpush := push_connectReply hpk brokerCid ⟨status, e133Version, brokerUid, default⟩ hmark'
    (hasRoomToPush_of_empty clearAllQueues_queueSize)
  show ({ (c.clearAllQueues.push pal brokerCid { (default : BrokerMessage) with
    vector := BrokerKind.connectReply.vector
    connectReply := ⟨status, e133Version, brokerUid, default⟩ }).1 with
      markedForDestruction := true } : BrokerClient) = _
  rw [hpush]

end BrokerClient

/-! ### Resolving a UID -/

def UidManager.Takes (rdm : RdmLib) (entry : RptClientEntry) (m : UidManager) : Prop :=
  m.uidLookup.size < m.maxUidCapacity ∧
    if rdm.uidIsDynamicUidRequest entry.uid then
      ((m.reservations.lookup entry.cid).all fun r => !r.currentlyConnected) = true
    else rdm.uidIsStatic entry.uid = true ∧ entry.uid ∉ m.uidLookup

instance (rdm : RdmLib) (entry : RptClientEntry) (m : UidManager) : Decidable (m.Takes rdm entry) :=
  inferInstanceAs (Decidable (_ ∧ if rdm.uidIsDynamicUidRequest entry.uid then _ else _))

inductive UidManager.Taken (rdm : RdmLib) (h : Handle) (entry : RptClientEntry) (m : UidManager) :
    UidManager → RdmUid → Prop
  | static (hdyn : rdm.uidIsDynamicUidRequest entry.uid = false)
      (hstat : rdm.uidIsStatic entry.uid = true) (hnew : entry.uid ∉ m.uidLookup) :
      Taken rdm h entry m
        { m with uidLookup := m.uidLookup.insertNew entry.uid ⟨h, none⟩ } entry.uid
  | returning (uid : RdmUid) (hdyn : rdm.uidIsDynamicUidRequest entry.uid = true)
      (hres : m.reservations.lookup entry.cid = some ⟨uid, false⟩) :
      Taken rdm h entry m
        { m with
          reservations := m.reservations.insert entry.cid ⟨uid, true⟩
          uidLookup := m.uidLookup.insertNew uid ⟨h, some entry.cid⟩ } uid
  | fresh (uid : RdmUid) (next : UInt32) (hdyn : rdm.uidIsDynamicUidRequest entry.uid = true)
      (hres : m.reservations.lookup entry.cid = none)
      (hfind : findDynamicUid m.uidLookup (m.uidLookup.size + 2) entry.uid m.nextDeviceId = (uid, next)) :
      Taken rdm h entry m
        { m with
          nextDeviceId := next
          reservations := m.reservations.insertNew entry.cid ⟨uid, true⟩
          uidLookup := m.uidLookup.insertNew uid ⟨h, some entry.cid⟩ } uid

namespace Broker

variable {env : BrokerEnv} {b : Broker} {h : Handle} {c : BrokerClient}

/-- **A UID is resolved** if the manager can take it, and the manager is left alone if it cannot. -/
theorem resolveNewClientUid_cases (env : BrokerEnv) (h : Handle) (entry : RptClientEntry) (m : UidManager) :
    (m.Takes env.rdm entry ∧ ∃ m' uid, resolveNewClientUid env h entry m = (m', uid, none) ∧
        m.Taken env.rdm h entry m' uid) ∨ (¬ m.Takes env.rdm entry ∧ ∃ uid status,
        resolveNewClientUid env h entry m = (m, uid, some status) ∧ status ≠ kRdmnetConnectOk) := by
  unfold resolveNewClientUid UidManager.Takes
  by_cases hdyn : env.rdm.uidIsDynamicUidRequest entry.uid = true
  · simp only [if_pos hdyn]
    unfold UidManager.addDynamicUid
    by_cases hcap : m.maxUidCapacity ≤ m.uidLookup.size
    · rw [if_pos hcap]
      exact .inr ⟨fun ht => absurd ht.1 (not_lt.mpr hcap), _, _, rfl, by decide⟩
    · rw [if_neg hcap]
      cases hres : m.reservations.lookup entry.cid with
      | none =>
        exact .inl ⟨⟨not_le.mp hcap, rfl⟩, _, _, rfl, .fresh _ _ hdyn hres rfl⟩
      | some r =>
        obtain ⟨uid, connected⟩ := r
        cases connected with
        | true =>
          exact .inr ⟨fun ht => Bool.noConfusion ht.2, _, _, rfl, by decide⟩
        | false =>
          exact .inl ⟨⟨not_le.mp hcap, rfl⟩, _, _, rfl, .returning _ hdyn hres⟩
  · simp only [if_neg hdyn]
    by_cases hstat : env.rdm.uidIsStatic entry.uid = true
    · simp only [if_pos hstat]
      unfold UidManager.addStaticUid
      by_cases hcap : m.maxUidCapacity ≤ m.uidLookup.size
      · rw [if_pos hcap]
        exact .inr ⟨fun ht => absurd ht.1 (not_lt.mpr hcap), _, _, rfl, by decide⟩
      · rw [if_neg hcap]
        by_cases hmem : entry.uid ∈ m.uidLookup
        · rw [if_pos hmem]
          exact .inr ⟨fun ht => ht.2.2 hmem, _, _, rfl, by decide⟩
        · rw [if_neg hmem]
          exact .inl ⟨⟨not_le.mp hcap, hstat, hmem⟩, _, _, rfl,
            .static (Bool.not_eq_true _ ▸ hdyn) hstat hmem⟩
    · simp only [if_neg hstat]
      exact .inr ⟨fun ht => absurd ht.2.1 hstat, _, _, rfl, by decide⟩

/-! ### Decisions -/

def kindOf (type : UInt32) : Option ClientKind :=
  if type = kRPTClientTypeController then some .controller
  else if type = kRPTClientTypeDevice then some .device
  else none

def pointers (b : Broker) (kind : ClientKind) : Table Handle Nat :=
  if kind = .controller then b.controllers else b.devices

def maxClients (env : BrokerEnv) (kind : ClientKind) : Nat :=
  if kind = .controller then env.settings.limits.controllers else env.settings.limits.devices

def maxMessages (env : BrokerEnv) (kind : ClientKind) : Nat :=
  if kind = .controller then env.settings.limits.controllerMessages
  else env.settings.limits.deviceMessages

/-- There is room for one more client of a class. -/
def HasRoomFor (env : BrokerEnv) (b : Broker) (kind : ClientKind) : Prop :=
  maxClients env kind = 0 ∨ (b.pointers kind).size < maxClients env kind

instance (env : BrokerEnv) (b : Broker) (kind : ClientKind) : Decidable (HasRoomFor env b kind) :=
  inferInstanceAs (Decidable (_ ∨ _))

/-- A Connect request from an RPT client, of this version and scope. -/
def Proper (env : BrokerEnv) (cmsg : BrokerClientConnectMsg) : Prop :=
  (cmsg.e133Version ≤ e133Version ∧ cmsg.scope.chars = env.settings.scope) ∧
    cmsg.clientEntry.clientProtocol = kClientProtocolRPT

instance (env : BrokerEnv) (cmsg : BrokerClientConnectMsg) : Decidable (Proper env cmsg) :=
  inferInstanceAs (Decidable (_ ∧ _))

/-- An RPT client takes the place of client `prev` and is told so. -/
def enrol (env : BrokerEnv) (kind : ClientKind) (h : Handle) (entry : RptClientEntry) (now : Nat)
    (prev : BrokerClient) (b : Broker) : Broker :=
  let c := newRpt kind b.nextObject (maxMessages env kind) entry now prev
  let b : Broker :=
    { b with
      controllers := if kind = .controller then b.controllers.insertNew h b.nextObject
        else b.controllers
      devices := if kind = .controller then b.devices else b.devices.insertNew h b.nextObject
      rptClients := b.rptClients.insertNew h b.nextObject
      clients := b.clients.insert h c
      nextObject := b.nextObject + 1 }
  b.welcome env h c

/-- What a Connect request comes to. -/
inductive Decides (env : BrokerEnv) (h : Handle) (cmsg : BrokerClientConnectMsg) (now : Nat)
    (b : Broker) : Broker → Prop
  /-- It is refused before a UID is taken. -/
  | refused (status : UInt16) (hs : status ≠ kRdmnetConnectOk)
      (hnot : ¬ (Proper env cmsg ∧ b.uids.Takes env.rdm cmsg.clientEntry.data)) :
      Decides env h cmsg now b (b.markClientForDestruction env h (.sendConnectReply status))
  /-- There are too many clients of its type. -/
  | full (kind : ClientKind) (m : UidManager) (uid : RdmUid)
      (hp : Proper env cmsg) (ht : b.uids.Takes env.rdm cmsg.clientEntry.data)
      (htaken : b.uids.Taken env.rdm h cmsg.clientEntry.data m uid)
      (hkind : kindOf cmsg.clientEntry.data.type = some kind) (hfull : ¬ HasRoomFor env b kind) :
      Decides env h cmsg now b ({ b with uids := m.removeUid uid }.markClientForDestruction env h
        (.sendConnectReply kRdmnetConnectCapacityExceeded))
  /-- It comes from no client. -/
  | nowhere (kind : ClientKind) (m : UidManager) (uid : RdmUid)
      (hp : Proper env cmsg) (ht : b.uids.Takes env.rdm cmsg.clientEntry.data)
      (htaken : b.uids.Taken env.rdm h cmsg.clientEntry.data m uid)
      (hkind : kindOf cmsg.clientEntry.data.type = some kind) (hroom : HasRoomFor env b kind)
      (hnone : b.clients.lookup h = none) :
      Decides env h cmsg now b { b with uids := m, nulls := b.nulls.insert h }
  /-- It is admitted. -/
  | admitted (kind : ClientKind) (m : UidManager) (uid : RdmUid) (prev : BrokerClient)
      (hp : Proper env cmsg) (ht : b.uids.Takes env.rdm cmsg.clientEntry.data)
      (htaken : b.uids.Taken env.rdm h cmsg.clientEntry.data m uid)
      (hkind : kindOf cmsg.clientEntry.data.type = some kind) (hroom : HasRoomFor env b kind)
      (hprev : b.clients.lookup h = some prev) :
      Decides env h cmsg now b
        ({ b with uids := m }.enrol env kind h { cmsg.clientEntry.data with uid } now prev)
  /-- It is of a type that the broker does not know: a UID is taken, and nothing else is done. -/
  | unknown (m : UidManager) (uid : RdmUid)
      (hp : Proper env cmsg) (ht : b.uids.Takes env.rdm cmsg.clientEntry.data)
      (htaken : b.uids.Taken env.rdm h cmsg.clientEntry.data m uid)
      (hkind : kindOf cmsg.clientEntry.data.type = none) :
      Decides env h cmsg now b { b with uids := m }

theorem kindOf_cases (type : UInt32) : (type = kRPTClientTypeController ∧ kindOf type = some .controller) ∨
      (type ≠ kRPTClientTypeController ∧ type = kRPTClientTypeDevice ∧ kindOf type = some .device) ∨
      (type ≠ kRPTClientTypeController ∧ type ≠ kRPTClientTypeDevice ∧ kindOf type = none) := by
  unfold kindOf
  by_cases hc : type = kRPTClientTypeController
  · exact .inl ⟨hc, if_pos hc⟩
  · by_cases hd : type = kRPTClientTypeDevice
    · exact .inr (.inl ⟨hc, hd, by rw [if_neg hc, if_pos hd]⟩)
    · exact .inr (.inr ⟨hc, hd, by rw [if_neg hc, if_neg hd]⟩)

theorem kindOf_ne_pending {type : UInt32} {kind : ClientKind} (hkind : kindOf type = some kind) :
    kind ≠ .pending := by
  rintro rfl
  obtain ⟨-, hk⟩ | ⟨-, -, hk⟩ | ⟨-, -, hk⟩ := kindOf_cases type
  all_goals rw [hk] at hkind; cases hkind

/-- `addWithin`, for a client of a class. -/
theorem addWithin_eq (kind : ClientKind) (entry : RptClientEntry) (status : UInt16) (now : Nat) :
    b.addWithin env (maxClients env kind) (b.pointers kind).size kind (maxMessages env kind) h entry
        status now =
      if 0 < maxClients env kind ∧ maxClients env kind ≤ (b.pointers kind).size then
        ({ b with uids := b.uids.removeUid entry.uid }, false, kRdmnetConnectCapacityExceeded)
      else
        match b.clients.lookup h with
        | none => ({ b with nulls := b.nulls.insert h }, false, status)
        | some prev => (b.enrol env kind h entry now prev, true, status) := by
  unfold addWithin addRptClient enrol
  cases hprev : b.clients.lookup h with
  | none => rfl
  | some prev => cases kind <;> rfl

/-- **A Connect request is decided** in one of these ways. -/
theorem processConnectRequest_decides (env : BrokerEnv) (h : Handle) (cmsg : BrokerClientConnectMsg)
    (now : Nat) (b : Broker) : Decides env h cmsg now b (b.processConnectRequest env h cmsg now) := by
  unfold processConnectRequest
  by_cases hv : cmsg.e133Version ≤ e133Version ∧ cmsg.scope.chars = env.settings.scope
  case neg =>
    rw [if_neg hv]
    exact .refused _ (by decide) fun hp => hv hp.1.1
  rw [if_pos hv]
  by_cases hproto : cmsg.clientEntry.clientProtocol = kClientProtocolRPT
  case neg =>
    rw [if_neg hproto]
    exact .refused _ (by decide) fun hp => hproto hp.1.2
  rw [if_pos hproto]
  unfold processRPTConnectRequest
  obtain ⟨ht, m, uid, hres, htaken⟩ | ⟨ht, uid, status, hres, hs⟩ :=
    resolveNewClientUid_cases env h cmsg.clientEntry.data b.uids
  case inr =>
    rw [hres]
    exact .refused status hs fun hp => ht hp.2
  rw [hres]
  dsimp only
  have hsome : ∀ kind status, kindOf cmsg.clientEntry.data.type = some kind →
      ∀ res, res = ({ b with uids := m } : Broker).addWithin env (maxClients env kind)
        (b.pointers kind).size kind (maxMessages env kind) h { cmsg.clientEntry.data with uid }
        status now →
      Decides env h cmsg now b (if res.2.1 then res.1 else
        res.1.markClientForDestruction env h (.sendConnectReply res.2.2)) := by
    rintro kind status hkind res rfl
    have heq : ({ b with uids := m } : Broker).addWithin env (maxClients env kind)
        (({ b with uids := m } : Broker).pointers kind).size kind (maxMessages env kind) h
        { cmsg.clientEntry.data with uid } status now = _ :=
      addWithin_eq kind { cmsg.clientEntry.data with uid } status now
    rw [show ({ b with uids := m } : Broker).pointers kind = b.pointers kind from rfl] at heq
    rw [heq]
    by_cases hfull : 0 < maxClients env kind ∧ maxClients env kind ≤ (b.pointers kind).size
    · rw [if_pos hfull]
      refine .full kind m uid ⟨hv, hproto⟩ ht htaken hkind ?_
      rintro (h0 | hlt) <;> omega
    · rw [if_neg hfull]
      have hroom : HasRoomFor env b kind := by
        unfold HasRoomFor
        omega
      dsimp only
      cases hprev : b.clients.lookup h with
      | none =>
        have hmark : ∀ action, ({ b with uids := m, nulls := b.nulls.insert h } :
            Broker).markClientForDestruction env h action = _ := fun _ => mark_none hprev
        dsimp only
        rw [if_neg Bool.false_ne_true, hmark]
        exact .nowhere kind m uid ⟨hv, hproto⟩ ht htaken hkind hroom hprev
      | some prev => exact .admitted kind m uid prev ⟨hv, hproto⟩ ht htaken hkind hroom hprev
  obtain ⟨htype, hkind⟩ | ⟨htype, htype', hkind⟩ | ⟨htype, htype', hkind⟩ :=
    kindOf_cases cmsg.clientEntry.data.type
  · rw [if_pos htype]
    exact hsome .controller _ hkind _ rfl
  · rw [if_neg htype, if_pos htype']
    exact hsome .device _ hkind _ rfl
  · rw [if_neg htype, if_neg htype']
    exact .unknown m uid ⟨hv, hproto⟩ ht htaken hkind

/-! ### Admission in the registry -/

theorem lookup_insertNew_eq_put (m : Table Handle Nat) (h : Handle) (object : Nat) :
    (fun h' => (m.insertNew h object).lookup h') = Registry.put h object fun h' => m.lookup h' := by
  funext h'
  unfold Registry.put
  by_cases hm : h ∈ m
  · rw [insertNew, if_pos hm, if_pos (AList.lookup_isSome.mpr hm)]
  · rw [lookup_insertNew hm, if_neg fun hs => hm (AList.lookup_isSome.mp hs)]
    by_cases hh : h' = h
    · rw [hh, if_pos rfl, update_self]
    · rw [if_neg hh, update_of_ne hh]

theorem newRpt_hasRoom {kind : ClientKind} {object maxQSize : Nat} {entry : RptClientEntry}
    {now : Nat} : (newRpt kind object maxQSize entry now c).hasRoomToPush = true :=
  hasRoomToPush_of_empty (newRpt_queueSize ..)

theorem registry_enrol (hpk : env.pal.Packs) (kind : ClientKind) (h : Handle)
    (entry : RptClientEntry) (now : Nat) (prev : BrokerClient) :
    (b.enrol env kind h entry now prev).registry = b.registry.admitted h kind entry prev.ident := by
  unfold enrol welcome
  dsimp only
  rw [registry_sendClientsAdded, push_connectReply hpk _ _ rfl newRpt_hasRoom]
  ext1
  · funext h'
    show (((b.clients.insert h _).insert h _).lookup h').map (·.ident) =
      Function.update b.registry.clients h _ h'
    rw [lookup_insert_eq, lookup_insert_eq]
    by_cases hh : h' = h
    · rw [if_pos hh, hh, update_self]
      rfl
    · rw [if_neg hh, if_neg hh, update_of_ne hh]
      rfl
  · exact lookup_insertNew_eq_put b.rptClients h b.nextObject
  · show (fun h' => (if kind = .controller then b.controllers.insertNew h b.nextObject
      else b.controllers).lookup h') = if kind = .controller then _ else _
    split
    · exact lookup_insertNew_eq_put b.controllers h b.nextObject
    · rfl
  · show (fun h' => (if kind = .controller then b.devices
      else b.devices.insertNew h b.nextObject).lookup h') = if kind = .controller then _ else _
    split
    · rfl
    · exact lookup_insertNew_eq_put b.devices h b.nextObject
  · rfl
  · rfl
  · rfl

/-! ### Events -/

def Event.closes : Event → Option Handle
  | .socketClosed h => some h
  | .service h true _ _ => some h
  | .messageReceived h msg _ =>
    if msg.vector = acnVectorRootBroker ∧ ofVector msg.broker.vector = .disconnect then
      some h
    else none
  | _ => none

def Event.connects : Event → Option (Handle × BrokerClientConnectMsg × Nat)
  | .messageReceived h msg now =>
    if msg.vector = acnVectorRootBroker ∧ ofVector msg.broker.vector = .connect then
      some (h, msg.broker.clientConnect, now)
    else none
  | _ => none

def Event.fetches : Event → Option Handle
  | .messageReceived h msg _ =>
    if msg.vector = acnVectorRootBroker ∧
        ofVector msg.broker.vector = .fetchClientList then some h
    else none
  | _ => none

/-- What an event does. -/
inductive Happens (env : BrokerEnv) (b : Broker) : Event → Broker → Prop
  | opens (h : Handle) (sock now : Nat) (hnew : b.clients.lookup h = none) (hnull : h ∉ b.nulls) :
      Happens env b (.newConnection h sock now) (b.handleNewConnection env h sock now)
  | connects (e : Event) (h : Handle) (cmsg : BrokerClientConnectMsg) (now : Nat)
      (he : e.connects = some (h, cmsg, now)) :
      Happens env b e (b.processConnectRequest env h cmsg now)
  | fetches (e : Event) (h : Handle) (he : e.fetches = some h) :
      Happens env b e (b.sendClientList env h)
  | closes (e : Event) (h : Handle) (action : ClientDestroyAction) (he : e.closes = some h)
      (hact : action = .doNothing ∨ action = .markSocketInvalid) :
      Happens env b e (b.markClientForDestruction env h action)
  | routes (h : Handle) (msg : RdmnetMessage) (now : Nat) :
      Happens env b (.messageReceived h msg now) (b.processRPTMessage env h msg).1
  | serves (h : Handle) (now : Nat) (res : Except EtcPalErr Nat) :
      Happens env b (.service h false now res) (b.serviceClient env h false now res)
  | sweeps : Happens env b .destroyMarkedClients b.destroyMarkedClients
  | ignores (h : Handle) (msg : RdmnetMessage) (now : Nat) :
      Happens env b (.messageReceived h msg now) b

theorem step_happens {b' : Broker} {e : Event} (hstep : b.step env e = some b') : Happens env b e b' := by
  unfold step at hstep
  cases e with
  | newConnection h sock now =>
    dsimp only at hstep
    split at hstep
    case isTrue => cases hstep
    rename_i hfree
    obtain rfl := Option.some.inj hstep
    refine .opens h sock now ?_ fun hn => hfree (.inr (.inl hn))
    exact AList.lookup_eq_none.mpr fun hm => hfree (.inl hm)
  | messageReceived h msg now =>
    obtain rfl := Option.some.inj hstep
    unfold handleSocketMessageReceived
    by_cases hb : msg.vector = acnVectorRootBroker
    · rw [if_pos hb]
      cases hk : ofVector msg.broker.vector with
      | connect => exact .connects _ _ _ _ (if_pos ⟨hb, hk⟩)
      | fetchClientList => exact .fetches _ _ (if_pos ⟨hb, hk⟩)
      | disconnect => exact .closes _ _ _ (if_pos ⟨hb, hk⟩) (.inl rfl)
      | _ => exact .ignores ..
    · rw [if_neg hb]
      split
      · exact .routes ..
      · exact .ignores ..
  | socketClosed h =>
    obtain rfl := Option.some.inj hstep
    exact .closes _ _ _ rfl (.inr rfl)
  | service h expired now res =>
    obtain rfl := Option.some.inj hstep
    cases expired with
    | true => exact .closes _ _ _ rfl (.inl rfl)
    | false => exact .serves ..
  | destroyMarkedClients =>
    obtain rfl := Option.some.inj hstep
    exact .sweeps

theorem registry_clients_some (hc : b.clients.lookup h = some c) : b.registry.clients h = some c.ident := by
  show (b.clients.lookup h).map (·.ident) = _
  rw [hc]
  rfl

theorem registry_serviceClient {now : Nat} {res : Except EtcPalErr Nat} :
    (b.serviceClient env h false now res).registry = b.registry := by
  unfold serviceClient
  rw [if_neg Bool.false_ne_true]
  cases hc : b.clients.lookup h with
  | none => rfl
  | some c => exact registry_insert_same _ hc ident_send

/-! ### Sample requests -/

def sampleEnv : BrokerEnv :=
  ⟨.reference, .reference, ⟨default, ⟨0x1234, 1⟩, [], {}⟩⟩

def brokerMsg (msg : BrokerMessage) : RdmnetMessage :=
  { (default : RdmnetMessage) with vector := acnVectorRootBroker, broker := msg }

def connectRequest (entry : RptClientEntry) : RdmnetMessage :=
  brokerMsg { (default : BrokerMessage) with
    vector := connect.vector
    clientConnect := { (default : BrokerClientConnectMsg) with
      e133Version, clientEntry := ⟨kClientProtocolRPT, entry⟩ } }

def disconnectRequest : RdmnetMessage :=
  brokerMsg { (default : BrokerMessage) with vector := BrokerKind.disconnect.vector }

/-- A controller with static UID 0001:`id`. -/
def controllerEntry (id : UInt32) : RptClientEntry :=
  ⟨default, ⟨1, id⟩, kRPTClientTypeController, default⟩

def deviceEntry : RptClientEntry := ⟨default, ⟨0x8001, 0⟩, kRPTClientTypeDevice, default⟩

end Broker

end RDMnet
