import RDMnet.Broker.Objects

/-!
# Every Connect request is decided

`Broker.Decided`: a Connect request is answered with one Connect Reply, and the client is accepted or
marked for destruction.  This fails for a client type that the broker does not know, for a component
whose UID another client has, and for a handle that another client of the same type has left behind in
its map.
-/

namespace RDMnet

open List UidManager Table

/-! ### Looking for a dynamic UID -/

namespace UidManager

theorem findDynamicUid_passes (uidLookup : Table RdmUid UidData) (turns : Nat) :
    ∀ (new : RdmUid) (next : UInt32), (findDynamicUid uidLookup turns new next).1 ∈ uidLookup →
      ∀ j < turns, next + .ofNat j = 0 ∨ ({ new with id := next + .ofNat j } : RdmUid) ∈ uidLookup := by
  induction turns with
  | zero => exact fun _ _ _ j hj => absurd hj (Nat.not_lt_zero j)
  | succ turns ih =>
    intro new next hmem j hj
    unfold findDynamicUid at hmem
    dsimp only at hmem
    split at hmem
    case isFalse hfree => exact absurd (.inr hmem) hfree
    rename_i hpass
    cases j with
    | zero =>
      rw [show next + UInt32.ofNat 0 = next from UInt32.add_zero next]
      exact hpass.imp_left fun h1 => by simpa using h1
    | succ j =>
      have hnext : next + UInt32.ofNat (j + 1) = next + 1 + UInt32.ofNat j := by
        rw [UInt32.ofNat_add, UInt32.add_comm (UInt32.ofNat j), UInt32.add_assoc]
        rfl
      rw [hnext]
      exact ih _ _ hmem j (Nat.lt_of_succ_lt_succ hj)

/-- **The loop finds a UID that is not in use**: more IDs are tried than there are UIDs. -/
theorem findDynamicUid_notMem {uidLookup : Table RdmUid UidData} (new : RdmUid) (next : UInt32)
    (hsize : uidLookup.size + 2 ≤ 2 ^ 32) :
    (findDynamicUid uidLookup (uidLookup.size + 2) new next).1 ∉ uidLookup := by
  intro hmem
  have hpass := findDynamicUid_passes uidLookup _ new next hmem
  set n := uidLookup.size + 2 with hn
  -- the IDs that are tried are distinct
  have hnodup : ((List.range n).map fun j => next + UInt32.ofNat j).Nodup := by
    refine nodup_range.map_on fun j hj k hk heq => ?_
    have heq' : UInt32.ofNat j = UInt32.ofNat k := by simpa using heq
    have := congrArg UInt32.toNat heq'
    rw [mem_range] at hj hk
    rw [UInt32.toNat_ofNat', UInt32.toNat_ofNat', Nat.mod_eq_of_lt (by omega),
      Nat.mod_eq_of_lt (by omega)] at this
    exact this
  have hinj : Function.Injective fun id : UInt32 => ({ new with id } : RdmUid) := by
    intro a b hab
    exact congrArg RdmUid.id hab
  have hsub : ((((List.range n).map fun j => next + UInt32.ofNat j).erase 0).map
      fun id : UInt32 => ({ new with id } : RdmUid)) ⊆ uidLookup.keys := by
    intro u hu
    obtain ⟨id, hid, rfl⟩ := mem_map.mp hu
    obtain ⟨hne, hid⟩ := hnodup.mem_erase_iff.mp hid
    obtain ⟨j, hj, rfl⟩ := mem_map.mp hid
    exact AList.mem_keys.mp ((hpass j (mem_range.mp hj)).resolve_left hne)
  have hlen := ((hnodup.erase 0).map hinj).length_le_of_subset hsub
  rw [length_map, ← size_eq_length_keys] at hlen
  have hpred : n ≤ (((List.range n).map fun j => next + UInt32.ofNat j).erase 0).length + 1 := by
    rw [length_erase, length_map, length_range]
    split <;> omega
  omega

end UidManager

/-! ### Clients that have not connected yet -/

namespace BrokerClient

variable {pal : EtcPal} {c c' : BrokerClient}

def Quiet (c : BrokerClient) : Prop :=
  c.kind = .pending → c.markedForDestruction = false → c.brokerMsgs = []

theorem Quiet.of_rpt (h : c.kind ≠ .pending) : c.Quiet := fun hp => absurd hp h

theorem Quiet.of_ident (hid : c'.ident = c.ident) (h : c.kind ≠ .pending) : c'.Quiet :=
  .of_rpt fun hp => h ((congrArg ClientIdent.kind hid).symm.trans hp)

variable {cid : Uuid}

theorem pushRpt_pending {from' : Handle} {msg : RptMessage} (h : c.kind = .pending) :
    c.pushRpt pal from' cid msg = (c, .error) := by
  unfold pushRpt
  rw [h]

theorem Quiet.pushRpt (hq : c.Quiet) {from' : Handle} {msg : RptMessage} :
    (c.pushRpt pal from' cid msg).1.Quiet := by
  by_cases h : c.kind = .pending
  · rw [pushRpt_pending h]
    exact hq
  · exact .of_ident ident_pushRpt h

theorem Quiet.send (hq : c.Quiet) {now : Nat} {res : Except EtcPalErr Nat} :
    (c.send pal cid now res).1.Quiet := by
  intro hp hm
  have hid : (c.send pal cid now res).1.ident = c.ident := ident_send
  have hkind : c.kind = .pending := (congrArg ClientIdent.kind hid).symm.trans hp
  have hmsgs := hq hkind ((congrArg ClientIdent.marked hid).symm.trans hm)
  have hpick : c.pick = none := by
    unfold pick
    rw [hkind, hmsgs]
  unfold BrokerClient.send
  rw [hpick]
  dsimp only
  split
  · unfold sendNull
    dsimp only
    split
    · exact hmsgs
    · exact hmsgs
  · exact hmsgs

end BrokerClient

namespace Broker

variable {env : BrokerEnv} {b b' : Broker} {h : Handle} {c : BrokerClient}

def Quiet (b : Broker) : Prop := ∀ h c, b.clients.lookup h = some c → c.Quiet

theorem Quiet.insert (hq : b.Quiet) (hc : c.Quiet) (hb : b'.clients = b.clients.insert h c) : b'.Quiet := by
  intro h' c' hc'
  rw [hb, lookup_insert_eq] at hc'
  split at hc'
  · cases hc'
    exact hc
  · exact hq h' c' hc'

theorem Quiet.updateAll (hq : b.Quiet) (m : Table Handle Nat) {f : Handle → BrokerClient → BrokerClient}
    (hf : ∀ h c, b.clients.lookup h = some c → m.lookup h = some c.object → (f h c).Quiet) :
    (b.updateAll m f).Quiet := by
  intro h c hc
  unfold Broker.updateAll at hc
  rw [lookup_map] at hc
  obtain ⟨c', hc', rfl⟩ := Option.map_eq_some_iff.mp hc
  split
  · exact hf h c' hc' ‹_›
  · exact hq h c' hc'

theorem kind_of_controllers (hs : b.registry.Sane) (hc : b.clients.lookup h = some c)
    (hp : b.controllers.lookup h = some c.object) : c.kind = .controller :=
  (hs.controllers h _ hp).2 c.ident (registry_clients_some hc) rfl

variable {entries : List RptClientEntry}

theorem ident_push_list {vector : UInt16} (hv : vector ≠ BrokerKind.connectReply.vector) :
    (c.push env.pal env.settings.cid (rptClientListMsg vector entries)).1.ident = c.ident :=
  BrokerClient.ident_push fun _ hout => isOkReply_list hv hout

def ControllersAccepted (b : Broker) : Prop :=
  ∀ h c, b.clients.lookup h = some c → b.controllers.lookup h = some c.object → c.kind ≠ .pending

theorem controllersAccepted_of_sane (hs : b.registry.Sane) : b.ControllersAccepted := by
  intro h c hc hp
  rw [kind_of_controllers hs hc hp]
  decide

theorem Quiet.sendClientsAdded (hk : b.ControllersAccepted) (hq : b.Quiet) {ignore : Handle} :
    (b.sendClientsAdded env ignore entries).Quiet := by
  refine hq.updateAll _ fun h c hc hp => ?_
  split
  · exact .of_ident (ident_push_list (by decide)) (hk h c hc hp)
  · exact hq h c hc

theorem Quiet.sendClientsRemoved (hk : b.ControllersAccepted) (hq : b.Quiet) :
    (b.sendClientsRemoved env entries).Quiet :=
  hq.updateAll _ fun h c hc hp => .of_ident (ident_push_list (by decide)) (hk h c hc hp)

theorem Quiet.mark (hs : b.registry.Sane) (hq : b.Quiet) {action : ClientDestroyAction}
    (ha : action ≠ .sendConnectReply kRdmnetConnectOk) : (b.markClientForDestruction env h action).Quiet := by
  cases hc : b.clients.lookup h with
  | none => rwa [mark_none hc]
  | some c =>
    have hid : (c.markForDestruction env.pal env.settings.cid env.myUid action).ident =
        { c.ident with marked := true } := BrokerClient.ident_markForDestruction ha
    unfold markClientForDestruction
    rw [hc]
    dsimp only
    set c' := c.markForDestruction env.pal env.settings.cid env.myUid action
    have hq' : Quiet { b with clients := b.clients.insert h c' } :=
      hq.insert (fun _ hm => absurd (congrArg ClientIdent.marked hid) (by
        rw [show c'.ident.marked = false from hm]
        exact Bool.false_ne_true)) rfl
    split
    · refine Quiet.sendClientsRemoved (b := { b with
        clients := b.clients.insert h c', uids := b.uids.removeUid c'.entry.uid }) ?_ hq'
      intro h' c'' hc'' hp
      dsimp only at hc'' hp
      rw [lookup_insert_eq] at hc''
      split at hc''
      · cases hc''
        have hne : c.kind ≠ .pending := controllersAccepted_of_sane hs h c hc (by
          rw [← ‹h' = h›, hp]
          exact congrArg some (congrArg ClientIdent.object hid))
        exact fun hp' => hne ((congrArg ClientIdent.kind hid).symm.trans hp')
      · exact controllersAccepted_of_sane hs h' c'' hc'' hp
    · exact hq'

theorem Quiet.enrol (hpk : env.pal.Packs) (hs : b.registry.Sane) (hq : b.Quiet) {kind : ClientKind}
    (hne : kind ≠ .pending) {entry : RptClientEntry} {now : Nat} {prev : BrokerClient} :
    (b.enrol env kind h entry now prev).Quiet := by
  unfold Broker.enrol welcome
  dsimp only
  rw [BrokerClient.push_connectReply hpk _ _ rfl newRpt_hasRoom]
  have hnew : ∀ c : BrokerClient, c.kind ≠ .pending →
      Quiet { b with clients := b.clients.insert h c } := fun _ hk => hq.insert (.of_rpt hk) rfl
  refine Quiet.sendClientsAdded ?_ ((hnew _ hne).insert (.of_rpt ?_) rfl)
  · intro h' c hc hp
    dsimp only at hc hp
    rw [lookup_insert_eq, lookup_insert_eq] at hc
    by_cases hh : h' = h
    · rw [if_pos hh] at hc
      cases hc
      exact hne
    · rw [if_neg hh, if_neg hh] at hc
      refine controllersAccepted_of_sane hs h' c hc ?_
      split at hp
      · have hput := congrFun (lookup_insertNew_eq_put b.controllers h b.nextObject) h'
        rw [hput] at hp
        unfold Registry.put at hp
        split at hp
        · exact hp
        · rwa [Function.update_of_ne hh] at hp
      · exact hp
  · exact hne

theorem Quiet.processRPTMessage (hq : b.Quiet) {msg : RdmnetMessage} :
    (b.processRPTMessage env h msg).1.Quiet := by
  have hroute : (b.routeRPTMessage env h msg).1.Quiet := by
    have hmany : ∀ m filter, (b.pushToRptClients env h msg m filter).1.Quiet := by
      intro m filter
      unfold pushToRptClients
      split
      · exact hq
      · refine hq.updateAll m fun h' c hc _ => ?_
        split
        · exact (hq h' c hc).pushRpt
        · exact hq h' c hc
    have hone : (b.pushToSpecificRptClient env h msg).1.Quiet := by
      unfold pushToSpecificRptClient
      split
      · exact hq
      · split
        · exact hq
        · rename_i c hc
          exact hq.insert (hq _ c (Option.filter_eq_some_iff.mp hc).1).pushRpt rfl
    have hpush : (b.pushToDestination env h msg).1.Quiet := by
      unfold pushToDestination
      dsimp only
      split
      · exact hmany _ _
      split
      · exact hmany _ _
      split
      · exact hmany _ _
      · exact hone
    unfold routeRPTMessage
    dsimp only
    split <;> exact hpush
  unfold Broker.processRPTMessage
  cases hc : b.clients.lookup h with
  | none => exact hq
  | some c =>
    dsimp only
    have hstatus : c.isRpt = true → ∀ code, (b.sendStatus env h c msg.rpt.header code).1.Quiet := by
      intro hrpt code
      have hins : Quiet { b with clients := b.clients.insert h (c.pushStatus env.pal
          env.settings.cid (statusHeader msg.rpt.header) ⟨code, none⟩).1 } :=
        hq.insert (.of_ident BrokerClient.ident_pushStatus ((ident_kind c).mp hrpt)) rfl
      unfold sendStatus
      dsimp only
      split <;> exact hins
    by_cases hrpt : c.isRpt = true
    · rw [hrpt, if_neg (by decide)]
      repeat' split
      all_goals first | exact hq | exact hroute | exact hstatus hrpt _
    · rw [Bool.not_eq_true _ |>.mp hrpt]
      exact hq

theorem quiet_step (hpk : env.pal.Packs) (e : Event) (hs : b.registry.Sane) (hq : b.Quiet)
    (hstep : b.step env e = some b') : b'.Quiet := by
  cases step_happens hstep with
  | opens h sock now hnew hnull =>
    unfold handleNewConnection
    dsimp only
    split
    · exact hq.insert (fun _ _ => rfl) rfl
    · exact hq
  | connects _ h cmsg now he =>
    have hd := processConnectRequest_decides env h cmsg now b
    generalize b.processConnectRequest env h cmsg now = b' at hd ⊢
    have hsane : ∀ m, m.maxUidCapacity = b.uids.maxUidCapacity →
        (registry { b with uids := m }).Sane := fun m hm => hs.changes (.withUids m hm)
    cases hd with
    | refused status hst hnot => exact hq.mark hs fun hact => hst (by cases hact; rfl)
    | full kind m uid hp ht htaken =>
      have hcap := (maxUidCapacity_removeUid m uid).trans
        (maxUidCapacity_taken htaken)
      exact Quiet.mark (b := { b with uids := m.removeUid uid }) (hsane _ hcap) hq (by decide)
    | nowhere => exact hq
    | admitted kind m uid prev hp ht htaken hkind =>
      exact Quiet.enrol (b := { b with uids := m }) hpk
        (hsane m (maxUidCapacity_taken htaken)) hq (kindOf_ne_pending hkind)
    | unknown => exact hq
  | fetches _ h he =>
    unfold sendClientList
    cases hc : b.clients.lookup h with
    | none => exact hq
    | some c =>
      dsimp only
      split
      · rename_i hrpt
        exact hq.insert (.of_ident (ident_push_list (by decide)) ((ident_kind c).mp hrpt.1)) rfl
      · exact hq
  | closes _ h action he hact =>
    refine hq.mark hs ?_
    rintro rfl
    obtain hact | hact := hact <;> cases hact
  | routes => exact hq.processRPTMessage
  | serves h now res =>
    unfold serviceClient
    rw [if_neg Bool.false_ne_true]
    cases hc : b.clients.lookup h with
    | none => exact hq
    | some c => exact hq.insert (hq h c hc).send rfl
  | sweeps =>
    intro h c hc
    unfold destroyMarkedClients at hc
    dsimp only at hc
    rw [lookup_eraseAll] at hc
    split at hc
    · cases hc
    · exact hq h c hc
  | ignores => exact hq

theorem quiet_of_runs (hpk : env.pal.Packs) (hr : Runs (step env) anyStep (start env) b) :
    b.registry.Sane ∧ b.Quiet := by
  refine hr.keeps (I := fun b => b.registry.Sane ∧ b.Quiet) ?_ ⟨Registry.Sane.start _, ?_⟩
  · exact fun e _ _ _ h hstep => ⟨sane_step hpk e h.1 hstep, quiet_step hpk e h.1 h.2 hstep⟩
  · rintro h c ⟨⟩

end Broker

/-! ### Connect Replies -/

def Outgoing.reply? : Outgoing → Option BrokerConnectReplyMsg
  | .connectReply _ data => some data
  | _ => none

def BrokerClient.replies (c : BrokerClient) : List BrokerConnectReplyMsg :=
  c.brokerMsgs.filterMap (·.msg.2.reply?)

namespace Broker

variable {env : BrokerEnv} {b b' : Broker} {h : Handle} {c : BrokerClient}

theorem mark_pending (hpk : env.pal.Packs) (hc : b.clients.lookup h = some c)
    (hpend : c.kind = .pending) (hmark : c.markedForDestruction = false) (status : UInt16) :
    ∃ c' handles, b.markClientForDestruction env h (.sendConnectReply status) =
        { b with clients := b.clients.insert h c', clientsToDestroy := handles } ∧
      c'.markedForDestruction = true ∧
      c'.replies = [⟨status, e133Version, env.myUid, default⟩] := by
  have hreply := BrokerClient.markForDestruction_reply hpk env.settings.cid env.myUid status hmark
  have hclear : c.clearAllQueues.kind = .pending ∧ c.clearAllQueues.brokerMsgs = [] := by
    unfold BrokerClient.clearAllQueues
    simp [hpend]
  refine ⟨c.markForDestruction env.pal env.settings.cid env.myUid (.sendConnectReply status),
    b.clientsToDestroy.insert (c.markForDestruction env.pal env.settings.cid env.myUid
      (.sendConnectReply status)).handle, ?_, rfl, ?_⟩
  · unfold markClientForDestruction
    rw [hc]
    dsimp only
    rw [if_neg fun hrpt => (ident_kind _).mp hrpt (by rw [hreply]; exact hclear.1)]
  · rw [hreply]
    show (c.clearAllQueues.brokerMsgs ++ [_]).filterMap _ = _
    rw [hclear.2]
    rfl

theorem lookup_sendClientsAdded (env : BrokerEnv) (entries : List RptClientEntry) (b : Broker)
    (h : Handle) : (b.sendClientsAdded env h entries).clients.lookup h = b.clients.lookup h := by
  unfold sendClientsAdded updateAll
  dsimp only
  rw [lookup_map]
  cases b.clients.lookup h with
  | none => rfl
  | some c => simp

theorem enrol_client (hpk : env.pal.Packs) (kind : ClientKind) (entry : RptClientEntry) (now : Nat)
    (prev : BrokerClient) :
    ∃ c', (b.enrol env kind h entry now prev).clients.lookup h = some c' ∧ c'.object = b.nextObject ∧
      c'.replies = [⟨kRdmnetConnectOk, e133Version, env.myUid, entry.uid⟩] := by
  unfold enrol welcome
  dsimp only
  rw [BrokerClient.push_connectReply hpk _ _ rfl newRpt_hasRoom]
  rw [lookup_sendClientsAdded]
  dsimp only
  rw [lookup_insert_eq, if_pos rfl]
  exact ⟨_, rfl, rfl, rfl⟩

/-- The Connect request of the client at `h` is decided: it is accepted and known by the UID that it
is told, or it is refused, marked for destruction, and no UID or map has changed. -/
def Decided (h : Handle) (b b' : Broker) : Prop :=
  ∃ c' reply, b'.clients.lookup h = some c' ∧ c'.replies = [reply] ∧
    ((reply.connectStatus = kRdmnetConnectOk ∧ b'.rptClients.lookup h = some c'.object ∧
        (b'.controllers.lookup h = some c'.object ∨ b'.devices.lookup h = some c'.object) ∧
        b'.uids.uidToHandle reply.clientUid = some h) ∨
      (reply.connectStatus ≠ kRdmnetConnectOk ∧ c'.markedForDestruction = true ∧
        (∀ uid, b'.uids.uidToHandle uid = b.uids.uidToHandle uid) ∧ b'.rptClients = b.rptClients ∧
        b'.controllers = b.controllers ∧ b'.devices = b.devices))

/-- A Connect request that passes the checks, and whose UID the manager takes, is from a client of a
known type; if there is room for it, its handle is not in the map of its type, and the UID that is
reserved for it, if there is one, is not that of another client. -/
def Decidedly (env : BrokerEnv) (h : Handle) (cmsg : BrokerClientConnectMsg) (b : Broker) : Prop :=
  Proper env cmsg → b.uids.Takes env.rdm cmsg.clientEntry.data →
    ∃ kind, kindOf cmsg.clientEntry.data.type = some kind ∧
      (HasRoomFor env b kind → h ∉ b.pointers kind) ∧
      (env.rdm.uidIsDynamicUidRequest cmsg.clientEntry.data.uid = true →
        ∀ r, b.uids.reservations.lookup cmsg.clientEntry.data.cid = some r →
        ∀ h', b.uids.uidToHandle r.assignedUid = some h' → HasRoomFor env b kind ∧ h' = h)

theorem decided_mark (hpk : env.pal.Packs) (hc : b.clients.lookup h = some c)
    (hpend : c.kind = .pending) (hmark : c.markedForDestruction = false) (m : UidManager)
    {status : UInt16} (hs : status ≠ kRdmnetConnectOk) :
    Decided h b (({ b with uids := m } : Broker).markClientForDestruction env h
      (.sendConnectReply status)) ↔ ∀ uid, m.uidToHandle uid = b.uids.uidToHandle uid := by
  obtain ⟨c', handles, heq, hmarked, hreplies⟩ :=
    mark_pending (b := { b with uids := m }) hpk hc hpend hmark status
  rw [heq]
  have hlook : (b.clients.insert h c').lookup h = some c' := AList.lookup_insert _
  constructor
  · rintro ⟨c'', reply, hc'', hrep, hor⟩
    cases hlook.symm.trans hc''
    obtain ⟨hok, -⟩ | ⟨-, -, huids, -⟩ := hor
    · rw [hreplies] at hrep
      cases hrep
      exact absurd hok hs
    · exact huids
  · intro huids
    exact ⟨c', _, hlook, hreplies, .inr ⟨hs, hmarked, huids, rfl, rfl, rfl⟩⟩

theorem uidToHandle_taken {m : UidManager} {entry : RptClientEntry} {uid : RdmUid}
    (hsane : b.registry.Sane) (ht : b.uids.Takes env.rdm entry)
    (htaken : b.uids.Taken env.rdm h entry m uid) :
    (uid ∉ b.uids.uidLookup ∧ ∀ u, m.uidToHandle u = if u = uid then some h else b.uids.uidToHandle u) ∨
    (∃ h', env.rdm.uidIsDynamicUidRequest entry.uid = true ∧
      b.uids.reservations.lookup entry.cid = some ⟨uid, false⟩ ∧
      b.uids.uidToHandle uid = some h' ∧ m.uidLookup = b.uids.uidLookup) := by
  cases htaken with
  | static hdyn hstat hnew => exact .inl ⟨hnew, uidToHandle_insertNew hnew rfl⟩
  | returning _ hdyn hres =>
    by_cases hmem : uid ∈ b.uids.uidLookup
    · obtain ⟨h', hh'⟩ := mem_iff_uidToHandle.mp hmem
      exact .inr ⟨h', hdyn, hres, hh', if_pos hmem⟩
    · exact .inl ⟨hmem, uidToHandle_insertNew hmem rfl⟩
  | fresh _ next hdyn hres hfind =>
    have hsize : b.uids.uidLookup.size + 2 ≤ 2 ^ 32 := by
      have hlt := ht.1
      have hcap : b.uids.maxUidCapacity = 1000000 := hsane.capacity
      omega
    have hnew := findDynamicUid_notMem entry.uid b.uids.nextDeviceId hsize
    rw [hfind] at hnew
    exact .inl ⟨hnew, uidToHandle_insertNew hnew rfl⟩

theorem decided_enrol (hpk : env.pal.Packs) (hsane : b.registry.Sane)
    (hc : b.clients.lookup h = some c) (hpend : c.kind = .pending) (m : UidManager)
    (kind : ClientKind) (entry : RptClientEntry) (now : Nat) :
    Decided h b (({ b with uids := m } : Broker).enrol env kind h entry now c) ↔
      h ∉ b.pointers kind ∧ m.uidToHandle entry.uid = some h := by
  obtain ⟨c', hc', hobj, hreplies⟩ :=
    enrol_client (b := { b with uids := m }) (h := h) hpk kind entry now c
  have hrpt : h ∉ b.rptClients := by
    intro hmem
    obtain ⟨o, ho⟩ := mem_iff_lookup.mp hmem
    obtain ⟨i, hi, hne⟩ := hsane.rpt h o ho
    cases (registry_clients_some hc).symm.trans hi
    exact hne hpend
  have hptr : (b.pointers kind).lookup h ≠ some b.nextObject := by
    intro hp
    unfold pointers at hp
    split at hp
    · exact Nat.lt_irrefl _ (hsane.controllers h _ hp).1
    · exact Nat.lt_irrefl _ (hsane.devices h _ hp).1
  -- the other map is left alone, and has no pointer to the new object
  have hmaps : (({ b with uids := m } : Broker).enrol env kind h entry now c).controllers.lookup h =
        some b.nextObject ∨
      (({ b with uids := m } : Broker).enrol env kind h entry now c).devices.lookup h =
        some b.nextObject ↔ ((b.pointers kind).insertNew h b.nextObject).lookup h =
          some b.nextObject := by
    show (if kind = .controller then b.controllers.insertNew h b.nextObject else b.controllers).lookup h = _ ∨
      (if kind = .controller then b.devices else b.devices.insertNew h b.nextObject).lookup h = _ ↔ _
    unfold pointers
    by_cases hk : kind = .controller
    · rw [if_pos hk, if_pos hk, if_pos hk]
      exact or_iff_left fun hp => Nat.lt_irrefl _ (hsane.devices h _ hp).1
    · rw [if_neg hk, if_neg hk, if_neg hk]
      exact or_iff_right fun hp => Nat.lt_irrefl _ (hsane.controllers h _ hp).1
  have hnew : ((b.pointers kind).insertNew h b.nextObject).lookup h = some b.nextObject ↔
      h ∉ b.pointers kind := by
    by_cases hmem : h ∈ b.pointers kind
    · rw [insertNew, if_pos hmem]
      exact iff_of_false hptr (not_not.mpr hmem)
    · rw [lookup_insertNew hmem, if_pos rfl]
      exact iff_of_true rfl hmem
  constructor
  · rintro ⟨c'', reply, hc'', hrep, hor⟩
    cases hc'.symm.trans hc''
    rw [hreplies] at hrep
    cases hrep
    obtain ⟨-, -, hin, huid⟩ | ⟨hnok, -⟩ := hor
    · rw [hobj] at hin
      exact ⟨hnew.mp (hmaps.mp hin), huid⟩
    · exact absurd rfl hnok
  · rintro ⟨hmem, huid⟩
    refine ⟨c', _, hc', hreplies, .inl ⟨rfl, ?_, ?_, huid⟩⟩
    · rw [hobj]
      exact (lookup_insertNew hrpt).trans (if_pos rfl)
    · rw [hobj]
      exact hmaps.mpr (hnew.mpr hmem)

/-- **Every Connect request is decided**, in every state that can be reached, if and only if it is of a
known type or refused, its handle is new in the map of its type, and its UID is not that of another
client. -/
theorem connect_decided_iff (hpk : env.pal.Packs) (hr : Runs (step env) anyStep (start env) b)
    (hc : b.clients.lookup h = some c) (hnot : c.replied = false)
    (hmark : c.markedForDestruction = false) (cmsg : BrokerClientConnectMsg) (now : Nat) :
    Decided h b (b.processConnectRequest env h cmsg now) ↔ Decidedly env h cmsg b := by
  obtain ⟨hsane, hquiet⟩ := quiet_of_runs hpk hr
  have hpend : c.kind = .pending := by
    by_contra hne
    have := (hsane.replied h c.ident (registry_clients_some hc)).mpr hne
    rw [show c.ident.replied = false from hnot] at this
    cases this
  have hd := processConnectRequest_decides env h cmsg now b
  generalize b.processConnectRequest env h cmsg now = b' at hd ⊢
  cases hd with
  | refused status hs hrefused =>
    refine iff_of_true ((decided_mark hpk hc hpend hmark b.uids hs).mpr fun _ => rfl) ?_
    exact fun hp ht => absurd ⟨hp, ht⟩ hrefused
  | full kind m uid hp ht htaken hkind hfull =>
    rw [decided_mark hpk hc hpend hmark (m.removeUid uid) (by decide)]
    have hiff : Decidedly env h cmsg b ↔
        (env.rdm.uidIsDynamicUidRequest cmsg.clientEntry.data.uid = true →
          ∀ r, b.uids.reservations.lookup cmsg.clientEntry.data.cid = some r →
          r.assignedUid ∉ b.uids.uidLookup) := by
      constructor
      · intro hdec hdyn r hres hmem
        obtain ⟨kind', hkind', -, hfree⟩ := hdec hp ht
        cases hkind.symm.trans hkind'
        obtain ⟨h', hh'⟩ := mem_iff_uidToHandle.mp hmem
        exact hfull (hfree hdyn r hres h' hh').1
      · intro hfree _ _
        refine ⟨kind, hkind, fun hroom => absurd hroom hfull, fun hdyn r hres h' hh' => ?_⟩
        exact absurd (mem_iff_uidToHandle.mpr ⟨h', hh'⟩) (hfree hdyn r hres)
    rw [hiff]
    obtain ⟨hnew, huids⟩ | ⟨h', hdyn, hres, hh', hsame⟩ := uidToHandle_taken hsane ht htaken
    · refine iff_of_true (uidToHandle_takeBack hnew huids) fun hdyn r hres hmem => ?_
      cases htaken with
      | static hdyn' => exact absurd (hdyn'.symm.trans hdyn) Bool.false_ne_true
      | returning _ _ hres' =>
        cases hres'.symm.trans hres
        exact hnew hmem
      | fresh _ _ _ hres' => cases hres'.symm.trans hres
    · refine iff_of_false (fun heq => ?_) fun hfree => ?_
      · have := heq uid
        rw [uidToHandle_removeUid, if_pos rfl, hh'] at this
        cases this
      · exact hfree hdyn _ hres (mem_iff_uidToHandle.mpr ⟨h', hh'⟩)
  | nowhere kind m uid hp ht htaken hkind hroom hnone =>
    rw [hc] at hnone
    cases hnone
  | admitted kind m uid prev hp ht htaken hkind hroom hprev =>
    cases hc.symm.trans hprev
    rw [decided_enrol hpk hsane hc hpend m kind]
    obtain ⟨hnew, huids⟩ | ⟨h', hdyn, hres, hh', hsame⟩ := uidToHandle_taken hsane ht htaken
    · have huid : m.uidToHandle uid = some h := by rw [huids, if_pos rfl]
      constructor
      · rintro ⟨hmem, -⟩ _ _
        refine ⟨kind, hkind, fun _ => hmem, fun hdyn r hres h' hh' => ?_⟩
        refine absurd (mem_iff_uidToHandle.mpr ⟨h', hh'⟩) ?_
        cases htaken with
        | static hdyn' => exact absurd (hdyn'.symm.trans hdyn) Bool.false_ne_true
        | returning _ _ hres' =>
          cases hres'.symm.trans hres
          exact hnew
        | fresh _ _ _ hres' => cases hres'.symm.trans hres
      · intro hdec
        obtain ⟨kind', hkind', hmem, -⟩ := hdec hp ht
        cases hkind.symm.trans hkind'
        exact ⟨hmem hroom, huid⟩
    · have huid : m.uidToHandle uid = some h' := by
        unfold uidToHandle at hh' ⊢
        rwa [hsame]
      constructor
      · rintro ⟨hmem, hown⟩ _ _
        refine ⟨kind, hkind, fun _ => hmem, fun _ r hres' h'' hh'' => ⟨hroom, ?_⟩⟩
        cases hres.symm.trans hres'
        cases hh'.symm.trans hh''
        exact Option.some.inj (huid.symm.trans hown)
      · intro hdec
        obtain ⟨kind', hkind', hmem, hfree⟩ := hdec hp ht
        cases hkind.symm.trans hkind'
        refine ⟨hmem hroom, ?_⟩
        rw [← (hfree hdyn _ hres h' hh').2]
        exact huid
  | unknown m uid hp ht htaken hkind =>
    refine iff_of_false ?_ fun hdec => ?_
    · rintro ⟨c', reply, hc', hrep, -⟩
      cases hc.symm.trans hc'
      rw [BrokerClient.replies, hquiet h c hc hpend hmark] at hrep
      cases hrep
    · obtain ⟨kind, hkind', -⟩ := hdec hp ht
      rw [hkind] at hkind'
      cases hkind'

def sampleOpened : Broker := (start sampleEnv).handleNewConnection sampleEnv 0 0 0

theorem sampleOpened_reached : Runs (step sampleEnv) anyStep (start sampleEnv) sampleOpened :=
  .of_play [.newConnection 0 0 0] rfl

/-- A controller with a static UID is accepted. -/
theorem connect_decided_controller : Decided 0 sampleOpened (sampleOpened.processConnectRequest
    sampleEnv 0 (connectRequest (controllerEntry 7)).broker.clientConnect 0) := by
  refine (connect_decided_iff (c := .new 0 0 0 0) EtcPal.reference_packs sampleOpened_reached rfl rfl
    rfl _ 0).mpr fun _ _ => ⟨.controller, by decide, fun _ => by decide, fun hdyn => ?_⟩
  exact absurd hdyn (by decide)

/-- A client of a type that is neither controller nor device is not answered. -/
theorem connect_undecided : ∃ b h c cmsg, Runs (step sampleEnv) anyStep (start sampleEnv) b ∧
    b.clients.lookup h = some c ∧ c.replied = false ∧ c.markedForDestruction = false ∧
    ¬ Decided h b (b.processConnectRequest sampleEnv h cmsg 0) := by
  refine ⟨sampleOpened, 0, .new 0 0 0 0,
    (connectRequest { controllerEntry 7 with type := 2 }).broker.clientConnect, sampleOpened_reached,
    rfl, rfl, rfl, ?_⟩
  rintro ⟨c, reply, hc, hreplies, -⟩
  have hnone : ((sampleOpened.processConnectRequest sampleEnv 0 (connectRequest
      { controllerEntry 7 with type := 2 }).broker.clientConnect 0).clients.lookup 0).map
      (·.replies.length) = some 0 := by decide +kernel
  rw [hc, Option.map_some, hreplies] at hnone
  cases hnone

end Broker

end RDMnet
