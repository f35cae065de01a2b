import RDMnet.Broker.Core
import RDMnet.Lib.Runs

/-!
# Who is who in a broker

The clients of a broker without their queues: which object each one is, of what class, whether it is
marked for destruction, and whether it was sent a Connect Reply with status OK; the maps that point to
the clients; and the UIDs.  Most of what a broker does leaves its registry as it is; the rest are the
operations below.
-/

namespace RDMnet

open List Function Table

/-! ### Clients without their queues -/

def Outgoing.isOkReply : Outgoing → Bool
  | .connectReply _ data => data.connectStatus = kRdmnetConnectOk
  | _ => false

/-- A client without its queues. -/
structure ClientIdent where
  object : Nat
  kind : ClientKind
  handle : Handle
  marked : Bool
  entry : RptClientEntry
  replied : Bool
  deriving DecidableEq

namespace BrokerClient

def replied (c : BrokerClient) : Bool := c.queued.any (·.2.isOkReply)

def ident (c : BrokerClient) : ClientIdent :=
  ⟨c.object, c.kind, c.handle, c.markedForDestruction, c.entry, c.replied⟩

variable {pal : EtcPal} {c : BrokerClient}

/-- A message that is put into a queue does not change the client, unless it is an OK. -/
theorem ident_enqueue {put : MessageRef → BrokerClient → BrokerClient} {msg : Uuid × Outgoing}
    (hput : ∀ m, (put m c).ident = c.ident) (hmsg : msg.2.isOkReply = false) :
    (c.enqueue pal put msg).1.ident = c.ident := by
  unfold enqueue
  split
  · rfl
  · rw [← hput ⟨c.queued.length, msg, 0⟩]
    have hreplied : (c.queued ++ [msg]).any (·.2.isOkReply) = c.replied := by
      rw [any_append, any_cons, any_nil, hmsg]
      simp [replied]
    have hput' := congrArg ClientIdent.replied (hput ⟨c.queued.length, msg, 0⟩)
    simp only [ident, replied, ClientIdent.mk.injEq, true_and] at hput' ⊢
    rw [hput']
    exact hreplied

theorem ident_checked {r : BrokerClient × ClientPushResult} (hr : r.1.ident = c.ident) :
    (c.checked r).1.ident = c.ident := by
  unfold checked
  split
  · rfl
  · split
    · rfl
    · exact hr

variable {senderCid : Uuid}

theorem ident_push {msg : BrokerMessage} (hmsg : ∀ out, brokerOutgoing msg = some out → out.isOkReply = false) :
    (c.push pal senderCid msg).1.ident = c.ident := by
  refine ident_checked ?_
  unfold pushPostSizeCheck
  split
  · rfl
  · cases hout : brokerOutgoing msg with
    | none => rfl
    | some out => exact ident_enqueue (fun _ => rfl) (hmsg out hout)

theorem ident_pushStatus {header : RptHeader} {msg : RptStatusMsg} :
    (c.pushStatus pal senderCid header msg).1.ident = c.ident :=
  ident_checked (ident_enqueue (fun _ => rfl) rfl)

theorem ident_pushRpt {fromConn : Handle} {msg : RptMessage} :
    (c.pushRpt pal fromConn senderCid msg).1.ident = c.ident := by
  have hreq : ∀ {put : MessageRef → BrokerClient → BrokerClient} {out : Outgoing},
      requestOutgoing msg = some out → (∀ m, (put m c).ident = c.ident) →
      (c.enqueue pal put (senderCid, out)).1.ident = c.ident := by
    intro put out hout hput
    refine ident_enqueue hput ?_
    obtain ⟨cmd, -, rfl⟩ := Option.map_eq_some_iff.mp hout
    rfl
  unfold pushRpt
  dsimp only
  cases c.kind with
  | pending => rfl
  | controller =>
    refine ident_checked ?_
    split
    · split
      · exact hreq ‹_› fun _ => rfl
      · rfl
    · split
      · exact ident_enqueue (fun _ => rfl) rfl
      · split
        · exact ident_enqueue (fun _ => rfl) rfl
        · rfl
  | device =>
    refine ident_checked ?_
    split
    · exact ident_enqueue (fun _ => rfl) rfl
    · split
      · split
        · exact hreq ‹_› fun _ => rfl
        · rfl
      · rfl

theorem ident_sendMessage {now : Nat} {res : Except EtcPalErr Nat} {q : Queue} {m : MessageRef} :
    (c.sendMessage pal now res q m).1.ident = c.ident := by
  unfold sendMessage
  dsimp only
  split
  · split
    · dsimp only
      split <;> cases q <;> rfl
    · cases q <;> rfl
  · cases q with
    | of h =>
      dsimp only
      split <;> rfl
    | _ => rfl

theorem ident_send {brokerCid : Uuid} {now : Nat} {res : Except EtcPalErr Nat} :
    (c.send pal brokerCid now res).1.ident = c.ident := by
  unfold send
  split
  · exact ident_sendMessage
  · split
    · unfold sendNull
      dsimp only
      split
      · have hreplied : (c.queued ++ [(brokerCid, Outgoing.null brokerNullFullMsgSize)]).any
            (·.2.isOkReply) = c.queued.any (·.2.isOkReply) := by
          rw [any_append]
          simp [Outgoing.isOkReply]
        simp only [ident, replied, accept, hreplied]
      · rfl
    · rfl

theorem ident_markForDestruction {brokerCid : Uuid} {brokerUid : RdmUid}
    {action : ClientDestroyAction} (ha : action ≠ .sendConnectReply kRdmnetConnectOk) :
    (c.markForDestruction pal brokerCid brokerUid action).ident = { c.ident with marked := true } := by
  have hclear : c.clearAllQueues.ident = c.ident := by
    unfold clearAllQueues
    cases hk : c.kind <;> simp [ident, replied, hk]
  have hact : (c.clearAllQueues.applyDestroyAction pal brokerCid brokerUid action).ident =
      c.ident := by
    cases action with
    | doNothing => exact hclear
    | markSocketInvalid => exact hclear
    | sendDisconnect reason =>
      refine (ident_push fun out hout => ?_).trans hclear
      cases hout
      rfl
    | sendConnectReply status =>
      refine (ident_push fun out hout => ?_).trans hclear
      cases hout
      refine decide_eq_false fun hok => ha ?_
      rw [show status = kRdmnetConnectOk from hok]
  show ({ (c.clearAllQueues.applyDestroyAction pal brokerCid brokerUid action).ident with
    marked := true } : ClientIdent) = _
  rw [hact]

end BrokerClient

/-! ### Registries -/

/-- The clients of a broker without their queues, the maps that point to them, and their UIDs. -/
@[ext] structure Registry where
  clients : Handle → Option ClientIdent
  rptClients : Handle → Option Nat
  controllers : Handle → Option Nat
  devices : Handle → Option Nat
  toDestroy : List Handle
  uids : UidManager
  nextObject : Nat

namespace Registry

/-- `insert` into a map of pointers. -/
def put (h : Handle) (object : Nat) (m : Handle → Option Nat) : Handle → Option Nat :=
  if (m h).isSome then m else update m h (some object)

def opened (h : Handle) (r : Registry) : Registry :=
  { r with
    clients := update r.clients h (some ⟨r.nextObject, .pending, h, false, default, false⟩)
    nextObject := r.nextObject + 1 }

def marked (h : Handle) (i : ClientIdent) (r : Registry) : Registry :=
  { r with
    clients := update r.clients h (some { i with marked := true })
    uids := if i.kind = .pending then r.uids else r.uids.removeUid i.entry.uid
    toDestroy := r.toDestroy.insert i.handle }

/-- An RPT client takes the place of client `i`. -/
def admitted (h : Handle) (kind : ClientKind) (entry : RptClientEntry) (i : ClientIdent)
    (r : Registry) : Registry :=
  { r with
    clients := update r.clients h (some ⟨r.nextObject, kind, i.handle, false, entry, true⟩)
    rptClients := put h r.nextObject r.rptClients
    controllers := if kind = .controller then put h r.nextObject r.controllers else r.controllers
    devices := if kind = .controller then r.devices else put h r.nextObject r.devices
    nextObject := r.nextObject + 1 }

def Doomed (r : Registry) (p : ClientIdent → Prop) (h : Handle) : Prop :=
  h ∈ r.toDestroy ∧ ∃ i, r.clients h = some i ∧ p i

open Classical in
noncomputable def swept (r : Registry) : Registry :=
  { r with
    clients := fun h => if h ∈ r.toDestroy then none else r.clients h
    rptClients := fun h => if r.Doomed (·.kind ≠ .pending) h then none else r.rptClients h
    controllers := fun h =>
      if r.Doomed (fun i => i.kind ≠ .pending ∧ i.entry.type = kRPTClientTypeController) h then none
      else r.controllers h
    devices := fun h =>
      if r.Doomed (fun i => i.kind ≠ .pending ∧ i.entry.type = kRPTClientTypeDevice) h then none
      else r.devices h
    toDestroy := [] }

variable {r : Registry} {h : Handle} {i : ClientIdent}

theorem forall_update {P : Handle → ClientIdent → Prop} {clients : Handle → Option ClientIdent}
    {j : ClientIdent} (hj : P h j) (hold : ∀ h' i, h' ≠ h → clients h' = some i → P h' i) :
    ∀ h' i, update clients h (some j) h' = some i → P h' i := by
  intro h' i hi
  by_cases hh : h' = h
  · rw [hh, update_self] at hi
    cases hi
    exact hh ▸ hj
  · rw [update_of_ne hh] at hi
    exact hold h' i hh hi

theorem clients_swept : r.swept.clients h = some i ↔ r.clients h = some i ∧ h ∉ r.toDestroy := by
  by_cases hd : h ∈ r.toDestroy
  · rw [show r.swept.clients h = none from if_pos hd]
    simp [hd]
  · rw [show r.swept.clients h = r.clients h from if_neg hd]
    simp [hd]

end Registry

namespace Broker

def registry (b : Broker) : Registry where
  clients := fun h => (b.clients.lookup h).map (·.ident)
  rptClients := fun h => b.rptClients.lookup h
  controllers := fun h => b.controllers.lookup h
  devices := fun h => b.devices.lookup h
  toDestroy := b.clientsToDestroy
  uids := b.uids
  nextObject := b.nextObject

variable {env : BrokerEnv} {b : Broker} {h : Handle} {c : BrokerClient}

/-! ### What leaves the registry as it is -/

theorem registry_updateAll (m : Table Handle Nat) {f : Handle → BrokerClient → BrokerClient}
    (hf : ∀ h c, (f h c).ident = c.ident) : (b.updateAll m f).registry = b.registry := by
  have hclients : (b.updateAll m f).registry.clients = b.registry.clients := by
    funext h
    show ((b.updateAll m f).clients.lookup h).map (·.ident) = (b.clients.lookup h).map (·.ident)
    unfold updateAll
    rw [lookup_map, Option.map_map]
    congr 1
    funext c
    show (if _ then _ else _ : BrokerClient).ident = c.ident
    split
    · exact hf h c
    · rfl
  ext1
  · exact hclients
  all_goals rfl

theorem registry_insert (h : Handle) (c : BrokerClient) : registry { b with clients := b.clients.insert h c } =
      { b.registry with clients := update b.registry.clients h (some c.ident) } := by
  ext1
  · funext h'
    show ((b.clients.insert h c).lookup h').map (·.ident) =
      update b.registry.clients h (some c.ident) h'
    rw [lookup_insert_eq]
    by_cases hh : h' = h
    · rw [if_pos hh, hh, update_self]
      rfl
    · rw [if_neg hh, update_of_ne hh]
      rfl
  all_goals rfl

theorem registry_insert_same (c' : BrokerClient) (hc : b.clients.lookup h = some c)
    (hid : c'.ident = c.ident) : registry { b with clients := b.clients.insert h c' } = b.registry := by
  have hold : b.registry.clients h = some c'.ident := by
    show (b.clients.lookup h).map (·.ident) = some c'.ident
    rw [hc, hid]
    rfl
  rw [registry_insert, ← hold, update_eq_self]

variable {entries : List RptClientEntry}

theorem isOkReply_list {vector : UInt16} {out : Outgoing} (hv : vector ≠ BrokerKind.connectReply.vector)
    (h : BrokerClient.brokerOutgoing (rptClientListMsg vector entries) = some out) : out.isOkReply = false := by
  have hkind : BrokerKind.ofVector vector ≠ .connectReply := by
    intro hk
    refine hv ?_
    unfold BrokerKind.ofVector at hk
    cases hf : List.find? (fun k : BrokerKind => k.vector == vector) _ with
    | none =>
      rw [hf] at hk
      cases hk
    | some k =>
      rw [hf] at hk
      have hk' : k = .connectReply := hk
      have := find?_some hf
      rw [hk'] at this
      exact (beq_iff_eq.mp this).symm
  unfold BrokerClient.brokerOutgoing at h
  dsimp only [rptClientListMsg] at h
  split at h
  · exact absurd ‹_› hkind
  all_goals cases h; try rfl

theorem registry_sendClientsAdded {ignore : Handle} :
    (b.sendClientsAdded env ignore entries).registry = b.registry := by
  refine registry_updateAll _ fun h c => ?_
  split
  · exact BrokerClient.ident_push fun out hout => isOkReply_list (by decide) hout
  · rfl

theorem registry_sendClientsRemoved : (b.sendClientsRemoved env entries).registry = b.registry :=
  registry_updateAll _ fun _ _ =>
    BrokerClient.ident_push fun _ hout => isOkReply_list (by decide) hout

theorem registry_sendClientList : (b.sendClientList env h).registry = b.registry := by
  unfold sendClientList
  cases hc : b.clients.lookup h with
  | none => rfl
  | some c =>
    dsimp only
    split
    · exact registry_insert_same _ hc
        (BrokerClient.ident_push fun _ hout => isOkReply_list (by decide) hout)
    · rfl

variable {msg : RdmnetMessage}

theorem registry_pushToRptClients {sender : Handle} {m : Table Handle Nat} {filter : BrokerClient → Bool} :
    (b.pushToRptClients env sender msg m filter).1.registry = b.registry := by
  unfold pushToRptClients
  split
  · rfl
  · refine registry_updateAll _ fun h c => ?_
    split
    · exact BrokerClient.ident_pushRpt
    · rfl

theorem registry_pushToSpecificRptClient {sender : Handle} :
    (b.pushToSpecificRptClient env sender msg).1.registry = b.registry := by
  unfold pushToSpecificRptClient
  split
  · rfl
  · split
    · rfl
    · exact registry_insert_same _ (Option.filter_eq_some_iff.mp ‹_›).1 BrokerClient.ident_pushRpt

theorem registry_pushToDestination : (b.pushToDestination env h msg).1.registry = b.registry := by
  unfold pushToDestination
  dsimp only
  split_ifs
  · exact registry_pushToRptClients
  · exact registry_pushToRptClients
  · exact registry_pushToRptClients
  · exact registry_pushToSpecificRptClient

theorem registry_routeRPTMessage : (b.routeRPTMessage env h msg).1.registry = b.registry := by
  have hpush : (b.pushToDestination env h msg).1.registry = _ := registry_pushToDestination
  unfold routeRPTMessage
  dsimp only
  split <;> exact hpush

theorem registry_sendStatus {header : RptHeader} {code : UInt16} (hc : b.clients.lookup h = some c) :
    (b.sendStatus env h c header code).1.registry = b.registry := by
  have hsame := registry_insert_same (c.pushStatus env.pal env.settings.cid (statusHeader header)
    ⟨code, none⟩).1 hc BrokerClient.ident_pushStatus
  unfold sendStatus
  dsimp only
  split <;> exact hsame

theorem registry_processRPTMessage : (b.processRPTMessage env h msg).1.registry = b.registry := by
  unfold processRPTMessage
  cases hc : b.clients.lookup h with
  | none => rfl
  | some c =>
    dsimp only
    split_ifs <;> first
      | rfl
      | exact registry_sendStatus hc
      | exact registry_routeRPTMessage

/-! ### What changes the registry -/

theorem registry_handleNewConnection (h : Handle) (sock now : Nat) :
    (b.handleNewConnection env h sock now).registry = b.registry.opened h ∨
      b.handleNewConnection env h sock now = b := by
  unfold handleNewConnection
  dsimp only
  split
  · refine .inl ?_
    exact registry_insert (b := { b with nextObject := b.nextObject + 1 }) h
      (.new b.nextObject h sock now)
  · exact .inr rfl

theorem ident_kind (c : BrokerClient) : c.isRpt = true ↔ c.ident.kind ≠ .pending := by
  unfold BrokerClient.isRpt
  rw [decide_eq_true_iff]
  rfl

theorem registry_mark {action : ClientDestroyAction} (hc : b.clients.lookup h = some c)
    (ha : action ≠ .sendConnectReply kRdmnetConnectOk) :
    (b.markClientForDestruction env h action).registry = b.registry.marked h c.ident := by
  have hid : (c.markForDestruction env.pal env.settings.cid env.myUid action).ident =
      { c.ident with marked := true } := BrokerClient.ident_markForDestruction ha
  unfold markClientForDestruction
  rw [hc]
  dsimp only
  set c' := c.markForDestruction env.pal env.settings.cid env.myUid action with hc'
  have hhandle : c'.handle = c.handle := congrArg ClientIdent.handle hid
  have hentry : c'.entry = c.entry := congrArg ClientIdent.entry hid
  have hkind : c'.kind = c.kind := congrArg ClientIdent.kind hid
  have hins := registry_insert (b := b) h c'
  by_cases hrpt : c'.isRpt = true
  · have hne : c.ident.kind ≠ .pending := by
      rw [← show c'.kind = c.ident.kind from hkind]
      exact (ident_kind c').mp hrpt
    rw [if_pos hrpt]
    let b' : Broker :=
      { b with clients := b.clients.insert h c', uids := b.uids.removeUid c'.entry.uid }
    have hsent : (b'.sendClientsRemoved env [c'.entry]).registry = b'.registry :=
      registry_sendClientsRemoved
    ext1
    · exact (congrArg Registry.clients hsent).trans ((congrArg Registry.clients hins).trans
        (by rw [hid]; rfl))
    · rfl
    · rfl
    · rfl
    · show b.clientsToDestroy.insert c'.handle = _
      rw [hhandle]
      rfl
    · show b.uids.removeUid c'.entry.uid = if c.ident.kind = .pending then _ else _
      rw [if_neg hne, hentry]
      rfl
    · rfl
  · have hpend : c.ident.kind = .pending := by
      rw [← show c'.kind = c.ident.kind from hkind]
      exact not_not.mp fun h => hrpt ((ident_kind c').mpr h)
    rw [if_neg hrpt]
    ext1
    · exact (congrArg Registry.clients hins).trans (by rw [hid]; rfl)
    · rfl
    · rfl
    · rfl
    · show b.clientsToDestroy.insert c'.handle = _
      rw [hhandle]
      rfl
    · show b.uids = if c.ident.kind = .pending then _ else _
      rw [if_pos hpend]
      rfl
    · rfl

theorem mark_none {action : ClientDestroyAction} (hc : b.clients.lookup h = none) :
    b.markClientForDestruction env h action = b := by
  unfold markClientForDestruction
  rw [hc]

theorem mem_destroyed {p : BrokerClient → Bool} {q : ClientIdent → Prop}
    (hpq : ∀ c, p c = true ↔ q c.ident) : h ∈ b.destroyed p ↔ b.registry.Doomed q h := by
  unfold destroyed Registry.Doomed
  rw [mem_filter]
  refine and_congr_right fun _ => ?_
  show (b.clients.lookup h).any p = true ↔ ∃ i, (b.clients.lookup h).map (·.ident) = some i ∧ q i
  cases hc : b.clients.lookup h with
  | none => simp
  | some c => simpa using hpq c

theorem registry_destroyMarkedClients : b.destroyMarkedClients.registry = b.registry.swept := by
  classical
  have hrpt : ∀ t : UInt32, ∀ c : BrokerClient, (c.isRpt && decide (c.entry.type = t)) = true ↔
      (c.ident.kind ≠ .pending ∧ c.ident.entry.type = t) := by
    intro t c
    rw [Bool.and_eq_true, ident_kind, decide_eq_true_iff]
    rfl
  ext1
  · funext h
    show ((b.clients.eraseAll b.clientsToDestroy).lookup h).map (·.ident) = _
    rw [lookup_eraseAll]
    by_cases hd : h ∈ b.clientsToDestroy
    · rw [if_pos hd]
      exact (if_pos hd).symm
    · rw [if_neg hd]
      exact (if_neg hd).symm
  · funext h
    show (b.rptClients.eraseAll (b.destroyed (·.isRpt))).lookup h = _
    rw [lookup_eraseAll]
    exact if_congr (mem_destroyed ident_kind) rfl rfl
  · funext h
    show (b.controllers.eraseAll (b.destroyed _)).lookup h = _
    rw [lookup_eraseAll]
    exact if_congr (mem_destroyed (hrpt _)) rfl rfl
  · funext h
    show (b.devices.eraseAll (b.destroyed _)).lookup h = _
    rw [lookup_eraseAll]
    exact if_congr (mem_destroyed (hrpt _)) rfl rfl
  all_goals rfl

end Broker

end RDMnet
