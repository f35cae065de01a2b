import RDMnet.Broker.Decision

/-!
# Objects and pointers

What holds in every run of a broker, whatever its clients do: a pointer that does not dangle points to
a client of the class of its map, and only a client that was accepted is pointed to by `rpt_clients_`.
The steps of a registry (`Registry.Changes`) are all that the events of a broker can do to it, so that
an invariant of registries needs to be shown for them only.
-/

namespace RDMnet

open Function

namespace UidManager

variable {m m' : UidManager} {rdm : RdmLib} {h : Handle} {entry : RptClientEntry} {uid : RdmUid}

theorem maxUidCapacity_removeUid (m : UidManager) (uid : RdmUid) :
    (m.removeUid uid).maxUidCapacity = m.maxUidCapacity := by
  unfold removeUid
  split <;> rfl

theorem maxUidCapacity_taken (ht : m.Taken rdm h entry m' uid) : m'.maxUidCapacity = m.maxUidCapacity := by
  cases ht <;> rfl

end UidManager

namespace Registry

variable {r r' : Registry} {h : Handle} {i : ClientIdent}

/-- A step of a registry. -/
inductive Changes (r : Registry) : Registry → Prop
  | opened (h : Handle) (hnew : r.clients h = none) : Changes r (r.opened h)
  | marked (h : Handle) (i : ClientIdent) (hi : r.clients h = some i) : Changes r (r.marked h i)
  | withUids (m : UidManager) (hm : m.maxUidCapacity = r.uids.maxUidCapacity) :
      Changes r { r with uids := m }
  | admitted (h : Handle) (kind : ClientKind) (entry : RptClientEntry) (i : ClientIdent)
      (hi : r.clients h = some i) (hkind : kind ≠ .pending) :
      Changes r (r.admitted h kind entry i)
  | swept : Changes r r.swept

/-- The pointers of a map have been given to objects, and those that do not dangle to clients of a
class. -/
def PointsTo (r : Registry) (kind : ClientKind) (ptrs : Handle → Option Nat) : Prop :=
  ∀ h o, ptrs h = some o → o < r.nextObject ∧ ∀ i, r.clients h = some i → i.object = o → i.kind = kind

/-- What holds of the clients and pointers of any broker. -/
structure Sane (r : Registry) : Prop where
  capacity : r.uids.maxUidCapacity = UidManager.defaultMaxUidCapacity
  replied : ∀ h i, r.clients h = some i → (i.replied = true ↔ i.kind ≠ .pending)
  object : ∀ h i, r.clients h = some i → i.object < r.nextObject
  rpt : ∀ h o, r.rptClients h = some o → ∃ i, r.clients h = some i ∧ i.kind ≠ .pending
  controllers : r.PointsTo .controller r.controllers
  devices : r.PointsTo .device r.devices

theorem Sane.start (next : UInt32) :
    Sane ⟨fun _ => none, fun _ => none, fun _ => none, fun _ => none, [], .init next, 0⟩ where
  capacity := rfl
  replied := by rintro h i ⟨⟩
  object := by rintro h i ⟨⟩
  rpt := by rintro h o ⟨⟩
  controllers := by rintro h o ⟨⟩
  devices := by rintro h o ⟨⟩

variable {ptrs : Handle → Option Nat} {j : ClientIdent}

theorem PointsTo.update {kind : ClientKind} (hp : r.PointsTo kind ptrs) (hnext : r.nextObject ≤ r'.nextObject)
    (hclients : r'.clients = Function.update r.clients h (some j))
    (hj : r.nextObject ≤ j.object ∨ ∃ i, r.clients h = some i ∧ i.object = j.object ∧ i.kind = j.kind) :
    r'.PointsTo kind ptrs := by
  intro h' o ho
  obtain ⟨hlt, hk⟩ := hp h' o ho
  refine ⟨lt_of_lt_of_le hlt hnext, fun i hi hio => ?_⟩
  rw [hclients] at hi
  by_cases hh : h' = h
  · rw [hh, update_self] at hi
    cases hi
    obtain hj | ⟨i, hi, hobj, hkind⟩ := hj
    · omega
    · rw [← hkind]
      exact hk i (hh ▸ hi) (hobj.trans hio)
  · rw [update_of_ne hh] at hi
    exact hk i hi hio

theorem PointsTo.put
    (hp : r'.PointsTo j.kind ptrs) (hj : r'.clients h = some j) (hobj : j.object < r'.nextObject) :
    r'.PointsTo j.kind (put h j.object ptrs) := by
  unfold Registry.put
  split
  · exact hp
  · intro h' o ho
    by_cases hh : h' = h
    · rw [hh, update_self] at ho
      cases ho
      refine ⟨hobj, fun i hi _ => ?_⟩
      rw [hh, hj] at hi
      cases hi
      rfl
    · rw [update_of_ne hh] at ho
      exact hp h' o ho

theorem PointsTo.mono {kind : ClientKind} {ptrs' : Handle → Option Nat}
    (hp : r.PointsTo kind ptrs) (hnext : r'.nextObject = r.nextObject)
    (hptrs : ∀ h o, ptrs' h = some o → ptrs h = some o)
    (hclients : ∀ h i, r'.clients h = some i → r.clients h = some i) : r'.PointsTo kind ptrs' := by
  intro h o ho
  obtain ⟨hlt, hk⟩ := hp h o (hptrs h o ho)
  exact ⟨hnext ▸ hlt, fun i hi => hk i (hclients h i hi)⟩

theorem rpt_update {clients : Handle → Option ClientIdent}
    (hp : ∀ h o, ptrs h = some o → ∃ i, clients h = some i ∧ i.kind ≠ .pending)
    (hj : ∀ i, clients h = some i → i.kind ≠ .pending → j.kind ≠ .pending) (h' : Handle) (o : Nat)
    (ho : ptrs h' = some o) : ∃ i, Function.update clients h (some j) h' = some i ∧ i.kind ≠ .pending := by
  obtain ⟨i, hi, hne⟩ := hp h' o ho
  by_cases hh : h' = h
  · rw [hh, update_self]
    exact ⟨j, rfl, hj i (hh ▸ hi) hne⟩
  · rw [update_of_ne hh]
    exact ⟨i, hi, hne⟩

theorem Sane.changes (hs : r.Sane) (hc : r.Changes r') : r'.Sane := by
  cases hc with
  | opened h hnew =>
    refine ⟨hs.capacity, forall_update (by simp) fun h' i _ => hs.replied h' i,
      forall_update (Nat.lt_succ_self _) fun h' i _ hi => Nat.lt_succ_of_lt (hs.object h' i hi),
      rpt_update hs.rpt fun i hi => ?_, hs.controllers.update (Nat.le_succ _) rfl (.inl le_rfl),
      hs.devices.update (Nat.le_succ _) rfl (.inl le_rfl)⟩
    rw [hnew] at hi
    cases hi
  | marked h i hi =>
    refine ⟨?_, forall_update (hs.replied h i hi) fun h' i _ => hs.replied h' i,
      forall_update (hs.object h i hi) fun h' i _ => hs.object h' i, rpt_update hs.rpt fun i' hi' hne => ?_,
      hs.controllers.update le_rfl rfl (.inr ⟨i, hi, rfl, rfl⟩),
      hs.devices.update le_rfl rfl (.inr ⟨i, hi, rfl, rfl⟩)⟩
    · show (if _ then r.uids else r.uids.removeUid _).maxUidCapacity = _
      split
      · exact hs.capacity
      · exact (UidManager.maxUidCapacity_removeUid ..).trans hs.capacity
    · rw [hi] at hi'
      cases hi'
      exact hne
  | withUids m hm =>
    exact { hs with capacity := hm.trans hs.capacity }
  | admitted h kind entry i hi hkind =>
    have hself : (r.admitted h kind entry i).clients h =
        some ⟨r.nextObject, kind, i.handle, false, entry, true⟩ := update_self ..
    have hold : ∀ {kind' ptrs}, r.PointsTo kind' ptrs → (r.admitted h kind entry i).PointsTo kind' ptrs :=
      fun hp => hp.update (Nat.le_succ _) rfl (.inl le_rfl)
    have hput : ∀ {ptrs}, r.PointsTo kind ptrs →
        (r.admitted h kind entry i).PointsTo kind (Registry.put h r.nextObject ptrs) :=
      fun hp => (hold hp).put (j := ⟨_, _, _, _, _, _⟩) hself (Nat.lt_succ_self _)
    refine ⟨hs.capacity, forall_update (by simp [hkind]) fun h' i _ => hs.replied h' i,
      forall_update (Nat.lt_succ_self _) fun h' i _ hi => Nat.lt_succ_of_lt (hs.object h' i hi),
      ?_, ?_, ?_⟩
    · intro h' o ho
      by_cases hh : h' = h
      · rw [hh]
        exact ⟨_, hself, hkind⟩
      · have hold : r.rptClients h' = some o := by
          revert ho
          show Registry.put h r.nextObject r.rptClients h' = some o → _
          unfold Registry.put
          split
          · exact id
          · rw [update_of_ne hh]
            exact id
        obtain ⟨i', hi', hne⟩ := hs.rpt h' o hold
        exact ⟨i', (update_of_ne hh ..).trans hi', hne⟩
    · show PointsTo _ _ (if kind = .controller then _ else _)
      by_cases hk : kind = .controller
      · rw [if_pos hk]
        subst hk
        exact hput hs.controllers
      · rw [if_neg hk]
        exact hold hs.controllers
    · show PointsTo _ _ (if kind = .controller then _ else _)
      by_cases hk : kind = .controller
      · rw [if_pos hk]
        exact hold hs.devices
      · rw [if_neg hk]
        obtain rfl : kind = .device := by
          cases kind
          · exact absurd rfl hkind
          · exact absurd rfl hk
          · rfl
        exact hput hs.devices
  | swept =>
    classical
    have hclients : ∀ h i, r.swept.clients h = some i → r.clients h = some i :=
      fun h i hi => (clients_swept.mp hi).1
    refine ⟨hs.capacity, fun h i hi => hs.replied h i (hclients h i hi),
      fun h i hi => hs.object h i (hclients h i hi), ?_, hs.controllers.mono rfl (fun h o ho => ?_) hclients,
      hs.devices.mono rfl (fun h o ho => ?_) hclients⟩
    · intro h o ho
      by_cases hd : r.Doomed (·.kind ≠ .pending) h
      · rw [show r.swept.rptClients h = none from if_pos hd] at ho
        cases ho
      · rw [show r.swept.rptClients h = r.rptClients h from if_neg hd] at ho
        obtain ⟨i, hi, hne⟩ := hs.rpt h o ho
        have hnd : h ∉ r.toDestroy := fun hd' => hd ⟨hd', i, hi, hne⟩
        exact ⟨i, clients_swept.mpr ⟨hi, hnd⟩, hne⟩
    · revert ho
      show (if _ then none else r.controllers h) = some o → _
      split
      · exact fun h => (nomatch h)
      · exact id
    · revert ho
      show (if _ then none else r.devices h) = some o → _
      split
      · exact fun h => (nomatch h)
      · exact id

end Registry

/-! ### Brokers -/

namespace Broker

open Relation

variable {env : BrokerEnv} {b b' : Broker} {h : Handle} {c : BrokerClient}

theorem changes_mark {action : ClientDestroyAction} (ha : action ≠ .sendConnectReply kRdmnetConnectOk) :
    ReflTransGen Registry.Changes b.registry (b.markClientForDestruction env h action).registry := by
  cases hc : b.clients.lookup h with
  | none => rw [mark_none hc]
  | some c =>
    rw [registry_mark hc ha]
    exact .single (.marked h c.ident (registry_clients_some hc))

theorem registry_changes (hpk : env.pal.Packs) {e : Event} (hstep : b.step env e = some b') :
    ReflTransGen Registry.Changes b.registry b'.registry := by
  cases step_happens hstep with
  | opens h sock now hnew hnull =>
    have hopens : _ ∨ b.handleNewConnection env h sock now = b := registry_handleNewConnection h sock now
    obtain heq | heq := hopens
    · rw [heq]
      refine .single (.opened h ?_)
      show (b.clients.lookup h).map (·.ident) = none
      rw [hnew]
      rfl
    · rw [heq]
  | connects _ h cmsg now he =>
    have huids : ∀ m, m.maxUidCapacity = b.uids.maxUidCapacity →
        Registry.Changes b.registry (registry { b with uids := m }) := fun m hm => .withUids m hm
    have hd := processConnectRequest_decides env h cmsg now b
    generalize b.processConnectRequest env h cmsg now = b' at hd ⊢
    cases hd with
    | refused status hs hnot => exact changes_mark fun hact => hs (by cases hact; rfl)
    | full kind m uid hp ht htaken =>
      have hcap := (UidManager.maxUidCapacity_removeUid m uid).trans
        (UidManager.maxUidCapacity_taken htaken)
      exact .head (huids (m.removeUid uid) hcap) (changes_mark (by decide))
    | nowhere kind m uid hp ht htaken | unknown m uid hp ht htaken =>
      exact .single (huids m (UidManager.maxUidCapacity_taken htaken))
    | admitted kind m uid prev hp ht htaken hkind hroom hprev =>
      refine .head (huids m (UidManager.maxUidCapacity_taken htaken)) (.single ?_)
      rw [registry_enrol hpk]
      exact .admitted h kind _ _ (registry_clients_some hprev) (kindOf_ne_pending hkind)
  | fetches => rw [registry_sendClientList]
  | closes _ h action he hact =>
    refine changes_mark ?_
    rintro rfl
    obtain hact | hact := hact <;> cases hact
  | routes => rw [registry_processRPTMessage]
  | serves => rw [registry_serviceClient]
  | sweeps =>
    rw [registry_destroyMarkedClients]
    exact .single .swept
  | ignores => exact .refl

theorem registry_keeps (hpk : env.pal.Packs) {I : Registry → Prop}
    (hI : ∀ r r', I r → r.Changes r' → I r') {e : Event} (hstep : b.step env e = some b')
    (hb : I b.registry) : I b'.registry := by
  have hrun := registry_changes hpk hstep
  generalize b'.registry = r' at hrun ⊢
  induction hrun with
  | refl => exact hb
  | tail _ hc ih => exact hI _ _ ih hc

theorem sane_step (hpk : env.pal.Packs) (e : Event) (hs : b.registry.Sane)
    (hstep : b.step env e = some b') : b'.registry.Sane :=
  registry_keeps hpk (fun _ _ hr hc => hr.changes hc) hstep hs

end Broker

end RDMnet
