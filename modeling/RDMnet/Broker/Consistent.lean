import RDMnet.Broker.Decision

/-!
# The maps of a broker agree

`Broker.Consistent`: the UIDs and the pointers of a broker are those of the clients that it has
accepted.  It is kept by every event that does not take a UID for a client that is not there to have it,
does not accept a client twice, and does not give away the UID of another.
-/

namespace RDMnet

open Function Table

/-! ### UID managers -/

namespace UidManager

variable {own : RdmUid} {m m' : UidManager} {rdm : RdmLib} {h : Handle} {entry : RptClientEntry}
  {uid : RdmUid}

/-- A static UID has no reservation, a dynamic UID has that of a component that is connected, and no
two components have the same dynamic UID, nor that of the broker. -/
structure Good (own : RdmUid) (m : UidManager) : Prop where
  static : ∀ u h, m.uidLookup.lookup u = some ⟨h, none⟩ → u.manu < 0x8000
  reserved : ∀ u h k, m.uidLookup.lookup u = some ⟨h, some k⟩ →
    m.reservations.lookup k = some ⟨u, true⟩
  assigned : ∀ k r, m.reservations.lookup k = some r → 0x8000 ≤ r.assignedUid.manu
  notOwn : ∀ k r, m.reservations.lookup k = some r → r.assignedUid ≠ own
  unique : ∀ k r k' r', m.reservations.lookup k = some r → m.reservations.lookup k' = some r' →
    r.assignedUid = r'.assignedUid → k = k'

/-- The UIDs of a manufacturer that are taken for good, those of the components and that of the broker,
are below the next one. -/
def CounterAhead (own : RdmUid) (m : UidManager) (manu : UInt16) : Prop :=
  (own.manu = manu → own.id < m.nextDeviceId) ∧
    ∀ kr ∈ m.reservations.entries, kr.2.assignedUid.manu = manu → kr.2.assignedUid.id < m.nextDeviceId

instance (own : RdmUid) (m : UidManager) (manu : UInt16) : Decidable (m.CounterAhead own manu) :=
  inferInstanceAs (Decidable (_ ∧ _))

theorem Good.init (next : UInt32) : (init next).Good own where
  static := by rintro u h ⟨⟩
  reserved := by rintro u h k ⟨⟩
  assigned := by rintro k r ⟨⟩
  notOwn := by rintro k r ⟨⟩
  unique := by rintro k r k' r' ⟨⟩

theorem findDynamicUid_ahead (uidLookup : Table RdmUid UidData) (turns : Nat) (new : RdmUid)
    (next : UInt32) (hfree : ∀ id, next ≤ id → ({ new with id } : RdmUid) ∉ uidLookup) :
    ∃ id next', next ≤ id ∧ findDynamicUid uidLookup (turns + 2) new next = ({ new with id }, next') := by
  unfold findDynamicUid
  have hnext : ({ new with id := next } : RdmUid) ∉ uidLookup := hfree next (UInt32.le_refl _)
  by_cases h0 : next = 0
  · subst h0
    refine ⟨1, 2, by decide, ?_⟩
    have hone : ({ new with id := (1 : UInt32) } : RdmUid) ∉ uidLookup := hfree 1 (by decide)
    rw [if_pos (.inl rfl)]
    unfold findDynamicUid
    exact if_neg (by rintro (h | h); exacts [absurd h (by decide), hone h])
  · refine ⟨next, next + 1, UInt32.le_refl _, ?_⟩
    refine if_neg ?_
    rintro (h | h)
    · exact h0 (by simpa using h)
    · exact hnext h

section

variable (hg : m.Good own)
include hg

theorem Good.notMem_of_reserved {k : Uuid}
    (hres : m.reservations.lookup k = some ⟨uid, false⟩) : uid ∉ m.uidLookup := by
  intro hmem
  obtain ⟨⟨h, r⟩, hlook⟩ := mem_iff_lookup.mp hmem
  cases r with
  | none =>
    have hlt := hg.static uid h hlook
    have hge := hg.assigned k _ hres
    exact absurd hge (UInt16.not_le.mpr hlt)
  | some k' =>
    have hres' := hg.reserved uid h k' hlook
    obtain rfl := hg.unique k _ k' _ hres hres' rfl
    rw [hres] at hres'
    cases hres'

theorem Good.addStatic (hnew : uid ∉ m.uidLookup) (hmanu : uid.manu < 0x8000) :
    Good own { m with uidLookup := m.uidLookup.insertNew uid ⟨h, none⟩ } where
  __ := hg
  static := by
    intro u h' hlook
    rw [lookup_insertNew hnew] at hlook
    split at hlook
    · exact ‹u = uid› ▸ hmanu
    · exact hg.static u h' hlook
  reserved := by
    intro u h' k hlook
    rw [lookup_insertNew hnew] at hlook
    split at hlook
    · cases hlook
    · exact hg.reserved u h' k hlook

theorem Good.addDynamic {cid : Uuid} {reservations : Table Uuid ReservationData}
    {next : UInt32} (hnew : uid ∉ m.uidLookup) (hres : ∀ k, reservations.lookup k =
      if k = cid then some ⟨uid, true⟩ else m.reservations.lookup k)
    (hfree : ∀ u h', m.uidLookup.lookup u ≠ some ⟨h', some cid⟩)
    (hmanu : 0x8000 ≤ uid.manu) (hown : uid ≠ own)
    (hsame : ∀ k r, m.reservations.lookup k = some r → r.assignedUid = uid → k = cid) :
    Good own { m with
      nextDeviceId := next
      reservations
      uidLookup := m.uidLookup.insertNew uid ⟨h, some cid⟩ } where
  static := by
    intro u h' hlook
    rw [lookup_insertNew hnew] at hlook
    split at hlook
    · cases hlook
    · exact hg.static u h' hlook
  reserved := by
    intro u h' k hlook
    rw [lookup_insertNew hnew] at hlook
    rw [hres]
    split at hlook
    · cases hlook
      rw [if_pos rfl, ‹u = uid›]
    · have hk : k ≠ cid := fun hk => hfree u h' (hk ▸ hlook)
      rw [if_neg hk]
      exact hg.reserved u h' k hlook
  assigned := by
    intro k r hk
    rw [hres] at hk
    split at hk
    · cases hk
      exact hmanu
    · exact hg.assigned k r hk
  notOwn := by
    intro k r hk
    rw [hres] at hk
    split at hk
    · cases hk
      exact hown
    · exact hg.notOwn k r hk
  unique := by
    intro k r k' r' hk hk' heq
    rw [hres] at hk hk'
    split at hk <;> split at hk'
    · exact ‹k = cid›.trans ‹k' = cid›.symm
    · cases hk
      exact ‹k = cid›.trans (hsame k' r' hk' heq.symm).symm
    · cases hk'
      exact (hsame k r hk heq).trans ‹k' = cid›.symm
    · exact hg.unique k r k' r' hk hk' heq

theorem Good.removeUid (uid : RdmUid) : (m.removeUid uid).Good own := by
  unfold UidManager.removeUid
  cases hlook : m.uidLookup.lookup uid with
  | none => exact hg
  | some d =>
    obtain ⟨h, res⟩ := d
    -- a reservation keeps its UID, and only that of the UID itself is given back
    have hrel : ∀ k, ((release res m.reservations).lookup k).map (·.assignedUid) =
          (m.reservations.lookup k).map (·.assignedUid) ∧
        (res ≠ some k → (release res m.reservations).lookup k = m.reservations.lookup k) := by
      intro k
      unfold release
      cases res with
      | none => exact ⟨rfl, fun _ => rfl⟩
      | some cid =>
        dsimp only
        cases hcid : m.reservations.lookup cid with
        | none => exact ⟨rfl, fun _ => rfl⟩
        | some r =>
          dsimp only
          rw [lookup_insert_eq]
          by_cases hk : k = cid
          · rw [if_pos hk, hk, hcid]
            exact ⟨rfl, fun hne => absurd rfl hne⟩
          · rw [if_neg hk]
            exact ⟨rfl, fun _ => rfl⟩
    have hold : ∀ k r, (release res m.reservations).lookup k = some r →
        ∃ r', m.reservations.lookup k = some r' ∧ r'.assignedUid = r.assignedUid := by
      intro k r hk
      have h1 := (hrel k).1
      rw [hk] at h1
      exact Option.map_eq_some_iff.mp h1.symm
    refine ⟨?_, ?_, ?_, ?_, ?_⟩
    · intro u h' hu
      dsimp only at hu
      rw [lookup_erase_eq] at hu
      split at hu
      · cases hu
      · exact hg.static u h' hu
    · intro u h' k hu
      dsimp only at hu ⊢
      rw [lookup_erase_eq] at hu
      split at hu
      case isTrue => cases hu
      have hres := hg.reserved u h' k hu
      rw [(hrel k).2, hres]
      rintro rfl
      rw [hg.reserved uid h k hlook] at hres
      cases hres
      exact absurd rfl ‹_›
    · intro k r hk
      obtain ⟨r', hk', heq⟩ := hold k r hk
      exact heq ▸ hg.assigned k r' hk'
    · intro k r hk
      obtain ⟨r', hk', heq⟩ := hold k r hk
      exact heq ▸ hg.notOwn k r' hk'
    · intro k r k' r' hk hk' heq
      obtain ⟨s, hs, hse⟩ := hold k r hk
      obtain ⟨s', hs', hse'⟩ := hold k' r' hk'
      exact hg.unique k s k' s' hs hs' (hse.trans (heq.trans hse'.symm))

end

/-- **A good manager takes a UID** that is not in use, and stays good. -/
theorem Good.taken (hrdm : rdm.Lawful) (hg : m.Good own) (ht : m.Taken rdm h entry m' uid)
    (hahead : rdm.uidIsDynamicUidRequest entry.uid = true → m.reservations.lookup entry.cid = none →
      m.CounterAhead own entry.uid.manu) :
    m'.Good own ∧ uid ∉ m.uidLookup ∧ (∀ u, m'.uidToHandle u = if u = uid then some h else m.uidToHandle u) ∧
      (rdm.uidIsDynamicUidRequest entry.uid = true → uid ≠ own) := by
  cases ht with
  | static hdyn hstat hnew =>
    refine ⟨hg.addStatic hnew (hrdm.static_manu _ hstat), hnew, uidToHandle_insertNew hnew rfl, fun hd => ?_⟩
    rw [hdyn] at hd
    cases hd
  | returning _ hdyn hres =>
    have hnew := hg.notMem_of_reserved hres
    refine ⟨hg.addDynamic hnew (fun k => lookup_insert_eq ..) ?_ (hg.assigned _ _ hres)
        (hg.notOwn _ _ hres) fun k r hk heq => hg.unique k r _ _ hk hres heq, hnew,
      uidToHandle_insertNew hnew rfl, fun _ => hg.notOwn _ _ hres⟩
    intro u h' hlook
    have hres' := hg.reserved u h' _ hlook
    rw [hres] at hres'
    cases hres'
  | fresh _ next hdyn hres hfind =>
    obtain ⟨hown, hahead⟩ := hahead hdyn hres
    have hmanu := hrdm.dynamic_manu _ hdyn
    have hfree : ∀ id, m.nextDeviceId ≤ id → ({ entry.uid with id } : RdmUid) ∉ m.uidLookup := by
      intro id hid hmem
      obtain ⟨⟨h', r⟩, hlook⟩ := mem_iff_lookup.mp hmem
      cases r with
      | none => exact absurd hmanu (UInt16.not_le.mpr (hg.static { entry.uid with id } h' hlook))
      | some k =>
        have hres' := AList.mem_lookup_iff.mp (hg.reserved _ _ _ hlook)
        exact absurd hid (UInt32.not_le.mpr (hahead _ hres' rfl))
    obtain ⟨id, next', hid, hfound⟩ := findDynamicUid_ahead m.uidLookup m.uidLookup.size entry.uid
      m.nextDeviceId hfree
    rw [hfound] at hfind
    cases hfind
    have hnew := hfree id hid
    have hown' : ({ entry.uid with id } : RdmUid) ≠ own := by
      rintro rfl
      exact absurd hid (UInt32.not_le.mpr (hown rfl))
    refine ⟨hg.addDynamic hnew (fun k => ?_) ?_ hmanu hown' ?_, hnew,
      uidToHandle_insertNew hnew rfl, fun _ => hown'⟩
    · exact lookup_insertNew (AList.lookup_eq_none.mp hres)
    · intro u h' hlook
      have hres' := hg.reserved u h' _ hlook
      rw [hres] at hres'
      cases hres'
    · intro k r hk heq
      refine absurd hid (UInt32.not_le.mpr ?_)
      have := hahead ⟨k, r⟩ (AList.mem_lookup_iff.mp hk) (by rw [heq])
      rwa [heq] at this

end UidManager

/-! ### Registries -/

def ClientIdent.Live (i : ClientIdent) : Prop := i.kind ≠ .pending ∧ i.marked = false

namespace Registry

variable {own : RdmUid} {r : Registry} {h : Handle} {i : ClientIdent} {m : UidManager}
  {uid : RdmUid} {kind : ClientKind} {entry : RptClientEntry}

/-- What a map has for a client if it points to the clients that `p` holds of. -/
def pointer (p : ClientIdent → Bool) (i : Option ClientIdent) : Option Nat :=
  (i.filter p).map (·.object)

@[simp] theorem pointer_none (p : ClientIdent → Bool) : pointer p none = none := rfl

@[simp] theorem pointer_some (p : ClientIdent → Bool) (i : ClientIdent) :
    pointer p (some i) = if p i then some i.object else none := by
  unfold pointer
  cases hp : p i <;> simp [Option.filter, hp]

/-- The maps point to the clients of their class, and the UIDs are those of the clients that were
accepted and are not marked for destruction. -/
structure Good (own : RdmUid) (r : Registry) : Prop where
  handle : ∀ h i, r.clients h = some i → i.handle = h
  replied : ∀ h i, r.clients h = some i → (i.replied = true ↔ i.kind ≠ .pending)
  typed : ∀ h i, r.clients h = some i → i.kind ≠ .pending → Broker.kindOf i.entry.type = some i.kind
  rptClients : ∀ h, r.rptClients h = pointer (·.kind ≠ .pending) (r.clients h)
  controllers : ∀ h, r.controllers h = pointer (·.kind = .controller) (r.clients h)
  devices : ∀ h, r.devices h = pointer (·.kind = .device) (r.clients h)
  toDestroy : ∀ h, h ∈ r.toDestroy ↔ ∃ i, r.clients h = some i ∧ i.marked = true
  known : ∀ u h, r.uids.uidToHandle u = some h ↔
    ∃ i, r.clients h = some i ∧ i.Live ∧ i.entry.uid = u
  notOwn : ∀ h i, r.clients h = some i → i.Live → i.entry.uid ≠ own
  uids : r.uids.Good own

theorem Good.start (next : UInt32) :
    Good own ⟨fun _ => none, fun _ => none, fun _ => none, fun _ => none, [], .init next, 0⟩ where
  handle := by rintro h i ⟨⟩
  replied := by rintro h i ⟨⟩
  typed := by rintro h i ⟨⟩
  rptClients := fun _ => rfl
  controllers := fun _ => rfl
  devices := fun _ => rfl
  toDestroy := by
    intro h
    constructor
    · rintro ⟨⟩
    · rintro ⟨i, ⟨⟩, -⟩
  known := by
    intro u h
    constructor
    · rintro ⟨⟩
    · rintro ⟨i, ⟨⟩, -⟩
  notOwn := by rintro h i ⟨⟩
  uids := .init next

theorem exists_update {P : ClientIdent → Prop} {clients : Handle → Option ClientIdent}
    {j : ClientIdent} (h' : Handle) :
    (∃ i, Function.update clients h (some j) h' = some i ∧ P i) ↔
      if h' = h then P j else ∃ i, clients h' = some i ∧ P i := by
  by_cases hh : h' = h
  · rw [hh, update_self, if_pos rfl]
    simp
  · rw [update_of_ne hh, if_neg hh]

theorem pointer_update {p : ClientIdent → Bool} {clients : Handle → Option ClientIdent}
    {ptrs : Handle → Option Nat} {j : ClientIdent} (hold : ∀ h', ptrs h' = pointer p (clients h'))
    (hsame : pointer p (some j) = pointer p (clients h)) (h' : Handle) :
    ptrs h' = pointer p (Function.update clients h (some j) h') := by
  by_cases hh : h' = h
  · rw [hh, update_self, hold, hsame]
  · rw [update_of_ne hh, hold]

section

variable (hg : r.Good own)
include hg

theorem Good.opened (hnew : r.clients h = none) : (r.opened h).Good own where
  handle := forall_update rfl fun h' i _ => hg.handle h' i
  replied := forall_update (by simp) fun h' i _ => hg.replied h' i
  typed := forall_update (fun hne => absurd rfl hne) fun h' i _ => hg.typed h' i
  rptClients := pointer_update hg.rptClients (by rw [hnew]; rfl)
  controllers := pointer_update hg.controllers (by rw [hnew]; rfl)
  devices := pointer_update hg.devices (by rw [hnew]; rfl)
  toDestroy := by
    intro h'
    refine Iff.trans (hg.toDestroy h') (Iff.trans ?_ (exists_update h').symm)
    by_cases hh : h' = h
    · rw [if_pos hh, hh, hnew]
      simp
    · rw [if_neg hh]
  known := by
    intro u h'
    refine Iff.trans (hg.known u h') (Iff.trans ?_ (exists_update h').symm)
    by_cases hh : h' = h
    · rw [if_pos hh, hh, hnew]
      simp [ClientIdent.Live]
    · rw [if_neg hh]
  notOwn := forall_update (fun hl => absurd rfl hl.1) fun h' i _ => hg.notOwn h' i
  uids := hg.uids

theorem Good.withUids (hm : m.Good own)
    (hsame : ∀ u, m.uidToHandle u = r.uids.uidToHandle u) : Good own { r with uids := m } where
  __ := hg
  known := fun u h => by
    rw [show Registry.uids { r with uids := m } = m from rfl, hsame]
    exact hg.known u h
  uids := hm

theorem Good.uidToHandle_marked (hi : r.clients h = some i)
    (hkeep : i.marked = true → i.kind ≠ .pending → i.entry.uid ∉ r.uids.uidLookup) (u : RdmUid)
    (h' : Handle) : (r.marked h i).uids.uidToHandle u = some h' ↔
      h' ≠ h ∧ ∃ j, r.clients h' = some j ∧ j.Live ∧ j.entry.uid = u := by
  show (if i.kind = .pending then r.uids else r.uids.removeUid i.entry.uid).uidToHandle u = _ ↔ _
  -- a client that is not live has no UID
  have hdead : ¬ i.Live → (r.uids.uidToHandle u = some h' ↔
      h' ≠ h ∧ ∃ j, r.clients h' = some j ∧ j.Live ∧ j.entry.uid = u) := by
    intro hi'
    refine (hg.known u h').trans ⟨fun hj => ⟨?_, hj⟩, And.right⟩
    rintro rfl
    obtain ⟨j, hj, hl, -⟩ := hj
    rw [hi] at hj
    cases hj
    exact hi' hl
  by_cases hp : i.kind = .pending
  · rw [if_pos hp]
    exact hdead fun hl => hl.1 hp
  rw [if_neg hp]
  cases hm : i.marked with
  | true =>
    rw [UidManager.removeUid_of_notMem (hkeep hm hp)]
    exact hdead fun hl => Bool.noConfusion (hm.symm.trans hl.2)
  | false =>
    have hown : r.uids.uidToHandle i.entry.uid = some h := (hg.known _ h).mpr ⟨i, hi, ⟨hp, hm⟩, rfl⟩
    rw [UidManager.uidToHandle_removeUid]
    by_cases hu : u = i.entry.uid
    · rw [if_pos hu]
      refine ⟨fun hn => (nomatch hn), fun ⟨hne, hj⟩ => ?_⟩
      have := (hg.known u h').mpr hj
      rw [hu, hown] at this
      exact absurd (Option.some.inj this).symm hne
    · rw [if_neg hu]
      refine (hg.known u h').trans ⟨fun hj => ⟨?_, hj⟩, And.right⟩
      rintro rfl
      obtain ⟨j, hj, -, hju⟩ := hj
      rw [hi] at hj
      cases hj
      exact hu hju.symm

theorem Good.marked (hi : r.clients h = some i)
    (hkeep : i.marked = true → i.kind ≠ .pending → i.entry.uid ∉ r.uids.uidLookup) :
    (r.marked h i).Good own where
  handle := forall_update (hg.handle h i hi) fun h' i _ => hg.handle h' i
  replied := forall_update (hg.replied h i hi) fun h' i _ => hg.replied h' i
  typed := forall_update (hg.typed h i hi) fun h' i _ => hg.typed h' i
  rptClients := pointer_update hg.rptClients (by simp [hi])
  controllers := pointer_update hg.controllers (by simp [hi])
  devices := pointer_update hg.devices (by simp [hi])
  toDestroy := by
    intro h'
    refine Iff.trans ?_ (exists_update h').symm
    show h' ∈ r.toDestroy.insert i.handle ↔ _
    rw [List.mem_insert_iff, hg.handle h i hi, hg.toDestroy]
    by_cases hh : h' = h
    · simp [hh]
    · simp [hh]
  known := by
    intro u h'
    rw [hg.uidToHandle_marked hi hkeep]
    refine Iff.trans ?_ (exists_update h').symm
    by_cases hh : h' = h
    · simp [hh, ClientIdent.Live]
    · simp [hh]
  notOwn := forall_update (fun hl => nomatch hl.2) fun h' i _ => hg.notOwn h' i
  uids := by
    show (if i.kind = .pending then r.uids else r.uids.removeUid i.entry.uid).Good own
    split
    · exact hg.uids
    · exact hg.uids.removeUid _

theorem Good.admitted (hi : r.clients h = some i) (hpend : i.kind = .pending)
    (hmark : i.marked = false) (hm : m.Good own)
    (huids : ∀ u, m.uidToHandle u = if u = entry.uid then some h else r.uids.uidToHandle u)
    (hnew : entry.uid ∉ r.uids.uidLookup) (hown : entry.uid ≠ own)
    (hkind : Broker.kindOf entry.type = some kind) (hne : kind ≠ .pending) :
    (({ r with uids := m } : Registry).admitted h kind entry i).Good own := by
  have hput : ∀ {p : ClientIdent → Bool} {ptrs : Handle → Option Nat} {j : ClientIdent} (h'),
      (∀ h', ptrs h' = pointer p (r.clients h')) → p i = false → p j = true → put h j.object ptrs h' =
        pointer p (Function.update r.clients h (some j) h') := by
    intro p ptrs j h' hptrs hpi hpj
    have hnone : ptrs h = none := by
      rw [hptrs, hi]
      simp [hpi]
    unfold put
    rw [hnone, if_neg (by decide)]
    by_cases hh : h' = h
    · rw [hh, update_self, update_self]
      simp [hpj]
    · rw [update_of_ne hh, update_of_ne hh, hptrs]
  refine ⟨?_, ?_, ?_, ?_, ?_, ?_, ?_, ?_, ?_, hm⟩
  · exact forall_update (hg.handle h i hi) fun h' i _ => hg.handle h' i
  · exact forall_update (by simp [hne]) fun h' i _ => hg.replied h' i
  · exact forall_update (fun _ => hkind) fun h' i _ => hg.typed h' i
  · exact fun h' => hput (j := ⟨_, _, _, _, _, _⟩) h' hg.rptClients (by simp [hpend]) (by simp [hne])
  · intro h'
    show (if kind = .controller then put h r.nextObject r.controllers else r.controllers) h' = _
    by_cases hk : kind = .controller
    · rw [if_pos hk]
      exact hput (j := ⟨_, _, _, _, _, _⟩) h' hg.controllers (by simp [hpend]) (by simp [hk])
    · rw [if_neg hk]
      exact pointer_update hg.controllers (by simp [hi, hpend, hk]) h'
  · intro h'
    show (if kind = .controller then r.devices else put h r.nextObject r.devices) h' = _
    by_cases hk : kind = .controller
    · rw [if_pos hk]
      exact pointer_update hg.devices (by simp [hi, hpend, hk]) h'
    · rw [if_neg hk]
      have hk' : kind = .device := by
        cases kind
        · exact absurd rfl hne
        · exact absurd rfl hk
        · rfl
      exact hput (j := ⟨_, _, _, _, _, _⟩) h' hg.devices (by simp [hpend]) (by simp [hk'])
  · intro h'
    refine Iff.trans (hg.toDestroy h') (Iff.trans ?_ (exists_update h').symm)
    by_cases hh : h' = h
    · rw [if_pos hh, hh, hi]
      simp [hmark]
    · rw [if_neg hh]
  · intro u h'
    refine Iff.trans ?_ (exists_update h').symm
    show m.uidToHandle u = some h' ↔ _
    rw [huids]
    by_cases hu : u = entry.uid
    · rw [if_pos hu]
      by_cases hh : h' = h
      · simp [hh, hu, ClientIdent.Live, hne]
      · rw [if_neg hh]
        refine ⟨fun he => absurd (Option.some.inj he).symm hh, fun hj => ?_⟩
        have := (hg.known u h').mpr hj
        exact absurd (UidManager.mem_iff_uidToHandle.mpr ⟨h', hu ▸ this⟩) hnew
    · rw [if_neg hu, hg.known]
      by_cases hh : h' = h
      · rw [if_pos hh, hh, hi]
        refine ⟨?_, fun hj => absurd hj.2.symm hu⟩
        rintro ⟨j, ⟨⟩, hl, -⟩
        exact absurd hpend hl.1
      · rw [if_neg hh]
  · exact forall_update (fun _ => hown) fun h' i _ => hg.notOwn h' i

theorem Good.type_iff (hi : r.clients h = some i) (hne : i.kind ≠ .pending) :
    (i.kind = .controller ↔ i.entry.type = kRPTClientTypeController) ∧
      (i.kind = .device ↔ i.entry.type = kRPTClientTypeDevice) := by
  have hkind := hg.typed h i hi hne
  obtain ⟨ht, hk⟩ | ⟨ht, ht', hk⟩ | ⟨-, -, hk⟩ := Broker.kindOf_cases i.entry.type
  · rw [hk] at hkind
    rw [← Option.some.inj hkind, ht]
    decide
  · rw [hk] at hkind
    rw [← Option.some.inj hkind, ht']
    decide
  · rw [hk] at hkind
    cases hkind

theorem Good.swept : r.swept.Good own := by
  -- a pointer goes with its client
  have hptr : ∀ {p : ClientIdent → Bool} {q : ClientIdent → Prop} {ptrs ptrs' : Handle → Option Nat},
      (∀ h, ptrs h = pointer p (r.clients h)) → (∀ h i, r.clients h = some i → (p i = true ↔ q i)) →
      (∀ h, r.Doomed q h → ptrs' h = none) → (∀ h, ¬ r.Doomed q h → ptrs' h = ptrs h) →
      ∀ h, ptrs' h = pointer p (r.swept.clients h) := by
    intro p q ptrs ptrs' hptrs hpq hdoomed hkeep h
    by_cases hd : h ∈ r.toDestroy
    · rw [show r.swept.clients h = none from if_pos hd]
      obtain ⟨i, hi, -⟩ := (hg.toDestroy h).mp hd
      by_cases hq : q i
      · exact hdoomed h ⟨hd, i, hi, hq⟩
      · rw [hkeep h, hptrs, hi]
        · have : p i = false := by
            rw [← Bool.not_eq_true]
            exact fun hp => hq ((hpq h i hi).mp hp)
          simp [this]
        · rintro ⟨-, j, hj, hqj⟩
          rw [hi] at hj
          cases hj
          exact hq hqj
    · rw [show r.swept.clients h = r.clients h from if_neg hd, hkeep h fun hdm => hd hdm.1, hptrs]
  refine ⟨?_, ?_, ?_, ?_, ?_, ?_, ?_, ?_, ?_, hg.uids⟩
  · exact fun h i hi => hg.handle h i (clients_swept.mp hi).1
  · exact fun h i hi => hg.replied h i (clients_swept.mp hi).1
  · exact fun h i hi => hg.typed h i (clients_swept.mp hi).1
  · exact hptr hg.rptClients (fun _ _ _ => decide_eq_true_iff) (fun _ hd => if_pos hd)
      fun _ hd => if_neg hd
  · refine hptr hg.controllers (fun h i hi => ?_) (fun _ hd => if_pos hd) fun _ hd => if_neg hd
    rw [decide_eq_true_iff]
    refine ⟨fun hk => ?_, fun ⟨hne, ht⟩ => (hg.type_iff hi hne).1.mpr ht⟩
    have hne : i.kind ≠ .pending := by rw [hk]; decide
    exact ⟨hne, (hg.type_iff hi hne).1.mp hk⟩
  · refine hptr hg.devices (fun h i hi => ?_) (fun _ hd => if_pos hd) fun _ hd => if_neg hd
    rw [decide_eq_true_iff]
    refine ⟨fun hk => ?_, fun ⟨hne, ht⟩ => (hg.type_iff hi hne).2.mpr ht⟩
    have hne : i.kind ≠ .pending := by rw [hk]; decide
    exact ⟨hne, (hg.type_iff hi hne).2.mp hk⟩
  · intro h
    refine ⟨fun hd => (nomatch hd), fun ⟨i, hi, hm⟩ => ?_⟩
    obtain ⟨hi', hnd⟩ := clients_swept.mp hi
    exact absurd ((hg.toDestroy h).mpr ⟨i, hi', hm⟩) hnd
  · intro u h
    refine (hg.known u h).trans ⟨fun ⟨i, hi, hl, hu⟩ => ⟨i, ?_, hl, hu⟩, fun ⟨i, hi, hl, hu⟩ =>
      ⟨i, (clients_swept.mp hi).1, hl, hu⟩⟩
    have hnd : h ∉ r.toDestroy := by
      intro hd
      obtain ⟨j, hj, hm⟩ := (hg.toDestroy h).mp hd
      rw [hi] at hj
      cases hj
      rw [hl.2] at hm
      cases hm
    exact (if_neg hnd).trans hi
  · exact fun h i hi => hg.notOwn h i (clients_swept.mp hi).1

end

end Registry

/-! ### Brokers -/

/-- The client was sent a Connect Reply with status OK and has not been marked for destruction. -/
def BrokerClient.Accepted (c : BrokerClient) : Prop :=
  c.replied = true ∧ c.markedForDestruction = false

namespace Broker

variable {env : BrokerEnv} {b b' : Broker} {h : Handle} {c : BrokerClient}

/-- The UIDs and the pointers of a broker are those of the clients that it has accepted. -/
structure Consistent (env : BrokerEnv) (b : Broker) : Prop where
  own : ∀ h c, b.clients.lookup h = some c → c.Accepted → b.uids.uidToHandle c.entry.uid = some h
  distinct : ∀ h c h' c', b.clients.lookup h = some c → b.clients.lookup h' = some c' →
    c.Accepted → c'.Accepted → c.entry.uid = c'.entry.uid → h = h'
  notBroker : ∀ h c, b.clients.lookup h = some c → c.Accepted → c.entry.uid ≠ env.myUid
  rpt : ∀ h c, b.clients.lookup h = some c → c.Accepted → b.rptClients.lookup h = some c.object
  typed : ∀ h c, b.clients.lookup h = some c → c.Accepted →
    c.entry.type = kRPTClientTypeController ∧ b.controllers.lookup h = some c.object ∨
      c.entry.type = kRPTClientTypeDevice ∧ b.devices.lookup h = some c.object
  known : ∀ u h, b.uids.uidToHandle u = some h → ∃ c, b.clients.lookup h = some c ∧ c.Accepted

theorem Consistent.of_good (hg : b.registry.Good env.myUid) : Consistent env b := by
  have hlive : ∀ {h c}, b.clients.lookup h = some c → (c.Accepted ↔ c.ident.Live) := by
    intro h c hc
    exact and_congr_left fun _ => hg.replied h _ (registry_clients_some hc)
  have hown : ∀ h c, b.clients.lookup h = some c → c.Accepted →
      b.uids.uidToHandle c.entry.uid = some h := fun h c hc ha =>
    (hg.known _ h).mpr ⟨c.ident, registry_clients_some hc, (hlive hc).mp ha, rfl⟩
  refine ⟨hown, ?_, ?_, ?_, ?_, ?_⟩
  · intro h c h' c' hc hc' ha ha' heq
    have h1 := hown h c hc ha
    rw [heq, hown h' c' hc' ha'] at h1
    exact (Option.some.inj h1).symm
  · exact fun h c hc ha => hg.notOwn h _ (registry_clients_some hc) ((hlive hc).mp ha)
  · intro h c hc ha
    have hne := ((hlive hc).mp ha).1
    refine (hg.rptClients h).trans ?_
    rw [registry_clients_some hc, Registry.pointer_some, if_pos (by simpa using hne)]
    rfl
  · intro h c hc ha
    have hne := ((hlive hc).mp ha).1
    obtain ⟨hctrl, hdev⟩ := hg.type_iff (registry_clients_some hc) hne
    cases hk : c.ident.kind with
    | pending => exact absurd hk hne
    | controller =>
      refine .inl ⟨hctrl.mp hk, (hg.controllers h).trans ?_⟩
      rw [registry_clients_some hc, Registry.pointer_some, if_pos (by simpa using hk)]
      rfl
    | device =>
      refine .inr ⟨hdev.mp hk, (hg.devices h).trans ?_⟩
      rw [registry_clients_some hc, Registry.pointer_some, if_pos (by simpa using hk)]
      rfl
  · intro u h hu
    obtain ⟨i, hi, hl, -⟩ := (hg.known u h).mp hu
    obtain ⟨c, hc, rfl⟩ := Option.map_eq_some_iff.mp hi
    exact ⟨c, hc, (hlive hc).mpr hl⟩

/-! ### Events that keep a broker consistent -/

def MarkKeeps (b : Broker) (c : BrokerClient) : Prop :=
  c.markedForDestruction = true → c.kind ≠ .pending → c.entry.uid ∉ b.uids.uidLookup

/-- A Connect request that passes the checks, and whose UID the manager takes, is from a new client of
a known type; its static UID is not that of the broker, and its dynamic UID, if it is a new one, is
above those that were assigned before. -/
def ConnectKeeps (env : BrokerEnv) (h : Handle) (cmsg : BrokerClientConnectMsg) (b : Broker) : Prop :=
  Proper env cmsg ∧ b.uids.Takes env.rdm cmsg.clientEntry.data →
    (env.rdm.uidIsDynamicUidRequest cmsg.clientEntry.data.uid = true →
      b.uids.reservations.lookup cmsg.clientEntry.data.cid = none →
      b.uids.CounterAhead env.myUid cmsg.clientEntry.data.uid.manu) ∧
    ∃ kind ∈ kindOf cmsg.clientEntry.data.type, HasRoomFor env b kind →
      (∃ c ∈ b.clients.lookup h, c.kind = .pending ∧ c.markedForDestruction = false) ∧
      (env.rdm.uidIsDynamicUidRequest cmsg.clientEntry.data.uid = false →
        cmsg.clientEntry.data.uid ≠ env.myUid)

instance (b : Broker) (c : BrokerClient) : Decidable (MarkKeeps b c) :=
  inferInstanceAs (Decidable (_ → _))

instance (env : BrokerEnv) (h : Handle) (cmsg : BrokerClientConnectMsg) (b : Broker) :
    Decidable (ConnectKeeps env h cmsg b) :=
  inferInstanceAs (Decidable (_ → _))

def KeepsConsistent (env : BrokerEnv) (e : Event) (b : Broker) : Prop :=
  (∀ x ∈ e.connects, ConnectKeeps env x.1 x.2.1 b ∧ ∀ c ∈ b.clients.lookup x.1, MarkKeeps b c) ∧
    ∀ h ∈ e.closes, ∀ c ∈ b.clients.lookup h, MarkKeeps b c

instance (env : BrokerEnv) (e : Event) (b : Broker) : Decidable (KeepsConsistent env e b) :=
  inferInstanceAs (Decidable (_ ∧ _))

theorem good_mark {action : ClientDestroyAction} (hg : b.registry.Good env.myUid)
    (hkeep : ∀ c ∈ b.clients.lookup h, MarkKeeps b c) (ha : action ≠ .sendConnectReply kRdmnetConnectOk) :
    (b.markClientForDestruction env h action).registry.Good env.myUid := by
  cases hc : b.clients.lookup h with
  | none => rwa [mark_none hc]
  | some c =>
    rw [registry_mark hc ha]
    exact hg.marked (registry_clients_some hc) (hkeep c hc)

theorem good_connect (hpk : env.pal.Packs) (hrdm : env.rdm.Lawful)
    {cmsg : BrokerClientConnectMsg} {now : Nat} (hg : b.registry.Good env.myUid)
    (hkeep : ConnectKeeps env h cmsg b) (hmark : ∀ c ∈ b.clients.lookup h, MarkKeeps b c)
    (hd : Decides env h cmsg now b b') : b'.registry.Good env.myUid := by
  cases hd with
  | refused status hs hnot => exact good_mark hg hmark fun hact => hs (by cases hact; rfl)
  | full kind m uid hp ht htaken hkind hfull =>
    obtain ⟨hm, hnew, huids, -⟩ := hg.uids.taken hrdm htaken (hkeep ⟨hp, ht⟩).1
    have hsame : ∀ u, (m.removeUid uid).uidToHandle u = b.uids.uidToHandle u :=
      UidManager.uidToHandle_takeBack hnew huids
    refine good_mark (b := { b with uids := m.removeUid uid })
      (hg.withUids (hm.removeUid uid) hsame) (fun c hc hmk hne hmem => ?_) (by decide)
    obtain ⟨h', hh'⟩ := UidManager.mem_iff_uidToHandle.mp hmem
    exact hmark c hc hmk hne (UidManager.mem_iff_uidToHandle.mpr ⟨h', (hsame _).symm.trans hh'⟩)
  | nowhere kind m uid hp ht htaken hkind hroom hnone =>
    obtain ⟨-, kind', hkind', hin⟩ := hkeep ⟨hp, ht⟩
    cases hkind.symm.trans hkind'
    obtain ⟨⟨c, hc, -⟩, -⟩ := hin hroom
    rw [hnone] at hc
    cases hc
  | admitted kind m uid prev hp ht htaken hkind hroom hprev =>
    obtain ⟨hahead, kind', hkind', hin⟩ := hkeep ⟨hp, ht⟩
    cases hkind.symm.trans hkind'
    obtain ⟨⟨c, hc, hpend, hunmarked⟩, hnot⟩ := hin hroom
    cases hprev.symm.trans hc
    obtain ⟨hm, hnew, huids, hown⟩ := hg.uids.taken hrdm htaken hahead
    have hown' : uid ≠ env.myUid := by
      cases hdyn : env.rdm.uidIsDynamicUidRequest cmsg.clientEntry.data.uid with
      | true => exact hown hdyn
      | false =>
        cases htaken with
        | static => exact hnot hdyn
        | returning _ hdyn' | fresh _ _ hdyn' =>
          exact absurd (hdyn.symm.trans hdyn') Bool.false_ne_true
    rw [registry_enrol hpk]
    have hg' : (({ b.registry with uids := m } : Registry).admitted h kind
        { cmsg.clientEntry.data with uid } prev.ident).Good env.myUid :=
      hg.admitted (registry_clients_some hprev) hpend hunmarked hm huids hnew hown' hkind
        (kindOf_ne_pending hkind)
    exact hg'
  | unknown m uid hp ht htaken hkind =>
    obtain ⟨-, kind', hkind', -⟩ := hkeep ⟨hp, ht⟩
    rw [hkind] at hkind'
    cases hkind'

theorem good_step (hpk : env.pal.Packs) (hrdm : env.rdm.Lawful) (e : Event)
    (hkeep : KeepsConsistent env e b) (hg : b.registry.Good env.myUid)
    (hstep : b.step env e = some b') : b'.registry.Good env.myUid := by
  cases step_happens hstep with
  | opens h sock now hnew hnull =>
    have hopens : _ ∨ b.handleNewConnection env h sock now = b := registry_handleNewConnection h sock now
    obtain heq | heq := hopens
    · rw [heq]
      refine hg.opened ?_
      show (b.clients.lookup h).map (·.ident) = none
      rw [hnew]
      rfl
    · rwa [heq]
  | connects _ h cmsg now he =>
    obtain ⟨hconn, hmark⟩ := hkeep.1 _ he
    exact good_connect hpk hrdm hg hconn hmark (processConnectRequest_decides env h cmsg now b)
  | fetches => rwa [registry_sendClientList]
  | closes _ h action he hact =>
    refine good_mark hg (hkeep.2 h he) ?_
    rintro rfl
    obtain hact | hact := hact <;> cases hact
  | routes => rwa [registry_processRPTMessage]
  | serves => rwa [registry_serviceClient]
  | sweeps =>
    rw [registry_destroyMarkedClients]
    exact hg.swept
  | ignores => exact hg

/-- **The maps of a broker stay consistent** in every run whose events all keep them so. -/
theorem maps_consistent (hpk : env.pal.Packs) (hrdm : env.rdm.Lawful)
    (hr : Runs (step env) (KeepsConsistent env) (start env) b) : Consistent env b := by
  refine .of_good (hr.keeps (I := fun b => b.registry.Good env.myUid) ?_ ?_)
  · exact fun e b b' hkeep hg hstep => good_step hpk hrdm e hkeep hg hstep
  · exact Registry.Good.start _

/-! ### Two clients, and one that connects twice -/

/-- A controller and a device connect; the controller leaves and another one takes its UID. -/
theorem maps_consistent_taken_again : ∃ b, Runs (step sampleEnv) (KeepsConsistent sampleEnv) (start sampleEnv) b ∧
      (b.uids.uidToHandle ⟨1, 7⟩, b.uids.uidToHandle ⟨0x8001, 1⟩) = (some 2, some 1) ∧
      Consistent sampleEnv b := by
  obtain ⟨b, hr, huids⟩ := Runs.exists_of_play (s := start sampleEnv) (step sampleEnv)
    (KeepsConsistent sampleEnv)
    (fun b => (b.uids.uidToHandle ⟨1, 7⟩, b.uids.uidToHandle ⟨0x8001, 1⟩)) (some 2, some 1)
    [.newConnection 0 0 0, .messageReceived 0 (connectRequest (controllerEntry 7)) 0,
      .newConnection 1 1 0, .messageReceived 1 (connectRequest deviceEntry) 0,
      .messageReceived 0 disconnectRequest 0, .newConnection 2 2 0, .destroyMarkedClients,
      .messageReceived 2 (connectRequest (controllerEntry 7)) 0] (by decide +kernel)
  exact ⟨b, hr, huids, maps_consistent EtcPal.reference_packs RdmLib.reference_lawful hr⟩

/-- The second Connect request of a client replaces the object that the maps point to. -/
theorem maps_inconsistent : ∃ b, Runs (step sampleEnv) anyStep (start sampleEnv) b ∧
    ¬ Consistent sampleEnv b := by
  obtain ⟨b, hr, hx⟩ := Runs.exists_of_play (s := start sampleEnv) (step sampleEnv) anyStep
    (fun b => (b.rptClients.lookup 0, (b.clients.lookup 0).map fun c =>
      (c.object, c.replied, c.markedForDestruction))) (some 1, some (2, true, false))
    [.newConnection 0 0 0, .messageReceived 0 (connectRequest (controllerEntry 7)) 0,
      .messageReceived 0 (connectRequest (controllerEntry 8)) 0] (by decide +kernel)
  refine ⟨b, hr, fun hcons => ?_⟩
  obtain ⟨hptr, hc⟩ := Prod.mk.inj hx
  obtain ⟨c, hc, hx⟩ := Option.map_eq_some_iff.mp hc
  obtain ⟨hobj, hrep, hmark⟩ : c.object = 2 ∧ c.replied = true ∧ c.markedForDestruction = false := by
    simpa using hx
  have hpoint := hcons.rpt 0 c hc ⟨hrep, hmark⟩
  rw [hptr, hobj] at hpoint
  cases hpoint

end Broker

end RDMnet
