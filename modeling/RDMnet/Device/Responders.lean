import RDMnet.Prot.RdmPacket

/-!
# The responders of an endpoint

Each endpoint of a device keeps its responders in a tree of EtcPal, ordered by `responder_compare`
(`common.c`).  The tree is the list of its values in order; that inserting and searching follow the order
is assumed of EtcPal.

* A responder with a dynamic UID has a responder ID; the others have the null UUID instead and are told
  apart by their UIDs.
* A search by responder ID leaves the UID of its search key unset.  The UID is looked at if the responder
  ID is null: `stale` is what the memory of the key held.
* Memory for a responder and its node comes from a `Pool`, the pieces of memory that can still be had with
  what they hold; an allocation fails if there is none left.
-/

namespace RDMnet

open List

/-! ### Searching -/

/-- `kEtcPalNullUuid` -/
abbrev kEtcPalNullUuid : Uuid := Vector.replicate 16 0

/-- The macros of the RDM library that a device uses. -/
structure DeviceLib where
  /-- `RDMNET_UID_IS_DYNAMIC_UID_REQUEST` -/
  uidIsDynamicUidRequest : RdmUid → Bool
  /-- `RDMNET_INIT_DYNAMIC_UID_REQUEST`, for a manufacturer ID -/
  initDynamicUidRequest : UInt16 → RdmUid

/-- What is made as a request is a request. -/
structure DeviceLib.Lawful (lib : DeviceLib) : Prop where
  request : ∀ manu, lib.uidIsDynamicUidRequest (lib.initDynamicUidRequest manu) = true

def DeviceLib.reference : DeviceLib where
  uidIsDynamicUidRequest := fun uid => 0x8000 ≤ uid.manu ∧ uid.id = 0
  initDynamicUidRequest := fun manu => ⟨manu ||| 0x8000, 0⟩

theorem DeviceLib.reference_lawful : DeviceLib.reference.Lawful where
  request := by
    intro manu
    have h : (0x8000 : UInt16) ≤ manu ||| 0x8000 := by
      rw [UInt16.le_iff_toNat_le, UInt16.toNat_or]
      exact Nat.right_le_or
    simpa [reference] using h

structure EndpointResponder where
  rid : Uuid
  uid : RdmUid
  bindingUid : RdmUid
  controlField : UInt16
  deriving DecidableEq, Inhabited

/-- The members of a responder that `responder_compare` looks at. -/
structure ResponderKey where
  rid : Uuid
  uid : RdmUid

def EndpointResponder.key (r : EndpointResponder) : ResponderKey := ⟨r.rid, r.uid⟩

def memcmp : Bytes → Bytes → Ordering
  | a :: as, b :: bs => (compare a b).then (memcmp as bs)
  | _, _ => .eq

def responderCompare (a b : ResponderKey) : Ordering :=
  let res := memcmp a.rid.toList b.rid.toList
  -- UIDs are compared only if both responder IDs are null
  if res = .eq ∧ a.rid = kEtcPalNullUuid then
    (compare a.uid.manu b.uid.manu).then (compare a.uid.id b.uid.id)
  else res

def ResponderKey.Same (a b : ResponderKey) : Prop :=
  a.rid = b.rid ∧ (a.rid = kEtcPalNullUuid → a.uid = b.uid)

theorem memcmp_eq_iff : ∀ {a b : Bytes}, a.length = b.length → (memcmp a b = .eq ↔ a = b)
  | [], [], _ => by simp [memcmp]
  | a :: as, b :: bs, h => by
    rw [memcmp, Ordering.then_eq_eq, Std.LawfulEqOrd.compare_eq_iff_eq, memcmp_eq_iff (by simpa using h),
      List.cons.injEq]

theorem responderCompare_eq_iff {a b : ResponderKey} : responderCompare a b = .eq ↔ a.Same b := by
  have hrid : memcmp a.rid.toList b.rid.toList = .eq ↔ a.rid = b.rid := by
    rw [memcmp_eq_iff (by simp), Vector.toList_inj]
  unfold responderCompare ResponderKey.Same
  dsimp only
  by_cases hr : a.rid = b.rid
  · by_cases hnull : a.rid = kEtcPalNullUuid
    · rw [if_pos ⟨hrid.mpr hr, hnull⟩, Ordering.then_eq_eq, Std.LawfulEqOrd.compare_eq_iff_eq,
        Std.LawfulEqOrd.compare_eq_iff_eq]
      obtain ⟨arid, amanu, aid⟩ := a
      obtain ⟨brid, bmanu, bid⟩ := b
      simp only [RdmUid.mk.injEq]
      exact ⟨fun h => ⟨hr, fun _ => h⟩, fun h => h.2 hnull⟩
    · rw [if_neg (fun h => hnull h.2), hrid]
      exact ⟨fun h => ⟨h, fun h' => absurd h' hnull⟩, And.left⟩
  · rw [if_neg (fun h => hr (hrid.mp h.1)), hrid]
    exact ⟨fun h => absurd h hr, fun h => absurd h.1 hr⟩

/-- The first responder of a tree that a key stands for (`etcpal_rbtree_find`). -/
def findResponder (key : ResponderKey) (responders : List EndpointResponder) :
    Option EndpointResponder :=
  responders.find? fun r => responderCompare key r.key = .eq

/-- `rdmnet_find_responder_by_rid` -/
def rdmnetFindResponderByRid (stale : RdmUid) (rid : Uuid) :
    List EndpointResponder → Option EndpointResponder :=
  findResponder ⟨rid, stale⟩

/-- `rdmnet_find_responder_by_uid` -/
def rdmnetFindResponderByUid (uid : RdmUid) : List EndpointResponder → Option EndpointResponder :=
  findResponder ⟨kEtcPalNullUuid, uid⟩

theorem findResponder_isSome {key : ResponderKey} {responders : List EndpointResponder} :
    (findResponder key responders).isSome = true ↔ ∃ r ∈ responders, key.Same r.key := by
  simp [findResponder, find?_isSome, responderCompare_eq_iff]

/-! ### Removing -/

/-- Remove the responders that some keys stand for, one after another
(`etcpal_rbtree_remove_with_cb`). -/
def removeResponders (keys : List ResponderKey) (responders : List EndpointResponder) :
    List EndpointResponder :=
  keys.foldl (fun rs key => rs.filter fun r => responderCompare key r.key ≠ .eq) responders

/-- `rdmnet_remove_responders_by_rid` -/
def rdmnetRemoveRespondersByRid (stale : RdmUid) (rids : List Uuid) :
    List EndpointResponder → List EndpointResponder :=
  removeResponders (rids.map (⟨·, stale⟩))

/-- `rdmnet_remove_responders_by_uid` -/
def rdmnetRemoveRespondersByUid (uids : List RdmUid) :
    List EndpointResponder → List EndpointResponder :=
  removeResponders (uids.map (⟨kEtcPalNullUuid, ·⟩))

theorem mem_removeResponders {keys : List ResponderKey} {responders : List EndpointResponder}
    {r : EndpointResponder} :
    r ∈ removeResponders keys responders ↔ r ∈ responders ∧ ∀ key ∈ keys, ¬ key.Same r.key := by
  unfold removeResponders
  induction keys generalizing responders with
  | nil => simp
  | cons key keys ih =>
    rw [foldl_cons, ih]
    simp only [mem_filter, forall_mem_cons, decide_eq_true_eq, ne_eq, responderCompare_eq_iff, and_assoc]

/-! ### Adding -/

/-- The results of the functions of a device other than `kEtcPalErrOk`. -/
inductive DeviceErr
  | invalid | notFound | noMem | entryExists
  deriving DecidableEq, Repr

abbrev Pool := List EndpointResponder

/-- `etcpal_rbtree_insert` -/
def insertResponder (r : EndpointResponder) (responders : List EndpointResponder) :
    Option (List EndpointResponder) :=
  if (findResponder r.key responders).isSome then none
  else some (responders.orderedInsert (fun a b => responderCompare a.key b.key ≠ .gt) r)

theorem mem_insertResponder {r r' : EndpointResponder} {responders responders' : List EndpointResponder}
    (h : insertResponder r responders = some responders') : r' ∈ responders' ↔ r' = r ∨ r' ∈ responders := by
  unfold insertResponder at h
  split_ifs at h
  cases h
  exact mem_orderedInsert _

theorem insertResponder_fresh {r r' : EndpointResponder} {responders responders' : List EndpointResponder}
    (h : insertResponder r responders = some responders') (hr : r' ∈ responders) : ¬ r.key.Same r'.key := by
  intro hsame
  have hfound := findResponder_isSome.mpr ⟨r', hr, hsame⟩
  simp [insertResponder, hfound] at h

/-- How the loops that add responders end. -/
structure Added where
  responders : List EndpointResponder
  pool : Pool
  numAdded : Nat
  res : Option DeviceErr

/-- The loop of `rdmnet_add_static_responders` and its relatives; `fill` sets the members of a new
responder. -/
def addLoop {ι : Type} (fill : ι → EndpointResponder → EndpointResponder) :
    List ι → Pool → List EndpointResponder → Added
  | [], pool, responders => ⟨responders, pool, 0, none⟩
  | _ :: _, [], responders => ⟨responders, [], 0, some .noMem⟩
  | x :: xs, mem :: pool, responders =>
    match insertResponder (fill x mem) responders with
    | none => ⟨responders, pool, 0, some .entryExists⟩
    | some responders =>
      let rest := addLoop fill xs pool responders
      { rest with numAdded := rest.numAdded + 1 }

/-- Add responders, and remove those already added if one cannot be: `key` is what they are searched by
then. -/
def addResponders {ι : Type} (fill : ι → EndpointResponder → EndpointResponder)
    (key : ι → ResponderKey) (xs : List ι) (pool : Pool) (responders : List EndpointResponder) :
    List EndpointResponder × Pool × Option DeviceErr :=
  let added := addLoop fill xs pool responders
  match added.res with
  | none => (added.responders, added.pool, none)
  | some err =>
    (removeResponders ((xs.take added.numAdded).map key) added.responders, added.pool, some err)

/-- `RdmnetPhysicalEndpointResponder` -/
structure PhysicalEndpointResponder where
  uid : RdmUid
  bindingUid : RdmUid
  controlField : UInt16
  deriving DecidableEq, Inhabited

/-! The members that `add_static_responder`, `add_physical_responder` and `add_dynamic_responder` set;
the others hold what the memory held. -/

def staticResponder (uid : RdmUid) (mem : EndpointResponder) : EndpointResponder :=
  { mem with rid := kEtcPalNullUuid, uid := uid }

def physicalResponder (config : PhysicalEndpointResponder) (_ : EndpointResponder) : EndpointResponder :=
  ⟨kEtcPalNullUuid, config.uid, config.bindingUid, config.controlField⟩

def dynamicResponder (lib : DeviceLib) (manufacturerId : UInt16) (rid : Uuid) (mem : EndpointResponder) :
    EndpointResponder :=
  { mem with rid := rid, uid := lib.initDynamicUidRequest manufacturerId }

theorem staticResponder_key (uid : RdmUid) (mem : EndpointResponder) :
    (staticResponder uid mem).key = ⟨kEtcPalNullUuid, uid⟩ := rfl

theorem physicalResponder_key (config : PhysicalEndpointResponder) (mem : EndpointResponder) :
    (physicalResponder config mem).key = ⟨kEtcPalNullUuid, config.uid⟩ := rfl

theorem dynamicResponder_key (lib : DeviceLib) (manufacturerId : UInt16) (rid : Uuid)
    (mem : EndpointResponder) : (dynamicResponder lib manufacturerId rid mem).key =
      ⟨rid, lib.initDynamicUidRequest manufacturerId⟩ := rfl

def rdmnetAddStaticResponders :
    List RdmUid → Pool → List EndpointResponder → List EndpointResponder × Pool × Option DeviceErr :=
  addResponders staticResponder (⟨kEtcPalNullUuid, ·⟩)

def rdmnetAddPhysicalResponders : List PhysicalEndpointResponder → Pool → List EndpointResponder →
    List EndpointResponder × Pool × Option DeviceErr :=
  addResponders physicalResponder (⟨kEtcPalNullUuid, ·.uid⟩)

def rdmnetAddDynamicResponders (lib : DeviceLib) (manufacturerId : UInt16) (stale : RdmUid) :
    List Uuid → Pool → List EndpointResponder → List EndpointResponder × Pool × Option DeviceErr :=
  addResponders (dynamicResponder lib manufacturerId) (⟨·, stale⟩)

/-! ### What is there after responders were added -/

section Add

variable {ι : Type} {fill : ι → EndpointResponder → EndpointResponder} {key : ι → ResponderKey}
  {xs : List ι} {pool : Pool} {responders : List EndpointResponder}

/-- What the loop does with a tree. -/
structure AddsResponders (fill : ι → EndpointResponder → EndpointResponder) (key : ι → ResponderKey)
    (xs : List ι) (pool : Pool) (responders : List EndpointResponder) (added : Added) : Prop where
  old : ∀ r ∈ responders, r ∈ added.responders
  new : ∀ r ∈ added.responders, r ∈ responders ∨ ∃ x ∈ xs.take added.numAdded, ∃ mem, r = fill x mem
  fresh : ∀ r ∈ responders, ∀ x ∈ xs.take added.numAdded, ¬ (key x).Same r.key
  distinct : (xs.take added.numAdded).Pairwise fun x y => ¬ (key y).Same (key x)
  all : added.res = none → added.numAdded = xs.length ∧ pool.length = xs.length + added.pool.length

section

variable (hkey : ∀ x mem, (fill x mem).key = key x)
include hkey

theorem addLoop_adds (xs : List ι) (pool : Pool) (responders : List EndpointResponder) :
    AddsResponders fill key xs pool responders (addLoop fill xs pool responders) := by
  fun_induction addLoop fill xs pool responders with
  | case1 pool responders =>
    exact ⟨fun _ h => h, fun _ h => .inl h, fun _ _ _ h => by simp at h, .nil,
      fun _ => ⟨rfl, (Nat.zero_add _).symm⟩⟩
  | case2 | case3 =>
    exact ⟨fun _ h => h, fun _ h => .inl h, fun _ _ _ h => by simp at h, .nil, fun h => by simp at h⟩
  | case4 x xs mem pool responders responders' hins rest ih =>
    have hmem : ∀ r, r ∈ responders' ↔ r = fill x mem ∨ r ∈ responders :=
      fun _ => mem_insertResponder hins
    refine ⟨fun r hr => ih.old r ((hmem r).mpr (.inr hr)), fun r hr => ?_, fun r hr y hy => ?_, ?_,
      fun h => ?_⟩
    · rw [take_succ_cons]
      rcases ih.new r hr with hold | ⟨y, hy, m, rfl⟩
      · rcases (hmem r).mp hold with rfl | hold
        · exact .inr ⟨x, mem_cons_self, mem, rfl⟩
        · exact .inl hold
      · exact .inr ⟨y, mem_cons_of_mem _ hy, m, rfl⟩
    · rw [take_succ_cons] at hy
      rcases mem_cons.mp hy with rfl | hy
      · exact hkey y mem ▸ insertResponder_fresh hins hr
      · exact ih.fresh r ((hmem r).mpr (.inr hr)) y hy
    · rw [take_succ_cons]
      refine .cons (fun y hy => ?_) ih.distinct
      exact hkey x mem ▸ ih.fresh _ ((hmem _).mpr (.inl rfl)) y hy
    · obtain ⟨hnum, hpool⟩ := ih.all h
      refine ⟨congrArg (· + 1) hnum, ?_⟩
      show pool.length + 1 = xs.length + 1 + rest.pool.length
      have : pool.length = xs.length + rest.pool.length := hpool
      omega

theorem addResponders_failed {responders' : List EndpointResponder} {pool' : Pool} {err : DeviceErr}
    (h : addResponders fill key xs pool responders = (responders', pool', some err))
    (r : EndpointResponder) : r ∈ responders' ↔ r ∈ responders := by
  have hadds := addLoop_adds hkey xs pool responders
  unfold addResponders at h
  dsimp only at h
  split at h
  · cases h
  · cases h
    rw [mem_removeResponders]
    constructor
    · rintro ⟨hr, hkeys⟩
      rcases hadds.new r hr with hold | ⟨x, hx, mem, rfl⟩
      · exact hold
      · have := hkeys (key x) (mem_map_of_mem hx)
        rw [hkey] at this
        exact absurd ⟨rfl, fun _ => rfl⟩ this
    · intro hr
      refine ⟨hadds.old r hr, fun k hk => ?_⟩
      obtain ⟨x, hx, rfl⟩ := mem_map.mp hk
      exact hadds.fresh r hr x hx

theorem addResponders_added {key' : ι → ResponderKey} {responders' : List EndpointResponder} {pool' : Pool}
    (h : addResponders fill key' xs pool responders = (responders', pool', none)) :
    (∀ r ∈ responders, r ∈ responders') ∧ (∀ r ∈ responders', r ∈ responders ∨ ∃ x ∈ xs, ∃ mem, r = fill x mem) ∧
      pool.length = xs.length + pool'.length ∧ xs.Pairwise fun x y => ¬ (key y).Same (key x) := by
  have hadds := addLoop_adds hkey xs pool responders
  unfold addResponders at h
  dsimp only at h
  split at h
  · rename_i hres
    cases h
    have hnew := hadds.new
    have hdistinct := hadds.distinct
    rw [(hadds.all hres).1, take_length] at hnew hdistinct
    exact ⟨hadds.old, hnew, (hadds.all hres).2, hdistinct⟩
  · cases h

end

end Add

/-! Responders with dynamic UIDs are removed by their responder IDs. -/

section Dynamic

variable {lib : DeviceLib} {manufacturerId : UInt16} {stale : RdmUid} {rids : List Uuid} {pool pool' : Pool}
  {responders responders' : List EndpointResponder} {err : DeviceErr}

theorem addLoop_adds_dynamic (lib : DeviceLib) (manufacturerId : UInt16) (rids : List Uuid) (pool : Pool)
    (responders : List EndpointResponder) : AddsResponders (dynamicResponder lib manufacturerId)
      (fun rid => ⟨rid, lib.initDynamicUidRequest manufacturerId⟩) rids pool responders
      (addLoop (dynamicResponder lib manufacturerId) rids pool responders) :=
  addLoop_adds (dynamicResponder_key lib manufacturerId) rids pool responders

section

variable (h : rdmnetAddDynamicResponders lib manufacturerId stale rids pool responders =
  (responders', pool', some err))
include h

/-- A failure leaves behind at most responders without an ID. -/
theorem rdmnetAddDynamicResponders_failed {r : EndpointResponder} (hr : r ∈ responders') :
    r ∈ responders ∨ (r.rid = kEtcPalNullUuid ∧ r.uid = lib.initDynamicUidRequest manufacturerId) := by
  have hadds := addLoop_adds_dynamic lib manufacturerId rids pool responders
  unfold rdmnetAddDynamicResponders addResponders at h
  dsimp only at h
  split at h
  · cases h
  · cases h
    obtain ⟨hmem, hkeys⟩ := mem_removeResponders.mp hr
    rcases hadds.new r hmem with hold | ⟨rid, hrid, mem, rfl⟩
    · exact .inl hold
    · -- it would have been removed if its responder ID were not null
      by_cases hnull : rid = kEtcPalNullUuid
      · exact .inr ⟨hnull, rfl⟩
      · exact absurd ⟨rfl, fun h => absurd h hnull⟩ (hkeys ⟨rid, stale⟩ (mem_map_of_mem hrid))

/-- A failure takes away at most a responder without an ID, with the UID that the search key held by
accident. -/
theorem rdmnetAddDynamicResponders_kept {r : EndpointResponder} (hr : r ∈ responders)
    (hstale : kEtcPalNullUuid ∈ rids → r.rid = kEtcPalNullUuid → r.uid ≠ stale) : r ∈ responders' := by
  have hadds := addLoop_adds_dynamic lib manufacturerId rids pool responders
  unfold rdmnetAddDynamicResponders addResponders at h
  dsimp only at h
  split at h
  · cases h
  · cases h
    refine mem_removeResponders.mpr ⟨hadds.old r hr, fun k hk hsame => ?_⟩
    obtain ⟨rid, hrid, rfl⟩ := mem_map.mp hk
    have hridr : rid = r.rid := hsame.1
    by_cases hnull : rid = kEtcPalNullUuid
    · exact hstale (hnull ▸ mem_of_mem_take hrid) (hridr ▸ hnull) (hsame.2 hnull).symm
    · exact hadds.fresh r hr rid hrid ⟨hridr, fun h => absurd h hnull⟩

end

end Dynamic

end RDMnet
