import RDMnet.Device.Answers
import RDMnet.Lib.Changes

/-!
# Change numbers

A controller keeps the lists that a device has sent, and asks for them again only if a change number has
changed.  That is safe as long as every call that changes a list increments its number.  Three calls can
change a list and leave its number alone:

* `client_disconnected` takes the dynamic UIDs away from their responders, which are then no longer listed;
* `remove_endpoints` gives up half-way if an endpoint is to be removed more often than it is there, and
  leaves the endpoints that have moved where they are;
* a responder with the null UUID for an ID is looked for by a UID that was never set.

In every run without such calls, equal numbers mean equal lists.
-/

namespace RDMnet

open List RdmnetDevice

variable {lib : DeviceLib}

/-! ### Removing endpoints -/

/-- Remove the first endpoint with each of some IDs. -/
def eraseEndpoints (ids : List UInt16) (endpoints : List DeviceEndpoint) : List DeviceEndpoint :=
  ids.foldl (fun es id => es.eraseP (·.id = id)) endpoints

def RemovesEach (ids : List UInt16) (endpoints : List DeviceEndpoint) : Prop :=
  ∀ id ∈ ids, ids.count id ≤ (endpoints.map (·.id)).count id

instance (ids : List UInt16) (endpoints : List DeviceEndpoint) : Decidable (RemovesEach ids endpoints) :=
  List.decidableBAll _ ids

theorem map_id_eraseP (id : UInt16) (es : List DeviceEndpoint) :
    (es.eraseP (·.id = id)).map (·.id) = (es.map (·.id)).erase id := by
  rw [erase_eq_eraseP, eraseP_map]
  congr 2
  funext e
  simp [eq_comm, Bool.beq_eq_decide_eq]

variable {id : UInt16} {ids : List UInt16} {es : List DeviceEndpoint}

theorem RemovesEach.tail (h : RemovesEach (id :: ids) es) : RemovesEach ids (es.eraseP (·.id = id)) := by
  intro id' hid'
  have hle := h id' (mem_cons_of_mem _ hid')
  rw [count_cons] at hle
  rw [map_id_eraseP, count_erase]
  by_cases heq : id = id'
  · subst heq
    simp only [beq_self_eq_true, if_true] at hle ⊢
    omega
  · have hne : (id == id') = false := by simpa using heq
    simp only [hne, if_false, Bool.false_eq_true] at hle ⊢
    omega

theorem findEndpoint_eraseP {id' : UInt16} (hne : id ≠ id') (es : List DeviceEndpoint) :
    findEndpoint id (es.eraseP (·.id = id')) = findEndpoint id es := by
  unfold findEndpoint
  induction es with
  | nil => rfl
  | cons e es ih =>
    by_cases he : e.id = id'
    · have hid : e.id ≠ id := fun h => hne (h.symm.trans he)
      rw [eraseP_cons_of_pos (by simpa using he), find?_cons_of_neg (by simpa using hid)]
    · rw [eraseP_cons_of_neg (by simpa using he), find?_cons, find?_cons, ih]

theorem findEndpoint_eraseEndpoints (hid : id ∉ ids)
    (es : List DeviceEndpoint) : findEndpoint id (eraseEndpoints ids es) = findEndpoint id es := by
  unfold eraseEndpoints
  induction ids generalizing es with
  | nil => rfl
  | cons id' ids ih =>
    rw [foldl_cons, ih (not_mem_of_not_mem_cons hid), findEndpoint_eraseP (ne_of_not_mem_cons hid)]

theorem exists_findIdx {live : List DeviceEndpoint} (dead : List DeviceEndpoint)
    (h : id ∈ live.map (·.id)) : ∃ i, i < live.length ∧
      (live ++ dead).findIdx? (·.id = id) = some i ∧ live.eraseIdx i = live.eraseP (·.id = id) := by
  obtain ⟨e, he, hid⟩ := mem_map.mp h
  have hex : ∃ e ∈ live, decide (e.id = id) = true := ⟨e, he, by simpa using hid⟩
  refine ⟨live.findIdx (·.id = id), findIdx_lt_length.mpr hex, ?_, ?_⟩
  · rw [findIdx?_append, findIdx?_eq_some_of_exists hex, Option.some_or]
  · rw [eraseP_eq_eraseIdx, findIdx?_eq_some_of_exists hex]

theorem modify_last {α : Type} {l : List α} {i : Nat} (hlt : i < l.length) (hlast : i = l.length - 1)
    (f : α → α) : ∃ x, l.modify i f = l.eraseIdx i ++ [x] := by
  refine ⟨f l[i], ?_⟩
  rw [modify_eq_take_cons_drop hlt, eraseIdx_eq_take_drop_succ, drop_of_length_le (by omega), append_nil]

theorem removeLoop_eq {live : List DeviceEndpoint} (dead : List DeviceEndpoint)
    (h : RemovesEach ids live) : ∃ dead', removeLoop ids (live ++ dead) =
      (eraseEndpoints ids live ++ dead', true) ∧ (eraseEndpoints ids live).length + ids.length = live.length ∧
      dead'.length = dead.length + ids.length := by
  induction ids generalizing live dead with
  | nil => exact ⟨dead, rfl, rfl, rfl⟩
  | cons id ids ih =>
    have hmem : id ∈ live.map (·.id) := by
      have := h id mem_cons_self
      rw [count_cons_self] at this
      exact count_pos_iff.mp (by omega)
    obtain ⟨i, hlt, hidx, herase⟩ := exists_findIdx dead hmem
    have hlen : (live.eraseP (·.id = id)).length + 1 = live.length := by
      rw [← herase, length_eraseIdx_of_lt hlt]
      omega
    -- one more slot does not count
    have hslots : ∃ x, removeLoop (id :: ids) (live ++ dead) =
        removeLoop ids (live.eraseP (·.id = id) ++ (dead ++ [x])) := by
      rw [removeLoop, hidx]
      dsimp only
      by_cases hlast : i = (live ++ dead).length - 1
      · have hdead : dead = [] := by
          rw [length_append] at hlast
          exact eq_nil_of_length_eq_zero (by omega)
        subst hdead
        rw [append_nil] at hlast ⊢
        obtain ⟨x, hx⟩ := modify_last hlt hlast fun e : DeviceEndpoint => { e with responders := [] }
        exact ⟨x, by rw [if_neg (not_not.mpr hlast), hx, herase, nil_append]⟩
      · have hne : live ++ dead ≠ [] := by
          intro hnil
          simp [(append_eq_nil_iff.mp hnil).1] at hlt
        refine ⟨(live ++ dead).getLast hne, ?_⟩
        rw [if_pos hlast, eraseIdx_append_of_lt_length hlt, herase, append_assoc,
          getLast?_eq_some_getLast hne, Option.toList_some]
    obtain ⟨x, hx⟩ := hslots
    obtain ⟨dead', heq, hl, hd⟩ := ih (dead ++ [x]) h.tail
    refine ⟨dead', hx.trans heq, ?_, ?_⟩
    · show (eraseEndpoints ids (live.eraseP _)).length + (ids.length + 1) = live.length
      omega
    · simp only [length_append, length_cons, length_nil] at hd ⊢
      omega

/-- **`remove_endpoints`** removes the endpoints it is told to, if there are enough of them. -/
theorem removeEndpoints_eq (h : RemovesEach ids es) :
    removeEndpoints ids es = (eraseEndpoints ids es, true) := by
  have hall : (ids.all fun id => (findEndpoint id es).isSome) = true := by
    rw [all_eq_true]
    intro id hid
    have hpos : 0 < (es.map (·.id)).count id :=
      lt_of_lt_of_le (count_pos_iff.mpr hid) (h id hid)
    obtain ⟨e, he, heq⟩ := mem_map.mp (count_pos_iff.mp hpos)
    exact find?_isSome.mpr ⟨e, he, by simpa using heq⟩
  obtain ⟨dead, heq, hl, hd⟩ := removeLoop_eq [] h
  rw [append_nil] at heq
  rw [removeEndpoints, if_pos hall, heq]
  simp only [length_append]
  have hdead : dead.length = ids.length := by simpa using hd
  rw [if_pos (by omega), take_append_of_le_length (by omega), take_of_length_le (by omega)]

theorem removeEndpoints_of_not_found (hid : id ∈ ids) (hnone : findEndpoint id es = none) :
    removeEndpoints ids es = (es, false) := by
  have hall : (ids.all fun id => (findEndpoint id es).isSome) = false := by
    rw [all_eq_false]
    exact ⟨id, hid, by rw [hnone]; decide⟩
  rw [removeEndpoints, if_neg (by rw [hall]; decide)]

/-! ### Endpoints that are changed in place -/

/-- In at most `n` increments, an endpoint has become another: with the same change number it lists the same
UIDs. -/
structure Evolves (lib : DeviceLib) (n : Nat) (e e' : DeviceEndpoint) : Prop where
  id : e'.id = e.id
  type : e'.type = e.type
  number : Advances n e.responderListChangeNumber e'.responderListChangeNumber
    (∀ uid, uid ∈ e.listed lib ↔ uid ∈ e'.listed lib)

namespace Evolves

variable {n m : Nat} {e e' e'' : DeviceEndpoint}

theorem refl (n : Nat) (e : DeviceEndpoint) : Evolves lib n e e :=
  ⟨rfl, rfl, .stays n _ fun _ => Iff.rfl⟩

theorem mono (h : Evolves lib n e e') (hnm : n ≤ m) : Evolves lib m e e' :=
  ⟨h.id, h.type, h.number.mono hnm⟩

theorem trans (h : Evolves lib n e e') (h' : Evolves lib m e' e'') : Evolves lib (n + m) e e'' :=
  ⟨h'.id.trans h.id, h'.type.trans h.type,
    h.number.trans (fun h₁ h₂ uid => (h₁ uid).trans (h₂ uid)) h'.number⟩

theorem counted (hn : 1 ≤ n) (e : DeviceEndpoint) (responders : List EndpointResponder) :
    Evolves lib n e { e with responders, responderListChangeNumber := e.responderListChangeNumber + 1 } :=
  ⟨rfl, rfl, .one hn _⟩

theorem silent (n : Nat) {responders : List EndpointResponder}
    (h : ∀ uid, lib.uidIsDynamicUidRequest uid = false →
      ((∃ r ∈ e.responders, r.uid = uid) ↔ ∃ r ∈ responders, r.uid = uid)) :
    Evolves lib n e { e with responders } := by
  refine ⟨rfl, rfl, .stays n _ fun uid => ?_⟩
  simp only [DeviceEndpoint.listed, mem_filter, mem_map, Bool.not_eq_eq_eq_not, Bool.not_true]
  exact ⟨fun ⟨hr, hu⟩ => ⟨(h uid hu).mp hr, hu⟩, fun ⟨hr, hu⟩ => ⟨(h uid hu).mpr hr, hu⟩⟩

end Evolves

abbrev AllEvolve (lib : DeviceLib) (n : Nat) : List DeviceEndpoint → List DeviceEndpoint → Prop :=
  List.Forall₂ (Evolves lib n)

theorem allEvolve_refl (n : Nat) (es : List DeviceEndpoint) : AllEvolve lib n es es :=
  List.forall₂_same.mpr fun e _ => .refl n e

variable {n : Nat} {es' : List DeviceEndpoint}

theorem AllEvolve.mono {m : Nat} (h : AllEvolve lib n es es') (hnm : n ≤ m) : AllEvolve lib m es es' :=
  h.imp fun _ _ he => he.mono hnm

theorem allEvolve_setEndpoint {e e' : DeviceEndpoint}
    (hfind : findEndpoint id es = some e) (h : Evolves lib n e e') : AllEvolve lib n es (setEndpoint e' es) := by
  have hid : e'.id = id := h.id.trans (by simpa using find?_some hfind)
  induction es with
  | nil => cases hfind
  | cons x es ih =>
    unfold setEndpoint
    unfold findEndpoint at hfind
    by_cases hx : x.id = id
    · rw [find?_cons_of_pos (by simpa using hx)] at hfind
      cases hfind
      rw [if_pos (hx.trans hid.symm)]
      exact .cons h (allEvolve_refl n es)
    · rw [find?_cons_of_neg (by simpa using hx)] at hfind
      rw [if_neg (fun h' => hx (h'.trans hid))]
      exact .cons (.refl n x) (ih hfind)

theorem AllEvolve.listed (h : AllEvolve lib n es es') :
    (es'.map fun e => (e.id, e.type)) = es.map fun e => (e.id, e.type) := by
  induction h with
  | nil => rfl
  | cons he _ ih => rw [map_cons, map_cons, he.id, he.type, ih]

theorem AllEvolve.find {e : DeviceEndpoint} (h : AllEvolve lib n es es') (hfind : findEndpoint id es = some e) :
    ∃ e', findEndpoint id es' = some e' ∧ Evolves lib n e e' := by
  unfold findEndpoint at hfind ⊢
  induction h with
  | nil => cases hfind
  | @cons x x' es es' hx _ ih =>
    by_cases hid : x.id = id
    · rw [find?_cons_of_pos (by simpa using hid)] at hfind
      cases hfind
      exact ⟨x', find?_cons_of_pos (by simpa using hx.id.trans hid), hx⟩
    · rw [find?_cons_of_neg (by simpa using hid)] at hfind
      rw [find?_cons_of_neg (by simpa using fun h => hid (hx.id.symm.trans h))]
      exact ih hfind

/-! ### Calls that change endpoints in place -/

/-- With `n` increments, endpoints have changed in place. -/
structure InPlace (lib : DeviceLib) (n : Nat) (d d' : RdmnetDevice) : Prop where
  changes : d'.changes = d.changes + n
  number : d'.endpointListChangeNumber = d.endpointListChangeNumber
  endpoints : AllEvolve lib n d.endpoints d'.endpoints

section InPlace

variable {d : RdmnetDevice} {id : UInt16} {e : DeviceEndpoint}

theorem inPlace_refl (d : RdmnetDevice) : InPlace lib 0 d d := ⟨rfl, rfl, allEvolve_refl 0 _⟩

section

variable (hfind : findEndpoint id d.endpoints = some e)
include hfind

theorem inPlace_set {responders : List EndpointResponder} (h : Evolves lib 0 e { e with responders }) :
    InPlace lib 0 d { d with endpoints := setEndpoint { e with responders } d.endpoints } :=
  ⟨rfl, rfl, allEvolve_setEndpoint hfind h⟩

theorem inPlace_notify {d₁ : RdmnetDevice} {k : Nat}
    (responders : List EndpointResponder) (hes : d₁.endpoints = d.endpoints)
    (hchanges : d₁.changes = d.changes + k) (hnumber : d₁.endpointListChangeNumber = d.endpointListChangeNumber) :
    InPlace lib (k + 1) d (d₁.notifyEndpointResponderListChange { e with
      responders, responderListChangeNumber := e.responderListChangeNumber + UInt32.ofNat k }) := by
  unfold notifyEndpointResponderListChange
  refine ⟨?_, ?_, ?_⟩
  · simp only [send_changes, hchanges]
    omega
  · simp only [send_endpointListChangeNumber, hnumber]
  · simp only [send_endpoints, hes]
    refine allEvolve_setEndpoint hfind ⟨rfl, rfl, k + 1, le_rfl, ?_, fun h => by cases h⟩
    show e.responderListChangeNumber + UInt32.ofNat k + 1 = _
    rw [UInt32.ofNat_add, UInt32.add_assoc]
    rfl

theorem inPlace_notify_one (responders : List EndpointResponder) :
    InPlace lib 1 d (d.notifyEndpointResponderListChange { e with responders }) := by
  have h : InPlace lib (0 + 1) d _ := inPlace_notify hfind responders rfl rfl rfl
  simpa using h

theorem inPlace_respondersAdded {added : List EndpointResponder × Pool × Option DeviceErr}
    (h : ∀ err, added.2.2 = some err → ∀ r, r ∈ added.1 ↔ r ∈ e.responders) :
    ∃ n, InPlace lib n d (respondersAdded e d added).1 := by
  obtain ⟨responders, pool, _ | err⟩ := added
  · exact ⟨1, inPlace_notify_one hfind responders⟩
  · -- what was added was taken back
    refine ⟨0, inPlace_set hfind (.silent 0 fun uid _ => ?_)⟩
    simp only [h err rfl]

end

theorem inPlace_addStaticResponders (d : RdmnetDevice) (pool : Pool) (id : UInt16) (uids : List RdmUid) :
    ∃ n, InPlace lib n d (d.rdmnetDeviceAddStaticResponders pool id uids).1 := by
  refine forEndpoint (P := fun d' => ∃ n, InPlace lib n d d') ⟨0, inPlace_refl d⟩
    fun e hfind => inPlace_respondersAdded hfind fun err herr => ?_
  exact addResponders_failed staticResponder_key (Prod.ext rfl (Prod.ext rfl herr))

theorem inPlace_addPhysicalResponders (d : RdmnetDevice) (pool : Pool) (id : UInt16)
    (configs : List PhysicalEndpointResponder) :
    ∃ n, InPlace lib n d (d.rdmnetDeviceAddPhysicalResponders pool id configs).1 := by
  refine forEndpoint (P := fun d' => ∃ n, InPlace lib n d d') ⟨0, inPlace_refl d⟩
    fun e hfind => inPlace_respondersAdded hfind fun err herr => ?_
  exact addResponders_failed physicalResponder_key (Prod.ext rfl (Prod.ext rfl herr))

theorem inPlace_removeRespondersByUid (d : RdmnetDevice) (type : DeviceEndpointType) (id : UInt16)
    (uids : List RdmUid) : ∃ n, InPlace lib n d (d.removeRespondersByUid type id uids).1 := by
  refine forEndpoint (P := fun d' => ∃ n, InPlace lib n d d') ⟨0, inPlace_refl d⟩
    fun e hfind => ?_
  split_ifs
  · exact ⟨2, inPlace_notify hfind _ (by simp) (by simp) (by simp)⟩
  · exact ⟨1, inPlace_notify_one hfind _⟩
  · exact ⟨0, inPlace_refl d⟩

theorem inPlace_removeDynamicResponders (d : RdmnetDevice) (stale : RdmUid) (id : UInt16) (rids : List Uuid) :
    ∃ n, InPlace lib n d (d.rdmnetDeviceRemoveDynamicResponders stale id rids).1 := by
  refine forEndpoint (P := fun d' => ∃ n, InPlace lib n d d') ⟨0, inPlace_refl d⟩
    fun e hfind => ?_
  split_ifs
  · exact ⟨1, inPlace_notify_one hfind _⟩
  · exact ⟨0, inPlace_refl d⟩

/-- No responder that is listed has the UID which a search for a null responder ID looks for. -/
def Unlisted (lib : DeviceLib) (stale : RdmUid) (responders : List EndpointResponder) : Prop :=
  ∀ r ∈ responders, r.rid = kEtcPalNullUuid → r.uid = stale → lib.uidIsDynamicUidRequest r.uid = true

instance (lib : DeviceLib) (stale : RdmUid) (responders : List EndpointResponder) :
    Decidable (Unlisted lib stale responders) :=
  inferInstanceAs (Decidable (∀ r ∈ responders, _ → _ → _))

theorem inPlace_addDynamicResponders (hlib : lib.Lawful) (pool : Pool) (stale : RdmUid)
    (rids : List Uuid) (h : kEtcPalNullUuid ∈ rids → ∀ e ∈ findEndpoint id d.endpoints,
      Unlisted lib stale e.responders) :
    ∃ n, InPlace lib n d (d.rdmnetDeviceAddDynamicResponders lib pool stale id rids).1 := by
  refine forEndpoint (P := fun d' => ∃ n, InPlace lib n d d') ⟨0, inPlace_refl d⟩
    fun e hfind => ⟨0, ?_⟩
  have hrequest := hlib.request d.manufacturerId
  rcases hadd : rdmnetAddDynamicResponders lib d.manufacturerId stale rids pool e.responders with
    ⟨responders, pool', _ | err⟩
  · -- the new responders have no UIDs that could be listed
    have hset : InPlace lib 0 d { d with endpoints := setEndpoint { e with responders } d.endpoints } := by
      refine inPlace_set hfind (.silent 0 fun uid huid => ?_)
      obtain ⟨hold, hnew, -⟩ := addResponders_added (dynamicResponder_key lib d.manufacturerId) hadd
      constructor
      · rintro ⟨r, hr, rfl⟩
        exact ⟨r, hold r hr, rfl⟩
      · rintro ⟨r, hr, rfl⟩
        rcases hnew r hr with hr | ⟨rid, -, mem, rfl⟩
        · exact ⟨r, hr, rfl⟩
        · exact absurd (hrequest.symm.trans huid) (by decide)
    exact ⟨by simp, by simp, by simpa using hset.endpoints⟩
  · refine inPlace_set hfind (.silent 0 fun uid huid => ?_)
    constructor
    · rintro ⟨r, hr, rfl⟩
      refine ⟨r, rdmnetAddDynamicResponders_kept hadd hr fun hnull hrid hstale => ?_, rfl⟩
      exact absurd ((h hnull e hfind r hr hrid hstale).symm.trans huid) (by decide)
    · rintro ⟨r, hr, rfl⟩
      rcases rdmnetAddDynamicResponders_failed hadd hr with hr | ⟨-, hreq⟩
      · exact ⟨r, hr, rfl⟩
      · rw [hreq, hrequest] at huid
        cases huid

/-- Every dynamic UID that is listed is also the UID of a responder that keeps it. -/
def KeepsListed (lib : DeviceLib) (e : DeviceEndpoint) : Prop :=
  ∀ r ∈ e.responders, r.rid ≠ kEtcPalNullUuid → lib.uidIsDynamicUidRequest r.uid = false →
    ∃ r' ∈ e.responders, r'.rid = kEtcPalNullUuid ∧ r'.uid = r.uid

instance (lib : DeviceLib) (e : DeviceEndpoint) : Decidable (KeepsListed lib e) :=
  inferInstanceAs (Decidable (∀ r ∈ e.responders, _ → _ → ∃ r' ∈ e.responders, _))

theorem inPlace_clientDisconnected (hlib : lib.Lawful) (h : ∀ e ∈ d.endpoints, KeepsListed lib e) :
    InPlace lib 0 d (d.clientDisconnected lib) := by
  refine ⟨rfl, rfl, ?_⟩
  have hrequest := hlib.request d.manufacturerId
  refine List.forall₂_map_right_iff.mpr (List.forall₂_same.mpr fun e he => .silent 0 fun uid huid => ?_)
  constructor
  · rintro ⟨r, hr, rfl⟩
    by_cases hnull : r.rid = kEtcPalNullUuid
    · exact ⟨_, mem_map_of_mem hr, by rw [if_neg (not_not.mpr hnull)]⟩
    · obtain ⟨r', hr', hnull', huid'⟩ := h e he r hr hnull huid
      exact ⟨_, mem_map_of_mem hr', by rw [if_neg (not_not.mpr hnull'), huid']⟩
  · rintro ⟨r, hr, rfl⟩
    obtain ⟨r', hr', rfl⟩ := mem_map.mp hr
    by_cases hnull : r'.rid = kEtcPalNullUuid
    · exact ⟨r', hr', by rw [if_neg (not_not.mpr hnull)]⟩
    · rw [if_pos hnull] at huid
      exact absurd (hrequest.symm.trans huid) (by decide)

theorem allEvolve_assignEndpoints (stale : RdmUid) (mappings : List RdmnetDynamicUidMapping)
    (es : List DeviceEndpoint) (found : Nat) :
    AllEvolve lib (assignEndpoints stale mappings es found).2.1.length es
      (assignEndpoints stale mappings es found).1 := by
  induction es generalizing found with
  | nil => exact .nil
  | cons e es ih =>
    unfold assignEndpoints
    by_cases hphys : e.type = .physical
    · rw [if_pos hphys]
      exact .cons (.refl _ e) (ih found)
    · rw [if_neg hphys]
      rcases hassign : assignResponders stale mappings e.responders with ⟨responders, n⟩
      by_cases hn : n = 0
      · simp only [if_pos hn]
        split_ifs
        · exact .cons (.refl _ e) (allEvolve_refl _ es)
        · exact .cons (.refl _ e) (ih _)
      · simp only [if_neg hn]
        split_ifs
        · exact .cons (.counted (Nat.le_refl 1) e responders) (allEvolve_refl _ es)
        · exact .cons (.counted (Nat.le_add_left 1 _) e responders) ((ih _).mono (Nat.le_succ _))

theorem inPlace_handleAssignedDynamicUids (d : RdmnetDevice) (stale : RdmUid)
    (mappings : List RdmnetDynamicUidMapping) :
    ∃ n, InPlace lib n d (d.handleAssignedDynamicUids stale mappings).1 := by
  obtain ⟨hes, hchanges, hnumber, -⟩ := foldl_send
    (fun e : DeviceEndpoint => .endpointResponderListChange e.id e.responderListChangeNumber)
    (assignEndpoints stale mappings d.endpoints 0).2.1
    { d with
      endpoints := (assignEndpoints stale mappings d.endpoints 0).1
      changes := d.changes + (assignEndpoints stale mappings d.endpoints 0).2.1.length }
  exact ⟨_, hchanges, hnumber, hes ▸ allEvolve_assignEndpoints stale mappings d.endpoints 0⟩

/-- The calls that change nothing but responders and the connection, and count what they list. -/
def DeviceCall.inPlace : DeviceCall → Bool
  | .addPhysicalEndpoints .. | .addVirtualEndpoints .. | .removeEndpoints _
  | .addDynamicResponders .. | .disconnected => false
  | _ => true

theorem inPlace_apply {call : DeviceCall} (h : call.inPlace = true) :
    ∃ n, InPlace lib n d (d.apply lib call) := by
  cases call with
  | addStaticResponders => exact inPlace_addStaticResponders ..
  | addPhysicalResponders => exact inPlace_addPhysicalResponders ..
  | removeStaticResponders => exact inPlace_removeRespondersByUid d .virtual ..
  | removePhysicalResponders => exact inPlace_removeRespondersByUid d .physical ..
  | removeDynamicResponders => exact inPlace_removeDynamicResponders ..
  | connected => exact ⟨0, rfl, rfl, allEvolve_refl 0 _⟩
  | assignedDynamicUids => exact inPlace_handleAssignedDynamicUids ..
  | _ => cases h

end InPlace

/-! ### Runs -/

def Counted (lib : DeviceLib) : DeviceCall → RdmnetDevice → Prop
  | .removeEndpoints ids, d =>
    (∃ id ∈ ids, findEndpoint id d.endpoints = none) ∨ RemovesEach ids d.endpoints
  | .addDynamicResponders _ stale id rids, d =>
    kEtcPalNullUuid ∈ rids → ∀ e ∈ findEndpoint id d.endpoints, Unlisted lib stale e.responders
  | .disconnected, d => ∀ e ∈ d.endpoints, KeepsListed lib e
  | .assignedDynamicUids stale mappings, d =>
    -- a UID is not written to a responder that its tree finds by its UID
    (∃ m ∈ mappings, m.statusCode = kRdmnetDynamicUidStatusOk ∧ m.rid = kEtcPalNullUuid) →
      ∀ e ∈ d.endpoints, ∀ r ∈ e.responders, r.rid = kEtcPalNullUuid → r.uid ≠ stale
  | _, _ => True

def Removes (id : UInt16) : DeviceCall → RdmnetDevice → Prop
  | .removeEndpoints ids, d => id ∈ ids ∧ (removeEndpoints ids d.endpoints).2 = true
  | _, _ => False

instance (lib : DeviceLib) (call : DeviceCall) (d : RdmnetDevice) : Decidable (Counted lib call d) := by
  cases call with
  | removeEndpoints ids =>
    -- not over all IDs
    have : Decidable (∃ id ∈ ids, findEndpoint id d.endpoints = none) := List.decidableBEx _ ids
    exact inferInstanceAs (Decidable (_ ∨ _))
  | _ => delta Counted; dsimp only; infer_instance

instance (id : UInt16) (call : DeviceCall) (d : RdmnetDevice) : Decidable (Removes id call d) := by
  rcases call with _ | _ <;> (delta Removes; dsimp only; infer_instance)

def StaysEndpoint (lib : DeviceLib) (id : UInt16) (n : Nat) (es es' : List DeviceEndpoint) : Prop :=
  ∀ e, findEndpoint id es = some e → ∃ e', findEndpoint id es' = some e' ∧ Evolves lib n e e'

/-- In `n` increments, a device has become another. -/
structure Progress (lib : DeviceLib) (n : Nat) (d d' : RdmnetDevice) : Prop where
  changes : d'.changes = d.changes + n
  number : Advances n d.endpointListChangeNumber d'.endpointListChangeNumber (d'.listed = d.listed)

section Runs

variable {d d' d'' : RdmnetDevice} {call : DeviceCall} {id : UInt16} {n m : Nat}

theorem InPlace.progress (h : InPlace lib n d d') : Progress lib n d d' :=
  ⟨h.changes, h.number ▸ .stays n _ h.endpoints.listed⟩

theorem progress_notify (d : RdmnetDevice) (endpoints : List DeviceEndpoint) :
    Progress lib 1 d { d with endpoints }.notifyEndpointListChange := by
  unfold notifyEndpointListChange
  refine ⟨by simp, ?_⟩
  simp only [send_endpointListChangeNumber]
  exact .one (Nat.le_refl 1) _

theorem progress_addEndpoints (new : Option (List DeviceEndpoint × Pool)) (d : RdmnetDevice) :
    ∃ n, Progress lib n d (d.addEndpoints new).1 ∧
      StaysEndpoint lib id n d.endpoints (d.addEndpoints new).1.endpoints := by
  rcases new with _ | ⟨endpoints, pool⟩
  · exact ⟨0, (inPlace_refl d).progress, fun e he => ⟨e, he, .refl 0 e⟩⟩
  · refine ⟨1, progress_notify d _, fun e he => ⟨e, ?_, .refl 1 e⟩⟩
    -- the new endpoints come last
    unfold addEndpoints notifyEndpointListChange
    simp only [send_endpoints]
    unfold findEndpoint at he ⊢
    rw [find?_append, he, Option.some_or]

theorem progress_removeEndpoints {ids : List UInt16} (hcounted : Counted lib (.removeEndpoints ids) d) :
    ∃ n, Progress lib n d (d.rdmnetDeviceRemoveEndpoints ids).1 ∧ (¬ Removes id (.removeEndpoints ids) d →
        StaysEndpoint lib id n d.endpoints (d.rdmnetDeviceRemoveEndpoints ids).1.endpoints) := by
  have hsame : ∃ n, Progress lib n d d ∧ (¬ Removes id (.removeEndpoints ids) d →
      StaysEndpoint lib id n d.endpoints d.endpoints) :=
    ⟨0, (inPlace_refl d).progress, fun _ e he => ⟨e, he, .refl 0 e⟩⟩
  unfold rdmnetDeviceRemoveEndpoints
  split_ifs
  · exact hsame
  rcases hcounted with ⟨id', hid', hnone⟩ | heach
  · -- one is not there: nothing is removed
    rw [removeEndpoints_of_not_found hid' hnone]
    exact hsame
  · have heq := removeEndpoints_eq heach
    rw [heq]
    refine ⟨1, progress_notify d _, fun hstays e he => ⟨e, ?_, .refl 1 e⟩⟩
    have hid : id ∉ ids := fun hmem => hstays ⟨hmem, by rw [heq]⟩
    unfold notifyEndpointListChange
    simp only [send_endpoints]
    rw [findEndpoint_eraseEndpoints hid, he]

/-- **One call**: a number that stays goes with a list that stays. -/
theorem progress_apply (hlib : lib.Lawful) (hcounted : Counted lib call d) :
    ∃ n, Progress lib n d (d.apply lib call) ∧
      (¬ Removes id call d → StaysEndpoint lib id n d.endpoints (d.apply lib call).endpoints) := by
  have hplace : ∀ {d'}, (∃ n, InPlace lib n d d') → ∃ n, Progress lib n d d' ∧
      (¬ Removes id call d → StaysEndpoint lib id n d.endpoints d'.endpoints) := by
    rintro d' ⟨n, h⟩
    exact ⟨n, h.progress, fun _ e he => h.endpoints.find he⟩
  have hadd : ∀ new : Option (List DeviceEndpoint × Pool), ∃ n, Progress lib n d (d.addEndpoints new).1 ∧
      (¬ Removes id call d → StaysEndpoint lib id n d.endpoints (d.addEndpoints new).1.endpoints) := by
    intro new
    obtain ⟨n, hp, hs⟩ := progress_addEndpoints new d
    exact ⟨n, hp, fun _ => hs⟩
  cases call with
  | addPhysicalEndpoints capacity pool configs =>
    simp only [apply, rdmnetDeviceAddPhysicalEndpoints]
    split_ifs
    · exact hadd _
    · exact hplace ⟨0, inPlace_refl d⟩
  | addVirtualEndpoints capacity pool stale configs =>
    simp only [apply, rdmnetDeviceAddVirtualEndpoints]
    split_ifs
    · exact hadd _
    · exact hplace ⟨0, inPlace_refl d⟩
  | removeEndpoints ids => exact progress_removeEndpoints hcounted
  | addDynamicResponders pool stale id rids =>
    exact hplace (inPlace_addDynamicResponders hlib pool stale rids hcounted)
  | disconnected => exact hplace ⟨0, inPlace_clientDisconnected hlib hcounted⟩
  | _ => exact hplace (inPlace_apply rfl)

theorem Progress.trans (h : Progress lib n d d') (h' : Progress lib m d' d'') : Progress lib (n + m) d d'' :=
  ⟨by rw [h'.changes, h.changes, Nat.add_assoc], h.number.trans (fun h₁ h₂ => h₂.trans h₁) h'.number⟩

theorem StaysEndpoint.trans {es es' es'' : List DeviceEndpoint} (h : StaysEndpoint lib id n es es')
    (h' : StaysEndpoint lib id m es' es'') : StaysEndpoint lib id (n + m) es es'' := by
  intro e he
  obtain ⟨e', he', hev⟩ := h e he
  obtain ⟨e'', he'', hev'⟩ := h' e' he'
  exact ⟨e'', he'', hev.trans hev'⟩

/-- **Runs**: a number that stays goes with a list that stays. -/
theorem progress_of_runs (hlib : lib.Lawful) (hr : Runs (deviceStep lib) (Counted lib) d d') :
    ∃ n, Progress lib n d d' := by
  refine Runs.keeps (I := fun d' => ∃ n, Progress lib n d d') ?_ hr ⟨0, (inPlace_refl d).progress⟩
  rintro call t t' hcounted ⟨n, hn⟩ hstep
  cases hstep
  obtain ⟨m, hm, -⟩ : ∃ m, Progress lib m t (t.apply lib call) ∧ (¬ Removes 0 call t → _) :=
    progress_apply hlib hcounted
  exact ⟨n + m, hn.trans hm⟩

theorem stays_of_runs (hlib : lib.Lawful)
    (hr : Runs (deviceStep lib) (fun call d => Counted lib call d ∧ ¬ Removes id call d) d d') :
    ∃ n, Progress lib n d d' ∧ StaysEndpoint lib id n d.endpoints d'.endpoints := by
  refine Runs.keeps (I := fun d' => ∃ n, Progress lib n d d' ∧
    StaysEndpoint lib id n d.endpoints d'.endpoints) ?_ hr
      ⟨0, (inPlace_refl d).progress, fun e he => ⟨e, he, .refl 0 e⟩⟩
  rintro call t t' ⟨hcounted, hstays⟩ ⟨n, hn, hsn⟩ hstep
  cases hstep
  obtain ⟨m, hm, hsm⟩ := progress_apply hlib hcounted
  exact ⟨n + m, hn.trans hm, hsn.trans (hsm hstays)⟩

/-- **Change numbers make cached lists safe** in every run of calls that count their changes, as long as there
are fewer than 2^32 of them: two answers with one number list the same endpoints; and two answers about an
endpoint that was not removed between them list the same UIDs. -/
theorem cached_lists_safe (hlib : lib.Lawful) (d : RdmnetDevice) :
    (∀ d', Runs (deviceStep lib) (Counted lib) d d' → d'.changes < 4294967296 →
      ∀ number es es', d.AnswersEndpointList lib number es → d'.AnswersEndpointList lib number es' → es = es') ∧
    (∀ id d', Runs (deviceStep lib) (fun call d => Counted lib call d ∧ ¬ Removes id call d) d d' →
      d'.changes < 4294967296 → ∀ number uids uids', d.AnswersEndpointResponders lib id number uids →
        d'.AnswersEndpointResponders lib id number uids' → ∀ uid, uid ∈ uids ↔ uid ∈ uids') := by
  constructor
  · intro d' hr hlt number es es' h h'
    obtain ⟨n, hp⟩ := progress_of_runs hlib hr
    obtain ⟨hnum, rfl⟩ := h.eq
    obtain ⟨hnum', rfl⟩ := h'.eq
    have hadv := hp.number
    rw [← hnum, ← hnum'] at hadv
    exact (hadv.same_of_eq (by have := hp.changes; omega)).symm
  · intro id d' hr hlt number uids uids' h h'
    obtain ⟨n, hp, hstays⟩ := stays_of_runs hlib hr
    obtain ⟨e, he, hnum, rfl⟩ := h.eq
    obtain ⟨e', he', hnum', rfl⟩ := h'.eq
    obtain ⟨e'', he'', hev⟩ := hstays e he
    cases he'.symm.trans he''
    have hadv := hev.number
    rw [← hnum, ← hnum'] at hadv
    exact hadv.same_of_eq (by have := hp.changes; omega)

end Runs

/-! A device with two virtual endpoints, the first of which has a responder with a dynamic UID. -/

def sampleRid : Uuid := Vector.replicate 16 1

def sampleDevice : RdmnetDevice :=
  ⟨[⟨1, .virtual, 0, [⟨sampleRid, ⟨0x8000, 0⟩, default, 0⟩]⟩, ⟨2, .virtual, 0, []⟩], 0, false, 0, [], 0⟩

def sampleAssignment : List RdmnetDynamicUidMapping := [⟨⟨0x8001, 7⟩, sampleRid, 0⟩]

example : rdmnetDeviceCreate .reference true [default] default
    ⟨[], [⟨1, [sampleRid], []⟩, ⟨2, [], []⟩]⟩ = some sampleDevice := by decide +kernel

def getCommand (paramId : UInt16) : RdmCommandHeader :=
  { (default : RdmCommandHeader) with commandClass := kRdmCCGetCommand, paramId }

theorem answersEndpointList_of {d : RdmnetDevice} {number : UInt32} {es : List (UInt16 × DeviceEndpointType)}
    (h : d.answer lib .llrp (fun _ => true) .defer (getCommand e137EndpointList) [] =
      .sendAck (endpointListData number es)) : d.AnswersEndpointList lib number es :=
  ⟨_, _, _, _, _, rfl, h⟩

theorem answersEndpointResponders_of {d : RdmnetDevice} {number : UInt32} {uids : List RdmUid}
    (h : d.answer lib .rpt (fun _ => true) .defer (getCommand e137EndpointResponders) (packU16 id) =
      .sendAck (endpointRespondersData id number uids)) : d.AnswersEndpointResponders lib id number uids :=
  ⟨_, _, _, _, _, rfl, h⟩

def assignedDevice : RdmnetDevice :=
  (sampleDevice.apply .reference .connected).apply .reference
    (.assignedDynamicUids default sampleAssignment)

theorem runs_assignedDevice {ok : DeviceCall → RdmnetDevice → Prop} [∀ a d, Decidable (ok a d)]
    (h : play (deviceStep .reference) ok
      [.connected, .assignedDynamicUids default sampleAssignment] sampleDevice = some assignedDevice) :
    Runs (deviceStep .reference) ok sampleDevice assignedDevice :=
  .of_play _ h

/-- The other endpoint is removed: the answers about the first one are the same. -/
theorem cached_lists_safe_removed :
    Runs (deviceStep .reference) (Counted .reference) sampleDevice assignedDevice ∧
    assignedDevice.AnswersEndpointResponders .reference 1 1 [⟨0x8001, 7⟩] ∧
    ∃ (d' : RdmnetDevice) (uids : List RdmUid), d'.AnswersEndpointResponders .reference 1 1 uids ∧
      ∀ uid, uid ∈ [⟨0x8001, 7⟩] ↔ uid ∈ uids := by
  have h : assignedDevice.AnswersEndpointResponders .reference 1 1 [⟨0x8001, 7⟩] :=
    answersEndpointResponders_of (by decide +kernel)
  have h' : (assignedDevice.apply .reference (.removeEndpoints [2])).AnswersEndpointResponders .reference 1 1
      [⟨0x8001, 7⟩] := answersEndpointResponders_of (by decide +kernel)
  refine ⟨runs_assignedDevice (by decide +kernel), h, _, _, h', ?_⟩
  exact (cached_lists_safe DeviceLib.reference_lawful assignedDevice).2 1 _
    (.of_play [.removeEndpoints [2]] (by decide +kernel)) (by decide +kernel) 1 _ _ h h'

/-- The device is disconnected: the number stays, and the UID is no longer listed.  An endpoint is to be
removed twice: the number stays, and the other endpoint is listed in its place too. -/
theorem cached_lists_stale : (∃ d', Runs (deviceStep .reference) anyStep sampleDevice assignedDevice ∧
      Runs (deviceStep .reference) (fun call d => ¬ Removes 1 call d) assignedDevice d' ∧
      d'.changes < 4294967296 ∧ assignedDevice.AnswersEndpointResponders .reference 1 1 [⟨0x8001, 7⟩] ∧
      d'.AnswersEndpointResponders .reference 1 1 []) ∧
    (∃ d', Runs (deviceStep .reference) anyStep sampleDevice d' ∧ d'.changes < 4294967296 ∧
      sampleDevice.AnswersEndpointList .reference 0 [(1, .virtual), (2, .virtual)] ∧
      d'.AnswersEndpointList .reference 0 [(2, .virtual), (2, .virtual)]) := by
  refine ⟨⟨assignedDevice.apply .reference .disconnected, runs_assignedDevice (by decide +kernel),
    .of_play [.disconnected] (by decide +kernel), by decide +kernel,
    answersEndpointResponders_of (by decide +kernel), answersEndpointResponders_of (by decide +kernel)⟩,
    ⟨sampleDevice.apply .reference (.removeEndpoints [1, 1]),
    .of_play [.removeEndpoints [1, 1]] (by decide +kernel), by decide +kernel,
    answersEndpointList_of (by decide +kernel), answersEndpointList_of (by decide +kernel)⟩⟩

end RDMnet
