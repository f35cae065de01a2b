import RDMnet.Device.ChangeNumbers

/-!
# The IDs of endpoints

An endpoint is addressed by its ID, and `find_endpoint` finds the first one that has it.  Nothing checks that
a new endpoint has an ID of its own: neither the configuration nor the functions that add endpoints.  And
`remove_endpoints` counts on it that no ID is in its list twice: it removes other endpoints as well, or gives
up half-way with an endpoint in two places.

If new endpoints have new IDs and no ID is to be removed twice, every endpoint can be addressed.
-/

namespace RDMnet

open List

variable {ids : List UInt16} {es : List DeviceEndpoint}

/-! ### Removing -/

/-- `remove_endpoints` removes all endpoints with the IDs of a list, or fails and removes none. -/
def RemovesExactly (ids : List UInt16) (es : List DeviceEndpoint) : Prop :=
  removeEndpoints ids es = (es, false) ∨ removeEndpoints ids es = (es.filter (·.id ∉ ids), true)

instance (ids : List UInt16) (es : List DeviceEndpoint) : Decidable (RemovesExactly ids es) :=
  inferInstanceAs (Decidable (_ ∨ _))

theorem filter_eraseEndpoints {q : DeviceEndpoint → Bool} (hq : ∀ e, q e = true → e.id ∉ ids)
    (es : List DeviceEndpoint) : (eraseEndpoints ids es).filter q = es.filter q := by
  unfold eraseEndpoints
  induction ids generalizing es with
  | nil => rfl
  | cons id ids ih =>
    rw [foldl_cons, ih fun e he => not_mem_of_not_mem_cons (hq e he)]
    rcases exists_or_eq_self_of_eraseP (·.id = id) es with h | ⟨e, front, rest, -, he, hes, herase⟩
    · rw [h]
    · have hqe : q e = false := by
        by_contra h
        exact hq e (by simpa using h) (by simp_all)
      rw [herase, hes, filter_append, filter_append, filter_cons_of_neg (by simp [hqe])]

theorem map_id_eraseEndpoints (ids : List UInt16) (es : List DeviceEndpoint) :
    (eraseEndpoints ids es).map (·.id) = (es.map (·.id)).diff ids := by
  unfold eraseEndpoints
  induction ids generalizing es with
  | nil => rfl
  | cons id ids ih => rw [foldl_cons, ih, map_id_eraseP, diff_cons]

theorem findEndpoint_ne_none {id : UInt16} : findEndpoint id es ≠ none ↔ id ∈ es.map (·.id) := by
  simp [findEndpoint]

theorem removeEndpoints_of_count (h : ∀ id ∈ ids, ids.count id = (es.map (·.id)).count id) :
    removeEndpoints ids es = (es.filter (·.id ∉ ids), true) := by
  rw [removeEndpoints_eq fun id hid => (h id hid).le,
    ← filter_eraseEndpoints (fun e he => by simpa using he) es]
  have hall : ∀ e ∈ eraseEndpoints ids es, decide (e.id ∉ ids) = true := by
    intro e he
    have hpos : 0 < ((eraseEndpoints ids es).map (·.id)).count e.id :=
      count_pos_iff.mpr (mem_map_of_mem he)
    rw [map_id_eraseEndpoints, count_diff] at hpos
    exact decide_eq_true fun hmem => by
      have := h e.id hmem
      omega
  rw [filter_eq_self.mpr hall]

theorem length_removeLoop (ids : List UInt16) (slots : List DeviceEndpoint) :
    (removeLoop ids slots).1.length = slots.length := by
  fun_induction removeLoop ids slots with
  | case1 | case2 => rfl
  | case3 id ids slots i hidx hlast ih =>
    have hlt : i < slots.length := (findIdx?_eq_some_iff_getElem.mp hidx).1
    have hne : slots ≠ [] := ne_nil_of_length_pos (by omega)
    rw [ih, getLast?_eq_some_getLast hne, length_append, length_eraseIdx_of_lt hlt]
    simp only [Option.toList_some, length_singleton]
    omega
  | case4 id ids slots i hidx hlast ih => rw [ih, length_modify]

theorem removeLoop_gives_up {slots slots' : List DeviceEndpoint}
    (h : removeLoop ids slots = (slots', false)) : ∃ id ∈ ids, findEndpoint id slots' = none := by
  fun_induction removeLoop ids slots with
  | case1 => cases h
  | case2 id ids slots hidx =>
    cases h
    refine ⟨id, mem_cons_self, find?_eq_none.mpr fun e he => ?_⟩
    simpa using findIdx?_eq_none_iff.mp hidx e he
  | case3 id ids slots i hidx hlast ih | case4 id ids slots i hidx hlast ih =>
    obtain ⟨id', hid', hnone⟩ := ih h
    exact ⟨id', mem_cons_of_mem _ hid', hnone⟩

theorem RemovesExactly.nodup (h : RemovesExactly ids es) (hes : (es.map (·.id)).Nodup)
    (hall : ∀ id ∈ ids, findEndpoint id es ≠ none) : ids.Nodup := by
  have hfound : (ids.all fun id => (findEndpoint id es).isSome) = true :=
    all_eq_true.mpr fun id hid => Option.isSome_iff_ne_none.mpr (hall id hid)
  have hlength := length_removeLoop ids es
  unfold RemovesExactly at h
  rw [removeEndpoints, if_pos hfound] at h
  rcases hloop : removeLoop ids es with ⟨slots, _ | _⟩
  · -- giving up has changed the endpoints
    obtain ⟨id, hid, hnone⟩ := removeLoop_gives_up hloop
    rw [hloop] at h
    rcases h with h | h
    · cases h
      exact absurd hnone (hall id hid)
    · cases h
  · rw [hloop] at h hlength
    have heq : (if ids.length ≤ slots.length then slots.take (slots.length - ids.length) else slots) =
        es.filter (·.id ∉ ids) := by
      rcases h with h | h
      · cases h
      · exact congrArg Prod.fst h
    have hsub : (es.filter (·.id ∈ ids)).map (·.id) ⊆ ids := by
      intro id hid
      obtain ⟨e, he, rfl⟩ := mem_map.mp hid
      simpa using (mem_filter.mp he).2
    have hgone : ((es.filter (·.id ∈ ids)).map (·.id)).Nodup := hes.sublist (filter_sublist.map _)
    -- as many IDs as endpoints with them
    refine (List.Subperm.perm_of_length_le (hgone.subperm hsub) ?_).nodup_iff.mp hgone
    have hsplit := length_eq_length_filter_add (l := es) (·.id ∈ ids)
    have hlen := congrArg List.length heq
    simp only [decide_not] at hlen hlength
    rw [length_map]
    split_ifs at hlen with hle
    · rw [length_take] at hlen
      omega
    · obtain ⟨id, hid⟩ := exists_mem_of_ne_nil ids (ne_nil_of_length_pos (by omega))
      obtain ⟨e, he, rfl⟩ := mem_map.mp (findEndpoint_ne_none.mp (hall id hid))
      have hmem : e ∈ es.filter (·.id ∈ ids) := mem_filter.mpr ⟨he, by simpa using hid⟩
      have := length_pos_of_mem hmem
      omega

theorem removesExactly_of_nodup (hes : (es.map (·.id)).Nodup)
    (h : (∃ id ∈ ids, findEndpoint id es = none) ∨ ids.Nodup) : RemovesExactly ids es := by
  by_cases hex : ∃ id ∈ ids, findEndpoint id es = none
  · obtain ⟨id, hid, hnone⟩ := hex
    exact .inl (removeEndpoints_of_not_found hid hnone)
  · refine .inr (removeEndpoints_of_count fun id hid => ?_)
    have hmem : id ∈ es.map (·.id) := findEndpoint_ne_none.mp fun hnone => hex ⟨id, hid, hnone⟩
    rw [count_eq_one_of_mem (h.resolve_left hex) hid, count_eq_one_of_mem hes hmem]

/-- `remove_endpoints` removes exactly the endpoints it is told to, if one of them is not there or each ID is
in the list as often as there are endpoints with it; among endpoints with IDs of their own, only if one is not
there or no ID is in the list twice. -/
theorem removeEndpoints_exact (ids : List UInt16) (es : List DeviceEndpoint) :
    ((∃ id ∈ ids, findEndpoint id es = none) ∨
      (∀ id ∈ ids, ids.count id = (es.map (·.id)).count id) → RemovesExactly ids es) ∧ ((es.map (·.id)).Nodup →
      (RemovesExactly ids es ↔ (∃ id ∈ ids, findEndpoint id es = none) ∨ ids.Nodup)) := by
  refine ⟨?_, fun hes => ⟨fun h => ?_, removesExactly_of_nodup hes⟩⟩
  · rintro (⟨id, hid, hnone⟩ | hcount)
    · exact .inl (removeEndpoints_of_not_found hid hnone)
    · exact .inr (removeEndpoints_of_count hcount)
  · by_cases hex : ∃ id ∈ ids, findEndpoint id es = none
    · exact .inl hex
    · exact .inr (h.nodup hes fun id hid hnone => hex ⟨id, hid, hnone⟩)

/-- One of the two endpoints of a device is removed. -/
theorem removeEndpoints_exact_second : RemovesExactly [2] sampleDevice.endpoints :=
  ((removeEndpoints_exact [2] sampleDevice.endpoints).2 (by decide)).mpr (.inr (by decide))

/-- An ID is in the list twice.  If its endpoint comes first, the function fails, and the other endpoint is
there twice; if it comes last, the other one is removed too. -/
theorem removeEndpoints_inexact : (removeEndpoints [1, 1] sampleDevice.endpoints).2 = false ∧
    (removeEndpoints [1, 1] sampleDevice.endpoints).1.map (·.id) = [2, 2] ∧
    removeEndpoints [2, 2] sampleDevice.endpoints = ([], true) ∧
    ¬ RemovesExactly [1, 1] sampleDevice.endpoints ∧ ¬ RemovesExactly [2, 2] sampleDevice.endpoints := by
  decide +kernel

/-! ### Devices -/

section Devices

variable {lib : DeviceLib} {d : RdmnetDevice}

abbrev RdmnetDevice.endpointIds (d : RdmnetDevice) : List UInt16 := d.endpoints.map (·.id)

abbrev RdmnetDeviceConfig.endpointIds (config : RdmnetDeviceConfig) : List UInt16 :=
  config.physicalEndpoints.map (·.endpointId) ++ config.virtualEndpoints.map (·.endpointId)

/-- Endpoints that pass the check and get memory have new IDs, and no ID is to be removed twice. -/
def OwnIds (lib : DeviceLib) : DeviceCall → RdmnetDevice → Prop
  | .addPhysicalEndpoints capacity pool configs, d =>
    configs ≠ [] ∧ (configs.all fun c => endpointIdValid c.endpointId) →
      (addPhysicalEndpoints capacity configs pool).isSome → (d.endpointIds ++ configs.map (·.endpointId)).Nodup
  | .addVirtualEndpoints capacity pool stale configs, d =>
    configs ≠ [] ∧ (configs.all fun c => endpointIdValid c.endpointId) →
      (addVirtualEndpoints lib d.manufacturerId stale capacity configs pool).isSome →
      (d.endpointIds ++ configs.map (·.endpointId)).Nodup
  | .removeEndpoints ids, d => (∃ id ∈ ids, findEndpoint id d.endpoints = none) ∨ ids.Nodup
  | _, _ => True

theorem map_id_newEndpoints {κ : Type} {new : κ → Pool → Option (DeviceEndpoint × Pool)} {idOf : κ → UInt16}
    (hnew : ∀ c pool e pool', new c pool = some (e, pool') → e.id = idOf c) {configs : List κ}
    {pool pool' : Pool} {es : List DeviceEndpoint}
    (h : newEndpoints new configs pool = some (es, pool')) : es.map (·.id) = configs.map idOf := by
  induction configs generalizing pool es with
  | nil =>
    cases h
    rfl
  | cons c configs ih =>
    obtain ⟨⟨e, pool₁⟩, he, hrest⟩ := Option.bind_eq_some_iff.mp h
    obtain ⟨⟨es', pool₂⟩, hes, hlast⟩ := Option.bind_eq_some_iff.mp hrest
    cases hlast
    rw [map_cons, map_cons, hnew c pool e pool₁ he, ih hes]

theorem addPhysicalEndpoints_ids {capacity : Bool} {configs : List PhysicalEndpointConfig}
    {pool pool' : Pool} (h : addPhysicalEndpoints capacity configs pool = some (es, pool')) :
    es.map (·.id) = configs.map (·.endpointId) := by
  unfold addPhysicalEndpoints at h
  split_ifs at h
  refine map_id_newEndpoints (fun c pool e pool' hnew => ?_) h
  unfold newPhysicalEndpoint at hnew
  split at hnew <;> cases hnew
  rfl

theorem addVirtualEndpoints_ids {manu : UInt16} {stale : RdmUid} {capacity : Bool}
    {configs : List VirtualEndpointConfig} {pool pool' : Pool}
    (h : addVirtualEndpoints lib manu stale capacity configs pool = some (es, pool')) :
    es.map (·.id) = configs.map (·.endpointId) := by
  unfold addVirtualEndpoints at h
  split_ifs at h
  refine map_id_newEndpoints (fun c pool e pool' hnew => ?_) h
  unfold newVirtualEndpoint at hnew
  split at hnew
  · cases hnew
  · split at hnew <;> cases hnew
    rfl

theorem rdmnetDeviceCreate_ids {capacity : Bool} {pool : Pool} {stale : RdmUid}
    {config : RdmnetDeviceConfig} (h : rdmnetDeviceCreate lib capacity pool stale config = some d) :
    d.endpointIds = config.endpointIds := by
  unfold rdmnetDeviceCreate at h
  split_ifs at h
  obtain ⟨⟨physical, pool₁⟩, hphys, hrest⟩ := Option.bind_eq_some_iff.mp h
  obtain ⟨⟨virtual, pool₂⟩, hvirt, hlast⟩ := Option.bind_eq_some_iff.mp hrest
  cases hlast
  show (physical ++ virtual).map _ = _
  rw [map_append, addPhysicalEndpoints_ids hphys, addVirtualEndpoints_ids hvirt]

theorem nodup_addEndpoints (hd : d.endpointIds.Nodup) {new : Option (List DeviceEndpoint × Pool)}
    {ids : List UInt16} (h : ∀ es pool, new = some (es, pool) → es.map (·.id) = ids) :
    (d.addEndpoints new).1.endpointIds.Nodup ↔ (new.isSome → (d.endpointIds ++ ids).Nodup) := by
  rcases new with _ | ⟨es, pool⟩
  · exact ⟨fun _ h => absurd h Bool.false_ne_true, fun _ => hd⟩
  · have hids : (d.addEndpoints (some (es, pool))).1.endpointIds = d.endpointIds ++ ids := by
      rw [← h es pool rfl, ← map_append]
      exact congrArg _ (send_endpoints _ _)
    rw [hids]
    exact ⟨fun hn _ => hn, fun hn => hn rfl⟩

theorem map_id_setEndpoint (e : DeviceEndpoint) (es : List DeviceEndpoint) :
    (setEndpoint e es).map (·.id) = es.map (·.id) := by
  fun_induction setEndpoint e es with
  | case1 => rfl
  | case2 x es hid => rw [map_cons, map_cons, hid]
  | case3 x es hid ih => rw [map_cons, map_cons, ih]

theorem InPlace.endpointIds {n : Nat} {d' : RdmnetDevice} (h : InPlace lib n d d') :
    d'.endpointIds = d.endpointIds := by
  have hlisted := congrArg (List.map Prod.fst) h.endpoints.listed
  rwa [map_map, map_map] at hlisted

/-- **One call** that removes no endpoints. -/
theorem nodup_apply {call : DeviceCall} (hd : d.endpointIds.Nodup) (hcall : ∀ ids, call ≠ .removeEndpoints ids) :
    (d.apply lib call).endpointIds.Nodup ↔ OwnIds lib call d := by
  have hsame : ∀ {d' : RdmnetDevice}, d'.endpointIds = d.endpointIds → (d'.endpointIds.Nodup ↔ True) :=
    fun h => iff_true_intro (h ▸ hd)
  have hplace : ∀ {d'}, (∃ n, InPlace lib n d d') → (d'.endpointIds.Nodup ↔ True) := by
    rintro d' ⟨n, h⟩
    exact hsame h.endpointIds
  cases call with
  | addPhysicalEndpoints capacity pool configs =>
    simp only [RdmnetDevice.apply, OwnIds, RdmnetDevice.rdmnetDeviceAddPhysicalEndpoints]
    split_ifs with hvalid
    · exact (nodup_addEndpoints hd fun _ _ => addPhysicalEndpoints_ids).trans ⟨fun h _ => h, fun h => h hvalid⟩
    · exact ⟨fun _ h => absurd h hvalid, fun _ => hd⟩
  | addVirtualEndpoints capacity pool stale configs =>
    simp only [RdmnetDevice.apply, OwnIds, RdmnetDevice.rdmnetDeviceAddVirtualEndpoints]
    split_ifs with hvalid
    · exact (nodup_addEndpoints hd fun _ _ => addVirtualEndpoints_ids).trans ⟨fun h _ => h, fun h => h hvalid⟩
    · exact ⟨fun _ h => absurd h hvalid, fun _ => hd⟩
  | removeEndpoints ids => exact absurd rfl (hcall ids)
  | addDynamicResponders pool stale id rids =>
    refine hsame (RdmnetDevice.forEndpoint (P := fun d' => d'.endpointIds = d.endpointIds) rfl fun e _ => ?_)
    rcases rdmnetAddDynamicResponders lib d.manufacturerId stale rids pool e.responders with
      ⟨responders, pool', _ | err⟩
    · exact (congrArg _ (send_endpoints _ _)).trans (map_id_setEndpoint _ _)
    · exact map_id_setEndpoint _ _
  | disconnected => exact hsame (map_map ..)
  | _ => exact hplace (inPlace_apply rfl)

theorem nodup_removeEndpoints {ids : List UInt16} (hd : d.endpointIds.Nodup)
    (h : OwnIds lib (.removeEndpoints ids) d) : (d.rdmnetDeviceRemoveEndpoints ids).1.endpointIds.Nodup := by
  unfold RdmnetDevice.rdmnetDeviceRemoveEndpoints
  split_ifs
  · exact hd
  rcases removesExactly_of_nodup hd h with heq | heq
  · rw [heq]
    exact hd
  · rw [heq]
    dsimp only [RdmnetDevice.notifyEndpointListChange, RdmnetDevice.endpointIds]
    rw [send_endpoints]
    exact hd.sublist (filter_sublist.map _)

theorem nodup_of_runs {d' : RdmnetDevice} (hr : Runs (deviceStep lib) (OwnIds lib) d d')
    (hd : d.endpointIds.Nodup) : d'.endpointIds.Nodup := by
  refine hr.keeps (I := fun d => d.endpointIds.Nodup) (fun call t t' hown ht hstep => ?_) hd
  cases hstep
  by_cases hcall : ∃ ids, call = .removeEndpoints ids
  · obtain ⟨ids, rfl⟩ := hcall
    exact nodup_removeEndpoints ht hown
  · exact (nodup_apply ht fun ids heq => hcall ⟨ids, heq⟩).mpr hown

theorem findEndpoint_of_nodup (hes : (es.map (·.id)).Nodup) {e : DeviceEndpoint} (he : e ∈ es) :
    findEndpoint e.id es = some e := by
  obtain ⟨x, hx⟩ := Option.ne_none_iff_exists'.mp (findEndpoint_ne_none.mpr (mem_map_of_mem he))
  have hid : x.id = e.id := by simpa using find?_some hx
  rw [hx, inj_on_of_nodup_map hes (mem_of_find?_eq_some hx) he hid]

/-- **Endpoints have IDs of their own** if the configured ones have, in every run in which endpoints are added
with new IDs and no ID is to be removed twice.  A call that adds endpoints keeps the IDs apart only then. -/
theorem endpoint_ids_distinct {capacity : Bool} {pool : Pool} {stale : RdmUid} {config : RdmnetDeviceConfig}
    (hcreate : rdmnetDeviceCreate lib capacity pool stale config = some d) :
    (d.endpointIds.Nodup ↔ config.endpointIds.Nodup) ∧
    ∀ d', config.endpointIds.Nodup → Runs (deviceStep lib) (OwnIds lib) d d' →
      (∀ e ∈ d'.endpoints, findEndpoint e.id d'.endpoints = some e) ∧ d'.endpointIds.Nodup ∧
      ∀ call, (∀ ids, call ≠ .removeEndpoints ids) →
        ((d'.apply lib call).endpointIds.Nodup ↔ OwnIds lib call d') := by
  have hids := rdmnetDeviceCreate_ids hcreate
  refine ⟨by rw [hids], fun d' hconfig hr => ?_⟩
  have hd' := nodup_of_runs hr (hids ▸ hconfig)
  exact ⟨fun e he => findEndpoint_of_nodup hd' he, hd', fun call hcall => nodup_apply hd' hcall⟩

end Devices

/-- An endpoint is added to a device, and another one removed. -/
theorem endpoint_ids_distinct_sample :
    (((sampleDevice.apply .reference (.addPhysicalEndpoints true [] [⟨3, []⟩])).apply .reference
      (.removeEndpoints [2])).endpointIds.Nodup) := by
  have hcreate : rdmnetDeviceCreate .reference true [default] default
      ⟨[], [⟨1, [sampleRid], []⟩, ⟨2, [], []⟩]⟩ = some sampleDevice := by decide +kernel
  have hr : Runs (deviceStep .reference) (OwnIds .reference) sampleDevice _ :=
    .single ⟨.addPhysicalEndpoints true [] [⟨3, []⟩], fun _ _ => by decide +kernel, rfl⟩
  exact ((endpoint_ids_distinct hcreate).2 _ (by decide)
    (hr.tail ⟨.removeEndpoints [2], .inr (by decide), rfl⟩)).2.1

/-- Both configured endpoints have one ID; a second endpoint is added with the ID of the first; an ID is to be
removed twice. -/
theorem endpoint_ids_repeated :
    (∃ d, rdmnetDeviceCreate .reference true [] default ⟨[⟨1, []⟩], [⟨1, [], []⟩]⟩ = some d ∧
      d.endpointIds = [1, 1]) ∧ (∃ d, rdmnetDeviceCreate .reference true [default] default
        ⟨[], [⟨1, [sampleRid], []⟩, ⟨2, [], []⟩]⟩ = some d ∧
      (d.rdmnetDeviceAddPhysicalEndpoints true [] [⟨2, []⟩]).2 = none ∧
      (d.rdmnetDeviceAddPhysicalEndpoints true [] [⟨2, []⟩]).1.endpointIds = [1, 2, 2] ∧
      (d.rdmnetDeviceRemoveEndpoints [1, 1]).1.endpointIds = [2, 2]) := by
  exact ⟨⟨_, rfl, by decide +kernel⟩, sampleDevice, by decide +kernel⟩

end RDMnet
