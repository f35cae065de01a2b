import RDMnet.Device.Core

/-!
# Dynamic UIDs

A responder with a dynamic UID has to be given one by the broker that the device is connected to; until then
its UID is a request.  The device asks for UIDs when dynamic responders are added while it is connected, and
at no other time.  So it does not ask for those of the responders that are there when it is connected: given
in the configuration, added before, or left over from an earlier connection, at whose end all UIDs were taken
away.  Nor does it ask for those of the responders that come with a virtual endpoint.

In every run without these cases, each responder that waits for a UID was asked for on this connection.
-/

namespace RDMnet

open List RdmnetDevice

variable {lib : DeviceLib}

/-! ### Waiting -/

def Waits (lib : DeviceLib) (rid : Uuid) (endpoints : List DeviceEndpoint) : Prop :=
  rid ≠ kEtcPalNullUuid ∧ ∃ e ∈ endpoints, ∃ r ∈ e.responders, r.rid = rid ∧
    lib.uidIsDynamicUidRequest r.uid = true

namespace RdmnetDevice

def Requested (d : RdmnetDevice) (rid : Uuid) : Prop :=
  ∃ rids, .requestDynamicUids rids ∈ d.sent ∧ rid ∈ rids

def AllRequested (lib : DeviceLib) (d : RdmnetDevice) : Prop :=
  d.connectedToBroker = true → ∀ rid, Waits lib rid d.endpoints → d.Requested rid

variable {d d' : RdmnetDevice}

theorem Requested.mono {rid : Uuid} (h : d.Requested rid) (hsent : d.sent ⊆ d'.sent) : d'.Requested rid := by
  obtain ⟨rids, hmem, hrid⟩ := h
  exact ⟨rids, hsent hmem, hrid⟩

theorem AllRequested.step (h : d.AllRequested lib)
    (hconn : d'.connectedToBroker = d.connectedToBroker) (hsent : d.sent ⊆ d'.sent)
    (hwaits : ∀ rid, d.connectedToBroker = true → Waits lib rid d'.endpoints →
      Waits lib rid d.endpoints ∨ d'.Requested rid) : d'.AllRequested lib := by
  intro hc rid hw
  rw [hconn] at hc
  rcases hwaits rid hc hw with hw | hr
  · exact (h hc rid hw).mono hsent
  · exact hr

theorem AllRequested.step_send (msg : DeviceMessage) (h : d.AllRequested lib)
    (hconn : d'.connectedToBroker = d.connectedToBroker) (hsent : d'.sent = d.sent)
    (hwaits : ∀ rid, d.connectedToBroker = true → Waits lib rid d'.endpoints →
      Waits lib rid d.endpoints ∨ (d'.send msg).Requested rid) : (d'.send msg).AllRequested lib :=
  h.step (by simpa using hconn) (hsent ▸ sent_subset_send msg d') (by simpa using hwaits)

end RdmnetDevice

/-- Each endpoint comes from one that had its responders already, apart from those without an ID. -/
def NoNewDynamic (endpoints endpoints' : List DeviceEndpoint) : Prop :=
  ∀ e' ∈ endpoints', (∀ r ∈ e'.responders, r.rid = kEtcPalNullUuid) ∨
    ∃ e ∈ endpoints, ∀ r ∈ e'.responders, r.rid ≠ kEtcPalNullUuid → r ∈ e.responders

theorem NoNewDynamic.waits {endpoints endpoints' : List DeviceEndpoint} {rid : Uuid}
    (h : NoNewDynamic endpoints endpoints') (hw : Waits lib rid endpoints') : Waits lib rid endpoints := by
  obtain ⟨hnull, e', he', r, hr, rfl, hreq⟩ := hw
  rcases h e' he' with hall | ⟨e, he, hold⟩
  · exact absurd (hall r hr) hnull
  · exact ⟨hnull, e, he, r, hold r hr hnull, rfl, hreq⟩

theorem mem_setEndpoint {e e' : DeviceEndpoint} {es : List DeviceEndpoint} (h : e ∈ setEndpoint e' es) :
    e = e' ∨ e ∈ es := by
  induction es with
  | nil => cases h
  | cons x es ih =>
    unfold setEndpoint at h
    split_ifs at h
    · rcases mem_cons.mp h with rfl | h
      · exact .inl rfl
      · exact .inr (mem_cons_of_mem _ h)
    · rcases mem_cons.mp h with rfl | h
      · exact .inr mem_cons_self
      · exact (ih h).imp_right (mem_cons_of_mem _)

theorem noNewDynamic_setEndpoint {e e' : DeviceEndpoint} {es : List DeviceEndpoint} (he : e ∈ es)
    (h : ∀ r ∈ e'.responders, r.rid ≠ kEtcPalNullUuid → r ∈ e.responders) :
    NoNewDynamic es (setEndpoint e' es) := by
  intro x hx
  rcases mem_setEndpoint hx with rfl | hx
  · exact .inr ⟨e, he, h⟩
  · exact .inr ⟨x, hx, fun r hr _ => hr⟩

/-! ### Calls -/

section Calls

variable {d : RdmnetDevice} {id : UInt16} {e : DeviceEndpoint} {responders : List EndpointResponder}

section

variable (hd : d.AllRequested lib)
include hd

theorem allRequested_set (he : findEndpoint id d.endpoints = some e)
    (h : ∀ r ∈ responders, r.rid ≠ kEtcPalNullUuid → r ∈ e.responders) :
    AllRequested lib { d with endpoints := setEndpoint { e with responders } d.endpoints } :=
  hd.step rfl (List.Subset.refl _) fun _ _ hw => 
    .inl ((noNewDynamic_setEndpoint (mem_of_find?_eq_some he) h).waits hw)

theorem allRequested_notify (he : findEndpoint id d.endpoints = some e)
    {e' : DeviceEndpoint} (h : ∀ r ∈ e'.responders, r.rid ≠ kEtcPalNullUuid → r ∈ e.responders) :
    (d.notifyEndpointResponderListChange e').AllRequested lib := by
  unfold notifyEndpointResponderListChange
  refine hd.step_send _ rfl rfl fun rid _ hw => .inl (NoNewDynamic.waits ?_ hw)
  exact noNewDynamic_setEndpoint (mem_of_find?_eq_some he) h

theorem allRequested_respondersAdded {added : List EndpointResponder × Pool × Option DeviceErr}
    (he : findEndpoint id d.endpoints = some e)
    (h : ∀ r ∈ added.1, r.rid ≠ kEtcPalNullUuid → r ∈ e.responders) :
    (respondersAdded e d added).1.AllRequested lib := by
  obtain ⟨responders, pool, _ | err⟩ := added
  · exact allRequested_notify hd he h
  · exact allRequested_set hd he h

end

variable {pool : Pool}

theorem addResponders_rid {ι : Type} {fill : ι → EndpointResponder → EndpointResponder}
    {key : ι → ResponderKey} (hkey : ∀ x mem, (fill x mem).key = key x)
    (hnull : ∀ x mem, (fill x mem).rid = kEtcPalNullUuid) {xs : List ι}
    {r : EndpointResponder} (hr : r ∈ (addResponders fill key xs pool responders).1)
    (hrid : r.rid ≠ kEtcPalNullUuid) : r ∈ responders := by
  rcases hadd : addResponders fill key xs pool responders with ⟨responders', pool', _ | err⟩
  · rw [hadd] at hr
    rcases (addResponders_added hkey hadd).2.1 r hr with hr | ⟨x, -, mem, rfl⟩
    · exact hr
    · exact absurd (hnull x mem) hrid
  · rw [hadd] at hr
    exact (addResponders_failed hkey hadd r).mp hr

section

variable (hd : d.AllRequested lib)
include hd

theorem allRequested_addStaticResponders (pool : Pool) (uids : List RdmUid) :
    (d.rdmnetDeviceAddStaticResponders pool id uids).1.AllRequested lib :=
  forEndpoint hd fun _ he => allRequested_respondersAdded hd he fun _ hr hrid =>
    addResponders_rid staticResponder_key (fun _ _ => rfl) hr hrid

theorem allRequested_addPhysicalResponders (pool : Pool) (configs : List PhysicalEndpointResponder) :
    (d.rdmnetDeviceAddPhysicalResponders pool id configs).1.AllRequested lib :=
  forEndpoint hd fun _ he => allRequested_respondersAdded hd he fun _ hr hrid =>
    addResponders_rid physicalResponder_key (fun _ _ => rfl) hr hrid

theorem allRequested_removeRespondersByUid (type : DeviceEndpointType)
    (uids : List RdmUid) : (d.removeRespondersByUid type id uids).1.AllRequested lib := by
  refine forEndpoint hd fun e he => ?_
  dsimp only
  split_ifs
  · have hsend : ({ d with changes := d.changes + 1 }.send (.endpointResponderListChange id
        (e.responderListChangeNumber + 1))).AllRequested lib :=
      hd.step_send _ rfl rfl fun _ _ hw => .inl hw
    exact allRequested_notify hsend (by simpa using he) fun r hr _ => (mem_removeResponders.mp hr).1
  · exact allRequested_notify hd he fun r hr _ => (mem_removeResponders.mp hr).1
  · exact hd

theorem allRequested_removeDynamicResponders (stale : RdmUid)
    (rids : List Uuid) : (d.rdmnetDeviceRemoveDynamicResponders stale id rids).1.AllRequested lib := by
  refine forEndpoint hd fun e he => ?_
  split_ifs
  · exact allRequested_notify hd he fun r hr _ => (mem_removeResponders.mp hr).1
  · exact hd

theorem allRequested_addDynamicResponders (pool : Pool) (stale : RdmUid)
    (rids : List Uuid) : (d.rdmnetDeviceAddDynamicResponders lib pool stale id rids).1.AllRequested lib := by
  refine forEndpoint hd fun e he => ?_
  have hmem := mem_of_find?_eq_some he
  rcases hadd : rdmnetAddDynamicResponders lib d.manufacturerId stale rids pool e.responders with
    ⟨responders, pool', _ | err⟩
  · refine hd.step_send _ rfl rfl fun rid hc hw => ?_
    obtain ⟨hnull, x, hx, r, hr, rfl, hreq⟩ := hw
    rcases mem_setEndpoint hx with rfl | hx
    · rcases (addResponders_added (dynamicResponder_key lib d.manufacturerId) hadd).2.1 r hr with
        hr | ⟨rid, hrid, mem, rfl⟩
      · exact .inl ⟨hnull, e, hmem, r, hr, rfl, hreq⟩
      · refine .inr ⟨rids, ?_, hrid⟩
        simp [send, hc]
    · exact .inl ⟨hnull, x, hx, r, hr, rfl, hreq⟩
  · refine allRequested_set hd he fun r hr hnull => ?_
    rcases rdmnetAddDynamicResponders_failed hadd hr with hr | ⟨hrid, -⟩
    · exact hr
    · exact absurd hrid hnull

end

theorem noNewDynamic_removeLoop (ids : List UInt16) (slots : List DeviceEndpoint) :
    ∀ e' ∈ (removeLoop ids slots).1, ∃ e ∈ slots, ∀ r ∈ e'.responders, r ∈ e.responders := by
  induction ids generalizing slots with
  | nil => exact fun e' he' => ⟨e', he', fun _ hr => hr⟩
  | cons id ids ih =>
    intro e' he'
    unfold removeLoop at he'
    split at he'
    · exact ⟨e', he', fun _ hr => hr⟩
    · split_ifs at he'
      · obtain ⟨e, he, hsub⟩ := ih _ e' he'
        refine ⟨e, ?_, hsub⟩
        rcases mem_append.mp he with he | he
        · exact mem_of_mem_eraseIdx he
        · exact mem_of_getLast? (Option.mem_toList.mp he)
      · obtain ⟨e, he, hsub⟩ := ih _ e' he'
        obtain ⟨i, hi, rfl⟩ := mem_iff_getElem.mp he
        rw [getElem_modify] at hsub
        split_ifs at hsub
        · exact ⟨_, getElem_mem (by simpa using hi), fun r hr => by cases hsub r hr⟩
        · exact ⟨_, getElem_mem (by simpa using hi), hsub⟩

theorem noNewDynamic_removeEndpoints (ids : List UInt16) (es : List DeviceEndpoint) :
    NoNewDynamic es (removeEndpoints ids es).1 := by
  have hloop : ∀ e' ∈ (removeLoop ids es).1, ∃ e ∈ es, ∀ r ∈ e'.responders, r ∈ e.responders :=
    noNewDynamic_removeLoop ids es
  intro e' he'
  refine .inr ?_
  have hmem : e' ∈ (removeLoop ids es).1 ∨ e' ∈ es := by
    unfold removeEndpoints at he'
    split_ifs at he'
    · rcases hl : removeLoop ids es with ⟨slots, _ | _⟩
      · rw [hl] at he'
        exact .inl he'
      · rw [hl] at he'
        dsimp only at he'
        split_ifs at he'
        · exact .inl (mem_of_mem_take he')
        · exact .inl he'
    · exact .inr he'
  rcases hmem with h | h
  · obtain ⟨e, he, hsub⟩ := hloop e' h
    exact ⟨e, he, fun r hr _ => hsub r hr⟩
  · exact ⟨e', h, fun r hr _ => hr⟩

theorem allRequested_removeEndpoints (hd : d.AllRequested lib) (ids : List UInt16) :
    (d.rdmnetDeviceRemoveEndpoints ids).1.AllRequested lib := by
  unfold rdmnetDeviceRemoveEndpoints
  split_ifs
  · exact hd
  have hno := noNewDynamic_removeEndpoints ids d.endpoints
  generalize removeEndpoints ids d.endpoints = res at hno ⊢
  obtain ⟨endpoints, _ | _⟩ := res
  · exact hd.step rfl (List.Subset.refl _) fun _ _ hw => .inl (hno.waits hw)
  · exact hd.step_send _ rfl rfl fun _ _ hw => .inl (hno.waits hw)

def AssignedFrom (mappings : List RdmnetDynamicUidMapping) (r r' : EndpointResponder) : Prop :=
  r'.rid = r.rid ∧ (r'.uid = r.uid ∨ ∃ m ∈ mappings, m.statusCode = kRdmnetDynamicUidStatusOk ∧
    m.rid = r.rid ∧ m.uid = r'.uid)

theorem assignResponders_from (stale : RdmUid) (mappings : List RdmnetDynamicUidMapping)
    (responders : List EndpointResponder) :
    ∀ r' ∈ (assignResponders stale mappings responders).1, ∃ r ∈ responders, AssignedFrom mappings r r' := by
  fun_induction assignResponders stale mappings responders with
  | case1 responders => exact fun r' hr' => ⟨r', hr', rfl, .inl rfl⟩
  | case2 mapping mappings responders hfound rest ih =>
    intro r' hr'
    obtain ⟨r₁, hr₁, hrid, huid⟩ := ih r' hr'
    obtain ⟨r, hr, rfl⟩ := mem_map.mp hr₁
    by_cases hsame : responderCompare ⟨mapping.rid, stale⟩ r.key = .eq
    · rw [if_pos hsame] at hrid huid
      have hmrid : mapping.rid = r.rid := (responderCompare_eq_iff.mp hsame).1
      refine ⟨r, hr, hrid, .inr ?_⟩
      rcases huid with huid | ⟨m, hm, hok, hmr, hmu⟩
      · exact ⟨mapping, mem_cons_self, hfound.1, hmrid, huid.symm⟩
      · exact ⟨m, mem_cons_of_mem _ hm, hok, hmr, hmu⟩
    · rw [if_neg hsame] at hrid huid
      refine ⟨r, hr, hrid, huid.imp_right ?_⟩
      rintro ⟨m, hm, hok⟩
      exact ⟨m, mem_cons_of_mem _ hm, hok⟩
  | case3 mapping mappings responders hfound ih =>
    intro r' hr'
    obtain ⟨r, hr, hrid, huid⟩ := ih r' hr'
    refine ⟨r, hr, hrid, huid.imp_right ?_⟩
    rintro ⟨m, hm, hok⟩
    exact ⟨m, mem_cons_of_mem _ hm, hok⟩

theorem assignEndpoints_from (stale : RdmUid) (mappings : List RdmnetDynamicUidMapping)
    (es : List DeviceEndpoint) (found : Nat) : ∀ e' ∈ (assignEndpoints stale mappings es found).1,
      ∃ e ∈ es, ∀ r' ∈ e'.responders, ∃ r ∈ e.responders, AssignedFrom mappings r r' := by
  have hself : ∀ (e : DeviceEndpoint) (es : List DeviceEndpoint), e ∈ es →
      ∃ e₀ ∈ es, ∀ r' ∈ e.responders, ∃ r ∈ e₀.responders, AssignedFrom mappings r r' :=
    fun e _ he => ⟨e, he, fun r' hr' => ⟨r', hr', rfl, .inl rfl⟩⟩
  induction es generalizing found with
  | nil => exact fun e' he' => by cases he'
  | cons e es ih =>
    have htail : ∀ n, ∀ e' ∈ (assignEndpoints stale mappings es n).1, ∃ e₀ ∈ e :: es,
        ∀ r' ∈ e'.responders, ∃ r ∈ e₀.responders, AssignedFrom mappings r r' := by
      intro n e' he'
      obtain ⟨e₀, he₀, h⟩ := ih n e' he'
      exact ⟨e₀, mem_cons_of_mem _ he₀, h⟩
    have hassign := assignResponders_from stale mappings e.responders
    intro e' he'
    unfold assignEndpoints at he'
    split_ifs at he'
    · rcases mem_cons.mp he' with rfl | he'
      · exact hself e' _ mem_cons_self
      · exact htail found e' he'
    · generalize assignResponders stale mappings e.responders = res at hassign he'
      obtain ⟨responders, n⟩ := res
      -- the endpoint itself, whether or not responders were found
      have hhead : ∀ e₁ ∈ [e, { e with
          responders, responderListChangeNumber := e.responderListChangeNumber + 1 }],
          ∃ e₀ ∈ e :: es, ∀ r' ∈ e₁.responders, ∃ r ∈ e₀.responders, AssignedFrom mappings r r' := by
        intro e₁ he₁
        rcases mem_pair.mp he₁ with rfl | rfl
        · exact hself e₁ _ mem_cons_self
        · exact ⟨e, mem_cons_self, hassign⟩
      dsimp only at he'
      split_ifs at he'
      all_goals rcases mem_cons.mp he' with h | h
      · exact hhead e' (by simp [h])
      · exact hself e' _ (mem_cons_of_mem _ h)
      · exact hhead e' (by simp [h])
      · exact hself e' _ (mem_cons_of_mem _ h)
      · exact hhead e' (by simp [h])
      · exact htail _ e' h
      · exact hhead e' (by simp [h])
      · exact htail _ e' h

theorem allRequested_assignedDynamicUids (hd : d.AllRequested lib) (stale : RdmUid)
    {mappings : List RdmnetDynamicUidMapping}
    (h : d.connectedToBroker = true → ∀ m ∈ mappings, m.statusCode = kRdmnetDynamicUidStatusOk →
      lib.uidIsDynamicUidRequest m.uid = true → ∀ e ∈ d.endpoints, ∀ r ∈ e.responders, r.rid = m.rid →
      r.rid ≠ kEtcPalNullUuid → d.Requested r.rid) :
    (d.handleAssignedDynamicUids stale mappings).1.AllRequested lib := by
  unfold handleAssignedDynamicUids
  obtain ⟨hes, -, -, hconn, hsent⟩ := foldl_send
    (fun e : DeviceEndpoint => .endpointResponderListChange e.id e.responderListChangeNumber)
    (assignEndpoints stale mappings d.endpoints 0).2.1
    { d with
      endpoints := (assignEndpoints stale mappings d.endpoints 0).1
      changes := d.changes + (assignEndpoints stale mappings d.endpoints 0).2.1.length }
  have hsub := hsent ▸ subset_append_left d.sent _
  refine hd.step hconn hsub fun rid hc hw => ?_
  rw [hes] at hw
  obtain ⟨hnull, e', he', r', hr', rfl, hreq⟩ := hw
  obtain ⟨e, he, hfrom⟩ := assignEndpoints_from stale mappings d.endpoints 0 e' he'
  obtain ⟨r, hr, hrid, huid | ⟨m, hm, hok, hmrid, hmuid⟩⟩ := hfrom r' hr'
  · -- it was waiting before
    exact .inl ⟨hnull, e, he, r, hr, hrid.symm, huid ▸ hreq⟩
  · -- it was assigned a request
    have hask := h hc m hm hok (hmuid ▸ hreq) e he r hr hmrid.symm (hrid ▸ hnull)
    exact .inr ((hrid ▸ hask : d.Requested r'.rid).mono hsub)

/-! ### New endpoints -/

variable {pool' : Pool}

theorem newEndpoints_from {κ : Type} {new : κ → Pool → Option (DeviceEndpoint × Pool)}
    {configs : List κ} {es : List DeviceEndpoint} (h : newEndpoints new configs pool = some (es, pool')) :
    ∀ e ∈ es, ∃ config ∈ configs, ∃ pool pool', new config pool = some (e, pool') := by
  induction configs generalizing pool es with
  | nil =>
    cases h
    exact fun e he => by cases he
  | cons config configs ih =>
    obtain ⟨⟨e, pool₁⟩, he, hrest⟩ := Option.bind_eq_some_iff.mp h
    obtain ⟨⟨es', pool₂⟩, hes', hlast⟩ := Option.bind_eq_some_iff.mp hrest
    cases hlast
    intro x hx
    rcases mem_cons.mp hx with rfl | hx
    · exact ⟨config, mem_cons_self, pool, pool₁, he⟩
    · obtain ⟨c, hc, hnew⟩ := ih hes' x hx
      exact ⟨c, mem_cons_of_mem _ hc, hnew⟩

theorem newPhysicalEndpoint_rid {config : PhysicalEndpointConfig}
    (h : newPhysicalEndpoint config pool = some (e, pool')) : ∀ r ∈ e.responders, r.rid = kEtcPalNullUuid := by
  unfold newPhysicalEndpoint at h
  split at h
  · rename_i hadd
    cases h
    intro r hr
    by_contra hnull
    have hnil := addResponders_rid physicalResponder_key (fun _ _ => rfl)
      (show r ∈ (rdmnetAddPhysicalResponders config.responders pool []).1 by rw [hadd]; exact hr) hnull
    cases hnil
  · cases h

theorem newVirtualEndpoint_from {manufacturerId : UInt16} {stale : RdmUid} {config : VirtualEndpointConfig}
    (h : newVirtualEndpoint lib manufacturerId stale config pool = some (e, pool')) :
    (∀ r ∈ e.responders, r.rid = kEtcPalNullUuid ∨ r.rid ∈ config.dynamicResponders) ∧
      config.dynamicResponders.Nodup ∧ config.staticResponders.Nodup ∧
      pool.length = config.dynamicResponders.length + config.staticResponders.length + pool'.length := by
  unfold newVirtualEndpoint at h
  split at h
  · cases h
  · rename_i dynamics pool₁ hdynamic
    split at h
    · rename_i responders pool₂ hstatic
      cases h
      obtain ⟨-, hd₁, hd₂, hd₃⟩ := addResponders_added (dynamicResponder_key lib manufacturerId) hdynamic
      obtain ⟨-, hs₁, hs₂, hs₃⟩ := addResponders_added staticResponder_key hstatic
      refine ⟨fun r hr => ?_, ?_, ?_, by omega⟩
      · rcases hs₁ r hr with hr | ⟨uid, -, mem, rfl⟩
        · rcases hd₁ r hr with hr | ⟨rid, hrid, mem, rfl⟩
          · cases hr
          · exact .inr hrid
        · exact .inl rfl
      · exact hd₃.imp fun hne heq => hne ⟨heq.symm, fun _ => rfl⟩
      · exact hs₃.imp fun hne heq => hne ⟨rfl, fun _ => heq.symm⟩
    · cases h

/-- Virtual endpoints that cannot be added: there is no memory, or an ID of an endpoint is not valid, or a
responder is given twice. -/
def Refused (capacity : Bool) (pool : Pool) (configs : List VirtualEndpointConfig) : Prop :=
  capacity = false ∨
    pool.length < (configs.map fun c => c.dynamicResponders.length + c.staticResponders.length).sum ∨
    ∃ c ∈ configs, endpointIdValid c.endpointId = false ∨ ¬ c.dynamicResponders.Nodup ∨
      ¬ c.staticResponders.Nodup

instance (capacity : Bool) (pool : Pool) (configs : List VirtualEndpointConfig) :
    Decidable (Refused capacity pool configs) :=
  inferInstanceAs (Decidable (_ ∨ _ ∨ ∃ c ∈ configs, _))

theorem newEndpoints_not_refused {manufacturerId : UInt16} {stale : RdmUid}
    {configs : List VirtualEndpointConfig} {es : List DeviceEndpoint}
    (h : newEndpoints (newVirtualEndpoint lib manufacturerId stale) configs pool = some (es, pool')) :
    (∀ c ∈ configs, c.dynamicResponders.Nodup ∧ c.staticResponders.Nodup) ∧
      (configs.map fun c => c.dynamicResponders.length + c.staticResponders.length).sum ≤ pool.length := by
  induction configs generalizing pool pool' es with
  | nil => exact ⟨fun c hc => (by cases hc), zero_le⟩
  | cons config configs ih =>
    obtain ⟨⟨e, pool₁⟩, he, hrest⟩ := Option.bind_eq_some_iff.mp h
    obtain ⟨⟨es', pool₂⟩, hes', -⟩ := Option.bind_eq_some_iff.mp hrest
    obtain ⟨-, hdyn, hstat, hpool⟩ := newVirtualEndpoint_from he
    obtain ⟨hnodup, hsum⟩ := ih hes'
    refine ⟨fun c hc => ?_, ?_⟩
    · rcases mem_cons.mp hc with rfl | hc
      · exact ⟨hdyn, hstat⟩
      · exact hnodup c hc
    · rw [map_cons, sum_cons]
      omega

section

variable (hd : d.AllRequested lib)
include hd

theorem allRequested_addEndpoints {new : Option (List DeviceEndpoint × Pool)}
    (h : d.connectedToBroker = true → ∀ es pool, new = some (es, pool) →
      ∀ e ∈ es, ∀ r ∈ e.responders, r.rid = kEtcPalNullUuid) : (d.addEndpoints new).1.AllRequested lib := by
  rcases new with _ | ⟨es, pool⟩
  · exact hd
  · refine hd.step_send _ rfl rfl fun rid hc hw => .inl (NoNewDynamic.waits ?_ hw)
    intro e' he'
    rcases mem_append.mp he' with he' | he'
    · exact .inr ⟨e', he', fun r hr _ => hr⟩
    · exact .inl (h hc es pool rfl e' he')

theorem allRequested_addPhysicalEndpoints (capacity : Bool) (pool : Pool)
    (configs : List PhysicalEndpointConfig) :
    (d.rdmnetDeviceAddPhysicalEndpoints capacity pool configs).1.AllRequested lib := by
  unfold rdmnetDeviceAddPhysicalEndpoints
  split_ifs
  · refine allRequested_addEndpoints hd fun _ es pool' hnew e he => ?_
    unfold addPhysicalEndpoints at hnew
    split_ifs at hnew
    obtain ⟨config, -, p, p', hconfig⟩ := newEndpoints_from hnew e he
    exact newPhysicalEndpoint_rid hconfig
  · exact hd

theorem allRequested_addVirtualEndpoints (capacity : Bool) (pool : Pool)
    (stale : RdmUid) {configs : List VirtualEndpointConfig}
    (h : d.connectedToBroker = true → ¬ Refused capacity pool configs →
      ∀ c ∈ configs, ∀ rid ∈ c.dynamicResponders, rid = kEtcPalNullUuid) :
    (d.rdmnetDeviceAddVirtualEndpoints lib capacity pool stale configs).1.AllRequested lib := by
  unfold rdmnetDeviceAddVirtualEndpoints
  split_ifs with hvalid
  · refine allRequested_addEndpoints hd fun hc es pool' hnew e he r hr => ?_
    unfold addVirtualEndpoints at hnew
    split_ifs at hnew with hcap
    have hrefused : ¬ Refused capacity pool configs := by
      obtain ⟨hnodup, hsum⟩ := newEndpoints_not_refused hnew
      rintro (hcap' | hlt | ⟨c, hc, hid | hdyn | hstat⟩)
      · exact absurd (hcap.symm.trans hcap') (by decide)
      · omega
      · have := all_eq_true.mp hvalid.2 c hc
        exact absurd (this.symm.trans hid) (by decide)
      · exact hdyn (hnodup c hc).1
      · exact hstat (hnodup c hc).2
    obtain ⟨config, hconfig, p, p', hmade⟩ := newEndpoints_from hnew e he
    rcases (newVirtualEndpoint_from hmade).1 r hr with hnull | hrid
    · exact hnull
    · exact h hc hrefused config hconfig r.rid hrid
  · exact hd

end

end Calls

/-! ### Runs -/

def DeviceMessage.rids : DeviceMessage → List Uuid
  | requestDynamicUids rids => rids
  | _ => []

theorem RdmnetDevice.requested_iff {d : RdmnetDevice} {rid : Uuid} :
    d.Requested rid ↔ ∃ msg ∈ d.sent, rid ∈ msg.rids := by
  constructor
  · rintro ⟨rids, hmsg, hrid⟩
    exact ⟨_, hmsg, hrid⟩
  · rintro ⟨msg, hmsg, hrid⟩
    cases msg with
    | requestDynamicUids rids => exact ⟨rids, hmsg, hrid⟩
    | endpointListChange => cases hrid
    | endpointResponderListChange => cases hrid

instance (d : RdmnetDevice) (rid : Uuid) : Decidable (d.Requested rid) :=
  decidable_of_iff _ requested_iff.symm

/-- The calls after which no responder waits for a UID that was not asked for. -/
def AsksForUids (lib : DeviceLib) : DeviceCall → RdmnetDevice → Prop
  | .connected, d => ∀ e ∈ d.endpoints, ∀ r ∈ e.responders, r.rid ≠ kEtcPalNullUuid →
      lib.uidIsDynamicUidRequest r.uid = false
  | .addVirtualEndpoints capacity pool _ configs, d =>
    d.connectedToBroker = true → ¬ Refused capacity pool configs →
      ∀ c ∈ configs, ∀ rid ∈ c.dynamicResponders, rid = kEtcPalNullUuid
  | .assignedDynamicUids _ mappings, d =>
    d.connectedToBroker = true → ∀ m ∈ mappings, m.statusCode = kRdmnetDynamicUidStatusOk →
      lib.uidIsDynamicUidRequest m.uid = true → ∀ e ∈ d.endpoints, ∀ r ∈ e.responders, r.rid = m.rid →
      r.rid ≠ kEtcPalNullUuid → d.Requested r.rid
  | _, _ => True

instance (lib : DeviceLib) (call : DeviceCall) (d : RdmnetDevice) : Decidable (AsksForUids lib call d) := by
  rcases call with _ | _ <;> (delta AsksForUids; dsimp only; infer_instance)

/-- **One call** keeps all waiting responders asked for. -/
theorem allRequested_apply {call : DeviceCall} {d : RdmnetDevice} (hasks : AsksForUids lib call d)
    (hd : d.AllRequested lib) : (d.apply lib call).AllRequested lib := by
  cases call with
  | addPhysicalEndpoints capacity pool configs =>
    exact allRequested_addPhysicalEndpoints hd capacity pool configs
  | addVirtualEndpoints capacity pool stale configs =>
    exact allRequested_addVirtualEndpoints hd capacity pool stale hasks
  | removeEndpoints ids => exact allRequested_removeEndpoints hd ids
  | addStaticResponders pool id uids => exact allRequested_addStaticResponders hd pool uids
  | addPhysicalResponders pool id configs => exact allRequested_addPhysicalResponders hd pool configs
  | addDynamicResponders pool stale id rids => exact allRequested_addDynamicResponders hd pool stale rids
  | removeStaticResponders id uids => exact allRequested_removeRespondersByUid hd .virtual uids
  | removePhysicalResponders id uids => exact allRequested_removeRespondersByUid hd .physical uids
  | removeDynamicResponders stale id rids => exact allRequested_removeDynamicResponders hd stale rids
  | connected =>
    -- the connection is new: nobody may be waiting
    rintro - rid ⟨hnull, e, he, r, hr, rfl, hreq⟩
    exact absurd ((hasks e he r hr hnull).symm.trans hreq) (by decide)
  | disconnected => exact fun hc => by cases hc
  | assignedDynamicUids stale mappings => exact allRequested_assignedDynamicUids hd stale hasks

/-- **Dynamic UIDs are asked for**, in every run of calls of which each does: while a device is connected,
each responder that still waits for a UID is in a message that was sent on this connection. -/
theorem dynamic_uids_requested {capacity : Bool} {pool : Pool} {stale : RdmUid} {config : RdmnetDeviceConfig}
    {d₀ d : RdmnetDevice} (hcreate : rdmnetDeviceCreate lib capacity pool stale config = some d₀)
    (hr : Runs (deviceStep lib) (AsksForUids lib) d₀ d) :
    d.connectedToBroker = true → ∀ e ∈ d.endpoints, ∀ r ∈ e.responders, r.rid ≠ kEtcPalNullUuid →
      lib.uidIsDynamicUidRequest r.uid = true → ∃ rids, .requestDynamicUids rids ∈ d.sent ∧ r.rid ∈ rids := by
  have hinit : d₀.AllRequested lib := by
    unfold rdmnetDeviceCreate at hcreate
    split_ifs at hcreate
    obtain ⟨physical, -, hrest⟩ := Option.bind_eq_some_iff.mp hcreate
    obtain ⟨virtual, -, hlast⟩ := Option.bind_eq_some_iff.mp hrest
    cases hlast
    exact fun hc => by cases hc
  have hall : d.AllRequested lib := by
    refine Runs.keeps (I := AllRequested lib) ?_ hr hinit
    intro call t t' hasks ht hstep
    cases hstep
    exact allRequested_apply hasks ht
  intro hc e he r hr hnull hreq
  exact hall hc r.rid ⟨hnull, e, he, r, hr, rfl, hreq⟩

/-! A device with one virtual endpoint, without responders or with one in its configuration. -/

def lateRid : Uuid := Vector.replicate 16 2

def emptyDevice : RdmnetDevice := ⟨[⟨1, .virtual, 0, []⟩], 0, false, 0, [], 0⟩

def waitingResponder : EndpointResponder := ⟨lateRid, ⟨0x8000, 0⟩, default, 0⟩

def waitingDevice : RdmnetDevice := ⟨[⟨1, .virtual, 0, [waitingResponder]⟩], 0, false, 0, [], 0⟩

def lateDevice : RdmnetDevice :=
  ⟨[⟨1, .virtual, 0, [waitingResponder]⟩], 0, true, 0, [.requestDynamicUids [lateRid]], 0⟩

/-- The UID of a responder that is added while the device is connected is asked for. -/
theorem dynamic_uids_requested_late :
    rdmnetDeviceCreate .reference true [] default ⟨[], [⟨1, [], []⟩]⟩ = some emptyDevice ∧
    Runs (deviceStep .reference) (AsksForUids .reference) emptyDevice lateDevice ∧
    ∃ rids, .requestDynamicUids rids ∈ lateDevice.sent ∧ waitingResponder.rid ∈ rids := by
  have hcreate : rdmnetDeviceCreate .reference true [] default ⟨[], [⟨1, [], []⟩]⟩ = some emptyDevice := by
    decide +kernel
  have hr : Runs (deviceStep .reference) (AsksForUids .reference) emptyDevice lateDevice :=
    .of_play [.connected, .addDynamicResponders [default] default 1 [lateRid]] (by decide +kernel)
  exact ⟨hcreate, hr, dynamic_uids_requested hcreate hr rfl _ mem_cons_self waitingResponder
    mem_cons_self (by decide) (by decide)⟩

def Unrequested (lib : DeviceLib) (d : RdmnetDevice) : Prop :=
  d.connectedToBroker = true ∧ ∃ e ∈ d.endpoints, ∃ r ∈ e.responders, r.rid ≠ kEtcPalNullUuid ∧
    lib.uidIsDynamicUidRequest r.uid = true ∧ ¬ d.Requested r.rid

instance (lib : DeviceLib) (d : RdmnetDevice) : Decidable (Unrequested lib d) :=
  inferInstanceAs (Decidable (_ ∧ ∃ e ∈ d.endpoints, ∃ r ∈ e.responders, _))

/-- A responder of the configuration is not asked for when the device is connected; nor is one whose UID was
taken away when the device was disconnected, once it is connected again; nor is one that comes with a virtual
endpoint. -/
theorem dynamic_uids_not_requested :
    (rdmnetDeviceCreate .reference true [default] default ⟨[], [⟨1, [lateRid], []⟩]⟩ = some waitingDevice ∧
      ∃ d, Runs (deviceStep .reference) anyStep waitingDevice d ∧ Unrequested .reference d) ∧
    (∃ d, Runs (deviceStep .reference) (AsksForUids .reference) emptyDevice lateDevice ∧
      Runs (deviceStep .reference) anyStep lateDevice d ∧ Unrequested .reference d) ∧
    (∃ d, Runs (deviceStep .reference) anyStep emptyDevice d ∧ Unrequested .reference d) := by
  refine ⟨⟨by decide +kernel, waitingDevice.apply .reference .connected,
      .of_play [.connected] (by decide +kernel), by decide +kernel⟩,
    ⟨(((lateDevice.apply .reference (.assignedDynamicUids default [⟨⟨0x8001, 7⟩, lateRid, 0⟩])).apply
        .reference .disconnected).apply .reference .connected),
      .of_play [.connected, .addDynamicResponders [default] default 1 [lateRid]] (by decide +kernel),
      .of_play [.assignedDynamicUids default [⟨⟨0x8001, 7⟩, lateRid, 0⟩], .disconnected, .connected]
        (by decide +kernel), by decide +kernel⟩,
    ⟨(emptyDevice.apply .reference .connected).apply .reference
        (.addVirtualEndpoints true [default] default [⟨2, [lateRid], []⟩]),
      .of_play [.connected, .addVirtualEndpoints true [default] default [⟨2, [lateRid], []⟩]]
        (by decide +kernel), by decide +kernel⟩⟩

end RDMnet
