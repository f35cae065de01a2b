import RDMnet.Device.ChangeNumbers

/-!
# Announcing responders

When the responders of an endpoint change, its change number is incremented, and if the device is connected,
one update carries the new number to the controllers.  The functions that add and remove responders and the
assignment of dynamic UIDs leave that to `notify_endpoint_responder_list_change`.
`rdmnet_device_remove_static_responders` and `rdmnet_device_remove_physical_responders` call it too, but on a
connected device they have incremented the number and sent an update already.
-/

namespace RDMnet

open List

variable {d : RdmnetDevice} {id : UInt16} {e : DeviceEndpoint}

/-- The change number of the first endpoint with an ID was incremented and announced; nothing but its
responders has changed besides. -/
def RdmnetDevice.AnnouncesOnce (id : UInt16) (d d' : RdmnetDevice) : Prop :=
  ∃ front e rest responders, d.endpoints = front ++ e :: rest ∧ (∀ x ∈ front, x.id ≠ id) ∧ e.id = id ∧
    d'.endpoints = front ++ { e with
      responders, responderListChangeNumber := e.responderListChangeNumber + 1 } :: rest ∧
    d'.sent = d.sent ++ if d.connectedToBroker then
      [.endpointResponderListChange id (e.responderListChangeNumber + 1)] else []

/-- No change number was changed, and nothing was sent. -/
def RdmnetDevice.Silent (d d' : RdmnetDevice) : Prop :=
  d'.endpoints.map (·.responderListChangeNumber) = d.endpoints.map (·.responderListChangeNumber) ∧
    d'.sent = d.sent

/-- The responders of an endpoint after an assignment message, and how many of them were assigned a UID; there are
no dynamic UIDs on physical endpoints. -/
def DeviceEndpoint.assigned (stale : RdmUid) (mappings : List RdmnetDynamicUidMapping) (e : DeviceEndpoint) :
    List EndpointResponder × Nat :=
  if e.type = .physical then (e.responders, 0) else assignResponders stale mappings e.responders

/-- Exactly the endpoints with responders that are assigned a UID are changed, each with one increment and one
update, in their order; `n` responders were assigned one before. -/
inductive Announced (stale : RdmUid) (mappings : List RdmnetDynamicUidMapping) :
    Nat → List DeviceEndpoint → List DeviceEndpoint → List DeviceMessage → Prop
  | nil (n : Nat) : Announced stale mappings n [] [] []
  -- no mapping is left for them
  | rest {n : Nat} (h : mappings.length ≤ n) (es : List DeviceEndpoint) : Announced stale mappings n es es []
  | same {n : Nat} {e : DeviceEndpoint} (he : (e.assigned stale mappings).2 = 0) {es es' : List DeviceEndpoint}
      {updates : List DeviceMessage} (h : Announced stale mappings n es es' updates) :
      Announced stale mappings n (e :: es) (e :: es') updates
  | changed {n : Nat} {e : DeviceEndpoint} (he : 0 < (e.assigned stale mappings).2) {es es' : List DeviceEndpoint}
      {updates : List DeviceMessage}
      (h : Announced stale mappings (n + (e.assigned stale mappings).2) es es' updates) :
      Announced stale mappings n (e :: es)
        ({ e with
          responders := (e.assigned stale mappings).1
          responderListChangeNumber := e.responderListChangeNumber + 1 } :: es')
        (.endpointResponderListChange e.id (e.responderListChangeNumber + 1) :: updates)

/-- The functions that change the responders which are listed: the ID of the endpoint, and what comes out. -/
def RdmnetDevice.respondersCall (d : RdmnetDevice) :
    DeviceCall → Option (UInt16 × RdmnetDevice × Option DeviceErr)
  | .addStaticResponders pool id uids => some (id, d.rdmnetDeviceAddStaticResponders pool id uids)
  | .addPhysicalResponders pool id configs =>
    some (id, d.rdmnetDeviceAddPhysicalResponders pool id configs)
  | .removeStaticResponders id uids => some (id, d.rdmnetDeviceRemoveStaticResponders id uids)
  | .removePhysicalResponders id uids => some (id, d.rdmnetDeviceRemovePhysicalResponders id uids)
  | .removeDynamicResponders stale id rids =>
    some (id, d.rdmnetDeviceRemoveDynamicResponders stale id rids)
  | _ => none

/-- The call removes static or physical responders. -/
def RemovesByUid : DeviceCall → Bool
  | .removeStaticResponders _ _ | .removePhysicalResponders _ _ => true
  | _ => false

/-- What comes out of a call: one announcement unless there are two, and none if it fails. -/
def RdmnetDevice.Announces (id : UInt16) (d : RdmnetDevice) (twice : Prop)
    (r : RdmnetDevice × Option DeviceErr) : Prop :=
  (r.2 = none → (d.AnnouncesOnce id r.1 ↔ ¬ twice)) ∧ (r.2 ≠ none → d.Silent r.1)

/-- The endpoint that is found, in its place. -/
theorem setEndpoint_eq {es : List DeviceEndpoint} (hfind : findEndpoint id es = some e) :
    ∃ front rest, es = front ++ e :: rest ∧ (∀ x ∈ front, x.id ≠ id) ∧ e.id = id ∧
      ∀ e', e'.id = id → setEndpoint e' es = front ++ e' :: rest := by
  obtain ⟨hid, front, rest, rfl, hfront⟩ := find?_eq_some_iff_append.mp hfind
  have hid : e.id = id := by simpa using hid
  have hne : ∀ x ∈ front, x.id ≠ id := fun x hx => by simpa using hfront x hx
  refine ⟨front, rest, rfl, hne, hid, fun e' he' => ?_⟩
  clear hfind hfront
  induction front with
  | nil => exact if_pos (hid.trans he'.symm)
  | cons x front ih =>
    obtain ⟨hx, hne⟩ := forall_mem_cons.mp hne
    rw [cons_append, setEndpoint, if_neg fun h => hx (h.trans he'), ih hne, cons_append]

theorem announces_fail (twice : Prop) (err : DeviceErr) : d.Announces id twice (d, some err) :=
  ⟨fun h => (Option.some_ne_none _ h).elim, fun _ => ⟨rfl, rfl⟩⟩

section Endpoint

variable (hfind : findEndpoint id d.endpoints = some e)

include hfind

theorem announcesOnce_notify (responders : List EndpointResponder) :
    d.AnnouncesOnce id (d.notifyEndpointResponderListChange { e with responders }) := by
  obtain ⟨front, rest, hes, hfront, hid, hset⟩ := setEndpoint_eq hfind
  refine ⟨front, e, rest, responders, hes, hfront, hid, ?_, ?_⟩
  · exact (send_endpoints _ _).trans (hset _ hid)
  · rw [← hid]
    exact send_sent _ _

theorem announces_notify (responders : List EndpointResponder) {twice : Prop} (htwice : ¬ twice) :
    d.Announces id twice (d.notifyEndpointResponderListChange { e with responders }, none) :=
  ⟨fun _ => iff_of_true (announcesOnce_notify hfind responders) htwice, fun h => absurd rfl h⟩

theorem announces_respondersAdded {twice : Prop} (htwice : ¬ twice)
    (added : List EndpointResponder × Pool × Option DeviceErr) :
    d.Announces id twice (RdmnetDevice.respondersAdded e d added) := by
  obtain ⟨responders, pool, _ | err⟩ := added
  · exact announces_notify hfind responders htwice
  · obtain ⟨front, rest, hes, -, hid, hset⟩ := setEndpoint_eq hfind
    refine ⟨fun h => (Option.some_ne_none _ h).elim, fun _ => ⟨?_, rfl⟩⟩
    show (setEndpoint { e with responders } d.endpoints).map _ = _
    rw [hset { e with responders } hid, hes, map_append, map_append, map_cons, map_cons]

end Endpoint

/-- On a connected device, static or physical responders are announced twice when they are removed. -/
theorem announces_removeRespondersByUid (d : RdmnetDevice) (type : DeviceEndpointType) (id : UInt16)
    (uids : List RdmUid) {twice : Prop} (htwice : twice ↔ d.connectedToBroker = true) :
    d.Announces id twice (d.removeRespondersByUid type id uids) := by
  refine RdmnetDevice.endpointCases (announces_fail _) fun e hfind => ?_
  dsimp only
  split_ifs with hall hconn
  · refine ⟨fun _ => iff_of_false (fun honce => ?_) (not_not.mpr (htwice.mpr hconn)), fun h => absurd rfl h⟩
    obtain ⟨_, _, _, _, -, -, -, -, hsent⟩ := honce
    have hlen := congrArg List.length hsent
    simp [RdmnetDevice.notifyEndpointResponderListChange, send_sent, hconn] at hlen
  · exact announces_notify hfind _ (mt htwice.mp hconn)
  · exact announces_fail _ _

theorem announces_removeDynamicResponders (d : RdmnetDevice) (stale : RdmUid) (id : UInt16)
    (rids : List Uuid) {twice : Prop} (htwice : ¬ twice) :
    d.Announces id twice (d.rdmnetDeviceRemoveDynamicResponders stale id rids) := by
  refine RdmnetDevice.endpointCases (announces_fail _) fun e hfind => ?_
  split_ifs
  · exact announces_notify hfind _ htwice
  · exact announces_fail _ _

/-- The loop announces the endpoints it changes. -/
theorem announced_assignEndpoints (stale : RdmUid) (mappings : List RdmnetDynamicUidMapping)
    (es : List DeviceEndpoint) (found : Nat) :
    Announced stale mappings found es (assignEndpoints stale mappings es found).1
      ((assignEndpoints stale mappings es found).2.1.map fun e =>
        .endpointResponderListChange e.id e.responderListChangeNumber) := by
  induction es generalizing found with
  | nil => exact .nil found
  | cons e es ih =>
    unfold assignEndpoints
    by_cases hphys : e.type = .physical
    · rw [if_pos hphys]
      exact .same (by rw [DeviceEndpoint.assigned, if_pos hphys]) (ih found)
    · have hassigned : e.assigned stale mappings = assignResponders stale mappings e.responders := if_neg hphys
      rw [if_neg hphys, ← hassigned]
      by_cases hn : (e.assigned stale mappings).2 = 0
      · simp only [hn, Nat.add_zero, if_true]
        split_ifs with hall
        · exact .same hn (.rest hall es)
        · exact .same hn (ih found)
      · simp only [if_neg hn]
        split_ifs with hall
        · exact .changed (Nat.pos_of_ne_zero hn) (.rest hall es)
        · exact .changed (Nat.pos_of_ne_zero hn) (ih _)

/-- **Responders are announced once**, by every call of every device, but for static and physical responders
that are removed from a connected device. -/
theorem responders_announced_once (d : RdmnetDevice) :
    (∀ call id r, d.respondersCall call = some (id, r) →
      d.Announces id (RemovesByUid call = true ∧ d.connectedToBroker = true) r) ∧
    ∀ stale mappings, ∃ updates,
      Announced stale mappings 0 d.endpoints
        (d.handleAssignedDynamicUids stale mappings).1.endpoints updates ∧
      (d.handleAssignedDynamicUids stale mappings).1.sent =
        d.sent ++ if d.connectedToBroker then updates else [] := by
  constructor
  · intro call id r hcall
    cases call with
    | addStaticResponders pool id uids | addPhysicalResponders pool id configs =>
      cases hcall
      exact RdmnetDevice.endpointCases (announces_fail _) fun e hfind =>
        announces_respondersAdded hfind (by simp [RemovesByUid]) _
    | removeDynamicResponders stale id rids =>
      cases hcall
      exact announces_removeDynamicResponders d stale id rids (by simp [RemovesByUid])
    | removeStaticResponders id uids =>
      cases hcall
      exact announces_removeRespondersByUid d .virtual id uids (by simp [RemovesByUid])
    | removePhysicalResponders id uids =>
      cases hcall
      exact announces_removeRespondersByUid d .physical id uids (by simp [RemovesByUid])
    | _ => cases hcall
  · intro stale mappings
    obtain ⟨hes, -, -, -, hsent⟩ := foldl_send
      (fun e : DeviceEndpoint => .endpointResponderListChange e.id e.responderListChangeNumber)
      (assignEndpoints stale mappings d.endpoints 0).2.1
      { d with
        endpoints := (assignEndpoints stale mappings d.endpoints 0).1
        changes := d.changes + (assignEndpoints stale mappings d.endpoints 0).2.1.length }
    exact ⟨_, hes.symm ▸ announced_assignEndpoints stale mappings d.endpoints 0, hsent⟩

/-- A connected device with a static responder. -/
def connectedDevice : RdmnetDevice :=
  ⟨[⟨1, .virtual, 0, [⟨kEtcPalNullUuid, ⟨1, 7⟩, default, 0⟩]⟩], 0, true, 0, [], 0⟩

/-- It is announced once that a responder is added to it, and that its responder is removed while it is not
connected. -/
theorem responders_announced_once_both :
    connectedDevice.AnnouncesOnce 1 (connectedDevice.rdmnetDeviceAddStaticResponders [default] 1 [⟨1, 8⟩]).1 ∧
    { connectedDevice with connectedToBroker := false }.AnnouncesOnce 1
      ({ connectedDevice with connectedToBroker := false }.rdmnetDeviceRemoveStaticResponders 1 [⟨1, 7⟩]).1 := by
  refine ⟨?_, ?_⟩
  · have h := (responders_announced_once connectedDevice).1 (.addStaticResponders [default] 1 [⟨1, 8⟩]) 1 _ rfl
    exact (h.1 (by decide +kernel)).mpr (by decide)
  · have h := (responders_announced_once { connectedDevice with connectedToBroker := false }).1
      (.removeStaticResponders 1 [⟨1, 7⟩]) 1 _ rfl
    exact (h.1 (by decide +kernel)).mpr (by decide)

/-- Its responder is removed: the number is 2 then, and there are two updates. -/
theorem responder_announced_twice :
    (connectedDevice.rdmnetDeviceRemoveStaticResponders 1 [⟨1, 7⟩]).2 = none ∧
    (connectedDevice.rdmnetDeviceRemoveStaticResponders 1 [⟨1, 7⟩]).1.endpoints = [⟨1, .virtual, 2, []⟩] ∧
    (connectedDevice.rdmnetDeviceRemoveStaticResponders 1 [⟨1, 7⟩]).1.sent =
      [.endpointResponderListChange 1 1, .endpointResponderListChange 1 2] := by
  decide +kernel

end RDMnet
