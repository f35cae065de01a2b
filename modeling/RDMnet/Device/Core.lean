import RDMnet.Device.Responders
import RDMnet.Lib.Runs

/-!
# RDMnet devices

A device (`device.c`) is an RPT client with endpoints.  The application adds and removes endpoints and
their responders; the core tells the device that it was connected or disconnected and hands it the
dynamic UIDs that a broker has assigned.  `RdmnetDevice.apply` is one such call.

The device itself answers the requests of E1.37-7 for the list of endpoints and for the responders of one
endpoint.  Each answer carries a change number.
-/

namespace RDMnet

/-! ### Endpoints -/

/-- `device_endpoint_type_t` -/
inductive DeviceEndpointType
  | virtual | physical
  deriving DecidableEq, Repr

structure DeviceEndpoint where
  id : UInt16
  type : DeviceEndpointType
  responderListChangeNumber : UInt32
  /-- The tree, in order. -/
  responders : List EndpointResponder
  deriving DecidableEq

/-- `RdmnetVirtualEndpointConfig` -/
structure VirtualEndpointConfig where
  endpointId : UInt16
  dynamicResponders : List Uuid
  staticResponders : List RdmUid

/-- `RdmnetPhysicalEndpointConfig` -/
structure PhysicalEndpointConfig where
  endpointId : UInt16
  responders : List PhysicalEndpointResponder

/-- `ENDPOINT_ID_VALID` -/
def endpointIdValid (id : UInt16) : Bool := id ≠ 0 ∧ id < 64000

/-- A message that a device sends of its own accord. -/
inductive DeviceMessage
  /-- Request Dynamic UID Assignment (`rc_client_request_dynamic_uids`) -/
  | requestDynamicUids (rids : List Uuid)
  /-- The updates `E137_7_ENDPOINT_LIST_CHANGE` and `E137_7_ENDPOINT_RESPONDER_LIST_CHANGE`
  (`rc_client_send_rdm_update`) -/
  | endpointListChange (number : UInt32)
  | endpointResponderListChange (endpointId : UInt16) (number : UInt32)
  deriving DecidableEq

structure RdmnetDevice where
  /-- The first `num_endpoints` elements of the buffer. -/
  endpoints : List DeviceEndpoint
  endpointListChangeNumber : UInt32
  connectedToBroker : Bool
  manufacturerId : UInt16
  /-- Ghost data: the messages sent since the device was connected last. -/
  sent : List DeviceMessage
  /-- Ghost data: how often a change number was incremented. -/
  changes : Nat
  deriving DecidableEq

/-- `find_endpoint` -/
def findEndpoint (id : UInt16) (endpoints : List DeviceEndpoint) : Option DeviceEndpoint :=
  endpoints.find? (·.id = id)

/-- Write to the endpoint that `find_endpoint` finds. -/
def setEndpoint (endpoint : DeviceEndpoint) : List DeviceEndpoint → List DeviceEndpoint
  | [] => []
  | e :: es => if e.id = endpoint.id then endpoint :: es else e :: setEndpoint endpoint es

namespace RdmnetDevice

def send (msg : DeviceMessage) (d : RdmnetDevice) : RdmnetDevice :=
  if d.connectedToBroker then { d with sent := d.sent ++ [msg] } else d

def notifyEndpointListChange (d : RdmnetDevice) : RdmnetDevice :=
  let number := d.endpointListChangeNumber + 1
  { d with endpointListChangeNumber := number, changes := d.changes + 1 }.send
    (.endpointListChange number)

/-- `notify_endpoint_responder_list_change`, for an endpoint that was changed in place. -/
def notifyEndpointResponderListChange (endpoint : DeviceEndpoint) (d : RdmnetDevice) : RdmnetDevice :=
  let number := endpoint.responderListChangeNumber + 1
  { d with
    endpoints := setEndpoint { endpoint with responderListChangeNumber := number } d.endpoints
    changes := d.changes + 1 }.send (.endpointResponderListChange endpoint.id number)

end RdmnetDevice

section Send

variable (msg : DeviceMessage) (d : RdmnetDevice)

@[simp] theorem send_endpoints : (d.send msg).endpoints = d.endpoints := by
  unfold RdmnetDevice.send; split <;> rfl

@[simp] theorem send_changes : (d.send msg).changes = d.changes := by
  unfold RdmnetDevice.send; split <;> rfl

@[simp] theorem send_endpointListChangeNumber :
    (d.send msg).endpointListChangeNumber = d.endpointListChangeNumber := by
  unfold RdmnetDevice.send; split <;> rfl

@[simp] theorem send_connectedToBroker : (d.send msg).connectedToBroker = d.connectedToBroker := by
  unfold RdmnetDevice.send; split <;> rfl

theorem send_sent :
    (d.send msg).sent = d.sent ++ if d.connectedToBroker then [msg] else [] := by
  unfold RdmnetDevice.send
  split
  · rfl
  · exact (List.append_nil _).symm

theorem sent_subset_send : d.sent ⊆ (d.send msg).sent := by
  rw [send_sent]
  exact List.subset_append_left _ _

theorem foldl_send {α : Type} (msg : α → DeviceMessage) (xs : List α) (d : RdmnetDevice) :
    let d' := xs.foldl (fun d x => d.send (msg x)) d
    d'.endpoints = d.endpoints ∧ d'.changes = d.changes ∧
      d'.endpointListChangeNumber = d.endpointListChangeNumber ∧
      d'.connectedToBroker = d.connectedToBroker ∧
      d'.sent = d.sent ++ if d.connectedToBroker then xs.map msg else [] := by
  induction xs generalizing d with
  | nil => exact ⟨rfl, rfl, rfl, rfl, by simp⟩
  | cons x xs ih =>
    obtain ⟨hes, hch, hnum, hconn, hsent⟩ := ih (d.send (msg x))
    refine ⟨by simpa using hes, by simpa using hch, by simpa using hnum, by simpa using hconn, ?_⟩
    rw [List.foldl_cons, hsent, send_sent, send_connectedToBroker, List.append_assoc]
    split <;> rfl

end Send

/-! ### Adding endpoints -/

/-- One round of the loop of `add_physical_endpoints`. -/
def newPhysicalEndpoint (config : PhysicalEndpointConfig) (pool : Pool) :
    Option (DeviceEndpoint × Pool) :=
  match rdmnetAddPhysicalResponders config.responders pool [] with
  | (responders, pool, none) => some (⟨config.endpointId, .physical, 0, responders⟩, pool)
  | (_, _, some _) => none

/-- One round of the loop of `add_virtual_endpoints`. -/
def newVirtualEndpoint (lib : DeviceLib) (manufacturerId : UInt16) (stale : RdmUid)
    (config : VirtualEndpointConfig) (pool : Pool) : Option (DeviceEndpoint × Pool) :=
  match rdmnetAddDynamicResponders lib manufacturerId stale config.dynamicResponders pool [] with
  | (_, _, some _) => none
  | (responders, pool, none) =>
    match rdmnetAddStaticResponders config.staticResponders pool responders with
    | (responders, pool, none) => some (⟨config.endpointId, .virtual, 0, responders⟩, pool)
    | (_, _, some _) => none

/-- The loops; a failure takes back all that was added. -/
def newEndpoints {κ : Type} (new : κ → Pool → Option (DeviceEndpoint × Pool)) :
    List κ → Pool → Option (List DeviceEndpoint × Pool)
  | [], pool => some ([], pool)
  | config :: configs, pool => do
    let (endpoint, pool) ← new config pool
    let (endpoints, pool) ← newEndpoints new configs pool
    some (endpoint :: endpoints, pool)

/-- `capacity` is the result of `DEVICE_CHECK_ENDPOINTS_CAPACITY`. -/
def addPhysicalEndpoints (capacity : Bool) (configs : List PhysicalEndpointConfig) (pool : Pool) :
    Option (List DeviceEndpoint × Pool) :=
  if capacity then newEndpoints newPhysicalEndpoint configs pool else none

def addVirtualEndpoints (lib : DeviceLib) (manufacturerId : UInt16) (stale : RdmUid) (capacity : Bool)
    (configs : List VirtualEndpointConfig) (pool : Pool) : Option (List DeviceEndpoint × Pool) :=
  if capacity then newEndpoints (newVirtualEndpoint lib manufacturerId stale) configs pool else none

/-! ### Removing endpoints -/

/-- The second loop of `remove_endpoints`, and whether it came to its end.  The number of endpoints stays
as it is, so each search goes through all of the slots. -/
def removeLoop : List UInt16 → List DeviceEndpoint → List DeviceEndpoint × Bool
  | [], slots => (slots, true)
  | id :: ids, slots =>
    match slots.findIdx? (·.id = id) with
    | none => (slots, false)
    | some i =>
      if i ≠ slots.length - 1 then
        -- the slots behind it move up, and the last one is there twice
        removeLoop ids (slots.eraseIdx i ++ slots.getLast?.toList)
      else removeLoop ids (slots.modify i fun e => { e with responders := [] })

/-- `remove_endpoints`.  If more endpoints are removed than there are, `num_endpoints` wraps around and
all slots count. -/
def removeEndpoints (ids : List UInt16) (endpoints : List DeviceEndpoint) :
    List DeviceEndpoint × Bool :=
  if ids.all fun id => (findEndpoint id endpoints).isSome then
    match removeLoop ids endpoints with
    | (slots, false) => (slots, false)
    | (slots, true) =>
      (if ids.length ≤ slots.length then slots.take (slots.length - ids.length) else slots, true)
  else (endpoints, false)

/-! ### Dynamic UIDs -/

/-- `kRdmnetDynamicUidStatusOk` -/
abbrev kRdmnetDynamicUidStatusOk : UInt16 := 0

/-- The inner loop of `handle_assigned_dynamic_uids`: the responders, and how many were found. -/
def assignResponders (stale : RdmUid) :
    List RdmnetDynamicUidMapping → List EndpointResponder → List EndpointResponder × Nat
  | [], responders => (responders, 0)
  | mapping :: mappings, responders =>
    if mapping.statusCode = kRdmnetDynamicUidStatusOk ∧
        (rdmnetFindResponderByRid stale mapping.rid responders).isSome then
      let rest := assignResponders stale mappings (responders.map fun r =>
        if responderCompare ⟨mapping.rid, stale⟩ r.key = .eq then { r with uid := mapping.uid } else r)
      (rest.1, rest.2 + 1)
    else assignResponders stale mappings responders

/-- The loop of `handle_assigned_dynamic_uids`: the endpoints, those whose change numbers were incremented,
and how many responders were found. -/
def assignEndpoints (stale : RdmUid) (mappings : List RdmnetDynamicUidMapping) :
    List DeviceEndpoint → Nat → List DeviceEndpoint × List DeviceEndpoint × Nat
  | [], found => ([], [], found)
  | endpoint :: endpoints, found =>
    -- no dynamic UIDs on physical endpoints
    if endpoint.type = .physical then
      let rest := assignEndpoints stale mappings endpoints found
      (endpoint :: rest.1, rest.2)
    else
      let (responders, n) := assignResponders stale mappings endpoint.responders
      let endpoint' := if n = 0 then endpoint else
        { endpoint with
          responders
          responderListChangeNumber := endpoint.responderListChangeNumber + 1 }
      let changed := if n = 0 then [] else [endpoint']
      if mappings.length ≤ found + n then (endpoint' :: endpoints, changed, found + n)
      else
        let rest := assignEndpoints stale mappings endpoints (found + n)
        (endpoint' :: rest.1, changed ++ rest.2.1, rest.2.2)

namespace RdmnetDevice

/-- `handle_assigned_dynamic_uids`; it is told to the application if a responder was found. -/
def handleAssignedDynamicUids (stale : RdmUid) (mappings : List RdmnetDynamicUidMapping)
    (d : RdmnetDevice) : RdmnetDevice × Bool :=
  let (endpoints, changed, found) := assignEndpoints stale mappings d.endpoints 0
  (changed.foldl (fun d e => d.send (.endpointResponderListChange e.id e.responderListChangeNumber))
    { d with endpoints, changes := d.changes + changed.length }, 0 < found)

/-- `client_connected` -/
def clientConnected (d : RdmnetDevice) : RdmnetDevice := { d with connectedToBroker := true, sent := [] }

/-- One round of the loop of `client_disconnected`. -/
def resetDynamicUids (lib : DeviceLib) (manufacturerId : UInt16) (endpoint : DeviceEndpoint) :
    DeviceEndpoint :=
  { endpoint with
    responders := endpoint.responders.map fun r =>
      if r.rid ≠ kEtcPalNullUuid then { r with uid := lib.initDynamicUidRequest manufacturerId } else r }

/-- `client_disconnected` -/
def clientDisconnected (lib : DeviceLib) (d : RdmnetDevice) : RdmnetDevice :=
  { d with
    connectedToBroker := false
    endpoints := d.endpoints.map (resetDynamicUids lib d.manufacturerId) }

/-! ### The functions of the application -/

def addEndpoints (new : Option (List DeviceEndpoint × Pool)) (d : RdmnetDevice) :
    RdmnetDevice × Option DeviceErr :=
  match new with
  | some (endpoints, _) =>
    ({ d with endpoints := d.endpoints ++ endpoints }.notifyEndpointListChange, none)
  | none => (d, some .noMem)

def rdmnetDeviceAddPhysicalEndpoints (capacity : Bool) (pool : Pool)
    (configs : List PhysicalEndpointConfig) (d : RdmnetDevice) : RdmnetDevice × Option DeviceErr :=
  if configs ≠ [] ∧ configs.all fun c => endpointIdValid c.endpointId then
    d.addEndpoints (RDMnet.addPhysicalEndpoints capacity configs pool)
  else (d, some .invalid)

def rdmnetDeviceAddVirtualEndpoints (lib : DeviceLib) (capacity : Bool) (pool : Pool) (stale : RdmUid)
    (configs : List VirtualEndpointConfig) (d : RdmnetDevice) : RdmnetDevice × Option DeviceErr :=
  if configs ≠ [] ∧ configs.all fun c => endpointIdValid c.endpointId then
    d.addEndpoints (RDMnet.addVirtualEndpoints lib d.manufacturerId stale capacity configs pool)
  else (d, some .invalid)

def rdmnetDeviceRemoveEndpoints (ids : List UInt16) (d : RdmnetDevice) :
    RdmnetDevice × Option DeviceErr :=
  if ids = [] then (d, some .invalid) else
    match removeEndpoints ids d.endpoints with
    | (endpoints, true) => ({ d with endpoints }.notifyEndpointListChange, none)
    | (endpoints, false) => ({ d with endpoints }, some .notFound)

def withEndpoint (id : UInt16) (type : DeviceEndpointType)
    (f : DeviceEndpoint → RdmnetDevice × Option DeviceErr) (d : RdmnetDevice) :
    RdmnetDevice × Option DeviceErr :=
  match findEndpoint id d.endpoints with
  | none => (d, some .notFound)
  | some endpoint => if endpoint.type = type then f endpoint else (d, some .invalid)

/-- What happens to the endpoint once static or physical responders were added, or not. -/
def respondersAdded (endpoint : DeviceEndpoint) (d : RdmnetDevice) :
    List EndpointResponder × Pool × Option DeviceErr → RdmnetDevice × Option DeviceErr
  | (responders, _, none) =>
    (d.notifyEndpointResponderListChange { endpoint with responders }, none)
  | (responders, _, some err) =>
    ({ d with endpoints := setEndpoint { endpoint with responders } d.endpoints }, some err)

def rdmnetDeviceAddStaticResponders (pool : Pool) (id : UInt16) (uids : List RdmUid)
    (d : RdmnetDevice) : RdmnetDevice × Option DeviceErr :=
  if uids = [] then (d, some .invalid) else
    d.withEndpoint id .virtual fun endpoint =>
      respondersAdded endpoint d (RDMnet.rdmnetAddStaticResponders uids pool endpoint.responders)

def rdmnetDeviceAddPhysicalResponders (pool : Pool) (id : UInt16)
    (configs : List PhysicalEndpointResponder) (d : RdmnetDevice) : RdmnetDevice × Option DeviceErr :=
  if configs = [] then (d, some .invalid) else
    d.withEndpoint id .physical fun endpoint =>
      respondersAdded endpoint d (RDMnet.rdmnetAddPhysicalResponders configs pool endpoint.responders)

/-- The list change number stays as it is: responders without a UID are not listed. -/
def rdmnetDeviceAddDynamicResponders (lib : DeviceLib) (pool : Pool) (stale : RdmUid) (id : UInt16)
    (rids : List Uuid) (d : RdmnetDevice) : RdmnetDevice × Option DeviceErr :=
  if rids = [] then (d, some .invalid) else
    d.withEndpoint id .virtual fun endpoint =>
      let (responders, _, res) :=
        RDMnet.rdmnetAddDynamicResponders lib d.manufacturerId stale rids pool endpoint.responders
      let d := { d with endpoints := setEndpoint { endpoint with responders } d.endpoints }
      match res with
      | none => (d.send (.requestDynamicUids rids), none)
      | some err => (d, some err)

/-- `rdmnet_device_remove_static_responders` and `rdmnet_device_remove_physical_responders`: if the device is
connected, the number is incremented twice. -/
def removeRespondersByUid (type : DeviceEndpointType) (id : UInt16) (uids : List RdmUid)
    (d : RdmnetDevice) : RdmnetDevice × Option DeviceErr :=
  if uids = [] then (d, some .invalid) else
    d.withEndpoint id type fun endpoint =>
      if uids.all fun uid => (rdmnetFindResponderByUid uid endpoint.responders).isSome then
        let endpoint := { endpoint with
          responders := rdmnetRemoveRespondersByUid uids endpoint.responders }
        if d.connectedToBroker then
          let number := endpoint.responderListChangeNumber + 1
          ({ d with changes := d.changes + 1 }.send
            (.endpointResponderListChange id number) |>.notifyEndpointResponderListChange
              { endpoint with responderListChangeNumber := number }, none)
        else (d.notifyEndpointResponderListChange endpoint, none)
      else (d, some .notFound)

def rdmnetDeviceRemoveStaticResponders : UInt16 → List RdmUid → RdmnetDevice →
    RdmnetDevice × Option DeviceErr :=
  removeRespondersByUid .virtual

def rdmnetDeviceRemovePhysicalResponders : UInt16 → List RdmUid → RdmnetDevice →
    RdmnetDevice × Option DeviceErr :=
  removeRespondersByUid .physical

def rdmnetDeviceRemoveDynamicResponders (stale : RdmUid) (id : UInt16) (rids : List Uuid)
    (d : RdmnetDevice) : RdmnetDevice × Option DeviceErr :=
  if rids = [] then (d, some .invalid) else
    d.withEndpoint id .virtual fun endpoint =>
      if rids.all fun rid => (rdmnetFindResponderByRid stale rid endpoint.responders).isSome then
        (d.notifyEndpointResponderListChange { endpoint with
          responders := rdmnetRemoveRespondersByRid stale rids endpoint.responders }, none)
      else (d, some .notFound)

theorem endpointCases {P : RdmnetDevice × Option DeviceErr → Prop} {α : Type} {xs : List α}
    {_ : Decidable (xs = [])} {d : RdmnetDevice} {id : UInt16} {type : DeviceEndpointType}
    {f : DeviceEndpoint → RdmnetDevice × Option DeviceErr} (hfail : ∀ err, P (d, some err))
    (h : ∀ e, findEndpoint id d.endpoints = some e → P (f e)) :
    P (if xs = [] then (d, some .invalid) else d.withEndpoint id type f) := by
  unfold withEndpoint
  split
  · exact hfail _
  split
  · exact hfail _
  · rename_i e hfind
    split_ifs
    · exact h e hfind
    · exact hfail _

theorem forEndpoint {P : RdmnetDevice → Prop} {α : Type} {xs : List α} {_ : Decidable (xs = [])}
    {d : RdmnetDevice} {id : UInt16} {type : DeviceEndpointType}
    {f : DeviceEndpoint → RdmnetDevice × Option DeviceErr} (hd : P d)
    (h : ∀ e, findEndpoint id d.endpoints = some e → P (f e).1) :
    P (if xs = [] then (d, some .invalid) else d.withEndpoint id type f).1 :=
  endpointCases (P := fun r => P r.1) (fun _ => hd) h

end RdmnetDevice

/-! ### Runs -/

/-- The calls that change a device.  The functions for a single endpoint are those for several with a list
of one. -/
inductive DeviceCall
  | addPhysicalEndpoints (capacity : Bool) (pool : Pool) (configs : List PhysicalEndpointConfig)
  | addVirtualEndpoints (capacity : Bool) (pool : Pool) (stale : RdmUid)
      (configs : List VirtualEndpointConfig)
  | removeEndpoints (ids : List UInt16)
  | addStaticResponders (pool : Pool) (id : UInt16) (uids : List RdmUid)
  | addPhysicalResponders (pool : Pool) (id : UInt16) (configs : List PhysicalEndpointResponder)
  | addDynamicResponders (pool : Pool) (stale : RdmUid) (id : UInt16) (rids : List Uuid)
  | removeStaticResponders (id : UInt16) (uids : List RdmUid)
  | removePhysicalResponders (id : UInt16) (uids : List RdmUid)
  | removeDynamicResponders (stale : RdmUid) (id : UInt16) (rids : List Uuid)
  | connected
  | disconnected
  | assignedDynamicUids (stale : RdmUid) (mappings : List RdmnetDynamicUidMapping)

def RdmnetDevice.apply (lib : DeviceLib) (d : RdmnetDevice) : DeviceCall → RdmnetDevice
  | .addPhysicalEndpoints capacity pool configs =>
    (d.rdmnetDeviceAddPhysicalEndpoints capacity pool configs).1
  | .addVirtualEndpoints capacity pool stale configs =>
    (d.rdmnetDeviceAddVirtualEndpoints lib capacity pool stale configs).1
  | .removeEndpoints ids => (d.rdmnetDeviceRemoveEndpoints ids).1
  | .addStaticResponders pool id uids => (d.rdmnetDeviceAddStaticResponders pool id uids).1
  | .addPhysicalResponders pool id configs => (d.rdmnetDeviceAddPhysicalResponders pool id configs).1
  | .addDynamicResponders pool stale id rids =>
    (d.rdmnetDeviceAddDynamicResponders lib pool stale id rids).1
  | .removeStaticResponders id uids => (d.rdmnetDeviceRemoveStaticResponders id uids).1
  | .removePhysicalResponders id uids => (d.rdmnetDeviceRemovePhysicalResponders id uids).1
  | .removeDynamicResponders stale id rids => (d.rdmnetDeviceRemoveDynamicResponders stale id rids).1
  | .connected => d.clientConnected
  | .disconnected => d.clientDisconnected lib
  | .assignedDynamicUids stale mappings => (d.handleAssignedDynamicUids stale mappings).1

def deviceStep (lib : DeviceLib) (call : DeviceCall) (d : RdmnetDevice) : Option RdmnetDevice :=
  some (d.apply lib call)

/-- `RdmnetDeviceConfig`, as far as endpoints are concerned. -/
structure RdmnetDeviceConfig where
  physicalEndpoints : List PhysicalEndpointConfig
  virtualEndpoints : List VirtualEndpointConfig

/-- `rdmnet_device_create` and `create_new_device`: all members of a new device are zero.  A manufacturer ID
is never set. -/
def rdmnetDeviceCreate (lib : DeviceLib) (capacity : Bool) (pool : Pool) (stale : RdmUid)
    (config : RdmnetDeviceConfig) : Option RdmnetDevice :=
  if (config.physicalEndpoints.all fun c => endpointIdValid c.endpointId) ∧
      (config.virtualEndpoints.all fun c => endpointIdValid c.endpointId) then do
    let (physical, pool) ← addPhysicalEndpoints capacity config.physicalEndpoints pool
    let (virtual, _) ← addVirtualEndpoints lib 0 stale capacity config.virtualEndpoints pool
    some ⟨physical ++ virtual, 0, false, 0, [], 0⟩
  else none

end RDMnet
