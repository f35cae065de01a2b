import RDMnet.Broker.Client
import RDMnet.Lib.Table

/-!
# The UIDs of a broker

`BrokerUidManager`: which client has a UID, and which dynamic UID a component was given.
-/

namespace RDMnet

/-! ### The UID manager -/

/-- `BrokerUidManager::ReservationData` -/
structure ReservationData where
  assignedUid : RdmUid
  currentlyConnected : Bool
  deriving DecidableEq

/-- `BrokerUidManager::UidData`; the reservation it points to is that of this component. -/
structure UidData where
  clientHandle : Handle
  reservation : Option Uuid
  deriving DecidableEq

/-- `BrokerUidManager::AddResult` -/
inductive AddResult
  | ok | capacityExceeded | duplicateId
  deriving DecidableEq, Repr

/-- `BrokerUidManager` -/
structure UidManager where
  uidLookup : Table RdmUid UidData
  reservations : Table Uuid ReservationData
  nextDeviceId : UInt32
  maxUidCapacity : Nat

namespace UidManager

/-- `kDefaultMaxUidCapacity` -/
abbrev defaultMaxUidCapacity : Nat := 1000000

def init (nextDeviceId : UInt32) : UidManager := ⟨∅, ∅, nextDeviceId, defaultMaxUidCapacity⟩

/-- `AddStaticUid` -/
def addStaticUid (clientHandle : Handle) (staticUid : RdmUid) (m : UidManager) :
    UidManager × AddResult :=
  if m.maxUidCapacity ≤ m.uidLookup.size then (m, .capacityExceeded)
  else if staticUid ∈ m.uidLookup then (m, .duplicateId)
  else ({ m with uidLookup := m.uidLookup.insertNew staticUid ⟨clientHandle, none⟩ }, .ok)

/-- The loop of `AddDynamicUid` that looks for an ID, and `next_device_id_` after it.  Every ID that it
passes by, but 0, is in use, so that it takes at most two turns more than there are UIDs. -/
def findDynamicUid (uidLookup : Table RdmUid UidData) :
    (turns : Nat) → (newDynamicUid : RdmUid) → (nextDeviceId : UInt32) → RdmUid × UInt32
  | 0, newDynamicUid, nextDeviceId => (newDynamicUid, nextDeviceId)
  | turns + 1, newDynamicUid, nextDeviceId =>
    let newDynamicUid := { newDynamicUid with id := nextDeviceId }
    let nextDeviceId := nextDeviceId + 1
    if nextDeviceId = 1 ∨ newDynamicUid ∈ uidLookup then
      findDynamicUid uidLookup turns newDynamicUid nextDeviceId
    else (newDynamicUid, nextDeviceId)

/-- `AddDynamicUid`; the UID is `new_dynamic_uid` after the call. -/
def addDynamicUid (clientHandle : Handle) (cidOrRid : Uuid) (newDynamicUid : RdmUid)
    (m : UidManager) : UidManager × RdmUid × AddResult :=
  if m.maxUidCapacity ≤ m.uidLookup.size then (m, newDynamicUid, .capacityExceeded)
  else
    match m.reservations.lookup cidOrRid with
    | some reservation =>
      if reservation.currentlyConnected then (m, newDynamicUid, .duplicateId)
      else
        let uid := reservation.assignedUid
        ({ m with
            reservations := m.reservations.insert cidOrRid ⟨uid, true⟩
            uidLookup := m.uidLookup.insertNew uid ⟨clientHandle, some cidOrRid⟩ }, uid, .ok)
    | none =>
      let (uid, next) :=
        findDynamicUid m.uidLookup (m.uidLookup.size + 2) newDynamicUid m.nextDeviceId
      ({ m with
          nextDeviceId := next
          reservations := m.reservations.insertNew cidOrRid ⟨uid, true⟩
          uidLookup := m.uidLookup.insertNew uid ⟨clientHandle, some cidOrRid⟩ }, uid, .ok)

def release (reservation : Option Uuid) (reservations : Table Uuid ReservationData) :
    Table Uuid ReservationData :=
  match reservation with
  | none => reservations
  | some cid =>
    match reservations.lookup cid with
    | none => reservations
    | some r => reservations.insert cid { r with currentlyConnected := false }

/-- `RemoveUid` -/
def removeUid (uid : RdmUid) (m : UidManager) : UidManager :=
  match m.uidLookup.lookup uid with
  | none => m
  | some uidData =>
    { m with
      reservations := release uidData.reservation m.reservations
      uidLookup := m.uidLookup.erase uid }

/-- `UidToHandle` -/
def uidToHandle (uid : RdmUid) (m : UidManager) : Option Handle :=
  (m.uidLookup.lookup uid).map (·.clientHandle)

/-! ### Lookups -/

variable {m m' : UidManager} {h : Handle} {uid : RdmUid}

theorem uidToHandle_eq_some : m.uidToHandle uid = some h ↔ ∃ r, m.uidLookup.lookup uid = some ⟨h, r⟩ := by
  unfold uidToHandle
  rw [Option.map_eq_some_iff]
  constructor
  · rintro ⟨⟨h', r⟩, hlook, rfl⟩
    exact ⟨r, hlook⟩
  · rintro ⟨r, hlook⟩
    exact ⟨_, hlook, rfl⟩

theorem mem_iff_uidToHandle : uid ∈ m.uidLookup ↔ ∃ h, m.uidToHandle uid = some h := by
  rw [Table.mem_iff_lookup]
  constructor
  · rintro ⟨⟨h, r⟩, hlook⟩
    exact ⟨h, uidToHandle_eq_some.mpr ⟨r, hlook⟩⟩
  · rintro ⟨h, hh⟩
    obtain ⟨r, hlook⟩ := uidToHandle_eq_some.mp hh
    exact ⟨_, hlook⟩

theorem uidToHandle_insertNew (hnew : uid ∉ m.uidLookup) {r : Option Uuid}
    (hm : m'.uidLookup = m.uidLookup.insertNew uid ⟨h, r⟩) (u : RdmUid) :
    m'.uidToHandle u = if u = uid then some h else m.uidToHandle u := by
  unfold uidToHandle
  rw [hm, Table.lookup_insertNew hnew]
  split <;> rfl

theorem uidToHandle_removeUid (m : UidManager) (uid u : RdmUid) :
    (m.removeUid uid).uidToHandle u = if u = uid then none else m.uidToHandle u := by
  unfold removeUid
  cases hlook : m.uidLookup.lookup uid with
  | none =>
    by_cases hu : u = uid
    · rw [if_pos hu, hu, uidToHandle, hlook]
      rfl
    · rw [if_neg hu]
  | some d =>
    unfold uidToHandle
    dsimp only
    rw [Table.lookup_erase_eq]
    split <;> rfl

theorem removeUid_of_notMem (hnew : uid ∉ m.uidLookup) : m.removeUid uid = m := by
  unfold removeUid
  rw [AList.lookup_eq_none.mpr hnew]

theorem uidToHandle_takeBack (hnew : uid ∉ m.uidLookup)
    (huids : ∀ u, m'.uidToHandle u = if u = uid then some h else m.uidToHandle u) (u : RdmUid) :
    (m'.removeUid uid).uidToHandle u = m.uidToHandle u := by
  rw [uidToHandle_removeUid, huids]
  by_cases hu : u = uid
  · rw [if_pos hu, hu, uidToHandle, AList.lookup_eq_none.mpr hnew]
    rfl
  · rw [if_neg hu, if_neg hu]

end UidManager

end RDMnet
