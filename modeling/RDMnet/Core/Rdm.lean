import RDMnet.Core.Message

/-!
# UIDs and codes

What brokers and clients take from the headers of the library.  The tests on UIDs are macros of the RDM
library; they are parameters, and `RdmLib.Lawful` says all that is assumed of them.
-/

namespace RDMnet

/-! ### UIDs -/

/-- The macros of the RDM library that the broker uses. -/
structure RdmLib where
  /-- `RDMNET_UID_IS_STATIC` -/
  uidIsStatic : RdmUid → Bool
  /-- `RDMNET_UID_IS_DYNAMIC_UID_REQUEST` -/
  uidIsDynamicUidRequest : RdmUid → Bool
  /-- `RDMNET_UID_IS_CONTROLLER_BROADCAST` -/
  uidIsControllerBroadcast : RdmUid → Bool
  /-- `RDMNET_UID_IS_DEVICE_BROADCAST` -/
  uidIsDeviceBroadcast : RdmUid → Bool
  /-- `RDMNET_UID_IS_DEVICE_MANU_BROADCAST` -/
  uidIsDeviceManuBroadcast : RdmUid → Bool
  /-- `RDMNET_DEVICE_BROADCAST_MANU_ID` -/
  deviceBroadcastManuId : RdmUid → UInt16

/-- The highest bit of the manufacturer ID tells dynamic UIDs from static ones. -/
structure RdmLib.Lawful (rdm : RdmLib) : Prop where
  static_manu : ∀ uid, rdm.uidIsStatic uid = true → uid.manu < 0x8000
  dynamic_manu : ∀ uid, rdm.uidIsDynamicUidRequest uid = true → 0x8000 ≤ uid.manu

def RdmLib.reference : RdmLib where
  uidIsStatic := fun uid => uid.manu < 0x8000
  uidIsDynamicUidRequest := fun uid => 0x8000 ≤ uid.manu ∧ uid.manu < 0xfff0 ∧ uid.id = 0
  uidIsControllerBroadcast := fun uid => uid.manu = 0xfffc ∧ uid.id = 0xffffffff
  uidIsDeviceBroadcast := fun uid => uid.manu = 0xfffd ∧ uid.id = 0xffffffff
  uidIsDeviceManuBroadcast := fun uid =>
    uid.manu = 0xfffd ∧ uid.id % 0x10000 = 0xffff ∧ uid.id ≠ 0xffffffff
  deviceBroadcastManuId := fun uid => (uid.id / 0x10000).toUInt16

theorem RdmLib.reference_lawful : RdmLib.reference.Lawful where
  static_manu := fun _ h => of_decide_eq_true h
  dynamic_manu := fun _ h => (of_decide_eq_true h).1

/-! ### Codes -/

abbrev e133Version : UInt16 := 1

/-- `rdmnet_connect_status_t` -/
abbrev kRdmnetConnectOk : UInt16 := 0
abbrev kRdmnetConnectScopeMismatch : UInt16 := 1
abbrev kRdmnetConnectCapacityExceeded : UInt16 := 2
abbrev kRdmnetConnectDuplicateUid : UInt16 := 3
abbrev kRdmnetConnectInvalidClientEntry : UInt16 := 4
abbrev kRdmnetConnectInvalidUid : UInt16 := 5

/-- `rpt_client_type_t` -/
abbrev kRPTClientTypeDevice : UInt32 := 0
abbrev kRPTClientTypeController : UInt32 := 1

end RDMnet
