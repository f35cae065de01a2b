import RDMnet.Client.Slots

/-!
# RDM commands to a controller

A controller that was given RDM data answers commands about its labels and its scopes itself.  SET DEVICE_LABEL
writes a zero behind the data before it looks at the length: data of 33 bytes clears the member behind the label.
-/

namespace RDMnet

open List hiding Vector

/-- The buffer of a label, of `CONTROLLER_RDM_LABEL_BUF_LENGTH` bytes. -/
abbrev RdmLabel := Vector UInt8 33

section Handlers

variable {β ι : Type} (getBuf : Nat → Bool) (header : RdmCommandHeader) (data : Bytes)

/-- `memcpy` to a label: the bytes behind the data stay. -/
def RdmLabel.memcpy (label : RdmLabel) (data : Bytes) : RdmLabel := Vector.ofFn fun i => data.getD i label[i]

/-- `rdmnet_safe_strncpy` to a label: `strncpy` fills up with zeros. -/
def RdmLabel.safeStrncpy (label : RdmLabel) (source : Bytes) : RdmLabel :=
  (label.memcpy (cstr source ++ replicate 33 0)).set 32 0

/-- A label after a SET, which first writes a zero. -/
def RdmLabel.write (label : RdmLabel) (data : Bytes) : RdmLabel :=
  let zeroed : RdmLabel := label.setIfInBounds data.length 0
  if data.length < 33 then zeroed.memcpy data else zeroed.safeStrncpy data

end Handlers

/-! ### The device label -/

section Label

variable {β ι : Type} {getBuf : Nat → Bool} {others : UInt16 → SyncRdmResponse} {data : Bytes}
variable {scopes : List (RCClientScope β ι)} {rdmData : ControllerRdmData}

end Label

end RDMnet
