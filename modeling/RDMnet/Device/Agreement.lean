import RDMnet.Device.EndpointIds

/-!
# Answers about responders

GET ENDPOINT_RESPONDERS goes through the responders of an endpoint; GET BINDING_CONTROL_FIELDS searches them
for a UID, and finds a responder only if it has no responder ID.  A responder with a dynamic UID is listed and
not found.  A responder without a responder ID whose UID is a request for a dynamic UID is found and not listed.
-/

namespace RDMnet

open List

section Agreement

variable {lib : DeviceLib} {d : RdmnetDevice} {id : UInt16} {uid : RdmUid} {e : DeviceEndpoint}

/-- What a device answers to a GET command, whichever way it comes, if there is a buffer. -/
def RdmnetDevice.Gets (lib : DeviceLib) (d : RdmnetDevice) (paramId : UInt16) (data : Bytes)
    (response : SyncRdmResponse) : Prop :=
  ∀ via app header, header.commandClass = kRdmCCGetCommand → header.paramId = paramId →
    d.answer lib via (fun _ => true) app header data = response

end Agreement

end RDMnet
