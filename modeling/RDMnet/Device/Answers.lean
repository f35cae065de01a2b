import RDMnet.Device.Core

/-!
# The answers of a device

A device answers the requests of E1.37-7 about its endpoints itself, whether they come over RPT or over LLRP;
all others go to the application.
-/

namespace RDMnet

open List

/-! ### Responses -/

/-- `rdm_nack_reason_t`: the codes that the library sends, and those of the application -/
inductive NackReason
  | unknownPid | formatError | hardwareFault | unsupportedCommandClass | dataOutOfRange | unknownScope
  | endpointNumberInvalid | unknownUid
  | other (code : UInt16)
  deriving DecidableEq, Repr

/-- `RdmnetSyncRdmResponse`, with the data that was written to the response buffer -/
inductive SyncRdmResponse
  | sendAck (data : Bytes)
  | sendNack (reason : NackReason)
  | defer
  | retryLater
  deriving DecidableEq

abbrev e137EndpointList : UInt16 := 0x0900
abbrev e137EndpointListChange : UInt16 := 0x0901
abbrev e137EndpointResponders : UInt16 := 0x090b
abbrev e137EndpointResponderListChange : UInt16 := 0x090c
abbrev e137BindingControlFields : UInt16 := 0x090d

abbrev e133NullEndpoint : UInt16 := 0

/-! ### Parameter data -/

def DeviceEndpointType.toByte : DeviceEndpointType → UInt8
  | virtual => 0
  | physical => 1

def endpointListData (number : UInt32) (endpoints : List (UInt16 × DeviceEndpointType)) : Bytes :=
  packU32 number ++ endpoints.flatMap fun e => packU16 e.1 ++ [e.2.toByte]

def endpointRespondersData (id : UInt16) (number : UInt32) (uids : List RdmUid) : Bytes :=
  packU16 id ++ packU32 number ++ uids.flatMap packUid

def RdmnetDevice.listed (d : RdmnetDevice) : List (UInt16 × DeviceEndpointType) :=
  d.endpoints.map fun e => (e.id, e.type)

/-- The UIDs that a device lists for an endpoint: responders that have no dynamic UID yet are left out. -/
def DeviceEndpoint.listed (lib : DeviceLib) (endpoint : DeviceEndpoint) : List RdmUid :=
  (endpoint.responders.map EndpointResponder.uid).filter fun uid => !lib.uidIsDynamicUidRequest uid

/-! ### Handlers

`getBuf` says whether `rc_client_get_internal_response_buf` gets a buffer of a size.  Data of no bytes and a
null pointer are the same here. -/

section Handlers

variable (lib : DeviceLib) (getBuf : Nat → Bool) (d : RdmnetDevice) (header : RdmCommandHeader)

/-- The answer of all handlers to a command that is not a GET; `get` is the rest of the handler. -/
def onGetCommand (get : SyncRdmResponse) : SyncRdmResponse :=
  if header.commandClass ≠ kRdmCCGetCommand then .sendNack .unsupportedCommandClass else get

/-- Send data of `pdLen` bytes, if there is a buffer. -/
def sendData (pdLen : Nat) (data : Bytes) : SyncRdmResponse :=
  if getBuf pdLen then .sendAck data else .sendNack .hardwareFault

def handleEndpointList : SyncRdmResponse :=
  onGetCommand header
    (sendData getBuf (d.endpoints.length * 3 + 4) (endpointListData d.endpointListChangeNumber d.listed))

def handleEndpointListChange : SyncRdmResponse :=
  onGetCommand header (sendData getBuf 4 (packU32 d.endpointListChangeNumber))

/-- The handlers that are about one endpoint: its ID is at the start of at least `minLen` bytes. -/
def onEndpoint (minLen : Nat) (data : Bytes) (get : DeviceEndpoint → SyncRdmResponse) : SyncRdmResponse :=
  if data.length < minLen then .sendNack .formatError else
    match findEndpoint (u16At data 0) d.endpoints with
    | none => .sendNack .endpointNumberInvalid
    | some endpoint => get endpoint

def handleEndpointResponders (data : Bytes) : SyncRdmResponse :=
  onGetCommand header <| onEndpoint d 2 data fun endpoint =>
    sendData getBuf (endpoint.responders.length * 6 + 6)
      (endpointRespondersData (u16At data 0) endpoint.responderListChangeNumber (endpoint.listed lib))

def handleEndpointResponderListChange (data : Bytes) : SyncRdmResponse :=
  onGetCommand header <| onEndpoint d 2 data fun endpoint =>
    sendData getBuf 6 (packU16 (u16At data 0) ++ packU32 endpoint.responderListChangeNumber)

def handleBindingControlFields (data : Bytes) : SyncRdmResponse :=
  onGetCommand header <| onEndpoint d 8 data fun endpoint =>
    let responderUid : RdmUid := ⟨u16At data 2, u32At data 4⟩
    match rdmnetFindResponderByUid responderUid endpoint.responders with
    | none => .sendNack .unknownUid
    | some responder =>
      sendData getBuf 16 (packU16 (u16At data 0) ++ packUid responderUid ++
        packU16 responder.controlField ++ packUid responder.bindingUid)

/-- `handle_rdm_command_internally`, if the command is one that the device handles. -/
def deviceHandleRdmCommandInternally (data : Bytes) : Option SyncRdmResponse :=
  if header.paramId = e137EndpointList then some (handleEndpointList getBuf d header)
  else if header.paramId = e137EndpointListChange then some (handleEndpointListChange getBuf d header)
  else if header.paramId = e137EndpointResponders then
    some (handleEndpointResponders lib getBuf d header data)
  else if header.paramId = e137EndpointResponderListChange then
    some (handleEndpointResponderListChange getBuf d header data)
  else if header.paramId = e137BindingControlFields then
    some (handleBindingControlFields getBuf d header data)
  else none

/-- `client_llrp_msg_received`: the response, and whether it is in the internal buffer; `app` is what the
application answers. -/
def deviceLlrpMsgReceived (app : SyncRdmResponse) (data : Bytes) : SyncRdmResponse × Bool :=
  match deviceHandleRdmCommandInternally lib getBuf d header data with
  | some response => (response, true)
  | none => (app, false)

/-- `client_rpt_msg_received` for an RDM command. -/
def deviceRptMsgReceived (app : SyncRdmResponse) (destEndpoint : UInt16) (data : Bytes) :
    SyncRdmResponse × Bool :=
  if destEndpoint = e133NullEndpoint then
    match deviceHandleRdmCommandInternally lib getBuf d header data with
    | some response => (response, true)
    | none => (app, false)
  else (app, false)

end Handlers

inductive CommandVia
  | rpt | llrp

def RdmnetDevice.answer (lib : DeviceLib) (via : CommandVia) (getBuf : Nat → Bool) (app : SyncRdmResponse)
    (header : RdmCommandHeader) (data : Bytes) (d : RdmnetDevice) : SyncRdmResponse :=
  match via with
  | .rpt => (deviceRptMsgReceived lib getBuf d header app e133NullEndpoint data).1
  | .llrp => (deviceLlrpMsgReceived lib getBuf d header app data).1

/-- Over RPT or LLRP, a device can answer a request for its endpoints with a change number and a list. -/
def RdmnetDevice.AnswersEndpointList (lib : DeviceLib) (d : RdmnetDevice) (number : UInt32)
    (endpoints : List (UInt16 × DeviceEndpointType)) : Prop :=
  ∃ via getBuf app header data, header.paramId = e137EndpointList ∧
    d.answer lib via getBuf app header data = .sendAck (endpointListData number endpoints)

/-- Over RPT or LLRP, a device can answer a request for the responders of an endpoint with a change number
and a list of UIDs. -/
def RdmnetDevice.AnswersEndpointResponders (lib : DeviceLib) (d : RdmnetDevice) (id : UInt16)
    (number : UInt32) (uids : List RdmUid) : Prop :=
  ∃ via getBuf app header data, header.paramId = e137EndpointResponders ∧
    d.answer lib via getBuf app header data = .sendAck (endpointRespondersData id number uids)

section Answers

variable {lib : DeviceLib} {via : CommandVia} {getBuf : Nat → Bool} {app : SyncRdmResponse}
  {header : RdmCommandHeader} {data : Bytes} {d : RdmnetDevice} {number : UInt32}

theorem RdmnetDevice.answer_of_handled {response : SyncRdmResponse}
    (h : deviceHandleRdmCommandInternally lib getBuf d header data = some response) :
    d.answer lib via getBuf app header data = response := by
  cases via <;> simp [answer, deviceRptMsgReceived, deviceLlrpMsgReceived, h]

/-! ### What can be read off an answer -/

theorem packU32_append_inj {a b : UInt32} {x y : Bytes} (h : packU32 a ++ x = packU32 b ++ y) :
    a = b ∧ x = y := by
  obtain ⟨hab, hxy⟩ := append_inj h rfl
  have := congrArg (u32At · 0) hab
  rw [← append_nil (packU32 a), ← append_nil (packU32 b)] at this
  exact ⟨by simpa only [u32At_pack] using this, hxy⟩

theorem packU16_append_inj {a b : UInt16} {x y : Bytes} (h : packU16 a ++ x = packU16 b ++ y) :
    a = b ∧ x = y := by
  obtain ⟨hab, hxy⟩ := append_inj h rfl
  have := congrArg (u16At · 0) hab
  rw [← append_nil (packU16 a), ← append_nil (packU16 b)] at this
  exact ⟨by simpa only [u16At_pack] using this, hxy⟩

theorem flatMap_inj {α : Type} {f : α → Bytes} {n : Nat} (hn : 0 < n) (hlen : ∀ x, (f x).length = n)
    (hinj : ∀ x y, f x = f y → x = y) : ∀ {xs ys : List α}, xs.flatMap f = ys.flatMap f → xs = ys
  | [], [], _ => rfl
  | [], y :: ys, h => by
    have := congrArg List.length h
    simp [hlen] at this
    omega
  | x :: xs, [], h => by
    have := congrArg List.length h
    simp [hlen] at this
    omega
  | x :: xs, y :: ys, h => by
    rw [flatMap_cons, flatMap_cons] at h
    obtain ⟨hxy, hrest⟩ := append_inj h ((hlen x).trans (hlen y).symm)
    rw [hinj x y hxy, flatMap_inj hn hlen hinj hrest]

theorem endpointListData_inj {number' : UInt32} {es es' : List (UInt16 × DeviceEndpointType)}
    (h : endpointListData number es = endpointListData number' es') : number = number' ∧ es = es' := by
  obtain ⟨hnum, hes⟩ := packU32_append_inj h
  refine ⟨hnum, flatMap_inj (n := 3) (by decide) (fun _ => rfl) (fun x y hxy => ?_) hes⟩
  obtain ⟨hid, htype⟩ := packU16_append_inj hxy
  refine Prod.ext hid ?_
  rcases x with ⟨_, _ | _⟩ <;> rcases y with ⟨_, _ | _⟩ <;> simp [DeviceEndpointType.toByte] at htype ⊢

theorem endpointRespondersData_inj {id id' : UInt16} {number' : UInt32} {uids uids' : List RdmUid}
    (h : endpointRespondersData id number uids = endpointRespondersData id' number' uids') :
    id = id' ∧ number = number' ∧ uids = uids' := by
  unfold endpointRespondersData at h
  rw [append_assoc, append_assoc] at h
  obtain ⟨hid, hrest⟩ := packU16_append_inj h
  obtain ⟨hnum, huids⟩ := packU32_append_inj hrest
  refine ⟨hid, hnum, flatMap_inj (n := 6) (by decide) (fun _ => rfl) (fun x y hxy => ?_) huids⟩
  obtain ⟨hmanu, hlast⟩ := packU16_append_inj hxy
  have hlast' : packU32 x.id ++ [] = packU32 y.id ++ [] := by simpa using hlast
  obtain ⟨xm, xi⟩ := x
  obtain ⟨ym, yi⟩ := y
  exact congrArg₂ RdmUid.mk hmanu (packU32_append_inj hlast').1

theorem RdmnetDevice.AnswersEndpointList.eq {es : List (UInt16 × DeviceEndpointType)}
    (h : d.AnswersEndpointList lib number es) : number = d.endpointListChangeNumber ∧ es = d.listed := by
  obtain ⟨via, getBuf, app, header, data, hpid, h⟩ := h
  rw [answer_of_handled (by unfold deviceHandleRdmCommandInternally; rw [if_pos hpid])] at h
  unfold handleEndpointList onGetCommand sendData at h
  split_ifs at h
  obtain ⟨hnum, hes⟩ := endpointListData_inj (SyncRdmResponse.sendAck.inj h)
  exact ⟨hnum.symm, hes.symm⟩

theorem RdmnetDevice.AnswersEndpointResponders.eq {id : UInt16} {uids : List RdmUid}
    (h : d.AnswersEndpointResponders lib id number uids) :
    ∃ endpoint, findEndpoint id d.endpoints = some endpoint ∧
      number = endpoint.responderListChangeNumber ∧ uids = endpoint.listed lib := by
  obtain ⟨via, getBuf, app, header, data, hpid, h⟩ := h
  rw [answer_of_handled (by
    unfold deviceHandleRdmCommandInternally
    rw [if_neg (by rw [hpid]; decide), if_neg (by rw [hpid]; decide), if_pos hpid])] at h
  unfold handleEndpointResponders onGetCommand onEndpoint at h
  split_ifs at h
  split at h
  · cases h
  · rename_i endpoint hfind
    dsimp only [sendData] at h
    split_ifs at h
    obtain ⟨hid, hnum, huids⟩ := endpointRespondersData_inj (SyncRdmResponse.sendAck.inj h)
    exact ⟨endpoint, hid ▸ hfind, hnum.symm, huids.symm⟩

end Answers

end RDMnet
