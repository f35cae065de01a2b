import RDMnet.Conn.Machine
import RDMnet.Lib.Fragments
import RDMnet.Prot.RoundTrip

/-!
# Sending messages on a connection

The functions of `broker_prot.c` and `rpt_prot.c` with which a client sends.  Each offers the headers
and the data of its message to the socket one after another, and `rc_send` offers a part again only if
the socket would block.  What a function did that has returned is compared with the message that the
packing function gives.
-/

namespace RDMnet

open List

/-- `EPT_PROTOCOL_ENTRY_SIZE` -/
abbrev eptProtocolEntrySize : Nat := 36

/-- What a function that sends returns if it does not return `kEtcPalErrOk`. -/
inductive SendErr
  | protocol | invalid
  /-- An error of `etcpal_send`. -/
  | socket (err : EtcPalErr)
  deriving DecidableEq, Repr

/-- A function that sends on a socket. -/
abbrev Sends := Sending SendErr UInt8

/-- `RdmnetEptSubProtocol` -/
structure EptSubProtocol where
  manufacturerId : UInt16
  protocolId : UInt16
  protocolString : CString 32

/-- What is packed does not depend on the room in the buffer, as long as there is enough. -/
structure EtcPal.Uniform (pal : EtcPal) : Prop where
  preamble : ∀ buflen buflen' n, acnTcpPreambleSize ≤ buflen → acnTcpPreambleSize ≤ buflen' →
    pal.acnPackTcpPreamble buflen n = pal.acnPackTcpPreamble buflen' n
  root : ∀ buflen buflen' rlp, acnRlpHeaderSizeExtLen ≤ buflen → acnRlpHeaderSizeExtLen ≤ buflen' →
    pal.acnPackRootLayerHeader buflen rlp = pal.acnPackRootLayerHeader buflen' rlp

theorem EtcPal.reference_uniform : EtcPal.reference.Uniform where
  preamble := fun _ _ n h h' => by simp only [EtcPal.reference, if_pos h, if_pos h']
  root := fun _ _ rlp h h' => by simp only [EtcPal.reference, if_pos h, if_pos h']

structure SendConn where
  localCid : Uuid
  sendTimer : EtcPalTimer

namespace Sends

/-- `rc_send`, with the check of its result. -/
def rcSend (message : Bytes) : Sends Unit := offerChecked (.socket .wouldBlock) message

/-- `rc_send` without a check of its result. -/
def rcSendUnchecked (message : Bytes) : Sends Unit := offerUnchecked (.socket .wouldBlock) message

/-- `etcpal_timer_reset(&conn->send_timer)` -/
def resetSendTimer (now : Nat) (conn : SendConn) : SendConn :=
  { conn with sendTimer.resetTime := now }

section Functions

variable (pal : EtcPal)

/-! ### Headers -/

/-- The TCP preamble, the root layer header and the header of the PDU, each packed into the same
buffer and sent. -/
def sendHeader (rlp : AcnRootLayerPdu) (buflen : Nat) (header : Bytes) : Sends Unit :=
  let dataSize := pal.acnRootLayerBufSize rlp
  if dataSize = 0 then throw .protocol else
    let preamble := pal.acnPackTcpPreamble buflen dataSize
    if preamble = [] then throw .protocol else do
      rcSend preamble
      let root := pal.acnPackRootLayerHeader buflen rlp
      if root = [] then throw .protocol else do
        rcSend root
        rcSend header

/-- `send_broker_header` -/
def sendBrokerHeader (rlp : AcnRootLayerPdu) (buflen : Nat) (vector : UInt16) : Sends Unit :=
  sendHeader pal rlp buflen (packBrokerHeader pal rlp.dataLen vector)

/-- `send_rpt_header` -/
def sendRptHeader (rlp : AcnRootLayerPdu) (vector : UInt32) (header : RptHeader) (buflen : Nat) :
    Sends Unit :=
  sendHeader pal rlp buflen (packRptHeader pal rlp.dataLen vector header)

/-! ### Broker messages -/

def packEptSubProtocol (prot : EptSubProtocol) : Bytes :=
  packU16 prot.manufacturerId ++ packU16 prot.protocolId ++ prot.protocolString.padded

/-- `calc_client_connect_len`; `protocols` are those of an EPT client. -/
def calcClientConnectLen (data : BrokerClientConnectMsg) (protocols : List EptSubProtocol) : Nat :=
  if data.clientEntry.clientProtocol = kClientProtocolRPT then
    brokerPduHeaderSize + clientConnectDataMinSize + rptClientEntryDataSize
  else if data.clientEntry.clientProtocol = kClientProtocolEPT then
    brokerPduHeaderSize + clientConnectDataMinSize + eptProtocolEntrySize * protocols.length
  else 0

/-- `rc_broker_send_client_connect`: the result of sending the header of the Client Entry is not
looked at. -/
def rcBrokerSendClientConnect (conn : SendConn) (now : Nat) (data : BrokerClientConnectMsg)
    (protocols : List EptSubProtocol) : Sends SendConn :=
  if ¬ (data.clientEntry.clientProtocol = kClientProtocolRPT ∨
      data.clientEntry.clientProtocol = kClientProtocolEPT) then throw .protocol
  else do
    let dataLen := calcClientConnectLen data protocols
    sendBrokerHeader pal (brokerRlp conn.localCid dataLen) clientConnectCommonFieldSize
      BrokerKind.connect.vector
    rcSend (packClientConnectCommon data)
    rcSendUnchecked (packClientEntryHeader pal
      (dataLen - (brokerPduHeaderSize + clientConnectCommonFieldSize))
      data.clientEntry.clientProtocol data.clientEntry.data.cid)
    if data.clientEntry.clientProtocol = kClientProtocolRPT then
      rcSend (packRptClientEntryData data.clientEntry.data)
    else
      protocols.forM fun prot => rcSend (packEptSubProtocol prot)
    pure (resetSendTimer now conn)

/-- `rc_broker_send_fetch_client_list` -/
def rcBrokerSendFetchClientList (localCid : Uuid) : Sends Unit :=
  sendBrokerHeader pal (brokerRlp localCid brokerPduHeaderSize) acnRlpHeaderSizeExtLen
    BrokerKind.fetchClientList.vector

/-- `rc_broker_send_request_dynamic_uids` -/
def rcBrokerSendRequestDynamicUids (localCid : Uuid) (manufacturerId : UInt16) (rids : List Uuid) :
    Sends Unit :=
  if rids = [] then throw .invalid else do
    sendBrokerHeader pal
      (brokerRlp localCid (brokerPduHeaderSize + rids.length * dynamicUidRequestPairSize))
      acnRlpHeaderSizeExtLen BrokerKind.requestDynamicUids.vector
    rids.forM fun rid => rcSend (packDynamicUidRequest manufacturerId rid)

/-- `rc_broker_send_fetch_uid_assignment_list` -/
def rcBrokerSendFetchUidAssignmentList (localCid : Uuid) (uids : List RdmUid) : Sends Unit :=
  if uids = [] then throw .invalid else do
    sendBrokerHeader pal (brokerRlp localCid (brokerPduHeaderSize + uids.length * fetchUidSize))
      acnRlpHeaderSizeExtLen BrokerKind.fetchDynamicUidList.vector
    uids.forM fun uid => rcSend (packUid uid)

/-- `rc_broker_send_disconnect` -/
def rcBrokerSendDisconnect (conn : SendConn) (now : Nat) (reason : UInt16) : Sends SendConn := do
  sendBrokerHeader pal (brokerRlp conn.localCid (brokerPduHeaderSize + disconnectDataSize))
    acnRlpHeaderSizeExtLen BrokerKind.disconnect.vector
  rcSend (packU16 reason)
  pure (resetSendTimer now conn)

/-- `rc_broker_send_null` -/
def rcBrokerSendNull (conn : SendConn) (now : Nat) : Sends SendConn := do
  sendBrokerHeader pal (brokerRlp conn.localCid brokerPduHeaderSize) acnRlpHeaderSizeExtLen
    BrokerKind.null.vector
  pure (resetSendTimer now conn)

/-! ### RPT messages -/

/-- `rc_rpt_send_request` -/
def rcRptSendRequest (localCid : Uuid) (header : RptHeader) (cmd : RdmBuffer) : Sends Unit := do
  let rlp := rptRlp localCid (rptPduHeaderSize + calcRequestPduSize cmd)
  sendRptHeader pal rlp vectorRptRequest header rdmCmdPduMaxSize
  rcSend (packRequestNotifHeader pal (rlp.dataLen - rptPduHeaderSize) vectorRequestRdmCmd)
  rcSend (packRdmCmdPdu pal cmd)

/-- `rc_rpt_send_status` -/
def rcRptSendStatus (localCid : Uuid) (header : RptHeader) (status : RptStatusMsg) : Sends Unit := do
  let statusPduSize := calcStatusPduSize status
  sendRptHeader pal (rptRlp localCid (rptPduHeaderSize + statusPduSize)) vectorRptStatus header
    rptPduHeaderSize
  rcSend (pal.acnPduPackExtLen statusPduSize ++ packU16 status.statusCode)
  if statusPduSize > rptStatusHeaderSize then rcSend status.chars else pure ()

/-- `rc_rpt_send_notification` -/
def rcRptSendNotification (localCid : Uuid) (header : RptHeader) (cmds : List RdmBuffer) :
    Sends Unit :=
  if cmds = [] then throw .invalid else do
    let notifPduSize := calcNotificationPduSize cmds
    sendRptHeader pal (rptRlp localCid (rptPduHeaderSize + notifPduSize)) vectorRptNotification header
      rdmCmdPduMaxSize
    rcSend (packRequestNotifHeader pal notifPduSize vectorNotificationRdmCmd)
    cmds.forM fun cmd => rcSend (packRdmCmdPdu pal cmd)

end Functions

end Sends

/-! ### The messages -/

/-- A message, by the function it is passed to. -/
inductive ClientMessage
  | clientConnect (data : BrokerClientConnectMsg) (protocols : List EptSubProtocol)
  | fetchClientList (localCid : Uuid)
  | requestDynamicUids (localCid : Uuid) (manufacturerId : UInt16) (rids : List Uuid)
  | fetchUidAssignmentList (localCid : Uuid) (uids : List RdmUid)
  | disconnect (reason : UInt16)
  | null
  | request (localCid : Uuid) (header : RptHeader) (cmd : RdmBuffer)
  | status (localCid : Uuid) (header : RptHeader) (msg : RptStatusMsg)
  | notification (localCid : Uuid) (header : RptHeader) (cmds : List RdmBuffer)

namespace ClientMessage

def send (pal : EtcPal) (conn : SendConn) (now : Nat) : ClientMessage → Sends SendConn
  | .clientConnect data protocols => .rcBrokerSendClientConnect pal conn now data protocols
  | .fetchClientList localCid => do
    Sends.rcBrokerSendFetchClientList pal localCid
    pure conn
  | .requestDynamicUids localCid manufacturerId rids => do
    Sends.rcBrokerSendRequestDynamicUids pal localCid manufacturerId rids
    pure conn
  | .fetchUidAssignmentList localCid uids => do
    Sends.rcBrokerSendFetchUidAssignmentList pal localCid uids
    pure conn
  | .disconnect reason => .rcBrokerSendDisconnect pal conn now reason
  | .null => .rcBrokerSendNull pal conn now
  | .request localCid header cmd => do
    Sends.rcRptSendRequest pal localCid header cmd
    pure conn
  | .status localCid header msg => do
    Sends.rcRptSendStatus pal localCid header msg
    pure conn
  | .notification localCid header cmds => do
    Sends.rcRptSendNotification pal localCid header cmds
    pure conn

def eptClientConnect (pal : EtcPal) (localCid : Uuid) (data : BrokerClientConnectMsg)
    (protocols : List EptSubProtocol) : Bytes :=
  let dataLen := brokerPduHeaderSize + clientConnectDataMinSize + eptProtocolEntrySize * protocols.length
  packHeaderWithRlp pal (brokerRlp localCid dataLen) brokerPduFullHeaderSize
      (packBrokerHeader pal dataLen BrokerKind.connect.vector) ++
    packClientConnectCommon data ++
    packClientEntryHeader pal (dataLen - (brokerPduHeaderSize + clientConnectCommonFieldSize))
      kClientProtocolEPT data.clientEntry.data.cid ++
    protocols.flatMap Sends.packEptSubProtocol

/-- The complete encoding: what the packing function gives for a buffer of the right size, or, where
there is none, what is sent if nothing fails; nothing if the arguments are not valid. -/
def encoding (pal : EtcPal) (conn : SendConn) : ClientMessage → Bytes
  | .clientConnect data protocols =>
    if data.clientEntry.clientProtocol = kClientProtocolEPT then
      eptClientConnect pal conn.localCid data protocols
    else (Outgoing.clientConnect data).bytes pal conn.localCid
  | .fetchClientList localCid => Outgoing.fetchClientList.bytes pal localCid
  | .requestDynamicUids localCid manufacturerId rids =>
    (Outgoing.requestDynamicUids manufacturerId rids).bytes pal localCid
  | .fetchUidAssignmentList localCid uids => (Outgoing.fetchUidAssignmentList uids).bytes pal localCid
  | .disconnect reason =>
    (Outgoing.disconnect (brokerPduFullHeaderSize + disconnectDataSize) reason).bytes pal conn.localCid
  | .null => (Outgoing.null brokerPduFullHeaderSize).bytes pal conn.localCid
  | .request localCid header cmd =>
    (Outgoing.request (rptPduFullHeaderSize + calcRequestPduSize cmd) header cmd).bytes pal localCid
  | .status localCid header msg =>
    (Outgoing.status (rptPduFullHeaderSize + calcStatusPduSize msg) header msg).bytes pal localCid
  | .notification localCid header cmds =>
    (Outgoing.notification (rptPduFullHeaderSize + calcNotificationPduSize cmds) header cmds).bytes pal
      localCid

/-- The error of a call whose arguments are not valid. -/
def refusal : ClientMessage → Option SendErr
  | .clientConnect data _ =>
    if data.clientEntry.clientProtocol = kClientProtocolRPT ∨
      data.clientEntry.clientProtocol = kClientProtocolEPT then none else some .protocol
  | .requestDynamicUids _ _ rids => if rids = [] then some .invalid else none
  | .fetchUidAssignmentList _ uids => if uids = [] then some .invalid else none
  | .notification _ _ cmds => if cmds = [] then some .invalid else none
  | _ => none

/-- The connection after a call that returns `kEtcPalErrOk`. -/
def after (conn : SendConn) (now : Nat) : ClientMessage → SendConn
  | .clientConnect .. => Sends.resetSendTimer now conn
  | .disconnect _ => Sends.resetSendTimer now conn
  | .null => Sends.resetSendTimer now conn
  | _ => conn

def headerFragments (pal : EtcPal) (rlp : AcnRootLayerPdu) (buflen : Nat) (header : Bytes) :
    List (Fragment UInt8) :=
  [⟨pal.acnPackTcpPreamble buflen (pal.acnRootLayerBufSize rlp), true⟩,
    ⟨pal.acnPackRootLayerHeader buflen rlp, true⟩, ⟨header, true⟩]

def brokerFragments (pal : EtcPal) (localCid : Uuid) (dataLen buflen : Nat) (vector : UInt16) :
    List (Fragment UInt8) :=
  headerFragments pal (brokerRlp localCid dataLen) buflen (packBrokerHeader pal dataLen vector)

def rptFragments (pal : EtcPal) (localCid : Uuid) (dataLen buflen : Nat) (vector : UInt32)
    (header : RptHeader) : List (Fragment UInt8) :=
  headerFragments pal (rptRlp localCid dataLen) buflen (packRptHeader pal dataLen vector header)

def fragments (pal : EtcPal) (conn : SendConn) : ClientMessage → List (Fragment UInt8)
  | .clientConnect data protocols =>
    let dataLen := Sends.calcClientConnectLen data protocols
    brokerFragments pal conn.localCid dataLen clientConnectCommonFieldSize BrokerKind.connect.vector ++
      ⟨packClientConnectCommon data, true⟩ ::
      ⟨packClientEntryHeader pal (dataLen - (brokerPduHeaderSize + clientConnectCommonFieldSize))
        data.clientEntry.clientProtocol data.clientEntry.data.cid, false⟩ ::
      (if data.clientEntry.clientProtocol = kClientProtocolRPT then
        [⟨packRptClientEntryData data.clientEntry.data, true⟩]
      else protocols.map fun prot => ⟨Sends.packEptSubProtocol prot, true⟩)
  | .fetchClientList localCid =>
    brokerFragments pal localCid brokerPduHeaderSize acnRlpHeaderSizeExtLen
      BrokerKind.fetchClientList.vector
  | .requestDynamicUids localCid manufacturerId rids =>
    brokerFragments pal localCid (brokerPduHeaderSize + rids.length * dynamicUidRequestPairSize)
        acnRlpHeaderSizeExtLen BrokerKind.requestDynamicUids.vector ++
      rids.map fun rid => ⟨packDynamicUidRequest manufacturerId rid, true⟩
  | .fetchUidAssignmentList localCid uids =>
    brokerFragments pal localCid (brokerPduHeaderSize + uids.length * fetchUidSize)
        acnRlpHeaderSizeExtLen BrokerKind.fetchDynamicUidList.vector ++
      uids.map fun uid => ⟨packUid uid, true⟩
  | .disconnect reason =>
    brokerFragments pal conn.localCid (brokerPduHeaderSize + disconnectDataSize) acnRlpHeaderSizeExtLen
      BrokerKind.disconnect.vector ++ [⟨packU16 reason, true⟩]
  | .null =>
    brokerFragments pal conn.localCid brokerPduHeaderSize acnRlpHeaderSizeExtLen BrokerKind.null.vector
  | .request localCid header cmd =>
    rptFragments pal localCid (rptPduHeaderSize + calcRequestPduSize cmd) rdmCmdPduMaxSize
        vectorRptRequest header ++
      [⟨packRequestNotifHeader pal (calcRequestPduSize cmd) vectorRequestRdmCmd, true⟩,
        ⟨packRdmCmdPdu pal cmd, true⟩]
  | .status localCid header msg =>
    rptFragments pal localCid (rptPduHeaderSize + calcStatusPduSize msg) rptPduHeaderSize
        vectorRptStatus header ++
      ⟨pal.acnPduPackExtLen (calcStatusPduSize msg) ++ packU16 msg.statusCode, true⟩ ::
      (if calcStatusPduSize msg > rptStatusHeaderSize then [⟨msg.chars, true⟩] else [])
  | .notification localCid header cmds =>
    rptFragments pal localCid (rptPduHeaderSize + calcNotificationPduSize cmds) rdmCmdPduMaxSize
        vectorRptNotification header ++
      ⟨packRequestNotifHeader pal (calcNotificationPduSize cmds) vectorNotificationRdmCmd, true⟩ ::
      cmds.map fun cmd => ⟨packRdmCmdPdu pal cmd, true⟩

/-! ### A call offers the fragments of its message -/

variable {pal : EtcPal} {conn : SendConn} {now : Nat}

/-- The error upon which `rc_send` offers the same bytes again. -/
abbrev blocked : SendErr := .socket .wouldBlock

theorem sendHeader_eq (hpk : pal.Packs) (rlp : AcnRootLayerPdu) {buflen : Nat}
    (hbuf : acnRlpHeaderSizeExtLen ≤ buflen) (header : Bytes) : Sends.sendHeader pal rlp buflen header =
      sendFragments blocked (headerFragments pal rlp buflen header) := by
  obtain ⟨-, -, hne, -⟩ := headers_packed hpk rlp (le_trans (by decide) hbuf) hbuf
  simp only [not_or] at hne
  unfold Sends.sendHeader
  dsimp only
  rw [if_neg hne.1, if_neg hne.2.1, if_neg hne.2.2]
  simp only [headerFragments, sendFragments_cons, sendFragments_nil, bind_pure_unit]
  rfl

theorem sendBrokerHeader_eq (hpk : pal.Packs) (localCid : Uuid) (dataLen : Nat) {buflen : Nat}
    (hbuf : acnRlpHeaderSizeExtLen ≤ buflen) (vector : UInt16) :
    Sends.sendBrokerHeader pal (brokerRlp localCid dataLen) buflen vector =
      sendFragments blocked (brokerFragments pal localCid dataLen buflen vector) :=
  sendHeader_eq hpk _ hbuf _

theorem sendRptHeader_eq (hpk : pal.Packs) (localCid : Uuid) (dataLen : Nat) {buflen : Nat}
    (hbuf : acnRlpHeaderSizeExtLen ≤ buflen) (vector : UInt32) (header : RptHeader) :
    Sends.sendRptHeader pal (rptRlp localCid dataLen) vector header buflen =
      sendFragments blocked (rptFragments pal localCid dataLen buflen vector header) :=
  sendHeader_eq hpk _ hbuf _

theorem rcSend_eq (bytes : Bytes) : Sends.rcSend bytes = Fragment.send blocked ⟨bytes, true⟩ := rfl

theorem rcSendUnchecked_eq (bytes : Bytes) :
    Sends.rcSendUnchecked bytes = Fragment.send blocked ⟨bytes, false⟩ := rfl

theorem forM_rcSend {α : Type} (pack : α → Bytes) (xs : List α) : xs.forM (fun x => Sends.rcSend (pack x)) =
      sendFragments blocked (xs.map fun x => ⟨pack x, true⟩) := forM_offerChecked _ pack xs

def offerAll (pal : EtcPal) (conn : SendConn) (now : Nat) (msg : ClientMessage) : Sends SendConn :=
  match msg.refusal with
  | some e => throw e
  | none => do
    sendFragments blocked (msg.fragments pal conn)
    pure (msg.after conn now)

theorem rcRptSendNotification_eq (hpk : pal.Packs) (localCid : Uuid) (header : RptHeader)
    {cmds : List RdmBuffer} (hcmds : cmds ≠ []) : Sends.rcRptSendNotification pal localCid header cmds =
      sendFragments blocked ((notification localCid header cmds).fragments pal conn) := by
  rw [Sends.rcRptSendNotification, if_neg hcmds]
  dsimp only
  rw [sendRptHeader_eq hpk _ _ (by decide)]
  simp only [fragments, sendFragments_append, sendFragments_cons, ← forM_rcSend, rcSend_eq]

theorem send_eq (hpk : pal.Packs) (msg : ClientMessage) :
    msg.send pal conn now = msg.offerAll pal conn now := by
  cases msg with
  | clientConnect data protocols =>
    simp only [send, Sends.rcBrokerSendClientConnect, offerAll, refusal]
    by_cases hproto : data.clientEntry.clientProtocol = kClientProtocolRPT ∨
        data.clientEntry.clientProtocol = kClientProtocolEPT
    · rw [if_neg (not_not.mpr hproto), if_pos hproto, sendBrokerHeader_eq hpk _ _ (by decide)]
      simp only [fragments, sendFragments_append, sendFragments_cons, bind_assoc, rcSend_eq,
        rcSendUnchecked_eq, after]
      by_cases hrpt : data.clientEntry.clientProtocol = kClientProtocolRPT
      · simp only [if_pos hrpt, sendFragments_cons, sendFragments_nil, bind_pure_unit]
      · simp only [if_neg hrpt, ← forM_rcSend, rcSend_eq]
    · rw [if_pos hproto, if_neg hproto]
  | fetchClientList localCid =>
    simp only [send, offerAll, refusal, fragments, after, Sends.rcBrokerSendFetchClientList]
    rw [sendBrokerHeader_eq hpk _ _ le_rfl]
  | requestDynamicUids localCid manufacturerId rids =>
    simp only [send, offerAll, refusal, fragments, after, Sends.rcBrokerSendRequestDynamicUids]
    by_cases hrids : rids = []
    · rw [if_pos hrids, if_pos hrids]
      rfl
    · rw [if_neg hrids, if_neg hrids, sendBrokerHeader_eq hpk _ _ le_rfl]
      simp only [sendFragments_append, bind_assoc, ← forM_rcSend]
  | fetchUidAssignmentList localCid uids =>
    simp only [send, offerAll, refusal, fragments, after, Sends.rcBrokerSendFetchUidAssignmentList]
    by_cases huids : uids = []
    · rw [if_pos huids, if_pos huids]
      rfl
    · rw [if_neg huids, if_neg huids, sendBrokerHeader_eq hpk _ _ le_rfl]
      simp only [sendFragments_append, bind_assoc, ← forM_rcSend]
  | disconnect reason =>
    simp only [send, offerAll, refusal, fragments, after, Sends.rcBrokerSendDisconnect]
    rw [sendBrokerHeader_eq hpk _ _ le_rfl]
    simp only [sendFragments_append, sendFragments_cons, sendFragments_nil, bind_assoc, pure_bind, rcSend_eq]
  | null =>
    simp only [send, offerAll, refusal, fragments, after, Sends.rcBrokerSendNull]
    rw [sendBrokerHeader_eq hpk _ _ le_rfl]
  | request localCid header cmd =>
    simp only [send, offerAll, refusal, fragments, after, Sends.rcRptSendRequest]
    rw [sendRptHeader_eq hpk _ _ (by decide)]
    simp only [sendFragments_append, sendFragments_cons, sendFragments_nil, bind_assoc, pure_bind,
      rcSend_eq, rptRlp, Nat.add_sub_cancel_left]
  | status localCid header msg =>
    simp only [send, offerAll, refusal, fragments, after, Sends.rcRptSendStatus]
    rw [sendRptHeader_eq hpk _ _ (by decide)]
    by_cases hlen : calcStatusPduSize msg > rptStatusHeaderSize
    · simp only [if_pos hlen, sendFragments_append, sendFragments_cons, sendFragments_nil, bind_assoc,
        pure_bind, rcSend_eq]
    · simp only [if_neg hlen, sendFragments_append, sendFragments_cons, sendFragments_nil, bind_assoc,
        pure_bind, rcSend_eq]
  | notification localCid header cmds =>
    simp only [send, offerAll, refusal, after]
    by_cases hcmds : cmds = []
    · rw [Sends.rcRptSendNotification, if_pos hcmds, if_pos hcmds]
      rfl
    · rw [if_neg hcmds, rcRptSendNotification_eq hpk localCid header hcmds]

/-! ### The fragments make up the message -/

theorem headerFragments_send (hpk : pal.Packs) (rlp : AcnRootLayerPdu) {buflen : Nat}
    (hbuf : acnRlpHeaderSizeExtLen ≤ buflen) (header : Bytes) : RDMnet.sendHeader pal rlp buflen header =
      some ((headerFragments pal rlp buflen header).flatMap (·.bytes)) := by
  obtain ⟨-, -, hne, -⟩ := headers_packed hpk rlp (le_trans (by decide) hbuf) hbuf
  rw [RDMnet.sendHeader, if_neg hne]
  simp [headerFragments]

theorem headerFragments_pack (hpk : pal.Packs) (hu : pal.Uniform) (rlp : AcnRootLayerPdu)
    (buflen : Nat) {buflen' : Nat} (hbuf : acnRlpHeaderSizeExtLen ≤ buflen) (hbuf' : 39 ≤ buflen')
    (header : Bytes) :
    packHeaderWithRlp pal rlp buflen' header = (headerFragments pal rlp buflen header).flatMap (·.bytes) := by
  have h16 : acnTcpPreambleSize ≤ buflen' := show 16 ≤ buflen' by omega
  have hlen : (pal.acnPackTcpPreamble buflen' (pal.acnRootLayerBufSize rlp)).length = 16 :=
    hpk.preamble_length _ _ h16
  have hpack : packHeaderWithRlp pal rlp buflen' header =
      (RDMnet.sendHeader pal rlp buflen header).getD [] := by
    rw [packHeaderWithRlp, RDMnet.sendHeader, hu.root _ buflen rlp (show 23 ≤ _ by omega) hbuf,
      hu.preamble buflen' buflen _ h16 (le_trans (by decide) hbuf)]
    split <;> rfl
  rw [hpack, headerFragments_send hpk rlp hbuf header]
  rfl

theorem packBehind_fragments (hpk : pal.Packs) (hu : pal.Uniform) {rlp : AcnRootLayerPdu}
    (buflen : Nat) {buflen' : Nat} (hbuf : acnRlpHeaderSizeExtLen ≤ buflen) (hbuf' : 39 ≤ buflen')
    (header data : Bytes) : packBehind (packHeaderWithRlp pal rlp buflen' header) (some data) =
      (headerFragments pal rlp buflen header).flatMap (·.bytes) ++ data := by
  have hlen : (packHeaderWithRlp pal rlp buflen' header).length = 38 + header.length + 1 :=
    (packHeaderWithRlp_framed hpk rlp header hbuf').1.trans (Nat.add_right_comm 38 1 _)
  rw [(packBehind_eq hlen data).1, headerFragments_pack hpk hu rlp buflen hbuf hbuf']

theorem flatMap_checked {α : Type} (pack : α → Bytes) (xs : List α) :
    (xs.map fun x => (⟨pack x, true⟩ : Fragment UInt8)).flatMap (·.bytes) = xs.flatMap pack := by
  rw [flatMap_map]

theorem encoding_eq (hpk : pal.Packs) (hu : pal.Uniform) (msg : ClientMessage) (hok : msg.refusal = none) :
    msg.encoding pal conn = (msg.fragments pal conn).flatMap (·.bytes) := by
  have hrpt (n : Nat) : 39 ≤ rptPduFullHeaderSize + n :=
    le_trans (by decide) (Nat.le_add_right ..)
  cases msg with
  | clientConnect data protocols =>
    have hproto : data.clientEntry.clientProtocol = kClientProtocolRPT ∨
        data.clientEntry.clientProtocol = kClientProtocolEPT := by
      by_contra h
      rw [refusal, if_neg h] at hok
      cases hok
    rcases hproto with hrpt | hept
    · have hne : data.clientEntry.clientProtocol ≠ kClientProtocolEPT := by
        rw [hrpt]
        decide
      rw [encoding, if_neg hne, Outgoing.bytes, RDMnet.rcBrokerSendClientConnect,
        if_neg (not_not.mpr hrpt), RDMnet.sendBrokerHeader, headerFragments_send hpk _ (by decide)]
      simp only [fragments, Sends.calcClientConnectLen, if_pos hrpt, flatMap_append,
        flatMap_cons, flatMap_nil, append_nil, Option.map_some, Option.getD_some,
        packClientConnectCommon, append_assoc]
      rfl
    · have hne : data.clientEntry.clientProtocol ≠ kClientProtocolRPT := by
        rw [hept]
        decide
      rw [encoding, if_pos hept, eptClientConnect,
        headerFragments_pack hpk hu _ clientConnectCommonFieldSize (by decide) (by decide)]
      simp only [fragments, Sends.calcClientConnectLen, if_neg hne, if_pos hept,
        flatMap_append, flatMap_cons, flatMap_checked, append_assoc]
      rw [hept]
      rfl
  | fetchClientList localCid =>
    simp only [encoding, Outgoing.bytes, RDMnet.rcBrokerSendFetchClientList, RDMnet.sendBrokerHeader]
    rw [headerFragments_send hpk _ le_rfl]
    rfl
  | requestDynamicUids localCid manufacturerId rids =>
    have hrids : rids ≠ [] := by simpa [refusal] using hok
    simp only [encoding, Outgoing.bytes, RDMnet.rcBrokerSendRequestDynamicUids, if_neg hrids,
      RDMnet.sendBrokerHeader]
    rw [headerFragments_send hpk _ le_rfl]
    simp only [fragments, flatMap_append, flatMap_checked]
    rfl
  | fetchUidAssignmentList localCid uids =>
    have huids : uids ≠ [] := by simpa [refusal] using hok
    simp only [encoding, Outgoing.bytes, RDMnet.rcBrokerSendFetchUidAssignmentList, if_neg huids,
      RDMnet.sendBrokerHeader]
    rw [headerFragments_send hpk _ le_rfl]
    simp only [fragments, flatMap_append, flatMap_checked]
    rfl
  | disconnect reason =>
    rw [encoding, Outgoing.bytes, rcBrokerPackDisconnect, if_neg (Nat.lt_irrefl _),
      packBrokerHeaderWithRlp, packBehind_fragments hpk hu _ le_rfl (by decide)]
    simp only [fragments, flatMap_append, flatMap_cons, flatMap_nil, append_nil]
    rfl
  | null =>
    rw [encoding, Outgoing.bytes, rcBrokerPackNull, if_neg (Nat.lt_irrefl _),
      packBrokerHeaderWithRlp, headerFragments_pack hpk hu _ _ le_rfl (by decide)]
    rfl
  | request localCid header cmd =>
    refine ((if_neg (Nat.lt_irrefl _)).trans (packBehind_fragments hpk hu
      rdmCmdPduMaxSize (by decide) (hrpt _) _ _)).trans ?_
    simp only [fragments, flatMap_append, flatMap_cons, flatMap_nil, append_nil]
    rfl
  | status localCid header msg =>
    refine ((if_neg (Nat.lt_irrefl _)).trans (packBehind_fragments hpk hu
      rptPduHeaderSize (by decide) (hrpt _) _ _)).trans ?_
    -- an empty string is not offered
    have hchars : (if calcStatusPduSize msg > rptStatusHeaderSize then
        [(⟨msg.chars, true⟩ : Fragment UInt8)] else []).flatMap (·.bytes) = msg.chars := by
      split_ifs with h
      · simp
      · have hnil : msg.chars.length = 0 := by
          unfold calcStatusPduSize at h
          omega
        exact (length_eq_zero_iff.mp hnil).symm
    simp only [fragments, flatMap_append, flatMap_cons, hchars]
    rfl
  | notification localCid header cmds =>
    have hcmds : cmds ≠ [] := by simpa [refusal] using hok
    have hbuf : ¬ (cmds = [] ∨ rptPduFullHeaderSize + calcNotificationPduSize cmds <
        rptPduFullHeaderSize + calcNotificationPduSize cmds) := by
      simpa using hcmds
    refine ((if_neg hbuf).trans (packBehind_fragments hpk hu
      rdmCmdPduMaxSize (by decide) (hrpt _) _ _)).trans ?_
    simp only [fragments, flatMap_append, flatMap_cons, flatMap_checked]
    rfl

/-- Only the header of a Client Entry is sent without a check, and it is not empty. -/
theorem unchecked_ne_nil (hpk : pal.Packs) (msg : ClientMessage) :
    ∀ f ∈ msg.fragments pal conn, f.checked = false → f.bytes ≠ [] := by
  have hall : ∀ {fs : List (Fragment UInt8)}, fs.all (·.checked) = true → ∀ f ∈ fs,
      f.checked = false → f.bytes ≠ [] := by
    intro fs h f hf hun
    rw [all_eq_true.mp h f hf] at hun
    cases hun
  cases msg with
  | clientConnect data protocols =>
    intro f hf hun
    rw [fragments, mem_append, mem_cons, mem_cons] at hf
    rcases hf with hf | rfl | rfl | hf
    · exact hall (by simp [brokerFragments, headerFragments]) f hf hun
    · cases hun
    · intro hnil
      have hlen := (congrArg List.length hnil).symm.trans (length_packClientEntryHeader hpk _ _ _)
      cases hlen
    · exact hall (by split <;> simp) f hf hun
  | status localCid header msg =>
    refine hall ?_
    rw [fragments]
    split_ifs <;> simp [rptFragments, headerFragments]
  | _ => exact hall (by simp [fragments, brokerFragments, rptFragments, headerFragments])

/-! ### All or an error -/

/-- The call has returned `kEtcPalErrOk` and the socket has taken the complete message, or it has
returned an error: that of its arguments, or the one that `etcpal_send` gave at the end. -/
def AllOrError (pal : EtcPal) (conn : SendConn) (msg : ClientMessage) (s s' : Sink SendErr UInt8)
    (res : Except SendErr SendConn) : Prop :=
  (∃ conn', res = .ok conn' ∧ s'.taken = s.taken ++ msg.encoding pal conn) ∨
  ∃ e, res = .error e ∧ (msg.refusal = some e ∨
    ∃ used, s.results = used ++ s'.results ∧ used.getLast? = some (.error e))

/-- The arguments are not valid, or the socket takes every part of the message as a whole, or gives an
error where the function looks for one. -/
def Answered (pal : EtcPal) (conn : SendConn) (msg : ClientMessage)
    (results : List (Except SendErr Nat)) : Prop :=
  msg.refusal ≠ none ∨ SomeFails (msg.fragments pal conn) (answers blocked results) ∨
    AllWhole (msg.fragments pal conn) (answers blocked results)

/-- **Sends are all or an error** exactly if no part of the message is cut short, and no error is met
where the result is not looked at, unless a later part fails. -/
theorem send_all_or_error (hpk : pal.Packs) (hu : pal.Uniform) (msg : ClientMessage)
    {s s' : Sink SendErr UInt8} {res : Except SendErr SendConn}
    (hr : (msg.send pal conn now).run s = some (res, s')) :
    msg.AllOrError pal conn s s' res ↔ msg.Answered pal conn s.results := by
  rw [send_eq hpk] at hr
  unfold offerAll at hr
  cases href : msg.refusal with
  | some e =>
    rw [href] at hr
    cases hr
    exact ⟨fun _ => .inl (by rw [href]; exact nofun), fun _ => .inr ⟨e, rfl, .inl href⟩⟩
  | none =>
    rw [href] at hr
    obtain ⟨⟨res', s1⟩, hrun, hr⟩ := Option.bind_eq_some_iff.mp hr
    rcases run_sendFragments hrun with ⟨e, used, rfl, hres, hlast, hfail⟩ | ⟨rfl, hfail, hlen, htaken⟩
    · cases hr
      exact ⟨fun _ => .inr (.inl hfail), fun _ => .inr ⟨e, rfl, .inr ⟨used, hres, hlast⟩⟩⟩
    · cases hr
      have hiff := complete_iff hlen (msg.unchecked_ne_nil hpk) hfail
      have henc : msg.encoding pal conn = _ := msg.encoding_eq hpk hu href
      constructor
      · rintro (⟨conn', -, hall⟩ | ⟨e, he, -⟩)
        · rw [htaken] at hall
          exact .inr (.inr (hiff.mp ((append_cancel_left hall).trans henc)))
        · cases he
      · rintro (h | h | h)
        · exact absurd href h
        · exact absurd h hfail
        · exact .inl ⟨_, rfl, by rw [htaken, hiff.mpr h, henc]⟩

/-- A Null message that the socket takes after it would have blocked once. -/
theorem send_all_or_error_null : ∃ s' res, (ClientMessage.null.send .reference ⟨default, default⟩ 7).run
        ⟨[.error blocked, .ok 16, .ok 23, .ok 5], []⟩ = some (res, s') ∧ s'.taken.length = 44 ∧
      ClientMessage.null.AllOrError .reference ⟨default, default⟩
        ⟨[.error blocked, .ok 16, .ok 23, .ok 5], []⟩ s' res := by
  refine ⟨_, _, rfl, by decide +kernel, ?_⟩
  exact (send_all_or_error EtcPal.reference_packs EtcPal.reference_uniform .null rfl).mpr
    (.inr (.inr (by decide +kernel)))

def sampleConnect : ClientMessage :=
  .clientConnect { (default : BrokerClientConnectMsg) with clientEntry := ⟨kClientProtocolRPT, default⟩ } []

/-- `rc_broker_send_null` returns `kEtcPalErrOk` although the socket has taken one byte of the
preamble only, and `rc_broker_send_client_connect` although there was an error. -/
theorem send_not_all_or_error : (∃ s' res, (ClientMessage.null.send .reference ⟨default, default⟩ 7).run
        ⟨[.ok 1, .ok 23, .ok 5], []⟩ = some (res, s') ∧
      ¬ ClientMessage.null.AllOrError .reference ⟨default, default⟩ ⟨[.ok 1, .ok 23, .ok 5], []⟩ s' res) ∧
    ∃ s' res, (sampleConnect.send .reference ⟨default, default⟩ 7).run
        ⟨[.ok 16, .ok 23, .ok 5, .ok 297, .error (.socket .sys), .ok 23], []⟩ = some (res, s') ∧
      ¬ sampleConnect.AllOrError .reference ⟨default, default⟩
        ⟨[.ok 16, .ok 23, .ok 5, .ok 297, .error (.socket .sys), .ok 23], []⟩ s' res := by
  refine ⟨⟨_, _, rfl, ?_⟩, _, _, rfl, ?_⟩
  · rintro (⟨conn', -, hall⟩ | ⟨e, he, -⟩)
    · exact absurd (congrArg List.length hall) (by decide +kernel)
    · cases he
  · rintro (⟨conn', -, hall⟩ | ⟨e, he, -⟩)
    · exact absurd (congrArg List.length hall) (by decide +kernel)
    · cases he

end ClientMessage

end RDMnet
