import RDMnet.Core.EtcPal

/-!
# Packing messages

The functions of `broker_prot.c` and `rpt_prot.c` that put messages on the wire.  A function that
packs into a buffer of `buflen` bytes gives the bytes it wrote, none if it returns 0.  A function
that sends gives the bytes it hands to `rc_send`, all of which is sent, or nothing if it fails
before.
-/

namespace RDMnet

open BrokerKind

abbrev brokerPduFullHeaderSize : Nat := 44
abbrev rptClientEntrySize : Nat := 46
abbrev rptPduFullHeaderSize : Nat := 67
/-- `VECTOR_RDM_CMD_RDM_DATA` -/
abbrev vectorRdmCmdRdmData : UInt8 := 0xcc

section Pack

variable (pal : EtcPal)

/-! ### Headers -/

/-- The TCP preamble, the root layer header and the header of the PDU, packed into one buffer. -/
def packHeaderWithRlp (rlp : AcnRootLayerPdu) (buflen : Nat) (header : Bytes) : Bytes :=
  let dataSize := pal.acnRootLayerBufSize rlp
  let preamble := pal.acnPackTcpPreamble buflen dataSize
  let root := pal.acnPackRootLayerHeader (buflen - preamble.length) rlp
  if dataSize = 0 ∨ preamble = [] ∨ root = [] then [] else preamble ++ root ++ header

def sendHeader (rlp : AcnRootLayerPdu) (buflen : Nat) (header : Bytes) : Option Bytes :=
  let dataSize := pal.acnRootLayerBufSize rlp
  let preamble := pal.acnPackTcpPreamble buflen dataSize
  let root := pal.acnPackRootLayerHeader buflen rlp
  if dataSize = 0 ∨ preamble = [] ∨ root = [] then none else some (preamble ++ root ++ header)

/-- `PACK_BROKER_HEADER` -/
def packBrokerHeader (length : Nat) (vector : UInt16) : Bytes :=
  pal.acnPduPackExtLen length ++ packU16 vector

/-- `PACK_CLIENT_ENTRY_HEADER` -/
def packClientEntryHeader (length : Nat) (vector : UInt32) (cid : Uuid) : Bytes :=
  pal.acnPduPackExtLen length ++ packU32 vector ++ cid.toList

/-- `pack_broker_header_with_rlp` -/
def packBrokerHeaderWithRlp (rlp : AcnRootLayerPdu) (buflen : Nat) (vector : UInt16) : Bytes :=
  packHeaderWithRlp pal rlp buflen (packBrokerHeader pal rlp.dataLen vector)

/-- `send_broker_header` -/
def sendBrokerHeader (rlp : AcnRootLayerPdu) (buflen : Nat) (vector : UInt16) : Option Bytes :=
  sendHeader pal rlp buflen (packBrokerHeader pal rlp.dataLen vector)

/-- `pack_rpt_header` -/
def packRptHeader (length : Nat) (vector : UInt32) (header : RptHeader) : Bytes :=
  pal.acnPduPackExtLen length ++ packU32 vector ++
    packU16 header.sourceUid.manu ++ packU32 header.sourceUid.id ++ packU16 header.sourceEndpointId ++
    packU16 header.destUid.manu ++ packU32 header.destUid.id ++ packU16 header.destEndpointId ++
    packU32 header.seqnum ++ [0]

/-- `pack_rpt_header_with_rlp` -/
def packRptHeaderWithRlp (rlp : AcnRootLayerPdu) (buflen : Nat) (vector : UInt32)
    (header : RptHeader) : Bytes :=
  packHeaderWithRlp pal rlp buflen (packRptHeader pal rlp.dataLen vector header)

def packBehind (header : Bytes) (data : Option Bytes) : Bytes :=
  if header = [] then [] else
    match data with
    | some data => header ++ data
    | none => []

/-- A loop that packs elements of `size` bytes one by one, each if there is room for it. -/
def packEach {α : Type} (size : Nat) (pack : α → Bytes) : Nat → List α → Option Bytes
  | _, [] => some []
  | room, x :: xs =>
    if room < size then none else (packEach size pack (room - size) xs).map (pack x ++ ·)

/-! ### Broker messages -/

/-- `rdmnet_safe_strncpy` into a field of `cap` bytes of the message. -/
def CString.padded {cap : Nat} (s : CString cap) : Bytes :=
  s.chars ++ List.replicate (cap - s.chars.length) 0

def packUid (uid : RdmUid) : Bytes := packU16 uid.manu ++ packU32 uid.id

def packRptClientEntryData (entry : RptClientEntry) : Bytes :=
  packUid entry.uid ++ [entry.type.toUInt8] ++ entry.bindingCid.toList

def brokerRlp (localCid : Uuid) (dataLen : Nat) : AcnRootLayerPdu :=
  ⟨acnVectorRootBroker, localCid, dataLen⟩

/-- `calc_client_connect_len` for an RPT client. -/
def calcClientConnectLen : Nat :=
  brokerPduHeaderSize + clientConnectDataMinSize + rptClientEntryDataSize

/-- `rc_broker_send_client_connect` for an RPT client. -/
def rcBrokerSendClientConnect (localCid : Uuid) (data : BrokerClientConnectMsg) : Option Bytes :=
  if data.clientEntry.clientProtocol ≠ kClientProtocolRPT then none else
    (sendBrokerHeader pal (brokerRlp localCid calcClientConnectLen) clientConnectCommonFieldSize
      connect.vector).map fun header =>
      header ++
        (data.scope.padded ++ packU16 data.e133Version ++ data.searchDomain.padded ++ [data.connectFlags]) ++
        packClientEntryHeader pal
          (calcClientConnectLen - (brokerPduHeaderSize + clientConnectCommonFieldSize))
          data.clientEntry.clientProtocol data.clientEntry.data.cid ++
        packRptClientEntryData data.clientEntry.data

/-- `rc_broker_pack_connect_reply` -/
def rcBrokerPackConnectReply (buflen : Nat) (localCid : Uuid) (data : BrokerConnectReplyMsg) :
    Bytes :=
  if buflen < brokerPduFullHeaderSize + brokerConnectReplyDataSize then [] else
    packBehind
      (packBrokerHeaderWithRlp pal
        (brokerRlp localCid (brokerPduHeaderSize + brokerConnectReplyDataSize)) buflen
        connectReply.vector)
      (some (packU16 data.connectStatus ++ packU16 data.e133Version ++ packUid data.brokerUid ++
        packUid data.clientUid))

/-- `rc_broker_send_fetch_client_list` -/
def rcBrokerSendFetchClientList (localCid : Uuid) : Option Bytes :=
  sendBrokerHeader pal (brokerRlp localCid brokerPduHeaderSize) acnRlpHeaderSizeExtLen
    fetchClientList.vector

/-- `rc_broker_pack_rpt_client_list` -/
def rcBrokerPackRptClientList (buflen : Nat) (localCid : Uuid) (vector : UInt16)
    (clientEntries : List RptClientEntry) : Bytes :=
  if buflen < brokerPduFullHeaderSize ∨ clientEntries = [] ∨
      (vector ≠ connectedClientList.vector ∧ vector ≠ clientAdd.vector ∧
        vector ≠ clientRemove.vector ∧ vector ≠ clientEntryChange.vector) then
    []
  else
    let header := packBrokerHeaderWithRlp pal
      (brokerRlp localCid (brokerPduHeaderSize + clientEntries.length * rptClientEntrySize)) buflen
      vector
    packBehind header (packEach rptClientEntrySize
      (fun entry => packClientEntryHeader pal rptClientEntrySize kClientProtocolRPT entry.cid ++
        packRptClientEntryData entry) (buflen - header.length) clientEntries)

def packDynamicUidRequest (manufacturerId : UInt16) (rid : Uuid) : Bytes :=
  packU16 (manufacturerId ||| 0x8000) ++ packU32 0 ++ rid.toList

/-- `rc_broker_send_request_dynamic_uids` -/
def rcBrokerSendRequestDynamicUids (localCid : Uuid) (manufacturerId : UInt16) (rids : List Uuid) :
    Option Bytes :=
  if rids = [] then none else
    (sendBrokerHeader pal (brokerRlp localCid (brokerPduHeaderSize + rids.length * dynamicUidRequestPairSize))
      acnRlpHeaderSizeExtLen requestDynamicUids.vector).map fun header =>
      header ++ rids.flatMap (packDynamicUidRequest manufacturerId)

def packDynamicUidMapping (mapping : RdmnetDynamicUidMapping) : Bytes :=
  packUid mapping.uid ++ mapping.rid.toList ++ packU16 mapping.statusCode

/-- `rc_broker_pack_uid_assignment_list` -/
def rcBrokerPackUidAssignmentList (buflen : Nat) (localCid : Uuid)
    (mappings : List RdmnetDynamicUidMapping) : Bytes :=
  if buflen < brokerPduFullHeaderSize ∨ mappings = [] then [] else
    let header := packBrokerHeaderWithRlp pal
      (brokerRlp localCid (brokerPduHeaderSize + mappings.length * dynamicUidMappingSize)) buflen
      assignedDynamicUids.vector
    packBehind header (packEach dynamicUidMappingSize packDynamicUidMapping (buflen - header.length) mappings)

/-- `rc_broker_send_fetch_uid_assignment_list` -/
def rcBrokerSendFetchUidAssignmentList (localCid : Uuid) (uids : List RdmUid) : Option Bytes :=
  if uids = [] then none else
    (sendBrokerHeader pal (brokerRlp localCid (brokerPduHeaderSize + uids.length * fetchUidSize))
      acnRlpHeaderSizeExtLen fetchDynamicUidList.vector).map fun header =>
      header ++ uids.flatMap packUid

/-- `rc_broker_pack_disconnect` -/
def rcBrokerPackDisconnect (buflen : Nat) (localCid : Uuid) (reason : UInt16) : Bytes :=
  if buflen < brokerPduFullHeaderSize + disconnectDataSize then [] else
    packBehind
      (packBrokerHeaderWithRlp pal (brokerRlp localCid (brokerPduHeaderSize + disconnectDataSize))
        buflen disconnect.vector)
      (some (packU16 reason))

/-- `rc_broker_pack_null` -/
def rcBrokerPackNull (buflen : Nat) (localCid : Uuid) : Bytes :=
  if buflen < brokerPduFullHeaderSize then [] else
    packBrokerHeaderWithRlp pal (brokerRlp localCid brokerPduHeaderSize) buflen
      null.vector

/-! ### RPT messages -/

def rptRlp (localCid : Uuid) (dataLen : Nat) : AcnRootLayerPdu :=
  ⟨acnVectorRootRpt, localCid, dataLen⟩

/-- `RDM_CMD_PDU_LEN` -/
def rdmCmdPduLen (cmd : RdmBuffer) : Nat := cmd.length + 3

/-- `PACK_RDM_CMD_PDU`: the vector takes the place of the first byte of the command. -/
def packRdmCmdPdu (cmd : RdmBuffer) : Bytes :=
  pal.acnPduPackExtLen (rdmCmdPduLen cmd) ++ [vectorRdmCmdRdmData] ++ cmd.drop 1

/-- `PACK_REQUEST_HEADER` and `PACK_NOTIFICATION_HEADER` -/
def packRequestNotifHeader (length : Nat) (vector : UInt32) : Bytes :=
  pal.acnPduPackExtLen length ++ packU32 vector

/-- `calc_request_pdu_size` -/
def calcRequestPduSize (cmd : RdmBuffer) : Nat := requestNotifPduHeaderSize + rdmCmdPduLen cmd

/-- `rc_rpt_pack_request` -/
def rcRptPackRequest (buflen : Nat) (localCid : Uuid) (header : RptHeader) (cmd : RdmBuffer) :
    Bytes :=
  if buflen < rptPduFullHeaderSize + calcRequestPduSize cmd then [] else
    packBehind
      (packRptHeaderWithRlp pal (rptRlp localCid (rptPduHeaderSize + calcRequestPduSize cmd)) buflen
        vectorRptRequest header)
      (some (packRequestNotifHeader pal (calcRequestPduSize cmd) vectorRequestRdmCmd ++
        packRdmCmdPdu pal cmd))

/-- The bytes of a status string before its NUL; none if the pointer is null. -/
def RptStatusMsg.chars (status : RptStatusMsg) : Bytes :=
  (status.statusString.getD []).takeWhile (· != 0)

/-- `calc_status_pdu_size` -/
def calcStatusPduSize (status : RptStatusMsg) : Nat := rptStatusHeaderSize + status.chars.length

/-- `rc_rpt_pack_status` -/
def rcRptPackStatus (buflen : Nat) (localCid : Uuid) (header : RptHeader) (status : RptStatusMsg) :
    Bytes :=
  if buflen < rptPduFullHeaderSize + calcStatusPduSize status then [] else
    packBehind
      (packRptHeaderWithRlp pal (rptRlp localCid (rptPduHeaderSize + calcStatusPduSize status))
        buflen vectorRptStatus header)
      (some (pal.acnPduPackExtLen (calcStatusPduSize status) ++ packU16 status.statusCode ++ status.chars))

/-- `calc_notification_pdu_size` -/
def calcNotificationPduSize (cmds : List RdmBuffer) : Nat :=
  requestNotifPduHeaderSize + (cmds.map rdmCmdPduLen).sum

/-- `rc_rpt_pack_notification` -/
def rcRptPackNotification (buflen : Nat) (localCid : Uuid) (header : RptHeader)
    (cmds : List RdmBuffer) : Bytes :=
  if cmds = [] ∨ buflen < rptPduFullHeaderSize + calcNotificationPduSize cmds then [] else
    packBehind
      (packRptHeaderWithRlp pal (rptRlp localCid (rptPduHeaderSize + calcNotificationPduSize cmds))
        buflen vectorRptNotification header)
      (some (packRequestNotifHeader pal (calcNotificationPduSize cmds) vectorNotificationRdmCmd ++
        cmds.flatMap (packRdmCmdPdu pal)))

end Pack

end RDMnet
