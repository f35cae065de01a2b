import RDMnet.MsgBuf.Rpt

/-!
# The message buffer

The root layer, `locate_tcp_preamble` and `rc_msg_buf_parse_data`: from the bytes of a TCP stream
to messages.  `RCMsgBuf` keeps the control state; the buffer (`buf`, `cur_data_size`) is the data
given to the parse functions and the message with its heap is what they fill.
-/

namespace RDMnet

/-! ### The root layer -/

/-- The `switch` over the root layer vector. -/
inductive RootKind
  | broker | rpt | unknown
  deriving DecidableEq, Repr

def RootKind.ofVector (v : UInt32) : RootKind :=
  if v = acnVectorRootBroker then .broker
  else if v = acnVectorRootRpt then .rpt
  else .unknown

/-- The union of `RlpState`. -/
structure RlpData where
  broker : BrokerState
  rpt : RptState
  unknown : PduBlockState
  deriving DecidableEq, Inhabited

/-- `initialize_rdmnet_message` -/
def initializeRdmnetMessage (vector : UInt32) (pduDataLen : Nat) : RlpData :=
  match RootKind.ofVector vector with
  | .broker => { (default : RlpData) with broker := ⟨.start pduDataLen, default⟩ }
  | .rpt => { (default : RlpData) with rpt := ⟨.start pduDataLen, default⟩ }
  | .unknown => { (default : RlpData) with unknown := .start pduDataLen }

/-- The `switch` of `parse_rlp_block` over the vector. -/
def rlpDataParser (pal : EtcPal) : RootKind → ParseFn RlpData (RdmnetMessage × Heap)
  | .broker =>
    (parseBrokerBlock pal).zoom (·.broker) (fun x s => { s with broker := x })
      (fun m => (m.1.broker, m.2)) (fun x m => ({ m.1 with broker := x.1 }, x.2))
  | .rpt =>
    (parseRptBlock pal).zoom (·.rpt) (fun x s => { s with rpt := x })
      (fun m => (m.1.rpt, m.2)) (fun x m => ({ m.1 with rpt := x.1 }, x.2))
  | .unknown => skip.zoom (·.unknown) (fun x s => { s with unknown := x }) id (fun x _ => x)

/-- The header of a root layer PDU.  The header of a PDU that is too long for its block is counted
although the whole block is then thrown away. -/
def rlpHeader (pal : EtcPal) (b : PduBlockState) (m : RdmnetMessage × Heap) (d : Bytes) :
    HeaderRes RlpData (RdmnetMessage × Heap) × List Event :=
  match pal.acnParseRootLayerHeader d with
  | none => (.reject 0, [])
  | some rlp =>
    let log := [.rlpHeader rlp.dataLen (b.sizeParsed + acnRlpHeaderSizeExtLen) b.blockSize
      (d.length - acnRlpHeaderSizeExtLen)]
    if b.sizeParsed + acnRlpHeaderSizeExtLen + rlp.dataLen ≤ b.blockSize then
      (.accept (initializeRdmnetMessage rlp.vector rlp.dataLen)
        ({ m.1 with vector := rlp.vector, senderCid := rlp.senderCid }, m.2), log)
    else
      (.reject acnRlpHeaderSizeExtLen, log)

def rlpLayer (pal : EtcPal) : Layer RlpData (RdmnetMessage × Heap) where
  headerSize := acnRlpHeaderSizeExtLen
  header := rlpHeader pal
  body := fun s m d => rlpDataParser pal (.ofVector m.1.vector) s m d

/-- `RlpState` -/
abbrev RlpState := Pdu RlpData

/-- `parse_rlp_block` -/
def parseRlpBlock (pal : EtcPal) : ParseFn RlpState (RdmnetMessage × Heap) :=
  (rlpLayer pal).parse

/-! ### The TCP preamble -/

/-- The loop of `locate_tcp_preamble`: the offset of the first preamble that has at least one byte
behind it, and the length it announces. -/
def findTcpPreamble (pal : EtcPal) : Bytes → Option (Nat × Nat)
  | [] => none
  | x :: d =>
    if acnTcpPreambleSize < (x :: d).length then
      match pal.acnParseTcpPreamble (x :: d) with
      | some blockLen => some (0, blockLen)
      | none => (findTcpPreamble pal d).map fun r => (r.1 + 1, r.2)
    else none

/-- `locate_tcp_preamble`: how many bytes it discards, and what it returns. -/
def locateTcpPreamble (pal : EtcPal) (d : Bytes) : Nat × Nat × List Event :=
  match findTcpPreamble pal d with
  | some (i, blockLen) => (i + acnTcpPreambleSize, blockLen, [.preamble blockLen])
  | none => (d.length - acnTcpPreambleSize, 0, [])

/-! ### The message buffer -/

/-- `RCMsgBuf` without the buffer and the message.  The root layer state is dead while there is no
preamble. -/
structure RCMsgBuf where
  havePreamble : Bool
  rlpState : RlpState
  deriving DecidableEq, Inhabited

/-- `rc_msg_buf_init`, with an empty buffer. -/
def rcMsgBufInit : RCMsgBuf := ⟨false, default⟩

/-- What `rc_msg_buf_parse_data` returns: `kEtcPalErrOk`, `kEtcPalErrNoData`, `kEtcPalErrSys`; or
nothing, if it is `stuck`. -/
inductive MsgBufRes
  | ok | noData | errSys | stuck
  deriving DecidableEq, Repr

abbrev MsgBufFn (ρ : Type) := Parser UInt8 RCMsgBuf (RdmnetMessage × Heap) ρ Event

/-- The `switch` of `rc_msg_buf_parse_data` over the result of the root layer.  A protocol error is
followed by another round; an unassigned result is taken for `kRCParseResNoData`. -/
def blockResult (st : RlpState) : ParseRes → RCMsgBuf × Option MsgBufRes
  | .fullBlockParseOk => (⟨false, default⟩, some .ok)
  | .fullBlockProtErr => (⟨false, default⟩, none)
  | .partialBlockParseOk => (⟨true, st⟩, some .ok)
  | .partialBlockProtErr => (⟨true, st⟩, none)
  | .noData => (⟨true, st⟩, some .noData)
  | .unassigned => (⟨true, st⟩, some .noData)
  | .stuck => (⟨true, st⟩, some .stuck)

/-- The part of a round of `rc_msg_buf_parse_data` behind the preamble. -/
def parseDataBlock (pal : EtcPal) : MsgBufFn (Option MsgBufRes) := fun s m d =>
  let o := parseRlpBlock pal s.rlpState m d
  let r := blockResult o.st o.res
  let log := o.log ++ [.assigned (decide (o.res ≠ .unassigned))]
  if o.used ≤ d.length then
    ⟨r.1, o.msg, o.used, r.2, log ++ [.check true]⟩
  else
    ⟨r.1, o.msg, 0, some .errSys, log ++ [.check false]⟩

/-- One round of the loop of `rc_msg_buf_parse_data`. -/
def parseDataRound (pal : EtcPal) : MsgBufFn (Option MsgBufRes) := fun s m d =>
  if s.havePreamble then
    parseDataBlock pal s m d
  else
    let (n, blockLen, log) := locateTcpPreamble pal d
    if blockLen = 0 then
      ⟨s, m, n, some .noData, log⟩
    else
      (parseDataBlock pal ⟨true, ⟨.start blockLen, default⟩⟩ m (d.drop n)).since n log

/-- Decreases in each round that ends in a protocol error: it takes bytes, or a header is done. -/
def RCMsgBuf.measure (s : RCMsgBuf) (d : Bytes) : Nat :=
  8 * d.length + (if s.havePreamble then 4 else 0) +
    (if s.rlpState.block.parsedHeader then 1 else 0) +
    (if s.rlpState.data.broker.block.parsedHeader then 1 else 0) +
    (if s.rlpState.data.rpt.block.parsedHeader then 1 else 0)

/-- `rc_msg_buf_parse_data` -/
def rcMsgBufParseData (pal : EtcPal) : MsgBufFn MsgBufRes :=
  (parseDataRound pal).iterate (fun s _ d => s.measure d) .stuck

/-! ### Releasing a message -/

/-- `free_broker_message` -/
def freeBrokerMessage (bmsg : BrokerMessage) : BrokerMessage :=
  let clientList :=
    if bmsg.clientList.clientProtocol = kClientProtocolRPT then
      { bmsg with clientList.rpt.items := bmsg.clientList.rpt.items.free }
    else bmsg
  match BrokerKind.ofVector bmsg.vector with
  | .clientAdd => clientList
  | .clientRemove => clientList
  | .clientEntryChange => clientList
  | .connectedClientList => clientList
  | .requestDynamicUids =>
    { bmsg with dynamicUidRequestList.items := bmsg.dynamicUidRequestList.items.free }
  | .assignedDynamicUids =>
    { bmsg with dynamicUidAssignmentList.items := bmsg.dynamicUidAssignmentList.items.free }
  | .fetchDynamicUidList =>
    { bmsg with fetchUidAssignmentList.items := bmsg.fetchUidAssignmentList.items.free }
  | _ => bmsg

/-- `free_rpt_message`: only the status string is set to null. -/
def freeRptMessage (rmsg : RptMessage) : RptMessage :=
  match RptKind.ofVector rmsg.vector with
  | .request => { rmsg with rdm.items := rmsg.rdm.items.free }
  | .notification => { rmsg with rdm.items := rmsg.rdm.items.free }
  | .status => { rmsg with status.statusString := none }
  | .unknown => rmsg

/-- `rc_free_message_resources` -/
def rcFreeMessageResources (msg : RdmnetMessage) : RdmnetMessage :=
  match RootKind.ofVector msg.vector with
  | .broker => { msg with broker := freeBrokerMessage msg.broker }
  | .rpt => { msg with rpt := freeRptMessage msg.rpt }
  | .unknown => msg

end RDMnet
