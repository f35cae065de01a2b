import RDMnet.MsgBuf.Block

/-!
# Broker PDUs

`parse_broker_block` and everything below it: Client Connect and Client Entry Update, client
entries and client lists, the three lists of fixed-size entries, and the messages of fixed size.

The message of a parse function that allocates is paired with the heap.  Pointers into the message
that a function only writes through are given as the update of what they point to.
-/

namespace RDMnet

/-! ### Lists of fixed-size entries -/

/-- `GenericListState` -/
structure GenericListState where
  fullListSize : Nat
  sizeParsed : Nat
  deriving DecidableEq, Repr, Inhabited

/-- One round of the loop that `parse_request_dynamic_uid_assignment`,
`parse_dynamic_uid_assignment_list` and `parse_fetch_dynamic_uid_assignment_list` share. -/
def genericListRound {α : Type} (size : Nat) (unpack : Bytes → α) :
    Parser UInt8 GenericListState (MsgList α × Heap) (Option ParseRes) Event := fun s m d =>
  if d.length < size then
    ⟨s, m, 0, some .noData, []⟩
  else if m.1.items.isFreed then
    ⟨s, m, 0, some .stuck, [.touchFreed]⟩
  else
    let (success, heap) := m.2.alloc
    if success then
      let sizeParsed := s.sizeParsed + size
      ⟨{ s with sizeParsed }, ({ m.1 with items := m.1.items.push (unpack d) }, heap), size,
        if sizeParsed ≥ s.fullListSize then some .fullBlockParseOk else none, [.alloc true]⟩
    else if m.1.items.isNull then
      ⟨s, (m.1, heap), 0, some .noData, [.alloc false]⟩
    else
      -- out of space: send back up what there is
      ⟨s, ({ m.1 with moreComing := true }, heap), 0, some .partialBlockParseOk, [.alloc false]⟩

def parseGenericList {α : Type} (size : Nat) (unpack : Bytes → α) :
    ParseFn GenericListState (MsgList α × Heap) :=
  (genericListRound size unpack).iterate (fun _ _ d => d.length) .stuck

def unpackUid (d : Bytes) : RdmUid := ⟨u16At d 0, u32At d 2⟩

def unpackDynamicUidRequest (d : Bytes) : BrokerDynamicUidRequest :=
  ⟨u16At d 0 &&& 0x7fff, vecAt 16 d 6⟩

def unpackDynamicUidMapping (d : Bytes) : RdmnetDynamicUidMapping :=
  ⟨unpackUid d, vecAt 16 d 6, u16At d 22⟩

def parseRequestDynamicUidAssignment :
    ParseFn GenericListState (MsgList BrokerDynamicUidRequest × Heap) :=
  parseGenericList dynamicUidRequestPairSize unpackDynamicUidRequest

def parseDynamicUidAssignmentList :
    ParseFn GenericListState (MsgList RdmnetDynamicUidMapping × Heap) :=
  parseGenericList dynamicUidMappingSize unpackDynamicUidMapping

def parseFetchDynamicUidAssignmentList : ParseFn GenericListState (MsgList RdmUid × Heap) :=
  parseGenericList fetchUidSize unpackUid

/-! ### Client entries -/

/-- `INIT_CLIENT_ENTRY_STATE` -/
def ClientEntryState.start (blockSize : Nat) : ClientEntryState :=
  ⟨blockSize, kClientProtocolUnknown, default⟩

/-- The state of an entry whose header is read. -/
def ClientEntryState.known (s : ClientEntryState) (protocol : UInt32) (pduLen : Nat) :
    ClientEntryState :=
  { s with
    clientProtocol := protocol
    entryData := .start (sizeSub pduLen clientEntryHeaderSize) }

def unpackRptClientEntryData (d : Bytes) (entry : RptClientEntry) : RptClientEntry :=
  { entry with uid := unpackUid d, type := (u8At d 6).toUInt32, bindingCid := vecAt 16 d 7 }

section Entry

variable (pal : EtcPal) {μ : Type} (setProtocol : UInt32 → μ → μ)
  (modifyEntry : (RptClientEntry → RptClientEntry) → μ → μ)

/-- The first half of `parse_single_client_entry`: the Client Entry header. -/
def clientEntryHeader : ParseFn ClientEntryState μ := fun s m d =>
  if s.clientProtocol = kClientProtocolUnknown ∧ clientEntryHeaderSize ≤ d.length then
    let pduLen := pal.acnPduLength d
    let s := s.known (u32At d 3) pduLen
    let log := [.entryHeader pduLen s]
    if pduLen > s.enclosingBlockSize then
      let c := consumeBadBlock s.entryData (d.length - clientEntryHeaderSize)
      ⟨{ s with entryData := c.1 }, m, clientEntryHeaderSize + c.2.1, c.2.2, log⟩
    else
      ⟨s, modifyEntry (fun entry => { entry with cid := vecAt 16 d 7 }) m, clientEntryHeaderSize,
        .noData, log⟩
  else
    ⟨s, m, 0, .noData, []⟩

def clientEntryData (d : Bytes) (o : Out ClientEntryState μ ParseRes Event) :
    Out ClientEntryState μ ParseRes Event :=
  let s := o.st
  let m := setProtocol s.clientProtocol o.msg
  let rest := d.drop o.used
  let bad : Out ClientEntryState μ ParseRes Event :=
    let c := consumeBadBlock s.entryData rest.length
    ⟨{ s with entryData := c.1 }, m, o.used + c.2.1, c.2.2, o.log⟩
  if s.entryData.consumingBadBlock then
    bad
  else if s.clientProtocol = kClientProtocolEPT then
    bad
  else if s.clientProtocol = kClientProtocolRPT then
    if s.entryData.sizeParsed + rptClientEntryDataSize = s.entryData.blockSize then
      if rptClientEntryDataSize ≤ rest.length then
        ⟨{ s with entryData := s.entryData.advance rptClientEntryDataSize },
          modifyEntry (unpackRptClientEntryData rest) m, o.used + rptClientEntryDataSize,
          .fullBlockParseOk, o.log⟩
      else
        ⟨s, m, o.used, o.res, o.log⟩
    else
      -- PDU length mismatch
      bad
  else
    bad

/-- `parse_single_client_entry` -/
def parseSingleClientEntry : ParseFn ClientEntryState μ := fun s m d =>
  let o := clientEntryHeader pal modifyEntry s m d
  if o.st.clientProtocol = kClientProtocolUnknown then o
  else clientEntryData setProtocol modifyEntry d o

/-- What an entry that is through leaves of its PDU. -/
def entryTail (c : Out ClientEntryState μ ParseRes Event) : List Event :=
  match c.res with
  | .fullBlockParseOk | .fullBlockProtErr =>
    [.entryTail (sizeSub c.st.enclosingBlockSize (clientEntryHeaderSize + c.st.entryData.blockSize))]
  | _ => []

/-- `ClientConnectState` and `ClientEntryUpdateState`. -/
structure ClientConnectState where
  pduDataSize : Nat
  commonDataParsed : Bool
  entry : ClientEntryState
  deriving DecidableEq, Repr, Inhabited

/-- The end of `parse_client_connect` and `parse_client_entry_update`, once the entry gave `c` behind
`n` of the `dataLen` bytes at hand. -/
def afterEntry (s : ClientConnectState) (dataLen n : Nat)
    (c : Out ClientEntryState μ ParseRes Event) : Out ClientConnectState μ ParseRes Event :=
  let s := { s with commonDataParsed := true, entry := c.st }
  if c.used ≤ dataLen - n then
    ⟨s, c.msg, n + c.used, c.res, c.log ++ (.check true :: entryTail c)⟩
  else
    ⟨s, c.msg, 0, .unassigned, c.log ++ [.check false]⟩

/-- `parse_client_connect` and `parse_client_entry_update`: fields of a fixed size, all at once, and
then a client entry. -/
def parseCommonAndEntry (commonSize : Nat) (common : Bytes → μ → μ) :
    ParseFn ClientConnectState μ := fun s m d =>
  if s.commonDataParsed = false ∧ d.length < commonSize then
    ⟨s, m, 0, .noData, []⟩
  else
    let n := if s.commonDataParsed then 0 else commonSize
    let m := if s.commonDataParsed then m else common d m
    let entry := if s.commonDataParsed then s.entry else
      ClientEntryState.start (sizeSub s.pduDataSize commonSize)
    afterEntry s d.length n (parseSingleClientEntry pal setProtocol modifyEntry entry m (d.drop n))

end Entry

/-- `parse_client_connect_header` -/
def parseClientConnectHeader (data : Bytes) (ccmsg : BrokerClientConnectMsg) :
    BrokerClientConnectMsg :=
  { ccmsg with
    scope := safeStrncpy e133ScopeStringPaddedLength scopeString_pos data
    e133Version := u16At data 63
    searchDomain := safeStrncpy e133DomainStringPaddedLength domainString_pos (data.drop 65)
    connectFlags := u8At data 296 }

def parseClientConnect (pal : EtcPal) : ParseFn ClientConnectState BrokerClientConnectMsg :=
  parseCommonAndEntry pal (fun p m => { m with clientEntry.clientProtocol := p })
    (fun f m => { m with clientEntry.data := f m.clientEntry.data })
    clientConnectCommonFieldSize parseClientConnectHeader

def parseClientEntryUpdate (pal : EtcPal) :
    ParseFn ClientConnectState BrokerClientEntryUpdateMsg :=
  parseCommonAndEntry pal (fun p m => { m with clientEntry.clientProtocol := p })
    (fun f m => { m with clientEntry.data := f m.clientEntry.data })
    clientEntryUpdateCommonFieldSize (fun data m => { m with connectFlags := u8At data 0 })

/-! ### Client lists -/

/-- `ClientListState` -/
structure ClientListState where
  block : PduBlockState
  entry : ClientEntryState
  deriving DecidableEq, Repr, Inhabited

section ClientList

variable (pal : EtcPal)

/-- `parse_single_client_entry` on the last element of the array. -/
def parseLastClientEntry : ParseFn ClientEntryState (MsgList RptClientEntry × Heap) :=
  parseSingleClientEntry pal (fun _ m => m)
    (fun f m => ({ m.1 with items := m.1.items.modifyLast f }, m.2))

/-- What to do next in the loop of `parse_rpt_client_list`, once an entry gave `c` and was within
its block; `dataLen` bytes were at hand for it.  The entry's own state is dead once it is
through. -/
def rptClientListNext (s : ClientListState) (dataLen : Nat)
    (c : Out ClientEntryState (MsgList RptClientEntry × Heap) ParseRes Event) :
    Out ClientListState (MsgList RptClientEntry × Heap) (Option ParseRes) Event :=
  let block := s.block.advance c.used
  let log := c.log ++ [.check true]
  match c.res with
  | .fullBlockParseOk =>
    ⟨⟨{ block with parsedHeader := false }, default⟩, c.msg, c.used,
      if block.sizeParsed ≠ block.blockSize then none else some .fullBlockParseOk, log⟩
  | .fullBlockProtErr =>
    -- bail on the list
    let k := consumeBadBlock { block with parsedHeader := false } (dataLen - c.used)
    ⟨⟨k.1, default⟩, c.msg, c.used + k.2.1, some k.2.2, log⟩
  | r => ⟨⟨block, c.st⟩, c.msg, c.used, some r, log⟩

def rptClientListEntry (s : ClientListState) (m : MsgList RptClientEntry × Heap) (d : Bytes) :
    Out ClientListState (MsgList RptClientEntry × Heap) (Option ParseRes) Event :=
  let c := parseLastClientEntry pal s.entry m d
  if c.used ≤ d.length ∧ s.block.sizeParsed + c.used ≤ s.block.blockSize then
    rptClientListNext s d.length c
  else
    ⟨{ s with entry := c.st }, c.msg, 0, some .unassigned, c.log ++ [.check false]⟩

/-- One round of the loop of `parse_rpt_client_list`; `total` is the `data_len` of the call.  A
failed allocation does not leave the loop. -/
def rptClientListRound (total : Nat) :
    Parser UInt8 ClientListState (MsgList RptClientEntry × Heap) (Option ParseRes) Event :=
  fun s m d =>
  if ¬ s.block.sizeParsed < s.block.blockSize then
    ⟨s, m, 0, some .noData, []⟩
  else if s.block.parsedHeader then
    if m.1.items.isNull then
      ⟨s, m, 0, some .unassigned, [.check false]⟩
    else if m.1.items.isFreed then
      ⟨s, m, 0, some .stuck, [.touchFreed]⟩
    else
      rptClientListEntry pal s m d
  else if d.length < clientEntryHeaderSize then
    ⟨s, m, 0, some .noData, [.listRoom s.block.room]⟩
  else
    let entry := ClientEntryState.start s.block.blockSize
    let pduLen := pal.acnPduLength d
    let log := [.listRoom s.block.room,
      .listEntry pduLen s.block.room (entry.known (u32At d 3) pduLen)]
    if u32At d 3 ≠ kClientProtocolRPT then
      -- the bytes already parsed are counted again
      let c := consumeBadBlock s.block total
      ⟨{ s with block := c.1 }, m, c.2.1, some c.2.2,
        [.listRoom s.block.room, .foreignEntry s.block.room (total - d.length) d.length]⟩
    else if m.1.items.isFreed then
      ⟨s, m, 0, some .stuck, log ++ [.touchFreed]⟩
    else
      let (success, heap) := m.2.alloc
      if success then
        (rptClientListEntry pal ⟨{ s.block with parsedHeader := true }, entry⟩
          ({ m.1 with items := m.1.items.push default }, heap) d).since 0 (log ++ [.alloc true])
      else
        ⟨s, ({ m.1 with moreComing := true }, heap), 0,
          if m.2.script = [] then some .stuck else none, log ++ [.alloc false]⟩

/-- `parse_rpt_client_list`: a failed check returns 0 whatever earlier rounds took. -/
def parseRptClientList : ParseFn ClientListState (MsgList RptClientEntry × Heap) := fun s m d =>
  let o := (rptClientListRound pal d.length).iterate
    (fun _ m d => d.length + m.2.script.length) .stuck s m d
  if o.res = .unassigned then { o with used := 0 } else o

/-- `parse_client_list` -/
def parseClientList : ParseFn ClientListState (BrokerClientList × Heap) := fun s m d =>
  let bad (m : BrokerClientList × Heap) (log : List Event) :
      Out ClientListState (BrokerClientList × Heap) ParseRes Event :=
    let c := consumeBadBlock s.block d.length
    ⟨{ s with block := c.1 }, m, c.2.1, c.2.2, log⟩
  if s.block.consumingBadBlock then
    bad m []
  else
    let fresh := m.1.clientProtocol = kClientProtocolUnknown
    let log := if fresh then
      [.listHead s.block.room (if clientEntryHeaderSize ≤ d.length then some (u32At d 3) else none)]
      else []
    let protocol := if fresh ∧ clientEntryHeaderSize ≤ d.length then u32At d 3
      else m.1.clientProtocol
    let m := ({ m.1 with clientProtocol := protocol }, m.2)
    if protocol = kClientProtocolRPT then
      let o := parseRptClientList pal s (m.1.rpt, m.2) d
      ⟨o.st, ({ m.1 with rpt := o.msg.1 }, o.msg.2), o.used,
        if o.res = .unassigned then .noData else o.res, log ++ o.log⟩
    else if protocol ≠ kClientProtocolUnknown then
      bad m log
    else
      ⟨s, m, 0, .noData, log⟩

end ClientList

/-! ### The Broker layer -/

/-- The union of `BrokerState`. -/
structure BrokerData where
  dataList : GenericListState
  clientList : ClientListState
  clientConnect : ClientConnectState
  update : ClientConnectState
  unknown : PduBlockState
  deriving DecidableEq, Inhabited

/-- `initialize_broker_message`: the union for the data to come, and the message. -/
def initializeBrokerMessage (bmsg : BrokerMessage) (pduDataLen : Nat) :
    BrokerData × BrokerMessage :=
  let unknown : BrokerData := { (default : BrokerData) with unknown := .start pduDataLen }
  let badLength := (unknown, { bmsg with vector := BrokerKind.unknown.vector })
  let exactly (n : Nat) := if pduDataLen ≠ n then badLength else (default, bmsg)
  let entries (n : Nat) (bmsg : BrokerMessage) :=
    if pduDataLen > 0 ∧ pduDataLen % n = 0 then
      ({ (default : BrokerData) with dataList := ⟨pduDataLen, 0⟩ }, bmsg)
    else badLength
  let clientList :=
    ({ (default : BrokerData) with clientList := ⟨.start pduDataLen, default⟩ },
      { bmsg with clientList := ⟨kClientProtocolUnknown, ⟨.null, false⟩⟩ })
  match BrokerKind.ofVector bmsg.vector with
  | .connect =>
    if pduDataLen ≥ clientConnectDataMinSize then
      ({ (default : BrokerData) with clientConnect := ⟨pduDataLen, false, default⟩ }, bmsg)
    else badLength
  | .connectReply => exactly brokerConnectReplyDataSize
  | .clientEntryUpdate =>
    if pduDataLen ≥ clientEntryUpdateDataMinSize then
      ({ (default : BrokerData) with update := ⟨pduDataLen, false, default⟩ }, bmsg)
    else badLength
  | .redirectV4 => exactly redirectV4DataSize
  | .redirectV6 => exactly redirectV6DataSize
  | .connectedClientList => clientList
  | .clientAdd => clientList
  | .clientRemove => clientList
  | .clientEntryChange => clientList
  | .requestDynamicUids =>
    entries dynamicUidRequestPairSize { bmsg with dynamicUidRequestList := ⟨.null, false⟩ }
  | .assignedDynamicUids =>
    entries dynamicUidMappingSize { bmsg with dynamicUidAssignmentList := ⟨.null, false⟩ }
  | .fetchDynamicUidList =>
    entries fetchUidSize { bmsg with fetchUidAssignmentList := ⟨.null, false⟩ }
  | .null => exactly 0
  | .fetchClientList => exactly 0
  | .disconnect => exactly disconnectDataSize
  | .unknown => (unknown, bmsg)

/-- A message of a fixed size, read all at once. -/
def fixedData {σ μ : Type} (size : Nat) (read : Bytes → μ → μ) : ParseFn σ μ := fun s m d =>
  if size ≤ d.length then ⟨s, read d m, size, .fullBlockParseOk, []⟩
  else ⟨s, m, 0, .noData, []⟩

def unpackConnectReply (d : Bytes) : BrokerConnectReplyMsg :=
  ⟨u16At d 0, u16At d 2, ⟨u16At d 4, u32At d 6⟩, ⟨u16At d 10, u32At d 12⟩⟩

/-- The `switch` of `parse_broker_block` over the vector. -/
def brokerDataParser (pal : EtcPal) : BrokerKind → ParseFn BrokerData (BrokerMessage × Heap)
  | .connect => (parseClientConnect pal).zoom (·.clientConnect) (fun x s => { s with clientConnect := x })
      (·.1.clientConnect) (fun x m => ({ m.1 with clientConnect := x }, m.2))
  | .connectReply => fixedData brokerConnectReplyDataSize
      fun d m => ({ m.1 with connectReply := unpackConnectReply d }, m.2)
  | .clientEntryUpdate => (parseClientEntryUpdate pal).zoom (·.update) (fun x s => { s with update := x })
      (·.1.clientEntryUpdate) (fun x m => ({ m.1 with clientEntryUpdate := x }, m.2))
  | .redirectV4 => fixedData redirectV4DataSize
      fun d m => ({ m.1 with clientRedirect := .v4 (u32At d 0) (u16At d 4) }, m.2)
  | .redirectV6 => fixedData redirectV6DataSize
      fun d m => ({ m.1 with clientRedirect := .v6 (vecAt 16 d 0) (u16At d 16) }, m.2)
  | .connectedClientList | .clientAdd | .clientRemove | .clientEntryChange =>
      (parseClientList pal).zoom (·.clientList) (fun x s => { s with clientList := x })
        (fun m => (m.1.clientList, m.2)) (fun x m => ({ m.1 with clientList := x.1 }, x.2))
  | .requestDynamicUids =>
      parseRequestDynamicUidAssignment.zoom (·.dataList) (fun x s => { s with dataList := x })
        (fun m => (m.1.dynamicUidRequestList, m.2))
        (fun x m => ({ m.1 with dynamicUidRequestList := x.1 }, x.2))
  | .assignedDynamicUids =>
      parseDynamicUidAssignmentList.zoom (·.dataList) (fun x s => { s with dataList := x })
        (fun m => (m.1.dynamicUidAssignmentList, m.2))
        (fun x m => ({ m.1 with dynamicUidAssignmentList := x.1 }, x.2))
  | .fetchDynamicUidList =>
      parseFetchDynamicUidAssignmentList.zoom (·.dataList) (fun x s => { s with dataList := x })
        (fun m => (m.1.fetchUidAssignmentList, m.2))
        (fun x m => ({ m.1 with fetchUidAssignmentList := x.1 }, x.2))
  | .null | .fetchClientList => fixedData 0 fun _ m => m
  | .disconnect => fixedData disconnectDataSize
      fun d m => ({ m.1 with disconnect := u16At d 0 }, m.2)
  | .unknown => skip.zoom (·.unknown) (fun x s => { s with unknown := x }) id (fun x _ => x)

def brokerHeader (pal : EtcPal) (b : PduBlockState) (m : BrokerMessage × Heap) (d : Bytes) :
    HeaderRes BrokerData (BrokerMessage × Heap) × List Event :=
  let pduLen := pal.acnPduLength d
  let log := [.pduHeader pduLen b.room]
  if brokerPduHeaderSize ≤ pduLen ∧ b.sizeParsed + pduLen ≤ b.blockSize then
    let (data, bmsg) := initializeBrokerMessage { m.1 with vector := u16At d 3 }
      (pduLen - brokerPduHeaderSize)
    (.accept data (bmsg, m.2), log)
  else
    (.reject 0, log)

def brokerLayer (pal : EtcPal) : Layer BrokerData (BrokerMessage × Heap) where
  headerSize := brokerPduHeaderSize
  header := brokerHeader pal
  body := fun s m d => brokerDataParser pal (.ofVector m.1.vector) s m d

/-- `BrokerState` -/
abbrev BrokerState := Pdu BrokerData

/-- `parse_broker_block` -/
def parseBrokerBlock (pal : EtcPal) : ParseFn BrokerState (BrokerMessage × Heap) :=
  (brokerLayer pal).parse

end RDMnet
