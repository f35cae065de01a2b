import RDMnet.MsgBuf.Broker

/-!
# RPT PDUs

`parse_rpt_block` and the two parse functions below it, for lists of RDM commands (RPT Request and
RPT Notification) and for RPT Status.
-/

namespace RDMnet

/-! ### Lists of RDM commands -/

/-- `RdmListState` -/
structure RdmListState where
  parsedRequestNotifHeader : Bool
  block : PduBlockState
  deriving DecidableEq, Repr, Inhabited

section RdmList

variable (pal : EtcPal)

/-- One round of the loop of `parse_rdm_list`.  The copy of a command shorter than its own length
field would be of a negative size. -/
def rdmListRound :
    Parser UInt8 RdmListState (MsgList RdmBuffer × Heap) (Option ParseRes) Event := fun s m d =>
  if ¬ s.block.sizeParsed < s.block.blockSize then
    ⟨s, m, 0, some .noData, []⟩
  else if d.length < rdmCmdPduMinSize then
    ⟨s, m, 0, some .noData, [.rdmRoom s.block.room]⟩
  else
    let pduLen := pal.acnPduLength d
    let log := [.rdmRoom s.block.room, .rdmCmd pduLen s.block.blockSize s.block.room]
    if pduLen > s.block.blockSize ∨ pduLen > rdmCmdPduMaxSize then
      let c := consumeBadBlock s.block d.length
      ⟨{ s with block := c.1 }, m, c.2.1, some c.2.2, log⟩
    else if d.length < pduLen then
      ⟨s, m, 0, some .noData, log⟩
    else if m.1.items.isFreed then
      ⟨s, m, 0, some .stuck, log ++ [.touchFreed]⟩
    else
      let (success, heap) := m.2.alloc
      if success then
        if pduLen < 3 then
          ⟨s, (m.1, heap), 0, some .stuck, log ++ [.alloc true]⟩
        else
          let block := s.block.advance pduLen
          ⟨{ s with block },
            ({ m.1 with items := m.1.items.push ((d.drop 3).take (pduLen - 3)) }, heap), pduLen,
            if block.sizeParsed ≥ block.blockSize then some .fullBlockParseOk else none, log ++ [.alloc true]⟩
      else if m.1.items.isNull then
        ⟨s, (m.1, heap), 0, some .noData, log ++ [.alloc false]⟩
      else
        -- out of space: send back up what there is
        ⟨s, ({ m.1 with moreComing := true }, heap), 0, some .partialBlockParseOk, log ++ [.alloc false]⟩

/-- The part of `parse_rdm_list` behind the header. -/
def rdmListData : ParseFn RdmListState (MsgList RdmBuffer × Heap) := fun s m d =>
  if s.block.consumingBadBlock then
    let c := consumeBadBlock s.block d.length
    ⟨{ s with block := c.1 }, m, c.2.1, c.2.2, []⟩
  else
    (rdmListRound pal).iterate (fun _ _ d => d.length) .stuck s m d

/-- `parse_rdm_list`.  A rejected header leaves `parsed_request_notif_header` unset. -/
def parseRdmList : ParseFn RdmListState (MsgList RdmBuffer × Heap) := fun s m d =>
  if s.parsedRequestNotifHeader then
    rdmListData pal s m d
  else if d.length < requestNotifPduHeaderSize then
    ⟨s, m, 0, .noData, []⟩
  else
    let vect := u32At d 3
    let accepted := pal.acnPduLength d = s.block.blockSize ∧
      (vect = vectorRequestRdmCmd ∨ vect = vectorNotificationRdmCmd)
    let log := [.rdmHeader (decide accepted) s.block.sizeParsed s.block.blockSize d.length]
    if accepted then
      let s := { s with
        parsedRequestNotifHeader := true
        block.blockSize := sizeSub s.block.blockSize requestNotifPduHeaderSize }
      (rdmListData pal s m (d.drop requestNotifPduHeaderSize)).since requestNotifPduHeaderSize log
    else
      let c := consumeBadBlock s.block d.length
      ⟨{ s with block := c.1 }, m, c.2.1, c.2.2, log⟩

end RdmList

/-! ### RPT Status -/

/-- What the data section of an RPT Status PDU may hold. -/
inductive StatusKind
  /-- no additional data -/
  | bare
  /-- an optional status string -/
  | withString
  | unknown
  deriving DecidableEq, Repr

/-- The `switch` over `VECTOR_RPT_STATUS_*`: 1 to 7 take a string, `INVALID_MESSAGE` (8) and
`INVALID_COMMAND_CLASS` (9) take nothing. -/
def StatusKind.ofCode (code : UInt16) : StatusKind :=
  if code = 8 ∨ code = 9 then .bare
  else if 1 ≤ code ∧ code ≤ 7 then .withString
  else .unknown

/-- The first half of `parse_rpt_status` is that of a layer whose PDU has no further layer. -/
def statusLayer (pal : EtcPal) : Layer Unit (RptStatusMsg × Heap) where
  headerSize := rptStatusHeaderSize
  header := fun b m d =>
    let pduLen := pal.acnPduLength d
    if rptStatusHeaderSize ≤ pduLen ∧ b.blockSize ≤ pduLen then
      (.accept () ({ m.1 with statusCode := u16At d 3 }, m.2), [])
    else
      (.reject 0, [])
  body := fun s m _ => ⟨s, m, 0, .noData, []⟩

/-- The second half: the data section of the status. -/
def statusData (d : Bytes) (o : Out (Pdu Unit) (RptStatusMsg × Heap) ParseRes Event) :
    Out (Pdu Unit) (RptStatusMsg × Heap) ParseRes Event :=
  let s := o.st
  let m := o.msg
  let rest := d.drop o.used
  let log := o.log ++ [.status m.1.statusCode s.block.room]
  let bad : Out (Pdu Unit) (RptStatusMsg × Heap) ParseRes Event :=
    let c := consumeBadBlock s.block rest.length
    ⟨{ s with block := c.1 }, m, o.used + c.2.1, c.2.2, log⟩
  let noString : Out (Pdu Unit) (RptStatusMsg × Heap) ParseRes Event :=
    ⟨s, ({ m.1 with statusString := none }, m.2), o.used, .fullBlockParseOk, log⟩
  match StatusKind.ofCode m.1.statusCode with
  | .bare => if s.block.sizeParsed = s.block.blockSize then noString else bad
  | .withString =>
    let strLen := s.block.room
    if strLen = 0 then noString
    else if strLen > rptStatusStringMaxlen then bad
    else if strLen ≤ rest.length then
      let (success, heap) := m.2.alloc
      ⟨{ s with block := s.block.advance strLen },
        ({ m.1 with statusString := if success then some (rest.take strLen) else none }, heap),
        o.used + strLen, .fullBlockParseOk, log ++ [.alloc success]⟩
    else ⟨s, m, o.used, o.res, log⟩
  | .unknown => bad

/-- `parse_rpt_status` -/
def parseRptStatus (pal : EtcPal) : ParseFn (Pdu Unit) (RptStatusMsg × Heap) := fun s m d =>
  let o := (statusLayer pal).start s m d
  if o.st.block.parsedHeader then statusData d o else o

/-! ### The RPT layer -/

/-- The messages that an RPT vector selects. -/
inductive RptKind
  | request | status | notification | unknown
  deriving DecidableEq, Repr

/-- The `case` of a `switch` on an RPT vector. -/
def RptKind.ofVector (v : UInt32) : RptKind :=
  if v = vectorRptRequest then .request
  else if v = vectorRptStatus then .status
  else if v = vectorRptNotification then .notification
  else .unknown

/-- The union of `RptState`. -/
structure RptData where
  rdmList : RdmListState
  status : Pdu Unit
  unknown : PduBlockState
  deriving DecidableEq, Inhabited

/-- `initialize_rpt_message` -/
def initializeRptMessage (rmsg : RptMessage) (pduDataLen : Nat) : RptData × RptMessage :=
  let unknown : RptData := { (default : RptData) with unknown := .start pduDataLen }
  let badLength := (unknown, { rmsg with vector := 0xffffffff })
  let rdmList :=
    if pduDataLen ≥ requestNotifPduHeaderSize then
      ({ (default : RptData) with rdmList := ⟨false, .start pduDataLen⟩ },
        { rmsg with rdm := ⟨.null, false⟩ })
    else badLength
  match RptKind.ofVector rmsg.vector with
  | .request => rdmList
  | .notification => rdmList
  | .status =>
    if pduDataLen ≥ rptStatusHeaderSize then
      ({ (default : RptData) with status := ⟨.start pduDataLen, ()⟩ }, rmsg)
    else badLength
  | .unknown => (unknown, rmsg)

def unpackRptHeader (d : Bytes) : RptHeader :=
  ⟨⟨u16At d 7, u32At d 9⟩, u16At d 13, ⟨u16At d 15, u32At d 17⟩, u16At d 21, u32At d 23⟩

/-- The `switch` of `parse_rpt_block` over the vector. -/
def rptDataParser (pal : EtcPal) : RptKind → ParseFn RptData (RptMessage × Heap)
  | .request | .notification =>
    (parseRdmList pal).zoom (·.rdmList) (fun x s => { s with rdmList := x })
      (fun m => (m.1.rdm, m.2)) (fun x m => ({ m.1 with rdm := x.1 }, x.2))
  | .status =>
    (parseRptStatus pal).zoom (·.status) (fun x s => { s with status := x })
      (fun m => (m.1.status, m.2)) (fun x m => ({ m.1 with status := x.1 }, x.2))
  | .unknown => skip.zoom (·.unknown) (fun x s => { s with unknown := x }) id (fun x _ => x)

def rptHeader (pal : EtcPal) (b : PduBlockState) (m : RptMessage × Heap) (d : Bytes) :
    HeaderRes RptData (RptMessage × Heap) × List Event :=
  let pduLen := pal.acnPduLength d
  let log := [.pduHeader pduLen b.room]
  if rptPduHeaderSize ≤ pduLen ∧ b.sizeParsed + pduLen ≤ b.blockSize then
    let (data, rmsg) := initializeRptMessage
      { m.1 with vector := u32At d 3, header := unpackRptHeader d } (pduLen - rptPduHeaderSize)
    (.accept data (rmsg, m.2), log)
  else
    (.reject 0, log)

def rptLayer (pal : EtcPal) : Layer RptData (RptMessage × Heap) where
  headerSize := rptPduHeaderSize
  header := rptHeader pal
  body := fun s m d => rptDataParser pal (.ofVector m.1.vector) s m d

/-- `RptState` -/
abbrev RptState := Pdu RptData

/-- `parse_rpt_block` -/
def parseRptBlock (pal : EtcPal) : ParseFn RptState (RptMessage × Heap) :=
  (rptLayer pal).parse

end RDMnet
