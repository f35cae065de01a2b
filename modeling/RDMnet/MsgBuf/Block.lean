import RDMnet.Core.EtcPal
import RDMnet.Lib.Resumable

/-!
# PDU blocks

What all layers of `msg_buf.c` share: the state of a PDU block, `consume_bad_block`,
`check_for_full_parse`, and the body of `parse_rlp_block`, `parse_broker_block` and
`parse_rpt_block`, which differ only in their header and in the parser of the next layer.

Sizes are natural numbers; subtraction is that of `size_t`.  A parse function leaves a log of
`Event`s, which the code does not have: the values it read at each decision, and the outcomes of
allocations and of its own size checks.
-/

namespace RDMnet

/-- `rc_parse_result_t`, with two more outcomes of a call: `unassigned` if it returns without
writing `*result`, and `stuck` if it does not return (an endless loop or undefined behaviour). -/
inductive ParseRes
  | noData | partialBlockParseOk | partialBlockProtErr | fullBlockParseOk | fullBlockProtErr
  | unassigned | stuck
  deriving DecidableEq, Repr

/-- `PduBlockState` -/
structure PduBlockState where
  blockSize : Nat
  sizeParsed : Nat
  consumingBadBlock : Bool
  parsedHeader : Bool
  deriving DecidableEq, Repr, Inhabited

/-- `INIT_PDU_BLOCK_STATE` -/
def PduBlockState.start (blockSize : Nat) : PduBlockState := ⟨blockSize, 0, false, false⟩

/-- `block_size - size_parsed` -/
def PduBlockState.room (b : PduBlockState) : Nat := sizeSub b.blockSize b.sizeParsed

/-- `size_parsed += n` -/
def PduBlockState.advance (b : PduBlockState) (n : Nat) : PduBlockState :=
  { b with sizeParsed := b.sizeParsed + n }

/-- `ClientEntryState`; `parsed_entry_header` is never read. -/
structure ClientEntryState where
  enclosingBlockSize : Nat
  clientProtocol : UInt32
  entryData : PduBlockState
  deriving DecidableEq, Repr, Inhabited

/-- A decision of the parser, with what it read. -/
inductive Event
  /-- A TCP preamble that announces a block of `blockLen` bytes. -/
  | preamble (blockLen : Nat)
  /-- A root layer header for `dataLen` bytes, at the end of the first `sizeParsed` bytes of the
  block, with `avail` bytes at hand behind it. -/
  | rlpHeader (dataLen sizeParsed blockSize avail : Nat)
  /-- A Broker or RPT header of a PDU of `pduLen` bytes, with `room` bytes of the block from it. -/
  | pduHeader (pduLen room : Nat)
  /-- A Client Entry header of a PDU of `pduLen` bytes, and the state in which
  `parse_single_client_entry` goes on to the data. -/
  | entryHeader (pduLen : Nat) (entry : ClientEntryState)
  /-- The entry of a Connect or Entry Update PDU is through, with `left` bytes of the PDU behind
  it. -/
  | entryTail (left : Nat)
  /-- A client list of `room` bytes is to be parsed; the protocol of its first entry is given if
  its header is at hand. -/
  | listHead (room : Nat) (protocol : Option UInt32)
  /-- An RPT client list is about to look for an entry, with `room` bytes of the list left. -/
  | listRoom (room : Nat)
  /-- The header of an entry of an RPT client list, with the state that the header leads to. -/
  | listEntry (pduLen room : Nat) (entry : ClientEntryState)
  /-- The entry has another protocol: `parsed` bytes of this call lie before it, `remaining` from
  it on. -/
  | foreignEntry (room parsed remaining : Nat)
  /-- The data section of an RPT Status PDU, with `room` bytes left of it. -/
  | status (code : UInt16) (room : Nat)
  /-- The header of an RDM list, read with `avail` bytes at hand. -/
  | rdmHeader (accepted : Bool) (sizeParsed blockSize avail : Nat)
  /-- An RDM list is about to look for a command, with `room` bytes of the list left. -/
  | rdmRoom (room : Nat)
  /-- The length field of an RDM command. -/
  | rdmCmd (pduLen blockSize room : Nat)
  /-- `malloc` or `realloc` -/
  | alloc (success : Bool)
  /-- `realloc` of an array that was freed before. -/
  | touchFreed
  /-- `RDMNET_ASSERT_VERIFY` of the bytes taken by the next layer. -/
  | check (holds : Bool)
  /-- Whether the parse result that `rc_msg_buf_parse_data` reads has been written. -/
  | assigned (written : Bool)
  deriving DecidableEq, Repr

/-- A parse function of `msg_buf.c`: state, message, data at hand. -/
abbrev ParseFn (σ μ : Type) := Parser UInt8 σ μ ParseRes Event

/-- `consume_bad_block(block, data_len, parse_res)`: block, return value and result. -/
def consumeBadBlock (block : PduBlockState) (dataLen : Nat) : PduBlockState × Nat × ParseRes :=
  if dataLen ≥ block.room then
    ({ block with sizeParsed := block.blockSize }, block.room, .fullBlockProtErr)
  else
    ({ block with sizeParsed := block.sizeParsed + dataLen, consumingBadBlock := true }, dataLen, .noData)

/-- `consume_bad_block` on all the data at hand. -/
def skip {μ : Type} : ParseFn PduBlockState μ := fun b m d =>
  let c := consumeBadBlock b d.length
  ⟨c.1, m, c.2.1, c.2.2, []⟩

/-- `check_for_full_parse(prev_res, block)` -/
def checkForFullParse (prevRes : ParseRes) (block : PduBlockState) : ParseRes × PduBlockState :=
  match prevRes with
  | .fullBlockParseOk =>
    (if block.sizeParsed < block.blockSize then .partialBlockParseOk else .fullBlockParseOk,
      { block with parsedHeader := false })
  | .fullBlockProtErr =>
    (if block.sizeParsed < block.blockSize then .partialBlockProtErr else .fullBlockProtErr,
      { block with parsedHeader := false })
  | r => (r, block)

/-! ### A layer of PDUs -/

/-- The state of a layer: its block, and the union with the state of the PDU's data. -/
structure Pdu (χ : Type) where
  block : PduBlockState
  data : χ
  deriving DecidableEq

instance {χ : Type} [Inhabited χ] : Inhabited (Pdu χ) := ⟨⟨default, default⟩⟩

/-- A header was accepted, or rejected after `counted` bytes had been added to the count. -/
inductive HeaderRes (χ μ : Type) where
  | accept (data : χ) (msg : μ)
  | reject (counted : Nat)

structure Layer (χ μ : Type) where
  headerSize : Nat
  header : PduBlockState → μ → Bytes → HeaderRes χ μ × List Event
  body : ParseFn χ μ

namespace Layer

variable {χ μ : Type}

/-- The first half of a layer's parse function: continue a bad block, or find a header. -/
def start (L : Layer χ μ) : ParseFn (Pdu χ) μ := fun s m d =>
  let bad (counted : Nat) (log : List Event) : Out (Pdu χ) μ ParseRes Event :=
    let c := consumeBadBlock (s.block.advance counted) d.length
    ⟨{ s with block := c.1 }, m, counted + c.2.1, c.2.2, log⟩
  if s.block.consumingBadBlock then
    bad 0 []
  else if s.block.parsedHeader then
    ⟨s, m, 0, .noData, []⟩
  else if s.block.room < L.headerSize then
    -- not enough left of the block for another header
    bad 0 []
  else if L.headerSize ≤ d.length then
    match L.header s.block m d with
    | (.accept x m', log) =>
      ⟨⟨{ s.block.advance L.headerSize with parsedHeader := true }, x⟩, m', L.headerSize, .noData, log⟩
    | (.reject counted, log) => bad counted log
  else
    ⟨s, m, 0, .noData, []⟩

/-- The second half: hand the rest of the data to the next layer and check what it took.  The union
is dead once the PDU is through, until the next header sets it up again. -/
def finish [Inhabited χ] (L : Layer χ μ) (d : Bytes) (o : Out (Pdu χ) μ ParseRes Event) :
    Out (Pdu χ) μ ParseRes Event :=
  if o.st.block.parsedHeader then
    let c := L.body o.st.data o.msg (d.drop o.used)
    if c.res = .stuck then
      ⟨{ o.st with data := c.st }, c.msg, 0, .stuck, o.log ++ c.log⟩
    else if c.used ≤ d.length - o.used ∧ o.st.block.sizeParsed + c.used ≤ o.st.block.blockSize then
      let res := if c.res = .unassigned then o.res else c.res
      let r := checkForFullParse res (o.st.block.advance c.used)
      ⟨⟨r.2, if r.2.parsedHeader then c.st else default⟩, c.msg, o.used + c.used, r.1,
        o.log ++ c.log ++ [.check true]⟩
    else
      ⟨{ o.st with data := c.st }, c.msg, 0, .unassigned, o.log ++ c.log ++ [.check false]⟩
  else o

def parse [Inhabited χ] (L : Layer χ μ) : ParseFn (Pdu χ) μ := fun s m d =>
  L.finish d (L.start s m d)

end Layer

end RDMnet
