import RDMnet.Lib.Bytes

/-!
# Messages of the TCP protocols

The message structures that the core fills while it parses (`message.h`, `broker_message.h`,
`rpt_message.h`, `client_entry.h`) and the constants of the wire format they come from.

* A C `union` is a structure with one field for each member; the `vector` beside it says which
  field is meant.
* Values that arrive by a cast from the wire (`client_protocol_t`, `rpt_status_code_t`, ...) keep
  the width of the wire field, because any number can arrive.
* An array on the heap is an `Arr`: the pointer is null, or points to a live array of at least one
  element, or dangles.
-/

namespace RDMnet

/-! ### Constants of the wire format -/

abbrev acnTcpPreambleSize : Nat := 16
abbrev acnRlpHeaderSizeExtLen : Nat := 23
abbrev acnVectorRootRpt : UInt32 := 5
abbrev acnVectorRootBroker : UInt32 := 9

abbrev brokerPduHeaderSize : Nat := 5
abbrev e133ScopeStringPaddedLength : Nat := 63
abbrev e133DomainStringPaddedLength : Nat := 231
abbrev clientEntryHeaderSize : Nat := 23
abbrev rptClientEntryDataSize : Nat := 23
abbrev clientConnectCommonFieldSize : Nat := 297
abbrev clientConnectDataMinSize : Nat := 320
abbrev brokerConnectReplyDataSize : Nat := 16
abbrev clientEntryUpdateCommonFieldSize : Nat := 1
abbrev clientEntryUpdateDataMinSize : Nat := 24
abbrev redirectV4DataSize : Nat := 6
abbrev redirectV6DataSize : Nat := 18
abbrev dynamicUidRequestPairSize : Nat := 22
abbrev dynamicUidMappingSize : Nat := 24
abbrev fetchUidSize : Nat := 6
abbrev disconnectDataSize : Nat := 2

abbrev rptPduHeaderSize : Nat := 28
abbrev rptStatusHeaderSize : Nat := 5
abbrev rptStatusStringMaxlen : Nat := 1024
abbrev requestNotifPduHeaderSize : Nat := 7
abbrev rdmCmdPduMinSize : Nat := 29
abbrev rdmCmdPduMaxSize : Nat := 260
abbrev rdmMinBytes : Nat := 26
abbrev rdmMaxBytes : Nat := 257

abbrev vectorRptRequest : UInt32 := 1
abbrev vectorRptStatus : UInt32 := 2
abbrev vectorRptNotification : UInt32 := 3
abbrev vectorRequestRdmCmd : UInt32 := 1
abbrev vectorNotificationRdmCmd : UInt32 := 1

abbrev kClientProtocolRPT : UInt32 := 5
abbrev kClientProtocolEPT : UInt32 := 0xb
abbrev kClientProtocolUnknown : UInt32 := 0xffffffff

/-- The messages that a Broker vector selects (`VECTOR_BROKER_*`), as the parser groups them. -/
inductive BrokerKind
  | connect | connectReply | clientEntryUpdate | redirectV4 | redirectV6
  | fetchClientList | connectedClientList | clientAdd | clientRemove | clientEntryChange
  | requestDynamicUids | assignedDynamicUids | fetchDynamicUidList | disconnect | null
  | unknown
  deriving DecidableEq, Repr

/-- `VECTOR_BROKER_*`, with the artificial vector `0xffff` for `unknown`. -/
def BrokerKind.vector : BrokerKind → UInt16
  | connect => 1
  | connectReply => 2
  | clientEntryUpdate => 3
  | redirectV4 => 4
  | redirectV6 => 5
  | fetchClientList => 6
  | connectedClientList => 7
  | clientAdd => 8
  | clientRemove => 9
  | clientEntryChange => 10
  | requestDynamicUids => 11
  | assignedDynamicUids => 12
  | fetchDynamicUidList => 13
  | disconnect => 14
  | null => 15
  | unknown => 0xffff

/-- The `case` of a `switch` on a Broker vector; every other value takes the `default`. -/
def BrokerKind.ofVector (v : UInt16) : BrokerKind :=
  ([connect, connectReply, clientEntryUpdate, redirectV4, redirectV6, fetchClientList,
    connectedClientList, clientAdd, clientRemove, clientEntryChange, requestDynamicUids,
    assignedDynamicUids, fetchDynamicUidList, disconnect, null].find? (·.vector == v)).getD unknown

theorem BrokerKind.ofVector_vector (k : BrokerKind) : ofVector k.vector = k := by
  cases k <;> rfl

/-! ### Arrays on the heap -/

/-- A pointer to a `malloc`ed array that only grows. -/
inductive Arr (α : Type) where
  | null
  | live (init : List α) (last : α)
  | freed
  deriving DecidableEq, Repr

instance {α : Type} : Inhabited (Arr α) := ⟨.null⟩

namespace Arr

variable {α : Type}

def toList : Arr α → List α
  | null => []
  | live init last => init ++ [last]
  | freed => []

def isNull : Arr α → Bool
  | null => true
  | _ => false

def isFreed : Arr α → Bool
  | freed => true
  | _ => false

/-- One more element behind the others, after a `malloc` or `realloc` that succeeded. -/
def push : Arr α → α → Arr α
  | null, x => live [] x
  | live init last, x => live (init ++ [last]) x
  | freed, x => live [] x

/-- Write through a pointer to the last element. -/
def modifyLast (f : α → α) : Arr α → Arr α
  | live init last => live init (f last)
  | a => a

/-- `free`, as `rc_free_message_resources` does it: the pointer itself is left as it is. -/
def free : Arr α → Arr α
  | null => null
  | _ => freed

@[simp] theorem toList_push (a : Arr α) (x : α) : (a.push x).toList = a.toList ++ [x] := by
  cases a <;> simp [push, toList]

@[simp] theorem isFreed_push (a : Arr α) (x : α) : (a.push x).isFreed = false := by
  cases a <;> rfl

@[simp] theorem isNull_push (a : Arr α) (x : α) : (a.push x).isNull = false := by
  cases a <;> rfl

@[simp] theorem isFreed_modifyLast (f : α → α) (a : Arr α) : (a.modifyLast f).isFreed = a.isFreed := by
  cases a <;> rfl

@[simp] theorem isNull_modifyLast (f : α → α) (a : Arr α) : (a.modifyLast f).isNull = a.isNull := by
  cases a <;> rfl

@[simp] theorem isNull_free (a : Arr α) : a.free.isNull = a.isNull := by
  cases a <;> rfl

end Arr

/-- The outcomes of the allocations to come: those in `script`, then always `rest`. -/
structure Heap where
  script : List Bool
  rest : Bool
  deriving DecidableEq, Repr

namespace Heap

def plenty : Heap := ⟨[], true⟩

def alloc (h : Heap) : Bool × Heap :=
  match h.script with
  | [] => (h.rest, h)
  | b :: bs => (b, ⟨bs, h.rest⟩)

@[simp] theorem alloc_plenty : plenty.alloc = (true, plenty) := rfl

end Heap

/-! ### Message structures -/

abbrev Uuid := Vector UInt8 16

instance : Inhabited Uuid := ⟨Vector.replicate 16 0⟩

instance : LawfulBEq Uuid := inferInstance

structure RdmUid where
  manu : UInt16
  id : UInt32
  deriving DecidableEq, Repr, Inhabited

/-- A C string in a buffer of `cap` bytes: no NUL inside, and room for the one behind. -/
structure CString (cap : Nat) where
  chars : Bytes
  noNul : 0 ∉ chars
  fits : chars.length < cap

instance {cap : Nat} : DecidableEq (CString cap) := fun a b =>
  decidable_of_iff (a.chars = b.chars) ⟨fun h => by cases a; cases b; simpa using h,
    fun h => h ▸ rfl⟩

theorem CString.ext {cap : Nat} {a b : CString cap} (h : a.chars = b.chars) : a = b := by
  cases a; cases b; simpa using h

theorem scopeString_pos : 0 < e133ScopeStringPaddedLength := by decide

theorem domainString_pos : 0 < e133DomainStringPaddedLength := by decide

/-- `rdmnet_safe_strncpy(destination, source, cap)`: up to the first NUL, cut to `cap - 1`. -/
def safeStrncpy (cap : Nat) (hcap : 0 < cap) (source : Bytes) : CString cap where
  chars := (source.take (cap - 1)).takeWhile (· != 0)
  noNul := by
    intro h
    have hne := List.all_eq_true.mp List.all_takeWhile _ h
    simp at hne
  fits := by
    have h1 := (List.takeWhile_prefix (fun x : UInt8 => x != 0) (l := source.take (cap - 1))).length_le
    have h2 := List.length_take_le (cap - 1) source
    omega

instance {cap : Nat} [NeZero cap] : Inhabited (CString cap) :=
  ⟨⟨[], List.not_mem_nil, Nat.pos_of_ne_zero (NeZero.ne cap)⟩⟩

abbrev Scope := CString e133ScopeStringPaddedLength
abbrev SearchDomain := CString e133DomainStringPaddedLength

structure RptClientEntry where
  cid : Uuid
  uid : RdmUid
  type : UInt32
  bindingCid : Uuid
  deriving DecidableEq, Inhabited

/-- `ClientEntry`: of the data union only the RPT member, whose `cid` shares its place with the
EPT member's. -/
structure ClientEntry where
  clientProtocol : UInt32
  data : RptClientEntry
  deriving DecidableEq, Inhabited

structure BrokerClientConnectMsg where
  scope : Scope
  e133Version : UInt16
  searchDomain : SearchDomain
  connectFlags : UInt8
  clientEntry : ClientEntry
  deriving DecidableEq, Inhabited

structure BrokerConnectReplyMsg where
  connectStatus : UInt16
  e133Version : UInt16
  brokerUid : RdmUid
  clientUid : RdmUid
  deriving DecidableEq, Repr, Inhabited

structure BrokerClientEntryUpdateMsg where
  connectFlags : UInt8
  clientEntry : ClientEntry
  deriving DecidableEq, Inhabited

inductive RedirectAddr
  | v4 (ip : UInt32) (port : UInt16)
  | v6 (ip : Vector UInt8 16) (port : UInt16)
  deriving DecidableEq

instance : Inhabited RedirectAddr := ⟨.v4 0 0⟩

/-- The list structures of the library: an array, its length in the array itself, and whether the
rest of the list comes in another message. -/
structure MsgList (α : Type) where
  items : Arr α
  moreComing : Bool
  deriving DecidableEq, Inhabited

structure BrokerClientList where
  clientProtocol : UInt32
  rpt : MsgList RptClientEntry
  deriving DecidableEq, Inhabited

structure BrokerDynamicUidRequest where
  manuId : UInt16
  rid : Uuid
  deriving DecidableEq, Inhabited

structure RdmnetDynamicUidMapping where
  uid : RdmUid
  rid : Uuid
  statusCode : UInt16
  deriving DecidableEq, Inhabited

structure BrokerMessage where
  vector : UInt16
  clientConnect : BrokerClientConnectMsg
  connectReply : BrokerConnectReplyMsg
  clientEntryUpdate : BrokerClientEntryUpdateMsg
  clientRedirect : RedirectAddr
  clientList : BrokerClientList
  dynamicUidRequestList : MsgList BrokerDynamicUidRequest
  dynamicUidAssignmentList : MsgList RdmnetDynamicUidMapping
  fetchUidAssignmentList : MsgList RdmUid
  disconnect : UInt16
  deriving DecidableEq, Inhabited

structure RptHeader where
  sourceUid : RdmUid
  sourceEndpointId : UInt16
  destUid : RdmUid
  destEndpointId : UInt16
  seqnum : UInt32
  deriving DecidableEq, Repr, Inhabited

structure RptStatusMsg where
  statusCode : UInt16
  statusString : Option Bytes
  deriving DecidableEq, Repr, Inhabited

/-- The bytes of an `RdmBuffer` up to its `data_len`. -/
abbrev RdmBuffer := Bytes

structure RptMessage where
  vector : UInt32
  header : RptHeader
  status : RptStatusMsg
  rdm : MsgList RdmBuffer
  deriving DecidableEq, Inhabited

structure RdmnetMessage where
  vector : UInt32
  senderCid : Uuid
  broker : BrokerMessage
  rpt : RptMessage
  deriving DecidableEq, Inhabited

end RDMnet
