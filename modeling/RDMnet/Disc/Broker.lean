import RDMnet.Disc.Names
import RDMnet.Conn.Machine

/-!
# Discovered brokers

`discovered_broker.c`, with the data of the lightweight mDNS querier.  The arrays that grow are pointers
that may be null.
-/

namespace RDMnet

/-- `EtcPalIpAddr` of a listen address. -/
inductive IpAddr
  | v4 (addr : UInt32)
  | v6 (addr : Bytes)
  deriving DecidableEq

/-- `DnsTxtRecordItemInternal`: what has been written to `value` is longer than `value_len` after a
longer value. -/
structure DnsTxtRecordItemInternal where
  key : Bytes
  value : Bytes
  valueLen : Nat
  deriving DecidableEq

/-- Ghost data: a record that was received for an entry. -/
inductive Received
  | srv (port : UInt16)
  | txt (data : Bytes)
  | address (addr : IpAddr)
  deriving DecidableEq

/-- `RdmnetDiscoveredBrokerPlatformData`, without what no function reads. -/
structure DiscoveredBrokerPlatformData where
  srvRecordReceived : Bool
  txtRecordReceived : Bool
  initialNotificationSent : Bool
  updatePending : Bool
  destructionPending : Bool
  wireHostName : Bytes
  sentServiceQuery : Bool
  sentHostQuery : Bool
  queryTimer : EtcPalTimer
  ttlTimer : EtcPalTimer
  deriving DecidableEq

/-- `DiscoveredBroker`; of an element of `additional_txt_items_array` only `value_len` is not in
`additional_txt_items_data`. -/
structure DiscoveredBroker where
  cid : Uuid
  uid : RdmUid
  e133Version : Int
  serviceInstanceName : Bytes
  port : UInt16
  listenAddrArray : Option (List IpAddr)
  listenAddrNetintArray : Option (List Nat)
  numListenAddrs : Nat
  scope : Bytes
  model : Bytes
  manufacturer : Bytes
  additionalTxtItemsArray : Option (List Nat)
  additionalTxtItemsData : Option (List DnsTxtRecordItemInternal)
  numAdditionalTxtItems : Nat
  platformData : DiscoveredBrokerPlatformData
  /-- Ghost data: the records that were received for this entry. -/
  received : List Received
  deriving DecidableEq

/-- `RdmnetBrokerDiscInfo` -/
structure BrokerDiscInfo where
  cid : Uuid
  uid : RdmUid
  e133Version : Int
  serviceInstanceName : Bytes
  port : UInt16
  listenAddrs : Option (List IpAddr)
  listenAddrNetints : Option (List Nat)
  numListenAddrs : Nat
  scope : Bytes
  model : Bytes
  manufacturer : Bytes
  additionalTxtItems : Option (List Nat) × Option (List DnsTxtRecordItemInternal)
  numAdditionalTxtItems : Nat
  deriving DecidableEq

/-- The comparison of `discovered_broker_add_binary_txt_record_item` with the value that an item has. -/
def DnsTxtRecordItemInternal.sameValue (item : DnsTxtRecordItemInternal)
    (value : Option Bytes) : Checked Bool := do
  let data := value.getD []
  if data.length = item.valueLen then
    if data.length = 0 then return true
    return (← assertVerify value.isSome) && data = item.value.take data.length
  else return false

namespace DiscoveredBroker

/-- `discovered_broker_new` with empty names, if the allocation succeeds. -/
def new : DiscoveredBroker where
  cid := default
  uid := default
  e133Version := 0
  serviceInstanceName := []
  port := 0
  listenAddrArray := none
  listenAddrNetintArray := none
  numListenAddrs := 0
  scope := []
  model := []
  manufacturer := []
  additionalTxtItemsArray := none
  additionalTxtItemsData := none
  numAdditionalTxtItems := 0
  platformData :=
    { srvRecordReceived := false
      txtRecordReceived := false
      initialNotificationSent := false
      updatePending := false
      destructionPending := false
      wireHostName := List.replicate dnsFqdnMaxLength 0
      sentServiceQuery := false
      sentHostQuery := false
      queryTimer := ⟨0, 0⟩
      ttlTimer := ⟨0, 0⟩ }
  received := []

/-- `discovered_broker_add_listen_addr` -/
def addListenAddr (db : DiscoveredBroker) (addr : IpAddr) (netint : Nat) :
    Checked (DiscoveredBroker × Bool) := do
  match db.listenAddrArray with
  | none =>
    if !(← assertVerify db.listenAddrNetintArray.isNone) then return (db, false)
    let addrs ← alloc
    let netints ← alloc
    if addrs && netints then
      return ({ db with
        listenAddrArray := some [addr]
        listenAddrNetintArray := some [netint]
        numListenAddrs := 1 }, true)
    else
      -- nothing is written to the array that has been allocated
      return ({ db with
        listenAddrArray := if addrs then some [] else none
        listenAddrNetintArray := if netints then some [] else none }, false)
  | some arr =>
    if !(← assertVerify db.listenAddrNetintArray.isSome) then return (db, false)
    let addrs ← alloc
    let netints ← alloc
    let db := { db with
      listenAddrArray := some (if addrs then arr.take db.numListenAddrs ++ [addr] else arr)
      listenAddrNetintArray := db.listenAddrNetintArray.map fun arr =>
        if netints then arr.take db.numListenAddrs ++ [netint] else arr }
    if addrs && netints then
      return ({ db with numListenAddrs := db.numListenAddrs + 1 }, true)
    else return (db, false)

/-- `find_txt_item`: the index of the item with a key. -/
def findTxtItem (db : DiscoveredBroker) (key : Bytes) : Checked (Option Nat) := do
  if db.numAdditionalTxtItems = 0 then return none
  if !(← assertVerify db.additionalTxtItemsData.isSome) then return none
  return ((db.additionalTxtItemsData.getD []).take db.numAdditionalTxtItems).findIdx? (·.key = key)

/-- `expand_txt_record_arrays`; what is in the new element is not known. -/
def expandTxtRecordArrays (db : DiscoveredBroker) : Checked (DiscoveredBroker × Bool) := do
  match db.additionalTxtItemsArray with
  | none =>
    let array ← alloc
    let data ← alloc
    if array && data then
      return ({ db with
        additionalTxtItemsArray := some [0]
        additionalTxtItemsData := some [⟨[], [], 0⟩]
        numAdditionalTxtItems := db.numAdditionalTxtItems + 1 }, true)
    else
      -- both are freed, and the pointers dangle
      return ({ db with
        additionalTxtItemsArray := if array then some [] else none
        additionalTxtItemsData := if data then some [] else none }, false)
  | some array =>
    if !(← alloc) then return (db, false)
    if !(← alloc) then return (db, false)
    return ({ db with
      additionalTxtItemsArray := some (array ++ [0])
      additionalTxtItemsData := some (db.additionalTxtItemsData.getD [] ++ [⟨[], [], 0⟩])
      numAdditionalTxtItems := db.numAdditionalTxtItems + 1 }, true)

/-- `get_next_unused_txt_item`: the index of the item. -/
def getNextUnusedTxtItem (db : DiscoveredBroker) : Checked (DiscoveredBroker × Option Nat) := do
  let (db, expanded) ← db.expandTxtRecordArrays
  if expanded then
    if !(← assertVerify db.additionalTxtItemsArray.isSome) then return (db, none)
    return (db, some (db.numAdditionalTxtItems - 1))
  else return (db, none)

/-- `discovered_broker_add_binary_txt_record_item`: whether something has changed.  The pointer to the
value may be null, and its length is 0 then. -/
def addBinaryTxtRecordItem (db : DiscoveredBroker) (key : Bytes) (value : Option Bytes) :
    Checked (DiscoveredBroker × Bool) := do
  if key.any fun c => c < 0x20 || 0x7e < c then return (db, false)
  let data := value.getD []
  match ← db.findTxtItem key with
  | some i =>
    let items := db.additionalTxtItemsData.getD []
    let item := items.getD i ⟨[], [], 0⟩
    if ← item.sameValue value then return (db, false)
    return ({ db with
      additionalTxtItemsData :=
        some (items.set i { item with value := overlay 0 data item.value, valueLen := data.length }) }, true)
  | none =>
    let (db, unused) ← db.getNextUnusedTxtItem
    match unused with
    | none => return (db, false)
    | some i =>
      return ({ db with
        additionalTxtItemsArray := db.additionalTxtItemsArray.map (·.set i data.length)
        additionalTxtItemsData :=
          db.additionalTxtItemsData.map (·.set i ⟨key, data, data.length⟩) }, true)

/-- `discovered_broker_fill_disc_info` -/
def fillDiscInfo (db : DiscoveredBroker) : BrokerDiscInfo where
  cid := db.cid
  uid := db.uid
  e133Version := db.e133Version
  serviceInstanceName := db.serviceInstanceName
  port := db.port
  listenAddrs := db.listenAddrArray
  listenAddrNetints := db.listenAddrNetintArray
  numListenAddrs := db.numListenAddrs
  scope := db.scope
  model := db.model
  manufacturer := db.manufacturer
  additionalTxtItems := (db.additionalTxtItemsArray, db.additionalTxtItemsData)
  numAdditionalTxtItems := db.numAdditionalTxtItems

end DiscoveredBroker

end RDMnet
