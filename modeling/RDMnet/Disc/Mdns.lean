import RDMnet.Disc.Txt
import RDMnet.Conn.Buffer

/-!
# The lightweight mDNS querier

The receive path of `lwmdns_recv.c`, and the tick of `rdmnet_disc_lightweight.c`, over all scope
monitors.  The monitor, and the entry of its list, that a record is for are the first that match.
-/

namespace RDMnet

/-- The callbacks that are called from a scope monitor. -/
inductive Notification
  | brokerFound (info : BrokerDiscInfo)
  | brokerUpdated (info : BrokerDiscInfo)
  | brokerLost (scope : Scope) (serviceName : Bytes)
  | otherBrokerFound (info : BrokerDiscInfo)
  | otherBrokerLost (scope : Scope) (serviceName : Bytes)
  deriving DecidableEq

/-- `RdmnetScopeMonitorRef`, with the callbacks that have been called.  Of the registered broker that
it may belong to, the CID is read. -/
structure ScopeMonitorRef where
  scope : Scope
  brokerHandle : Option Uuid
  brokerList : List DiscoveredBroker
  queryTimer : EtcPalTimer
  /-- Ghost data: the callbacks that have been called, the first first. -/
  log : List Notification
  deriving DecidableEq

/-- What the discovery module keeps, and whether an assertion has failed. -/
structure Disc where
  monitors : List ScopeMonitorRef
  tripped : Bool
  deriving DecidableEq

/-! ### Records -/

/-- `DnsResourceRecord`: offsets in the receive buffer are pointers, and that to the data may be
null. -/
structure DnsResourceRecord where
  name : Nat
  recordType : UInt16
  ttl : UInt32
  dataLen : Nat
  dataPtr : Option Nat
  deriving DecidableEq, Repr

/-- `kDnsRecordTypeA` -/
abbrev dnsRecordTypeA : UInt16 := 1

/-- `kDnsRecordTypePTR` -/
abbrev dnsRecordTypePtr : UInt16 := 12

/-- `kDnsRecordTypeTXT` -/
abbrev dnsRecordTypeTxt : UInt16 := 16

/-- `kDnsRecordTypeAAAA` -/
abbrev dnsRecordTypeAaaa : UInt16 := 28

/-- `kDnsRecordTypeSRV` -/
abbrev dnsRecordTypeSrv : UInt16 := 33

/-- `lwmdns_parse_resource_record`: the record, and the offset behind it. -/
def lwmdnsParseResourceRecord (buf : Buf) (rrPtr totalRemainingLength : Nat) :
    Checked (Option (DnsResourceRecord × Nat)) := do
  match ← lwmdnsParseDomainName buf (some rrPtr) totalRemainingLength with
  | none => return none
  | some cur =>
    if totalRemainingLength < cur - rrPtr + 10 then return none
    if buf.u16 (cur + 2) &&& 0x7fff ≠ 1 then return none
    let dataLen := (buf.u16 (cur + 8)).toNat
    let rr : DnsResourceRecord :=
      { name := rrPtr
        recordType := buf.u16 cur
        ttl := buf.u32 (cur + 4)
        dataLen
        dataPtr := if dataLen = 0 then none else some (cur + 10) }
    if totalRemainingLength < cur + 10 - rrPtr + dataLen then return none
    return some (rr, cur + 10 + dataLen)

def modifyFirstM {α : Type} (p : α → Bool) (f : α → Checked α) : List α → Checked (List α)
  | [] => return []
  | a :: l => do
    if p a then return (← f a) :: l else return a :: (← modifyFirstM p f l)

/-- `scope_monitor_and_discovered_broker_find`, and what is done with the monitor and the entry. -/
def modifyFirstBrokerM (p : DiscoveredBroker → Bool)
    (f : ScopeMonitorRef → DiscoveredBroker → Checked DiscoveredBroker) :
    List ScopeMonitorRef → Checked (List ScopeMonitorRef) :=
  modifyFirstM (fun ref => ref.brokerList.any p) fun ref => do
    return { ref with brokerList := ← modifyFirstM p (f ref) ref.brokerList }

/-- `etcpal_timer_start` -/
def etcpalTimerStart (now interval : Nat) : EtcPalTimer := ⟨now, interval⟩

/-- `DNS_TTL_TO_MS` -/
def dnsTtlToMs (ttl : UInt32) : Nat := (ttl * 1000).toNat

/-- `db_matches_service_instance` -/
def dbMatchesServiceInstance (buf : Buf) (namePtr : Option Nat) (db : DiscoveredBroker) : Bool :=
  lwmdnsDomainNameMatchesServiceInstance buf namePtr db.serviceInstanceName

/-- `scope_and_db_matches_hostname` -/
def dbMatchesHostname (buf : Buf) (namePtr : Nat) (db : DiscoveredBroker) : Bool :=
  lwmdnsDomainNamesEqual buf namePtr (.ofBytes db.platformData.wireHostName) 0 = some true

def ptrAgain (rr : DnsResourceRecord) (now : Nat) (db : DiscoveredBroker) : DiscoveredBroker :=
  if rr.ttl = 0 then { db with platformData := { db.platformData with destructionPending := true } }
  else
    { db with platformData :=
      { db.platformData with ttlTimer := etcpalTimerStart now (dnsTtlToMs rr.ttl) } }

/-- The first entry that the service instance of a PTR record matches is there, and is not to be
destroyed. -/
def knowsInstance (buf : Buf) (rr : DnsResourceRecord) (ref : ScopeMonitorRef) : Bool :=
  (ref.brokerList.find? (dbMatchesServiceInstance buf rr.dataPtr)).any
    fun db => !db.platformData.destructionPending

def newEntry (name : Bytes) (ttl : UInt32) (now : Nat) : DiscoveredBroker :=
  { DiscoveredBroker.new with
    serviceInstanceName := name
    platformData := { DiscoveredBroker.new.platformData with
      ttlTimer := etcpalTimerStart now (dnsTtlToMs ttl) } }

/-- `handle_ptr_record`, for the monitor that it is for. -/
def handlePtrIn (buf : Buf) (rr : DnsResourceRecord) (now : Nat) (ref : ScopeMonitorRef) :
    Checked ScopeMonitorRef := do
  if knowsInstance buf rr ref then
    let brokerList ← modifyFirstM (dbMatchesServiceInstance buf rr.dataPtr)
      (fun db => pure (ptrAgain rr now db)) ref.brokerList
    return { ref with brokerList }
  else if rr.ttl = 0 then return ref
  else if !(← alloc) then return ref
  else
    match lwmdnsDomainLabelToString buf rr.dataPtr with
    | none => return ref
    | some name =>
      return { ref with brokerList := ref.brokerList ++ [newEntry name rr.ttl now] }

/-- `handle_ptr_record` -/
def handlePtrRecord (buf : Buf) (rr : DnsResourceRecord) (now : Nat)
    (refs : List ScopeMonitorRef) : Checked (List ScopeMonitorRef) := do
  if (← lwmdnsParseDomainName buf rr.dataPtr rr.dataLen).isSome then
    modifyFirstM (fun ref => lwmdnsDomainNameMatchesServiceSubtype buf rr.name ref.scope.chars)
      (handlePtrIn buf rr now) refs
  else return refs

/-- `handle_srv_record`, for the entry that it is for. -/
def handleSrvIn (buf : Buf) (dataPtr : Nat) (db : DiscoveredBroker) : DiscoveredBroker :=
  if db.platformData.destructionPending then db
  else
    let port := buf.u16 (dataPtr + 4)
    let db := { db with received := db.received ++ [.srv port] }
    if !db.platformData.srvRecordReceived || port ≠ db.port ||
        lwmdnsDomainNamesEqual buf (dataPtr + 6) (.ofBytes db.platformData.wireHostName) 0 ≠ some true then
      let (wireHostName, size) :=
        lwmdnsCopyDomainName buf (dataPtr + 6) db.platformData.wireHostName
      let db := { db with platformData := { db.platformData with wireHostName } }
      if 0 < size then
        { db with
          port
          platformData := { db.platformData with
            updatePending := db.platformData.updatePending ||
              (db.platformData.srvRecordReceived && db.platformData.initialNotificationSent)
            srvRecordReceived := true } }
      else db
    else db

/-- `handle_srv_record` -/
def handleSrvRecord (buf : Buf) (rr : DnsResourceRecord) (refs : List ScopeMonitorRef) :
    Checked (List ScopeMonitorRef) := do
  if !(← assertVerify rr.dataPtr.isSome) then return refs
  match rr.dataPtr with
  | none => return refs
  | some dataPtr =>
    if rr.dataLen ≤ 7 then return refs
    if (← lwmdnsParseDomainName buf (some (dataPtr + 6)) (rr.dataLen - 6)).isSome then
      modifyFirstBrokerM (dbMatchesServiceInstance buf (some rr.name))
        (fun _ db => pure (handleSrvIn buf dataPtr db)) refs
    else return refs

def addressOf (buf : Buf) (rr : DnsResourceRecord) (dataPtr : Nat) : Option IpAddr :=
  if rr.recordType = dnsRecordTypeA ∧ rr.dataLen = 4 then some (.v4 (buf.u32 dataPtr))
  else if rr.recordType = dnsRecordTypeAaaa ∧ rr.dataLen = 16 then some (.v6 (buf.slice dataPtr 16))
  else none

/-- The assertion of `handle_address_record` on the addresses that it loops over. -/
def assertListenAddrs (db : DiscoveredBroker) : Checked Bool :=
  if 0 < db.numListenAddrs then assertVerify db.listenAddrArray.isSome else return true

/-- The end of `handle_address_record`: an address that is not known yet is added. -/
def addNewAddr (addr : IpAddr) (db : DiscoveredBroker) : Checked DiscoveredBroker := do
  if !(← assertListenAddrs db) then return db
  if ((db.listenAddrArray.getD []).take db.numListenAddrs).contains addr then return db
  let (db, added) ← db.addListenAddr addr 0
  if added then
    return { db with platformData := { db.platformData with
      updatePending := db.platformData.updatePending || db.platformData.initialNotificationSent } }
  else return db

/-- `handle_address_record`, for the entry that it is for. -/
def handleAddressIn (addr : IpAddr) (db : DiscoveredBroker) : Checked DiscoveredBroker :=
  if db.platformData.destructionPending then return db
  else addNewAddr addr { db with received := db.received ++ [.address addr] }

/-- `handle_address_record` -/
def handleAddressRecord (buf : Buf) (rr : DnsResourceRecord) (refs : List ScopeMonitorRef) :
    Checked (List ScopeMonitorRef) := do
  if !(← assertVerify rr.dataPtr.isSome) then return refs
  match rr.dataPtr.bind (addressOf buf rr) with
  | none => return refs
  | some addr =>
    modifyFirstBrokerM (dbMatchesHostname buf rr.name) (fun _ => handleAddressIn addr) refs

def DnsResourceRecord.data (buf : Buf) (rr : DnsResourceRecord) : Bytes :=
  match rr.dataPtr with
  | none => []
  | some dataPtr => buf.slice dataPtr rr.dataLen

/-- `handle_txt_record`, for the monitor and the entry that it is for. -/
def handleTxtIn (env : DiscEnv) (data : Bytes) (ref : ScopeMonitorRef) (db : DiscoveredBroker) :
    Checked DiscoveredBroker := do
  if db.platformData.destructionPending then return db
  let (db, res) ←
    lwmdnsTxtRecordToBrokerInfo env data { db with received := db.received ++ [.txt data] }
  if res = .error then return db
  if db.scope ≠ ref.scope.chars then
    return { db with platformData := { db.platformData with destructionPending := true } }
  else
    return { db with platformData := { db.platformData with
      txtRecordReceived := true
      updatePending := db.platformData.updatePending ||
        (res = .okDataChanged && db.platformData.initialNotificationSent) } }

/-- `handle_txt_record` -/
def handleTxtRecord (env : DiscEnv) (buf : Buf) (rr : DnsResourceRecord)
    (refs : List ScopeMonitorRef) : Checked (List ScopeMonitorRef) :=
  modifyFirstBrokerM (dbMatchesServiceInstance buf (some rr.name)) (handleTxtIn env (rr.data buf)) refs

/-- The `switch` of `handle_resource_record`. -/
def dispatchRecord (env : DiscEnv) (buf : Buf) (now : Nat) (rr : DnsResourceRecord)
    (refs : List ScopeMonitorRef) : Checked (List ScopeMonitorRef) :=
  if rr.recordType = dnsRecordTypePtr then handlePtrRecord buf rr now refs
  else if rr.recordType = dnsRecordTypeSrv then handleSrvRecord buf rr refs
  else if rr.recordType = dnsRecordTypeA ∨ rr.recordType = dnsRecordTypeAaaa then
    handleAddressRecord buf rr refs
  else if rr.recordType = dnsRecordTypeTxt then handleTxtRecord env buf rr refs
  else pure refs

/-- `handle_resource_record`: the offset behind the record. -/
def handleResourceRecord (env : DiscEnv) (buf : Buf) (now offset remainingLength : Nat)
    (refs : List ScopeMonitorRef) : Checked (List ScopeMonitorRef × Option Nat) := do
  match ← lwmdnsParseResourceRecord buf offset remainingLength with
  | none => return (refs, none)
  | some (rr, next) => return (← dispatchRecord env buf now rr refs, some next)

/-! ### Datagrams -/

/-- `DNS_HEADER_BYTES` -/
abbrev dnsHeaderBytes : Nat := 12

/-- `MDNS_RECV_BUF_SIZE` -/
abbrev mdnsRecvBufSize : Nat := 1400

/-- `bypass_mdns_query` -/
def bypassMdnsQuery (buf : Buf) (offset remainingLength : Nat) : Checked (Option Nat) := do
  match ← lwmdnsParseDomainName buf (some offset) remainingLength with
  | none => return none
  | some cur => return if cur - offset + 4 ≤ remainingLength then some (cur + 4) else none

/-- The loop over the queries of a message of `n` bytes. -/
def bypassQueries (buf : Buf) (n : Nat) : (queries cur : Nat) → Checked (Option Nat)
  | 0, cur => return some cur
  | queries + 1, cur => do
    if n ≤ cur then return some cur
    match ← bypassMdnsQuery buf cur (n - cur) with
    | none => return none
    | some next => bypassQueries buf n queries next

/-- The loop over the records of a message of `n` bytes: the `i`th has `heaps i` to allocate from.  The
counter of the source wraps around, but no message has as many records. -/
def handleRecords (env : DiscEnv) (buf : Buf) (n now : Nat) (heaps : Nat → Heap) :
    (records i cur : Nat) → Disc → Disc
  | 0, _, _, d => d
  | records + 1, i, cur, d =>
    if n ≤ cur then d
    else
      let r := handleResourceRecord env buf now cur (n - cur) d.monitors ⟨heaps i, false⟩
      let d : Disc := ⟨r.1.1, d.tripped || r.2.tripped⟩
      match r.1.2 with
      | none => d
      | some next => handleRecords env buf n now heaps records (i + 1) next d

/-- `handle_mdns_message` -/
def handleMdnsMessage (env : DiscEnv) (buf : Buf) (messageSize now : Nat) (heaps : Nat → Heap)
    (d : Disc) : Disc :=
  if messageSize < dnsHeaderBytes then d
  else
    let q := bypassQueries buf messageSize (buf.u16 4).toNat dnsHeaderBytes ⟨heaps 0, false⟩
    let d := { d with tripped := d.tripped || q.2.tripped }
    match q.1 with
    | none => d
    | some cur =>
      handleRecords env buf messageSize now heaps
        ((buf.u16 6).toNat + (buf.u16 8).toNat + (buf.u16 10).toNat) 0 cur d

/-! ### The tick -/

/-- `notify_broker_found` -/
def notifyBrokerFound (handle : ScopeMonitorRef) (info : BrokerDiscInfo) : List Notification :=
  match handle.brokerHandle with
  | some cid => if cid ≠ info.cid then [.otherBrokerFound info] else []
  | none => [.brokerFound info]

/-- `notify_broker_updated` -/
def notifyBrokerUpdated (handle : ScopeMonitorRef) (info : BrokerDiscInfo) : List Notification :=
  if handle.brokerHandle.isNone then [.brokerUpdated info] else []

/-- `notify_broker_lost` -/
def notifyBrokerLost (handle : ScopeMonitorRef) (serviceName : Bytes) (brokerCid : Uuid) :
    List Notification :=
  match handle.brokerHandle with
  | some cid => if cid ≠ brokerCid then [.otherBrokerLost handle.scope serviceName] else []
  | none => [.brokerLost handle.scope serviceName]

/-- `INITIAL_QUERY_INTERVAL` -/
abbrev initialQueryInterval : Nat := 1000

/-- `update_query_interval` -/
def updateQueryInterval (now : Nat) (queryTimer : EtcPalTimer) : EtcPalTimer :=
  etcpalTimerStart now (min (queryTimer.interval * 3 % 4294967296) 360000)

def requery (now : Nat) (sent : Bool) (queryTimer : EtcPalTimer) : EtcPalTimer :=
  if sent then
    if etcpalTimerIsExpired queryTimer now then updateQueryInterval now queryTimer else queryTimer
  else etcpalTimerStart now initialQueryInterval

/-- The part of `process_monitored_scope` for an entry that is not to be destroyed. -/
def processDiscoveredBroker (handle : ScopeMonitorRef) (now : Nat) (db : DiscoveredBroker) :
    DiscoveredBroker × List Notification :=
  let data := db.platformData
  if !data.initialNotificationSent then
    if !data.srvRecordReceived || !data.txtRecordReceived then
      ({ db with platformData := { data with
        queryTimer := requery now data.sentServiceQuery data.queryTimer
        sentServiceQuery := true } }, [])
    else if db.numListenAddrs = 0 then
      ({ db with platformData := { data with
        queryTimer := requery now data.sentHostQuery data.queryTimer
        sentHostQuery := true } }, [])
    else
      ({ db with platformData := { data with initialNotificationSent := true } },
        notifyBrokerFound handle db.fillDiscInfo)
  else if data.updatePending then
    ({ db with platformData := { data with updatePending := false } },
      notifyBrokerUpdated handle db.fillDiscInfo)
  else (db, [])

/-- The loop of `process_monitored_scope`: it ends with the first entry that is destroyed. -/
def processBrokerList (handle : ScopeMonitorRef) (now : Nat) :
    List DiscoveredBroker → List DiscoveredBroker × List Notification
  | [] => ([], [])
  | db :: rest =>
    if db.platformData.destructionPending then
      (rest, if db.platformData.initialNotificationSent then
          notifyBrokerLost handle db.serviceInstanceName db.cid else [])
    else
      let (db, ns) := processDiscoveredBroker handle now db
      let (rest, ns') := processBrokerList handle now rest
      (db :: rest, ns ++ ns')

/-- `process_monitored_scope` -/
def processMonitoredScope (now : Nat) (ref : ScopeMonitorRef) : ScopeMonitorRef :=
  let r := processBrokerList ref now ref.brokerList
  { ref with
    queryTimer :=
      if etcpalTimerIsExpired ref.queryTimer now then updateQueryInterval now ref.queryTimer
      else ref.queryTimer
    brokerList := r.1
    log := ref.log ++ r.2 }

/-- `rdmnet_disc_platform_tick` -/
def rdmnetDiscPlatformTick (now : Nat) (d : Disc) : Disc :=
  { d with monitors := d.monitors.map (processMonitoredScope now) }

/-! ### Runs -/

/-- `start_monitoring_internal`, if nothing fails in it; for a registered broker with its CID. -/
def startMonitoring (scope : Scope) (brokerHandle : Option Uuid) (now : Nat) (d : Disc) : Disc :=
  { d with monitors := d.monitors ++
    [{ scope
       brokerHandle
       brokerList := []
       queryTimer := etcpalTimerStart now initialQueryInterval
       log := [] }] }

/-- `rdmnet_disc_stop_monitoring`, for the monitor at a place of the list. -/
def stopMonitoring (i : Nat) (d : Disc) : Disc := { d with monitors := d.monitors.eraseIdx i }

inductive DiscInput
  /-- The receive buffer, the size of the datagram in it, the time and what the records of the datagram
  have to allocate from. -/
  | datagram (buf : Buf) (messageSize : Nat) (now : Nat) (heaps : Nat → Heap)
  | tick (now : Nat)

/-- All that is done with the module. -/
inductive DiscAction
  | input (input : DiscInput)
  | start (scope : Scope) (brokerHandle : Option Uuid) (now : Nat)
  | stop (i : Nat)

namespace Disc

def init : Disc := ⟨[], false⟩

/-- One datagram, of which the socket has given no more than the buffer takes, or one tick. -/
def receive (env : DiscEnv) (d : Disc) : DiscInput → Disc
  | .datagram buf messageSize now heaps =>
    handleMdnsMessage env buf (min messageSize mdnsRecvBufSize) now heaps d
  | .tick now => rdmnetDiscPlatformTick now d

def step (env : DiscEnv) : DiscAction → Disc → Option Disc
  | .input i, d => some (d.receive env i)
  | .start scope brokerHandle now, d => some (startMonitoring scope brokerHandle now d)
  | .stop i, d => some (stopMonitoring i d)

end Disc

end RDMnet
