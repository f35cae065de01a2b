import RDMnet.Disc.Records

/-!
# Several scope monitors

A record is given to the first monitor that it concerns, and to no other.  Where it concerns one at most,
each monitor comes to the same list and the same callbacks as it would alone.
-/

namespace RDMnet

open List

variable {env : DiscEnv} {buf : Buf} {n now : Nat} {heap : Heap} {heaps : Nat → Heap} {d e : Disc}
  {rr : DnsResourceRecord} {i : Nat}

/-- The name that a record has compared with the host names of the entries. -/
def DnsResourceRecord.hostName (rr : DnsResourceRecord) : Option Nat :=
  if rr.recordType = dnsRecordTypeSrv then rr.dataPtr.map (· + 6)
  else if rr.recordType = dnsRecordTypeA ∨ rr.recordType = dnsRecordTypeAaaa then some rr.name
  else none

namespace Disc

def ConcernsOne (buf : Buf) (rr : DnsResourceRecord) (d : Disc) : Prop :=
  d.monitors.Pairwise fun a b => ¬ (concerns buf rr a = true ∧ concerns buf rr b = true)

instance : Decidable (ConcernsOne buf rr d) :=
  inferInstanceAs (Decidable (List.Pairwise _ _))

/-- The comparisons of the host name of an entry that a record can lead to come to an end. -/
def ComparisonsEnd (buf : Buf) (rr : DnsResourceRecord) (db : DiscoveredBroker) : Prop :=
  ∀ i ∈ rr.hostName, (lwmdnsDomainNamesEqual buf i (.ofBytes db.platformData.wireHostName) 0).isSome = true

def Ends (buf : Buf) (rr : DnsResourceRecord) (d : Disc) : Prop :=
  ∀ ref ∈ d.monitors, ∀ db ∈ ref.brokerList, ComparisonsEnd buf rr db

instance : Decidable (Ends buf rr d) := by
  unfold Ends ComparisonsEnd
  infer_instance

/-- Every record of an input is as `ok` says, in the state that it is handled in. -/
def InputMeets (ok : Buf → DnsResourceRecord → Disc → Prop) (env : DiscEnv) (d : Disc) : DiscInput → Prop
  | .datagram buf messageSize now heaps =>
    Each (fun _ => ok buf) env buf now heaps (recordsOf buf (min messageSize mdnsRecvBufSize)) 0 d
  | .tick _ => True

def AllMeet (ok : Buf → DnsResourceRecord → Disc → Prop) (env : DiscEnv) : List DiscInput → Disc → Prop
  | [], _ => True
  | input :: inputs, d => InputMeets ok env d input ∧ AllMeet ok env inputs (d.receive env input)

section

variable {ok : Buf → DnsResourceRecord → Disc → Prop} [∀ buf rr d, Decidable (ok buf rr d)]

instance : ∀ input, Decidable (InputMeets ok env d input)
  | .datagram .. => inferInstanceAs (Decidable (Each _ _ _ _ _ _ _ _))
  | .tick _ => isTrue trivial

instance decidableAllMeet : ∀ inputs d, Decidable (AllMeet ok env inputs d)
  | [], _ => isTrue trivial
  | input :: inputs, d =>
    have : Decidable (AllMeet ok env inputs (d.receive env input)) := decidableAllMeet inputs _
    inferInstanceAs (Decidable (_ ∧ _))

end

/-- A record concerns one monitor at most, and is handled to the end. -/
def Concise (buf : Buf) (rr : DnsResourceRecord) (d : Disc) : Prop :=
  ConcernsOne buf rr d ∧ Ends buf rr d

instance : Decidable (Concise buf rr d) := inferInstanceAs (Decidable (_ ∧ _))

def alone (env : DiscEnv) (buf : Buf) (now : Nat) (heap : Heap) (rr : DnsResourceRecord)
    (ref : ScopeMonitorRef) : ScopeMonitorRef :=
  if concerns buf rr ref then (updateMonitor env buf now rr ref ⟨heap, false⟩).1 else ref

theorem map_alone_of_none {l : List ScopeMonitorRef} (h : ∀ ref ∈ l, concerns buf rr ref = false) :
    l.map (alone env buf now heap rr) = l := by
  refine (map_congr_left fun ref href => ?_).trans (map_id l)
  simp [alone, h ref href]

theorem monitors_handleRecord (h : ConcernsOne buf rr d) :
    (d.handleRecord env buf now heap rr).monitors = d.monitors.map (alone env buf now heap rr) := by
  unfold ConcernsOne at h
  unfold handleRecord
  rw [dispatchRecord_eq]
  dsimp only
  rcases first_or_none (concerns buf rr) d.monitors with hn | ⟨pre, a, post, hl, hpre, ha⟩
  · rw [modifyFirstM_of_none hn, map_alone_of_none hn]
  · rw [hl] at h ⊢
    rw [modifyFirstM_append hpre ha, map_append, map_cons, map_alone_of_none hpre, map_alone_of_none]
    · simp [alone, ha]
    · intro b hb
      have := rel_of_pairwise_cons (pairwise_append.mp h).2.1 hb
      simpa [ha] using this

/-- The second state has one monitor, which is the `i`th of the first. -/
def Alongside (i : Nat) (d e : Disc) : Prop :=
  ∃ ref, d.monitors[i]? = some ref ∧ e.monitors = [ref]

theorem Alongside.handleRecord (hd : ConcernsOne buf rr d) (h : Alongside i d e) :
    Alongside i (d.handleRecord env buf now heap rr) (e.handleRecord env buf now heap rr) := by
  obtain ⟨ref, href, he⟩ := h
  have hone : ConcernsOne buf rr e := by simp [ConcernsOne, he]
  refine ⟨alone env buf now heap rr ref, ?_, ?_⟩
  · rw [monitors_handleRecord hd, getElem?_map, href]
    rfl
  · rw [monitors_handleRecord hone, he]
    rfl

theorem Alongside.ends (h : Alongside i d e) (hd : Ends buf rr d) : Ends buf rr e := by
  obtain ⟨ref, href, he⟩ := h
  intro ref' href'
  rw [he, mem_singleton] at href'
  exact hd ref' (href' ▸ mem_of_getElem? href)

theorem Alongside.handleAll : ∀ (rrs : List DnsResourceRecord) (k : Nat) (d e : Disc),
      Each (fun _ => Concise buf) env buf now heaps rrs k d → Alongside i d e →
        Each (fun _ => Ends buf) env buf now heaps rrs k e ∧
        Alongside i (d.handleAll env buf now heaps rrs k) (e.handleAll env buf now heaps rrs k) := by
  intro rrs
  induction rrs with
  | nil => exact fun _ _ _ _ h => ⟨trivial, h⟩
  | cons rr rest ih =>
    rintro k d e ⟨⟨hone, hends⟩, hrest⟩ h
    obtain ⟨heach, hall⟩ := ih (k + 1) _ _ hrest (h.handleRecord hone)
    exact ⟨⟨h.ends hends, heach⟩, hall⟩

theorem Alongside.receive {input : DiscInput} (hd : InputMeets Concise env d input) (h : Alongside i d e) :
    InputMeets Ends env e input ∧ Alongside i (d.receive env input) (e.receive env input) := by
  cases input with
  | datagram buf messageSize now heaps =>
    unfold Disc.receive
    dsimp only
    rw [handleMdnsMessage_eq, handleMdnsMessage_eq]
    exact Alongside.handleAll _ 0 d e hd h
  | tick now =>
    obtain ⟨ref, href, he⟩ := h
    refine ⟨trivial, processMonitoredScope now ref, ?_, ?_⟩
    · simp [Disc.receive, rdmnetDiscPlatformTick, href]
    · simp [Disc.receive, rdmnetDiscPlatformTick, he]

theorem Alongside.run (inputs : List DiscInput) : ∀ d e : Disc, AllMeet Concise env inputs d →
      Alongside i d e → AllMeet Ends env inputs e ∧
        Alongside i (inputs.foldl (Disc.receive env) d) (inputs.foldl (Disc.receive env) e) := by
  induction inputs with
  | nil => exact fun _ _ _ h => ⟨trivial, h⟩
  | cons input inputs ih =>
    rintro d e ⟨hone, hrest⟩ h
    obtain ⟨hinput, hnext⟩ := h.receive hone
    obtain ⟨hall, hrun⟩ := ih _ _ hrest hnext
    exact ⟨⟨hinput, hall⟩, hrun⟩

/-- **Where every record concerns one monitor at most and is handled to the end, a monitor has the entries
and has made the callbacks that it would have alone**, after any datagrams and ticks; alone it would come
to the end as well. -/
theorem monitors_independent (env : DiscEnv) (inputs : List DiscInput) (refs : List ScopeMonitorRef)
    (h : AllMeet Concise env inputs ⟨refs, false⟩) (i : Nat) (hi : i < refs.length) :
    let all := inputs.foldl (Disc.receive env) ⟨refs, false⟩
    let single := inputs.foldl (Disc.receive env) ⟨[refs[i]], false⟩
    AllMeet Ends env inputs ⟨[refs[i]], false⟩ ∧
      ∃ ref ref', all.monitors[i]? = some ref ∧ single.monitors = [ref'] ∧
        ref.log = ref'.log ∧ ref.brokerList = ref'.brokerList := by
  intro all single
  have hstart : Alongside i ⟨refs, false⟩ ⟨[refs[i]], false⟩ :=
    ⟨refs[i], getElem?_eq_getElem hi, rfl⟩
  obtain ⟨hends, ref, hall, hsingle⟩ := Alongside.run inputs _ _ h hstart
  exact ⟨hends, ref, ref, hall, hsingle, rfl, rfl⟩

end Disc

/-! ### Datagrams -/

def wireName (labels : List String) : Bytes :=
  (labels.flatMap fun s => UInt8.ofNat (ascii s).length :: ascii s) ++ [0]

/-- A resource record of the class `IN`. -/
def wireRecord (name : Bytes) (recordType : UInt16) (ttl : UInt32) (data : Bytes) : Bytes :=
  name ++ packU16 recordType ++ packU16 1 ++ packU32 ttl ++
    packU16 (UInt16.ofNat data.length) ++ data

def wireMessage (records : List Bytes) : Bytes :=
  [0, 0, 0x84, 0, 0, 0] ++ packU16 (UInt16.ofNat records.length) ++ [0, 0, 0, 0] ++ records.flatten

def sampleDatagram (records : List Bytes) : DiscInput :=
  .datagram (.ofBytes (wireMessage records)) (wireMessage records).length 0 fun _ => .plenty

def samplePtr (scope instanceName : String) (ttl : UInt32) : Bytes :=
  wireRecord (wireName ["_" ++ scope, "_sub", "_rdmnet", "_tcp", "local"]) dnsRecordTypePtr ttl
    (wireName [instanceName, "_rdmnet", "_tcp", "local"])

def sampleSrv (instanceName host : String) : Bytes :=
  wireRecord (wireName [instanceName, "_rdmnet", "_tcp", "local"]) dnsRecordTypeSrv 120
    ([0, 0, 0, 0, 0x22, 0xb8] ++ wireName [host, "local"])

def sampleMonitor (scope : String) : ScopeMonitorRef where
  scope := safeStrncpy e133ScopeStringPaddedLength scopeString_pos (ascii scope)
  brokerHandle := none
  brokerList := []
  queryTimer := ⟨0, initialQueryInterval⟩
  log := []

def oneMonitor : Disc := startMonitoring (sampleMonitor "s").scope none 0 Disc.init

def sampleDiscEnv : DiscEnv where
  stringToUuid := fun _ => some default
  rdmStringToUid := fun _ => some default

namespace Disc

/-- Of two monitors of one scope, the second does not get to know a broker that it would find alone. -/
theorem monitors_hide :
    let input := sampleDatagram [samplePtr "s" "A" 120]
    let all := receive sampleDiscEnv ⟨[sampleMonitor "s", sampleMonitor "s"], false⟩ input
    let single := receive sampleDiscEnv ⟨[sampleMonitor "s"], false⟩ input
    all.monitors[1]?.map (·.brokerList.length) = some 0 ∧
      single.monitors.map (·.brokerList.length) = [1] := by
  decide +kernel

/-- Two monitors of different scopes. -/
theorem monitors_independent_two :
    let inputs := [sampleDatagram [samplePtr "t" "A" 120, sampleSrv "A" "h"],
      sampleDatagram [sampleSrv "A" "h"], .tick 1]
    AllMeet Concise sampleDiscEnv inputs ⟨[sampleMonitor "s", sampleMonitor "t"], false⟩ ∧
      ∃ ref ref',
        (inputs.foldl (receive sampleDiscEnv)
          ⟨[sampleMonitor "s", sampleMonitor "t"], false⟩).monitors[1]? = some ref ∧
        (inputs.foldl (receive sampleDiscEnv) ⟨[sampleMonitor "t"], false⟩).monitors = [ref'] ∧
        ref.log = ref'.log ∧ ref.brokerList = ref'.brokerList := by
  intro inputs
  have h : AllMeet Concise sampleDiscEnv inputs ⟨[sampleMonitor "s", sampleMonitor "t"], false⟩ := by
    decide +kernel
  exact ⟨h, (monitors_independent sampleDiscEnv inputs _ h 1 (by decide)).2⟩

end Disc

end RDMnet
