import RDMnet.Disc.Monitors

/-!
# The assertions of the mDNS querier

While all allocations succeed, the arrays of every entry are there when their sizes say so, and the
assertions about them hold.  Two kinds of records fail an assertion: a record without data whose handler
needs data, and a TXT record whose `E133Vers` has no value.
-/

namespace RDMnet

open Checked List DiscoveredBroker TxtRecordItemRef

variable {env : DiscEnv} {buf : Buf} {n now : Nat} {rr : DnsResourceRecord} {d : Disc}
  {db : DiscoveredBroker}

/-! ### Entries -/

/-- The arrays are there when there is something in them. -/
structure DiscoveredBroker.Sound (db : DiscoveredBroker) : Prop where
  netints : db.listenAddrArray.isSome = db.listenAddrNetintArray.isSome
  addrs : 0 < db.numListenAddrs → db.listenAddrArray.isSome = true
  txtItems : 0 < db.numAdditionalTxtItems → db.additionalTxtItemsData.isSome = true

/-- A value that is compared is there, since it is not empty. -/
theorem DnsTxtRecordItemInternal.sameValue_trips (item : DnsTxtRecordItemInternal)
    (value : Option Bytes) : Trips (item.sameValue value) false fun _ => True := by
  unfold sameValue
  dsimp only
  split_ifs with hlen h0
  · exact .pure trivial
  · have hv : value.isSome = true := by
      cases value with
      | none => exact absurd rfl h0
      | some v => rfl
    rw [hv]
    exact .bind_silent (.assertVerify true) fun _ _ => .pure trivial
  · exact .pure trivial

namespace DiscoveredBroker

theorem sound_new : new.Sound := ⟨rfl, by decide, by decide⟩

theorem addListenAddr_trips (h : db.Sound) (addr : IpAddr) (netint : Nat) :
    Trips (db.addListenAddr addr netint) false fun r => r.1.Sound := by
  unfold addListenAddr
  rcases ha : db.listenAddrArray with _ | arr
  · have hn : db.listenAddrNetintArray.isNone = true := by
      have := h.netints
      rw [ha] at this
      simpa using this.symm
    intro t
    simp [hn]
    exact ⟨rfl, fun _ => rfl, h.txtItems⟩
  · have hn : db.listenAddrNetintArray.isSome = true := by rw [← h.netints, ha]; rfl
    intro t
    simp [hn]
    exact ⟨by simpa using hn, fun _ => rfl, h.txtItems⟩

theorem findTxtItem_trips (h : db.Sound) (key : Bytes) : Trips (db.findTxtItem key) false fun _ => True := by
  intro t
  unfold findTxtItem
  by_cases h0 : db.numAdditionalTxtItems = 0
  · simp [h0]
  · simp [h0, h.txtItems (Nat.pos_of_ne_zero h0)]

theorem expandTxtRecordArrays_trips (h : db.Sound) : Trips db.expandTxtRecordArrays false fun r =>
      r.1.Sound ∧ r.1.additionalTxtItemsArray.isSome = true := by
  intro t
  unfold expandTxtRecordArrays
  rcases db.additionalTxtItemsArray with _ | arr <;> simp <;> exact ⟨h.netints, h.addrs, fun _ => rfl⟩

theorem getNextUnusedTxtItem_trips (h : db.Sound) : Trips db.getNextUnusedTxtItem false fun r => r.1.Sound := by
  unfold getNextUnusedTxtItem
  refine .bind_silent (expandTxtRecordArrays_trips h) fun r hr => ?_
  obtain ⟨db', expanded⟩ := r
  cases expanded with
  | false => exact .pure hr.1
  | true =>
    simp only [if_true, hr.2]
    refine .bind_silent (.assertVerify true) fun ok hok => ?_
    rw [hok]
    exact .pure hr.1

theorem addBinaryTxtRecordItem_trips (h : db.Sound) (key : Bytes) (value : Option Bytes) :
    Trips (db.addBinaryTxtRecordItem key value) false fun r => r.1.Sound := by
  unfold addBinaryTxtRecordItem
  split
  · exact .pure h
  refine .bind_silent (findTxtItem_trips h key) fun found _ => ?_
  cases found with
  | some i =>
    refine .bind_silent (DnsTxtRecordItemInternal.sameValue_trips _ value) fun same _ => ?_
    split
    · exact .pure h
    · exact .pure ⟨h.netints, h.addrs, fun _ => rfl⟩
  | none =>
    refine .bind_silent (getNextUnusedTxtItem_trips h) fun r hr => ?_
    obtain ⟨db', unused⟩ := r
    cases unused with
    | none => exact .pure hr
    | some i =>
      refine .pure ⟨hr.netints, hr.addrs, fun hpos => ?_⟩
      rw [Option.isSome_map]
      exact hr.txtItems hpos

end DiscoveredBroker

/-! ### TXT records -/

def TxtRecordItemRef.isTxtVers (item : TxtRecordItemRef) : Bool :=
  item.key = ascii "TxtVers" && item.bytes.length ≤ 9 && binaryAtoiLoop item.bytes 1 0 = 1

/-- The strings of a record have an `E133Vers` without a value, before the reading ends with a first value
that is not the version of the record. -/
def versWithoutValue : (parsedTxtVers : Bool) → List Bytes → Bool
  | _, [] => false
  | parsedTxtVers, s :: rest =>
    match txtItem s with
    | none => versWithoutValue parsedTxtVers rest
    | some item =>
      if item.value.isNone then item.key = ascii "E133Vers" || versWithoutValue parsedTxtVers rest
      else if parsedTxtVers then versWithoutValue true rest
      else item.isTxtVers && versWithoutValue true rest

theorem binaryAtoi_some (v : Bytes) (m : Mem) :
    binaryAtoi (some v) m = (if 9 < v.length then 0 else binaryAtoiLoop v 1 0, m) := by
  unfold binaryAtoi
  by_cases h : 9 < v.length <;> simp [h]

theorem binaryAtoi_trips (value : Option Bytes) : Trips (binaryAtoi value) value.isNone fun _ => True := by
  intro t
  cases value with
  | none => simp [binaryAtoi, assertVerify]
  | some v => simp [binaryAtoi_some]

theorem parseTxtVers_trips {item : TxtRecordItemRef} (hv : item.value.isNone = false) :
    Trips (parseTxtVers item) false (· = item.isTxtVers) := by
  intro t
  obtain ⟨v, hv⟩ : ∃ v, item.value = some v := Option.isSome_iff_exists.mp (by simpa using hv)
  unfold parseTxtVers isTxtVers bytes
  by_cases hk : item.key = ascii "TxtVers"
  · by_cases h : 9 < v.length
    · simp [hk, hv, h, binaryAtoi_some, not_le.mpr h]
    · simp [hk, hv, h, binaryAtoi_some, Nat.le_of_not_lt h]
  · simp [hk]

def TxtParse.Keeps (p r : TxtParse) : Prop := r.db.Sound ∧ r.parsedTxtVers = p.parsedTxtVers

theorem parseValueItem_keeps {α : Type} [DecidableEq α] {value : Option α}
    {get : DiscoveredBroker → α} {set : α → DiscoveredBroker → DiscoveredBroker}
    {mark : TxtKeysFound → TxtKeysFound} (hset : ∀ a db, db.Sound → (set a db).Sound)
    {p : TxtParse} (h : p.db.Sound) : p.Keeps (parseValueItem value get set mark p) := by
  unfold parseValueItem
  cases value with
  | none => exact ⟨h, rfl⟩
  | some a =>
    dsimp only
    split_ifs
    · exact ⟨h, rfl⟩
    · exact ⟨hset _ _ h, rfl⟩

theorem parseE133VersItem_trips (item : TxtRecordItemRef) {p : TxtParse} (h : p.db.Sound) :
    Trips (parseE133VersItem item p) item.value.isNone p.Keeps := by
  unfold parseE133VersItem
  rw [← Bool.or_false item.value.isNone]
  refine (binaryAtoi_trips item.value).bind fun v _ => .pure ?_
  apply parseValueItem_keeps _ h
  exact fun _ _ hs => { hs with }

theorem parseTxtItem_trips (item : TxtRecordItemRef) {p : TxtParse} (h : p.db.Sound) :
    Trips (parseTxtItem env item p) (item.value.isNone && item.key = ascii "E133Vers") p.Keeps := by
  unfold parseTxtItem
  by_cases hvers : item.key = ascii "E133Vers"
  · have hscope : item.key ≠ ascii "E133Scope" := by
      rw [hvers]
      decide
    rw [if_neg hscope, if_pos hvers, decide_eq_true hvers, Bool.and_true]
    exact parseE133VersItem_trips item h
  · rw [decide_eq_false hvers, Bool.and_false]
    split_ifs
    -- the items that are known change none of the arrays
    · apply Trips.pure
      rw [parseE133ScopeItem, parseStringItem_eq]
      apply parseValueItem_keeps _ h
      exact fun _ _ hs => { hs with }
    · apply Trips.pure
      apply parseValueItem_keeps _ h
      exact fun _ _ hs => { hs with }
    · apply Trips.pure
      apply parseValueItem_keeps _ h
      exact fun _ _ hs => { hs with }
    · apply Trips.pure
      rw [parseModelItem, parseStringItem_eq]
      apply parseValueItem_keeps _ h
      exact fun _ _ hs => { hs with }
    · apply Trips.pure
      rw [parseManufacturerItem, parseStringItem_eq]
      apply parseValueItem_keeps _ h
      exact fun _ _ hs => { hs with }
    · refine Trips.bind_silent (addBinaryTxtRecordItem_trips h _ _) fun r hr => ?_
      exact Trips.pure ⟨hr, rfl⟩

/-- The reading of the strings of a record fails an assertion exactly at an `E133Vers` without a value. -/
theorem parseTxtStrings_trips : ∀ (strings : List Bytes) (p : TxtParse), p.db.Sound →
      Trips (parseTxtStrings env strings p) (versWithoutValue p.parsedTxtVers strings) fun r => r.1.db.Sound := by
  intro strings
  induction strings with
  | nil =>
    intro p h
    exact .pure h
  | cons s rest ih =>
    intro p h
    unfold parseTxtStrings versWithoutValue parseTxtString
    cases txtItem s with
    | none => exact ih p h
    | some item =>
      dsimp only
      -- an item that is taken, with what follows it
      have htaken : Trips (do
          let r ← (do let q ← parseTxtItem env item p; pure (q, true))
          if r.2 then parseTxtStrings env rest r.1 else pure (r.1, false))
          ((item.value.isNone && item.key = ascii "E133Vers") ||
            versWithoutValue p.parsedTxtVers rest) fun r => r.1.db.Sound := by
        simp only [bind_assoc, pure_bind, if_true]
        refine (parseTxtItem_trips item h).bind fun q hq => ?_
        rw [← hq.2]
        exact ih q hq.1
      rcases hv : item.value.isNone with _ | _
      · rcases hvers : p.parsedTxtVers with _ | _
        · simp only [Bool.or_false, Bool.false_eq_true, if_false]
          simp only [bind_assoc]
          refine .bind_silent (parseTxtVers_trips hv) fun ok hok => ?_
          rw [hok]
          rcases item.isTxtVers with _ | _
          · exact .pure h
          · simpa using ih { p with parsedTxtVers := true } h
        · simpa [hv, hvers] using htaken
      · simpa [hv] using htaken

def txtTrips (data : Bytes) (db : DiscoveredBroker) : Bool :=
  !db.platformData.destructionPending && versWithoutValue false (txtStrings data.length data)

theorem handleTxtIn_trips (h : db.Sound) (data : Bytes) (ref : ScopeMonitorRef) :
    Trips (handleTxtIn env data ref db) (txtTrips data db) Sound := by
  unfold handleTxtIn txtTrips
  rcases hp : db.platformData.destructionPending with _ | _
  · simp only [Bool.false_eq_true, if_false, Bool.not_false, Bool.true_and]
    rw [← Bool.or_false (versWithoutValue _ _)]
    have hparse : Trips
        (lwmdnsTxtRecordToBrokerInfo env data { db with received := db.received ++ [.txt data] })
        (versWithoutValue false (txtStrings data.length data)) fun r => r.1.Sound := by
      unfold lwmdnsTxtRecordToBrokerInfo
      rw [← Bool.or_false (versWithoutValue _ _)]
      refine (parseTxtStrings_trips _ _ { h with }).bind fun r hr => ?_
      obtain ⟨p, toTheEnd⟩ := r
      dsimp only
      split_ifs
      · exact .pure hr
      · exact .pure hr
      · exact .pure hr
    refine hparse.bind fun r hr => ?_
    obtain ⟨db', res⟩ := r
    dsimp only
    split_ifs
    · exact .pure hr
    · exact .pure { hr with }
    · exact .pure { hr with }
  · exact .pure h

/-! ### The other records -/

theorem handleSrvIn_sound (h : db.Sound) (i : Nat) : (handleSrvIn buf i db).Sound := by
  unfold handleSrvIn
  dsimp only
  split_ifs
  · exact h
  all_goals exact { h with }

theorem addNewAddr_trips (h : db.Sound) (addr : IpAddr) : Trips (addNewAddr addr db) false Sound := by
  have hthere : Trips (assertListenAddrs db) false (· = true) := by
    unfold assertListenAddrs
    split
    · rename_i hpos
      rw [h.addrs hpos]
      exact .assertVerify true
    · exact .pure rfl
  unfold addNewAddr
  refine .bind_silent hthere fun ok hok => ?_
  rw [hok]
  split
  · exact .pure h
  split
  · exact .pure h
  refine .bind_silent (addListenAddr_trips h addr 0) fun r hr => ?_
  obtain ⟨db', added⟩ := r
  dsimp only
  split
  · exact .pure { hr with }
  · exact .pure hr

theorem handleAddressIn_trips (h : db.Sound) (addr : IpAddr) : Trips (handleAddressIn addr db) false Sound := by
  unfold handleAddressIn
  split
  · exact .pure h
  · apply addNewAddr_trips _ addr
    exact { h with }

def ScopeMonitorRef.Sound (ref : ScopeMonitorRef) : Prop := ∀ db ∈ ref.brokerList, db.Sound

theorem modifyFirstM_trips {α : Type} {p : α → Bool} {f : α → Checked α} {S : α → Prop} {l : List α}
    (trips : α → Bool) (hS : ∀ a ∈ l, S a) (hf : ∀ a ∈ l, Trips (f a) (trips a) S) :
    Trips (modifyFirstM p f l) ((l.find? p).any trips) fun r => ∀ a ∈ r, S a := by
  rcases first_or_none p l with h | ⟨pre, a, post, rfl, hpre, ha⟩
  · intro t
    rw [modifyFirstM_of_none h]
    have hn : l.find? p = none := by
      rw [find?_eq_none]
      exact fun a hal => by simp [h a hal]
    simp only [hn, Option.any_none, Bool.or_false]
    exact ⟨trivial, hS⟩
  · intro t
    have ham : a ∈ pre ++ a :: post := by simp
    have hfind : (pre ++ a :: post).find? p = some a := by
      rw [find?_eq_some_iff_append]
      exact ⟨ha, pre, post, rfl, fun b hb => by simp [hpre b hb]⟩
    obtain ⟨hm, hs⟩ := hf a ham t
    rw [modifyFirstM_append hpre ha, hfind]
    refine ⟨hm, fun b hb => ?_⟩
    rcases mem_append.mp hb with hb | hb
    · exact hS b (mem_append_left _ hb)
    · rcases mem_cons.mp hb with rfl | hb
      · exact hs
      · exact hS b (mem_append_right _ (mem_cons_of_mem a hb))

theorem ptrAgain_sound (h : db.Sound) : (ptrAgain rr now db).Sound := by
  unfold ptrAgain
  split
  · exact { h with }
  · exact { h with }

theorem handlePtrIn_trips {ref : ScopeMonitorRef} (h : ref.Sound) :
    Trips (handlePtrIn buf rr now ref) false ScopeMonitorRef.Sound := by
  unfold handlePtrIn
  split
  · have hmod : Trips (modifyFirstM (dbMatchesServiceInstance buf rr.dataPtr)
        (fun db => pure (ptrAgain rr now db)) ref.brokerList) false fun l => ∀ db ∈ l, db.Sound := by
      simpa using modifyFirstM_trips (fun _ => false) h
        fun db hdb => .pure (ptrAgain_sound (h db hdb))
    exact .bind_silent hmod fun l hl => .pure hl
  split
  · exact .pure h
  refine .bind_silent Trips.alloc fun ok hok => ?_
  rw [hok]
  rcases lwmdnsDomainLabelToString buf rr.dataPtr with _ | name
  · exact .pure h
  · refine .pure fun db hdb => ?_
    rcases mem_append.mp hdb with hdb | hdb
    · exact h db hdb
    · rw [mem_singleton.mp hdb]
      have := sound_new
      exact ⟨this.netints, this.addrs, this.txtItems⟩

def txtTripsIn (buf : Buf) (rr : DnsResourceRecord) (ref : ScopeMonitorRef) : Bool :=
  rr.recordType = dnsRecordTypeTxt && (ref.brokerList.find? (isFor buf rr)).any (txtTrips (rr.data buf))

theorem updateEntry_trips (h : db.Sound) (ref : ScopeMonitorRef) : Trips (updateEntry env buf rr ref db)
      (rr.recordType = dnsRecordTypeTxt && txtTrips (rr.data buf) db) Sound := by
  unfold updateEntry
  by_cases hsrv : rr.recordType = dnsRecordTypeSrv
  · have htxt : rr.recordType ≠ dnsRecordTypeTxt := by
      rw [hsrv]
      decide
    rw [if_pos hsrv, decide_eq_false htxt, Bool.false_and]
    exact .pure (handleSrvIn_sound h _)
  rw [if_neg hsrv]
  by_cases htxt : rr.recordType = dnsRecordTypeTxt
  · rw [if_pos htxt, decide_eq_true htxt, Bool.true_and]
    exact handleTxtIn_trips h _ ref
  rw [if_neg htxt, decide_eq_false htxt, Bool.false_and]
  rcases rr.dataPtr.bind (addressOf buf rr) with _ | addr
  · exact .pure h
  · exact handleAddressIn_trips h addr

theorem updateMonitor_trips {ref : ScopeMonitorRef} (h : ref.Sound) :
    Trips (updateMonitor env buf now rr ref) (txtTripsIn buf rr ref) ScopeMonitorRef.Sound := by
  unfold updateMonitor txtTripsIn
  by_cases hptr : rr.recordType = dnsRecordTypePtr
  · have htxt : rr.recordType ≠ dnsRecordTypeTxt := by
      rw [hptr]
      decide
    rw [if_pos hptr, decide_eq_false htxt, Bool.false_and]
    exact handlePtrIn_trips h
  rw [if_neg hptr]
  have hany : (ref.brokerList.find? (isFor buf rr)).any
      (fun db => rr.recordType = dnsRecordTypeTxt && txtTrips (rr.data buf) db) =
        (rr.recordType = dnsRecordTypeTxt &&
          (ref.brokerList.find? (isFor buf rr)).any (txtTrips (rr.data buf))) := by
    cases ref.brokerList.find? (isFor buf rr) <;> simp
  rw [← hany, ← Bool.or_false (Option.any _ _)]
  refine (modifyFirstM_trips _ h fun db hdb => updateEntry_trips (h db hdb) ref).bind fun l hl => ?_
  exact .pure hl

/-! ### Datagrams -/

namespace Disc

def Sound (d : Disc) : Prop := ∀ ref ∈ d.monitors, ref.Sound

/-- The record fails an assertion: it lacks data, or it is a TXT record for an entry that is not to be
destroyed, with an `E133Vers` that has no value. -/
def RecordTrips (buf : Buf) (rr : DnsResourceRecord) (d : Disc) : Prop :=
  rr.LacksData ∨ (d.monitors.find? (concerns buf rr)).any (txtTripsIn buf rr) = true

instance : Decidable (RecordTrips buf rr d) := inferInstanceAs (Decidable (_ ∨ _))

theorem handleRecord_trips (h : d.Sound) : (d.handleRecord env buf now .plenty rr).Sound ∧
      (d.handleRecord env buf now .plenty rr).tripped = (d.tripped || RecordTrips buf rr d) := by
  obtain ⟨hm, hs⟩ := modifyFirstM_trips (p := concerns buf rr) (f := updateMonitor env buf now rr)
    (txtTripsIn buf rr) h (fun ref href => updateMonitor_trips (h ref href)) false
  unfold handleRecord
  rw [dispatchRecord_eq]
  refine ⟨hs, congrArg (d.tripped || ·) ?_⟩
  dsimp only
  rw [hm, Bool.eq_iff_iff]
  simp [RecordTrips, or_comm]

theorem handleAll_trips : ∀ (rrs : List DnsResourceRecord) (i : Nat) (d : Disc), d.Sound →
      (d.handleAll env buf now (fun _ => .plenty) rrs i).Sound ∧
        ((d.handleAll env buf now (fun _ => .plenty) rrs i).tripped = false ↔ d.tripped = false ∧
            Each (fun _ rr d => ¬ RecordTrips buf rr d) env buf now (fun _ => .plenty) rrs i d) := by
  intro rrs
  induction rrs with
  | nil =>
    intro i d h
    exact ⟨h, by simp [handleAll, Each]⟩
  | cons rr rest ih =>
    intro i d h
    have hrec : (d.handleRecord env buf now .plenty rr).Sound ∧
        (d.handleRecord env buf now .plenty rr).tripped = _ := handleRecord_trips h
    obtain ⟨hs, ht⟩ := hrec
    obtain ⟨hs', ht'⟩ := ih (i + 1) _ hs
    refine ⟨hs', ht'.trans ?_⟩
    rw [ht]
    simp [Each, and_assoc]

def Plentiful : DiscAction → Disc → Prop
  | .input (.datagram _ _ _ heaps), _ => heaps = fun _ => .plenty
  | _, _ => True

theorem processBrokerList_sound (handle : ScopeMonitorRef) (now : Nat) :
    ∀ l : List DiscoveredBroker, (∀ db ∈ l, db.Sound) → ∀ db ∈ (processBrokerList handle now l).1, db.Sound := by
  intro l
  induction l with
  | nil => exact fun _ _ hdb => (nomatch hdb)
  | cons db rest ih =>
    intro h
    have hrest := fun db hdb => h db (mem_cons_of_mem _ hdb)
    have hdb := h db mem_cons_self
    unfold processBrokerList
    split
    · exact hrest
    · intro db' hdb'
      rcases mem_cons.mp hdb' with rfl | hdb'
      · unfold processDiscoveredBroker
        dsimp only
        split_ifs
        all_goals exact { hdb with }
      · exact ih hrest db' hdb'

theorem sound_step {a : DiscAction} {d' : Disc} (hok : Plentiful a d) (h : d.Sound)
    (hd : step env a d = some d') : d'.Sound := by
  refine step_monitors h (fun buf messageSize now heaps ha => ?_)
    (fun ref now href => processBrokerList_sound ref now _ href) (fun _ _ _ _ hdb => (nomatch hdb)) hd
  subst ha
  have hheaps : heaps = fun _ => .plenty := hok
  subst hheaps
  exact (handleAll_trips _ 0 d h).1

theorem sound_of_runs (hr : Runs (step env) Plentiful init d) : d.Sound :=
  hr.keeps (I := Sound) (fun _ _ _ hok h hd => sound_step hok h hd) (fun _ h => (nomatch h))

/-- **A datagram fails no assertion exactly if none of its records lacks the data that its handler needs,
or is a TXT record, for an entry that is not to be destroyed, with an `E133Vers` that has no value.** -/
theorem assertions_hold_iff (env : DiscEnv) (hr : Runs (step env) Plentiful init d) (buf : Buf) (n now : Nat) :
    (handleMdnsMessage env buf n now (fun _ => .plenty) { d with tripped := false }).tripped = false ↔
      Each (fun _ rr d => ¬ RecordTrips buf rr d) env buf now (fun _ => .plenty) (recordsOf buf n) 0
        { d with tripped := false } := by
  rw [handleMdnsMessage_eq]
  have hs : Sound { d with tripped := false } := fun ref href => sound_of_runs hr ref href
  simpa using (handleAll_trips (recordsOf buf n) 0 _ hs).2

def emptySrv : Bytes := wireMessage [wireRecord [0] dnsRecordTypeSrv 120 []]

/-- A service, and a TXT record for it that has an `E133Vers` without a value. -/
def versAlone : Bytes :=
  wireMessage [samplePtr "s" "A" 120,
    wireRecord (wireName ["A", "_rdmnet", "_tcp", "local"]) dnsRecordTypeTxt 120 (8 :: ascii "E133Vers")]

def wholeAnnouncement : Bytes :=
  wireMessage [samplePtr "s" "A" 120,
    wireRecord (wireName ["A", "_rdmnet", "_tcp", "local"]) dnsRecordTypeSrv 120
      ([0, 0, 0, 0, 0x22, 0xb8] ++ wireName ["h", "local"]),
    wireRecord (wireName ["A", "_rdmnet", "_tcp", "local"]) dnsRecordTypeTxt 120
      ((9 :: ascii "TxtVers=1") ++ (11 :: ascii "E133Scope=s") ++ (10 :: ascii "E133Vers=1"))]

theorem runs_oneMonitor : Runs (step sampleDiscEnv) Plentiful init oneMonitor :=
  .single ⟨.start (sampleMonitor "s").scope none 0, trivial, rfl⟩

/-- Both kinds of records fail an assertion. -/
theorem assertions_fail : ∃ d, Runs (step sampleDiscEnv) Plentiful init d ∧
      (handleMdnsMessage sampleDiscEnv (.ofBytes emptySrv) emptySrv.length 0 (fun _ => .plenty)
        { d with tripped := false }).tripped = true ∧
      (handleMdnsMessage sampleDiscEnv (.ofBytes versAlone) versAlone.length 0 (fun _ => .plenty)
        { d with tripped := false }).tripped = true :=
  ⟨_, runs_oneMonitor, by decide +kernel, by decide +kernel⟩

theorem assertions_hold_announcement : ∃ d, Runs (step sampleDiscEnv) Plentiful init d ∧
      (handleMdnsMessage sampleDiscEnv (.ofBytes wholeAnnouncement) wholeAnnouncement.length 0
        (fun _ => .plenty) { d with tripped := false }).tripped = false :=
  ⟨_, runs_oneMonitor, (assertions_hold_iff sampleDiscEnv runs_oneMonitor _ _ _).mpr (by decide +kernel)⟩

end Disc

end RDMnet
