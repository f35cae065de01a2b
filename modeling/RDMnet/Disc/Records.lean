import RDMnet.Disc.Mdns

/-!
# The records of a datagram

Which records a datagram has does not depend on what has been discovered: `recordsOf` reads them off, and
`handleMdnsMessage_eq` says that the handling of a datagram is the handling of one after another.  What
is done with a record is done to the first monitor that it concerns.
-/

namespace RDMnet

open List DnsResourceRecord Checked

variable {env : DiscEnv} {buf : Buf} {n now : Nat} {heaps : Nat → Heap} {d : Disc}
  {rr : DnsResourceRecord} {m : Mem}

/-! ### The first that matches -/

section ModifyFirst

variable {α : Type} {p : α → Bool} {f : α → Checked α}

theorem modifyFirstM_of_none {l : List α} (h : ∀ a ∈ l, p a = false) (m : Mem) :
    modifyFirstM p f l m = (l, m) := by
  induction l with
  | nil => rfl
  | cons a l ih =>
    unfold modifyFirstM
    simp [h a mem_cons_self, ih fun b hb => h b (mem_cons_of_mem a hb)]

theorem modifyFirstM_append {pre post : List α} {a : α} (hpre : ∀ b ∈ pre, p b = false)
    (ha : p a = true) (m : Mem) :
    modifyFirstM p f (pre ++ a :: post) m = (pre ++ (f a m).1 :: post, (f a m).2) := by
  induction pre with
  | nil => simp [modifyFirstM, ha]
  | cons b pre ih =>
    rw [cons_append]
    unfold modifyFirstM
    simp [hpre b mem_cons_self, ih fun c hc => hpre c (mem_cons_of_mem b hc)]

theorem first_or_none (p : α → Bool) (l : List α) : (∀ a ∈ l, p a = false) ∨
      ∃ pre a post, l = pre ++ a :: post ∧ (∀ b ∈ pre, p b = false) ∧ p a = true := by
  rcases hf : l.find? p with _ | a
  · rw [find?_eq_none] at hf
    exact .inl fun a ha => by simpa using hf a ha
  · obtain ⟨ha, pre, post, rfl, hpre⟩ := find?_eq_some_iff_append.mp hf
    exact .inr ⟨pre, a, post, rfl, fun b hb => by simpa using hpre b hb, ha⟩

theorem mem_modifyFirstM {l : List α} {b : α} (hb : b ∈ (modifyFirstM p f l m).1) :
    b ∈ l ∨ ∃ a ∈ l, p a = true ∧ b = (f a m).1 := by
  rcases first_or_none p l with h | ⟨pre, a, post, rfl, hpre, ha⟩
  · rw [modifyFirstM_of_none h] at hb
    exact .inl hb
  · rw [modifyFirstM_append hpre ha] at hb
    rcases mem_append.mp hb with hb | hb
    · exact .inl (mem_append_left _ hb)
    · rcases mem_cons.mp hb with rfl | hb
      · exact .inr ⟨a, by simp, ha, rfl⟩
      · exact .inl (mem_append_right _ (mem_cons_of_mem a hb))

end ModifyFirst

/-! ### Reading the records -/

theorem parseDomainName_some (i total : Nat) (m : Mem) :
    lwmdnsParseDomainName buf (some i) total m = (parseNameLoop buf i (total + 1) i total, m) := by
  simp [lwmdnsParseDomainName]

theorem parseDomainName_none (total : Nat) (m : Mem) :
    lwmdnsParseDomainName buf none total m = (none, { m with tripped := true }) := by
  simp [lwmdnsParseDomainName, assertVerify]

def recordAt (buf : Buf) (offset remainingLength : Nat) : Option (DnsResourceRecord × Nat) :=
  (lwmdnsParseResourceRecord buf offset remainingLength ⟨.plenty, false⟩).1

theorem parseResourceRecord_eq (offset remainingLength : Nat) (m : Mem) :
    lwmdnsParseResourceRecord buf offset remainingLength m = (recordAt buf offset remainingLength, m) := by
  unfold recordAt lwmdnsParseResourceRecord
  simp only [bind_apply, parseDomainName_some]
  cases parseNameLoop buf offset (remainingLength + 1) offset remainingLength with
  | none => rfl
  | some cur =>
    dsimp only
    split_ifs <;> rfl

theorem bypassMdnsQuery_mem (offset remainingLength : Nat) (m : Mem) :
    bypassMdnsQuery buf offset remainingLength m =
      ((bypassMdnsQuery buf offset remainingLength ⟨.plenty, false⟩).1, m) := by
  unfold bypassMdnsQuery
  simp only [bind_apply, parseDomainName_some]
  cases parseNameLoop buf offset (remainingLength + 1) offset remainingLength <;> rfl

def recordsBegin (buf : Buf) (n : Nat) : Option Nat :=
  (bypassQueries buf n (buf.u16 4).toNat dnsHeaderBytes ⟨.plenty, false⟩).1

theorem bypassQueries_mem (queries cur : Nat) (m : Mem) :
    bypassQueries buf n queries cur m = ((bypassQueries buf n queries cur ⟨.plenty, false⟩).1, m) := by
  induction queries generalizing cur with
  | zero => rfl
  | succ queries ih =>
    unfold bypassQueries
    split
    · rfl
    · simp only [bind_apply]
      rw [bypassMdnsQuery_mem]
      cases (bypassMdnsQuery buf cur (n - cur) ⟨.plenty, false⟩).1 with
      | none => rw [bypassMdnsQuery_mem]; rfl
      | some next =>
        rw [bypassMdnsQuery_mem cur (n - cur) ⟨.plenty, false⟩]
        exact ih next

def recordsFrom (buf : Buf) (n : Nat) : (records cur : Nat) → List DnsResourceRecord
  | 0, _ => []
  | records + 1, cur =>
    if n ≤ cur then []
    else
      match recordAt buf cur (n - cur) with
      | none => []
      | some (rr, next) => rr :: recordsFrom buf n records next

/-- The records of a datagram of `n` bytes. -/
def recordsOf (buf : Buf) (n : Nat) : List DnsResourceRecord :=
  if n < dnsHeaderBytes then []
  else
    match recordsBegin buf n with
    | none => []
    | some cur =>
      recordsFrom buf n ((buf.u16 6).toNat + (buf.u16 8).toNat + (buf.u16 10).toNat) cur

/-! ### Handling them one after another -/

namespace Disc

def handleRecord (env : DiscEnv) (buf : Buf) (now : Nat) (heap : Heap) (rr : DnsResourceRecord)
    (d : Disc) : Disc :=
  let r := dispatchRecord env buf now rr d.monitors ⟨heap, false⟩
  ⟨r.1, d.tripped || r.2.tripped⟩

/-- Handle records one after another, the first of which has the number `i`. -/
def handleAll (env : DiscEnv) (buf : Buf) (now : Nat) (heaps : Nat → Heap) :
    List DnsResourceRecord → (i : Nat) → Disc → Disc
  | [], _, d => d
  | rr :: rest, i, d =>
    handleAll env buf now heaps rest (i + 1) (d.handleRecord env buf now (heaps i) rr)

def Each (ok : Heap → DnsResourceRecord → Disc → Prop) (env : DiscEnv) (buf : Buf) (now : Nat)
    (heaps : Nat → Heap) : List DnsResourceRecord → (i : Nat) → Disc → Prop
  | [], _, _ => True
  | rr :: rest, i, d =>
    ok (heaps i) rr d ∧
      Each ok env buf now heaps rest (i + 1) (d.handleRecord env buf now (heaps i) rr)

instance decidableEach {ok : Heap → DnsResourceRecord → Disc → Prop}
    [∀ heap rr d, Decidable (ok heap rr d)] :
    ∀ rrs i d, Decidable (Each ok env buf now heaps rrs i d)
  | [], _, _ => isTrue trivial
  | rr :: rest, i, d =>
    have : Decidable (Each ok env buf now heaps rest (i + 1)
        (d.handleRecord env buf now (heaps i) rr)) := decidableEach rest (i + 1) _
    inferInstanceAs (Decidable (_ ∧ _))

theorem handleAll_keeps {ok : Heap → DnsResourceRecord → Disc → Prop} {I : Disc → Prop}
    (hstep : ∀ heap rr d, ok heap rr d → I d → I (d.handleRecord env buf now heap rr)) :
    ∀ (rrs : List DnsResourceRecord) (i : Nat) (d : Disc),
      Each ok env buf now heaps rrs i d → I d → I (d.handleAll env buf now heaps rrs i) := by
  intro rrs
  induction rrs with
  | nil => exact fun _ _ _ hI => hI
  | cons rr rest ih =>
    rintro i d ⟨hok, hrest⟩ hI
    exact ih (i + 1) _ hrest (hstep _ rr d hok hI)

theorem each_true (rrs : List DnsResourceRecord) (i : Nat) (d : Disc) :
    Each (fun _ _ _ => True) env buf now heaps rrs i d := by
  induction rrs generalizing i d with
  | nil => trivial
  | cons rr rest ih => exact ⟨trivial, ih _ _⟩

end Disc

theorem handleRecords_eq (records i cur : Nat) (d : Disc) : handleRecords env buf n now heaps records i cur d =
      d.handleAll env buf now heaps (recordsFrom buf n records cur) i := by
  induction records generalizing i cur d with
  | zero => rfl
  | succ records ih =>
    unfold handleRecords recordsFrom
    split
    · rfl
    · simp only [handleResourceRecord, bind_apply, parseResourceRecord_eq]
      cases recordAt buf cur (n - cur) with
      | none => simp [Disc.handleAll]
      | some r => exact ih (i + 1) r.2 _

/-- **A datagram is handled record by record.** -/
theorem handleMdnsMessage_eq :
    handleMdnsMessage env buf n now heaps d = d.handleAll env buf now heaps (recordsOf buf n) 0 := by
  unfold handleMdnsMessage recordsOf
  split
  · rfl
  · rw [bypassQueries_mem]
    change (match recordsBegin buf n with | none => _ | some cur => _) = _
    cases recordsBegin buf n with
    | none => simp [Disc.handleAll]
    | some cur => simp [handleRecords_eq]

theorem Disc.step_monitors {P : ScopeMonitorRef → Prop} {a : DiscAction} {d' : Disc}
    (h : ∀ ref ∈ d.monitors, P ref)
    (hdatagram : ∀ buf messageSize now heaps, a = .input (.datagram buf messageSize now heaps) →
      ∀ ref ∈ (d.handleAll env buf now heaps (recordsOf buf (min messageSize mdnsRecvBufSize)) 0).monitors, P ref)
    (htick : ∀ ref now, P ref → P (processMonitoredScope now ref))
    (hstart : ∀ scope brokerHandle queryTimer, P ⟨scope, brokerHandle, [], queryTimer, []⟩)
    (hd : step env a d = some d') : ∀ ref ∈ d'.monitors, P ref := by
  cases a with
  | input input =>
    cases hd
    cases input with
    | datagram buf messageSize now heaps =>
      intro ref href
      exact hdatagram buf messageSize now heaps rfl ref (handleMdnsMessage_eq ▸ href)
    | tick now =>
      intro ref href
      obtain ⟨ref', href', rfl⟩ := mem_map.mp href
      exact htick ref' now (h ref' href')
  | start scope brokerHandle now =>
    cases hd
    intro ref href
    rcases mem_append.mp href with href | href
    · exact h ref href
    · rw [mem_singleton.mp href]
      exact hstart _ _ _
  | stop i =>
    cases hd
    exact fun ref href => h ref (mem_of_mem_eraseIdx href)

/-! ### The monitor that a record concerns -/

def DnsResourceRecord.LacksData (rr : DnsResourceRecord) : Prop :=
  rr.dataPtr = none ∧ (rr.recordType = dnsRecordTypePtr ∨ rr.recordType = dnsRecordTypeSrv ∨
    rr.recordType = dnsRecordTypeA ∨ rr.recordType = dnsRecordTypeAaaa)

instance : Decidable rr.LacksData := inferInstanceAs (Decidable (_ ∧ _))

def nameAt (buf : Buf) (offset : Option Nat) (length : Nat) : Bool :=
  match offset with
  | none => false
  | some i => (parseNameLoop buf i (length + 1) i length).isSome

/-- The handler of the record gets as far as a search, and the search takes this monitor. -/
def concerns (buf : Buf) (rr : DnsResourceRecord) (ref : ScopeMonitorRef) : Bool :=
  if rr.recordType = dnsRecordTypePtr then
    nameAt buf rr.dataPtr rr.dataLen &&
      lwmdnsDomainNameMatchesServiceSubtype buf rr.name ref.scope.chars
  else if rr.recordType = dnsRecordTypeSrv then
    7 < rr.dataLen && nameAt buf (rr.dataPtr.map (· + 6)) (rr.dataLen - 6) &&
      ref.brokerList.any (dbMatchesServiceInstance buf (some rr.name))
  else if rr.recordType = dnsRecordTypeA ∨ rr.recordType = dnsRecordTypeAaaa then
    (rr.dataPtr.bind (addressOf buf rr)).isSome && ref.brokerList.any (dbMatchesHostname buf rr.name)
  else if rr.recordType = dnsRecordTypeTxt then
    ref.brokerList.any (dbMatchesServiceInstance buf (some rr.name))
  else false

def isFor (buf : Buf) (rr : DnsResourceRecord) : DiscoveredBroker → Bool :=
  if rr.recordType = dnsRecordTypeA ∨ rr.recordType = dnsRecordTypeAaaa then
    dbMatchesHostname buf rr.name
  else dbMatchesServiceInstance buf (some rr.name)

def updateEntry (env : DiscEnv) (buf : Buf) (rr : DnsResourceRecord) (ref : ScopeMonitorRef)
    (db : DiscoveredBroker) : Checked DiscoveredBroker :=
  if rr.recordType = dnsRecordTypeSrv then pure (handleSrvIn buf (rr.dataPtr.getD 0) db)
  else if rr.recordType = dnsRecordTypeTxt then handleTxtIn env (rr.data buf) ref db
  else
    match rr.dataPtr.bind (addressOf buf rr) with
    | none => pure db
    | some addr => handleAddressIn addr db

def updateMonitor (env : DiscEnv) (buf : Buf) (now : Nat) (rr : DnsResourceRecord)
    (ref : ScopeMonitorRef) : Checked ScopeMonitorRef :=
  if rr.recordType = dnsRecordTypePtr then handlePtrIn buf rr now ref
  else do
    return { ref with
      brokerList := ← modifyFirstM (isFor buf rr) (updateEntry env buf rr ref) ref.brokerList }

theorem modifyFirstM_congr {α : Type} {p p' : α → Bool} {f f' : α → Checked α} {l : List α}
    (hp : ∀ a ∈ l, p a = p' a) (hf : ∀ a ∈ l, p a = true → f a m = f' a m) :
    modifyFirstM p f l m = modifyFirstM p' f' l m := by
  rcases first_or_none p l with h | ⟨pre, a, post, rfl, hpre, ha⟩
  · rw [modifyFirstM_of_none h, modifyFirstM_of_none fun a hal => (hp a hal).symm.trans (h a hal)]
  · have ham : a ∈ pre ++ a :: post := by simp
    rw [modifyFirstM_append hpre ha, modifyFirstM_append, hf a ham ha]
    · intro b hb
      rw [← hp b (mem_append_left _ hb)]
      exact hpre b hb
    · rw [← hp a ham]
      exact ha

theorem search_eq {x : List ScopeMonitorRef × Mem} (refs : List ScopeMonitorRef) (m : Mem)
    (h : (x = modifyFirstM (concerns buf rr) (updateMonitor env buf now rr) refs m ∧ ¬ rr.LacksData) ∨
      (x = (refs, { m with tripped := m.tripped || rr.LacksData }) ∧
        ∀ ref ∈ refs, concerns buf rr ref = false)) :
    x =
      let r := modifyFirstM (concerns buf rr) (updateMonitor env buf now rr) refs m
      (r.1, { r.2 with tripped := r.2.tripped || rr.LacksData }) := by
  rcases h with ⟨rfl, hl⟩ | ⟨rfl, hc⟩
  · simp only [hl, decide_false, Bool.or_false]
    rfl
  · rw [modifyFirstM_of_none hc]

theorem handlePtrRecord_eq (h : rr.recordType = dnsRecordTypePtr) (refs : List ScopeMonitorRef) (m : Mem) :
    handlePtrRecord buf rr now refs m =
      let r := modifyFirstM (concerns buf rr) (updateMonitor env buf now rr) refs m
      (r.1, { r.2 with tripped := r.2.tripped || rr.LacksData }) := by
  refine search_eq refs m ?_
  unfold handlePtrRecord
  simp only [bind_apply]
  rcases hd : rr.dataPtr with _ | i
  · right
    rw [parseDomainName_none]
    refine ⟨by simp [LacksData, h, hd], fun ref _ => ?_⟩
    simp [concerns, h, hd, nameAt]
  · have hl : ¬ rr.LacksData := by simp [LacksData, hd]
    rw [parseDomainName_some]
    by_cases hs : (parseNameLoop buf i (rr.dataLen + 1) i rr.dataLen).isSome = true
    · left
      rw [if_pos hs]
      refine ⟨modifyFirstM_congr (fun ref _ => ?_) (fun ref _ _ => ?_), hl⟩
      · simp [concerns, h, hd, nameAt, hs]
      · simp [updateMonitor, h]
    · right
      rw [if_neg hs]
      refine ⟨by simp [hl], fun ref _ => ?_⟩
      simp [concerns, h, hd, nameAt, hs]

theorem modifyFirstBrokerM_eq {p : DiscoveredBroker → Bool}
    {f : ScopeMonitorRef → DiscoveredBroker → Checked DiscoveredBroker}
    (hne : rr.recordType ≠ dnsRecordTypePtr) (hc : ∀ ref, concerns buf rr ref = ref.brokerList.any p)
    (hp : isFor buf rr = p) (hf : updateEntry env buf rr = f) (refs : List ScopeMonitorRef) :
    modifyFirstBrokerM p f refs m = modifyFirstM (concerns buf rr) (updateMonitor env buf now rr) refs m := by
  subst hp hf
  refine modifyFirstM_congr (fun ref _ => (hc ref).symm) fun ref _ _ => ?_
  unfold updateMonitor
  rw [if_neg hne]

theorem handleSrvRecord_eq (h : rr.recordType = dnsRecordTypeSrv) (refs : List ScopeMonitorRef) (m : Mem) :
    handleSrvRecord buf rr refs m =
      let r := modifyFirstM (concerns buf rr) (updateMonitor env buf now rr) refs m
      (r.1, { r.2 with tripped := r.2.tripped || rr.LacksData }) := by
  have hc : ∀ ref, concerns buf rr ref =
      (7 < rr.dataLen && nameAt buf (rr.dataPtr.map (· + 6)) (rr.dataLen - 6) &&
        ref.brokerList.any (dbMatchesServiceInstance buf (some rr.name))) := by
    intro ref
    simp [concerns, h, dnsRecordTypeSrv, dnsRecordTypePtr]
  refine search_eq refs m ?_
  unfold handleSrvRecord
  simp only [bind_apply]
  rcases hd : rr.dataPtr with _ | i
  · right
    refine ⟨by simp [assertVerify, LacksData, h, hd], fun ref _ => ?_⟩
    simp [hc, hd, nameAt]
  have hl : ¬ rr.LacksData := by simp [LacksData, hd]
  simp only [Option.isSome_some, assertVerify_true, Bool.not_true, Bool.false_eq_true, if_false]
  by_cases hlen : rr.dataLen ≤ 7
  · right
    rw [if_pos hlen]
    refine ⟨by simp [hl], fun ref _ => ?_⟩
    simp [hc, not_lt.mpr hlen]
  rw [if_neg hlen]
  simp only [bind_apply, parseDomainName_some]
  split
  · rename_i hn
    left
    refine ⟨modifyFirstBrokerM_eq ?_ (fun ref => ?_) ?_ ?_ refs, hl⟩
    · simp [h, dnsRecordTypeSrv, dnsRecordTypePtr]
    · simp [hc, hd, nameAt, hn, Nat.lt_of_not_le hlen]
    · simp [isFor, h, dnsRecordTypeSrv, dnsRecordTypeA, dnsRecordTypeAaaa]
    · funext ref db
      simp [updateEntry, h, hd]
  · rename_i hn
    right
    refine ⟨by simp [hl], fun ref _ => ?_⟩
    simp [hc, hd, nameAt, hn]

theorem handleAddressRecord_eq (h : rr.recordType = dnsRecordTypeA ∨ rr.recordType = dnsRecordTypeAaaa)
    (refs : List ScopeMonitorRef) (m : Mem) :
    handleAddressRecord buf rr refs m =
      let r := modifyFirstM (concerns buf rr) (updateMonitor env buf now rr) refs m
      (r.1, { r.2 with tripped := r.2.tripped || rr.LacksData }) := by
  have hptr : rr.recordType ≠ dnsRecordTypePtr := by
    rcases h with h | h <;> rw [h] <;> decide
  have hsrv : rr.recordType ≠ dnsRecordTypeSrv := by
    rcases h with h | h <;> rw [h] <;> decide
  have htxt : rr.recordType ≠ dnsRecordTypeTxt := by
    rcases h with h | h <;> rw [h] <;> decide
  have hc : ∀ ref, concerns buf rr ref =
      ((rr.dataPtr.bind (addressOf buf rr)).isSome &&
        ref.brokerList.any (dbMatchesHostname buf rr.name)) := by
    intro ref
    unfold concerns
    rw [if_neg hptr, if_neg hsrv, if_pos h]
  refine search_eq refs m ?_
  unfold handleAddressRecord
  simp only [bind_apply]
  rcases hd : rr.dataPtr with _ | i
  · right
    refine ⟨by simp [assertVerify, LacksData, h, hd], fun ref _ => ?_⟩
    simp [hc, hd]
  have hl : ¬ rr.LacksData := by simp [LacksData, hd]
  simp only [Option.isSome_some, assertVerify_true, Bool.not_true, Bool.false_eq_true, if_false, Option.bind_some]
  rcases ha : addressOf buf rr i with _ | addr
  · right
    refine ⟨by simp [hl], fun ref _ => ?_⟩
    simp [hc, hd, ha]
  · left
    refine ⟨modifyFirstBrokerM_eq hptr (fun ref => ?_) ?_ ?_ refs, hl⟩
    · simp [hc, hd, ha]
    · simp [isFor, h]
    · funext ref db
      simp [updateEntry, hsrv, htxt, hd, ha]

theorem handleTxtRecord_eq (h : rr.recordType = dnsRecordTypeTxt) (refs : List ScopeMonitorRef) (m : Mem) :
    handleTxtRecord env buf rr refs m =
      let r := modifyFirstM (concerns buf rr) (updateMonitor env buf now rr) refs m
      (r.1, { r.2 with tripped := r.2.tripped || rr.LacksData }) := by
  refine search_eq refs m (.inl ⟨modifyFirstBrokerM_eq ?_ (fun ref => ?_) ?_ ?_ refs, ?_⟩)
  · rw [h]
    decide
  · simp [concerns, h, dnsRecordTypePtr, dnsRecordTypeSrv, dnsRecordTypeA, dnsRecordTypeAaaa, dnsRecordTypeTxt]
  · simp [isFor, h, dnsRecordTypeA, dnsRecordTypeAaaa, dnsRecordTypeTxt]
  · funext ref db
    simp [updateEntry, h, dnsRecordTypeSrv, dnsRecordTypeTxt]
  · simp [LacksData, h, dnsRecordTypePtr, dnsRecordTypeSrv, dnsRecordTypeA, dnsRecordTypeAaaa, dnsRecordTypeTxt]

/-- **A record is handled in the first monitor that it concerns.**  Before the search, an assertion fails
if the record lacks data. -/
theorem dispatchRecord_eq (refs : List ScopeMonitorRef) (m : Mem) :
    dispatchRecord env buf now rr refs m =
      let r := modifyFirstM (concerns buf rr) (updateMonitor env buf now rr) refs m
      (r.1, { r.2 with tripped := r.2.tripped || rr.LacksData }) := by
  unfold dispatchRecord
  split_ifs with hptr hsrv ha htxt
  · exact handlePtrRecord_eq hptr refs m
  · exact handleSrvRecord_eq hsrv refs m
  · exact handleAddressRecord_eq ha refs m
  · exact handleTxtRecord_eq htxt refs m
  · refine search_eq refs m (.inr ⟨?_, fun ref _ => ?_⟩)
    · have hl : ¬ rr.LacksData := by
        rintro ⟨-, h⟩
        tauto
      simp [hl]
    · unfold concerns
      rw [if_neg hptr, if_neg hsrv, if_neg ha, if_neg htxt]

end RDMnet
