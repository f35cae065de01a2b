import RDMnet.Disc.Monitors

/-!
# The life of an entry

What a monitor reports about a name is (found, updated\*, lost)\*.  The reason is that entries are
appended, and a record is given to the first entry with its name: of several entries with one name only
the first can get an SRV record, and so only the first is ever reported.

That at most one entry with a name is not to be destroyed holds as long as a PTR record makes no entry
beside another one.  It does when the first entry with the name is to be destroyed and a later one is not.
-/

namespace RDMnet

open Checked List

variable {env : DiscEnv} {buf : Buf} {n now : Nat} {heap : Heap} {rr : DnsResourceRecord} {d : Disc}
  {db : DiscoveredBroker} {ref : ScopeMonitorRef} {scope : Bytes}

/-! ### Reports -/

/-- What a callback says about a broker. -/
inductive Report
  | found | updated | lost
  deriving DecidableEq, Repr

def reportOn (name : Bytes) : Notification → Option Report
  | .brokerFound info => if info.serviceInstanceName = name then some .found else none
  | .brokerUpdated info => if info.serviceInstanceName = name then some .updated else none
  | .brokerLost _ serviceName => if serviceName = name then some .lost else none
  | .otherBrokerFound _ => none
  | .otherBrokerLost _ _ => none

/-- Read (found, updated\*, lost)\*: whether the broker is there afterwards, if the reports follow the
pattern. -/
def readReports : Bool → List Report → Option Bool
  | there, [] => some there
  | false, .found :: rest => readReports true rest
  | true, .updated :: rest => readReports true rest
  | true, .lost :: rest => readReports false rest
  | _, _ :: _ => none

theorem readReports_append (there : Bool) (l l' : List Report) :
    readReports there (l ++ l') = (readReports there l).bind fun there => readReports there l' := by
  induction l generalizing there with
  | nil => rfl
  | cons r l ih =>
    cases r <;> cases there <;> first | exact ih _ | rfl

def reportsOn (name : Bytes) (log : List Notification) : List Report := log.filterMap (reportOn name)

theorem reportsOn_append (name : Bytes) (l l' : List Notification) :
    reportsOn name (l ++ l') = reportsOn name l ++ reportsOn name l' :=
  filterMap_append

/-! ### The scope that a TXT record names -/

def TxtRecordItemRef.scopeNamed (item : TxtRecordItemRef) : Option Bytes :=
  if item.key = ascii "E133Scope" ∧ 0 < item.bytes.length ∧
      item.bytes.length ≤ e133ScopeStringPaddedLength - 1 then
    some (cstr item.bytes)
  else none

def scopeNamed (s : Bytes) : Option Bytes := (txtItem s).bind (·.scopeNamed)

def txtScopes (data : Bytes) : List Bytes := (txtStrings data.length data).filterMap scopeNamed

/-! ### Entries -/

namespace DiscoveredBroker

/-- What has been received for an entry of a monitor of a scope, as far as its flags say. -/
structure Heard (scope : Bytes) (db : DiscoveredBroker) : Prop where
  srv : db.platformData.srvRecordReceived = true → ∃ port, .srv port ∈ db.received
  txt : db.platformData.txtRecordReceived = true →
    ∃ data, .txt data ∈ db.received ∧ (txtScopes data).getLast? = some scope
  address : 0 < db.numListenAddrs → ∃ addr, .address addr ∈ db.received
  notified : db.platformData.initialNotificationSent = true →
    db.platformData.srvRecordReceived = true ∧ db.platformData.txtRecordReceived = true ∧
      0 < db.numListenAddrs
  nulFree : cstr db.scope = db.scope

structure Follows (scope : Bytes) (db db' : DiscoveredBroker) : Prop where
  name : db'.serviceInstanceName = db.serviceInstanceName
  sent : db'.platformData.initialNotificationSent = db.platformData.initialNotificationSent
  pending : db.platformData.destructionPending = true → db'.platformData.destructionPending = true
  heard : db.Heard scope → db'.Heard scope

theorem Follows.refl (db : DiscoveredBroker) : Follows scope db db := ⟨rfl, rfl, id, id⟩

/-- What the reading of a TXT record leaves alone. -/
structure SameButTxt (db db' : DiscoveredBroker) : Prop where
  name : db'.serviceInstanceName = db.serviceInstanceName
  data : db'.platformData = db.platformData
  addrs : db'.numListenAddrs = db.numListenAddrs
  received : db'.received = db.received

theorem SameButTxt.refl (db : DiscoveredBroker) : SameButTxt db db := ⟨rfl, rfl, rfl, rfl⟩

theorem SameButTxt.trans {a b c : DiscoveredBroker} (h : SameButTxt a b) (h' : SameButTxt b c) : SameButTxt a c :=
  ⟨h'.name.trans h.name, h'.data.trans h.data, h'.addrs.trans h.addrs, h'.received.trans h.received⟩

theorem ptrAgain_follows : Follows scope db (ptrAgain rr now db) := by
  unfold ptrAgain
  split
  · exact ⟨rfl, rfl, fun _ => rfl, fun h => { h with }⟩
  · exact ⟨rfl, rfl, id, fun h => { h with }⟩

theorem Heard.more (h : db.Heard scope) {db' : DiscoveredBroker} {new : Received}
    (hreceived : db'.received = db.received ++ [new])
    (hsrv : db'.platformData.srvRecordReceived = db.platformData.srvRecordReceived ∨
      db'.platformData.srvRecordReceived = true ∧ ∃ port, new = .srv port)
    (htxt : db'.platformData.txtRecordReceived = db.platformData.txtRecordReceived ∨
      db'.platformData.txtRecordReceived = true ∧
        ∃ data, new = .txt data ∧ (txtScopes data).getLast? = some scope)
    (haddrs : db'.numListenAddrs = db.numListenAddrs ∨
      (0 < db.numListenAddrs → 0 < db'.numListenAddrs) ∧ ∃ addr, new = .address addr)
    (hsent : db'.platformData.initialNotificationSent = db.platformData.initialNotificationSent)
    (hn : cstr db'.scope = db'.scope) : db'.Heard scope where
  srv := by
    rw [hreceived]
    intro hs
    rcases hsrv with heq | ⟨-, port, rfl⟩
    · obtain ⟨port, hmem⟩ := h.srv (heq ▸ hs)
      exact ⟨port, mem_append_left _ hmem⟩
    · exact ⟨port, by simp⟩
  txt := by
    rw [hreceived]
    intro ht
    rcases htxt with heq | ⟨-, data, rfl, hlast⟩
    · obtain ⟨data, hmem, hlast⟩ := h.txt (heq ▸ ht)
      exact ⟨data, mem_append_left _ hmem, hlast⟩
    · exact ⟨data, by simp, hlast⟩
  address := by
    rw [hreceived]
    intro hpos
    rcases haddrs with heq | ⟨-, addr, rfl⟩
    · obtain ⟨addr, hmem⟩ := h.address (heq ▸ hpos)
      exact ⟨addr, mem_append_left _ hmem⟩
    · exact ⟨addr, by simp⟩
  notified := by
    rw [hsent]
    intro hs
    obtain ⟨h1, h2, h3⟩ := h.notified hs
    exact ⟨hsrv.elim (·.trans h1) And.left, htxt.elim (·.trans h2) And.left,
      haddrs.elim (fun heq => heq ▸ h3) (·.1 h3)⟩
  nulFree := hn

theorem handleSrvIn_follows (i : Nat) : Follows scope db (handleSrvIn buf i db) := by
  unfold handleSrvIn
  dsimp only
  split_ifs
  · exact .refl db
  · exact ⟨rfl, rfl, id, fun h => h.more rfl (.inr ⟨rfl, _, rfl⟩) (.inl rfl) (.inl rfl) rfl h.nulFree⟩
  · exact ⟨rfl, rfl, id, fun h => h.more rfl (.inl rfl) (.inl rfl) (.inl rfl) rfl h.nulFree⟩
  · exact ⟨rfl, rfl, id, fun h => h.more rfl (.inl rfl) (.inl rfl) (.inl rfl) rfl h.nulFree⟩

/-! ### Addresses -/

/-- What a new address leaves alone. -/
structure SameButAddrs (db db' : DiscoveredBroker) : Prop where
  name : db'.serviceInstanceName = db.serviceInstanceName
  data : db'.platformData = db.platformData
  scope : db'.scope = db.scope
  received : db'.received = db.received
  addrs : 0 < db.numListenAddrs → 0 < db'.numListenAddrs

theorem addListenAddr_ensures (addr : IpAddr) (netint : Nat) :
    Ensures (db.addListenAddr addr netint) fun r => SameButAddrs db r.1 := by
  unfold addListenAddr
  cases db.listenAddrArray with
  | none =>
    refine Ensures.any.bind fun ok _ => ?_
    split
    · exact .pure ⟨rfl, rfl, rfl, rfl, id⟩
    refine Ensures.any.bind fun addrs _ => Ensures.any.bind fun netints _ => ?_
    split
    · exact Ensures.pure ⟨rfl, rfl, rfl, rfl, fun _ => Nat.one_pos⟩
    · exact Ensures.pure ⟨rfl, rfl, rfl, rfl, id⟩
  | some arr =>
    refine Ensures.any.bind fun ok _ => ?_
    split
    · exact Ensures.pure ⟨rfl, rfl, rfl, rfl, id⟩
    refine Ensures.any.bind fun addrs _ => Ensures.any.bind fun netints _ => ?_
    dsimp only
    split
    · exact .pure ⟨rfl, rfl, rfl, rfl, fun _ => Nat.succ_pos _⟩
    · exact .pure ⟨rfl, rfl, rfl, rfl, id⟩

theorem handleAddressIn_follows (addr : IpAddr) : Ensures (handleAddressIn addr db) fun db' =>
      Follows scope db db' ∧ db'.platformData.srvRecordReceived = db.platformData.srvRecordReceived := by
  unfold handleAddressIn
  split
  · exact Ensures.pure ⟨.refl db, rfl⟩
  unfold addNewAddr
  have hsame : Follows scope db { db with received := db.received ++ [.address addr] } :=
    ⟨rfl, rfl, id, fun h => h.more rfl (.inl rfl) (.inl rfl) (.inl rfl) rfl h.nulFree⟩
  refine Ensures.any.bind fun there _ => ?_
  split
  · exact .pure ⟨hsame, rfl⟩
  split
  · exact .pure ⟨hsame, rfl⟩
  refine (addListenAddr_ensures addr 0).bind fun r hr => ?_
  obtain ⟨db', added⟩ := r
  obtain ⟨hname, hdata, hscope, hreceived, haddrs⟩ := hr
  dsimp only at hname hdata hscope hreceived haddrs
  dsimp only
  split
  · refine .pure ⟨⟨hname, by rw [hdata], ?_, fun h => ?_⟩, by rw [hdata]⟩
    · rw [hdata]
      exact id
    · exact h.more hreceived (.inl (by rw [hdata])) (.inl (by rw [hdata])) (.inr ⟨haddrs, _, rfl⟩)
        (by rw [hdata]) (hscope ▸ h.nulFree)
  · refine .pure ⟨⟨hname, by rw [hdata], ?_, fun h => ?_⟩, by rw [hdata]⟩
    · rw [hdata]
      exact id
    · exact h.more hreceived (.inl (by rw [hdata])) (.inl (by rw [hdata])) (.inr ⟨haddrs, _, rfl⟩)
        (by rw [hdata]) (hscope ▸ h.nulFree)

/-! ### TXT records -/

theorem expandTxtRecordArrays_ensures :
    Ensures db.expandTxtRecordArrays fun r => SameButTxt db r.1 ∧ r.1.scope = db.scope := by
  unfold expandTxtRecordArrays
  cases db.additionalTxtItemsArray with
  | none =>
    refine Ensures.any.bind fun array _ => Ensures.any.bind fun data _ => ?_
    split
    · exact Ensures.pure ⟨⟨rfl, rfl, rfl, rfl⟩, rfl⟩
    · exact Ensures.pure ⟨⟨rfl, rfl, rfl, rfl⟩, rfl⟩
  | some array =>
    refine Ensures.any.bind fun ok _ => ?_
    split
    · exact Ensures.pure ⟨.refl db, rfl⟩
    refine Ensures.any.bind fun ok _ => ?_
    split
    · exact .pure ⟨.refl db, rfl⟩
    · exact .pure ⟨⟨rfl, rfl, rfl, rfl⟩, rfl⟩

theorem getNextUnusedTxtItem_ensures :
    Ensures db.getNextUnusedTxtItem fun r => SameButTxt db r.1 ∧ r.1.scope = db.scope := by
  unfold getNextUnusedTxtItem
  refine expandTxtRecordArrays_ensures.bind fun r hr => ?_
  obtain ⟨db', expanded⟩ := r
  dsimp only
  split
  · refine Ensures.any.bind fun ok _ => ?_
    split
    · exact .pure hr
    · exact .pure hr
  · exact .pure hr

theorem addBinaryTxtRecordItem_ensures (key : Bytes) (value : Option Bytes) :
    Ensures (db.addBinaryTxtRecordItem key value) fun r => SameButTxt db r.1 ∧ r.1.scope = db.scope := by
  unfold addBinaryTxtRecordItem
  split
  · exact Ensures.pure ⟨.refl db, rfl⟩
  refine Ensures.any.bind fun found _ => ?_
  cases found with
  | some i =>
    refine Ensures.any.bind fun same _ => ?_
    split
    · exact .pure ⟨.refl db, rfl⟩
    · exact .pure ⟨⟨rfl, rfl, rfl, rfl⟩, rfl⟩
  | none =>
    refine getNextUnusedTxtItem_ensures.bind fun r hr => ?_
    obtain ⟨db', unused⟩ := r
    cases unused with
    | none => exact .pure hr
    | some i =>
      exact .pure ⟨⟨hr.1.name, hr.1.data, hr.1.addrs, hr.1.received⟩, hr.2⟩

end DiscoveredBroker

theorem cstr_cstr (b : Bytes) : cstr (cstr b) = cstr b :=
  takeWhile_idem

structure TxtParse.Reads (scopes : List Bytes) (p q : TxtParse) : Prop where
  same : DiscoveredBroker.SameButTxt p.db q.db
  scope : cstr p.db.scope = p.db.scope → q.db.scope = scopes.getLast?.getD p.db.scope
  nulFree : cstr p.db.scope = p.db.scope → cstr q.db.scope = q.db.scope
  found : q.keysFound.scope = (p.keysFound.scope || !scopes.isEmpty)

namespace TxtParse.Reads

variable {p q r : TxtParse} {l l' : List Bytes}

theorem refl (p : TxtParse) : Reads [] p p := ⟨.refl _, fun _ => rfl, id, by simp⟩

theorem trans (h : Reads l p q) (h' : Reads l' q r) : Reads (l ++ l') p r where
  same := h.same.trans h'.same
  scope := by
    intro hn
    rw [h'.scope (h.nulFree hn), h.scope hn, getLast?_append]
    cases l'.getLast? <;> simp
  nulFree := fun hn => h'.nulFree (h.nulFree hn)
  found := by
    rw [h'.found, h.found]
    cases l <;> simp

theorem of_scope (hsame : DiscoveredBroker.SameButTxt p.db q.db) (hscope : q.db.scope = p.db.scope)
    (hfound : q.keysFound.scope = p.keysFound.scope) : Reads [] p q :=
  ⟨hsame, fun _ => hscope, fun hn => by rw [hscope]; exact hn, by simp [hfound]⟩

end TxtParse.Reads

section ParseTxt

variable {p : TxtParse}

theorem parseE133ScopeItem_reads {item : TxtRecordItemRef} (hk : item.key = ascii "E133Scope") :
    TxtParse.Reads item.scopeNamed.toList p (parseE133ScopeItem item p) := by
  unfold parseE133ScopeItem parseStringItem TxtRecordItemRef.scopeNamed
  by_cases hlen : 0 < item.bytes.length ∧ item.bytes.length ≤ e133ScopeStringPaddedLength - 1
  · rw [if_pos hlen, if_pos ⟨hk, hlen⟩]
    dsimp only
    split
    · -- the entry has this scope already
      rename_i hsame
      refine ⟨.refl _, fun hn => ?_, id, by simp⟩
      rw [← hsame, hn]
      rfl
    · exact ⟨⟨rfl, rfl, rfl, rfl⟩, fun _ => rfl, fun _ => cstr_cstr _, by simp⟩
  · rw [if_neg hlen, if_neg fun h => hlen h.2]
    exact .refl p

theorem parseValueItem_reads {α : Type} [DecidableEq α] {value : Option α}
    {get : DiscoveredBroker → α} {set : α → DiscoveredBroker → DiscoveredBroker}
    {mark : TxtKeysFound → TxtKeysFound}
    (hset : ∀ a db, DiscoveredBroker.SameButTxt db (set a db) ∧ (set a db).scope = db.scope)
    (hmark : ∀ mask, (mark mask).scope = mask.scope) :
    TxtParse.Reads [] p (parseValueItem value get set mark p) := by
  unfold parseValueItem
  cases value with
  | none => exact .refl p
  | some a =>
    dsimp only
    split_ifs
    · exact .of_scope (.refl _) rfl (hmark _)
    · exact .of_scope (hset _ _).1 (hset _ _).2 (hmark _)

theorem parseTxtItem_reads (item : TxtRecordItemRef) :
    Ensures (parseTxtItem env item p) (TxtParse.Reads item.scopeNamed.toList p) := by
  unfold parseTxtItem
  by_cases hk : item.key = ascii "E133Scope"
  · rw [if_pos hk]
    exact Ensures.pure (parseE133ScopeItem_reads hk)
  have hnone : item.scopeNamed.toList = [] := by simp [TxtRecordItemRef.scopeNamed, hk]
  rw [if_neg hk, hnone]
  split_ifs
  · unfold parseE133VersItem
    refine Ensures.any.bind fun v _ => Ensures.pure ?_
    exact parseValueItem_reads (fun _ _ => ⟨⟨rfl, rfl, rfl, rfl⟩, rfl⟩) fun _ => rfl
  · exact .pure (parseValueItem_reads (fun _ _ => ⟨⟨rfl, rfl, rfl, rfl⟩, rfl⟩) fun _ => rfl)
  · exact .pure (parseValueItem_reads (fun _ _ => ⟨⟨rfl, rfl, rfl, rfl⟩, rfl⟩) fun _ => rfl)
  · rw [parseModelItem, parseStringItem_eq]
    exact .pure (parseValueItem_reads (fun _ _ => ⟨⟨rfl, rfl, rfl, rfl⟩, rfl⟩) fun _ => rfl)
  · rw [parseManufacturerItem, parseStringItem_eq]
    exact .pure (parseValueItem_reads (fun _ _ => ⟨⟨rfl, rfl, rfl, rfl⟩, rfl⟩) fun _ => rfl)
  · refine (DiscoveredBroker.addBinaryTxtRecordItem_ensures _ _).bind fun r hr => ?_
    exact .pure (.of_scope hr.1 hr.2 rfl)

theorem parseTxtVers_ensures (item : TxtRecordItemRef) :
    Ensures (parseTxtVers item) fun ok => ok = true → item.key = ascii "TxtVers" := by
  unfold parseTxtVers
  by_cases hk : item.key = ascii "TxtVers"
  · exact Ensures.any.mono fun _ _ _ => hk
  · rw [if_pos hk]
    exact .pure fun h => (nomatch h)

theorem parseTxtStrings_reads : ∀ (strings : List Bytes) (p : TxtParse),
      Ensures (parseTxtStrings env strings p) fun r => DiscoveredBroker.SameButTxt p.db r.1.db ∧
          (cstr p.db.scope = p.db.scope → cstr r.1.db.scope = r.1.db.scope) ∧
          (r.2 = true → TxtParse.Reads (strings.filterMap scopeNamed) p r.1) := by
  intro strings
  induction strings with
  | nil => exact fun p => .pure ⟨.refl _, id, fun _ => .refl p⟩
  | cons s rest ih =>
    intro p
    unfold parseTxtStrings
    have hs : Ensures (parseTxtString env s p) fun r =>
        DiscoveredBroker.SameButTxt p.db r.1.db ∧
          (cstr p.db.scope = p.db.scope → cstr r.1.db.scope = r.1.db.scope) ∧
          (r.2 = true → TxtParse.Reads (scopeNamed s).toList p r.1) := by
      unfold parseTxtString scopeNamed
      cases txtItem s with
      | none => exact .pure ⟨.refl _, id, fun _ => .refl p⟩
      | some item =>
        dsimp only
        split
        · exact (parseTxtItem_reads item).bind fun q hq =>
            Ensures.pure ⟨hq.same, hq.nulFree, fun _ => hq⟩
        refine (parseTxtVers_ensures item).bind fun ok hok => ?_
        cases ok with
        | false => exact .pure ⟨.refl _, id, fun h => (nomatch h)⟩
        | true =>
          -- the version of the record is not a scope
          have hnone : item.scopeNamed = none := by
            simp only [TxtRecordItemRef.scopeNamed, hok rfl]
            rfl
          refine .pure ⟨.refl _, id, fun _ => ?_⟩
          rw [Option.bind_some, hnone]
          exact .of_scope (.refl _) rfl rfl
    refine hs.bind fun r hr => ?_
    obtain ⟨q, goOn⟩ := r
    obtain ⟨hsame, hn, hreads⟩ := hr
    cases goOn with
    | false => exact .pure ⟨hsame, hn, fun h => (nomatch h)⟩
    | true =>
      refine (ih q).mono fun r hr => ⟨hsame.trans hr.1, fun h => hr.2.1 (hn h), fun h => ?_⟩
      have hall := (hreads rfl).trans (hr.2.2 h)
      rw [filterMap_cons]
      rcases hs : scopeNamed s with _ | named
      · simpa [hs] using hall
      · simpa [hs] using hall

end ParseTxt

theorem handleTxtIn_follows (data : Bytes) : Ensures (handleTxtIn env data ref db) fun db' =>
      DiscoveredBroker.Follows ref.scope.chars db db' ∧
        db'.platformData.srvRecordReceived = db.platformData.srvRecordReceived := by
  unfold handleTxtIn
  split
  · exact .pure ⟨.refl db, rfl⟩
  have hparse : Ensures
      (lwmdnsTxtRecordToBrokerInfo env data { db with received := db.received ++ [.txt data] }) fun r =>
        DiscoveredBroker.SameButTxt { db with received := db.received ++ [.txt data] } r.1 ∧
          (cstr db.scope = db.scope → cstr r.1.scope = r.1.scope) ∧
          (cstr db.scope = db.scope → r.2 ≠ .error → (txtScopes data).getLast? = some r.1.scope) := by
    unfold lwmdnsTxtRecordToBrokerInfo
    refine (parseTxtStrings_reads _ _).bind fun r hr => ?_
    obtain ⟨p, toTheEnd⟩ := r
    obtain ⟨hsame, hn, hreads⟩ := hr
    dsimp only at hsame hn hreads
    dsimp only
    by_cases hok : (toTheEnd && p.keysFound.all) = true
    · rw [if_pos hok]
      rw [Bool.and_eq_true] at hok
      have hr := hreads hok.1
      refine .pure ⟨hsame, hn, fun hnul _ => ?_⟩
      -- a scope was found in this record, and the last one is that of the entry
      have hfound : p.keysFound.scope = true := by
        have := hok.2
        simp only [TxtKeysFound.all, Bool.and_eq_true] at this
        exact this.1.1.1.1.1
      have hscope := hr.scope hnul
      rcases hl : (txtScopes data).getLast? with _ | named
      · have hempty := hr.found
        rw [hfound, show (txtStrings data.length data).filterMap scopeNamed = [] from
          getLast?_eq_none_iff.mp hl] at hempty
        exact absurd hempty (by simp)
      · rw [show ((txtStrings data.length data).filterMap scopeNamed).getLast? = some named from hl]
          at hscope
        rw [hscope]
        rfl
    · rw [if_neg hok]
      exact .pure ⟨hsame, hn, fun _ h => absurd rfl h⟩
  refine hparse.bind fun r hr => ?_
  obtain ⟨db', res⟩ := r
  obtain ⟨⟨hname, hdata, haddrs, hreceived⟩, hn, hlast⟩ := hr
  dsimp only at hname hdata haddrs hreceived hn hlast
  dsimp only
  by_cases herr : res = .error
  · rw [if_pos herr]
    refine .pure ⟨⟨hname, by rw [hdata], by rw [hdata]; exact id, fun h => ?_⟩, by rw [hdata]⟩
    exact h.more hreceived (.inl (by rw [hdata])) (.inl (by rw [hdata])) (.inl haddrs) (by rw [hdata])
      (hn h.nulFree)
  rw [if_neg herr]
  by_cases hscope : db'.scope ≠ ref.scope.chars
  · rw [if_pos hscope]
    refine .pure ⟨⟨hname, by rw [hdata], fun _ => rfl, fun h => ?_⟩, by rw [hdata]⟩
    exact h.more hreceived (.inl (by rw [hdata])) (.inl (by rw [hdata])) (.inl haddrs) (by rw [hdata])
      (hn h.nulFree)
  rw [if_neg hscope]
  rw [ne_eq, not_not] at hscope
  refine .pure ⟨⟨hname, by rw [hdata], by rw [hdata]; exact id, fun h => ?_⟩, by rw [hdata]⟩
  refine h.more hreceived (.inl (by rw [hdata])) (.inr ⟨rfl, _, rfl, ?_⟩) (.inl haddrs) (by rw [hdata])
    (hn h.nulFree)
  rw [hlast h.nulFree herr, hscope]

end RDMnet
