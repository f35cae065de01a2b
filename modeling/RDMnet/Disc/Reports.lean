import RDMnet.Disc.Lifecycle

/-!
# What a scope monitor reports

The invariant of a monitor: of the entries with one name only the first has got an SRV record, the flags
of every entry tell the truth, and the callbacks so far say of each name whether an entry with it has been
reported.  Every record and every tick keeps it.
-/

namespace RDMnet

open Checked DiscoveredBroker List

variable {env : DiscEnv} {buf : Buf} {n now : Nat} {heap : Heap} {rr : DnsResourceRecord} {d : Disc}
  {db : DiscoveredBroker} {ref : ScopeMonitorRef} {name : Bytes} {l : List DiscoveredBroker}

/-! ### The invariant -/

def reportedAs (name : Bytes) (db : DiscoveredBroker) : Bool :=
  db.serviceInstanceName = name && db.platformData.initialNotificationSent

def FirstOnly (l : List DiscoveredBroker) : Prop :=
  l.Pairwise fun a b =>
    a.serviceInstanceName = b.serviceInstanceName → b.platformData.srvRecordReceived = false

def OneLive (l : List DiscoveredBroker) : Prop :=
  l.Pairwise fun a b =>
    a.serviceInstanceName = b.serviceInstanceName →
      a.platformData.destructionPending = true ∨ b.platformData.destructionPending = true

namespace ScopeMonitorRef

structure Tidy (ref : ScopeMonitorRef) : Prop where
  first : FirstOnly ref.brokerList
  heard : ∀ db ∈ ref.brokerList, db.Heard ref.scope.chars
  reports : ∀ name, readReports false (reportsOn name ref.log) =
    some (ref.brokerHandle.isNone && ref.brokerList.any (reportedAs name))

end ScopeMonitorRef

/-! ### Records -/

section Replace

variable {R : DiscoveredBroker → DiscoveredBroker → Prop} {pre post : List DiscoveredBroker}
  {db' : DiscoveredBroker}

theorem pairwise_replace (h : (pre ++ db :: post).Pairwise R) (hpre : ∀ a ∈ pre, R a db → R a db')
    (hpost : ∀ b ∈ post, R db b → R db' b) : (pre ++ db' :: post).Pairwise R := by
  rw [pairwise_append, pairwise_cons] at h ⊢
  obtain ⟨h1, ⟨h2, h3⟩, h4⟩ := h
  refine ⟨h1, ⟨fun b hb => hpost b hb (h2 b hb), h3⟩, fun a ha b hb => ?_⟩
  rcases mem_cons.mp hb with rfl | hb
  · exact hpre a ha (h4 a ha db mem_cons_self)
  · exact h4 a ha b (mem_cons_of_mem _ hb)

end Replace

def ByName (p : DiscoveredBroker → Bool) : Prop :=
  ∀ a b : DiscoveredBroker, a.serviceInstanceName = b.serviceInstanceName → p a = p b

theorem byName_serviceInstance (i : Option Nat) : ByName (dbMatchesServiceInstance buf i) := by
  intro a b h
  unfold dbMatchesServiceInstance
  rw [h]

section Modify

variable {p : DiscoveredBroker → Bool} {f : DiscoveredBroker → Checked DiscoveredBroker}

theorem tidy_modifyFirstM (h : ref.Tidy)
    (hf : ∀ db ∈ ref.brokerList, Ensures (f db) fun db' => Follows ref.scope.chars db db' ∧
      (db'.platformData.srvRecordReceived = db.platformData.srvRecordReceived ∨ ByName p)) :
    Ensures (modifyFirstM p f ref.brokerList) fun l => ({ ref with brokerList := l }).Tidy := by
  intro m
  rcases first_or_none p ref.brokerList with hn | ⟨pre, db, post, hl, hpre, hdb⟩
  · rw [modifyFirstM_of_none hn]
    exact h
  have hmem : db ∈ ref.brokerList := by simp [hl]
  obtain ⟨hfol, hsrv⟩ := hf db hmem m
  have hfirst := h.first
  have hheard := h.heard
  have hreports := h.reports
  rw [hl] at hfirst hheard hreports ⊢
  rw [modifyFirstM_append hpre hdb]
  generalize (f db m).1 = db' at hfol hsrv
  refine ⟨?_, fun a ha => ?_, fun name => ?_⟩
  · refine pairwise_replace hfirst (fun a ha hr hname => ?_) (fun b _ hr hname => ?_)
    · rw [hfol.name] at hname
      rcases hsrv with hsrv | hby
      · rw [hsrv]
        exact hr hname
      · -- an entry before it with the same name would have got the record
        have := hby a db hname
        rw [hpre a ha, hdb] at this
        cases this
    · rw [hfol.name] at hname
      exact hr hname
  · rcases mem_append.mp ha with ha | ha
    · exact hheard a (mem_append_left _ ha)
    rcases mem_cons.mp ha with rfl | ha
    · exact hfol.heard (hheard db (by simp))
    · exact hheard a (mem_append_right _ (mem_cons_of_mem _ ha))
  · rw [hreports name]
    simp only [any_append, any_cons, reportedAs, hfol.name, hfol.sent]

theorem oneLive_modifyFirstM {scope : Bytes} {l : List DiscoveredBroker} (h : OneLive l)
    (hf : ∀ db ∈ l, Ensures (f db) (Follows scope db)) : Ensures (modifyFirstM p f l) OneLive := by
  intro m
  rcases first_or_none p l with hn | ⟨pre, db, post, rfl, hpre, hdb⟩
  · rw [modifyFirstM_of_none hn]
    exact h
  have hfol := hf db (by simp) m
  rw [modifyFirstM_append hpre hdb]
  generalize (f db m).1 = db' at hfol
  refine pairwise_replace h (fun a _ hr hname => ?_) (fun b _ hr hname => ?_)
  · exact (hr (hname.trans hfol.name)).imp_right hfol.pending
  · exact (hr (hfol.name.symm.trans hname)).imp_left hfol.pending

end Modify

theorem updateEntry_follows (db : DiscoveredBroker) :
    Ensures (updateEntry env buf rr ref db) fun db' => Follows ref.scope.chars db db' ∧
      (db'.platformData.srvRecordReceived = db.platformData.srvRecordReceived ∨ ByName (isFor buf rr)) := by
  unfold updateEntry
  by_cases hsrv : rr.recordType = dnsRecordTypeSrv
  · rw [if_pos hsrv]
    refine .pure ⟨handleSrvIn_follows _, .inr ?_⟩
    unfold isFor
    rw [hsrv, if_neg (by decide)]
    exact byName_serviceInstance _
  rw [if_neg hsrv]
  split
  · exact (handleTxtIn_follows _).mono fun _ h => ⟨h.1, .inl h.2⟩
  · cases rr.dataPtr.bind (addressOf buf rr) with
    | none => exact .pure ⟨.refl db, .inl rfl⟩
    | some addr => exact (handleAddressIn_follows addr).mono fun _ h => ⟨h.1, .inl h.2⟩

theorem tidy_append (h : ref.Tidy) (ttl : UInt32) (now : Nat) :
    ({ ref with brokerList := ref.brokerList ++ [newEntry name ttl now] }).Tidy where
  first := by
    refine pairwise_append.mpr ⟨h.first, pairwise_singleton _ _, fun a _ b hb _ => ?_⟩
    rw [mem_singleton.mp hb]
    rfl
  heard := by
    intro db hdb
    rcases mem_append.mp hdb with hdb | hdb
    · exact h.heard db hdb
    · rw [mem_singleton.mp hdb]
      exact ⟨fun h => (nomatch h), fun h => (nomatch h), fun h => absurd h (Nat.lt_irrefl 0),
        fun h => (nomatch h), rfl⟩
  reports := by
    intro name'
    have hnew : reportedAs name' (newEntry name ttl now) = false := Bool.and_false _
    rw [h.reports name', any_append, any_cons, hnew]
    simp

theorem updateMonitor_tidy (h : ref.Tidy) :
    Ensures (updateMonitor env buf now rr ref) ScopeMonitorRef.Tidy := by
  unfold updateMonitor
  split
  · unfold handlePtrIn
    split
    · refine Ensures.bind (tidy_modifyFirstM h fun db _ => ?_) fun l hl => Ensures.pure hl
      exact Ensures.pure ⟨ptrAgain_follows, .inr (byName_serviceInstance _)⟩
    split
    · exact Ensures.pure h
    refine Ensures.any.bind fun ok _ => ?_
    split
    · exact .pure h
    cases lwmdnsDomainLabelToString buf rr.dataPtr with
    | none => exact .pure h
    | some name => exact .pure (tidy_append h _ _)
  · refine .bind (tidy_modifyFirstM h fun db _ => ?_) fun l hl => .pure hl
    exact updateEntry_follows db

/-! ### The tick -/

structure Ticked (db db' : DiscoveredBroker) : Prop where
  name : db'.serviceInstanceName = db.serviceInstanceName
  srv : db'.platformData.srvRecordReceived = db.platformData.srvRecordReceived
  pending : db'.platformData.destructionPending = db.platformData.destructionPending
  heard : ∀ scope, db.Heard scope → db'.Heard scope

theorem processDiscoveredBroker_ticked : Ticked db (processDiscoveredBroker ref now db).1 := by
  unfold processDiscoveredBroker
  dsimp only
  split_ifs with hsent hmissing haddrs hupdate
  · exact ⟨rfl, rfl, rfl, fun _ h => { h with }⟩
  · exact ⟨rfl, rfl, rfl, fun _ h => { h with }⟩
  · -- the entry is reported: all its records are there
    simp only [Bool.or_eq_true, Bool.not_eq_true', not_or, Bool.not_eq_false] at hmissing
    exact ⟨rfl, rfl, rfl, fun _ h => { h with notified := fun _ => ⟨hmissing.1, hmissing.2,
      Nat.pos_of_ne_zero haddrs⟩ }⟩
  · exact ⟨rfl, rfl, rfl, fun _ h => { h with }⟩
  · exact ⟨rfl, rfl, rfl, fun _ h => h⟩

theorem mem_processBrokerList : ∀ (l : List DiscoveredBroker), ∀ db' ∈ (processBrokerList ref now l).1,
      ∃ db ∈ l, Ticked db db' := by
  intro l
  induction l with
  | nil => exact fun _ h => (nomatch h)
  | cons db rest ih =>
    unfold processBrokerList
    split
    · exact fun db' hdb' =>
        ⟨db', mem_cons_of_mem _ hdb', rfl, rfl, rfl, fun _ h => h⟩
    · intro db' hdb'
      rcases mem_cons.mp hdb' with rfl | hdb'
      · exact ⟨db, mem_cons_self, processDiscoveredBroker_ticked⟩
      · obtain ⟨b, hb, hticked⟩ := ih db' hdb'
        exact ⟨b, mem_cons_of_mem _ hb, hticked⟩

theorem pairwise_processBrokerList {R : DiscoveredBroker → DiscoveredBroker → Prop}
    (hR : ∀ a b a' b', Ticked a a' → Ticked b b' → R a b → R a' b') :
    ∀ l : List DiscoveredBroker, l.Pairwise R → (processBrokerList ref now l).1.Pairwise R := by
  intro l
  induction l with
  | nil => exact fun _ => .nil
  | cons db rest ih =>
    intro h
    obtain ⟨hdb, hrest⟩ := pairwise_cons.mp h
    unfold processBrokerList
    split
    · exact hrest
    · refine pairwise_cons.mpr ⟨fun b' hb' => ?_, ih hrest⟩
      obtain ⟨b, hb, hticked⟩ := mem_processBrokerList rest b' hb'
      exact hR db b _ b' processDiscoveredBroker_ticked hticked (hdb b hb)

theorem processDiscoveredBroker_reports (hnone : ref.brokerHandle = none) (db : DiscoveredBroker) :
    (∀ name, db.serviceInstanceName ≠ name → reportsOn name (processDiscoveredBroker ref now db).2 = []) ∧
      readReports db.platformData.initialNotificationSent
        (reportsOn db.serviceInstanceName (processDiscoveredBroker ref now db).2) =
          some (processDiscoveredBroker ref now db).1.platformData.initialNotificationSent := by
  have hfound : notifyBrokerFound ref db.fillDiscInfo = [.brokerFound db.fillDiscInfo] := by
    simp [notifyBrokerFound, hnone]
  have hupdated : notifyBrokerUpdated ref db.fillDiscInfo = [.brokerUpdated db.fillDiscInfo] := by
    simp [notifyBrokerUpdated, hnone]
  unfold processDiscoveredBroker
  rw [hfound, hupdated]
  dsimp only
  rcases hsent : db.platformData.initialNotificationSent with _ | _
  · simp only [Bool.not_false, if_true]
    split_ifs
    · exact ⟨fun _ _ => rfl, rfl⟩
    · exact ⟨fun _ _ => rfl, rfl⟩
    · refine ⟨fun name hname => ?_, ?_⟩
      · simp [reportsOn, reportOn, fillDiscInfo, hname]
      · simp [reportsOn, reportOn, fillDiscInfo, readReports]
  · simp only [Bool.not_true, Bool.false_eq_true, if_false]
    split_ifs
    · refine ⟨fun name hname => ?_, ?_⟩
      · simp [reportsOn, reportOn, fillDiscInfo, hname]
      · simp [reportsOn, reportOn, fillDiscInfo, readReports]
    · refine ⟨fun _ _ => rfl, ?_⟩
      rw [hsent]
      rfl

def Unheard (name : Bytes) (l : List DiscoveredBroker) : Prop :=
  ∀ db ∈ l, db.serviceInstanceName = name →
    db.platformData.srvRecordReceived = false ∧ db.platformData.initialNotificationSent = false

theorem Unheard.any (h : Unheard name l) : l.any (reportedAs name) = false := by
  rw [any_eq_false]
  intro db hdb hr
  simp only [reportedAs, Bool.and_eq_true, decide_eq_true_eq] at hr
  rw [(h db hdb hr.1).2] at hr
  cases hr.2

theorem Unheard.reports (hnone : ref.brokerHandle = none) : ∀ l, Unheard name l →
      reportsOn name (processBrokerList ref now l).2 = [] ∧
        (processBrokerList ref now l).1.any (reportedAs name) = false := by
  intro l
  induction l with
  | nil => exact fun _ => ⟨rfl, rfl⟩
  | cons db rest ih =>
    intro h
    have hrest : Unheard name rest := fun db' hdb' => h db' (mem_cons_of_mem _ hdb')
    have hdb := h db mem_cons_self
    unfold processBrokerList
    split
    · refine ⟨?_, hrest.any⟩
      by_cases hname : db.serviceInstanceName = name
      · simp [(hdb hname).2, reportsOn]
      · split
        · simp [notifyBrokerLost, hnone, reportsOn, reportOn, hname]
        · rfl
    · obtain ⟨hns, hany⟩ := ih hrest
      dsimp only
      rw [reportsOn_append, hns, append_nil, any_cons, hany, Bool.or_false]
      by_cases hname : db.serviceInstanceName = name
      · obtain ⟨hsrv, hsent⟩ := hdb hname
        unfold processDiscoveredBroker
        simp [hsrv, hsent, reportsOn, reportedAs]
      · refine ⟨(processDiscoveredBroker_reports hnone db).1 name hname, ?_⟩
        simp [reportedAs, processDiscoveredBroker_ticked.name, hname]

/-- **What a tick reports of a name follows the pattern**, from what was reported before. -/
theorem processBrokerList_reports (hnone : ref.brokerHandle = none) {scope : Bytes} (name : Bytes) :
    ∀ l, FirstOnly l → (∀ db ∈ l, db.Heard scope) →
      readReports (l.any (reportedAs name)) (reportsOn name (processBrokerList ref now l).2) =
        some ((processBrokerList ref now l).1.any (reportedAs name)) := by
  intro l
  induction l with
  | nil => exact fun _ _ => rfl
  | cons db rest ih =>
    intro hfirst hheard
    obtain ⟨hdb, hrest⟩ := pairwise_cons.mp hfirst
    have hheard' := fun db' hdb' => hheard db' (mem_cons_of_mem _ hdb')
    by_cases hname : db.serviceInstanceName = name
    · -- the others with this name have not got an SRV record
      have hun : Unheard name rest := by
        intro b hb hbname
        have hsrv := hdb b hb (hname.trans hbname.symm)
        refine ⟨hsrv, Bool.eq_false_iff.mpr fun hsent => ?_⟩
        rw [((hheard' b hb).notified hsent).1] at hsrv
        cases hsrv
      have hhere : (db :: rest).any (reportedAs name) = db.platformData.initialNotificationSent := by
        simp [hun.any, reportedAs, hname]
      rw [hhere]
      unfold processBrokerList
      split
      · rw [hun.any]
        rcases hsent : db.platformData.initialNotificationSent with _ | _
        · rfl
        · simp [notifyBrokerLost, hnone, reportsOn, reportOn, hname, readReports]
      · obtain ⟨hns, hany⟩ := hun.reports hnone rest
        dsimp only
        rw [reportsOn_append, hns, append_nil, any_cons, hany, Bool.or_false]
        have hsame : reportedAs name (processDiscoveredBroker ref now db).1 =
            (processDiscoveredBroker ref now db).1.platformData.initialNotificationSent := by
          simp [reportedAs, processDiscoveredBroker_ticked.name, hname]
        rw [hsame, ← hname]
        exact (processDiscoveredBroker_reports hnone db).2
    · have hhere : (db :: rest).any (reportedAs name) = rest.any (reportedAs name) := by
        simp [reportedAs, hname]
      rw [hhere]
      unfold processBrokerList
      split
      · have hlost : reportsOn name (if db.platformData.initialNotificationSent = true then
            notifyBrokerLost ref db.serviceInstanceName db.cid else []) = [] := by
          split
          · simp [notifyBrokerLost, hnone, reportsOn, reportOn, hname]
          · rfl
        dsimp only
        rw [hlost]
        rfl
      · dsimp only
        rw [reportsOn_append, (processDiscoveredBroker_reports hnone db).1 name hname, nil_append,
          ih hrest hheard', any_cons]
        simp [reportedAs, processDiscoveredBroker_ticked.name, hname]

theorem reports_of_registered {cid : Uuid} (hsome : ref.brokerHandle = some cid) (name : Bytes) :
    ∀ l, reportsOn name (processBrokerList ref now l).2 = [] := by
  have hfound : ∀ info, reportsOn name (notifyBrokerFound ref info) = [] := by
    intro info
    unfold notifyBrokerFound
    rw [hsome]
    dsimp only
    split <;> rfl
  have hupdated : ∀ info, notifyBrokerUpdated ref info = [] := by
    intro info
    simp [notifyBrokerUpdated, hsome]
  have hlost : ∀ serviceName cid, reportsOn name (notifyBrokerLost ref serviceName cid) = [] := by
    intro serviceName cid
    unfold notifyBrokerLost
    rw [hsome]
    dsimp only
    split <;> rfl
  intro l
  induction l with
  | nil => rfl
  | cons db rest ih =>
    unfold processBrokerList
    split
    · dsimp only
      split
      · exact hlost _ _
      · rfl
    · dsimp only
      rw [reportsOn_append, ih, append_nil]
      unfold processDiscoveredBroker
      dsimp only
      split_ifs
      · rfl
      · rfl
      · exact hfound _
      · rw [hupdated]
        rfl
      · rfl

theorem tidy_tick (h : ref.Tidy) (now : Nat) : (processMonitoredScope now ref).Tidy where
  first := by
    refine pairwise_processBrokerList (fun a b a' b' ha hb hR hname => ?_) _ h.first
    rw [hb.srv]
    exact hR (by rw [← ha.name, ← hb.name, hname])
  heard := by
    intro db hdb
    obtain ⟨db', hdb', hticked⟩ := mem_processBrokerList _ db hdb
    exact hticked.heard _ (h.heard db' hdb')
  reports := by
    intro name
    show readReports false (reportsOn name (ref.log ++ (processBrokerList ref now ref.brokerList).2)) = _
    rw [reportsOn_append, readReports_append, h.reports name, Option.bind_some]
    show _ = some (ref.brokerHandle.isNone && (processBrokerList ref now ref.brokerList).1.any _)
    rcases hh : ref.brokerHandle with _ | cid
    · simp only [Option.isNone_none, Bool.true_and]
      exact processBrokerList_reports hh name _ h.first h.heard
    · rw [reports_of_registered hh]
      rfl

/-! ### Runs -/

namespace Disc

def Tidy (d : Disc) : Prop := ∀ ref ∈ d.monitors, ref.Tidy

theorem tidy_handleRecord (h : d.Tidy) : (d.handleRecord env buf now heap rr).Tidy := by
  intro ref href
  unfold handleRecord at href
  rw [dispatchRecord_eq] at href
  rcases mem_modifyFirstM href with href | ⟨ref', href', -, rfl⟩
  · exact h ref href
  · exact updateMonitor_tidy (h ref' href') _

theorem tidy_step {a : DiscAction} {d' : Disc} (h : d.Tidy) (hd : step env a d = some d') : d'.Tidy := by
  refine step_monitors h (fun buf messageSize now heaps _ => ?_) (fun _ now href => tidy_tick href now)
    (fun _ _ _ => ?_) hd
  · exact handleAll_keeps (fun _ _ _ _ hI => tidy_handleRecord hI) _ 0 d (each_true _ 0 d) h
  · exact ⟨.nil, fun _ hdb => (nomatch hdb), fun name => by simp [reportsOn, readReports]⟩

theorem tidy_of_runs (hr : Runs (step env) anyStep init d) : d.Tidy :=
  hr.keeps (I := Tidy) (fun _ _ _ _ h hd => tidy_step h hd) fun _ h => (nomatch h)

/-- A PTR record that makes a new entry makes it beside no entry with the same name, unless that is to be
destroyed. -/
def MakesNoSecond (buf : Buf) (heap : Heap) (rr : DnsResourceRecord) (d : Disc) : Prop :=
  rr.recordType = dnsRecordTypePtr → rr.ttl ≠ 0 → heap.alloc.1 = true →
    ∀ ref ∈ d.monitors.find? (concerns buf rr), knowsInstance buf rr ref = false →
      ∀ name ∈ lwmdnsDomainLabelToString buf rr.dataPtr, ∀ db ∈ ref.brokerList,
        db.serviceInstanceName = name → db.platformData.destructionPending = true

instance : Decidable (MakesNoSecond buf heap rr d) := by
  unfold MakesNoSecond
  infer_instance

def NoSecond (env : DiscEnv) : DiscAction → Disc → Prop
  | .input (.datagram buf messageSize now heaps), d =>
    Each (MakesNoSecond buf) env buf now heaps (recordsOf buf (min messageSize mdnsRecvBufSize)) 0 d
  | _, _ => True

instance : ∀ a d, Decidable (NoSecond env a d)
  | .input (.datagram ..), _ => inferInstanceAs (Decidable (Each _ _ _ _ _ _ _ _))
  | .input (.tick _), _ => isTrue trivial
  | .start .., _ => isTrue trivial
  | .stop _, _ => isTrue trivial

def AllOneLive (d : Disc) : Prop := ∀ ref ∈ d.monitors, OneLive ref.brokerList

theorem oneLive_updateMonitor (h : OneLive ref.brokerList)
    (hnew : rr.recordType = dnsRecordTypePtr → rr.ttl ≠ 0 → heap.alloc.1 = true →
      knowsInstance buf rr ref = false → ∀ name ∈ lwmdnsDomainLabelToString buf rr.dataPtr,
        ∀ db ∈ ref.brokerList, db.serviceInstanceName = name → db.platformData.destructionPending = true) :
    OneLive (updateMonitor env buf now rr ref ⟨heap, false⟩).1.brokerList := by
  unfold updateMonitor
  by_cases hptr : rr.recordType = dnsRecordTypePtr
  · rw [if_pos hptr]
    unfold handlePtrIn
    by_cases hknows : knowsInstance buf rr ref = true
    · rw [if_pos hknows]
      have hf : ∀ db ∈ ref.brokerList,
          Ensures (pure (ptrAgain rr now db)) (Follows ref.scope.chars db) :=
        fun db _ => .pure ptrAgain_follows
      exact oneLive_modifyFirstM h hf _
    rw [if_neg hknows]
    by_cases httl : rr.ttl = 0
    · rw [if_pos httl]
      exact h
    rw [if_neg httl]
    simp only [Checked.bind_apply]
    rcases halloc : (alloc ⟨heap, false⟩).1 with _ | _
    · exact h
    · rcases hname : lwmdnsDomainLabelToString buf rr.dataPtr with _ | name
      · exact h
      · refine pairwise_append.mpr ⟨h, pairwise_singleton _ _, fun a ha b hb hab => .inl ?_⟩
        rw [mem_singleton.mp hb] at hab
        exact hnew hptr httl halloc (by simpa using hknows) name hname a ha hab
  · rw [if_neg hptr]
    have hf : ∀ db ∈ ref.brokerList,
        Ensures (updateEntry env buf rr ref db) (Follows ref.scope.chars db) :=
      fun db _ => (updateEntry_follows db).mono fun _ h => h.1
    exact oneLive_modifyFirstM h hf _

theorem oneLive_handleRecord (hok : MakesNoSecond buf heap rr d) (h : d.AllOneLive) :
    (d.handleRecord env buf now heap rr).AllOneLive := by
  intro ref href
  unfold handleRecord at href
  rw [dispatchRecord_eq] at href
  dsimp only at href
  rcases first_or_none (concerns buf rr) d.monitors with hn | ⟨pre, a, post, hl, hpre, ha⟩
  · rw [modifyFirstM_of_none hn] at href
    exact h ref href
  have hfind : d.monitors.find? (concerns buf rr) = some a := by
    rw [find?_eq_some_iff_append]
    exact ⟨ha, pre, post, hl, fun b hb => by simp [hpre b hb]⟩
  have ham : a ∈ d.monitors := by simp [hl]
  rw [hl, modifyFirstM_append hpre ha] at href
  rcases mem_append.mp href with href | href
  · exact h ref (by simp [hl, href])
  rcases mem_cons.mp href with rfl | href
  · exact oneLive_updateMonitor (h a ham) fun hptr httl halloc hknows =>
      hok hptr httl halloc a hfind hknows
  · exact h ref (by simp [hl, href])

theorem oneLive_step {a : DiscAction} {d' : Disc} (hok : NoSecond env a d) (h : d.AllOneLive)
    (hd : step env a d = some d') : d'.AllOneLive := by
  refine step_monitors h (fun buf messageSize now heaps ha => ?_) (fun ref now href => ?_)
    (fun _ _ _ => .nil) hd
  · subst ha
    exact handleAll_keeps (fun _ _ _ hok hI => oneLive_handleRecord hok hI) _ 0 d hok h
  · refine pairwise_processBrokerList (fun a b a' b' ha hb hR hname => ?_) _ href
    rw [ha.pending, hb.pending]
    exact hR (by rw [← ha.name, ← hb.name, hname])

/-- **Brokers are reported as (found, updated\*, lost)\*, and only when their records have been received;
and where no record makes a second entry, at most one entry with a name is not to be destroyed.**  The
first two parts hold in every run. -/
theorem brokers_reported (env : DiscEnv) (hr : Runs (step env) anyStep init d) (ref : ScopeMonitorRef)
    (href : ref ∈ d.monitors) : (∀ name, (readReports false (reportsOn name ref.log)).isSome = true) ∧
      (∀ db ∈ ref.brokerList, db.platformData.initialNotificationSent = true → (∃ port, .srv port ∈ db.received) ∧
          (∃ data, .txt data ∈ db.received ∧ (txtScopes data).getLast? = some ref.scope.chars) ∧
          ∃ addr, .address addr ∈ db.received) ∧
      (Runs (step env) (NoSecond env) init d → OneLive ref.brokerList) := by
  have htidy := tidy_of_runs hr ref href
  refine ⟨fun name => ?_, fun db hdb hsent => ?_, fun hr' => ?_⟩
  · rw [htidy.reports name]
    rfl
  · have hheard := htidy.heard db hdb
    obtain ⟨hsrv, htxt, haddrs⟩ := hheard.notified hsent
    exact ⟨hheard.srv hsrv, hheard.txt htxt, hheard.address haddrs⟩
  · have hone : d.AllOneLive :=
      hr'.keeps (I := AllOneLive) (fun _ _ _ hok h hd => oneLive_step hok h hd) fun _ h => (nomatch h)
    exact hone ref href

instance : Decidable (OneLive l) := inferInstanceAs (Decidable (List.Pairwise _ _))

/-- A service is announced, says goodbye, and is announced twice before the next tick: both of the last
announcements make an entry, since the first entry with the name is to be destroyed. -/
theorem brokers_twice :
    ∃ d, Runs (step sampleDiscEnv) anyStep init d ∧ ∃ ref ∈ d.monitors, ¬ OneLive ref.brokerList := by
  obtain ⟨d, hr, hd⟩ := Runs.exists_of_play (s := init) (step sampleDiscEnv) anyStep
    (fun d => d.monitors.all fun ref => OneLive ref.brokerList) false
    [.start (sampleMonitor "s").scope none 0, .input (sampleDatagram [samplePtr "s" "A" 120]),
      .input (sampleDatagram [samplePtr "s" "A" 0]), .input (sampleDatagram [samplePtr "s" "A" 120]),
      .input (sampleDatagram [samplePtr "s" "A" 120])]
    (by decide +kernel)
  exact ⟨d, hr, by simpa using hd⟩

def sampleAnnouncement : DiscInput :=
  sampleDatagram [samplePtr "s" "A" 120,
    wireRecord (wireName ["A", "_rdmnet", "_tcp", "local"]) dnsRecordTypeSrv 120
      ([0, 0, 0, 0, 0x22, 0xb8] ++ wireName ["h", "local"]),
    wireRecord (wireName ["A", "_rdmnet", "_tcp", "local"]) dnsRecordTypeTxt 120
      ((9 :: ascii "TxtVers=1") ++ (11 :: ascii "E133Scope=s") ++ (10 :: ascii "E133Vers=1") ++
        (36 :: ascii "CID=00000000000000000000000000000001") ++ (16 :: ascii "UID=000100000002") ++
        (7 :: ascii "Model=m") ++ (7 :: ascii "Manuf=m")),
    wireRecord (wireName ["h", "local"]) dnsRecordTypeA 120 [10, 0, 0, 1]]

/-- A broker that is announced, found, and lost after its goodbye. -/
theorem brokers_reported_found_lost : ∃ d, Runs (step sampleDiscEnv) (NoSecond sampleDiscEnv) init d ∧
      d.monitors.map (fun ref => reportsOn (ascii "A") ref.log) = [[.found, .lost]] ∧
      ∀ ref ∈ d.monitors, OneLive ref.brokerList := by
  obtain ⟨d, hr, hlog⟩ := Runs.exists_of_play (s := init) (step sampleDiscEnv)
    (NoSecond sampleDiscEnv) (fun d => d.monitors.map fun ref => reportsOn (ascii "A") ref.log) [[.found, .lost]]
    [.start (sampleMonitor "s").scope none 0, .input sampleAnnouncement, .input (.tick 1),
      .input (sampleDatagram [samplePtr "s" "A" 0]), .input (.tick 2)]
    (by decide +kernel)
  exact ⟨d, hr, hlog, fun ref href =>
    (brokers_reported sampleDiscEnv (hr.mono fun _ _ _ => trivial) ref href).2.2 hr⟩

end Disc

end RDMnet
