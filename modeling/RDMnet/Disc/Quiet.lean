import RDMnet.Disc.Conflict
import RDMnet.Lib.Runs

/-!
# Conflicts and quiet periods

What `conflicting_broker_found` finds for a broker with any interfaces, and when `process_broker_state`
registers a broker with the platform.  The loop over the entries returns at the first one that
conflicts, so `should_deregister` is about the entries up to there, and about those before it
although they do not conflict.
-/

namespace RDMnet

open DiscoveredBroker Checked

/-! ### Conflicts -/

def DiscoveredBroker.netints (db : DiscoveredBroker) : List Nat :=
  (db.listenAddrNetintArray.getD []).take db.numListenAddrs

def DiscoveredBroker.Listed (db : DiscoveredBroker) : Prop :=
  db.numListenAddrs ≠ 0 → db.listenAddrNetintArray.isSome = true

instance (db : DiscoveredBroker) : Decidable db.Listed := inferInstanceAs (Decidable (_ → _))

namespace BrokerRegisterRef

def Conflicts (ref : BrokerRegisterRef) (db : DiscoveredBroker) : Prop :=
  ref.cid ≠ db.cid ∧ ∀ netints ∈ ref.netints, ∃ n ∈ db.netints, n = 0 ∨ n ∈ netints

instance (ref : BrokerRegisterRef) (db : DiscoveredBroker) : Decidable (ref.Conflicts db) :=
  inferInstanceAs (Decidable (_ ∧ ∀ netints ∈ ref.netints, ∃ n ∈ db.netints, n = 0 ∨ n ∈ netints))

def Yields (ref : BrokerRegisterRef) (db : DiscoveredBroker) : Prop := cidKey ref.cid < cidKey db.cid

instance (ref : BrokerRegisterRef) (db : DiscoveredBroker) : Decidable (ref.Yields db) :=
  inferInstanceAs (Decidable (_ < _))

def upToConflict (ref : BrokerRegisterRef) : List DiscoveredBroker → List DiscoveredBroker
  | [] => []
  | db :: rest => db :: if ref.Conflicts db then [] else ref.upToConflict rest

end BrokerRegisterRef

variable {ref : BrokerRegisterRef} {db : DiscoveredBroker}

theorem shouldDeregister_eq : rdmnetDiscBrokerShouldDeregister ref.cid db.cid = decide (ref.Yields db) := rfl

theorem scanNetints_eq (hl : db.Listed) (m : Mem) (netints : List Nat) :
    scanNetints db netints m =
      (if ∃ netint ∈ netints, ∃ n ∈ db.netints, n = 0 ∨ n = netint then .reached else .notReached, m) := by
  induction netints with
  | nil => simp [scanNetints]
  | cons netint rest ih =>
    unfold scanNetints
    by_cases h0 : db.numListenAddrs = 0
    · rw [if_pos h0, ih]
      simp [netints, h0]
    · have hany : ((db.listenAddrNetintArray.getD []).take db.numListenAddrs).any
          (fun n => n = 0 || n = netint) = true ↔ ∃ n ∈ db.netints, n = 0 ∨ n = netint := by
        simp [netints]
      simp only [if_neg h0, hl h0, bind_apply, assertVerify_true, Bool.not_true,
        Bool.false_eq_true, if_false, hany]
      by_cases h : ∃ n ∈ db.netints, n = 0 ∨ n = netint
      · simp [h]
      · simp [h, ih]

theorem conflicts_iff_reached {netints : List Nat} (hn : ref.netints = some netints)
    (hne : netints ≠ []) (hc : ref.cid ≠ db.cid) :
    (∃ netint ∈ netints, ∃ n ∈ db.netints, n = 0 ∨ n = netint) ↔ ref.Conflicts db := by
  obtain ⟨first, hfirst⟩ := List.exists_mem_of_ne_nil netints hne
  simp only [BrokerRegisterRef.Conflicts, hn, Option.mem_def, Option.some.injEq, forall_eq']
  constructor
  · rintro ⟨netint, hmem, n, hn, rfl | rfl⟩
    · exact ⟨hc, 0, hn, .inl rfl⟩
    · exact ⟨hc, n, hn, .inr hmem⟩
  · rintro ⟨-, n, hn, h0 | hmem⟩
    · exact ⟨first, hfirst, n, hn, .inl h0⟩
    · exact ⟨n, hmem, n, hn, .inr rfl⟩

theorem conflictLoop_eq (hne : ref.netints ≠ some []) (m : Mem) (l : List DiscoveredBroker) :
    (∀ db ∈ l, db.Listed) → ∀ b, conflictLoop ref l b m =
      ((decide (∃ db ∈ l, ref.Conflicts db), b || decide (∃ db ∈ ref.upToConflict l, ref.Yields db)), m) := by
  induction l with
  | nil => simp [conflictLoop, BrokerRegisterRef.upToConflict]
  | cons db rest ih =>
    intro hl b
    have hrest := ih fun db h => hl db (List.mem_cons_of_mem _ h)
    unfold conflictLoop BrokerRegisterRef.upToConflict
    by_cases hc : ref.cid = db.cid
    · have hno : ¬ ref.Conflicts db := fun h => h.1 hc
      have hle : ¬ ref.Yields db := by simp [BrokerRegisterRef.Yields, hc]
      simp [hc, hno, hle, hrest b]
    · rw [if_neg hc]
      cases hn : ref.netints with
      | none =>
        have hyes : ref.Conflicts db := ⟨hc, by simp [hn]⟩
        simp [hyes, shouldDeregister_eq]
      | some netints =>
        have hreach := conflicts_iff_reached hn (fun h => hne (h ▸ hn)) hc
        simp only [bind_apply, scanNetints_eq (hl db List.mem_cons_self), hreach]
        by_cases h : ref.Conflicts db
        · simp [h, shouldDeregister_eq]
        · simp [h, hrest, shouldDeregister_eq, Bool.or_assoc]

theorem upToConflict_append {before behind : List DiscoveredBroker} (hbefore : ∀ db ∈ before, ¬ ref.Conflicts db)
    (hc : ref.Conflicts db) : ref.upToConflict (before ++ db :: behind) = before ++ [db] := by
  induction before with
  | nil => simp [BrokerRegisterRef.upToConflict, hc]
  | cons db' before ih =>
    have hrest := ih fun db h => hbefore db (List.mem_cons_of_mem _ h)
    simp [BrokerRegisterRef.upToConflict, hbefore db' List.mem_cons_self, hrest]

/-- **Conflict detection.**  For a broker with enabled interfaces, a conflict is found exactly if one of
the entries conflicts.  Whether the broker should deregister is then right exactly if the first entry
that conflicts has a greater CID, or an entry before it, which does not conflict, has one just if an entry
behind it that conflicts has one. -/
theorem conflict_detected_iff (ref : BrokerRegisterRef) (netints : List Nat)
    (hn : ref.netints = some netints) (hne : netints ≠ []) (hl : ∀ db ∈ ref.brokerList, db.Listed) (m : Mem) :
    ((conflictingBrokerFound ref m).1.1 = true ↔ ∃ db ∈ ref.brokerList, ref.Conflicts db) ∧
    ∀ before db behind, ref.brokerList = before ++ db :: behind → (∀ db' ∈ before, ¬ ref.Conflicts db') →
      ref.Conflicts db → (((conflictingBrokerFound ref m).1.2 = true ↔
          ∃ db ∈ ref.brokerList, ref.Conflicts db ∧ ref.Yields db) ↔
        ref.Yields db ∨ ((∃ db' ∈ before, ref.Yields db') ↔
          ∃ db' ∈ behind, ref.Conflicts db' ∧ ref.Yields db')) := by
  have hne' : ref.netints ≠ some [] := by simpa [hn] using hne
  unfold conflictingBrokerFound
  rw [conflictLoop_eq hne' m _ hl]
  refine ⟨by simp, fun before db behind hlist hbefore hc => ?_⟩
  have hfound : (∃ db' ∈ ref.upToConflict ref.brokerList, ref.Yields db') ↔
      (∃ db' ∈ before, ref.Yields db') ∨ ref.Yields db := by
    rw [hlist, upToConflict_append hbefore hc]
    simp [or_and_right, exists_or]
  have hall : (∃ db' ∈ ref.brokerList, ref.Conflicts db' ∧ ref.Yields db') ↔
      ref.Yields db ∨ ∃ db' ∈ behind, ref.Conflicts db' ∧ ref.Yields db' := by
    have hno : ¬ ∃ db' ∈ before, ref.Conflicts db' ∧ ref.Yields db' :=
      fun ⟨db', hmem, hdb', _⟩ => hbefore db' hmem hdb'
    rw [hlist]
    simp [or_and_right, exists_or, hc, hno]
  simp only [Bool.false_or, decide_eq_true_eq, hfound, hall]
  by_cases hy : ref.Yields db
  · simp [hy]
  · simp [hy]

def sampleEntry (last : UInt8) (netint : Nat) : DiscoveredBroker :=
  { new with
    cid := sampleCid last
    listenAddrArray := some [.v4 1]
    listenAddrNetintArray := some [netint]
    numListenAddrs := 1 }

def sampleOnFirst (brokerList : List DiscoveredBroker) : BrokerRegisterRef :=
  { sampleRef 2 [] with netints := some [1], brokerList }

/-- The greater broker is on another interface, and the one in conflict is smaller. -/
theorem deregisters_for_unreachable :
    (∀ db ∈ (sampleOnFirst [sampleEntry 3 5, sampleEntry 1 1]).brokerList, db.Listed) ∧
      (conflictingBrokerFound (sampleOnFirst [sampleEntry 3 5, sampleEntry 1 1])
        ⟨.plenty, false⟩).1 = (true, true) ∧
      ¬ ∃ db ∈ (sampleOnFirst [sampleEntry 3 5, sampleEntry 1 1]).brokerList,
        (sampleOnFirst [sampleEntry 3 5, sampleEntry 1 1]).Conflicts db ∧
          (sampleOnFirst [sampleEntry 3 5, sampleEntry 1 1]).Yields db := by
  refine ⟨?_, ?_, ?_⟩ <;> decide +kernel

/-- The greater broker on another interface makes up for a greater one that is not looked at. -/
theorem conflict_detected_mixed :
    let ref := sampleOnFirst [sampleEntry 3 5, sampleEntry 1 1, sampleEntry 4 1]
    ((conflictingBrokerFound ref ⟨.plenty, false⟩).1.1 = true ↔ ∃ db ∈ ref.brokerList, ref.Conflicts db) ∧
    ((conflictingBrokerFound ref ⟨.plenty, false⟩).1.2 = true ↔
      ∃ db ∈ ref.brokerList, ref.Conflicts db ∧ ref.Yields db) := by
  intro ref
  obtain ⟨hfound, hright⟩ := conflict_detected_iff ref [1] rfl (by decide) (by decide +kernel) ⟨.plenty, false⟩
  refine ⟨hfound, (hright [sampleEntry 3 5] (sampleEntry 1 1) [sampleEntry 4 1] rfl ?_ ?_).mpr (.inr ?_)⟩ <;>
    decide +kernel

/-! ### Expiries of the query timer -/

theorem processBrokerState_reads (tick : BrokerTick) (ref : BrokerRegisterRef) :
    Ensures (processBrokerState tick ref) fun r => r.1.netints = ref.netints ∧ r.1.brokerList = ref.brokerList := by
  unfold processBrokerState
  split
  · refine .bind .any fun found _ => ?_
    dsimp only
    split_ifs <;> exact .pure ⟨rfl, rfl⟩
  · exact .pure ⟨rfl, rfl⟩

/-- An expiry of the query timer: the call of `process_broker_state` that meets it. -/
structure Expiry where
  tick : BrokerTick
  before : BrokerRegisterRef

namespace Expiry

def result (e : Expiry) : BrokerRegisterRef × Option PlatformCall :=
  (processBrokerState e.tick e.before ⟨.plenty, false⟩).1

def after (e : Expiry) : BrokerRegisterRef := e.result.1

def call (e : Expiry) : Option PlatformCall := e.result.2

def Conflict (e : Expiry) : Prop := ∃ db ∈ e.before.brokerList, e.before.Conflicts db

instance (e : Expiry) : Decidable e.Conflict :=
  inferInstanceAs (Decidable (∃ db ∈ e.before.brokerList, e.before.Conflicts db))

def restarted (e : Expiry) : BrokerRegisterRef :=
  { e.before with
    queryTimer := etcpalTimerStart e.tick.now brokerRegQueryTimeout
    usingRandomBackoff := false }

structure StartsBackoff (e : Expiry) : Prop where
  quiet : ¬ e.Conflict
  querying : e.before.state = .querying
  backoff : e.after.usingRandomBackoff = true
  timer : e.after.queryTimer = etcpalTimerStart e.tick.now e.tick.randomBackoff

structure StartsQuery (e : Expiry) : Prop where
  backoff : e.after.usingRandomBackoff = false
  timer : e.after.queryTimer = etcpalTimerStart e.tick.now brokerRegQueryTimeout

/-- The timer has expired, and the broker is one of those that can be registered. -/
structure Proper (e : Expiry) : Prop where
  expired : etcpalTimerIsExpired e.before.queryTimer e.tick.now = true
  netints : e.before.netints ≠ some []
  listed : ∀ db ∈ e.before.brokerList, db.Listed

inductive Outcome (e : Expiry) : Prop
  | stays (hs : e.StartsQuery) (hcall : e.call = none) (hst : e.after.state = e.before.state)
  | unregisters (hs : e.StartsQuery) (hcall : e.call = some .unregister)
      (hst : e.before.state = .registered) (hst' : e.after.state = .querying)
  | waits (hs : e.StartsBackoff) (hcall : e.call = none) (hst : e.after.state = .querying)
  | registers (ok : Bool) (hs : e.StartsQuery) (hcall : e.call = some (.register ok))
      (hq : ¬ e.Conflict) (hst : e.before.state = .querying)
      (hback : e.before.usingRandomBackoff = true)
      (hst' : e.after.state = if ok then .registered else .notRegistered)

theorem Proper.found {e : Expiry} (h : e.Proper) (m : Mem) :
    ∃ shouldDeregister, conflictingBrokerFound e.restarted m = ((decide e.Conflict, shouldDeregister), m) :=
  have hne : e.restarted.netints ≠ some [] := h.netints
  ⟨_, conflictLoop_eq hne m _ h.listed false⟩

theorem StartsQuery.of_eq {e : Expiry} {state : BrokerRegisterState}
    (h : e.after = { e.restarted with state }) : e.StartsQuery :=
  ⟨by rw [h]; rfl, by rw [h]; rfl⟩

theorem Proper.outcome {e : Expiry} (h : e.Proper) : e.Outcome := by
  obtain ⟨shouldDeregister, hfound⟩ := h.found ⟨.plenty, false⟩
  have hresult : e.result = if e.Conflict then
        if shouldDeregister && e.before.state = .registered then
          ({ e.restarted with state := .querying }, some .unregister)
        else (e.restarted, none)
      else if e.before.state = .querying then
        if e.before.usingRandomBackoff then
          ({ e.restarted with state := if e.tick.registers then .registered else .notRegistered },
            some (.register e.tick.registers))
        else
          ({ e.restarted with
            queryTimer := etcpalTimerStart e.tick.now e.tick.randomBackoff
            usingRandomBackoff := true }, none)
      else (e.restarted, none) := by
    have hfound' : conflictingBrokerFound { e.before with
        queryTimer := etcpalTimerStart e.tick.now brokerRegQueryTimeout
        usingRandomBackoff := false } ⟨.plenty, false⟩ = _ := hfound
    unfold result processBrokerState
    simp only [h.expired, if_true, bind_apply, hfound', decide_eq_true_eq]
    split_ifs <;> rfl
  have hafter {ref call} (hr : e.result = (ref, call)) : e.after = ref ∧ e.call = call :=
    ⟨congrArg Prod.fst hr, congrArg Prod.snd hr⟩
  by_cases hc : e.Conflict
  · rw [if_pos hc] at hresult
    by_cases hd : (shouldDeregister && e.before.state = .registered) = true
    · rw [if_pos hd] at hresult
      obtain ⟨hafter, hcall⟩ := hafter hresult
      simp only [Bool.and_eq_true, decide_eq_true_eq] at hd
      exact .unregisters (.of_eq hafter) hcall hd.2 (by rw [hafter])
    · rw [if_neg hd] at hresult
      obtain ⟨hafter, hcall⟩ := hafter hresult
      exact .stays (.of_eq hafter) hcall (by rw [hafter]; rfl)
  · rw [if_neg hc] at hresult
    by_cases hq : e.before.state = .querying
    · rw [if_pos hq] at hresult
      cases hb : e.before.usingRandomBackoff with
      | true =>
        rw [hb, if_pos rfl] at hresult
        obtain ⟨hafter, hcall⟩ := hafter hresult
        exact .registers _ (.of_eq hafter) hcall hc hq hb (by rw [hafter])
      | false =>
        rw [hb, if_neg (by decide)] at hresult
        obtain ⟨hafter, hcall⟩ := hafter hresult
        exact .waits ⟨hc, hq, by rw [hafter], by rw [hafter]⟩ hcall (by rw [hafter]; exact hq)
    · rw [if_neg hq] at hresult
      obtain ⟨hafter, hcall⟩ := hafter hresult
      exact .stays (.of_eq hafter) hcall (by rw [hafter]; rfl)

end Expiry

/-! ### Runs -/

structure Registering where
  ref : BrokerRegisterRef
  expiries : List Expiry

inductive RegisteringAction
  | tick (tick : BrokerTick)
  /-- The platform changes the list of the broker's monitor. -/
  | discovers (brokerList : List DiscoveredBroker)

def registeringStep : RegisteringAction → Registering → Option Registering
  | .tick tick, s =>
    some
      { ref := (processBrokerState tick s.ref ⟨.plenty, false⟩).1.1
        expiries :=
          if etcpalTimerIsExpired s.ref.queryTimer tick.now then ⟨tick, s.ref⟩ :: s.expiries
          else s.expiries }
  | .discovers brokerList, s =>
    if ∀ db ∈ brokerList, db.Listed then some { s with ref.brokerList := brokerList } else none

/-- The broker as `rdmnet_disc_register_broker` leaves it. -/
def registering (cid : Uuid) (netints : Option (List Nat)) (now : Nat) : Registering :=
  ⟨⟨cid, netints, [], .querying, etcpalTimerStart now brokerRegQueryTimeout, false⟩, []⟩

namespace Registering

def calls (s : Registering) : List PlatformCall :=
  (s.expiries.reverse.filterMap Expiry.call).filter (· ≠ .register false)

structure Sound (s : Registering) : Prop where
  netints : s.ref.netints ≠ some []
  listed : ∀ db ∈ s.ref.brokerList, db.Listed
  backoff : s.ref.usingRandomBackoff = true → ∃ e l, s.expiries = e :: l ∧ e.StartsBackoff
  history : ∀ l e l', s.expiries = l ++ e :: l' →
    (∀ ok, e.call = some (.register ok) → e.before.state = .querying ∧ ¬ e.Conflict ∧
      ∃ e' l'', l' = e' :: l'' ∧ e'.StartsBackoff) ∧
    (e.Conflict → e.StartsQuery)
  alternate : ∃ n, s.calls = (List.replicate n [.register true, .unregister]).flatten ++
    if s.ref.state = .registered then [.register true] else []

variable {s : Registering}

theorem calls_cons (e : Expiry) (ref : BrokerRegisterRef) :
    calls ⟨ref, e :: s.expiries⟩ = s.calls ++ e.call.toList.filter (· ≠ .register false) := by
  cases hc : e.call <;> simp [calls, hc]

theorem Sound.expire (h : s.Sound) {e : Expiry} (he : e.before = s.ref) (hp : e.Proper) :
    Sound ⟨e.after, e :: s.expiries⟩ := by
  obtain ⟨n, hn⟩ := h.alternate
  obtain ⟨hnetints, hlist⟩ := processBrokerState_reads e.tick e.before ⟨.plenty, false⟩
  have hcases := hp.outcome
  refine ⟨fun hx => hp.netints (hnetints ▸ hx), fun db hdb => hp.listed db (hlist ▸ hdb),
    fun hb => ⟨e, _, rfl, ?_⟩, ?_, ?_⟩
  · cases hcases with
    | waits hs => exact hs
    | stays hs | unregisters hs | registers ok hs => exact absurd hb (by simp [hs.backoff])
  · intro l x l' hsplit
    cases l with
    | cons y l =>
      obtain ⟨-, hsplit⟩ := List.cons.inj hsplit
      exact h.history l x l' hsplit
    | nil =>
      obtain ⟨rfl, rfl⟩ := List.cons.inj hsplit
      cases hcases with
      | waits hs hcall => exact ⟨fun ok hok => (by simp [hcall] at hok), fun hc => absurd hc hs.quiet⟩
      | stays hs hcall | unregisters hs hcall =>
        exact ⟨fun ok hok => (by simp [hcall] at hok), fun _ => hs⟩
      | registers ok hs hcall hq hst hback =>
        exact ⟨fun _ _ => ⟨hst, hq, h.backoff (he ▸ hback)⟩, fun _ => hs⟩
  · rw [calls_cons, hn]
    cases hcases with
    | waits hs hcall hst =>
      refine ⟨n, ?_⟩
      simp [hcall, hst, ← he, hs.querying]
    | stays hs hcall hst =>
      refine ⟨n, ?_⟩
      simp [hcall, hst, he]
    | unregisters hs hcall hst hst' =>
      refine ⟨n + 1, ?_⟩
      simp [hcall, hst', ← he, hst, List.replicate_succ']
    | registers ok hs hcall hq hst hback hst' =>
      refine ⟨n, ?_⟩
      cases ok <;> simp [hcall, hst', ← he, hst]

theorem Sound.step (h : s.Sound) {a : RegisteringAction} {s' : Registering}
    (hs : registeringStep a s = some s') : s'.Sound := by
  cases a with
  | tick tick =>
    obtain rfl := Option.some.inj hs
    by_cases hexp : etcpalTimerIsExpired s.ref.queryTimer tick.now = true
    · rw [if_pos hexp]
      exact h.expire (e := ⟨tick, s.ref⟩) rfl ⟨hexp, h.netints, h.listed⟩
    · rw [if_neg hexp]
      unfold processBrokerState
      rw [if_neg hexp]
      exact h
  | discovers brokerList =>
    simp only [registeringStep] at hs
    split at hs
    · rename_i hl
      cases hs
      exact { h with listed := hl }
    · cases hs

end Registering

/-- **A broker registers only after two quiet periods.**  Whatever is discovered and whenever the timer
expires: `rdmnet_disc_platform_register_broker` is called in `kBrokerStateQuerying`, at an expiry
without a conflict, the one before which, in the same state and without a conflict, started the
random backoff; an expiry with a conflict starts a full query period; and the platform has been asked,
with success, to register and to unregister the broker in turn. -/
theorem registers_after_quiet (cid : Uuid) (netints : Option (List Nat)) (now : Nat)
    (hne : netints ≠ some []) {s : Registering}
    (h : Runs registeringStep anyStep (registering cid netints now) s) :
    (∀ l e l', s.expiries = l ++ e :: l' →
      (∀ ok, e.call = some (.register ok) → e.before.state = .querying ∧ ¬ e.Conflict ∧
        ∃ e' l'', l' = e' :: l'' ∧ e'.StartsBackoff) ∧ (e.Conflict → e.StartsQuery)) ∧
    ∃ n, s.calls = (List.replicate n [.register true, .unregister]).flatten ++
      if s.ref.state = .registered then [.register true] else [] := by
  have hinit : (registering cid netints now).Sound :=
    ⟨hne, by simp [registering], by simp [registering], by simp [registering], 0, rfl⟩
  have hsound := h.keeps (I := Registering.Sound) (fun _ _ _ _ ht hs => ht.step hs) hinit
  exact ⟨hsound.history, hsound.alternate⟩

/-- The first two expiries of a broker that hears of no other. -/
theorem registers_after_quiet_alone :
    ∃ s, Runs registeringStep anyStep (registering default none 0) s ∧ s.calls = [.register true] ∧
      (∃ e e', s.expiries = [e, e'] ∧ ¬ e.Conflict ∧ e'.StartsBackoff) ∧
      ∃ n, s.calls = (List.replicate n [.register true, .unregister]).flatten ++
        if s.ref.state = .registered then [.register true] else [] := by
  obtain ⟨s, hr, hplay⟩ := Runs.exists_of_play (s := registering default none 0) registeringStep
    anyStep (fun s => (s.calls, s.expiries.map Expiry.call)) ([.register true], [some (.register true), none])
    [.tick ⟨3001, 40, true⟩, .tick ⟨3042, 7, true⟩] (by decide +kernel)
  obtain ⟨hcalls, hexpiries⟩ := Prod.mk.inj hplay
  obtain ⟨hquiet, hturns⟩ := registers_after_quiet default none 0 (by decide) hr
  obtain ⟨e, l, hl, hcall, hrest⟩ := List.map_eq_cons_iff.mp hexpiries
  obtain ⟨-, hno, e', l', rfl, hback⟩ := (hquiet [] e l hl).1 true hcall
  obtain rfl : l' = [] := List.map_eq_nil_iff.mp (List.cons.inj hrest).2
  exact ⟨s, hr, hcalls, ⟨e, e', hl, hno, hback⟩, hturns⟩

end RDMnet
