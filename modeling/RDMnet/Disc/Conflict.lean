import RDMnet.Disc.Mdns

/-!
# Brokers that conflict

`process_broker_state` of `common.c` for each of the brokers of a scope, with what it sees in the list of
its scope monitor.  Without a restriction to interfaces `conflicting_broker_found` returns at the first
entry with another CID, so that this entry alone decides whether the broker deregisters.
-/

namespace RDMnet

/-- `broker_state_t` -/
inductive BrokerRegisterState
  | notRegistered | querying | registered
  deriving DecidableEq, Repr

/-- `RdmnetBrokerRegisterRef`, with the list of its scope monitor. -/
structure BrokerRegisterRef where
  cid : Uuid
  netints : Option (List Nat)
  brokerList : List DiscoveredBroker
  state : BrokerRegisterState
  queryTimer : EtcPalTimer
  usingRandomBackoff : Bool
  deriving DecidableEq

/-- What a call of `process_broker_state` takes from its environment. -/
structure BrokerTick where
  now : Nat
  /-- `BROKER_REG_QUERY_TIMEOUT * rand() / RAND_MAX` -/
  randomBackoff : Nat
  /-- `rdmnet_disc_platform_register_broker` succeeds. -/
  registers : Bool

/-- The bytes of a CID as `ETCPAL_UUID_CMP` compares them, one after another. -/
def cidKey (cid : Uuid) : List Nat := cid.toList.map UInt8.toNat

theorem cidKey_injective : Function.Injective cidKey := by
  intro a b h
  have hl := List.map_injective_iff.mpr (fun x y => UInt8.toNat_inj.mp) h
  exact Vector.toList_inj.mp hl

/-- `rdmnet_disc_broker_should_deregister` -/
def rdmnetDiscBrokerShouldDeregister (thisBrokerCid otherBrokerCid : Uuid) : Bool :=
  cidKey thisBrokerCid < cidKey otherBrokerCid

/-- `BROKER_REG_QUERY_TIMEOUT` -/
abbrev brokerRegQueryTimeout : Nat := 3000

/-- What the loop of `conflicting_broker_found` over the interfaces of an entry comes to. -/
inductive NetintScan
  | reached | assertionFailed | notReached
  deriving DecidableEq, Repr

/-- The loop of `conflicting_broker_found` over the interfaces of the broker and the addresses of an
entry. -/
def scanNetints (db : DiscoveredBroker) : List Nat → Checked NetintScan
  | [] => return .notReached
  | netint :: netints => do
    if db.numListenAddrs = 0 then scanNetints db netints
    else if !(← assertVerify db.listenAddrNetintArray.isSome) then return .assertionFailed
    else if ((db.listenAddrNetintArray.getD []).take db.numListenAddrs).any
        fun n => n = 0 || n = netint then return .reached
    else scanNetints db netints

/-- The loop of `conflicting_broker_found`: its result, and `should_deregister`. -/
def conflictLoop (ref : BrokerRegisterRef) : List DiscoveredBroker → Bool → Checked (Bool × Bool)
  | [], shouldDeregister => return (false, shouldDeregister)
  | db :: rest, shouldDeregister => do
    if ref.cid = db.cid then conflictLoop ref rest shouldDeregister
    else
      let shouldDeregister := shouldDeregister || rdmnetDiscBrokerShouldDeregister ref.cid db.cid
      match ref.netints with
      | none => return (true, shouldDeregister)
      | some netints =>
        match ← scanNetints db netints with
        | .reached => return (true, shouldDeregister)
        | .assertionFailed => return (false, shouldDeregister)
        | .notReached => conflictLoop ref rest shouldDeregister

/-- `conflicting_broker_found` -/
def conflictingBrokerFound (ref : BrokerRegisterRef) : Checked (Bool × Bool) :=
  conflictLoop ref ref.brokerList false

/-- What `process_broker_state` asks of the platform. -/
inductive PlatformCall
  | register (succeeds : Bool)
  | unregister
  deriving DecidableEq

/-- `process_broker_state`, and the call of `rdmnet_disc_platform_register_broker` or
`rdmnet_disc_platform_unregister_broker` that it makes. -/
def processBrokerState (tick : BrokerTick) (ref : BrokerRegisterRef) :
    Checked (BrokerRegisterRef × Option PlatformCall) := do
  if etcpalTimerIsExpired ref.queryTimer tick.now then
    let randomBackoffElapsed := ref.usingRandomBackoff
    let ref := { ref with
      queryTimer := etcpalTimerStart tick.now brokerRegQueryTimeout
      usingRandomBackoff := false }
    let (conflict, shouldDeregister) ← conflictingBrokerFound ref
    if conflict then
      if shouldDeregister && ref.state = .registered then
        return ({ ref with state := .querying }, some .unregister)
      else return (ref, none)
    else if ref.state = .querying then
      if randomBackoffElapsed then
        return ({ ref with state := if tick.registers then .registered else .notRegistered },
          some (.register tick.registers))
      else
        return ({ ref with
          queryTimer := etcpalTimerStart tick.now tick.randomBackoff
          usingRandomBackoff := true }, none)
    else return (ref, none)
  else return (ref, none)

/-! ### One broker -/

def BrokerRegisterRef.firstOther (ref : BrokerRegisterRef) : Option DiscoveredBroker :=
  ref.brokerList.find? fun db => ref.cid ≠ db.cid

theorem conflictLoop_unrestricted (ref : BrokerRegisterRef) (hn : ref.netints = none) (m : Mem) :
    ∀ l, (conflictLoop ref l false m).1 =
      match l.find? fun db => ref.cid ≠ db.cid with
      | none => (false, false)
      | some db => (true, rdmnetDiscBrokerShouldDeregister ref.cid db.cid) := by
  intro l
  induction l with
  | nil => rfl
  | cons db rest ih =>
    unfold conflictLoop
    by_cases hc : ref.cid = db.cid
    · simpa [hc] using ih
    · simp [hc, hn]

theorem processBrokerState_unrestricted {ref : BrokerRegisterRef} {tick : BrokerTick}
    (hn : ref.netints = none) (he : etcpalTimerIsExpired ref.queryTimer tick.now = true)
    {db : DiscoveredBroker} (hdb : ref.firstOther = some db) (m : Mem) :
    (processBrokerState tick ref m).1.1.state =
      if cidKey ref.cid < cidKey db.cid ∧ ref.state = .registered then .querying else ref.state := by
  have hloop := conflictLoop_unrestricted
    { ref with
      queryTimer := etcpalTimerStart tick.now brokerRegQueryTimeout
      usingRandomBackoff := false } hn m ref.brokerList
  unfold BrokerRegisterRef.firstOther at hdb
  simp only [hdb] at hloop
  unfold processBrokerState conflictingBrokerFound
  simp only [he, if_true, Checked.bind_apply, hloop, rdmnetDiscBrokerShouldDeregister]
  by_cases h : cidKey ref.cid < cidKey db.cid ∧ ref.state = .registered
  · simp [h]
  · rw [if_neg h]
    split
    · rename_i h'
      simp only [Bool.and_eq_true, decide_eq_true_eq] at h'
      exact absurd h' h
    · rfl

theorem exists_firstOther {ref : BrokerRegisterRef} {db : DiscoveredBroker}
    (hmem : db ∈ ref.brokerList) (hne : ref.cid ≠ db.cid) :
    ∃ db', ref.firstOther = some db' ∧ db' ∈ ref.brokerList ∧ ref.cid ≠ db'.cid := by
  have hs : (ref.brokerList.find? fun db => ref.cid ≠ db.cid).isSome = true := by
    rw [List.find?_isSome]
    exact ⟨db, hmem, by simpa using hne⟩
  obtain ⟨db', hdb'⟩ := Option.isSome_iff_exists.mp hs
  exact ⟨db', hdb', List.mem_of_find?_eq_some hdb', by simpa using List.find?_some hdb'⟩

/-! ### A group of brokers -/

section Group

variable {ι : Type} {refs : ι → BrokerRegisterRef} {ticks : ι → BrokerTick}

/-- Two or more registered brokers on one scope, without a restriction to interfaces, each of which sees
the others and nothing but the brokers of the group; its query timer has expired. -/
structure ConflictGroup (refs : ι → BrokerRegisterRef) (ticks : ι → BrokerTick) : Prop where
  finite : Finite ι
  nontrivial : Nontrivial ι
  registered : ∀ i, (refs i).state = .registered
  distinct : ∀ i j, (refs i).cid = (refs j).cid → i = j
  unrestricted : ∀ i, (refs i).netints = none
  lists : ∀ i j, i ≠ j → ∃ db ∈ (refs i).brokerList, db.cid = (refs j).cid
  noOthers : ∀ i, ∀ db ∈ (refs i).brokerList, ∃ j, db.cid = (refs j).cid
  expired : ∀ i, etcpalTimerIsExpired (refs i).queryTimer (ticks i).now = true

def stateAfter (refs : ι → BrokerRegisterRef) (ticks : ι → BrokerTick) (m : Mem) (i : ι) :
    BrokerRegisterState :=
  (processBrokerState (ticks i) (refs i) m).1.1.state

def Greatest (refs : ι → BrokerRegisterRef) (i : ι) : Prop :=
  ∀ j, cidKey (refs j).cid ≤ cidKey (refs i).cid

/-- The first entry with another CID that each broker sees, the greatest apart, has a greater CID. -/
def SeesGreaterFirst (refs : ι → BrokerRegisterRef) : Prop :=
  ∀ i, ¬ Greatest refs i → ∀ db, (refs i).firstOther = some db → cidKey (refs i).cid < cidKey db.cid

/-- A broker that waits to be registered on the scope of the group, and sees its brokers. -/
structure WaitsBeside (refs : ι → BrokerRegisterRef) (q : BrokerRegisterRef) (tick : BrokerTick) :
    Prop where
  querying : q.state = .querying
  unrestricted : q.netints = none
  lists : ∀ i, ∃ db ∈ q.brokerList, db.cid = (refs i).cid
  expired : etcpalTimerIsExpired q.queryTimer tick.now = true

namespace ConflictGroup

section

variable (hg : ConflictGroup refs ticks)
include hg

theorem exists_other (i : ι) : ∃ db, (refs i).firstOther = some db ∧ ∃ j, j ≠ i ∧ db.cid = (refs j).cid := by
  have := hg.nontrivial
  obtain ⟨j, hj⟩ := exists_ne i
  obtain ⟨db, hmem, hcid⟩ := hg.lists i j hj.symm
  have hne : (refs i).cid ≠ db.cid := by
    intro h
    exact hj (hg.distinct j i (hcid.symm.trans h.symm))
  obtain ⟨db', hfirst, hmem', hne'⟩ := exists_firstOther hmem hne
  obtain ⟨k, hk⟩ := hg.noOthers i db' hmem'
  refine ⟨db', hfirst, k, ?_, hk⟩
  rintro rfl
  exact hne' hk.symm

theorem stateAfter_eq (m : Mem) {i : ι} {db : DiscoveredBroker}
    (hdb : (refs i).firstOther = some db) :
    stateAfter refs ticks m i =
      if cidKey (refs i).cid < cidKey db.cid then .querying else .registered := by
  unfold stateAfter
  rw [processBrokerState_unrestricted (hg.unrestricted i) (hg.expired i) hdb, hg.registered i]
  simp

theorem exists_greatest : ∃ i, Greatest refs i := by
  have := hg.finite
  have := hg.nontrivial
  obtain ⟨i, hi⟩ := Finite.exists_max fun i => cidKey (refs i).cid
  exact ⟨i, hi⟩

theorem greatest_registered (m : Mem) {i : ι}
    (hi : Greatest refs i) : stateAfter refs ticks m i = .registered := by
  obtain ⟨db, hdb, j, -, hj⟩ := hg.exists_other i
  rw [hg.stateAfter_eq m hdb, if_neg]
  rw [hj]
  exact not_lt.mpr (hi j)

theorem greatest_unique {i j : ι} (hi : Greatest refs i) (hj : Greatest refs j) : i = j :=
  hg.distinct i j (cidKey_injective (le_antisymm (hj i) (hi j)))

theorem waiting_stays {q : BrokerRegisterRef} {tick : BrokerTick}
    (hq : WaitsBeside refs q tick) (m : Mem) : (processBrokerState tick q m).1.1.state = .querying := by
  have := hg.nontrivial
  obtain ⟨i, j, hij⟩ := exists_pair_ne ι
  -- two brokers of the group do not both have its CID
  have hother : ∃ k, q.cid ≠ (refs k).cid := by
    by_contra hall
    push Not at hall
    exact hij (hg.distinct i j ((hall i).symm.trans (hall j)))
  obtain ⟨k, hk⟩ := hother
  obtain ⟨db, hmem, hcid⟩ := hq.lists k
  obtain ⟨db', hfirst, -, -⟩ := exists_firstOther hmem (hcid ▸ hk)
  rw [processBrokerState_unrestricted hq.unrestricted hq.expired hfirst, hq.querying]
  simp

end

end ConflictGroup

/-- **The brokers of a group converge to the one with the greatest CID exactly if each of the others sees
first, of the brokers with another CID, a greater one.**  No broker that waits beside them becomes
registered. -/
theorem conflict_converges_iff (refs : ι → BrokerRegisterRef) (ticks : ι → BrokerTick) (m : Mem)
    (hg : ConflictGroup refs ticks) :
    ((∃ i, Greatest refs i ∧ ∀ j, stateAfter refs ticks m j = .registered ↔ j = i) ∧
        ∀ q tick, WaitsBeside refs q tick → (processBrokerState tick q m).1.1.state ≠ .registered) ↔
      SeesGreaterFirst refs := by
  constructor
  · rintro ⟨⟨i, hi, honly⟩, -⟩ j hj db hdb
    by_contra hlt
    have hreg : stateAfter refs ticks m j = .registered := by
      rw [hg.stateAfter_eq m hdb, if_neg hlt]
    rw [honly] at hreg
    exact hj (hreg ▸ hi)
  · intro hsees
    obtain ⟨i, hi⟩ := hg.exists_greatest
    refine ⟨⟨i, hi, fun j => ⟨fun hreg => ?_, ?_⟩⟩, fun q tick hq => ?_⟩
    · by_contra hne
      obtain ⟨db, hdb, -⟩ := hg.exists_other j
      have hj : ¬ Greatest refs j := fun hj => hne (hg.greatest_unique hj hi)
      rw [hg.stateAfter_eq m hdb, if_pos (hsees j hj db hdb)] at hreg
      cases hreg
    · rintro rfl
      exact hg.greatest_registered m hi
    · rw [hg.waiting_stays hq m]
      simp

end Group

/-! ### Groups of two and three -/

def sampleCid (last : UInt8) : Uuid := (Vector.replicate 16 0).set 15 last

def sampleRef (last : UInt8) (others : List UInt8) : BrokerRegisterRef where
  cid := sampleCid last
  netints := none
  brokerList := others.map fun o => { DiscoveredBroker.new with cid := sampleCid o }
  state := .registered
  queryTimer := ⟨0, 0⟩
  usingRandomBackoff := false

def sampleTick : BrokerTick := ⟨0, 0, true⟩

def threeBrokers : Fin 3 → BrokerRegisterRef :=
  ![sampleRef 1 [2, 3], sampleRef 2 [1, 3], sampleRef 3 [1, 2]]

def twoBrokers : Fin 2 → BrokerRegisterRef := ![sampleRef 1 [2], sampleRef 2 [1]]

/-- Two of three brokers stay registered. -/
theorem conflict_two_left : ConflictGroup threeBrokers (fun _ => sampleTick) ∧
      ¬ ∃ i, ∀ j, stateAfter threeBrokers (fun _ => sampleTick) ⟨.plenty, false⟩ j = .registered ↔ j = i := by
  refine ⟨⟨inferInstance, inferInstance, ?_, ?_, ?_, ?_, ?_, ?_⟩, ?_⟩ <;> decide +kernel

theorem conflict_converges_two : SeesGreaterFirst twoBrokers ∧ ∃ i, Greatest twoBrokers i ∧
        ∀ j, stateAfter twoBrokers (fun _ => sampleTick) ⟨.plenty, false⟩ j = .registered ↔ j = i := by
  have hg : ConflictGroup twoBrokers (fun _ => sampleTick) := by
    refine ⟨inferInstance, inferInstance, ?_, ?_, ?_, ?_, ?_, ?_⟩ <;> decide +kernel
  have hsees : SeesGreaterFirst twoBrokers := by
    unfold SeesGreaterFirst Greatest
    decide +kernel
  exact ⟨hsees, ((conflict_converges_iff twoBrokers _ _ hg).mpr hsees).1⟩

end RDMnet
