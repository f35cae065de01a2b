import RDMnet.Disc.Conflict
import RDMnet.Lib.Runs

/-!
# Registered brokers and their monitors

`rdmnet_disc_register_broker` starts a scope monitor for the broker, and the two point to each other.
The lists and the objects are touched under the lock, by the application's calls and by
`rdmnet_disc_module_tick`; only `rdmnet_disc_unregister_broker` takes the lock twice, once for the
monitor and once for the broker.  `Unregistering` says how far such a call has got, and every other
call can come in between.

Objects are named by their addresses.  An address that is free can be returned by the next allocation,
and a pointer to a freed object dangles: what is read through it is nothing.
-/

namespace RDMnet

open List Function

/-! ### Lists and objects -/

/-- `RdmnetScopeMonitorRef`, as far as a registration reads it. -/
structure MonitorObject where
  brokerHandle : Option Nat
  brokerList : List DiscoveredBroker

/-- `RdmnetBrokerRegisterRef` -/
structure RegisterObject where
  cid : Uuid
  netints : Option (List Nat)
  scopeMonitorHandle : Option Nat
  state : BrokerRegisterState
  queryTimer : EtcPalTimer
  usingRandomBackoff : Bool

/-- How far a call of `rdmnet_disc_unregister_broker` has got. -/
inductive Unregistering
  /-- It has looked at the state, and is about to stop this monitor. -/
  | called (monitor : Option Nat)
  /-- The monitor has been stopped. -/
  | stopped
  /-- `scope_monitor_handle` has been set to null. -/
  | cleared
  deriving DecidableEq

/-- The lists of the module, the objects at their addresses, and the calls that are under way. -/
structure Registrations where
  scopeMonitorRefs : List Nat
  monitors : Nat → Option MonitorObject
  registeredBrokers : List Nat
  brokers : Nat → Option RegisterObject
  unregistering : Nat → Option Unregistering

namespace Registrations

def init : Registrations := ⟨[], fun _ => none, [], fun _ => none, fun _ => none⟩

/-- `start_monitoring_internal`, for a monitor at the address `m`. -/
def startMonitoringInternal (m : Nat) (brokerHandle : Option Nat) (s : Registrations) :
    Registrations :=
  { s with
    scopeMonitorRefs := s.scopeMonitorRefs ++ [m]
    monitors := update s.monitors m (some ⟨brokerHandle, []⟩) }

/-- `rdmnet_disc_stop_monitoring` -/
def rdmnetDiscStopMonitoring (m : Nat) (s : Registrations) : Registrations :=
  { s with
    scopeMonitorRefs := s.scopeMonitorRefs.erase m
    monitors := update s.monitors m none }

/-- `rdmnet_disc_stop_monitoring_all` -/
def rdmnetDiscStopMonitoringAll (s : Registrations) : Registrations :=
  { s with
    scopeMonitorRefs := []
    monitors := fun m => if m ∈ s.scopeMonitorRefs then none else s.monitors m }

/-- `rdmnet_disc_register_broker`, for a broker at the address `b` and its monitor at `m`. -/
def rdmnetDiscRegisterBroker (b m : Nat) (cid : Uuid) (netints : Option (List Nat)) (now : Nat)
    (s : Registrations) : Registrations :=
  { s.startMonitoringInternal m (some b) with
    registeredBrokers := s.registeredBrokers ++ [b]
    brokers := update s.brokers b (some
      { cid, netints
        scopeMonitorHandle := some m
        state := .querying
        queryTimer := etcpalTimerStart now brokerRegQueryTimeout
        usingRandomBackoff := false }) }

/-- The first half of `rdmnet_disc_unregister_broker`, with the lock. -/
def stopForUnregister (b : Nat) (m : Option Nat) (s : Registrations) : Registrations :=
  { (match m with
      | some m => s.rdmnetDiscStopMonitoring m
      | none => s) with
    unregistering := update s.unregistering b (some .stopped) }

/-- `handle->scope_monitor_handle = NULL`, without the lock. -/
def clearMonitorHandle (b : Nat) (s : Registrations) : Registrations :=
  { s with
    brokers := update s.brokers b
      ((s.brokers b).map fun ref => { ref with scopeMonitorHandle := none })
    unregistering := update s.unregistering b (some .cleared) }

/-- The second half of `rdmnet_disc_unregister_broker`, with the lock. -/
def finishUnregister (b : Nat) (s : Registrations) : Registrations :=
  { s with
    registeredBrokers := s.registeredBrokers.erase b
    brokers := update s.brokers b none
    unregistering := update s.unregistering b none }

/-- The list of discovered brokers that `conflicting_broker_found` goes through. -/
def listOf (s : Registrations) (ref : RegisterObject) : List DiscoveredBroker :=
  ((ref.scopeMonitorHandle.bind s.monitors).map (·.brokerList)).getD []

/-- `process_broker_state` of the broker at an address. -/
def processBroker (s : Registrations) (tick : BrokerTick) (ref : RegisterObject) : RegisterObject :=
  let after := (processBrokerState tick
    ⟨ref.cid, ref.netints, s.listOf ref, ref.state, ref.queryTimer, ref.usingRandomBackoff⟩
    ⟨.plenty, false⟩).1.1
  { ref with
    state := after.state
    queryTimer := after.queryTimer
    usingRandomBackoff := after.usingRandomBackoff }

/-- The part of `rdmnet_disc_module_tick` with the lock. -/
def rdmnetDiscModuleTick (ticks : Nat → BrokerTick) (s : Registrations) : Registrations :=
  { s with
    brokers := fun b =>
      if b ∈ s.registeredBrokers then (s.brokers b).map (s.processBroker (ticks b)) else s.brokers b }

end Registrations

/-- What can happen next: the application's calls with the addresses of new objects and whether the
platform starts to monitor, the parts of `rdmnet_disc_unregister_broker`, and the background
thread. -/
inductive RegistrationAction
  | startMonitoring (m : Nat) (started : Bool)
  | stopMonitoring (m : Nat)
  | stopMonitoringAll
  | registerBroker (b m : Nat) (cid : Uuid) (netints : Option (List Nat)) (now : Nat) (started : Bool)
  | unregisterBroker (b : Nat)
  | unregisterStops (b : Nat)
  | unregisterClears (b : Nat)
  | unregisterFinishes (b : Nat)
  | tick (ticks : Nat → BrokerTick)
  /-- The platform changes the list of a monitor. -/
  | discovers (m : Nat) (brokerList : List DiscoveredBroker)

/-- One call, or one of its parts.  New objects are at free addresses, and the application's handles
are live: those of monitors that it started, and of brokers that it has not begun to unregister. -/
def registrationStep : RegistrationAction → Registrations → Option Registrations
  | .startMonitoring m started, s =>
    if (s.monitors m).isSome then none
    else some (if started then s.startMonitoringInternal m none else s)
  | .stopMonitoring m, s =>
    match s.monitors m with
    | some ⟨none, _⟩ => if m ∈ s.scopeMonitorRefs then some (s.rdmnetDiscStopMonitoring m) else none
    | _ => none
  | .stopMonitoringAll, s => some s.rdmnetDiscStopMonitoringAll
  | .registerBroker b m cid netints now started, s =>
    if (s.monitors m).isSome || (s.brokers b).isSome then none
    else some (if started then s.rdmnetDiscRegisterBroker b m cid netints now else s)
  | .unregisterBroker b, s =>
    match s.brokers b, s.unregistering b with
    | some ref, none =>
      some (if ref.state = .notRegistered then s else
        { s with unregistering :=
            update s.unregistering b (some (.called ref.scopeMonitorHandle)) })
    | _, _ => none
  | .unregisterStops b, s =>
    match s.unregistering b with
    | some (.called m) => some (s.stopForUnregister b m)
    | _ => none
  | .unregisterClears b, s =>
    if s.unregistering b = some .stopped then some (s.clearMonitorHandle b) else none
  | .unregisterFinishes b, s =>
    if s.unregistering b = some .cleared then some (s.finishUnregister b) else none
  | .tick ticks, s => some (s.rdmnetDiscModuleTick ticks)
  | .discovers m brokerList, s =>
    match s.monitors m with
    | some obj => some { s with monitors := update s.monitors m (some { obj with brokerList }) }
    | none => none

/-! ### Pairs of a broker and its monitor -/

def Unregistering.Halfway (u : Option Unregistering) : Prop := u = some .stopped ∨ u = some .cleared

instance (u : Option Unregistering) : Decidable (Unregistering.Halfway u) :=
  inferInstanceAs (Decidable (_ ∨ _))

def Registrations.Monitored (s : Registrations) (b : Nat) : Prop :=
  ∃ ref m obj, s.brokers b = some ref ∧ ref.scopeMonitorHandle = some m ∧ m ∈ s.scopeMonitorRefs ∧
    s.monitors m = some obj ∧ obj.brokerHandle = some b

/-- The lists have the objects there are, and each broker that is not halfway to be unregistered has
a monitor of its own. -/
structure Registrations.Paired (s : Registrations) : Prop where
  monitorsOnce : s.scopeMonitorRefs.Nodup
  brokersOnce : s.registeredBrokers.Nodup
  monitorListed : ∀ m, m ∈ s.scopeMonitorRefs ↔ (s.monitors m).isSome = true
  brokerListed : ∀ b, b ∈ s.registeredBrokers ↔ (s.brokers b).isSome = true
  owner : ∀ m obj b, s.monitors m = some obj → obj.brokerHandle = some b →
    ¬ Unregistering.Halfway (s.unregistering b) ∧
      ∃ ref, s.brokers b = some ref ∧ ref.scopeMonitorHandle = some m
  monitored : ∀ b, (s.brokers b).isSome = true → ¬ Unregistering.Halfway (s.unregistering b) →
    s.Monitored b
  called : ∀ b m, s.unregistering b = some (.called m) →
    ∃ ref, s.brokers b = some ref ∧ ref.scopeMonitorHandle = m
  underWay : ∀ b, (s.unregistering b).isSome = true → (s.brokers b).isSome = true

namespace Registrations

variable {s s' : Registrations}

theorem init_paired : init.Paired :=
  ⟨nodup_nil, nodup_nil, by simp [init], by simp [init], nofun, nofun, nofun, nofun⟩

variable {m : Nat}

theorem Paired.withMonitors (h : s.Paired) {refs : List Nat} {monitors : Nat → Option MonitorObject}
    (honce : refs.Nodup) (hlisted : ∀ m, m ∈ refs ↔ (monitors m).isSome = true)
    (hown : ∀ m, (monitors m).bind (·.brokerHandle) = (s.monitors m).bind (·.brokerHandle)) :
    Paired { s with scopeMonitorRefs := refs, monitors } := by
  refine { h with
    monitorsOnce := honce
    monitorListed := hlisted
    owner := fun m obj b hm hb => ?_
    monitored := fun b hb hhalf => ?_ }
  · obtain ⟨old, hold, hb⟩ := Option.bind_eq_some_iff.mp
      ((hown m).symm.trans (Option.bind_eq_some_iff.mpr ⟨obj, hm, hb⟩))
    exact h.owner m old b hold hb
  · obtain ⟨ref, m, obj, hbr, hhandle, -, hobj, hback⟩ := h.monitored b hb hhalf
    obtain ⟨new, hnew, hback⟩ := Option.bind_eq_some_iff.mp
      ((hown m).trans (Option.bind_eq_some_iff.mpr ⟨obj, hobj, hback⟩))
    exact ⟨ref, m, new, hbr, hhandle, (hlisted m).mpr (Option.isSome_of_eq_some hnew), hnew, hback⟩

theorem Paired.start (h : s.Paired) (hfree : s.monitors m = none) :
    (s.startMonitoringInternal m none).Paired := by
  have hnew : m ∉ s.scopeMonitorRefs := by
    rw [h.monitorListed, hfree]
    exact nofun
  refine h.withMonitors ?_ (fun m' => ?_) fun m' => ?_
  · exact h.monitorsOnce.append (nodup_singleton m) (by simpa using hnew)
  · by_cases hm : m' = m <;> simp [hm, h.monitorListed]
  · by_cases hm : m' = m <;> simp [hm, hfree]

theorem Paired.erase_listed (h : s.Paired) (m m' : Nat) :
    m' ∈ s.scopeMonitorRefs.erase m ↔ (update s.monitors m none m').isSome = true := by
  rw [h.monitorsOnce.mem_erase_iff, h.monitorListed]
  by_cases hm : m' = m <;> simp [hm]

variable {obj : MonitorObject}

theorem Paired.stop (h : s.Paired) (hm : s.monitors m = some obj)
    (hown : obj.brokerHandle = none) : (s.rdmnetDiscStopMonitoring m).Paired := by
  refine h.withMonitors (h.monitorsOnce.erase m) (h.erase_listed m) fun m' => ?_
  by_cases hm' : m' = m <;> simp [hm', hm, hown]

theorem Paired.stopAll (h : s.Paired) (hown : ∀ m obj, s.monitors m = some obj → obj.brokerHandle = none) :
    s.rdmnetDiscStopMonitoringAll.Paired := by
  have hgone (m : Nat) : (if m ∈ s.scopeMonitorRefs then none else s.monitors m) = none := by
    split
    · rfl
    · rename_i hm
      rw [h.monitorListed] at hm
      simpa using hm
  refine h.withMonitors nodup_nil (fun m => ?_) fun m => ?_
  · rw [hgone]
    simp
  · rw [hgone]
    exact (Option.bind_eq_none_iff.mpr (hown m)).symm

variable {b : Nat}

section

variable (h : s.Paired)
include h

theorem Paired.register (hfreeb : s.brokers b = none)
    (hfreem : s.monitors m = none) (cid : Uuid) (netints : Option (List Nat)) (now : Nat) :
    (s.rdmnetDiscRegisterBroker b m cid netints now).Paired := by
  have hnewm : m ∉ s.scopeMonitorRefs := by
    rw [h.monitorListed, hfreem]
    exact nofun
  have hnewb : b ∉ s.registeredBrokers := by
    rw [h.brokerListed, hfreeb]
    exact nofun
  have hcall : s.unregistering b = none := by
    refine Option.not_isSome_iff_eq_none.mp fun hsome => ?_
    have := h.underWay b hsome
    rw [hfreeb] at this
    cases this
  refine ⟨?_, ?_, fun m' => ?_, fun b' => ?_, fun m' obj b' hm hb => ?_, fun b' hb hhalf => ?_,
    fun b' m' hc => ?_, fun b' hc => ?_⟩
  · exact h.monitorsOnce.append (nodup_singleton m) (by simpa using hnewm)
  · exact h.brokersOnce.append (nodup_singleton b) (by simpa using hnewb)
  · by_cases hm : m' = m <;>
      simp [rdmnetDiscRegisterBroker, startMonitoringInternal, hm, h.monitorListed]
  · by_cases hb : b' = b <;> simp [rdmnetDiscRegisterBroker, hb, h.brokerListed]
  · by_cases hm' : m' = m
    · subst hm'
      simp only [rdmnetDiscRegisterBroker, startMonitoringInternal, update_self, Option.some.injEq] at hm
      subst hm
      cases hb
      refine ⟨?_, _, update_self .., rfl⟩
      show ¬ Unregistering.Halfway (s.unregistering b)
      rw [hcall]
      decide
    · simp only [rdmnetDiscRegisterBroker, startMonitoringInternal, update_of_ne hm'] at hm
      obtain ⟨hhalf, ref, hbr, hhandle⟩ := h.owner m' obj b' hm hb
      have hne : b' ≠ b := by
        rintro rfl
        rw [hfreeb] at hbr
        cases hbr
      refine ⟨hhalf, ref, ?_, hhandle⟩
      simp only [rdmnetDiscRegisterBroker, update_of_ne hne, hbr]
  · by_cases hne : b' = b
    · subst hne
      exact ⟨_, m, _, update_self .., rfl, mem_append_right _ mem_cons_self, update_self .., rfl⟩
    · simp only [rdmnetDiscRegisterBroker, update_of_ne hne] at hb
      obtain ⟨ref, m', obj, hbr, hhandle, hin, hobj, hback⟩ := h.monitored b' hb hhalf
      have hm' : m' ≠ m := by
        rintro rfl
        exact hnewm hin
      refine ⟨ref, m', obj, ?_, hhandle, mem_append_left _ hin, ?_, hback⟩
      · simp only [rdmnetDiscRegisterBroker, update_of_ne hne, hbr]
      · simp only [rdmnetDiscRegisterBroker, startMonitoringInternal, update_of_ne hm', hobj]
  · obtain ⟨ref, hbr, hhandle⟩ := h.called b' m' hc
    have hne : b' ≠ b := by
      rintro rfl
      rw [hfreeb] at hbr
      cases hbr
    refine ⟨ref, ?_, hhandle⟩
    simp only [rdmnetDiscRegisterBroker, update_of_ne hne, hbr]
  · by_cases hne : b' = b
    · simp [rdmnetDiscRegisterBroker, hne]
    · simp only [rdmnetDiscRegisterBroker, update_of_ne hne]
      exact h.underWay b' hc

theorem Paired.call {ref : RegisterObject} (hb : s.brokers b = some ref) (hcall : s.unregistering b = none) :
    Paired { s with unregistering := update s.unregistering b (some (.called ref.scopeMonitorHandle)) } := by
  have hhalf (b' : Nat) : Unregistering.Halfway
      (update s.unregistering b (some (.called ref.scopeMonitorHandle)) b') ↔
        Unregistering.Halfway (s.unregistering b') := by
    by_cases hne : b' = b
    · subst hne
      simp [Unregistering.Halfway, hcall]
    · rw [update_of_ne hne]
  refine { h with
    owner := fun m obj b' hm hb' => ?_
    monitored := fun b' hb' hn => ?_
    called := fun b' m hc => ?_
    underWay := fun b' hc => ?_ }
  · obtain ⟨hn, hex⟩ := h.owner m obj b' hm hb'
    exact ⟨mt (hhalf b').mp hn, hex⟩
  · exact h.monitored b' hb' (mt (hhalf b').mpr hn)
  · by_cases hne : b' = b
    · subst hne
      simp only [update_self, Option.some.injEq, Unregistering.called.injEq] at hc
      exact ⟨ref, hb, hc⟩
    · simp only [update_of_ne hne] at hc
      exact h.called b' m hc
  · by_cases hne : b' = b
    · subst hne
      rw [hb]
      rfl
    · simp only [update_of_ne hne] at hc
      exact h.underWay b' hc

theorem Paired.unregisterStops {m : Option Nat}
    (hcall : s.unregistering b = some (.called m)) : (s.stopForUnregister b m).Paired := by
  obtain ⟨ref, hbr, hhandle⟩ := h.called b m hcall
  have hn : ¬ Unregistering.Halfway (s.unregistering b) := by
    rw [hcall]
    simp [Unregistering.Halfway]
  obtain ⟨ref', m', obj, hbr', hhandle', hin, hobj, hback⟩ :=
    h.monitored b (by rw [hbr]; rfl) hn
  obtain rfl : ref = ref' := Option.some.inj (hbr.symm.trans hbr')
  obtain rfl : some m' = m := hhandle'.symm.trans hhandle
  -- another broker is where it was, and has another monitor
  have hother {b' : Nat} (hne : b' ≠ b) :
      (s.stopForUnregister b (some m')).unregistering b' = s.unregistering b' :=
    update_of_ne hne ..
  refine ⟨h.monitorsOnce.erase m', h.brokersOnce, h.erase_listed m', h.brokerListed,
    fun m₂ obj₂ b₂ hm₂ hb₂ => ?_, fun b₂ hb₂ hhalf => ?_, fun b₂ m₂ hc => ?_, fun b₂ hc => ?_⟩
  · have hm : m₂ ≠ m' := by
      rintro rfl
      simp [stopForUnregister, rdmnetDiscStopMonitoring] at hm₂
    have hm₂ : s.monitors m₂ = some obj₂ := by
      rwa [show (s.stopForUnregister b (some m')).monitors m₂ = s.monitors m₂ from update_of_ne hm ..] at hm₂
    obtain ⟨hn₂, ref₂, hbr₂, hhandle₂⟩ := h.owner m₂ obj₂ b₂ hm₂ hb₂
    have hne : b₂ ≠ b := by
      rintro rfl
      obtain rfl : ref₂ = ref := Option.some.inj (hbr₂.symm.trans hbr)
      rw [hhandle₂] at hhandle
      exact hm (Option.some.inj hhandle)
    rw [hother hne]
    exact ⟨hn₂, ref₂, hbr₂, hhandle₂⟩
  · have hne : b₂ ≠ b := by
      rintro rfl
      exact hhalf (.inl (update_self ..))
    rw [hother hne] at hhalf
    obtain ⟨ref₂, m₂, obj₂, hbr₂, hhandle₂, hin₂, hobj₂, hback₂⟩ := h.monitored b₂ hb₂ hhalf
    have hm : m₂ ≠ m' := by
      rintro rfl
      rw [hobj] at hobj₂
      cases hobj₂
      rw [hback] at hback₂
      exact hne (Option.some.inj hback₂).symm
    exact ⟨ref₂, m₂, obj₂, hbr₂, hhandle₂, (mem_erase_of_ne hm).mpr hin₂,
      (update_of_ne hm ..).trans hobj₂, hback₂⟩
  · have hne : b₂ ≠ b := by
      rintro rfl
      simp [stopForUnregister] at hc
    rw [hother hne] at hc
    exact h.called b₂ m₂ hc
  · by_cases hne : b₂ = b
    · subst hne
      exact h.underWay b₂ (by rw [hcall]; rfl)
    · rw [hother hne] at hc
      exact h.underWay b₂ hc

theorem Paired.unowned (hhalf : Unregistering.Halfway (s.unregistering b))
    (hm : s.monitors m = some obj) : obj.brokerHandle ≠ some b :=
  fun hb => (h.owner m obj b hm hb).1 hhalf

theorem Paired.pass (hhalf : Unregistering.Halfway (s.unregistering b)) {l : List Nat}
    {r : Option RegisterObject} {u : Option Unregistering} (honce : l.Nodup)
    (hlisted : ∀ b', b' ∈ l ↔ (update s.brokers b r b').isSome = true)
    (hu : r.isSome = true ∧ u = some .cleared ∨ r = none ∧ u = none) :
    Paired { s with
      registeredBrokers := l
      brokers := update s.brokers b r
      unregistering := update s.unregistering b u } := by
  refine ⟨h.monitorsOnce, honce, h.monitorListed, hlisted, fun m obj b' hm hb => ?_,
    fun b' hb hn => ?_, fun b' m hc => ?_, fun b' hc => ?_⟩ <;> by_cases hne : b' = b
  · subst hne
    exact absurd hb (h.unowned hhalf hm)
  · simp only [update_of_ne hne]
    exact h.owner m obj b' hm hb
  · subst hne
    rcases hu with ⟨_, rfl⟩ | ⟨rfl, _⟩
    · exact absurd (.inr (update_self ..)) hn
    · simp at hb
  · simp only [update_of_ne hne] at hb hn
    obtain ⟨ref, m, obj, hbr, hrest⟩ := h.monitored b' hb hn
    exact ⟨ref, m, obj, (update_of_ne hne ..).trans hbr, hrest⟩
  · subst hne
    rcases hu with ⟨_, rfl⟩ | ⟨_, rfl⟩ <;> simp at hc
  · simp only [update_of_ne hne] at hc ⊢
    exact h.called b' m hc
  · subst hne
    rcases hu with ⟨hr, _⟩ | ⟨_, rfl⟩
    · simpa using hr
    · simp at hc
  · simp only [update_of_ne hne] at hc ⊢
    exact h.underWay b' hc

theorem Paired.unregisterClears
    (hcall : s.unregistering b = some .stopped) : (s.clearMonitorHandle b).Paired := by
  refine h.pass (.inl hcall) h.brokersOnce (fun b' => ?_) (.inl ⟨?_, rfl⟩)
  · rw [h.brokerListed]
    by_cases hne : b' = b
    · subst hne
      simp
    · rw [update_of_ne hne]
  · rw [Option.isSome_map]
    exact h.underWay b (by rw [hcall]; rfl)

theorem Paired.unregisterFinishes
    (hcall : s.unregistering b = some .cleared) : (s.finishUnregister b).Paired := by
  refine h.pass (.inr hcall) (h.brokersOnce.erase b) (fun b' => ?_) (.inr ⟨rfl, rfl⟩)
  rw [h.brokersOnce.mem_erase_iff, h.brokerListed]
  by_cases hne : b' = b <;> simp [hne]

theorem Paired.tick (ticks : Nat → BrokerTick) : (s.rdmnetDiscModuleTick ticks).Paired := by
  have hsome (b : Nat) : ((s.rdmnetDiscModuleTick ticks).brokers b).isSome = (s.brokers b).isSome := by
    simp only [rdmnetDiscModuleTick]
    split <;> simp
  have hhandle {b : Nat} {ref : RegisterObject} (hb : s.brokers b = some ref) :
      ∃ ref', (s.rdmnetDiscModuleTick ticks).brokers b = some ref' ∧
        ref'.scopeMonitorHandle = ref.scopeMonitorHandle := by
    simp only [rdmnetDiscModuleTick, hb, Option.map_some]
    split
    · exact ⟨_, rfl, rfl⟩
    · exact ⟨ref, rfl, rfl⟩
  refine ⟨h.monitorsOnce, h.brokersOnce, h.monitorListed, fun b => ?_, fun m obj b hm hb => ?_,
    fun b hb hn => ?_, fun b m hc => ?_, fun b hc => ?_⟩
  · rw [hsome]
    exact h.brokerListed b
  · obtain ⟨hn, ref, hbr, hm'⟩ := h.owner m obj b hm hb
    obtain ⟨ref', hbr', heq⟩ := hhandle hbr
    exact ⟨hn, ref', hbr', heq.trans hm'⟩
  · rw [hsome] at hb
    obtain ⟨ref, m, obj, hbr, hm, hrest⟩ := h.monitored b hb hn
    obtain ⟨ref', hbr', heq⟩ := hhandle hbr
    exact ⟨ref', m, obj, hbr', heq.trans hm, hrest⟩
  · obtain ⟨ref, hbr, hm⟩ := h.called b m hc
    obtain ⟨ref', hbr', heq⟩ := hhandle hbr
    exact ⟨ref', hbr', heq.trans hm⟩
  · rw [hsome]
    exact h.underWay b hc

theorem Paired.discovers (hm : s.monitors m = some obj) (brokerList : List DiscoveredBroker) :
    Paired { s with monitors := update s.monitors m (some { obj with brokerList }) } := by
  refine h.withMonitors h.monitorsOnce (fun m' => ?_) fun m' => ?_
  · rw [h.monitorListed]
    by_cases hm' : m' = m <;> simp [hm', hm]
  · by_cases hm' : m' = m <;> simp [hm', hm]

end

end Registrations

/-! ### Runs -/

/-- No broker is halfway to be unregistered when the tick takes the lock, no monitor of a broker is
stopped with all the others, and a broker whose registration failed is not unregistered. -/
def CarefulStep : RegistrationAction → Registrations → Prop
  | .tick _, s => ∀ b ∈ s.registeredBrokers, ¬ Unregistering.Halfway (s.unregistering b)
  | .stopMonitoringAll, s => ∀ m ∈ s.scopeMonitorRefs, ∀ obj ∈ s.monitors m, obj.brokerHandle = none
  | .unregisterBroker b, s => ∀ ref ∈ s.brokers b, ref.state ≠ .notRegistered
  | _, _ => True

instance (s : Registrations) : DecidablePred fun a => CarefulStep a s
  | .tick _ => inferInstanceAs (Decidable (∀ b ∈ s.registeredBrokers, _))
  | .stopMonitoringAll => inferInstanceAs (Decidable (∀ m ∈ s.scopeMonitorRefs, ∀ obj ∈ s.monitors m, _))
  | .unregisterBroker b => inferInstanceAs (Decidable (∀ ref ∈ s.brokers b, _))
  | .startMonitoring _ _ => isTrue trivial
  | .stopMonitoring _ => isTrue trivial
  | .registerBroker .. => isTrue trivial
  | .unregisterStops _ => isTrue trivial
  | .unregisterClears _ => isTrue trivial
  | .unregisterFinishes _ => isTrue trivial
  | .discovers _ _ => isTrue trivial

/-- The broker whose call of `rdmnet_disc_unregister_broker` returns. -/
def RegistrationAction.returns (s : Registrations) : RegistrationAction → Option Nat
  | .unregisterFinishes b => some b
  | .unregisterBroker b =>
    if (s.brokers b).map (·.state) = some .notRegistered then some b else none
  | _ => none

open Registrations in
theorem registrationStep_paired {a : RegistrationAction} {s s' : Registrations} (h : s.Paired)
    (hok : CarefulStep a s) (hs : registrationStep a s = some s') : s'.Paired := by
  cases a with
  | startMonitoring m started =>
    simp only [registrationStep] at hs
    split at hs
    · cases hs
    · rename_i hfree
      cases started <;> cases hs
      · exact h
      · exact h.start (Option.not_isSome_iff_eq_none.mp hfree)
  | stopMonitoring m =>
    simp only [registrationStep] at hs
    split at hs
    · rename_i hm
      split at hs <;> cases hs
      exact h.stop hm rfl
    · cases hs
  | stopMonitoringAll =>
    cases hs
    exact h.stopAll fun m obj hm => hok m ((h.monitorListed m).mpr (by rw [hm]; rfl)) obj hm
  | registerBroker b m cid netints now started =>
    simp only [registrationStep] at hs
    split at hs
    · cases hs
    · rename_i hfree
      simp only [Bool.or_eq_true, not_or, Bool.not_eq_true, Option.isSome_eq_false_iff,
        Option.isNone_iff_eq_none] at hfree
      cases started <;> cases hs
      · exact h
      · exact h.register hfree.2 hfree.1 cid netints now
  | unregisterBroker b =>
    simp only [registrationStep] at hs
    split at hs
    · rename_i ref hb hcall
      cases hs
      rw [if_neg (hok ref hb)]
      exact h.call hb hcall
    · cases hs
  | unregisterStops b =>
    simp only [registrationStep] at hs
    split at hs <;> cases hs
    exact h.unregisterStops ‹_›
  | unregisterClears b =>
    simp only [registrationStep] at hs
    split at hs <;> cases hs
    exact h.unregisterClears ‹_›
  | unregisterFinishes b =>
    simp only [registrationStep] at hs
    split at hs <;> cases hs
    exact h.unregisterFinishes ‹_›
  | tick ticks =>
    cases hs
    exact h.tick ticks
  | discovers m brokerList =>
    simp only [registrationStep] at hs
    split at hs <;> cases hs
    exact h.discovers ‹_› brokerList

/-- **Broker registrations and their monitors live and die together.**  In every run whose steps are
all careful: whenever the tick takes the lock, each registered broker has its monitor in the list,
which points back to it; and when a call of `rdmnet_disc_unregister_broker` returns, neither the
broker nor a monitor of it is left. -/
theorem registrations_monitored {s : Registrations} (h : Runs registrationStep CarefulStep Registrations.init s) :
    (∀ ticks, CarefulStep (.tick ticks) s → ∀ b ∈ s.registeredBrokers, s.Monitored b) ∧
    ∀ a s' b, CarefulStep a s → registrationStep a s = some s' → a.returns s = some b → b ∉ s'.registeredBrokers ∧
        ∀ m ∈ s'.scopeMonitorRefs, ∀ obj ∈ s'.monitors m, obj.brokerHandle ≠ some b := by
  have hpaired : s.Paired :=
    Runs.keeps (fun a t t' hok ht hs => registrationStep_paired ht hok hs) h
      Registrations.init_paired
  refine ⟨fun ticks hok b hb => hpaired.monitored b ((hpaired.brokerListed b).mp hb) (hok b hb),
    fun a s' b hok hs hret => ?_⟩
  cases a with
  | unregisterFinishes b' =>
    obtain rfl : b' = b := by simpa [RegistrationAction.returns] using hret
    simp only [registrationStep] at hs
    split at hs
    · rename_i hcall
      cases hs
      refine ⟨hpaired.brokersOnce.not_mem_erase, fun m _ obj hm => ?_⟩
      exact hpaired.unowned (.inr hcall) hm
    · cases hs
  | unregisterBroker b' =>
    -- the state has been looked at, so the call goes on
    simp only [RegistrationAction.returns] at hret
    split at hret
    · rename_i hst
      obtain ⟨ref, hb, hstate⟩ := Option.map_eq_some_iff.mp hst
      exact absurd hstate (hok ref hb)
    · cases hret
  | _ => cases hret

def tickAt (now : Nat) (registers : Bool) : RegistrationAction := .tick fun _ => ⟨now, 0, registers⟩

/-- Two brokers are registered; one of them is unregistered while the other comes up. -/
theorem registrations_monitored_two : ∃ s, Runs registrationStep CarefulStep Registrations.init s ∧
      (s.registeredBrokers = [1, 3] ∧ s.unregistering 1 = some .cleared) ∧
      (∀ ticks, CarefulStep (.tick ticks) s → ∀ b ∈ s.registeredBrokers, s.Monitored b) ∧
      ∀ a s' b, CarefulStep a s → registrationStep a s = some s' → a.returns s = some b →
        b ∉ s'.registeredBrokers ∧
          ∀ m ∈ s'.scopeMonitorRefs, ∀ obj ∈ s'.monitors m, obj.brokerHandle ≠ some b := by
  obtain ⟨s, hr, hx⟩ := Runs.exists_of_play (s := Registrations.init) registrationStep CarefulStep
    (fun s => (s.registeredBrokers, s.unregistering 1)) ([1, 3], some .cleared)
    [.registerBroker 1 2 (sampleCid 1) none 0 true, tickAt 5000 true, tickAt 10000 true,
      .registerBroker 3 4 (sampleCid 2) none 10000 true, .unregisterBroker 1, tickAt 15000 true,
      .unregisterStops 1, .unregisterClears 1] (by decide +kernel)
  exact ⟨s, hr, Prod.mk.inj hx, registrations_monitored hr⟩

/-- The tick can come while a broker has lost its monitor: after all monitors have been stopped, and
in the middle of `rdmnet_disc_unregister_broker`.  And a call for a broker whose registration failed
returns without doing anything. -/
theorem registrations_unmonitored : (∃ s, Runs registrationStep anyStep Registrations.init s ∧
      1 ∈ s.registeredBrokers ∧ s.unregistering 1 = none ∧ ¬ s.Monitored 1) ∧
    (∃ s, Runs registrationStep anyStep Registrations.init s ∧
      1 ∈ s.registeredBrokers ∧ s.unregistering 1 = some .cleared ∧ ¬ s.Monitored 1) ∧
    ∃ s s', Runs registrationStep anyStep Registrations.init s ∧
      registrationStep (.unregisterBroker 1) s = some s' ∧
      RegistrationAction.returns s (.unregisterBroker 1) = some 1 ∧
      1 ∈ s'.registeredBrokers ∧ 2 ∈ s'.scopeMonitorRefs := by
  have hlost {s : Registrations} (h : s.scopeMonitorRefs = []) : ¬ s.Monitored 1 := by
    rintro ⟨ref, m, obj, -, -, hin, -⟩
    rw [h] at hin
    cases hin
  refine ⟨?_, ?_, ?_⟩
  · obtain ⟨s, hr, hx⟩ := Runs.exists_of_play (s := Registrations.init) registrationStep anyStep
      (fun s => (s.registeredBrokers, s.unregistering 1, s.scopeMonitorRefs)) ([1], none, [])
      [.registerBroker 1 2 (sampleCid 1) none 0 true, .stopMonitoringAll] (by decide +kernel)
    simp only [Prod.mk.injEq] at hx
    exact ⟨s, hr, by simp [hx.1], hx.2.1, hlost hx.2.2⟩
  · obtain ⟨s, hr, hx⟩ := Runs.exists_of_play (s := Registrations.init) registrationStep anyStep
      (fun s => (s.registeredBrokers, s.unregistering 1, s.scopeMonitorRefs))
      ([1], some .cleared, [])
      [.registerBroker 1 2 (sampleCid 1) none 0 true, .unregisterBroker 1, .unregisterStops 1,
        .unregisterClears 1] (by decide +kernel)
    simp only [Prod.mk.injEq] at hx
    exact ⟨s, hr, by simp [hx.1], hx.2.1, hlost hx.2.2⟩
  · obtain ⟨s, hr, hx⟩ := Runs.exists_of_play (s := Registrations.init) registrationStep anyStep
      (fun s => (RegistrationAction.returns s (.unregisterBroker 1),
        (registrationStep (.unregisterBroker 1) s).map fun s' => (s'.registeredBrokers, s'.scopeMonitorRefs)))
      (some 1, some ([1], [2]))
      [.registerBroker 1 2 (sampleCid 1) none 0 true, tickAt 5000 false, tickAt 10000 false]
      (by decide +kernel)
    obtain ⟨hret, hmap⟩ := Prod.mk.inj hx
    obtain ⟨s', hs, hlists⟩ := Option.map_eq_some_iff.mp hmap
    obtain ⟨hb, hm⟩ := Prod.mk.inj hlists
    exact ⟨s, s', hr, hs, hret, by simp [hb], by simp [hm]⟩

end RDMnet
