import RDMnet.Client.Machine
import RDMnet.Lib.Runs
import RDMnet.Lib.Table

/-!
# The broker of a scope

A scope keeps the data of one broker, and discovery may report several for it.  `Followed` is a scope
together with the brokers that are there, as the reports tell it, and `Follows` says that the scope shows
one of them.  The callbacks for an update and for a loss do not look at the name in the report, so that
this holds as long as such reports are about the broker in use, and no other is there when it is lost.
-/

namespace RDMnet

open RCClientScope

variable {β ι : Type} {env : ClientEnv β ι} {data : ClientData}

/-! ### What discovery reports -/

structure BrokerInfo where
  found : Bool
  name : ServiceName
  data : List IpAddr × UInt16
  deriving DecidableEq

namespace RCClientScope

def brokerInfo (sc : RCClientScope β ι) : BrokerInfo :=
  ⟨sc.brokerFound, sc.brokerName, (sc.brokerListenAddrs, sc.port)⟩

def Watched (sc : RCClientScope β ι) : Prop :=
  sc.state ≠ .markedForDestruction ∧ sc.monitorHandle.isSome = true

instance (sc : RCClientScope β ι) : Decidable sc.Watched := inferInstanceAs (Decidable (_ ∧ _))

end RCClientScope

def FoundBroker.latest (info : FoundBroker) : List IpAddr × UInt16 := (info.listenAddrs, info.port)

/-- A scope, and the brokers that were found and not lost, with their latest addresses and ports. -/
structure Followed (β ι : Type) where
  scope : RCClientScope β ι
  known : Table ServiceName (List IpAddr × UInt16)

inductive FollowAction (β ι : Type)
  | found (info : FoundBroker) (copied : Bool)
  | updated (info : FoundBroker) (copied : Bool)
  | lost (name : ServiceName)
  /-- Whatever else happens to the scope and its connection between two reports. -/
  | other (scope : RCClientScope β ι)

/-- The broker that a report is about. -/
def FollowAction.about : FollowAction β ι → Option ServiceName
  | .found info _ => some info.serviceInstanceName
  | .updated info _ => some info.serviceInstanceName
  | .lost name => some name
  | .other _ => none

namespace Followed

/-- One report, of a broker that was found before if it is updated or lost.  The attempt to connect to a
broker is one that the connection accepts. -/
def step (env : ClientEnv β ι) (data : ClientData) (a : FollowAction β ι) (s : Followed β ι) :
    Option (Followed β ι) :=
  match a with
  | .found info copied =>
    if s.scope.brokerFound = false → s.scope.conn.conn.state.Accepts then
      some ⟨s.scope.monitorcbBrokerFound env data info copied,
        s.known.insert info.serviceInstanceName info.latest⟩
    else none
  | .updated info copied =>
    if info.serviceInstanceName ∈ s.known then
      some ⟨s.scope.monitorcbBrokerUpdated info copied, s.known.insert info.serviceInstanceName info.latest⟩
    else none
  | .lost name =>
    if name ∈ s.known then some ⟨s.scope.monitorcbBrokerLost, s.known.erase name⟩ else none
  | .other scope =>
    if scope.brokerInfo = s.scope.brokerInfo ∧ scope.Watched then some { s with scope } else none

/-- The broker information shows a broker exactly if there is one, with that broker's latest data. -/
structure Follows (shown : BrokerInfo) (known : Table ServiceName (List IpAddr × UInt16)) : Prop where
  found_iff : shown.found = true ↔ ∃ name, name ∈ known
  latest : shown.found = true → known.lookup shown.name = some shown.data

/-- A report about another broker than the one in use leaves the broker information alone. -/
def Untouched (a : FollowAction β ι) (s s' : Followed β ι) : Prop :=
  ∀ name, a.about = some name → s.scope.brokerFound = true → name ≠ s.scope.brokerName →
    s'.scope.brokerInfo = s.scope.brokerInfo

/-- The reports that a scope follows that shows `shown`.  There is memory for the addresses that it takes
over, and an update and a loss are about the broker in use, which is the only one when it is lost. -/
def AboutBrokerInUse (a : FollowAction β ι) (s : Followed β ι) : Prop :=
  match a with
  | .found info copied =>
    if s.scope.brokerFound then
      info.serviceInstanceName = s.scope.brokerName → info.latest = s.scope.brokerInfo.data
    else copied = true
  | .updated info copied =>
    if info.serviceInstanceName = s.scope.brokerName then
      copied = false → info.latest = s.scope.brokerInfo.data
    else copied = false
  | .lost name => name = s.scope.brokerName ∧ ∀ other ∈ s.known.keys, other = name
  | .other _ => True

instance (a : FollowAction β ι) (s : Followed β ι) : Decidable (AboutBrokerInUse a s) := by
  unfold AboutBrokerInUse
  split <;> infer_instance

/-! ### What a report leaves in the scope -/

variable {s s' : Followed β ι} {a : FollowAction β ι}

def shownAfter (a : FollowAction β ι) (shown : BrokerInfo) : BrokerInfo :=
  match a with
  | .found info copied =>
    if shown.found = false ∧ copied then ⟨true, info.serviceInstanceName, info.latest⟩ else shown
  | .updated info copied =>
    if shown.found ∧ copied then ⟨true, info.serviceInstanceName, info.latest⟩ else shown
  | .lost _ => ⟨false, shown.name, [], 0⟩
  | .other _ => shown

theorem monitorcbBrokerFound_shown {sc : RCClientScope β ι} (hw : sc.Watched)
    (hacc : sc.brokerFound = false → sc.conn.conn.state.Accepts) (info : FoundBroker) (copied : Bool) :
    (sc.monitorcbBrokerFound env data info copied).Watched ∧
      (sc.monitorcbBrokerFound env data info copied).brokerInfo =
        shownAfter (.found info copied : FollowAction β ι) sc.brokerInfo := by
  unfold shownAfter
  by_cases hempty : sc.brokerFound = false ∧ copied = true
  · obtain ⟨hf, rfl⟩ := hempty
    rw [monitorcbBrokerFound_accepted hw.1 hf (hacc hf)]
    refine ⟨⟨by simp, hw.2⟩, ?_⟩
    simp [brokerInfo, hf, takeBroker, FoundBroker.latest]
  · rw [monitorcbBrokerFound_same (by
      rcases Bool.eq_false_or_eq_true sc.brokerFound with hf | hf
      · exact .inr (.inl hf)
      · exact .inr (.inr (by simpa [hf] using hempty)))]
    exact ⟨hw, (if_neg hempty).symm⟩

theorem step_shown (hw : s.scope.Watched) (hs : step env data a s = some s') :
    s'.scope.Watched ∧ s'.scope.brokerInfo = shownAfter a s.scope.brokerInfo := by
  cases a with
  | found info copied =>
    unfold step at hs
    dsimp only at hs
    split at hs <;> cases hs
    exact monitorcbBrokerFound_shown hw ‹_› info copied
  | updated info copied =>
    unfold step at hs
    dsimp only at hs
    split at hs <;> cases hs
    unfold monitorcbBrokerUpdated shownAfter
    rw [if_neg hw.1]
    by_cases hc : s.scope.brokerFound = true ∧ copied = true
    · refine ⟨by rw [if_pos hc]; exact hw, ?_⟩
      simp [brokerInfo, hc, takeBroker, FoundBroker.latest]
    · refine ⟨by rw [if_neg hc]; exact hw, ?_⟩
      simp [brokerInfo, hc]
  | lost name =>
    unfold step at hs
    dsimp only at hs
    split at hs <;> cases hs
    unfold monitorcbBrokerLost
    rw [if_neg hw.1]
    exact ⟨hw, rfl⟩
  | other scope =>
    unfold step at hs
    dsimp only at hs
    split at hs <;> cases hs
    exact ⟨(And.right ‹_›), (And.left ‹_›)⟩

/-! ### Which reports are followed -/

theorem Follows.insert {shown : BrokerInfo} {known : Table ServiceName (List IpAddr × UInt16)}
    (h : Follows shown known) (hf : shown.found = true) (name : ServiceName) (latest : List IpAddr × UInt16) :
    Follows shown (known.insert name latest) ↔ (name = shown.name → latest = shown.data) := by
  have hlookup := Table.lookup_insert_eq known name shown.name latest
  constructor
  · intro h' hname
    rw [h'.latest hf, if_pos hname.symm] at hlookup
    exact (Option.some.inj hlookup).symm
  · intro hsame
    refine ⟨⟨fun _ => ⟨name, (AList.mem_insert known).mpr (.inl rfl)⟩, fun _ => hf⟩, fun _ => ?_⟩
    rw [hlookup]
    split
    · rename_i hname
      rw [hsame hname.symm]
    · exact h.latest hf

theorem follows_new (known : Table ServiceName (List IpAddr × UInt16)) (name : ServiceName)
    (latest : List IpAddr × UInt16) : Follows ⟨true, name, latest⟩ (known.insert name latest) :=
  ⟨⟨fun _ => ⟨name, (AList.mem_insert known).mpr (.inl rfl)⟩, fun _ => rfl⟩,
    fun _ => AList.lookup_insert known⟩

section

variable (h : Follows s.scope.brokerInfo s.known)
include h

theorem found_iff (hw : s.scope.Watched)
    (info : FoundBroker) (copied : Bool) (hs : step env data (.found info copied) s = some s') :
    Follows s'.scope.brokerInfo s'.known ∧ Untouched (.found info copied) s s' ↔
      AboutBrokerInUse (.found info copied) s := by
  have hshown := (step_shown hw hs).2
  have hknown : s'.known = s.known.insert info.serviceInstanceName info.latest := by
    unfold step at hs
    dsimp only at hs
    split at hs <;> cases hs
    rfl
  unfold Untouched AboutBrokerInUse
  rw [hshown, hknown]
  cases hf : s.scope.brokerFound with
  | true =>
    -- the scope shows a broker: the report is not looked at
    have hsame : shownAfter (.found info copied : FollowAction β ι) s.scope.brokerInfo =
        s.scope.brokerInfo := by simp [shownAfter, brokerInfo, hf]
    rw [hsame, h.insert hf]
    simp [brokerInfo]
  | false =>
    cases copied with
    | true =>
      have hnew : shownAfter (.found info true : FollowAction β ι) s.scope.brokerInfo =
          ⟨true, info.serviceInstanceName, info.latest⟩ := by
        simp [shownAfter, brokerInfo, hf]
      rw [hnew]
      simp [follows_new]
    | false =>
      have hsame : shownAfter (.found info false : FollowAction β ι) s.scope.brokerInfo =
          s.scope.brokerInfo := by simp [shownAfter]
      have hnot : ¬ Follows s.scope.brokerInfo (s.known.insert info.serviceInstanceName info.latest) :=
        fun h' => absurd (h'.found_iff.mpr ⟨_, (AList.mem_insert s.known).mpr (.inl rfl)⟩) (by
          simp [brokerInfo, hf])
      rw [hsame]
      simp [hnot]

theorem updated_iff (hw : s.scope.Watched)
    (info : FoundBroker) (copied : Bool) (hs : step env data (.updated info copied) s = some s') :
    Follows s'.scope.brokerInfo s'.known ∧ Untouched (.updated info copied) s s' ↔
      AboutBrokerInUse (.updated info copied) s := by
  have hshown := (step_shown hw hs).2
  obtain ⟨hmem, hknown⟩ : info.serviceInstanceName ∈ s.known ∧
      s'.known = s.known.insert info.serviceInstanceName info.latest := by
    unfold step at hs
    dsimp only at hs
    split at hs <;> cases hs
    exact ⟨‹_›, rfl⟩
  have hf : s.scope.brokerFound = true := h.found_iff.mpr ⟨_, hmem⟩
  unfold Untouched AboutBrokerInUse
  rw [hshown, hknown]
  cases copied with
  | true =>
    -- the scope takes over the data, whichever broker they are of
    have hnew : shownAfter (.updated info true : FollowAction β ι) s.scope.brokerInfo =
        ⟨true, info.serviceInstanceName, info.latest⟩ := by
      simp [shownAfter, brokerInfo, hf]
    rw [hnew]
    by_cases hname : info.serviceInstanceName = s.scope.brokerName
    · simp [follows_new, hname, FollowAction.about]
    · simp [hname, FollowAction.about, brokerInfo, hf]
  | false =>
    have hsame : shownAfter (.updated info false : FollowAction β ι) s.scope.brokerInfo =
        s.scope.brokerInfo := by simp [shownAfter]
    rw [hsame, h.insert hf]
    simp [brokerInfo]

theorem lost_iff (hw : s.scope.Watched) (name : ServiceName) (hs : step env data (.lost name) s = some s') :
    Follows s'.scope.brokerInfo s'.known ∧ Untouched (.lost name) s s' ↔ AboutBrokerInUse (.lost name) s := by
  have hshown := (step_shown hw hs).2
  obtain ⟨hmem, hknown⟩ : name ∈ s.known ∧ s'.known = s.known.erase name := by
    unfold step at hs
    dsimp only at hs
    split at hs <;> cases hs
    exact ⟨‹_›, rfl⟩
  have hf : s.scope.brokerFound = true := h.found_iff.mpr ⟨_, hmem⟩
  unfold Untouched AboutBrokerInUse
  rw [hshown, hknown]
  constructor
  · rintro ⟨hfol, huntouched⟩
    have hname : name = s.scope.brokerName := by
      by_contra hne
      have hsame := huntouched name rfl hf hne
      exact absurd (congrArg BrokerInfo.found hsame) (by simp [shownAfter, brokerInfo, hf])
    refine ⟨hname, fun other hother => ?_⟩
    by_contra hne
    exact absurd (hfol.found_iff.mpr ⟨other, AList.mem_erase.mpr ⟨hne, hother⟩⟩) (by simp [shownAfter])
  · rintro ⟨hname, honly⟩
    refine ⟨⟨⟨fun hfound => (nomatch hfound), ?_⟩, fun hfound => (nomatch hfound)⟩, ?_⟩
    · rintro ⟨other, hother⟩
      obtain ⟨hne, hother⟩ := AList.mem_erase.mp hother
      exact absurd (honly other hother) hne
    · intro name' hname' _ hne
      cases hname'
      exact absurd hname hne

end

/-- **A scope follows the reports of discovery**: at every point of a sequence of reports that are about
the broker in use it shows a broker exactly if there is one, with that broker's latest data, and the next
report leaves it so, without touching what it shows of another broker, exactly if it is of that kind
too. -/
theorem scope_follows_discovery (env : ClientEnv β ι) (data : ClientData) (sc : RCClientScope β ι)
    (hw : sc.Watched) (hempty : sc.brokerFound = false) (hr : Runs (step env data) AboutBrokerInUse ⟨sc, ∅⟩ s) :
    Follows s.scope.brokerInfo s.known ∧ ∀ a s', step env data a s = some s' →
      (Follows s'.scope.brokerInfo s'.known ∧ Untouched a s s' ↔ AboutBrokerInUse a s) := by
  have hstep : ∀ a t t', t.scope.Watched ∧ Follows t.scope.brokerInfo t.known →
      step env data a t = some t' →
      (Follows t'.scope.brokerInfo t'.known ∧ Untouched a t t' ↔ AboutBrokerInUse a t) := by
    rintro a t t' ⟨hw, h⟩ hs
    cases a with
    | found info copied => exact found_iff h hw info copied hs
    | updated info copied => exact updated_iff h hw info copied hs
    | lost name => exact lost_iff h hw name hs
    | other scope =>
      have hshown := (step_shown hw hs).2
      unfold step at hs
      dsimp only at hs
      split at hs <;> cases hs
      refine ⟨fun _ => trivial, fun _ => ⟨?_, fun _ hn => (nomatch hn)⟩⟩
      rw [hshown]
      exact h
  have hI := hr.keeps (I := fun t => t.scope.Watched ∧ Follows t.scope.brokerInfo t.known)
    (fun a t t' hok h hs => ⟨(step_shown h.1 hs).1, ((hstep a t t' h hs).mpr hok).1⟩)
    ⟨hw, ⟨by simp [brokerInfo, hempty], by simp [brokerInfo, hempty]⟩⟩
  exact ⟨hI.2, fun a s' hs => hstep a s s' hI hs⟩

def sampleBroker (letter : UInt8) : FoundBroker :=
  ⟨safeStrncpy 64 (by decide) [letter], [.v4 letter.toUInt32], 8888,
    List.cons_ne_nil _ _⟩

/-- A broker that is found, updated and lost, and found once more. -/
theorem scope_follows_discovery_one :
    ∃ s, Runs (step sampleClientEnv sampleClientData) AboutBrokerInUse ⟨sampleScope sampleDynamic, ∅⟩ s ∧
      s.scope.brokerFound = true ∧ Follows s.scope.brokerInfo s.known := by
  obtain ⟨s, hr, hf⟩ := Runs.exists_of_play (s := ⟨sampleScope sampleDynamic, ∅⟩)
    (step sampleClientEnv sampleClientData) AboutBrokerInUse (fun s => s.scope.brokerFound) true
    [.found (sampleBroker 65) true, .updated (sampleBroker 65) true, .lost (sampleBroker 65).1,
      .other { sampleScope sampleDynamic with brokerName := (sampleBroker 65).1 },
      .found (sampleBroker 65) true]
    (by decide +kernel)
  exact ⟨s, hr, hf, (scope_follows_discovery sampleClientEnv sampleClientData (sampleScope sampleDynamic)
    (by decide +kernel) (by decide +kernel) hr).1⟩

/-- Two brokers are found and the one that is not in use is lost: the scope shows none, though the broker
in use is still there. -/
theorem broker_in_use_forgotten :
    ∃ s, Runs (step sampleClientEnv sampleClientData) anyStep ⟨sampleScope sampleDynamic, ∅⟩ s ∧
      s.known.keys = [(sampleBroker 65).1] ∧ s.scope.brokerFound = false ∧
      ¬ Follows s.scope.brokerInfo s.known := by
  obtain ⟨s, hr, hs⟩ := Runs.exists_of_play (s := ⟨sampleScope sampleDynamic, ∅⟩)
    (step sampleClientEnv sampleClientData) anyStep (fun s => (s.known.keys, s.scope.brokerFound))
    ([(sampleBroker 65).1], false)
    [.found (sampleBroker 65) true, .found (sampleBroker 66) true, .lost (sampleBroker 66).1]
    (by decide +kernel)
  obtain ⟨hkeys, hf⟩ := Prod.mk.inj hs
  refine ⟨s, hr, hkeys, hf, fun h => ?_⟩
  have hmem : (sampleBroker 65).1 ∈ s.known := by
    rw [AList.mem_keys, hkeys]
    exact List.mem_singleton_self _
  have hfound := h.found_iff.mpr ⟨_, hmem⟩
  exact absurd (hfound.symm.trans hf) (by decide)

end Followed

end RDMnet
