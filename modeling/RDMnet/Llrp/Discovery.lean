import RDMnet.Lib.Ascending
import RDMnet.Lib.Runs
import RDMnet.Llrp.Manager

/-!
# Discovery by an LLRP manager

`llrp_manager.c` from `rc_llrp_manager_start_discovery` to the callback `discovery_finished`.  A probe asks
the targets in a range of UIDs that it does not list as known, and replies come at any time.  When the timer
expires, the next probe is sent: for the same range, or for the next one after three probes in a row that
have brought nothing new.  A range with more known UIDs than a probe can list is cut.
-/

namespace RDMnet

open List RdmUid

/-- `RCLlrpManager`.  The nodes of `discovered_targets` are the UIDs in `manager`, and `cids` is the chain of
targets at a node. -/
structure LlrpDiscovery where
  manager : LlrpManager
  discoveryActive : Bool
  targetDiscoveredSinceLastProbe : Bool
  cids : RdmUid → List Uuid
  /-- Ghost data: what `target_discovered` has been called with since discovery was started. -/
  reported : List (RdmUid × Uuid)
  /-- Ghost data: the probe requests since then, each with what had been reported by then. -/
  probes : List (LocalProbeRequest × List (RdmUid × Uuid))

inductive LlrpAction
  | startDiscovery (filter : UInt16) (sendOk : Bool)
  | stopDiscovery
  | tick (expired sendOk : Bool)
  /-- A probe reply; there is memory for the target or not, and for its node. -/
  | probeReply (destCid senderCid : Uuid) (uid : RdmUid) (alloc inserted : Bool)
  | sendRdmCommand (destination : LlrpDestinationAddr) (commandClass : UInt8) (paramId : UInt16)
      (data : Bytes) (seqNum sendOk : Bool)

namespace LlrpDiscovery

section Functions

variable (env : LlrpEnv)

/-- `rc_llrp_manager_register` -/
def register (cid : Uuid) (uid : RdmUid) : LlrpDiscovery :=
  ⟨⟨cid, uid, 0, 0, 0, [], default, default, []⟩, false, false, fun _ => [], [], []⟩

def targets (s : LlrpDiscovery) : List RdmUid := s.manager.discoveredTargets

/-- `send_next_probe`, and whether it returns true. -/
def sendNextProbe (sendOk : Bool) (s : LlrpDiscovery) : LlrpDiscovery × Bool :=
  match s.manager.sendNextProbe env sendOk with
  | (manager, some (_, .probeRequest request)) =>
    ({ s with manager, probes := s.probes ++ [(request, s.reported)] }, true)
  | (manager, _) => ({ s with manager }, false)

/-- The end of discovery: `etcpal_rbtree_clear_with_cb`. -/
def clear (s : LlrpDiscovery) : LlrpDiscovery :=
  { s with
    manager := { s.manager with discoveredTargets := [] }
    cids := fun _ => []
    discoveryActive := false }

/-- What `rc_llrp_manager_start_discovery` sets. -/
def begin (filter : UInt16) (s : LlrpDiscovery) : LlrpDiscovery :=
  { s with
    manager := { s.manager with
      curRangeLow := ⟨0, 0⟩, curRangeHigh := kRdmBroadcastUid, numCleanSends := 0, discFilter := filter }
    targetDiscoveredSinceLastProbe := false
    discoveryActive := true
    reported := []
    probes := [] }

/-- `rc_llrp_manager_start_discovery` -/
def startDiscovery (filter : UInt16) (sendOk : Bool) (s : LlrpDiscovery) : LlrpDiscovery :=
  if s.discoveryActive then s
  else
    let sent := (s.begin filter).sendNextProbe env sendOk
    if sent.2 then sent.1 else { sent.1 with discoveryActive := false }

/-- `rc_llrp_manager_stop_discovery` -/
def stopDiscovery (s : LlrpDiscovery) : LlrpDiscovery := if s.discoveryActive then s.clear else s

/-- What `process_manager_state` makes of the time since the last probe. -/
def expire (s : LlrpDiscovery) : LlrpDiscovery :=
  { s with
    manager := { s.manager with
      numCleanSends := if s.targetDiscoveredSinceLastProbe then 0 else s.manager.numCleanSends + 1 }
    targetDiscoveredSinceLastProbe := false }

/-- `process_manager_state`; discovery that ends here is reported as finished. -/
def processManagerState (expired sendOk : Bool) (s : LlrpDiscovery) : LlrpDiscovery :=
  if s.discoveryActive ∧ expired then
    let sent := s.expire.sendNextProbe env sendOk
    if sent.2 then sent.1 else sent.1.clear
  else s

/-- `etcpal_rbtree_insert` -/
def insertUid (uid : RdmUid) (tree : List RdmUid) : List RdmUid :=
  tree.orderedInsert (fun a b => rdmUidCompare a b ≤ 0) uid

def report (uid : RdmUid) (cid : Uuid) (s : LlrpDiscovery) : LlrpDiscovery :=
  { s with targetDiscoveredSinceLastProbe := true, reported := s.reported ++ [(uid, cid)] }

/-- What `handle_llrp_message` does with a probe reply. -/
def handleProbeReply (destCid senderCid : Uuid) (uid : RdmUid) (alloc inserted : Bool)
    (s : LlrpDiscovery) : LlrpDiscovery :=
  if s.discoveryActive ∧ destCid = s.manager.cid ∧ alloc then
    if uid ∈ s.targets then
      if senderCid ∈ s.cids uid then s
      else { s with cids := Function.update s.cids uid (s.cids uid ++ [senderCid]) }.report uid senderCid
    else if inserted then
      { s with
        manager := { s.manager with discoveredTargets := insertUid uid s.targets }
        cids := Function.update s.cids uid [senderCid] }.report uid senderCid
    else s.report uid senderCid
  else s

def step (a : LlrpAction) (s : LlrpDiscovery) : Option LlrpDiscovery :=
  match a with
  | .startDiscovery filter sendOk => some (s.startDiscovery env filter sendOk)
  | .stopDiscovery => some s.stopDiscovery
  | .tick expired sendOk => some (s.processManagerState env expired sendOk)
  | .probeReply destCid senderCid uid alloc inserted =>
    some (s.handleProbeReply destCid senderCid uid alloc inserted)
  | .sendRdmCommand destination commandClass paramId data seqNum sendOk =>
    some { s with manager := (s.manager.rcLlrpManagerSendRdmCommand env destination commandClass paramId data
      seqNum sendOk).1 }

end Functions

end LlrpDiscovery

/-! ### What a probe lists -/

/-- The macro `RDM_UID_IS_BROADCAST` looks at the device ID. -/
def LlrpEnv.Lawful (env : LlrpEnv) : Prop := ∀ uid, env.uidIsBroadcast uid = true ↔ uid.id = 0xffffffff

theorem RdmUid.key_injective : Function.Injective RdmUid.key := by
  intro a b h
  have ha := a.id.toNat_lt
  have hb := b.id.toNat_lt
  unfold RdmUid.key at h
  have hm : a.manu.toNat = b.manu.toNat := by omega
  have hi : a.id.toNat = b.id.toNat := by omega
  exact congrArg₂ RdmUid.mk (UInt16.toNat.inj hm) (UInt32.toNat.inj hi)

namespace LlrpManager

variable {env : LlrpEnv} {m m' : LlrpManager} {low high : RdmUid} {tree : List RdmUid}

/-- The Known UIDs of a probe for the range from `low`: all in the tree up to the end of the range, which
was `high` before it was cut, if it was. -/
structure Lists (low high : RdmUid) (tree : List RdmUid) (r : RdmUid × List RdmUid) : Prop where
  sublist : r.2 <+ tree
  size : r.2.length ≤ llrpKnownUidSize
  mem : ∀ u, u ∈ r.2 ↔ u ∈ tree ∧ low.key ≤ u.key ∧ u.key ≤ r.1.key
  cut : r.1 = high ∨ r.1 ∈ r.2

def upFrom (low : RdmUid) (tree : List RdmUid) : List RdmUid := tree.filter (low.key ≤ ·.key)

theorem mem_upFrom {u : RdmUid} : u ∈ upFrom low tree ↔ u ∈ tree ∧ low.key ≤ u.key := by
  rw [upFrom, mem_filter, decide_eq_true_eq]

theorem collectKnown_lists (rest : List RdmUid) : ∀ pre : List RdmUid,
    Ascending key (pre ++ rest) → (∀ u ∈ pre, u.key ≤ high.key) →
    (upFrom low pre).length ≤ llrpKnownUidSize →
    Lists low high (pre ++ rest) (collectKnown low rest high (upFrom low pre)) := by
  induction rest with
  | nil =>
    intro pre _ hpre hsize
    rw [append_nil, collectKnown]
    refine ⟨filter_sublist, hsize, fun u => ?_, .inl rfl⟩
    rw [mem_upFrom]
    exact ⟨fun h => ⟨h.1, h.2, hpre u h.1⟩, fun h => ⟨h.1, h.2.1⟩⟩
  | cons uid rest ih =>
    intro pre hasc hpre hsize
    obtain ⟨hpp, hrest, hcross⟩ := pairwise_append.mp hasc
    have hnext : uid.key ≤ high.key → (upFrom low (pre ++ [uid])).length ≤ llrpKnownUidSize →
        Lists low high (pre ++ uid :: rest)
          (collectKnown low rest high (upFrom low (pre ++ [uid]))) := by
      intro hu hlen
      have := ih (pre ++ [uid]) (by rwa [append_assoc]) (fun u hm => ?_) hlen
      · rwa [append_assoc] at this
      · rcases mem_append.mp hm with hm | hm
        · exact hpre u hm
        · rwa [mem_singleton.mp hm]
    have htake : low.key ≤ uid.key →
        upFrom low pre ++ [uid] = upFrom low (pre ++ [uid]) := by
      intro hl
      rw [upFrom, upFrom, filter_append, filter_singleton, decide_eq_true hl]
      rfl
    simp only [collectKnown, (rdmUidCompare_sign _ _).1, (rdmUidCompare_sign _ _).2]
    split_ifs with hu h0 h1 hl
    · -- the first of the Known UIDs is in the range, and so is every UID behind it
      obtain ⟨v, hv⟩ := exists_mem_of_length_pos (Nat.pos_of_ne_zero h0)
      rw [mem_upFrom] at hv
      have hl : low.key ≤ uid.key := hv.2.trans (hcross v hv.1 uid mem_cons_self).le
      rw [htake hl]
      exact hnext hu (by rw [← htake hl, length_append]; exact h1)
    · have hlen : (upFrom low pre).length = 200 := by
        have : (upFrom low pre).length ≤ 200 := hsize
        have : ¬ (upFrom low pre).length + 1 ≤ 200 := h1
        omega
      have h99 : 99 < (upFrom low pre).length := by omega
      have hget : (upFrom low pre).getD (llrpKnownUidSize / 2 - 1) default =
          (upFrom low pre)[99] := getD_eq_getElem _ _ h99
      have hup : Ascending key (upFrom low pre) := hpp.filter _
      have hmem := fun u => hup.mem_take (a := u) h99
      rw [hget]
      refine ⟨((take_sublist _ _).trans filter_sublist).trans (sublist_append_left _ _), ?_, fun u => ?_,
        .inr ((hmem _).mpr ⟨getElem_mem _, le_rfl⟩)⟩
      · rw [length_take, hlen]
        decide
      · refine (hmem u).trans ?_
        rw [mem_upFrom]
        refine ⟨fun h => ⟨mem_append_left _ h.1.1, h.1.2, h.2⟩, fun h => ⟨⟨?_, h.2.1⟩, h.2.2⟩⟩
        -- behind the part that was passed, the UIDs are above the end of the range
        rcases mem_append.mp h.1 with hm | hm
        · exact hm
        · exact absurd (hcross _ (mem_of_mem_filter (getElem_mem h99)) u hm) (not_lt.mpr h.2.2)
    · rw [htake hl]
      exact hnext hu (by rw [← htake hl, length_append, not_not.mp h0]; show 0 + 1 ≤ 200; omega)
    · have hskip : upFrom low pre = upFrom low (pre ++ [uid]) := by
        rw [upFrom, upFrom, filter_append, filter_singleton, decide_eq_false hl]
        exact (append_nil _).symm
      rw [hskip]
      exact hnext hu (hskip ▸ hsize)
    · refine ⟨filter_sublist.trans (sublist_append_left _ _), hsize, fun u => ?_, .inl rfl⟩
      rw [mem_upFrom]
      refine ⟨fun h => ⟨mem_append_left _ h.1, h.2, hpre u h.1⟩, fun h => ⟨?_, h.2.1⟩⟩
      rcases mem_append.mp h.1 with hm | hm
      · exact hm
      · rcases mem_cons.mp hm with rfl | hm
        · exact absurd h.2.2 hu
        · exact absurd (h.2.2.trans' ((pairwise_cons.mp hrest).1 u hm).le) hu

/-- The range of the next probe, and the number of clean sends: it is that of the last one, or it starts behind
it. -/
def NextRange (m : LlrpManager) (low high : RdmUid) (numCleanSends : Nat) : Prop :=
  (m.numCleanSends < 3 ∧ low = m.curRangeLow ∧ high = m.curRangeHigh ∧ numCleanSends = m.numCleanSends) ∨
  (3 ≤ m.numCleanSends ∧ low.key = m.curRangeHigh.key + 1 ∧ high = kRdmBroadcastUid ∧ numCleanSends = 0)

/-- **What a probe makes of the manager.** -/
structure Probed (m m' : LlrpManager) : Prop where
  cid : m'.cid = m.cid
  targets : m'.discoveredTargets = m.discoveredTargets
  range : ∃ high, NextRange m m'.curRangeLow high m'.numCleanSends ∧
    Lists m'.curRangeLow high m.discoveredTargets (m'.curRangeHigh, m'.knownUids)

theorem updateProbeRange_cases (hb : env.Lawful) (hasc : Ascending key m.discoveredTargets) :
    (updateProbeRange env m = none ∧ 3 ≤ m.numCleanSends ∧ m.curRangeHigh.id = 0xffffffff) ∨
      ∃ m', updateProbeRange env m = some m' ∧ Probed m m' := by
  have hlists : ∀ low high, Lists low high m.discoveredTargets
      (collectKnown low m.discoveredTargets high []) := fun low high =>
    collectKnown_lists m.discoveredTargets [] hasc (fun u hu => by cases hu) (Nat.zero_le _)
  simp only [updateProbeRange, nextRange]
  split_ifs with h3 hbc hid
  · exact .inl ⟨rfl, h3, (hb _).mp hbc⟩
  · exact absurd ((hb _).mpr hid) hbc
  · refine .inr ⟨_, rfl, rfl, rfl, _, .inr ⟨h3, ?_, rfl, rfl⟩, hlists _ _⟩
    have hlt := m.curRangeHigh.id.toNat_lt
    have hne : m.curRangeHigh.id.toNat ≠ 4294967295 := fun h => hid (UInt32.toNat.inj h)
    have hadd : (m.curRangeHigh.id + 1).toNat = m.curRangeHigh.id.toNat + 1 := by
      rw [UInt32.toNat_add, UInt32.toNat_one]
      exact Nat.mod_eq_of_lt (by omega)
    simp only [RdmUid.key, hadd, Nat.add_assoc]
  · exact .inr ⟨_, rfl, rfl, rfl, _, .inl ⟨not_le.mp h3, rfl, rfl, rfl⟩, hlists _ _⟩

end LlrpManager

namespace LlrpDiscovery

open LlrpManager (upFrom mem_upFrom)

variable {env : LlrpEnv} {s s' : LlrpDiscovery} {m : LlrpManager} {a : LlrpAction} {uid : RdmUid} {cid : Uuid}
  {tree : List RdmUid} {chain : List Uuid} {present : List RdmUid}

def request (m : LlrpManager) : LocalProbeRequest := ⟨m.curRangeLow, m.curRangeHigh, m.discFilter, m.knownUids⟩

def sent (s : LlrpDiscovery) (m : LlrpManager) : LlrpDiscovery :=
  { s with manager := m, probes := s.probes ++ [(request m, s.reported)] }

/-- **The next probe**: there is none, or it is sent, or sending it fails. -/
theorem sendNextProbe_cases (hb : env.Lawful) (hasc : Ascending key s.targets) (sendOk : Bool) :
    (s.sendNextProbe env sendOk = (s, false) ∧ 3 ≤ s.manager.numCleanSends ∧
      s.manager.curRangeHigh.id = 0xffffffff) ∨
    ∃ m', s.manager.Probed m' ∧ s.sendNextProbe env sendOk =
      if sendOk then (s.sent m', true) else ({ s with manager := m' }, false) := by
  rcases LlrpManager.updateProbeRange_cases hb hasc with ⟨hnone, h⟩ | ⟨m', hsome, hp⟩
  · refine .inl ⟨?_, h⟩
    simp only [sendNextProbe, LlrpManager.sendNextProbe, hnone]
  · have hsize : ¬ llrpKnownUidSize < m'.knownUids.length := by
      obtain ⟨high, -, hl⟩ := hp.range
      exact not_lt.mpr hl.size
    refine .inr ⟨{ m' with transactionNumber := m'.transactionNumber + 1 }, ⟨hp.cid, hp.targets, hp.range⟩, ?_⟩
    cases sendOk <;>
      simp [sendNextProbe, LlrpManager.sendNextProbe, hsome, rcSendLlrpProbeRequest, hsize, request, sent]

/-! ### What a step does -/

/-- There is memory for the node of every target that has a new UID. -/
def Inserts : LlrpAction → LlrpDiscovery → Prop
  | .probeReply _ _ _ _ inserted, _ => inserted = true
  | _, _ => True

instance (a : LlrpAction) (s : LlrpDiscovery) : Decidable (Inserts a s) := by
  cases a <;> (dsimp only [Inserts]; infer_instance)

/-- A target that has not been reported is put into the tree, or into the chain at its UID. -/
structure Reports (s : LlrpDiscovery) (uid : RdmUid) (cid : Uuid) (tree : List RdmUid) (chain : List Uuid) :
    Prop where
  active : s.discoveryActive = true
  fresh : ¬ (uid ∈ s.targets ∧ cid ∈ s.cids uid)
  ascending : Ascending key tree
  mem : ∀ u, u ∈ tree ↔ u = uid ∨ u ∈ s.targets
  count : ∀ low, (upFrom low tree).length ≤ (upFrom low s.targets).length + 1
  chain : ∀ c, c ∈ chain ↔ c = cid ∨ uid ∈ s.targets ∧ c ∈ s.cids uid

def found (s : LlrpDiscovery) (uid : RdmUid) (cid : Uuid) (tree : List RdmUid) (chain : List Uuid) : LlrpDiscovery :=
  { s with
    manager := { s.manager with discoveredTargets := tree }
    cids := Function.update s.cids uid chain }.report uid cid

/-- **A probe reply** reports the target, if it has not been reported. -/
theorem handleProbeReply_cases (hasc : Ascending key s.targets) (destCid cid : Uuid) (uid : RdmUid)
    (alloc : Bool) :
    (s.handleProbeReply destCid cid uid alloc true = s ∧
      (s.discoveryActive = true → destCid = s.manager.cid → alloc = true → uid ∈ s.targets ∧ cid ∈ s.cids uid)) ∨
    ∃ tree chain, s.Reports uid cid tree chain ∧
      s.handleProbeReply destCid cid uid alloc true = s.found uid cid tree chain := by
  unfold handleProbeReply
  split_ifs with h hu hc ht
  · exact .inl ⟨rfl, fun _ _ _ => ⟨hu, hc⟩⟩
  · refine .inr ⟨s.targets, _, ⟨h.1, fun h => hc h.2, hasc, fun u => ?_, fun low => Nat.le_succ _, fun c => ?_⟩, rfl⟩
    · exact ⟨.inr, fun h => h.elim (fun h => h ▸ hu) id⟩
    · rw [mem_append, mem_singleton]
      tauto
  · have hperm : insertUid uid s.targets ~ uid :: s.targets := perm_orderedInsert _ _ _
    refine .inr ⟨_, _, ⟨h.1, fun h => hu h.1, ?_, fun u => ?_, fun low => ?_, fun c => ?_⟩, rfl⟩
    · exact hasc.insert _ (fun a b => (rdmUidCompare_sign a b).1) fun _ hb heq =>
        hu (key_injective heq ▸ hb)
    · exact hperm.mem_iff.trans mem_cons
    · rw [upFrom, (hperm.filter _).length_eq, filter_cons]
      split
      · exact le_rfl
      · exact Nat.le_succ _
    · rw [mem_singleton]
      tauto
  · exact absurd rfl ht
  · exact .inl ⟨rfl, fun h1 h2 h3 => absurd ⟨h1, h2, h3⟩ h⟩

/-- **What an action can do.** -/
inductive Does (s : LlrpDiscovery) : LlrpAction → LlrpDiscovery → Prop
  | stays {a : LlrpAction} : Does s a s
  | command {a : LlrpAction} (n : UInt32) :
      Does s a { s with manager := { s.manager with transactionNumber := n } }
  /-- Discovery is stopped, finished or given up. -/
  | ends {a : LlrpAction} {t : LlrpDiscovery} (hreported : t.reported = s.reported)
      (hprobes : t.probes = s.probes) : Does s a t.clear
  | starts {a : LlrpAction} {m : LlrpManager} (filter : UInt16) (hidle : s.discoveryActive = false)
      (hp : (s.begin filter).manager.Probed m) : Does s a ((s.begin filter).sent m)
  | fails {a : LlrpAction} {m : LlrpManager} (filter : UInt16) (hidle : s.discoveryActive = false)
      (hp : (s.begin filter).manager.Probed m) :
      Does s a { s.begin filter with manager := m, discoveryActive := false }
  | probes {m : LlrpManager} {sendOk : Bool} (hact : s.discoveryActive = true)
      (hp : s.expire.manager.Probed m) : Does s (.tick true sendOk) (s.expire.sent m)
  | reports {destCid cid : Uuid} {uid : RdmUid} {alloc : Bool} {tree : List RdmUid} {chain : List Uuid}
      (hr : s.Reports uid cid tree chain) :
      Does s (.probeReply destCid cid uid alloc true) (s.found uid cid tree chain)

theorem step_does (hb : env.Lawful) (hasc : Ascending key s.targets) (hok : Inserts a s)
    (hstep : s.step env a = some s') : s.Does a s' := by
  cases a <;> obtain rfl := Option.some.inj hstep
  case startDiscovery filter sendOk =>
    unfold startDiscovery
    split_ifs with h
    · exact .stays
    · have hidle : s.discoveryActive = false := Bool.eq_false_iff.mpr h
      rcases sendNextProbe_cases (s := s.begin filter) hb hasc sendOk with ⟨-, h3, -⟩ | ⟨m, hp, heq⟩
      · exact absurd h3 (by show ¬ 3 ≤ 0; omega)
      · rw [heq]
        cases sendOk with
        | true => exact .starts filter hidle hp
        | false => exact .fails filter hidle hp
  case stopDiscovery =>
    unfold stopDiscovery
    split_ifs
    · exact .ends rfl rfl
    · exact .stays
  case tick expired sendOk =>
    unfold processManagerState
    split_ifs with h
    · obtain ⟨hact, rfl⟩ := h
      rcases sendNextProbe_cases (s := s.expire) hb hasc sendOk with ⟨heq, -⟩ | ⟨m, hp, heq⟩
      · rw [heq]
        exact .ends rfl rfl
      · rw [heq]
        cases sendOk with
        | true => exact .probes hact hp
        | false => exact .ends rfl rfl
    · exact .stays
  case probeReply destCid senderCid uid alloc inserted =>
    obtain rfl : inserted = true := hok
    rcases handleProbeReply_cases hasc destCid senderCid uid alloc with ⟨heq, -⟩ | ⟨tree, chain, hr, heq⟩
    · rw [heq]
      exact .stays
    · rw [heq]
      exact .reports hr
  case sendRdmCommand destination commandClass paramId data seqNum sendOk =>
    simp only [LlrpManager.rcLlrpManagerSendRdmCommand]
    split
    · exact .stays
    · cases sendOk <;> cases seqNum <;> first | exact .stays | exact .command _

/-- The states of a manager from its registration on. -/
def Reached (env : LlrpEnv) (ok : LlrpAction → LlrpDiscovery → Prop) (s : LlrpDiscovery) : Prop :=
  ∃ cid uid, Runs (step env) ok (register cid uid) s

theorem Reached.keeps {ok : LlrpAction → LlrpDiscovery → Prop} {I : LlrpDiscovery → Prop}
    (hstep : ∀ a s s', ok a s → I s → s.step env a = some s' → I s') (hI : ∀ cid uid, I (register cid uid))
    (h : Reached env ok s) : I s := by
  obtain ⟨cid, uid, h⟩ := h
  exact Runs.keeps hstep h (hI cid uid)

/-! ### What is reported -/

/-- A probe request lists the UIDs in its range that have been reported, in ascending order. -/
structure ListsReported (request : LocalProbeRequest) (reported : List (RdmUid × Uuid)) : Prop where
  ascending : Ascending key request.knownUids
  size : request.knownUids.length ≤ llrpKnownUidSize
  mem : ∀ u, u ∈ request.knownUids ↔ (∃ c, (u, c) ∈ reported) ∧
    request.lowerUid.key ≤ u.key ∧ u.key ≤ request.upperUid.key

structure Found (s : LlrpDiscovery) : Prop where
  ascending : Ascending key s.targets
  idle : s.discoveryActive = false → s.targets = []
  chained : ∀ u ∈ s.targets, s.cids u ≠ []
  nodup : s.reported.Nodup
  reported : s.discoveryActive = true → ∀ u c, (u, c) ∈ s.reported ↔ u ∈ s.targets ∧ c ∈ s.cids u
  probes : ∀ p ∈ s.probes, ListsReported p.1 p.2

namespace Found

theorem of_nil (ht : s.targets = []) (hr : s.reported = []) (hp : s.probes = []) : s.Found := by
  refine ⟨ht ▸ .nil, fun _ => ht, fun u hu => ?_, hr ▸ nodup_nil, fun _ u c => ?_, fun p h => ?_⟩
  · rw [ht] at hu
    exact absurd hu not_mem_nil
  · rw [ht, hr]
    exact ⟨fun hc => absurd hc not_mem_nil, fun hc => absurd hc.1 not_mem_nil⟩
  · rw [hp] at h
    exact absurd h not_mem_nil

theorem mem_targets (h : s.Found) (hact : s.discoveryActive = true) (u : RdmUid) :
    u ∈ s.targets ↔ ∃ c, (u, c) ∈ s.reported := by
  constructor
  · intro hu
    obtain ⟨c, hc⟩ := exists_mem_of_ne_nil _ (h.chained u hu)
    exact ⟨c, (h.reported hact u c).mpr ⟨hu, hc⟩⟩
  · rintro ⟨c, hc⟩
    exact ((h.reported hact u c).mp hc).1

theorem sent (h : s.Found) (hact : s.discoveryActive = true) (hp : s.manager.Probed m) :
    (s.sent m).Found := by
  obtain ⟨high, -, hl⟩ := hp.range
  have ht : (s.sent m).targets = s.targets := hp.targets
  refine ⟨ht ▸ h.ascending, fun hi => ht.trans (h.idle hi), fun u hu => h.chained u (ht ▸ hu), h.nodup,
    fun ha u c => ?_, fun p hp => ?_⟩
  · rw [ht]
    exact h.reported ha u c
  · rcases mem_append.mp hp with hp | hp
    · exact h.probes p hp
    · rw [mem_singleton.mp hp]
      refine ⟨h.ascending.sublist hl.sublist, hl.size, fun u => ?_⟩
      rw [← h.mem_targets hact]
      exact hl.mem u

theorem found (h : s.Found)
    (hr : s.Reports uid cid tree chain) : (s.found uid cid tree chain).Found := by
  have hnew : (uid, cid) ∉ s.reported := fun hm => hr.fresh ((h.reported hr.active uid cid).mp hm)
  refine ⟨hr.ascending, fun hi => absurd hr.active (Bool.eq_false_iff.mp hi), fun u hu => ?_,
    nodup_append.mpr ⟨h.nodup, nodup_singleton _, fun x hx y hy => ?_⟩, fun _ u c => ?_, h.probes⟩
  · show Function.update s.cids uid chain u ≠ []
    by_cases hu' : u = uid
    · rw [hu', Function.update_self]
      exact ne_nil_of_mem ((hr.chain cid).mpr (.inl rfl))
    · rw [Function.update_of_ne hu']
      exact h.chained u (((hr.mem u).mp hu).resolve_left hu')
  · rw [mem_singleton.mp hy]
    exact fun hxy => hnew (hxy ▸ hx)
  · show (u, c) ∈ s.reported ++ [(uid, cid)] ↔ u ∈ tree ∧ c ∈ Function.update s.cids uid chain u
    rw [mem_append, mem_singleton, h.reported hr.active, hr.mem, Prod.mk.injEq]
    by_cases hu' : u = uid
    · subst hu'
      rw [Function.update_self, hr.chain]
      tauto
    · rw [Function.update_of_ne hu']
      tauto

theorem does (h : s.Found) (hd : s.Does a s') : s'.Found := by
  cases hd with
  | stays => exact h
  | command n => exact ⟨h.ascending, h.idle, h.chained, h.nodup, h.reported, h.probes⟩
  | ends hreported hprobes =>
    exact ⟨.nil, fun _ => rfl, fun _ hu => absurd hu not_mem_nil, hreported ▸ h.nodup,
      fun ha => absurd ha Bool.false_ne_true, hprobes ▸ h.probes⟩
  | starts filter hidle hp => exact (of_nil (s := s.begin filter) (h.idle hidle) rfl rfl).sent rfl hp
  | fails filter hidle hp => exact of_nil (hp.targets.trans (h.idle hidle)) rfl rfl
  | probes hact hp =>
    have he : s.expire.Found := ⟨h.ascending, h.idle, h.chained, h.nodup, h.reported, h.probes⟩
    exact he.sent hact hp
  | reports hr => exact h.found hr

theorem reached (hb : env.Lawful) (h : Reached env Inserts s) : s.Found :=
  h.keeps (fun _ _ _ hok hf hstep => hf.does (step_does hb hf.ascending hok hstep))
    fun _ _ => of_nil rfl rfl rfl

end Found

/-- **Probes list what is known.**  Whatever replies come, and whenever, every probe request of a session lists
exactly the UIDs in its range that have been reported before it, in ascending order, and no more than fit. -/
theorem probes_list_known (env : LlrpEnv) (hb : env.Lawful) (h : Reached env Inserts s) :
    ∀ p ∈ s.probes, ListsReported p.1 p.2 :=
  (Found.reached hb h).probes

/-- **A target is asked until it is reported.**  Every probe request of a session fits into a datagram, and a
target that receives it finds itself asked exactly if its UID is in the range and has not been reported. -/
theorem target_asked_iff_unreported (env : LlrpEnv) (hb : env.Lawful) (pal : EtcPalUdp) (hpal : pal.Inverse)
    (h : Reached env Inserts s) {p : LocalProbeRequest × List (RdmUid × Uuid)} (hp : p ∈ s.probes)
    (header : LlrpHeader) (hdest : header.destCid = kLlrpBroadcastCid) (interest : LlrpMessageInterest)
    (hint : interest.interestedInProbeRequest = true) :
    ∃ bytes asked, rcSendLlrpProbeRequest pal header p.1 = some bytes ∧
      rcParseLlrpMessage pal interest bytes =
        some ⟨vectorLlrpProbeRequest, header, .probeRequest ⟨asked, p.1.filter⟩⟩ ∧
      (asked = true ↔ p.1.lowerUid.key ≤ interest.myUid.key ∧ interest.myUid.key ≤ p.1.upperUid.key ∧
        ∀ c, (interest.myUid, c) ∉ p.2) := by
  have hl := (Found.reached hb h).probes p hp
  obtain ⟨bytes, hsent, hread⟩ := LlrpOutgoing.probeRequest_trips hpal (.inl hdest) hl.size hint
  refine ⟨bytes, _, hsent, hread, ?_⟩
  rw [decide_eq_true_iff]
  refine and_congr_right fun hlow => and_congr_right fun hup => ?_
  rw [hl.mem]
  exact ⟨fun hn c hc => hn ⟨⟨c, hc⟩, hlow, hup⟩, fun hn hm => hm.1.elim hn⟩

/-- **A target is reported once**, however often it replies, and whatever else happens. -/
theorem target_reported_once (env : LlrpEnv) (hb : env.Lawful) (h : Reached env Inserts s)
    (hact : s.discoveryActive = true) (senderCid : Uuid) (u : RdmUid) :
    (s.handleProbeReply s.manager.cid senderCid u true true).reported.count (u, senderCid) = 1 := by
  have hf := Found.reached hb h
  rcases handleProbeReply_cases hf.ascending s.manager.cid senderCid u true with ⟨heq, hold⟩ | ⟨tree, chain, hr, heq⟩
  · rw [heq]
    exact count_eq_one_of_mem hf.nodup ((hf.reported hact _ _).mpr (hold hact rfl rfl))
  · rw [heq]
    exact count_eq_one_of_mem (hf.found hr).nodup (mem_append_right _ (mem_singleton_self _))

/-! ### The sweep over the UIDs -/

def above (s : LlrpDiscovery) : Nat := (upFrom s.manager.curRangeLow s.targets).length

/-- The range ends with the last UID, or at one that was found in it. -/
def RangeEnds (s : LlrpDiscovery) : Prop :=
  s.manager.curRangeHigh = kRdmBroadcastUid ∨
    s.manager.curRangeHigh ∈ s.targets ∧ s.manager.curRangeLow.key ≤ s.manager.curRangeHigh.key

/-- The state of an active discovery.  Every target that is reported pays for six probes: three for a range
that ends at its UID, and three for the new start of the count of clean sends. -/
structure Sweep (s : LlrpDiscovery) : Prop where
  ends : s.RangeEnds
  clean : s.manager.numCleanSends ≤ 2
  known : ∀ u ∈ s.manager.knownUids, u ∈ s.targets
  bound : s.probes.length + 3 * s.above + (3 - s.manager.numCleanSends) +
    (if s.targetDiscoveredSinceLastProbe then 3 else 0) ≤ 6 * s.reported.length + 4

theorem key_le_broadcast (u : RdmUid) : u.key ≤ kRdmBroadcastUid.key := by
  have hm := u.manu.toNat_lt
  have hi := u.id.toNat_lt
  show u.manu.toNat * 4294967296 + u.id.toNat ≤ 281474976710655
  omega

theorem upFrom_lt {u low low' : RdmUid} (hu : u ∈ tree) (hlow : low.key ≤ u.key)
    (hlow' : low'.key = u.key + 1) : (upFrom low' tree).length < (upFrom low tree).length := by
  have hsub : upFrom low' tree <+ upFrom low tree :=
    monotone_filter_right tree fun v hv => decide_eq_true (by have := of_decide_eq_true hv; omega)
  refine lt_of_le_of_ne hsub.length_le fun heq => ?_
  have hmem := mem_upFrom.mpr ⟨hu, hlow⟩
  rw [← hsub.eq_of_length heq, mem_upFrom] at hmem
  omega

theorem Sweep.sent (hp : s.manager.Probed m) (hends : s.RangeEnds) (hn : s.manager.numCleanSends ≤ 3)
    (hflag : s.targetDiscoveredSinceLastProbe = false)
    (hbound : s.probes.length + 1 + 3 * s.above + (3 - s.manager.numCleanSends) ≤ 6 * s.reported.length + 4) :
    (s.sent m).Sweep := by
  obtain ⟨high, hnext, hl⟩ := hp.range
  have ht : (s.sent m).targets = s.targets := hp.targets
  have habove : (s.sent m).above = (upFrom m.curRangeLow s.targets).length := by
    unfold above
    rw [ht]
    rfl
  have hlen : (s.sent m).probes.length = s.probes.length + 1 := length_append
  have hcut : m.curRangeHigh ∈ m.knownUids → (s.sent m).RangeEnds := by
    intro hmem
    refine .inr ?_
    rw [ht]
    exact ⟨((hl.mem _).mp hmem).1, ((hl.mem _).mp hmem).2.1⟩
  have hpaid : m.numCleanSends ≤ 2 →
      s.probes.length + 1 + 3 * (s.sent m).above + (3 - m.numCleanSends) ≤ 6 * s.reported.length + 4 →
      (s.sent m).RangeEnds → (s.sent m).Sweep := by
    intro hn hb hends
    refine ⟨hends, hn, fun u hu => ht ▸ ((hl.mem u).mp hu).1, ?_⟩
    rw [hlen, show (s.sent m).targetDiscoveredSinceLastProbe = false from hflag]
    exact hb
  rcases hnext with ⟨hlt, hlow, rfl, hn'⟩ | ⟨hge, hlow, rfl, hn'⟩
  · refine hpaid (by omega) ?_ (hl.cut.elim (fun hsame => ?_) hcut)
    · rw [habove, hlow, hn']
      exact hbound
    · unfold RangeEnds
      rw [ht, show (s.sent m).manager.curRangeHigh = _ from hsame,
        show (s.sent m).manager.curRangeLow = _ from hlow]
      exact hends
  · -- the range was left, so it ended at a UID of the tree
    have hne : s.manager.curRangeHigh ≠ kRdmBroadcastUid := by
      intro heq
      have := key_le_broadcast m.curRangeLow
      rw [hlow, heq] at this
      omega
    obtain ⟨hmem, hle⟩ := hends.resolve_left hne
    have hlt : (upFrom m.curRangeLow s.targets).length < s.above := upFrom_lt hmem hle hlow
    refine hpaid (by omega) ?_ (hl.cut.elim .inl hcut)
    rw [habove, hn']
    omega

theorem Sweep.expired (h : s.Sweep) (hp : s.expire.manager.Probed m) :
    (s.expire.sent m).Sweep := by
  have hclean := h.clean
  have hbound := h.bound
  have habove : s.expire.above = s.above := rfl
  have hn : s.expire.manager.numCleanSends =
      if s.targetDiscoveredSinceLastProbe then 0 else s.manager.numCleanSends + 1 := rfl
  refine .sent hp h.ends ?_ rfl ?_ <;> rw [hn]
  · split <;> omega
  · rw [habove]
    show s.probes.length + 1 + _ + _ ≤ 6 * s.reported.length + 4
    split_ifs at hbound ⊢ <;> omega

theorem Sweep.found (h : s.Sweep)
    (hr : s.Reports uid cid tree chain) : (s.found uid cid tree chain).Sweep := by
  have hmem : ∀ u ∈ s.targets, u ∈ tree := fun u hu => (hr.mem u).mpr (.inr hu)
  refine ⟨h.ends.imp_right fun hh => ⟨hmem _ hh.1, hh.2⟩, h.clean, fun u hu => hmem u (h.known u hu), ?_⟩
  have hbound := h.bound
  have hcount : (s.found uid cid tree chain).above ≤ s.above + 1 := hr.count _
  have hlen : (s.found uid cid tree chain).reported.length = s.reported.length + 1 := length_append
  rw [hlen]
  show s.probes.length + _ + (3 - s.manager.numCleanSends) + 3 ≤ _
  omega

/-- Every discovery has its probes paid for, also when it is over. -/
def Swept (s : LlrpDiscovery) : Prop :=
  s.probes.length ≤ 6 * s.reported.length + 3 ∧ (s.discoveryActive = true → s.Sweep)

theorem Sweep.swept (h : s.Sweep) : s.Swept := by
  refine ⟨?_, fun _ => h⟩
  have hclean := h.clean
  have hbound := h.bound
  omega

theorem Swept.does (hf : s.Found) (h : s.Swept) (hd : s.Does a s') : s'.Swept := by
  cases hd with
  | stays => exact h
  | command n => exact ⟨h.1, fun ha => ⟨(h.2 ha).ends, (h.2 ha).clean, (h.2 ha).known, (h.2 ha).bound⟩⟩
  | @ends _ t hreported hprobes =>
    refine ⟨?_, fun ha => absurd ha Bool.false_ne_true⟩
    show t.probes.length ≤ 6 * t.reported.length + 3
    rw [hreported, hprobes]
    exact h.1
  | starts filter hidle hp =>
    have habove : (s.begin filter).above = 0 := by
      unfold above
      rw [show (s.begin filter).targets = [] from hf.idle hidle]
      rfl
    refine (Sweep.sent hp (.inl rfl) (Nat.zero_le _) rfl ?_).swept
    rw [habove]
    exact le_rfl
  | fails filter hidle hp => exact ⟨Nat.zero_le _, fun ha => absurd ha Bool.false_ne_true⟩
  | probes hact hp => exact ((h.2 hact).expired hp).swept
  | reports hr => exact ((h.2 hr.active).found hr).swept

theorem Swept.register (cid : Uuid) (uid : RdmUid) : (register cid uid).Swept :=
  ⟨Nat.zero_le _, fun ha => absurd ha Bool.false_ne_true⟩

/-- **Discovery ends.**  Whatever replies come, a session sends at most three probes, and six for each target
that it reports; and as long as it goes on, every expiry of the timer sends one, if sending works. -/
theorem discovery_ends (env : LlrpEnv) (hb : env.Lawful) (h : Reached env Inserts s) :
    s.probes.length ≤ 6 * s.reported.length + 3 ∧
    (s.discoveryActive = true → (s.processManagerState env true true).discoveryActive = false ∨
      (s.processManagerState env true true).probes.length = s.probes.length + 1) := by
  have hinv : s.Found ∧ s.Swept := by
    refine h.keeps (I := fun s => s.Found ∧ s.Swept) (fun _ _ _ hok hI hstep => ?_)
      fun cid uid => ⟨.of_nil rfl rfl rfl, .register cid uid⟩
    have hd := step_does hb hI.1.ascending hok hstep
    exact ⟨hI.1.does hd, hI.2.does hI.1 hd⟩
  obtain ⟨hf, hs⟩ := hinv
  refine ⟨hs.1, fun hact => ?_⟩
  rw [processManagerState, if_pos ⟨hact, rfl⟩]
  rcases sendNextProbe_cases (s := s.expire) hb hf.ascending true with ⟨heq, -⟩ | ⟨m, hp, heq⟩
  · rw [heq]
    exact .inl rfl
  · rw [heq]
    exact .inr length_append

/-! ### Completeness -/

def Asks (s : LlrpDiscovery) (u : RdmUid) : Prop :=
  s.manager.curRangeLow.key ≤ u.key ∧ u.key ≤ s.manager.curRangeHigh.key ∧ u ∉ s.manager.knownUids

/-- The targets that are present answer at least one of three probes in a row that ask them: when the third
has brought nothing new, it has not asked one of them.  No target replies with a broadcast UID. -/
def Answers (present : List RdmUid) : LlrpAction → LlrpDiscovery → Prop
  | .tick expired _, s => expired = true → s.discoveryActive = true →
    s.targetDiscoveredSinceLastProbe = false → s.manager.numCleanSends = 2 → ∀ u ∈ present, ¬ s.Asks u
  | .probeReply _ _ uid _ inserted, _ => inserted = true ∧ uid.id ≠ 0xffffffff
  | _, _ => True

theorem Answers.inserts (h : Answers present a s) : Inserts a s := by
  cases a <;> first | exact h.1 | trivial

/-- Below the range, all targets that are present have been found. -/
structure Complete (present : List RdmUid) (s : LlrpDiscovery) : Prop where
  below : ∀ u ∈ present, u.key < s.manager.curRangeLow.key → u ∈ s.targets
  device : ∀ u ∈ s.targets, u.id ≠ 0xffffffff

theorem Complete.searched {sendOk : Bool} (hs : s.Sweep) (h : s.Complete present)
    (hact : s.discoveryActive = true) (hok : Answers present (.tick true sendOk) s)
    (h3 : 3 ≤ s.expire.manager.numCleanSends) : ∀ u ∈ present, u.key ≤ s.manager.curRangeHigh.key → u ∈ s.targets := by
  have hclean := hs.clean
  have hexp : 3 ≤ if s.targetDiscoveredSinceLastProbe then 0 else s.manager.numCleanSends + 1 := h3
  cases hflag : s.targetDiscoveredSinceLastProbe with
  | true =>
    rw [hflag, if_pos rfl] at hexp
    omega
  | false =>
    rw [hflag, if_neg Bool.false_ne_true] at hexp
    have hasked := hok rfl hact hflag (by omega)
    intro u hu hle
    rcases Nat.lt_or_ge u.key s.manager.curRangeLow.key with hlt | hge
    · exact h.below u hu hlt
    · exact hs.known u (not_not.mp fun hn => hasked u hu ⟨hge, hle, hn⟩)

theorem Complete.does (hf : s.Found) (hs : s.Swept)
    (h : s.discoveryActive = true → s.Complete present) (hok : Answers present a s) (hd : s.Does a s')
    (hact' : s'.discoveryActive = true) : s'.Complete present := by
  cases hd with
  | stays => exact h hact'
  | command n => exact ⟨(h hact').below, (h hact').device⟩
  | ends => exact absurd hact' Bool.false_ne_true
  | starts filter hidle hp =>
    obtain ⟨high, ⟨-, hlow, -⟩ | ⟨h3, -⟩, -⟩ := hp.range
    · have ht : ((s.begin filter).sent _).targets = [] := hp.targets.trans (hf.idle hidle)
      refine ⟨fun u _ hlt => ?_, fun u hu => ?_⟩
      · have h0 : RdmUid.key ⟨0, 0⟩ = 0 := by simp [RdmUid.key]
        rw [show ((s.begin filter).sent _).manager.curRangeLow = ⟨0, 0⟩ from hlow, h0] at hlt
        omega
      · rw [ht] at hu
        exact absurd hu not_mem_nil
    · exact absurd h3 (by show ¬ 3 ≤ 0; omega)
  | fails => exact absurd hact' Bool.false_ne_true
  | @probes m _ hact hp =>
    have ht : (s.expire.sent m).targets = s.targets := hp.targets
    refine ⟨fun u hu hlt => ?_, fun u hu => (h hact).device u (ht ▸ hu)⟩
    rw [ht]
    obtain ⟨high, ⟨-, hlow, -⟩ | ⟨h3, hlow, -⟩, -⟩ := hp.range
    · rw [show (s.expire.sent m).manager.curRangeLow = _ from hlow] at hlt
      exact (h hact).below u hu hlt
    · rw [show (s.expire.sent m).manager.curRangeLow.key = _ from hlow] at hlt
      exact (h hact).searched (hs.2 hact) hact hok h3 u hu (Nat.lt_succ_iff.mp hlt)
  | reports hr =>
    have hc := h hr.active
    refine ⟨fun u hu hlt => (hr.mem u).mpr (.inr (hc.below u hu hlt)), fun u hu => ?_⟩
    rcases (hr.mem u).mp hu with rfl | hu
    · exact hok.2
    · exact hc.device u hu

/-- **Discovery is complete.**  If the targets that are present answer at least one of three probes in a row that
ask them, then whatever other replies come, in any order, discovery that finishes has reported all of them. -/
theorem discovery_complete (env : LlrpEnv) (hb : env.Lawful) (present : List RdmUid)
    (h : Reached env (Answers present) s) (hlast : Answers present (.tick true true) s)
    (hact : s.discoveryActive = true) (hfin : (s.processManagerState env true true).discoveryActive = false) :
    ∀ u ∈ present, ∃ c, (u, c) ∈ s.reported := by
  have hinv : s.Found ∧ s.Swept ∧ (s.discoveryActive = true → s.Complete present) := by
    refine h.keeps (I := fun s => s.Found ∧ s.Swept ∧ (s.discoveryActive = true → s.Complete present))
      (fun _ _ _ hok hI hstep => ?_)
      fun cid uid => ⟨.of_nil rfl rfl rfl, .register cid uid, fun ha => absurd ha Bool.false_ne_true⟩
    have hd := step_does hb hI.1.ascending hok.inserts hstep
    exact ⟨hI.1.does hd, hI.2.1.does hI.1 hd, Complete.does hI.1 hI.2.1 hI.2.2 hok hd⟩
  obtain ⟨hf, hs, hc⟩ := hinv
  intro u hu
  rw [← hf.mem_targets hact]
  rw [processManagerState, if_pos ⟨hact, rfl⟩] at hfin
  rcases sendNextProbe_cases (s := s.expire) hb hf.ascending true with ⟨-, h3, hid⟩ | ⟨m, hp, heq⟩
  · -- only a UID of the tree could end the range in front of the last UID, and none is a broadcast UID
    refine (hc hact).searched (hs.2 hact) hact hlast h3 u hu ?_
    rcases (hs.2 hact).ends with hbc | ⟨hmem, -⟩
    · rw [hbc]
      exact key_le_broadcast u
    · exact absurd hid ((hc hact).device _ hmem)
  · rw [heq] at hfin
    exact absurd hact (Bool.eq_false_iff.mp hfin)

/-! A session with one target, which loses the first probe and replies twice to the second. -/

instance (s : LlrpDiscovery) (u : RdmUid) : Decidable (s.Asks u) := inferInstanceAs (Decidable (_ ∧ _ ∧ _))

instance (present : List RdmUid) (a : LlrpAction) (s : LlrpDiscovery) : Decidable (Answers present a s) := by
  cases a <;> (dsimp only [Answers]; infer_instance)

theorem reference_lawful : LlrpEnv.reference.Lawful := fun _ => decide_eq_true_iff

def sampleReply : LlrpAction := .probeReply default default ⟨1, 2⟩ true true

def sampleActions : List LlrpAction :=
  [.startDiscovery 0 true, .tick true true, sampleReply, sampleReply, .tick true true, .tick true true, .tick true true]

def sampleDiscovery : LlrpDiscovery :=
  played (step .reference) (Answers [⟨1, 2⟩]) sampleActions (register default ⟨3, 4⟩) (by decide +kernel)

theorem reached_sample : Reached .reference (Answers [⟨1, 2⟩]) sampleDiscovery := ⟨_, _, .played sampleActions _⟩

theorem reached_sample_inserts : Reached .reference Inserts sampleDiscovery :=
  ⟨_, _, (Runs.played sampleActions _).mono fun _ _ h => h.inserts⟩

/-- With two targets, a probe lists both. -/
theorem probes_list_known_two : ∃ s : LlrpDiscovery, ∃ p ∈ s.probes, p.1.knownUids = [⟨1, 2⟩, ⟨5, 6⟩] ∧
    ListsReported p.1 p.2 := by
  obtain ⟨s, hr, hx⟩ := Runs.exists_of_play (s := register default ⟨3, 4⟩) (step .reference) Inserts
    (fun s => s.probes[2]?.map (·.1.knownUids)) (some [⟨1, 2⟩, ⟨5, 6⟩])
    [.startDiscovery 0 true, .tick true true, .probeReply default default ⟨5, 6⟩ true true, sampleReply,
      .tick true true, .tick true true] (by decide +kernel)
  obtain ⟨p, hp, hknown⟩ := Option.map_eq_some_iff.mp hx
  have hmem := mem_of_getElem? hp
  exact ⟨s, p, hmem, hknown, probes_list_known .reference reference_lawful ⟨_, _, hr⟩ p hmem⟩

/-- The second probe asks the target, which has not been reported then. -/
theorem target_asked_iff_unreported_second : ∃ bytes asked,
    rcSendLlrpProbeRequest .reference sampleLlrpHeader ⟨⟨0, 0⟩, kRdmBroadcastUid, 0, []⟩ = some bytes ∧
    rcParseLlrpMessage .reference sampleLlrpInterest bytes =
      some ⟨vectorLlrpProbeRequest, sampleLlrpHeader, .probeRequest ⟨asked, 0⟩⟩ ∧ asked = true := by
  have hp : ((⟨⟨0, 0⟩, kRdmBroadcastUid, 0, []⟩ : LocalProbeRequest), ([] : List (RdmUid × Uuid))) ∈
      sampleDiscovery.probes := by decide +kernel
  obtain ⟨bytes, asked, hsent, hread, hasked⟩ := target_asked_iff_unreported .reference reference_lawful .reference
    EtcPalUdp.reference_inverse reached_sample_inserts hp sampleLlrpHeader rfl sampleLlrpInterest rfl
  exact ⟨bytes, asked, hsent, hread, hasked.mpr ⟨by decide, key_le_broadcast _, fun _ => not_mem_nil⟩⟩

theorem target_reported_once_again :
    (sampleDiscovery.handleProbeReply default default ⟨1, 2⟩ true true).reported.count (⟨1, 2⟩, default) = 1 :=
  target_reported_once .reference reference_lawful reached_sample_inserts (by decide +kernel) default ⟨1, 2⟩

theorem discovery_ends_one : sampleDiscovery.probes.length = 5 ∧ sampleDiscovery.probes.length ≤ 9 :=
  ⟨by decide +kernel, (discovery_ends .reference reference_lawful reached_sample_inserts).1⟩

theorem discovery_complete_one : ∃ c, (⟨1, 2⟩, c) ∈ sampleDiscovery.reported :=
  discovery_complete .reference reference_lawful [⟨1, 2⟩] reached_sample (by decide +kernel) (by decide +kernel)
    (by decide +kernel) _ (mem_singleton_self _)

end LlrpDiscovery

end RDMnet
