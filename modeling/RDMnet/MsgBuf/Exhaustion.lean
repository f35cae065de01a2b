import RDMnet.Lib.Loops
import RDMnet.MsgBuf.Reach

/-!
# Parsing when memory runs out

Which calls of `rc_msg_buf_parse_data` return.  The loops themselves end: each of their rounds takes
bytes, ends a PDU or uses up an outcome of the allocations.  What keeps a call from returning is

* an RPT client list with another entry at hand and no memory for it, now or later, since a failed
  allocation does not leave the loop;
* an array that is added to after it was freed;
* an RDM command that is shorter than its own length field, whose copy is of a negative size.

All three are stated of the state in which the list is about to be added to.
-/

namespace RDMnet

open Out RDMnet.Parser Layer Arr ClientListState RdmListState

variable {pal : EtcPal}

/-! ### Lists of fixed-size entries -/

def MsgList.Stops {α : Type} (l : MsgList α) (size : Nat) (d : Bytes) : Prop :=
  l.items.isFreed = true ∧ size ≤ d.length

variable {d : Bytes}

theorem genericListRound_stuck_iff {α : Type} {size : Nat} {unpack : Bytes → α}
    {s : GenericListState} {m : MsgList α × Heap} :
    (genericListRound size unpack s m d).res = some .stuck ↔ m.1.Stops size d := by
  simp only [genericListRound, MsgList.Stops]
  split_ifs with h1 h2 <;> simp_all

theorem parseGenericList_stuck_iff {α : Type} {size : Nat} (hsize : 0 < size) {unpack : Bytes → α}
    {s : GenericListState} {m : MsgList α × Heap} :
    (parseGenericList size unpack s m d).res = .stuck ↔ m.1.Stops size d := by
  rw [parseGenericList, iterate_res_iff (genericListRound_decreases hsize)]
  constructor
  · rintro ⟨s', m', d', hg, hr⟩
    have hstop := genericListRound_stuck_iff.mp hr
    cases hfree : m.1.items.isFreed with
    | true =>
      -- the first round does not ask for another one
      cases hg with
      | refl => exact hstop
      | again hn =>
        simp only [genericListRound, hfree, if_true] at hn
        split_ifs at hn
    | false =>
      have hlive := hg.keeps (I := fun _ m _ => m.1.items.isFreed = false) hfree
        fun s m d h hn => by
          simp only [genericListRound] at hn ⊢
          split_ifs at hn ⊢
          exact isFreed_push _ _
      rw [hstop.1] at hlive
      cases hlive
  · exact fun h => ⟨s, m, d, .refl, genericListRound_stuck_iff.mpr h⟩

/-! ### Client lists -/

def ClientListState.Wants (s : ClientListState) (d : Bytes) : Prop :=
  s.block.sizeParsed < s.block.blockSize ∧ s.block.parsedHeader = false ∧
    clientEntryHeaderSize ≤ d.length ∧ u32At d 3 = kClientProtocolRPT

def ClientListState.Starves (s : ClientListState) (m : MsgList RptClientEntry × Heap) (d : Bytes) :
    Prop :=
  s.Wants d ∧ m.1.items.isFreed = false ∧ m.2 = ⟨[], false⟩

def ClientListState.TouchesFreed (s : ClientListState) (m : MsgList RptClientEntry × Heap)
    (d : Bytes) : Prop :=
  m.1.items.isFreed = true ∧
    (s.Wants d ∨ s.block.sizeParsed < s.block.blockSize ∧ s.block.parsedHeader = true)

theorem Heap.alloc_fails_iff {h : Heap} : h.alloc.1 = false ∧ h.script = [] ↔ h = ⟨[], false⟩ := by
  obtain ⟨script, rest⟩ := h
  cases script <;> simp [Heap.alloc]

theorem rptClientListEntry_not_stuck (s : ClientListState) (m : MsgList RptClientEntry × Heap)
    (d : Bytes) : (rptClientListEntry pal s m d).res ≠ some .stuck := by
  have hw : (parseLastClientEntry pal s.entry m d).res.Whole := parseSingleClientEntry_whole _ _ _
  simp only [rptClientListEntry]
  generalize parseLastClientEntry pal s.entry m d = c at hw
  by_cases hc : c.used ≤ d.length ∧ s.block.sizeParsed + c.used ≤ s.block.blockSize
  · rw [if_pos hc, rptClientListNext]
    rcases hw with hw | hw | hw <;> simp only [hw]
    · simp
    · split_ifs <;> simp
    · simp only [consumeBadBlock]
      split_ifs <;> simp
  · rw [if_neg hc]
    simp

variable {s : ClientListState} {m : MsgList RptClientEntry × Heap}

theorem rptClientListEntry_live
    (h : m.1.items.isFreed = false) : (rptClientListEntry pal s m d).msg.1.items.isFreed = false := by
  have hc : (parseLastClientEntry pal s.entry m d).msg.1.items.isFreed = false :=
    parseSingleClientEntry_msg
      (Q := fun m : MsgList RptClientEntry × Heap => m.1.items.isFreed = false) (fun _ _ h => h)
      (fun f m h => (isFreed_modifyLast f m.1.items).trans h) _ _ h
  have hnext : ∀ n c, (rptClientListNext s n c).msg = c.msg := by
    intro n c
    unfold rptClientListNext
    cases c.res <;> rfl
  simp only [rptClientListEntry]
  split_ifs
  · rw [hnext]
    exact hc
  · exact hc

theorem rptClientListRound_live {total : Nat} (h : m.1.items.isFreed = false) :
    (rptClientListRound pal total s m d).msg.1.items.isFreed = false := by
  simp only [rptClientListRound]
  split_ifs
  all_goals first
    | exact h
    | exact rptClientListEntry_live h
    | exact rptClientListEntry_live (isFreed_push _ _)

theorem rptClientListRound_stuck_iff {total : Nat} : (rptClientListRound pal total s m d).res = some .stuck ↔
      s.TouchesFreed m d ∨ s.Starves m d := by
  simp only [rptClientListRound, TouchesFreed, Starves, ClientListState.Wants, ← Heap.alloc_fails_iff]
  by_cases h1 : s.block.sizeParsed < s.block.blockSize
  swap
  · simp [h1]
  simp only [h1, not_true_eq_false, if_false, true_and]
  cases hp : s.block.parsedHeader with
  | true =>
    cases ha : m.1.items with
    | null | freed => simp [isNull, isFreed]
    | live init last =>
      simp only [isNull, isFreed, Bool.false_eq_true, if_true, if_false]
      simpa [ha] using @rptClientListEntry_not_stuck pal s m d
  | false =>
    simp only [Bool.false_eq_true, if_false, or_false, true_and]
    by_cases h2 : d.length < clientEntryHeaderSize
    · have h2' : ¬ 23 ≤ d.length := not_le.mpr h2
      simp [h2, h2']
    have h2' : 23 ≤ d.length := not_lt.mp h2
    by_cases h3 : u32At d 3 = kClientProtocolRPT
    swap
    · simp only [h2, h3, if_false, ne_eq, not_false_eq_true, if_true, and_false, false_and, or_self, iff_false]
      simp only [consumeBadBlock]
      split_ifs <;> simp
    simp only [h2, h3, if_false, ne_eq, not_true_eq_false, h2', true_and]
    cases hf : m.1.items.isFreed with
    | true => simp
    | false =>
      cases ha : m.2.alloc.1 with
      | true => simp [rptClientListEntry_not_stuck]
      | false =>
        by_cases hs : m.2.script = [] <;> simp [hs]

/-- **The loop over a client list ends** unless the array was freed, or the loop gets to an entry for
which memory has run out. -/
theorem parseRptClientList_stuck_iff : (parseRptClientList pal s m d).res = .stuck ↔ s.TouchesFreed m d ∨
      ∃ s' m' d', (rptClientListRound pal d.length).Gets s m d s' m' d' ∧ s'.Starves m' d' := by
  have hres : (parseRptClientList pal s m d).res = ((rptClientListRound pal d.length).iterate
      (fun _ m d => d.length + m.2.script.length) .stuck s m d).res := by
    simp only [parseRptClientList]
    split_ifs <;> rfl
  rw [hres, iterate_res_iff (rptClientListRound_decreases d.length)]
  constructor
  · rintro ⟨s', m', d', hg, hr⟩
    rcases rptClientListRound_stuck_iff.mp hr with htouch | hstarve
    swap
    · exact .inr ⟨s', m', d', hg, hstarve⟩
    left
    cases hfree : m.1.items.isFreed with
    | true =>
      -- the first round does not ask for another one
      cases hg with
      | refl => exact htouch
      | again hn =>
        have hnull : m.1.items.isNull = false := by
          revert hfree
          cases m.1.items <;> simp [isFreed, isNull]
        simp only [rptClientListRound, hfree, hnull, if_true] at hn
        split_ifs at hn
    | false =>
      have hlive := hg.keeps (I := fun _ m _ => m.1.items.isFreed = false) hfree
        fun s m d h _ => rptClientListRound_live h
      rw [htouch.1] at hlive
      cases hlive
  · rintro (htouch | ⟨s', m', d', hg, hstarve⟩)
    · exact ⟨s, m, d, .refl, rptClientListRound_stuck_iff.mpr (.inl htouch)⟩
    · exact ⟨s', m', d', hg, rptClientListRound_stuck_iff.mpr (.inr hstarve)⟩

def ClientListStops (pal : EtcPal) (s : ClientListState) (m : BrokerClientList × Heap) (d : Bytes) :
    Prop :=
  s.block.consumingBadBlock = false ∧
  (m.1.clientProtocol = kClientProtocolRPT ∨ m.1.clientProtocol = kClientProtocolUnknown ∧
    clientEntryHeaderSize ≤ d.length ∧ u32At d 3 = kClientProtocolRPT) ∧
  (s.TouchesFreed (m.1.rpt, m.2) d ∨ ∃ s' m' d',
    (rptClientListRound pal d.length).Gets s (m.1.rpt, m.2) d s' m' d' ∧ s'.Starves m' d')

theorem consumeBadBlock_not_stuck (b : PduBlockState) (n : Nat) : (consumeBadBlock b n).2.2 ≠ .stuck := by
  simp only [consumeBadBlock]
  split_ifs <;> simp

theorem parseClientList_stuck_iff {m : BrokerClientList × Heap} :
    (parseClientList pal s m d).res = .stuck ↔ ClientListStops pal s m d := by
  have hlist : ∀ r : ParseRes, (if r = .unassigned then .noData else r) = .stuck ↔ r = .stuck := by
    intro r
    cases r <;> simp
  simp only [parseClientList, ClientListStops]
  by_cases hcons : s.block.consumingBadBlock = true
  · simp [hcons, consumeBadBlock_not_stuck]
  simp only [hcons, if_false, true_and, Bool.false_eq_true]
  by_cases hfresh : m.1.clientProtocol = kClientProtocolUnknown
  · by_cases hlen : clientEntryHeaderSize ≤ d.length
    · by_cases hp : u32At d 3 = kClientProtocolRPT
      · simp only [hfresh, hlen, hp, and_self, if_true, hlist, parseRptClientList_stuck_iff, or_true, true_and]
      · simp only [hfresh, hlen, hp, and_self, if_true, if_false, and_false, or_false]
        split_ifs
        · simp [consumeBadBlock_not_stuck, kClientProtocolRPT, kClientProtocolUnknown]
        · simp [kClientProtocolRPT, kClientProtocolUnknown]
    · simp [hfresh, hlen, kClientProtocolRPT, kClientProtocolUnknown]
  · by_cases hp : m.1.clientProtocol = kClientProtocolRPT
    · simp only [hp, if_true, hlist, true_or, true_and, false_and, if_false,
        show ¬ kClientProtocolRPT = kClientProtocolUnknown by decide]
      exact parseRptClientList_stuck_iff
    · simp [hfresh, hp, consumeBadBlock_not_stuck]

/-! ### Lists of RDM commands -/

def RdmListState.Wants (pal : EtcPal) (s : RdmListState) (d : Bytes) : Prop :=
  s.block.sizeParsed < s.block.blockSize ∧ rdmCmdPduMinSize ≤ d.length ∧
    pal.acnPduLength d ≤ s.block.blockSize ∧ pal.acnPduLength d ≤ rdmCmdPduMaxSize ∧
    pal.acnPduLength d ≤ d.length

def RdmListState.Breaks (pal : EtcPal) (s : RdmListState) (m : MsgList RdmBuffer × Heap)
    (d : Bytes) : Prop :=
  s.Wants pal d ∧ (m.1.items.isFreed = true ∨ m.2.alloc.1 = true ∧ pal.acnPduLength d < 3)

theorem rdmListRound_stuck_iff {s : RdmListState} {m : MsgList RdmBuffer × Heap} :
    (rdmListRound pal s m d).res = some .stuck ↔ s.Breaks pal m d := by
  simp only [rdmListRound, Breaks, RdmListState.Wants]
  by_cases h1 : s.block.sizeParsed < s.block.blockSize
  swap
  · simp [h1]
  by_cases h2 : d.length < rdmCmdPduMinSize
  · have h2' : ¬ 29 ≤ d.length := not_le.mpr h2
    simp [h1, h2, h2']
  have h2' : 29 ≤ d.length := not_lt.mp h2
  by_cases h3 : pal.acnPduLength d > s.block.blockSize ∨ pal.acnPduLength d > rdmCmdPduMaxSize
  · simp only [h1, h2, h3, not_true_eq_false, if_false, if_true, Option.some.injEq,
      consumeBadBlock_not_stuck, false_iff]
    rintro ⟨⟨-, -, h4, h5, -⟩, -⟩
    omega
  obtain ⟨h4, h5⟩ := not_or.mp h3
  by_cases h6 : d.length < pal.acnPduLength d
  · simp only [h1, h2, h3, h6, not_true_eq_false, if_false, if_true, Option.some.injEq, reduceCtorEq, false_iff]
    rintro ⟨⟨-, -, -, -, h7⟩, -⟩
    omega
  simp only [h1, h2, h3, h6, h2', not_true_eq_false, if_false, true_and, not_lt.mp h4, not_lt.mp h5, not_lt.mp h6]
  cases m.1.items.isFreed
  · cases m.2.alloc.1
    · simp only [Bool.false_eq_true, if_false, false_and, or_self]
      split_ifs <;> simp
    · by_cases h7 : pal.acnPduLength d < 3
      · simp [h7]
      · simp only [Bool.false_eq_true, if_true, h7, if_false, and_false, or_false]
        split_ifs <;> simp
  · simp

/-- The part of `parse_rdm_list` behind the header gets to a command that it cannot add. -/
def RdmDataStops (pal : EtcPal) (s : RdmListState) (m : MsgList RdmBuffer × Heap) (d : Bytes) :
    Prop :=
  s.block.consumingBadBlock = false ∧
    ∃ s' m' d', (rdmListRound pal).Gets s m d s' m' d' ∧ s'.Breaks pal m' d'

theorem rdmListData_stuck_iff {s : RdmListState} {m : MsgList RdmBuffer × Heap} :
    (rdmListData pal s m d).res = .stuck ↔ RdmDataStops pal s m d := by
  simp only [rdmListData, RdmDataStops]
  cases s.block.consumingBadBlock
  · simp only [Bool.false_eq_true, if_false, true_and]
    rw [iterate_res_iff rdmListRound_decreases]
    simp only [rdmListRound_stuck_iff]
  · simp [consumeBadBlock_not_stuck]

def RdmListStops (pal : EtcPal) (s : RdmListState) (m : MsgList RdmBuffer × Heap) (d : Bytes) :
    Prop :=
  if s.parsedRequestNotifHeader then RdmDataStops pal s m d
  else (requestNotifPduHeaderSize ≤ d.length ∧ pal.acnPduLength d = s.block.blockSize ∧
      (u32At d 3 = vectorRequestRdmCmd ∨ u32At d 3 = vectorNotificationRdmCmd)) ∧
    RdmDataStops pal
      { s with
        parsedRequestNotifHeader := true
        block.blockSize := sizeSub s.block.blockSize requestNotifPduHeaderSize }
      m (d.drop requestNotifPduHeaderSize)

theorem parseRdmList_stuck_iff {s : RdmListState} {m : MsgList RdmBuffer × Heap} :
    (parseRdmList pal s m d).res = .stuck ↔ RdmListStops pal s m d := by
  simp only [parseRdmList, RdmListStops]
  split_ifs with h1 h2 h3
  · exact rdmListData_stuck_iff
  · have h2' : ¬ 7 ≤ d.length := not_le.mpr h2
    simp [h2']
  · rw [since_res, rdmListData_stuck_iff]
    exact ⟨fun h => ⟨⟨not_lt.mp h2, h3⟩, h⟩, fun h => h.2⟩
  · simp only [consumeBadBlock_not_stuck, false_iff]
    exact fun h => h3 h.1.2

theorem parseRptStatus_not_stuck (s : Pdu Unit) (m : RptStatusMsg × Heap) (d : Bytes) :
    (parseRptStatus pal s m d).res ≠ .stuck := by
  have hw : ((statusLayer pal).start s m d).res ≠ .stuck := by
    rcases (statusLayer pal).start_whole s m d with h | h | h <;> rw [h] <;> simp
  simp only [parseRptStatus]
  generalize (statusLayer pal).start s m d = o at hw
  split_ifs
  swap
  · exact hw
  simp only [statusData]
  cases StatusKind.ofCode o.msg.1.statusCode <;> simp only
  · split_ifs
    · simp
    · exact consumeBadBlock_not_stuck _ _
  · split_ifs
    · simp
    · exact consumeBadBlock_not_stuck _ _
    · simp
    · simp
    · exact hw
  · exact consumeBadBlock_not_stuck _ _

/-! ### Layers -/

def Layer.Stops {χ μ : Type} (L : Layer χ μ) (B : χ → μ → Bytes → Prop) (s : Pdu χ) (m : μ)
    (d : Bytes) : Prop :=
  (L.start s m d).st.block.parsedHeader = true ∧
    B (L.start s m d).st.data (L.start s m d).msg (d.drop (L.start s m d).used)

theorem checkForFullParse_stuck_iff {r : ParseRes} {b : PduBlockState} :
    (checkForFullParse r b).1 = .stuck ↔ r = .stuck := by
  cases r <;> simp only [checkForFullParse] <;> (try split_ifs) <;> simp

theorem Layer.parse_stuck {χ μ : Type} [Inhabited χ] (L : Layer χ μ) (s : Pdu χ) (m : μ) (d : Bytes) :
    ((L.parse s m d).res = .stuck ↔ L.Stops (fun x m d => (L.body x m d).res = .stuck) s m d) ∧
    ((L.parse s m d).res = .stuck → (L.parse s m d).used = 0) := by
  have hw : (L.start s m d).res ≠ .stuck := by
    rcases L.start_whole s m d with h | h | h <;> rw [h] <;> simp
  simp only [parse, Stops]
  generalize L.start s m d = o at hw
  simp only [finish]
  by_cases hp : o.st.block.parsedHeader = true
  swap
  · simp [hp, hw]
  simp only [hp, if_true, true_and]
  generalize L.body o.st.data o.msg (d.drop o.used) = c
  by_cases h1 : c.res = .stuck
  · simp [h1]
  simp only [h1, if_false, iff_false]
  by_cases h2 : c.used ≤ d.length - o.used ∧ o.st.block.sizeParsed + c.used ≤ o.st.block.blockSize
  swap
  · simp [h2]
  have hres : (if c.res = .unassigned then o.res else c.res) ≠ .stuck := by
    split_ifs
    · exact hw
    · exact h1
  rw [if_pos h2, checkForFullParse_stuck_iff]
  exact ⟨hres, fun h => absurd h hres⟩

theorem Layer.parse_stuck_iff {χ μ : Type} [Inhabited χ] {L : Layer χ μ}
    {B : χ → μ → Bytes → Prop} (hB : ∀ s m d, (L.body s m d).res = .stuck ↔ B s m d) {s : Pdu χ}
    {m : μ} : (L.parse s m d).res = .stuck ↔ L.Stops B s m d := by
  rw [(L.parse_stuck s m d).1]
  simp only [Stops, hB]

def BrokerDataStops (pal : EtcPal) (s : BrokerData) (m : BrokerMessage × Heap) (d : Bytes) : Prop :=
  match BrokerKind.ofVector m.1.vector with
  | .connectedClientList | .clientAdd | .clientRemove | .clientEntryChange =>
    ClientListStops pal s.clientList (m.1.clientList, m.2) d
  | .requestDynamicUids => m.1.dynamicUidRequestList.Stops dynamicUidRequestPairSize d
  | .assignedDynamicUids => m.1.dynamicUidAssignmentList.Stops dynamicUidMappingSize d
  | .fetchDynamicUidList => m.1.fetchUidAssignmentList.Stops fetchUidSize d
  | _ => False

theorem brokerDataParser_stuck_iff (s : BrokerData) (m : BrokerMessage × Heap) (d : Bytes) :
    ((brokerLayer pal).body s m d).res = .stuck ↔ BrokerDataStops pal s m d := by
  have hfix : ∀ n (read : Bytes → BrokerMessage × Heap → BrokerMessage × Heap),
      (fixedData n read s m d).res = .stuck ↔ False := by
    intro n read
    simp only [fixedData]
    split_ifs <;> simp
  have hentry : ∀ {μ : Type} (setProtocol : UInt32 → μ → μ)
      (modifyEntry : (RptClientEntry → RptClientEntry) → μ → μ) n (common : Bytes → μ → μ) s m d,
      (parseCommonAndEntry pal setProtocol modifyEntry n common s m d).res = .stuck ↔ False := by
    intro μ setProtocol modifyEntry n common s m d
    have hw : ∀ s m d, (parseSingleClientEntry pal setProtocol modifyEntry s m d).res ≠ .stuck := by
      intro s m d
      rcases @parseSingleClientEntry_whole pal μ setProtocol modifyEntry s m d with h | h | h <;>
        rw [h] <;> simp
    simp only [parseCommonAndEntry, afterEntry]
    split_ifs <;> simp [hw]
  simp only [brokerLayer, BrokerDataStops]
  cases BrokerKind.ofVector m.1.vector <;> simp only [brokerDataParser, zoom]
  case connect | clientEntryUpdate => exact hentry _ _ _ _ _ _ _
  case connectedClientList | clientAdd | clientRemove | clientEntryChange => exact parseClientList_stuck_iff
  case requestDynamicUids | assignedDynamicUids | fetchDynamicUidList =>
    exact parseGenericList_stuck_iff (by decide)
  case unknown => simp [skip, consumeBadBlock_not_stuck]
  all_goals exact hfix _ _

def RptDataStops (pal : EtcPal) (s : RptData) (m : RptMessage × Heap) (d : Bytes) : Prop :=
  match RptKind.ofVector m.1.vector with
  | .request | .notification => RdmListStops pal s.rdmList (m.1.rdm, m.2) d
  | _ => False

theorem rptDataParser_stuck_iff (s : RptData) (m : RptMessage × Heap) (d : Bytes) :
    ((rptLayer pal).body s m d).res = .stuck ↔ RptDataStops pal s m d := by
  simp only [rptLayer, RptDataStops]
  cases RptKind.ofVector m.1.vector <;> simp only [rptDataParser, zoom]
  · exact parseRdmList_stuck_iff
  · exact iff_false_intro (parseRptStatus_not_stuck _ _ _)
  · exact parseRdmList_stuck_iff
  · simp [skip, consumeBadBlock_not_stuck]

def RlpDataStops (pal : EtcPal) (s : RlpData) (m : RdmnetMessage × Heap) (d : Bytes) : Prop :=
  match RootKind.ofVector m.1.vector with
  | .broker => (brokerLayer pal).Stops (BrokerDataStops pal) s.broker (m.1.broker, m.2) d
  | .rpt => (rptLayer pal).Stops (RptDataStops pal) s.rpt (m.1.rpt, m.2) d
  | .unknown => False

theorem rlpDataParser_stuck_iff (s : RlpData) (m : RdmnetMessage × Heap) (d : Bytes) :
    ((rlpLayer pal).body s m d).res = .stuck ↔ RlpDataStops pal s m d := by
  simp only [rlpLayer, RlpDataStops]
  cases RootKind.ofVector m.1.vector <;> simp only [rlpDataParser, zoom]
  · exact parse_stuck_iff brokerDataParser_stuck_iff
  · exact parse_stuck_iff rptDataParser_stuck_iff
  · simp [skip, consumeBadBlock_not_stuck]

/-! ### The message buffer -/

def RoundStops (pal : EtcPal) (s : RCMsgBuf) (m : RdmnetMessage × Heap) (b : Bytes) : Prop :=
  if s.havePreamble then (rlpLayer pal).Stops (RlpDataStops pal) s.rlpState m b
  else ∃ i n, findTcpPreamble pal b = some (i, n) ∧ n ≠ 0 ∧
    (rlpLayer pal).Stops (RlpDataStops pal) ⟨.start n, default⟩ m (b.drop (i + acnTcpPreambleSize))

theorem parseDataBlock_stuck_iff {s : RCMsgBuf} {m : RdmnetMessage × Heap} :
    (parseDataBlock pal s m d).res = some .stuck ↔ (rlpLayer pal).Stops (RlpDataStops pal) s.rlpState m d := by
  rw [← parse_stuck_iff rlpDataParser_stuck_iff]
  have hused : (parseRlpBlock pal s.rlpState m d).res = .stuck →
      (parseRlpBlock pal s.rlpState m d).used = 0 := (parse_stuck _ _ _ _).2
  show _ ↔ (parseRlpBlock pal s.rlpState m d).res = .stuck
  simp only [parseDataBlock]
  generalize parseRlpBlock pal s.rlpState m d = o at hused
  by_cases hle : o.used ≤ d.length
  · rw [if_pos hle]
    cases o.res <;> simp [blockResult]
  · rw [if_neg hle]
    simp only [Option.some.injEq, reduceCtorEq, false_iff]
    intro h
    have := hused h
    omega

theorem parseDataRound_stuck_iff {s : RCMsgBuf} {m : RdmnetMessage × Heap} {b : Bytes} :
    (parseDataRound pal s m b).res = some .stuck ↔ RoundStops pal s m b := by
  unfold RoundStops
  cases hs : s.havePreamble with
  | true =>
    rw [parseDataRound_block hs, parseDataBlock_stuck_iff]
    simp
  | false =>
    simp only [Bool.false_eq_true, if_false]
    cases hf : findTcpPreamble pal b with
    | none => simp [parseDataRound_none hs hf]
    | some r =>
      obtain ⟨i, n⟩ := r
      by_cases hn : n = 0
      · subst hn
        simp [parseDataRound_zero hs hf]
      · rw [parseDataRound_preamble hs hf hn, since_res, parseDataBlock_stuck_iff]
        refine ⟨fun h => ⟨i, n, rfl, hn, h⟩, ?_⟩
        rintro ⟨i', n', heq, -, h⟩
        cases heq
        exact h

/-- **Parsing returns**, from whatever state, on whatever bytes and whatever the allocations do,
exactly if none of its rounds gets to a list that it cannot go on with. -/
theorem parse_returns_iff (s : RCMsgBuf) (m : RdmnetMessage × Heap) (b : Bytes) :
    (rcMsgBufParseData pal s m b).res ≠ .stuck ↔
      ∀ s' m' b', (parseDataRound pal).Gets s m b s' m' b' → ¬ RoundStops pal s' m' b' := by
  rw [ne_eq, rcMsgBufParseData, iterate_res_iff parseDataRound_decreases]
  simp only [parseDataRound_stuck_iff, not_exists, not_and]

def sampleTwoClients : Bytes :=
  let entry : Bytes := [0xf0, 0, 46, 0, 0, 0, 5] ++ List.replicate 39 1
  sampleFrame 9 120 ++ [0xf0, 0, 97, 0, 7] ++ entry ++ entry

/-- The array of one entry cannot be made longer: the loop does not end. -/
theorem parse_endless_twoClients :
    let heap : Heap := ⟨[true], false⟩
    Reaches EtcPal.reference (fun _ => True) heap rcMsgBufInit (default, heap) sampleTwoClients ∧
    (rcMsgBufParseData EtcPal.reference rcMsgBufInit (default, heap) sampleTwoClients).res = .stuck ∧
    (∃ s m d, (rptClientListRound EtcPal.reference 92).Gets ⟨.start 92, default⟩
        (⟨.null, false⟩, heap) (sampleTwoClients.drop 44) s m d ∧ s.Starves m d) := by
  intro heap
  refine ⟨Reaches.first default (by decide +kernel), by decide +kernel, ?_⟩
  refine ⟨_, _, _, .again (by decide +kernel) .refl, ⟨?_, ?_, ?_, ?_⟩, ?_, ?_⟩
  all_goals decide +kernel

end RDMnet
