import RDMnet.MsgBuf.Parse

/-!
# Progress of the message buffer

`rc_msg_buf_parse_data` goes round again after every protocol error.  It does not do so for ever:
such a round takes bytes, or it ends a PDU whose header an earlier call had accepted.  For this the
results of the parse functions are followed from the data of a PDU up through the layers.
-/

namespace RDMnet

open List HeaderRes

/-! ### The data of a PDU -/

/-- The results of a function that parses one block and never stops in the middle of it. -/
def ParseRes.Whole (r : ParseRes) : Prop :=
  r = .noData ∨ r = .fullBlockParseOk ∨ r = .fullBlockProtErr

theorem consumeBadBlock_whole (b : PduBlockState) (n : Nat) : (consumeBadBlock b n).2.2.Whole := by
  simp only [consumeBadBlock]
  split_ifs <;> simp [ParseRes.Whole]

@[simp] theorem consumeBadBlock_parsedHeader (b : PduBlockState) (n : Nat) :
    (consumeBadBlock b n).1.parsedHeader = b.parsedHeader := by
  simp only [consumeBadBlock]
  split_ifs <;> rfl

/-- The data of a PDU is never found bad in part, and handed out in part only when memory ran
out. -/
def ParseRes.OfData (r : ParseRes) (log : List Event) : Prop :=
  r ≠ .partialBlockProtErr ∧ (r = .partialBlockParseOk → .alloc false ∈ log)

theorem ParseRes.Whole.ofData {r : ParseRes} (h : r.Whole) (log : List Event) : r.OfData log := by
  rcases h with rfl | rfl | rfl <;> simp [ParseRes.OfData]

theorem ParseRes.OfData.append {r : ParseRes} {l : List Event} (l' : List Event)
    (h : r.OfData l) : r.OfData (l' ++ l) :=
  ⟨h.1, fun hr => mem_append_right _ (h.2 hr)⟩

variable {μ : Type}

theorem skip_ofData (s : PduBlockState) (m : μ) (d : Bytes) : (skip s m d).res.OfData (skip s m d).log :=
  (consumeBadBlock_whole _ _).ofData _

variable {σ : Type}

theorem fixedData_ofData (size : Nat) (read : Bytes → μ → μ) (s : σ) (m : μ)
    (d : Bytes) : (fixedData size read s m d).res.OfData (fixedData size read s m d).log := by
  simp only [fixedData]
  split_ifs <;> simp [ParseRes.OfData]

theorem parseGenericList_ofData {α : Type} (size : Nat) (unpack : Bytes → α)
    (s : GenericListState) (m : MsgList α × Heap) (d : Bytes) :
    (parseGenericList size unpack s m d).res.OfData (parseGenericList size unpack s m d).log := by
  refine Parser.iterate_ends (Q := fun o : Out _ _ ParseRes Event => o.res.OfData o.log) ?_
    (fun _ _ lg h => h.append lg) (by simp [ParseRes.OfData]) s m d
  intro s m d r hr
  simp only [genericListRound] at hr ⊢
  split_ifs at hr ⊢ <;> cases hr <;> simp [ParseRes.OfData]

section Entry

variable {pal : EtcPal} {μ : Type} {setProtocol : UInt32 → μ → μ}
  {modifyEntry : (RptClientEntry → RptClientEntry) → μ → μ}

theorem parseSingleClientEntry_whole (s : ClientEntryState) (m : μ) (d : Bytes) :
    (parseSingleClientEntry pal setProtocol modifyEntry s m d).res.Whole := by
  have hh : (clientEntryHeader pal modifyEntry s m d).res.Whole := by
    simp only [clientEntryHeader]
    split_ifs
    · exact consumeBadBlock_whole _ _
    · exact .inl rfl
    · exact .inl rfl
  simp only [parseSingleClientEntry, clientEntryData]
  split_ifs
  · exact hh
  · exact consumeBadBlock_whole _ _
  · exact consumeBadBlock_whole _ _
  · exact .inr (.inl rfl)
  · exact hh
  · exact consumeBadBlock_whole _ _
  · exact consumeBadBlock_whole _ _

theorem parseCommonAndEntry_ofData (n : Nat) (common : Bytes → μ → μ) (s : ClientConnectState)
    (m : μ) (d : Bytes) : (parseCommonAndEntry pal setProtocol modifyEntry n common s m d).res.OfData
      (parseCommonAndEntry pal setProtocol modifyEntry n common s m d).log := by
  simp only [parseCommonAndEntry, afterEntry]
  split_ifs
  all_goals first
    | exact (parseSingleClientEntry_whole _ _ _).ofData _
    | simp [ParseRes.OfData]

end Entry

section Lists

variable {pal : EtcPal}

theorem rptClientListEntry_ofData {s : ClientListState} {m : MsgList RptClientEntry × Heap}
    {d : Bytes} {r : ParseRes} (h : (rptClientListEntry pal s m d).res = some r)
    (log : List Event) : r.OfData log := by
  have hw : (parseLastClientEntry pal s.entry m d).res.Whole := parseSingleClientEntry_whole _ _ _
  simp only [rptClientListEntry] at h
  generalize parseLastClientEntry pal s.entry m d = c at h hw
  by_cases hc : c.used ≤ d.length ∧ s.block.sizeParsed + c.used ≤ s.block.blockSize
  · rw [if_pos hc, rptClientListNext] at h
    rcases hw with hw | hw | hw <;> simp only [hw] at h
    · cases h
      simp [ParseRes.OfData]
    · split_ifs at h
      cases h
      simp [ParseRes.OfData]
    · cases h
      exact (consumeBadBlock_whole _ _).ofData _
  · rw [if_neg hc] at h
    cases h
    simp [ParseRes.OfData]

theorem rptClientListRound_ofData (total : Nat) (s : ClientListState)
    (m : MsgList RptClientEntry × Heap) (d : Bytes) (r : ParseRes)
    (h : (rptClientListRound pal total s m d).res = some r) :
    r.OfData (rptClientListRound pal total s m d).log := by
  simp only [rptClientListRound] at h ⊢
  split_ifs at h ⊢
  all_goals first
    | exact rptClientListEntry_ofData h _
    | (cases h; exact (consumeBadBlock_whole _ _).ofData _)
    | (cases h; simp [ParseRes.OfData])

theorem parseRptClientList_ofData (s : ClientListState) (m : MsgList RptClientEntry × Heap)
    (d : Bytes) : (parseRptClientList pal s m d).res.OfData (parseRptClientList pal s m d).log := by
  have h : ((rptClientListRound pal d.length).iterate
      (fun _ m d => d.length + m.2.script.length) .stuck s m d).res.OfData
      ((rptClientListRound pal d.length).iterate
        (fun _ m d => d.length + m.2.script.length) .stuck s m d).log :=
    Parser.iterate_ends (Q := fun o : Out _ _ ParseRes Event => o.res.OfData o.log)
      (rptClientListRound_ofData d.length) (fun _ _ lg h => h.append lg) (by simp [ParseRes.OfData]) s m d
  simp only [parseRptClientList]
  split_ifs <;> exact h

theorem parseClientList_ofData (s : ClientListState) (m : BrokerClientList × Heap) (d : Bytes) :
    (parseClientList pal s m d).res.OfData (parseClientList pal s m d).log := by
  simp only [parseClientList]
  split_ifs
  all_goals first
    | exact (consumeBadBlock_whole _ _).ofData _
    | exact (parseRptClientList_ofData _ _ _).append _
    | simp [ParseRes.OfData]

theorem rdmListData_ofData (s : RdmListState) (m : MsgList RdmBuffer × Heap) (d : Bytes) :
    (rdmListData pal s m d).res.OfData (rdmListData pal s m d).log := by
  simp only [rdmListData]
  split_ifs
  · exact (consumeBadBlock_whole _ _).ofData _
  refine Parser.iterate_ends (Q := fun o : Out _ _ ParseRes Event => o.res.OfData o.log) ?_
    (fun _ _ lg h => h.append lg) (by simp [ParseRes.OfData]) s m d
  intro s m d r hr
  simp only [rdmListRound] at hr ⊢
  split_ifs at hr ⊢
  all_goals cases hr
  all_goals first
    | exact (consumeBadBlock_whole _ _).ofData _
    | simp [ParseRes.OfData]

theorem parseRdmList_ofData (s : RdmListState) (m : MsgList RdmBuffer × Heap) (d : Bytes) :
    (parseRdmList pal s m d).res.OfData (parseRdmList pal s m d).log := by
  simp only [parseRdmList]
  split_ifs
  · exact rdmListData_ofData _ _ _
  · simp [ParseRes.OfData]
  · exact (rdmListData_ofData _ _ _).append _
  · exact (consumeBadBlock_whole _ _).ofData _

theorem Layer.start_whole {χ μ : Type} (L : Layer χ μ) (s : Pdu χ) (m : μ) (d : Bytes) :
    (L.start s m d).res.Whole := by
  simp only [Layer.start]
  split_ifs
  · exact consumeBadBlock_whole _ _
  · exact .inl rfl
  · exact consumeBadBlock_whole _ _
  · cases h : L.header s.block m d with
    | mk r lg => cases r with
      | accept => exact .inl rfl
      | reject => exact consumeBadBlock_whole _ _
  · exact .inl rfl

theorem parseRptStatus_ofData (s : Pdu Unit) (m : RptStatusMsg × Heap) (d : Bytes) :
    (parseRptStatus pal s m d).res.OfData (parseRptStatus pal s m d).log := by
  have hstart := (statusLayer pal).start_whole s m d
  simp only [parseRptStatus]
  split_ifs
  swap
  · exact hstart.ofData _
  simp only [statusData]
  cases StatusKind.ofCode ((statusLayer pal).start s m d).msg.1.statusCode with
  | bare =>
    simp only
    split_ifs
    · simp [ParseRes.OfData]
    · exact (consumeBadBlock_whole _ _).ofData _
  | withString =>
    simp only
    split_ifs
    · simp [ParseRes.OfData]
    · exact (consumeBadBlock_whole _ _).ofData _
    · simp [ParseRes.OfData]
    · simp [ParseRes.OfData]
    · exact hstart.ofData _
  | unknown => exact (consumeBadBlock_whole _ _).ofData _

end Lists

/-! ### Layers -/

/-- A part of a block is bad, or is handed out although memory did not run out. -/
def PartDone {σ μ : Type} (o : Out σ μ ParseRes Event) : Prop :=
  o.res = .partialBlockProtErr ∨ o.res = .partialBlockParseOk ∧ .alloc false ∉ o.log

/-- A call that is done with a part of a block takes bytes, or lowers the rank of the state. -/
def Progresses {σ μ : Type} (rank : σ → Nat) (p : ParseFn σ μ) : Prop :=
  ∀ s m d, PartDone (p s m d) → 0 < (p s m d).used ∨ rank (p s m d).st < rank s

/-- A part of a message is handed out in a state of kind `K`, unless memory ran out. -/
def HandsOut {σ μ : Type} (K : σ → μ → Prop) (p : ParseFn σ μ) : Prop :=
  ∀ s m d, (p s m d).res = .partialBlockParseOk →
    .alloc false ∈ (p s m d).log ∨ K (p s m d).st (p s m d).msg

theorem progresses_ofData {p : ParseFn σ μ}
    (h : ∀ s m d, (p s m d).res.OfData (p s m d).log) (rank : σ → Nat) : Progresses rank p :=
  fun s m d hr => by
    rcases hr with hr | ⟨hr, hlog⟩
    · exact absurd hr (h s m d).1
    · exact absurd ((h s m d).2 hr) hlog

theorem handsOut_ofData {p : ParseFn σ μ}
    (h : ∀ s m d, (p s m d).res.OfData (p s m d).log) (K : σ → μ → Prop) : HandsOut K p :=
  fun s m d hr => .inl ((h s m d).2 hr)

namespace Layer

variable {χ μ : Type} [Inhabited χ] {L : Layer χ μ}

def rank (r : χ → Nat) (s : Pdu χ) : Nat := (if s.block.parsedHeader then 1 else 0) + r s.data

omit [Inhabited χ] in
theorem start_parsed {s : Pdu χ} {m : μ} {d : Bytes} (h : (L.start s m d).st.block.parsedHeader = true) :
    L.headerSize ≤ (L.start s m d).used ∨ s.block.parsedHeader = true ∧ (L.start s m d).st.data = s.data := by
  simp only [start] at h ⊢
  split_ifs at h ⊢ with h1 h2 h3 h4
  · exact .inr ⟨by simpa [PduBlockState.advance] using h, rfl⟩
  · exact .inr ⟨h2, rfl⟩
  · exact .inr ⟨by simpa [PduBlockState.advance] using h, rfl⟩
  · cases hh : L.header s.block m d with
    | mk r lg => cases r with
      | accept => exact .inl le_rfl
      | reject =>
        simp only [hh] at h ⊢
        exact .inr ⟨by simpa [PduBlockState.advance] using h, trivial⟩
  · exact .inr ⟨h, rfl⟩

theorem parse_partial {s : Pdu χ} {m : μ} {d : Bytes} {c : Out χ μ ParseRes Event}
    (hc : c = L.body (L.start s m d).st.data (L.start s m d).msg (d.drop (L.start s m d).used))
    (hres : (L.parse s m d).res = .partialBlockProtErr ∨ (L.parse s m d).res = .partialBlockParseOk) :
    (L.start s m d).st.block.parsedHeader = true ∧ (L.parse s m d).used = (L.start s m d).used + c.used ∧
    (∀ x ∈ c.log, x ∈ (L.parse s m d).log) ∧ (L.parse s m d).msg = c.msg ∧
    ((L.parse s m d).st.block.parsedHeader = false ∧ (L.parse s m d).st.data = default ∨
      (L.parse s m d).st.block.parsedHeader = true ∧ (L.parse s m d).st.data = c.st ∧
        (L.parse s m d).res = c.res) := by
  have hw := L.start_whole s m d
  simp only [parse] at hres ⊢
  generalize L.start s m d = o at *
  simp only [finish] at hres ⊢
  by_cases hp : o.st.block.parsedHeader = true
  swap
  · rw [if_neg hp] at hres
    rcases hw with hw | hw | hw <;> simp [hw] at hres
  rw [if_pos hp, ← hc] at hres ⊢
  by_cases h1 : c.res = .stuck
  · rw [if_pos h1] at hres
    simp at hres
  rw [if_neg h1] at hres ⊢
  by_cases h2 : c.used ≤ d.length - o.used ∧
      o.st.block.sizeParsed + c.used ≤ o.st.block.blockSize
  swap
  · rw [if_neg h2] at hres
    simp at hres
  rw [if_pos h2] at hres ⊢
  refine ⟨hp, rfl, fun x hx => by simp [hx], rfl, ?_⟩
  by_cases h3 : c.res = .unassigned
  · rw [if_pos h3] at hres ⊢
    rcases hw with hw | hw | hw <;> rw [hw] at hres ⊢ <;> simp [checkForFullParse] at hres ⊢
  · rw [if_neg h3] at hres ⊢
    cases hr : c.res <;>
      simp_all [checkForFullParse, PduBlockState.advance]

theorem parse_progresses {r : χ → Nat} (hr : r default = 0) (hL : 0 < L.headerSize)
    (hbody : Progresses r L.body) : Progresses (rank r) L.parse := by
  intro s m d hdone
  obtain ⟨hp, hu, hlog, -, hst⟩ := parse_partial rfl (hdone.imp_right And.left)
  by_cases hpos : 0 < (L.parse s m d).used
  · exact .inl hpos
  -- no byte was taken: the header was accepted before
  rcases start_parsed hp with h | ⟨hs, hdata⟩
  · omega
  right
  simp only [rank, hs, if_true]
  rcases hst with ⟨h1, h2⟩ | ⟨h1, h2, h3⟩
  · simp only [h1, h2, hr, Bool.false_eq_true, if_false]
    omega
  · have hpart : PartDone (L.body (L.start s m d).st.data (L.start s m d).msg
        (d.drop (L.start s m d).used)) :=
      hdone.imp h3.symm.trans fun h => ⟨h3.symm.trans h.1, fun hx => h.2 (hlog _ hx)⟩
    rcases hbody _ _ _ hpart with h | h
    · omega
    · rw [hdata] at h
      simp only [h1, h2, if_true, hdata]
      omega

theorem parse_handsOut {K : χ → μ → Prop} (hbody : HandsOut K L.body) :
    HandsOut (fun s m => s.block.parsedHeader = true → K s.data m) L.parse := by
  intro s m d hres
  obtain ⟨-, -, hlog, hmsg, hst⟩ := parse_partial rfl (.inr hres)
  rcases hst with ⟨h1, -⟩ | ⟨-, h2, h3⟩
  · exact .inr fun h => by simp [h1] at h
  · rcases hbody _ _ _ (h3.symm.trans hres) with h | h
    · exact .inl (hlog _ h)
    · exact .inr fun _ => by rw [h2, hmsg]; exact h

end Layer

/-! ### Headers -/

section Headers

variable {pal : EtcPal} {b : PduBlockState} {d : Bytes} {n : Nat} {lg : List Event}

/-- The header begins with the length of its PDU; `init` reads what follows it, for the data that is left. -/
def Layer.Sized {χ μ : Type} (L : Layer χ (μ × Heap)) (pal : EtcPal) (init : μ → Bytes → Nat → χ × μ) :
    Prop :=
  ∀ b m d, L.header b m d =
    (if L.headerSize ≤ pal.acnPduLength d ∧ b.sizeParsed + pal.acnPduLength d ≤ b.blockSize then
      .accept (init m.1 d (pal.acnPduLength d - L.headerSize)).1
        ((init m.1 d (pal.acnPduLength d - L.headerSize)).2, m.2)
    else .reject 0, [.pduHeader (pal.acnPduLength d) b.room])

theorem brokerLayer_sized (pal : EtcPal) : (brokerLayer pal).Sized pal fun m d n =>
    initializeBrokerMessage { m with vector := u16At d 3 } n := by
  intro b m d
  by_cases h : brokerPduHeaderSize ≤ pal.acnPduLength d ∧ b.sizeParsed + pal.acnPduLength d ≤ b.blockSize
  · exact (if_pos h).trans (congrArg (·, _) (if_pos h).symm)
  · exact (if_neg h).trans (congrArg (·, _) (if_neg h).symm)

theorem rptLayer_sized (pal : EtcPal) : (rptLayer pal).Sized pal fun m d n =>
    initializeRptMessage { m with vector := u32At d 3, header := unpackRptHeader d } n := by
  intro b m d
  by_cases h : rptPduHeaderSize ≤ pal.acnPduLength d ∧ b.sizeParsed + pal.acnPduLength d ≤ b.blockSize
  · exact (if_pos h).trans (congrArg (·, _) (if_pos h).symm)
  · exact (if_neg h).trans (congrArg (·, _) (if_neg h).symm)

namespace Layer.Sized

variable {χ μ : Type} {L : Layer χ (μ × Heap)} {init : μ → Bytes → Nat → χ × μ}
  (hL : L.Sized pal init) {m m' : μ × Heap}

include hL

theorem accept {x : χ} (h : L.header b m d = (.accept x m', lg)) :
    L.headerSize ≤ pal.acnPduLength d ∧ b.sizeParsed + pal.acnPduLength d ≤ b.blockSize ∧
    (x, m'.1) = init m.1 d (pal.acnPduLength d - L.headerSize) ∧ m'.2 = m.2 := by
  rw [hL] at h
  split_ifs at h with hif
  · simp only [Prod.mk.injEq, accept.injEq] at h
    obtain ⟨⟨rfl, rfl⟩, -⟩ := h
    exact ⟨hif.1, hif.2, rfl, rfl⟩
  · simp at h

theorem reject (h : L.header b m d = (.reject n, lg)) : n = 0 := by
  rw [hL] at h
  split_ifs at h
  · simp at h
  · simp only [Prod.mk.injEq, reject.injEq] at h
    exact h.1.symm

theorem start {k : Nat} (hlen : pal.acnPduLength d = L.headerSize + k) :
    L.header (.start (L.headerSize + k)) m d = (.accept (init m.1 d k).1 ((init m.1 d k).2, m.2),
      [.pduHeader (L.headerSize + k) (PduBlockState.start (L.headerSize + k)).room]) := by
  rw [hL, hlen, Nat.add_sub_cancel_left]
  exact congrArg (·, _) (if_pos ⟨Nat.le_add_right _ _, le_of_eq (Nat.zero_add _)⟩)

end Layer.Sized

theorem rlpHeader_accept {m m' : RdmnetMessage × Heap} {x : RlpData}
    (h : rlpHeader pal b m d = (.accept x m', lg)) : ∃ rlp, pal.acnParseRootLayerHeader d = some rlp ∧
      b.sizeParsed + acnRlpHeaderSizeExtLen + rlp.dataLen ≤ b.blockSize ∧
      x = initializeRdmnetMessage rlp.vector rlp.dataLen ∧
      m' = ({ m.1 with vector := rlp.vector, senderCid := rlp.senderCid }, m.2) := by
  simp only [rlpHeader] at h
  cases hp : pal.acnParseRootLayerHeader d with
  | none => simp [hp] at h
  | some rlp =>
    simp only [hp] at h
    split_ifs at h with hif
    · simp only [Prod.mk.injEq, accept.injEq] at h
      obtain ⟨⟨rfl, rfl⟩, -⟩ := h
      exact ⟨rlp, rfl, hif, rfl, rfl⟩
    · simp at h

/-- A root layer header that is counted although it is rejected. -/
theorem rlpHeader_reject {m : RdmnetMessage × Heap} (h : rlpHeader pal b m d = (.reject n, lg)) :
    n = 0 ∨ n = acnRlpHeaderSizeExtLen ∧ ∃ rlp, pal.acnParseRootLayerHeader d = some rlp ∧
      ¬ b.sizeParsed + acnRlpHeaderSizeExtLen + rlp.dataLen ≤ b.blockSize ∧
      .rlpHeader rlp.dataLen (b.sizeParsed + acnRlpHeaderSizeExtLen) b.blockSize
        (d.length - acnRlpHeaderSizeExtLen) ∈ lg := by
  simp only [rlpHeader] at h
  cases hp : pal.acnParseRootLayerHeader d with
  | none =>
    simp only [hp, Prod.mk.injEq, reject.injEq] at h
    exact .inl h.1.symm
  | some rlp =>
    simp only [hp] at h
    split_ifs at h with hif
    · simp at h
    · simp only [Prod.mk.injEq, reject.injEq] at h
      obtain ⟨rfl, rfl⟩ := h
      exact .inr ⟨rfl, rlp, rfl, hif, mem_singleton.mpr rfl⟩

end Headers

/-! ### The message buffer -/

section Buffer

variable {pal : EtcPal}

theorem brokerDataParser_ofData (k : BrokerKind) (s : BrokerData) (m : BrokerMessage × Heap) (d : Bytes) :
    (brokerDataParser pal k s m d).res.OfData (brokerDataParser pal k s m d).log := by
  cases k
  case connect | clientEntryUpdate => exact parseCommonAndEntry_ofData _ _ _ _ _
  case requestDynamicUids | assignedDynamicUids | fetchDynamicUidList => exact parseGenericList_ofData _ _ _ _ _
  case unknown => exact skip_ofData _ m _
  all_goals first
    | exact fixedData_ofData _ _ _ _ _
    | exact parseClientList_ofData _ _ _

theorem rptDataParser_ofData (k : RptKind) (s : RptData) (m : RptMessage × Heap) (d : Bytes) :
    (rptDataParser pal k s m d).res.OfData (rptDataParser pal k s m d).log := by
  cases k with
  | request | notification => exact parseRdmList_ofData _ _ _
  | status => exact parseRptStatus_ofData _ _ _
  | unknown => exact skip_ofData _ m _

/-! A round of `rc_msg_buf_parse_data`, case by case. -/

variable {s : RCMsgBuf} {m : RdmnetMessage × Heap} {d : Bytes}

theorem parseDataRound_block
    (hs : s.havePreamble = true) : parseDataRound pal s m d = parseDataBlock pal s m d := by
  simp [parseDataRound, hs]

theorem parseDataRound_none (hs : s.havePreamble = false) (hf : findTcpPreamble pal d = none) :
    parseDataRound pal s m d = ⟨s, m, d.length - acnTcpPreambleSize, some .noData, []⟩ := by
  simp [parseDataRound, hs, locateTcpPreamble, hf]

variable {i : Nat}

theorem parseDataRound_zero (hs : s.havePreamble = false) (hf : findTcpPreamble pal d = some (i, 0)) :
    parseDataRound pal s m d = ⟨s, m, i + acnTcpPreambleSize, some .noData, [.preamble 0]⟩ := by
  simp [parseDataRound, hs, locateTcpPreamble, hf]

theorem parseDataRound_preamble {n : Nat}
    (hs : s.havePreamble = false) (hf : findTcpPreamble pal d = some (i, n)) (hn : n ≠ 0) :
    parseDataRound pal s m d =
      (parseDataBlock pal ⟨true, ⟨.start n, default⟩⟩ m (d.drop (i + acnTcpPreambleSize))).since
        (i + acnTcpPreambleSize) [.preamble n] := by
  simp [parseDataRound, hs, locateTcpPreamble, hf, hn]

/-- When a part of a message is handed out, the PDU of the Broker or RPT layer is through. -/
def RlpData.Between (x : RlpData) : RootKind → Prop
  | .broker => x.broker.block.parsedHeader = false
  | .rpt => x.rpt.block.parsedHeader = false
  | .unknown => False

theorem rlpLayer_body_handsOut :
    HandsOut (fun x m => x.Between (.ofVector m.1.vector)) (rlpLayer pal).body := by
  have hbroker : HandsOut (fun s _ => s.block.parsedHeader = true → False) (parseBrokerBlock pal) :=
    Layer.parse_handsOut (K := fun _ _ => False)
      (handsOut_ofData (fun _ _ _ => brokerDataParser_ofData _ _ _ _) _)
  have hrpt : HandsOut (fun s _ => s.block.parsedHeader = true → False) (parseRptBlock pal) :=
    Layer.parse_handsOut (K := fun _ _ => False)
      (handsOut_ofData (fun _ _ _ => rptDataParser_ofData _ _ _ _) _)
  intro s m d hres
  simp only [rlpLayer] at hres ⊢
  cases hk : RootKind.ofVector m.1.vector with
  | broker =>
    simp only [hk] at hres ⊢
    refine (hbroker _ _ _ hres).imp_right fun h => ?_
    show RlpData.Between _ (RootKind.ofVector m.1.vector)
    rw [hk]
    exact Bool.eq_false_iff.mpr h
  | rpt =>
    simp only [hk] at hres ⊢
    refine (hrpt _ _ _ hres).imp_right fun h => ?_
    show RlpData.Between _ (RootKind.ofVector m.1.vector)
    rw [hk]
    exact Bool.eq_false_iff.mpr h
  | unknown =>
    simp only [hk] at hres
    exact .inl ((skip_ofData s.unknown m d).2 hres)

/-- What is known of the state in which `rc_msg_buf_parse_data` hands out a message. -/
def RCMsgBuf.HandedOut (s : RCMsgBuf) (m : RdmnetMessage × Heap) : Prop :=
  s.havePreamble = true → s.rlpState.block.parsedHeader = true →
    s.rlpState.data.Between (.ofVector m.1.vector)

theorem parseDataBlock_handedOut (h : (parseDataBlock pal s m d).res = some .ok) :
    .alloc false ∈ (parseDataBlock pal s m d).log ∨
      (parseDataBlock pal s m d).st.HandedOut (parseDataBlock pal s m d).msg := by
  have hout := Layer.parse_handsOut (L := rlpLayer pal) rlpLayer_body_handsOut s.rlpState m d
  simp only [parseDataBlock] at h ⊢
  by_cases hu : (parseRlpBlock pal s.rlpState m d).used ≤ d.length
  swap
  · rw [if_neg hu] at h
    simp at h
  rw [if_pos hu] at h ⊢
  cases hr : (parseRlpBlock pal s.rlpState m d).res <;> simp [blockResult, hr] at h
  · refine (hout hr).imp (fun h => mem_append_left _ (mem_append_left _ h))
      fun hb _ hp => ?_
    simp only [blockResult] at hp ⊢
    exact hb hp
  · exact .inr fun h => by simp [blockResult] at h

theorem rcMsgBufParseData_handedOut (s : RCMsgBuf) (m : RdmnetMessage × Heap) (d : Bytes)
    (h : (rcMsgBufParseData pal s m d).res = .ok) : .alloc false ∈ (rcMsgBufParseData pal s m d).log ∨
      (rcMsgBufParseData pal s m d).st.HandedOut (rcMsgBufParseData pal s m d).msg := by
  revert h
  refine Parser.iterate_ends (p := parseDataRound pal)
    (Q := fun o : Out RCMsgBuf (RdmnetMessage × Heap) MsgBufRes Event =>
      o.res = .ok → .alloc false ∈ o.log ∨ o.st.HandedOut o.msg)
    ?_ ?_ ?_ s m d
  · rintro s m d r hr rfl
    cases hs : s.havePreamble with
    | true =>
      rw [parseDataRound_block hs] at hr ⊢
      exact parseDataBlock_handedOut hr
    | false =>
      cases hf : findTcpPreamble pal d with
      | none => simp [parseDataRound_none hs hf] at hr
      | some r =>
        obtain ⟨i, n⟩ := r
        by_cases hn : n = 0
        · subst hn
          simp [parseDataRound_zero hs hf] at hr
        · rw [parseDataRound_preamble hs hf hn] at hr ⊢
          exact (parseDataBlock_handedOut hr).imp_left (mem_append_right _)
  · intro o n lg h hr
    exact (h hr).imp_left (mem_append_right _)
  · intro s m h
    cases h

def RlpData.rank (x : RlpData) : Nat :=
  Layer.rank (fun _ => 0) x.broker + Layer.rank (fun _ => 0) x.rpt

theorem rlpDataParser_progresses (k : RootKind) : Progresses RlpData.rank (rlpDataParser pal k) := by
  have hbroker : Progresses (Layer.rank fun _ => 0) (parseBrokerBlock pal) :=
    Layer.parse_progresses rfl (Nat.succ_pos _)
      (progresses_ofData (fun _ _ _ => brokerDataParser_ofData _ _ _ _) _)
  have hrpt : Progresses (Layer.rank fun _ => 0) (parseRptBlock pal) :=
    Layer.parse_progresses rfl (Nat.succ_pos _)
      (progresses_ofData (fun _ _ _ => rptDataParser_ofData _ _ _ _) _)
  intro s m d hres
  cases k with
  | broker => exact (hbroker _ _ _ hres).imp_right (Nat.add_lt_add_right · _)
  | rpt => exact (hrpt _ _ _ hres).imp_right (Nat.add_lt_add_left · _)
  | unknown =>
    exact (progresses_ofData skip_ofData (fun _ => 0) s.unknown m d hres).imp_right fun h =>
      absurd h (Nat.lt_irrefl _)

theorem parseRlpBlock_progresses : Progresses (Layer.rank RlpData.rank) (parseRlpBlock pal) :=
  Layer.parse_progresses rfl (Nat.succ_pos _) fun s m d => rlpDataParser_progresses _ s m d

theorem RCMsgBuf.measure_eq (s : RCMsgBuf) (d : Bytes) :
    s.measure d = 8 * d.length + (if s.havePreamble then 4 else 0) +
      Layer.rank RlpData.rank s.rlpState := by
  simp only [measure, Layer.rank, RlpData.rank]
  omega

theorem rank_rlp_le (s : RlpState) : Layer.rank RlpData.rank s ≤ 3 := by
  simp only [Layer.rank, RlpData.rank]
  split_ifs <;> omega

/-- Behind the preamble, a round lowers the measure unless it needs more data: it is done with the
block or with a part of it. -/
theorem parseDataBlock_decreases (hs : s.havePreamble = true) (h : (parseDataBlock pal s m d).res = none ∨
      (parseDataBlock pal s m d).res = some .ok ∧ .alloc false ∉ (parseDataBlock pal s m d).log) :
    (parseDataBlock pal s m d).st.measure (d.drop (parseDataBlock pal s m d).used) < s.measure d := by
  have hprog : PartDone (parseRlpBlock pal s.rlpState m d) → _ :=
    parseRlpBlock_progresses s.rlpState m d
  simp only [parseDataBlock] at h ⊢
  generalize parseRlpBlock pal s.rlpState m d = o at *
  by_cases hu : o.used ≤ d.length
  swap
  · rw [if_neg hu] at h
    simp at h
  rw [if_pos hu] at h ⊢
  simp only [RCMsgBuf.measure_eq, hs, if_true, length_drop]
  -- with a part of the block
  have hpart : PartDone o → 8 * (d.length - o.used) + 4 + Layer.rank RlpData.rank o.st <
      8 * d.length + 4 + Layer.rank RlpData.rank s.rlpState := by
    intro hp
    have := rank_rlp_le o.st
    rcases hprog hp with hp | hp <;> omega
  -- with the block
  have hwhole : 8 * (d.length - o.used) + 0 + Layer.rank RlpData.rank default <
      8 * d.length + 4 + Layer.rank RlpData.rank s.rlpState := by
    have : Layer.rank RlpData.rank default = 0 := rfl
    omega
  cases hr : o.res <;> simp only [blockResult, hr] at h ⊢
  case partialBlockProtErr => exact hpart (.inl hr)
  case partialBlockParseOk =>
    rcases h with h | ⟨-, h⟩
    · cases h
    · exact hpart (.inr ⟨hr, fun hx => h (by simp [hx])⟩)
  case fullBlockProtErr | fullBlockParseOk => exact hwhole
  all_goals simp at h

theorem findTcpPreamble_found {n : Nat} (h : findTcpPreamble pal d = some (i, n)) :
    i + acnTcpPreambleSize < d.length ∧ pal.acnParseTcpPreamble (d.drop i) = some n := by
  induction d generalizing i with
  | nil => simp [findTcpPreamble] at h
  | cons x d ih =>
    simp only [findTcpPreamble] at h
    split_ifs at h with hlen
    cases hp : pal.acnParseTcpPreamble (x :: d) with
    | some k =>
      simp only [hp, Option.some.injEq, Prod.mk.injEq] at h
      obtain ⟨rfl, rfl⟩ := h
      exact ⟨by omega, hp⟩
    | none =>
      simp only [hp, Option.map_eq_some_iff, Prod.mk.injEq, Prod.exists] at h
      obtain ⟨j, k, hj, rfl, rfl⟩ := h
      obtain ⟨hlt, hfound⟩ := ih hj
      refine ⟨?_, hfound⟩
      simp only [length_cons]
      omega

theorem parseDataRound_decreases : (parseDataRound pal).Decreases (fun s _ d => s.measure d) := by
  intro s m d h
  cases hs : s.havePreamble with
  | true =>
    rw [parseDataRound_block hs] at h ⊢
    exact parseDataBlock_decreases hs (.inl h)
  | false =>
    cases hf : findTcpPreamble pal d with
    | none => simp [parseDataRound_none hs hf] at h
    | some r =>
      obtain ⟨i, n⟩ := r
      by_cases hn : n = 0
      · subst hn
        simp [parseDataRound_zero hs hf] at h
      rw [parseDataRound_preamble hs hf hn] at h ⊢
      have hb := parseDataBlock_decreases (s := ⟨true, ⟨.start n, default⟩⟩) rfl (.inl h)
      simp only [Out.since, ← drop_drop] at hb ⊢
      refine Nat.lt_trans hb ?_
      -- the preamble pays for the state that it sets up
      have h16 : i + 16 < d.length := (findTcpPreamble_found hf).1
      have hrank : Layer.rank RlpData.rank (⟨.start n, default⟩ : RlpState) = 0 := rfl
      have hdrop : ((d.drop i).drop acnTcpPreambleSize).length = d.length - (i + 16) := by
        rw [drop_drop]
        exact length_drop
      simp only [RCMsgBuf.measure_eq, hrank, hdrop, if_true]
      omega

end Buffer

end RDMnet
