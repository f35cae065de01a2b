import RDMnet.MsgBuf.Resume

/-!
# Suspending the data of a PDU

The parse functions below the layers are resumable as long as every event of the call is
`Event.CutSafe`.  The conditions of `CutSafe` name the places where the code decides by what
happens to be in the buffer.
-/

namespace RDMnet

open Out List Event Resumes ClientConnectState ClientEntryState

/-- What must hold at each decision for the parser not to depend on where the stream is cut. -/
def Event.CutSafe : Event → Prop
  -- a preamble of length 0 ends the call although data is left
  | .preamble blockLen => blockLen ≠ 0
  -- the header of a PDU that is too long is counted twice
  | .rlpHeader dataLen sizeParsed blockSize _ =>
    sizeParsed + dataLen ≤ blockSize ∨ sizeSub blockSize sizeParsed = 0
  | .pduHeader _ _ => True
  -- the header of an entry with the reserved protocol is read again in the next call
  | .entryHeader pduLen entry =>
    entry.clientProtocol ≠ kClientProtocolUnknown ∧ pduLen ≤ entry.enclosingBlockSize
  | .entryTail _ => True
  | .listHead _ _ => True
  | .listRoom _ => True
  | .listEntry _ _ _ => True
  -- a foreign entry skips the bytes that the call has already parsed
  | .foreignEntry _ _ _ => False
  -- a status that is being skipped is accepted when its end arrives in another call
  | .status code room =>
    (StatusKind.ofCode code = .bare → room = 0) ∧
    (StatusKind.ofCode code = .withString → room ≤ rptStatusStringMaxlen)
  -- a rejected header is looked for again in the bytes that follow
  | .rdmHeader accepted sizeParsed blockSize _ =>
    accepted = true ∨ sizeSub blockSize sizeParsed ≤ requestNotifPduHeaderSize
  | .rdmRoom _ => True
  | .rdmCmd pduLen blockSize _ => 3 ≤ pduLen ∨ blockSize < pduLen
  | .alloc success => success = true
  | .touchFreed => False
  | .check holds => holds = true
  | .assigned written => written = true

instance : DecidablePred CutSafe := fun e => by
  delta CutSafe
  rcases e with _ | _ <;> (dsimp only; infer_instance)

/-! ### Messages of a fixed size -/

theorem fixedData_resumable {σ μ : Type} {size : Nat} {read : Bytes → μ → μ}
    (hread : ∀ d e m, size ≤ d.length → read (d ++ e) m = read d m) :
    Resumable parseVerdict CutSafe (fun _ _ => True) (fixedData (σ := σ) size read) := by
  intro s m d e _ hc
  by_cases h : size ≤ d.length
  · have h' : size ≤ (d ++ e).length := by rw [length_append]; omega
    have hd : fixedData size read s m d = ⟨s, read d m, size, .fullBlockParseOk, []⟩ := by
      simp [fixedData, h]
    refine ofDone hd (by simp) (by simp [Clean]) h (by simp) (by simp) ?_
    simp only [fixedData, h', if_true, hread d e m h]
    exact .refl _
  · exact wait rfl (by simp) trivial (by simp [fixedData, h]) hc

/-! ### Lists of fixed-size entries -/

section GenericList

variable {α : Type} {size : Nat} {unpack : Bytes → α}

theorem genericListRound_decreases (hsize : 0 < size) :
    (genericListRound size unpack).Decreases (fun _ _ d => d.length) := by
  intro s m d h
  simp only [genericListRound] at h ⊢
  split_ifs at h ⊢
  simp only [length_drop]
  omega

theorem genericListRound_append (hunpack : ∀ d e, size ≤ d.length → unpack (d ++ e) = unpack d)
    (s : GenericListState) (m : MsgList α × Heap) {d : Bytes} (e : Bytes) (h : size ≤ d.length) :
    genericListRound size unpack s m (d ++ e) = genericListRound size unpack s m d := by
  have h' : ¬ (d ++ e).length < size := by rw [length_append]; omega
  simp only [genericListRound, h', not_lt.mpr h, if_false, hunpack d e h]

theorem parseGenericList_resumable (hsize : 0 < size)
    (hunpack : ∀ d e, size ≤ d.length → unpack (d ++ e) = unpack d) :
    Resumable parseVerdict CutSafe (fun _ _ => True) (parseGenericList size unpack) := by
  refine .iterate ?_ (genericListRound_decreases hsize)
  intro s m d e _ hc
  by_cases h : d.length < size
  · exact wait ⟨_, rfl, rfl⟩ (by rintro x ⟨⟩; simp) trivial
      (by simp [genericListRound, h]) hc
  have happ := genericListRound_append hunpack s m e (not_lt.mp h)
  rw [happ] at hc
  -- an entry is taken whole: with all allocations succeeding there is only one outcome
  have hfreed : m.1.items.isFreed = false := by
    by_contra hf
    exact hc .touchFreed (by simp [genericListRound, h, hf])
  have halloc : m.2.alloc.1 = true := by
    by_contra hf
    have hbad : Event.alloc false ∈ (genericListRound size unpack s m d).log := by
      simp only [genericListRound, h, hfreed, hf, if_false, Bool.false_eq_true]
      split_ifs <;> simp
    cases hc _ hbad
  have hd : genericListRound size unpack s m d =
      ⟨{ s with sizeParsed := s.sizeParsed + size },
        ({ m.1 with items := m.1.items.push (unpack d) }, m.2.alloc.2), size,
        if s.sizeParsed + size ≥ s.fullListSize then some .fullBlockParseOk else none, [.alloc true]⟩ := by
    simp [genericListRound, h, hfreed, halloc]
  refine ofDone hd ?_ ?_ (not_lt.mp h) ?_ (fun _ => trivial) (.of_eq (happ.trans hd))
  · rintro ⟨x, hx, hs⟩
    simp only at hx
    split_ifs at hx
    cases hx
    cases hs
  · simp [Clean, CutSafe]
  · intro x hx
    simp only at hx
    split_ifs at hx
    cases hx
    simp

end GenericList

/-! ### Client entries -/

section Entry

variable {pal : EtcPal} {μ : Type} {setProtocol : UInt32 → μ → μ}
  {modifyEntry : (RptClientEntry → RptClientEntry) → μ → μ}

def Idempotent (setProtocol : UInt32 → μ → μ) : Prop :=
  ∀ p m, setProtocol p (setProtocol p m) = setProtocol p m

/-- The data of an entry is skipped: it is known to be bad, or it is not an RPT entry of the right
length. -/
def ClientEntryState.Bad (s : ClientEntryState) : Prop :=
  s.entryData.consumingBadBlock = true ∨ s.clientProtocol ≠ kClientProtocolRPT ∨
    s.entryData.sizeParsed + rptClientEntryDataSize ≠ s.entryData.blockSize

variable {s : ClientEntryState} {m : μ} {d : Bytes}

theorem parseSingleClientEntry_known (h : s.clientProtocol ≠ kClientProtocolUnknown) :
    parseSingleClientEntry pal setProtocol modifyEntry s m d =
      clientEntryData setProtocol modifyEntry d ⟨s, m, 0, .noData, []⟩ := by
  simp [parseSingleClientEntry, clientEntryHeader, h]

theorem clientEntryData_bad (m : μ) (d : Bytes) (h : s.Bad) :
    clientEntryData setProtocol modifyEntry d ⟨s, m, 0, .noData, []⟩ =
      skipAt (fun b s => { s with entryData := b }) s.entryData s (setProtocol s.clientProtocol m)
        d [] := by
  simp only [clientEntryData, drop_zero, skipAt, Nat.zero_add]
  rcases h with h | h | h
  · simp [h]
  · split_ifs <;> rfl
  · split_ifs <;> rfl

theorem clientEntryData_good (m : μ) (d : Bytes) (h : ¬ s.Bad) :
    clientEntryData setProtocol modifyEntry d ⟨s, m, 0, .noData, []⟩ =
      if rptClientEntryDataSize ≤ d.length then
        ⟨{ s with entryData := s.entryData.advance rptClientEntryDataSize },
          modifyEntry (unpackRptClientEntryData d) (setProtocol s.clientProtocol m),
          rptClientEntryDataSize, .fullBlockParseOk, []⟩
      else ⟨s, setProtocol s.clientProtocol m, 0, .noData, []⟩ := by
  simp only [Bad, not_or, Bool.not_eq_true, not_not] at h
  obtain ⟨h1, h2, h3⟩ := h
  have hE : kClientProtocolRPT ≠ kClientProtocolEPT := by decide
  simp only [clientEntryData, drop_zero, h1, h2, h3, hE, if_true, if_false, Nat.zero_add, Bool.false_eq_true]

theorem unpackRptClientEntryData_append (e : Bytes) (h : rptClientEntryDataSize ≤ d.length) :
    unpackRptClientEntryData (d ++ e) = unpackRptClientEntryData d := by
  have h23 : 23 ≤ d.length := h
  funext entry
  simp only [unpackRptClientEntryData, unpackUid, u16At_append e (show 0 + 1 < d.length by omega),
    u32At_append e (show 2 + 3 < d.length by omega), u8At_append e (show 6 < d.length by omega),
    vecAt_append e (show 7 + 16 ≤ d.length by omega)]

theorem parseSingleClientEntry_resumes_known (hset : Idempotent setProtocol) {e : Bytes}
    (h : s.clientProtocol ≠ kClientProtocolUnknown) : Resumes parseVerdict CutSafe (fun _ _ => True)
      (parseSingleClientEntry pal setProtocol modifyEntry) s m d e := by
  have hp : ∀ m x, parseSingleClientEntry pal setProtocol modifyEntry s m x =
      clientEntryData setProtocol modifyEntry x ⟨s, m, 0, .noData, []⟩ :=
    fun _ _ => parseSingleClientEntry_known h
  by_cases hbad : s.Bad
  · refine ofSkip (fun b s => { s with entryData := b }) (fun _ _ _ => rfl) (by simp)
      ((hp m d).trans (clientEntryData_bad m d hbad))
      ((hp m _).trans (clientEntryData_bad m _ hbad)) fun _ => ⟨trivial, [], by simp, ?_⟩
    rw [parseSingleClientEntry_known (s := { s with entryData := s.entryData.eat d.length }) h,
      clientEntryData_bad _ _ (.inl rfl), hset]
  · have hgood := fun m x => (hp m x).trans (clientEntryData_good m x hbad)
    by_cases hlen : rptClientEntryDataSize ≤ d.length
    · have hlen' : rptClientEntryDataSize ≤ (d ++ e).length := by
        rw [length_append]; exact Nat.le_add_right_of_le hlen
      have hd := hgood m d
      rw [if_pos hlen] at hd
      refine ofDone hd (by simp) (by simp [Clean]) hlen (by simp) (by simp) ?_
      rw [hgood, if_pos hlen', unpackRptClientEntryData_append e hlen]
      exact .refl _
    · have hd := hgood m d
      rw [if_neg hlen] at hd
      refine ofMore hd rfl (by simp [Clean]) zero_le (by simp) trivial rfl ?_ ?_
      · simp only [drop_zero, hgood]
        split_ifs <;> simp [Clean]
      · simp only [drop_zero, hgood, hset s.clientProtocol m, after_zero]
        exact .refl _

theorem clientEntryData_since (s : ClientEntryState) (m : μ) (d : Bytes) (n : Nat) (lg : List Event) :
    clientEntryData setProtocol modifyEntry d ⟨s, m, n, .noData, lg⟩ =
      (clientEntryData setProtocol modifyEntry (d.drop n) ⟨s, m, 0, .noData, []⟩).since n lg := by
  simp only [clientEntryData, drop_zero]
  split_ifs <;> simp [since]

theorem parseSingleClientEntry_header (m : μ)
    (h : s.clientProtocol = kClientProtocolUnknown) (hlen : clientEntryHeaderSize ≤ d.length)
    (hprot : u32At d 3 ≠ kClientProtocolUnknown) (hle : pal.acnPduLength d ≤ s.enclosingBlockSize) :
    parseSingleClientEntry pal setProtocol modifyEntry s m d =
      (parseSingleClientEntry pal setProtocol modifyEntry (s.known (u32At d 3) (pal.acnPduLength d))
        (modifyEntry (fun entry => { entry with cid := vecAt 16 d 7 }) m)
        (d.drop clientEntryHeaderSize)).since clientEntryHeaderSize
          [.entryHeader (pal.acnPduLength d) (s.known (u32At d 3) (pal.acnPduLength d))] := by
  have hh : clientEntryHeader pal modifyEntry s m d =
      ⟨s.known (u32At d 3) (pal.acnPduLength d),
        modifyEntry (fun entry => { entry with cid := vecAt 16 d 7 }) m, clientEntryHeaderSize,
        .noData, [.entryHeader (pal.acnPduLength d) (s.known (u32At d 3) (pal.acnPduLength d))]⟩ := by
    simp only [clientEntryHeader, h, hlen, and_self, if_true, gt_iff_lt, not_lt.mpr hle, if_false, known]
  have hk : (s.known (u32At d 3) (pal.acnPduLength d)).clientProtocol ≠ kClientProtocolUnknown :=
    hprot
  rw [parseSingleClientEntry, hh]
  simp only [hk, if_false]
  rw [clientEntryData_since, ← parseSingleClientEntry_known hk]

theorem parseSingleClientEntry_header_log
    (h : s.clientProtocol = kClientProtocolUnknown) (hlen : clientEntryHeaderSize ≤ d.length) :
    .entryHeader (pal.acnPduLength d) (s.known (u32At d 3) (pal.acnPduLength d)) ∈
      (parseSingleClientEntry pal setProtocol modifyEntry s m d).log := by
  have hlog : .entryHeader (pal.acnPduLength d) (s.known (u32At d 3) (pal.acnPduLength d)) ∈
      (clientEntryHeader pal modifyEntry s m d).log := by
    simp only [clientEntryHeader, h, hlen, and_self, if_true]
    split_ifs <;> simp
  simp only [parseSingleClientEntry]
  split_ifs
  · exact hlog
  · simp only [clientEntryData]
    split_ifs <;> exact hlog

/-- **A client entry is resumable.** -/
theorem parseSingleClientEntry_resumable (hpal : pal.Lawful) (hset : Idempotent setProtocol) :
    Resumable parseVerdict CutSafe (fun _ _ => True) (parseSingleClientEntry pal setProtocol modifyEntry) := by
  intro s m d e _ hc
  by_cases h : s.clientProtocol = kClientProtocolUnknown
  swap
  · exact parseSingleClientEntry_resumes_known hset h
  by_cases hlen : d.length < clientEntryHeaderSize
  · refine wait rfl (by simp) trivial ?_ hc
    simp [parseSingleClientEntry, clientEntryHeader, h, not_le.mpr hlen]
  have hlen := not_lt.mp hlen
  have h23 : 23 ≤ d.length := hlen
  have hlen' : clientEntryHeaderSize ≤ (d ++ e).length := by
    rw [length_append]; exact Nat.le_add_right_of_le hlen
  have hL := hpal.length_append d e (by omega)
  have hP := u32At_append e (show 3 + 3 < d.length by omega)
  have hV := vecAt_append e (show 7 + 16 ≤ d.length by omega)
  have hev := hc _ (parseSingleClientEntry_header_log h hlen')
  rw [hL, hP] at hev
  refine step hlen (by simpa using hev) (parseSingleClientEntry_header m h hlen hev.1 hev.2)
    ?_ (parseSingleClientEntry_resumes_known hset hev.1)
  rw [parseSingleClientEntry_header m h hlen' (by rw [hP]; exact hev.1) (by rw [hL]; exact hev.2),
    hL, hP, hV, drop_append_of_le_length hlen]

def entryZoom (p : ParseFn ClientEntryState μ) : ParseFn ClientConnectState μ :=
  p.zoom (·.entry) (fun x s => { s with entry := x }) id (fun x _ => x)

theorem entryZoom_resumable (hpal : pal.Lawful) (hset : Idempotent setProtocol) :
    Resumable parseVerdict CutSafe (fun _ _ => True)
      (entryZoom (parseSingleClientEntry pal setProtocol modifyEntry)) :=
  (parseSingleClientEntry_resumable hpal hset).zoom (fun _ _ => rfl) (fun _ _ _ => rfl)
    (fun _ _ => rfl) (fun _ _ _ => rfl)

variable {commonSize : Nat} {common : Bytes → μ → μ}

theorem entryTail_cutSafe (c : Out ClientEntryState μ ParseRes Event) : ∀ x ∈ entryTail c, CutSafe x := by
  unfold entryTail
  split <;> simp [CutSafe]

theorem parseCommonAndEntry_known {s : ClientConnectState} (h : s.commonDataParsed = true)
    (hu : (entryZoom (parseSingleClientEntry pal setProtocol modifyEntry) s m d).used ≤ d.length) :
    Relogged CutSafe (parseCommonAndEntry pal setProtocol modifyEntry commonSize common s m d)
      (entryZoom (parseSingleClientEntry pal setProtocol modifyEntry) s m d) := by
  refine ⟨[], .check true :: entryTail (parseSingleClientEntry pal setProtocol modifyEntry s.entry
    m d), ?_, by simp, ?_⟩
  swap
  · simp only [mem_cons, forall_eq_or_imp]
    exact ⟨rfl, entryTail_cutSafe _⟩
  simp only [entryZoom, Parser.zoom, id] at hu
  simp only [parseCommonAndEntry, afterEntry, h, Bool.true_eq_false, false_and, if_false, if_true,
    drop_zero, Nat.sub_zero, hu, Nat.zero_add, entryZoom, Parser.zoom, nil_append]
  cases s
  simp_all

theorem parseCommonAndEntry_clean {s : ClientConnectState} (h : s.commonDataParsed = true)
    (hc : (parseCommonAndEntry pal setProtocol modifyEntry commonSize common s m d).Clean CutSafe) :
    (entryZoom (parseSingleClientEntry pal setProtocol modifyEntry) s m d).Clean CutSafe := by
  intro x hx
  apply hc x
  simp only [parseCommonAndEntry, afterEntry, h, Bool.true_eq_false, false_and, if_false, if_true, drop_zero]
  split_ifs <;> exact mem_append_left _ hx

def ClientConnectState.behindCommon (s : ClientConnectState) (commonSize : Nat) : ClientConnectState :=
  { s with
    commonDataParsed := true
    entry := .start (sizeSub s.pduDataSize commonSize) }

theorem parseCommonAndEntry_fresh {s : ClientConnectState}
    (h : s.commonDataParsed = false) (hlen : commonSize ≤ d.length)
    (hc : (parseCommonAndEntry pal setProtocol modifyEntry commonSize common
      (s.behindCommon commonSize) (common d m) (d.drop commonSize)).Clean CutSafe) :
    parseCommonAndEntry pal setProtocol modifyEntry commonSize common s m d =
      (parseCommonAndEntry pal setProtocol modifyEntry commonSize common (s.behindCommon commonSize)
        (common d m) (d.drop commonSize)).since commonSize [] := by
  simp only [parseCommonAndEntry, afterEntry, h, behindCommon, not_lt.mpr hlen, and_false,
    if_false, Bool.false_eq_true, if_true, Bool.true_eq_false, false_and, drop_zero,
    length_drop, Nat.sub_zero] at hc ⊢
  split_ifs at hc ⊢ with hu
  · simp [since]
  · have := hc (.check false) (by simp)
    cases this

theorem parseCommonAndEntry_fresh_log {s : ClientConnectState}
    (h : s.commonDataParsed = false) (hlen : commonSize ≤ d.length) :
    (parseCommonAndEntry pal setProtocol modifyEntry commonSize common (s.behindCommon commonSize)
      (common d m) (d.drop commonSize)).log =
    (parseCommonAndEntry pal setProtocol modifyEntry commonSize common s m d).log := by
  simp only [parseCommonAndEntry, afterEntry, h, behindCommon, not_lt.mpr hlen, and_false,
    if_false, Bool.false_eq_true, if_true, Bool.true_eq_false, false_and, drop_zero,
    length_drop, Nat.sub_zero]
  split_ifs <;> rfl

/-- **Client Connect and Client Entry Update are resumable.** -/
theorem parseCommonAndEntry_resumable (hpal : pal.Lawful) (hset : Idempotent setProtocol)
    (hcommon : ∀ d e m, commonSize ≤ d.length → common (d ++ e) m = common d m) :
    Resumable parseVerdict CutSafe (fun _ _ => True)
      (parseCommonAndEntry pal setProtocol modifyEntry commonSize common) := by
  have hE : Resumable parseVerdict CutSafe (fun _ _ => True)
      (entryZoom (parseSingleClientEntry pal setProtocol modifyEntry)) :=
    entryZoom_resumable hpal hset
  have known : ∀ s m d e, s.commonDataParsed = true →
      (parseCommonAndEntry pal setProtocol modifyEntry commonSize common s m (d ++ e)).Clean
        CutSafe →
      Resumes parseVerdict CutSafe (fun _ _ => True)
        (parseCommonAndEntry pal setProtocol modifyEntry commonSize common) s m d e := by
    intro s m d e h hc
    have hcl := parseCommonAndEntry_clean h hc
    have R := hE s m d e trivial hcl
    refine R.relog (parseCommonAndEntry_known h R.used_le)
      (parseCommonAndEntry_known h (hE.call trivial hcl).used_le).same (fun _ _ => trivial)
      fun _ hcl2 => ?_
    exact parseCommonAndEntry_known h (hE.call trivial hcl2).used_le
  intro s m d e _ hc
  cases h : s.commonDataParsed with
  | true => exact known s m d e h hc
  | false =>
    by_cases hlen : d.length < commonSize
    · exact wait rfl (by simp) trivial (by simp [parseCommonAndEntry, h, hlen]) hc
    have hlen := not_lt.mp hlen
    have hlen' : commonSize ≤ (d ++ e).length := by rw [length_append]; omega
    have hc1 : (parseCommonAndEntry pal setProtocol modifyEntry commonSize common
        (s.behindCommon commonSize) (common (d ++ e) m) ((d ++ e).drop commonSize)).Clean
        CutSafe := by
      unfold Clean
      rw [parseCommonAndEntry_fresh_log h hlen']
      exact hc
    have hde := parseCommonAndEntry_fresh h hlen' hc1
    rw [hcommon d e m hlen, drop_append_of_le_length hlen] at hc1 hde
    have R := known (s.behindCommon commonSize) (common d m) (d.drop commonSize) e rfl hc1
    exact step hlen (by simp) (parseCommonAndEntry_fresh h hlen R.clean) hde R

end Entry

theorem safeStrncpy_append {cap : Nat} (hcap : 0 < cap) {d : Bytes} (e : Bytes)
    (h : cap - 1 ≤ d.length) : safeStrncpy cap hcap (d ++ e) = safeStrncpy cap hcap d := by
  apply CString.ext
  simp only [safeStrncpy]
  rw [take_append_of_le_length h]

theorem parseClientConnect_resumable {pal : EtcPal} (hpal : pal.Lawful) :
    Resumable parseVerdict CutSafe (fun _ _ => True) (parseClientConnect pal) := by
  refine parseCommonAndEntry_resumable hpal (fun _ _ => rfl) fun d e m h => ?_
  have h297 : 297 ≤ d.length := h
  have hdrop : (d ++ e).drop 65 = d.drop 65 ++ e := drop_append_of_le_length (by omega)
  have hlen : (d.drop 65).length = d.length - 65 := length_drop
  simp only [parseClientConnectHeader, hdrop]
  rw [safeStrncpy_append _ e (by show 62 ≤ d.length; omega),
    safeStrncpy_append _ e (by show 230 ≤ (d.drop 65).length; omega),
    u16At_append e (by omega), u8At_append e (by omega)]

theorem parseClientEntryUpdate_resumable {pal : EtcPal} (hpal : pal.Lawful) :
    Resumable parseVerdict CutSafe (fun _ _ => True) (parseClientEntryUpdate pal) := by
  refine parseCommonAndEntry_resumable hpal (fun _ _ => rfl) fun d e m h => ?_
  simp only [u8At_append e (show 0 < d.length from h)]

end RDMnet
