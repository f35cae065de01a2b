import RDMnet.MsgBuf.ResumeList

/-!
# Suspending RDM lists and RPT Status

The two parse functions below the RPT layer.
-/

namespace RDMnet

open Out List Event Resumes StatusKind Layer PduBlockState

/-! ### RDM lists -/

section RdmList

variable {pal : EtcPal}

/-- The loop of `parse_rdm_list` with the test for a bad block inside it. -/
def rdmRound (pal : EtcPal) :
    Parser UInt8 RdmListState (MsgList RdmBuffer × Heap) (Option ParseRes) Event :=
  fun s m d =>
    if s.block.consumingBadBlock then
      (skipAt (fun b s => { s with block := b }) s.block s m d []).map some
    else rdmListRound pal s m d

theorem rdmListRound_decreases : (rdmListRound pal).Decreases (fun _ _ d => d.length) := by
  intro s m d h
  simp only [rdmListRound] at h ⊢
  split_ifs at h ⊢ with h1 h2 h3 h4 h5 h6 h7 h8
  simp only [length_drop]
  omega

theorem rdmRound_decreases : (rdmRound pal).Decreases (fun _ _ d => d.length) := by
  intro s m d h
  by_cases hcons : s.block.consumingBadBlock = true
  · simp [rdmRound, hcons, Out.map] at h
  · simp only [rdmRound, hcons, if_false, Bool.false_eq_true] at h ⊢
    exact rdmListRound_decreases s m d h

theorem rdmListRound_none {s : RdmListState} {m : MsgList RdmBuffer × Heap} {d : Bytes}
    (h : (rdmListRound pal s m d).res = none) :
    (rdmListRound pal s m d).st.block.consumingBadBlock = s.block.consumingBadBlock := by
  simp only [rdmListRound] at h ⊢
  split_ifs at h ⊢
  rfl

theorem rdmListData_eq (s : RdmListState) (m : MsgList RdmBuffer × Heap) (d : Bytes) :
    rdmListData pal s m d = (rdmRound pal).iterate (fun _ _ d => d.length) .stuck s m d := by
  by_cases hs : s.block.consumingBadBlock = true
  · have hr : rdmRound pal s m d =
        (skipAt (fun b s => { s with block := b }) s.block s m d []).map some := by
      simp [rdmRound, hs]
    rw [Parser.iterate_some rdmRound_decreases .stuck (congrArg Out.res hr), hr]
    simp [rdmListData, hs, skipAt, Out.map]
  · rw [Bool.not_eq_true] at hs
    simp only [rdmListData, hs, if_false, Bool.false_eq_true]
    refine Parser.rounds_congr (fun _ => True) (P := fun s => s.block.consumingBadBlock = false)
      ?_ ?_ _ _ _ _ _ hs (.inl fun _ _ => trivial)
    · intro s m d hs _
      simp [rdmRound, hs]
    · intro s m d hs h
      rw [rdmListRound_none h, hs]

theorem rdmRound_skip {s : RdmListState} {m : MsgList RdmBuffer × Heap} (d : Bytes)
    (h : s.block.consumingBadBlock = true) : rdmRound pal s m d =
      (skipAt (fun b s => { s with block := b }) s.block s m d []).map some := by
  simp [rdmRound, h]

theorem rdmRound_resumable (hpal : pal.Lawful) :
    Resumable parseVerdict.round CutSafe (fun s _ => s.parsedRequestNotifHeader = true) (rdmRound pal) := by
  have hskip : ∀ s m d e lg, s.parsedRequestNotifHeader = true → (∀ x ∈ lg, CutSafe x) →
      rdmRound pal s m d =
        (skipAt (fun b s => { s with block := b }) s.block s m d lg).map some →
      rdmRound pal s m (d ++ e) =
        (skipAt (fun b s => { s with block := b }) s.block s m (d ++ e) lg).map some →
      Resumes parseVerdict.round CutSafe (fun s _ => s.parsedRequestNotifHeader = true)
        (rdmRound pal) s m d e := by
    intro s m d e lg hI hlg h h'
    exact ofSkipMap skipVerdict_some (fun b s => { s with block := b })
      (fun _ _ _ => rfl) hlg h h' fun _ => ⟨hI, [], by simp, rdmRound_skip _ rfl⟩
  intro s m d e hI hc
  by_cases hs : s.block.consumingBadBlock = true
  · exact hskip s m d e [] hI (by simp) (rdmRound_skip d hs) (rdmRound_skip _ hs)
  rw [Bool.not_eq_true] at hs
  have hround : ∀ x, rdmRound pal s m x = rdmListRound pal s m x := fun x => by
    simp [rdmRound, hs]
  by_cases hlt : s.block.sizeParsed < s.block.blockSize
  swap
  · exact wait ⟨_, rfl, rfl⟩ (by rintro x ⟨⟩; simp) hI
      (by simp [hround, rdmListRound, hlt]) hc
  by_cases hmin : d.length < rdmCmdPduMinSize
  · exact waitLog [.rdmRoom s.block.room] ⟨_, rfl, rfl⟩ (by rintro x ⟨⟩; simp) hI
      (by simp [hround, rdmListRound, hlt, hmin]) (by simp [CutSafe]) hc
  have h29 : 29 ≤ d.length := not_lt.mp hmin
  have hmin' : ¬ (d ++ e).length < rdmCmdPduMinSize := by
    rw [length_append]
    exact not_lt.mpr (Nat.le_add_right_of_le h29)
  have hL := hpal.length_append d e (by omega)
  -- the length field of the command is at hand
  have hcmd : CutSafe (.rdmCmd (pal.acnPduLength d) s.block.blockSize s.block.room) := by
    apply hc
    rw [hround]
    simp only [rdmListRound, hlt, hmin', hL, not_true_eq_false, if_false]
    split_ifs <;> simp
  by_cases hbig : pal.acnPduLength d > s.block.blockSize ∨ pal.acnPduLength d > rdmCmdPduMaxSize
  · refine hskip s m d e [.rdmRoom s.block.room,
        .rdmCmd (pal.acnPduLength d) s.block.blockSize s.block.room] hI ?_ ?_ ?_
    · simpa [CutSafe] using hcmd
    · simp only [hround, rdmListRound, hlt, hmin, not_true_eq_false, if_false, hbig, if_true]
      rfl
    · simp only [hround, rdmListRound, hlt, hmin', hL, not_true_eq_false, if_false, hbig, if_true]
      rfl
  by_cases hshort : d.length < pal.acnPduLength d
  · refine waitLog [.rdmRoom s.block.room,
        .rdmCmd (pal.acnPduLength d) s.block.blockSize s.block.room] ⟨_, rfl, rfl⟩
      (by rintro x ⟨⟩; simp) hI ?_ (by simpa [CutSafe] using hcmd) hc
    simp only [hround, rdmListRound, hlt, hmin, not_true_eq_false, if_false, hbig, hshort, if_true]
  have hshort' : ¬ (d ++ e).length < pal.acnPduLength d := by
    rw [length_append]; omega
  have h3 : ¬ pal.acnPduLength d < 3 := by
    rcases hcmd with h | h
    · omega
    · exact absurd (.inl h) hbig
  have hwhole : rdmRound pal s m (d ++ e) = rdmListRound pal s m (d ++ e) := hround _
  simp only [rdmListRound, hlt, hmin', hL, not_true_eq_false, if_false, hbig, hshort', h3]
    at hwhole
  have hfreed : m.1.items.isFreed = false := by
    by_contra hf
    rw [Bool.not_eq_false] at hf
    have : CutSafe .touchFreed := hc _ (by simp [hwhole, hf])
    exact this
  have halloc : m.2.alloc.1 = true := by
    by_contra ha
    rw [Bool.not_eq_true] at ha
    have : CutSafe (.alloc false) := hc _ (by
      simp only [hwhole, hfreed, ha, Bool.false_eq_true, if_false]
      split_ifs <;> simp)
    exact absurd this (by simp [CutSafe])
  simp only [hfreed, halloc, Bool.false_eq_true, if_false, if_true] at hwhole
  -- the command is complete: further bytes change neither it nor the verdict
  have hsame : rdmRound pal s m d = rdmRound pal s m (d ++ e) := by
    rw [hwhole, hround]
    simp only [rdmListRound, hlt, hmin, not_true_eq_false, if_false, hbig, hshort, h3, hfreed,
      halloc, Bool.false_eq_true, if_true]
    rw [drop_append_of_le_length (by omega), take_append_of_le_length (by rw [length_drop]; omega)]
  refine ofDone hsame ?_ hc ?_ ?_ (fun _ => by rw [hwhole]; exact hI)
    (.refl _)
  · rw [hwhole]
    rintro ⟨x, hx, hsusp⟩
    simp only at hx
    split_ifs at hx
    cases hx
    simp at hsusp
  · rw [hwhole]
    exact not_lt.mp hshort
  · rw [hwhole]
    intro x hx
    simp only at hx
    split_ifs at hx
    cases hx
    simp

theorem rdmListData_resumable (hpal : pal.Lawful) :
    Resumable parseVerdict CutSafe (fun s _ => s.parsedRequestNotifHeader = true) (rdmListData pal) := by
  have h : rdmListData pal = (rdmRound pal).iterate (fun _ _ d => d.length) .stuck := by
    funext s m d
    exact rdmListData_eq s m d
  rw [h]
  exact (rdmRound_resumable hpal).iterate rdmRound_decreases

theorem parseRdmList_resumable (hpal : pal.Lawful) :
    Resumable parseVerdict CutSafe (fun _ _ => True) (parseRdmList pal) := by
  have data : ∀ s m d, s.parsedRequestNotifHeader = true →
      parseRdmList pal s m d = rdmListData pal s m d := fun s m d h => by simp [parseRdmList, h]
  have mid : ∀ s m d e, s.parsedRequestNotifHeader = true →
      (rdmListData pal s m (d ++ e)).Clean CutSafe →
      Resumes parseVerdict CutSafe (fun _ _ => True) (parseRdmList pal) s m d e := by
    intro s m d e hs hc
    have R := rdmListData_resumable hpal s m d e hs hc
    refine R.relog ⟨[], [], by simp [data s m d hs], by simp, by simp⟩
      (.of_eq (data s m _ hs)) (fun _ _ => trivial) fun hsusp _ => ⟨[], [], ?_, by simp, by simp⟩
    rw [data _ _ _ (R.inv (parseVerdict.susp_not_final _ hsusp))]
    simp
  intro s m d e _ hc
  by_cases hs : s.parsedRequestNotifHeader = true
  · rw [data s m _ hs] at hc
    exact mid s m d e hs hc
  by_cases hlen : d.length < requestNotifPduHeaderSize
  · exact wait rfl (by simp) trivial (by simp [parseRdmList, hs, hlen]) hc
  have h7 : 7 ≤ d.length := not_lt.mp hlen
  have hlen' : ¬ (d ++ e).length < requestNotifPduHeaderSize := by
    rw [length_append]
    exact not_lt.mpr (Nat.le_add_right_of_le h7)
  have hL := hpal.length_append d e (by omega)
  have hV : u32At (d ++ e) 3 = u32At d 3 := u32At_append e (by omega)
  by_cases hacc : pal.acnPduLength d = s.block.blockSize ∧
      (u32At d 3 = vectorRequestRdmCmd ∨ u32At d 3 = vectorNotificationRdmCmd)
  swap
  · -- a rejected header must end the block
    have rej : ∀ x, ¬ x.length < requestNotifPduHeaderSize →
        pal.acnPduLength x = pal.acnPduLength d → u32At x 3 = u32At d 3 →
        parseRdmList pal s m x = skipAt (fun b s => { s with block := b }) s.block s m x
          [.rdmHeader false s.block.sizeParsed s.block.blockSize x.length] := by
      intro x hx hl hv
      simp only [parseRdmList, hs, hx, hl, hv, hacc, Bool.false_eq_true, if_false, decide_false, skipAt]
    have hd := rej d hlen rfl rfl
    have hde := rej (d ++ e) hlen' hL hV
    have hev : CutSafe (.rdmHeader false s.block.sizeParsed s.block.blockSize d.length) := by
      have := hc (.rdmHeader false s.block.sizeParsed s.block.blockSize (d ++ e).length)
        (by simp [hde, skipAt])
      simpa [CutSafe] using this
    have hroom : s.block.room ≤ 7 := by
      rcases hev with h | h
      · cases h
      · exact h
    refine ofSkip (fun b s => { s with block := b }) (fun _ _ _ => rfl)
      (by simpa using hev) hd hde fun hlt => ?_
    omega
  -- behind the header the call goes on with the commands
  let s1 : RdmListState := { s with
    parsedRequestNotifHeader := true
    block.blockSize := sizeSub s.block.blockSize requestNotifPduHeaderSize }
  have head : ∀ x, ¬ x.length < requestNotifPduHeaderSize →
      pal.acnPduLength x = pal.acnPduLength d → u32At x 3 = u32At d 3 →
      parseRdmList pal s m x = (parseRdmList pal s1 m (x.drop 7)).since 7
        [.rdmHeader true s.block.sizeParsed s.block.blockSize x.length] := by
    intro x hx hl hv
    rw [data s1 m _ rfl]
    simp only [parseRdmList, hs, hx, hl, hv, hacc, if_false, Bool.false_eq_true, and_self, decide_true, if_true]
    rfl
  have hde := head (d ++ e) hlen' hL hV
  rw [drop_append_of_le_length h7] at hde
  have hc1 : (rdmListData pal s1 m (d.drop 7 ++ e)).Clean CutSafe := by
    rw [hde] at hc
    rw [← data s1 m _ rfl]
    exact (clean_since.mp hc).2
  exact stepLog h7 (by simp [CutSafe]) (head d hlen rfl rfl) hde
    (mid s1 m _ e rfl hc1)

end RdmList

/-! ### RPT Status -/

section Status

variable {pal : EtcPal} {s : Pdu Unit} {m : RptStatusMsg × Heap} {d : Bytes}

/-- Behind the header only a status code that is not known makes a block bad in a clean run. -/
def StatusInv (s : Pdu Unit) (m : RptStatusMsg × Heap) : Prop :=
  s.block.consumingBadBlock = true → s.block.parsedHeader = true →
    ofCode m.1.statusCode = .unknown

/-- `parse_rpt_status` behind the header. -/
def statusMid (s : Pdu Unit) (m : RptStatusMsg × Heap) (d : Bytes) :
    Out (Pdu Unit) (RptStatusMsg × Heap) ParseRes Event :=
  statusData d ⟨s, m, 0, .noData, []⟩

theorem statusData_since (n : Nat) :
    statusData d ⟨s, m, n, .noData, []⟩ = (statusMid s m (d.drop n)).since n [] := by
  simp only [statusMid, statusData, drop_zero, nil_append, Nat.zero_add]
  cases ofCode m.1.statusCode with
  | bare | withString => split_ifs <;> rfl
  | unknown => rfl

theorem parseRptStatus_mid (hs : s.block.consumingBadBlock = false)
    (hp : s.block.parsedHeader = true) : parseRptStatus pal s m d = statusMid s m d := by
  simp only [parseRptStatus, start_mid hs hp, hp, if_true]
  rfl

theorem statusMid_unknown (h : ofCode m.1.statusCode = .unknown) :
    statusMid s m d = skipAt (fun b s => { s with block := b }) s.block s m d
      [.status m.1.statusCode s.block.room] := by
  simp [statusMid, statusData, h, skipAt]

theorem consumeBadBlock_again (b : PduBlockState) (n : Nat) :
    consumeBadBlock (consumeBadBlock b n).1 (n - (consumeBadBlock b n).2.1) =
      ((consumeBadBlock b n).1, 0, (consumeBadBlock b n).2.2) := by
  by_cases hr : b.room ≤ n
  · have hzero : ({ b with sizeParsed := b.blockSize } : PduBlockState).room = 0 := sizeSub_self _
    rw [consumeBadBlock_of_le hr, consumeBadBlock_of_le (by rw [hzero]; exact zero_le), hzero]
  · have hlt : n < b.room := by omega
    have hroom := room_eat (le_of_lt hlt)
    rw [consumeBadBlock_of_lt hlt, consumeBadBlock_of_lt (by rw [hroom]; simp only; omega)]
    simp [eat]

theorem parseRptStatus_consuming (hs : s.block.consumingBadBlock = true)
    (hp : s.block.parsedHeader = true) (h : ofCode m.1.statusCode = .unknown) :
    ∃ lg, (∀ x ∈ lg, CutSafe x) ∧ parseRptStatus pal s m d =
      skipAt (fun b s => { s with block := b }) s.block s m d lg := by
  refine ⟨[.status m.1.statusCode (consumeBadBlock s.block d.length).1.room], ?_, ?_⟩
  · simp [CutSafe, h]
  · have hagain := consumeBadBlock_again s.block d.length
    simp only [parseRptStatus, start_skip (.inl hs), skipAt, consumeBadBlock_parsedHeader, hp,
      if_true, statusData, h, length_drop, hagain, nil_append, Nat.add_zero]

theorem statusMid_resumes {e : Bytes} (hs : s.block.consumingBadBlock = false)
    (hp : s.block.parsedHeader = true) (hc : (statusMid s m (d ++ e)).Clean CutSafe) :
    Resumes parseVerdict CutSafe StatusInv (parseRptStatus pal) s m d e := by
  have hmid : ∀ x, parseRptStatus pal s m x = statusMid s m x := fun x => parseRptStatus_mid hs hp
  have hev : CutSafe (.status m.1.statusCode s.block.room) := by
    apply hc
    simp only [statusMid, statusData]
    cases ofCode m.1.statusCode with
    | bare | withString => split_ifs <;> simp
    | unknown => simp
  -- a call that is through, and to which more data makes no difference
  have done : statusMid s m d = statusMid s m (d ++ e) →
      parseVerdict.final (statusMid s m (d ++ e)).res →
      (statusMid s m (d ++ e)).used ≤ d.length →
      Resumes parseVerdict CutSafe StatusInv (parseRptStatus pal) s m d e := by
    intro heq hf hu
    refine ofDone ((hmid d).trans heq) (fun h => parseVerdict.susp_not_final _ h hf) hc hu
      ?_ (fun h => absurd hf h) (.of_eq (hmid _))
    rcases hf with hf | hf <;> simp [hf]
  cases hk : ofCode m.1.statusCode with
  | unknown =>
    refine ofSkip (fun b s => { s with block := b }) (fun _ _ _ => rfl)
      (by simpa using hev) ((hmid d).trans (statusMid_unknown hk))
      ((hmid _).trans (statusMid_unknown hk)) fun _ => ⟨fun _ _ => hk, ?_⟩
    exact parseRptStatus_consuming rfl hp hk
  | bare =>
    have hroom : s.block.room = 0 := by simpa [CutSafe, hk] using hev
    have hfull := fun n => consumeBadBlock_of_le (show s.block.room ≤ n by omega)
    apply done <;> simp only [statusMid, statusData, hk, hfull] <;> split_ifs <;> simp [hroom]
  | withString =>
    have hroom : s.block.room ≤ 1024 := by simpa [CutSafe, hk] using hev
    have hmax : ¬ s.block.room > rptStatusStringMaxlen := not_lt.mpr hroom
    by_cases hzero : s.block.room = 0
    · apply done <;> simp [statusMid, statusData, hk, hzero]
    by_cases hlen : s.block.room ≤ d.length
    · have hlen' : s.block.room ≤ d.length + e.length := by omega
      apply done <;> simp [statusMid, statusData, hk, hzero, hmax, hlen, hlen', take_append_of_le_length hlen]
    · refine waitLog [.status m.1.statusCode s.block.room] rfl (by simp) ?_ ?_
        (by simpa using hev) ?_
      · intro h
        simp [hs] at h
      · simp [hmid, statusMid, statusData, hk, hzero, hmax, hlen]
      · rw [hmid]
        exact hc

theorem parseRptStatus_resumable (hpal : pal.Lawful) :
    Resumable parseVerdict CutSafe StatusInv (parseRptStatus pal) := by
  intro s m d e hI hc
  by_cases hp : s.block.parsedHeader = true
  · by_cases hs : s.block.consumingBadBlock = true
    · have hk := hI hs hp
      have hskip : ∀ (b : PduBlockState) x, b.consumingBadBlock = true → b.parsedHeader = true →
          ∃ lg, (∀ x ∈ lg, CutSafe x) ∧ parseRptStatus pal { s with block := b } m x =
            skipAt (fun b s => { s with block := b }) b { s with block := b } m x lg :=
        fun b x h1 h2 => parseRptStatus_consuming h1 h2 hk
      obtain ⟨lg, hlg, hd⟩ := hskip s.block d hs hp
      obtain ⟨lg', -, hde⟩ := hskip s.block (d ++ e) hs hp
      exact ofSkip (fun b s => { s with block := b }) (fun _ _ _ => rfl) hlg hd hde
        fun _ => ⟨fun _ _ => hk, hskip (s.block.eat d.length) e rfl hp⟩
    · rw [Bool.not_eq_true] at hs
      rw [parseRptStatus_mid hs hp] at hc
      exact statusMid_resumes hs hp hc
  rw [Bool.not_eq_true] at hp
  -- no header has been accepted: the call is that of the first half
  have call : ∀ {s : Pdu Unit} {x lg}, s.block.parsedHeader = false →
      (statusLayer pal).start s m x = skipAt (fun b s => { s with block := b }) s.block s m x lg →
      parseRptStatus pal s m x = skipAt (fun b s => { s with block := b }) s.block s m x lg := by
    intro s x lg hp h
    simp only [parseRptStatus, h]
    simp [skipAt, hp]
  have hskip : ∀ lg, (∀ x ∈ lg, CutSafe x) →
      (statusLayer pal).start s m d = skipAt (fun b s => { s with block := b }) s.block s m d lg →
      (statusLayer pal).start s m (d ++ e) =
        skipAt (fun b s => { s with block := b }) s.block s m (d ++ e) lg →
      Resumes parseVerdict CutSafe StatusInv (parseRptStatus pal) s m d e := by
    intro lg hlg h h'
    refine ofSkip (fun b s => { s with block := b }) (fun _ _ _ => rfl) hlg
      (call hp h) (call hp h') fun _ => ⟨fun _ h => ?_, [], by simp, ?_⟩
    · simp [eat, hp] at h
    · exact call (by simpa [eat] using hp) (start_skip (.inl rfl))
  by_cases hbad : s.block.consumingBadBlock = true ∨ s.block.room < rptStatusHeaderSize
  · have h := fun x => start_skip (L := statusLayer pal) (m := m) (d := x)
      (hbad.imp_right fun h => ⟨hp, h⟩)
    exact hskip [] (by simp) (h d) (h (d ++ e))
  rw [not_or, Bool.not_eq_true, Nat.not_lt] at hbad
  obtain ⟨hs, hroom⟩ := hbad
  by_cases hlen : d.length < rptStatusHeaderSize
  · refine wait rfl (by simp) hI ?_ hc
    simp only [parseRptStatus]
    rw [start_wait hs hp hroom hlen]
    simp [hp]
  have h5 : 5 ≤ d.length := not_lt.mp hlen
  have h5' : 5 ≤ (d ++ e).length := by rw [length_append]; omega
  have hL := hpal.length_append d e (by omega)
  have hV : u16At (d ++ e) 3 = u16At d 3 := u16At_append e (by omega)
  by_cases hacc : rptStatusHeaderSize ≤ pal.acnPduLength d ∧ s.block.blockSize ≤ pal.acnPduLength d
  swap
  · have hrej : ∀ x, pal.acnPduLength x = pal.acnPduLength d →
        (statusLayer pal).header s.block m x = (.reject 0, []) := by
      intro x hx
      simp only [statusLayer, hx, if_neg hacc]
    have h := start_reject hs hp hroom h5 (hrej d rfl)
    have h' := start_reject hs hp hroom h5' (hrej _ hL)
    rw [after_zero] at h h'
    exact hskip [] (by simp) h h'
  -- behind the header the call goes on with the status
  let s1 : Pdu Unit := ⟨{ s.block.advance rptStatusHeaderSize with parsedHeader := true }, ()⟩
  let m1 : RptStatusMsg × Heap := ({ m.1 with statusCode := u16At d 3 }, m.2)
  have head : ∀ x, 5 ≤ x.length → pal.acnPduLength x = pal.acnPduLength d →
      u16At x 3 = u16At d 3 →
      parseRptStatus pal s m x = (parseRptStatus pal s1 m1 (x.drop 5)).since 5 [] := by
    intro x hx hl hv
    have hh : (statusLayer pal).header s.block m x = (.accept () m1, []) := by
      simp only [statusLayer, hl, if_pos hacc, hv, m1]
    rw [parseRptStatus_mid (s := s1) hs rfl, ← statusData_since]
    simp only [parseRptStatus]
    rw [start_accept hs hp hroom hx hh]
    rfl
  have hde := head (d ++ e) h5' hL hV
  rw [drop_append_of_le_length h5] at hde
  rw [hde] at hc
  have hc1 := (clean_since.mp hc).2
  rw [parseRptStatus_mid (s := s1) hs rfl] at hc1
  exact step h5 (by simp) (head d h5 rfl rfl) hde (statusMid_resumes (s := s1) hs rfl hc1)

end Status

end RDMnet
