import RDMnet.MsgBuf.ResumeData

/-!
# Suspending client lists

`parse_client_list` and `parse_rpt_client_list`, which nest a client entry in a loop.
-/

namespace RDMnet

open Out List Event Resumes PduBlockState ClientListState RDMnet.Parser Arr

/-! ### More about client entries -/

section Entry

variable {pal : EtcPal} {μ : Type} {setProtocol : UInt32 → μ → μ}
  {modifyEntry : (RptClientEntry → RptClientEntry) → μ → μ}

variable {m : μ}

theorem parseSingleClientEntry_msg {Q : μ → Prop} (hset : ∀ p m, Q m → Q (setProtocol p m))
    (hmod : ∀ f m, Q m → Q (modifyEntry f m)) (s : ClientEntryState) (d : Bytes)
    (hm : Q m) : Q (parseSingleClientEntry pal setProtocol modifyEntry s m d).msg := by
  have hh : Q (clientEntryHeader pal modifyEntry s m d).msg := by
    simp only [clientEntryHeader]
    split_ifs
    · exact hm
    · exact hmod _ _ hm
    · exact hm
  simp only [parseSingleClientEntry, clientEntryData]
  split_ifs
  · exact hh
  · exact hset _ _ hh
  · exact hset _ _ hh
  · exact hmod _ _ (hset _ _ hh)
  · exact hset _ _ hh
  · exact hset _ _ hh
  · exact hset _ _ hh

variable {s : ClientEntryState} {d : Bytes}

theorem parseSingleClientEntry_ok_used
    (h : (parseSingleClientEntry pal setProtocol modifyEntry s m d).res = .fullBlockParseOk) :
    rptClientEntryDataSize ≤ (parseSingleClientEntry pal setProtocol modifyEntry s m d).used := by
  have hne : ∀ b n, (consumeBadBlock b n).2.2 ≠ .fullBlockParseOk := fun b n => by
    simp only [consumeBadBlock]
    split_ifs <;> simp
  have hh : (clientEntryHeader pal modifyEntry s m d).res ≠ .fullBlockParseOk := by
    simp only [clientEntryHeader]
    split_ifs
    · exact hne _ _
    · simp
    · simp
  simp only [parseSingleClientEntry, clientEntryData] at h ⊢
  split_ifs at h ⊢
  · exact absurd h hh
  · exact absurd h (hne _ _)
  · exact absurd h (hne _ _)
  · exact Nat.le_add_left _ _
  · exact absurd h hh
  · exact absurd h (hne _ _)
  · exact absurd h (hne _ _)

def ClientEntryState.Waiting (s : ClientEntryState) : Prop :=
  s.clientProtocol = kClientProtocolUnknown ∨
  (s.clientProtocol ≠ kClientProtocolUnknown ∧
    ((s.entryData.consumingBadBlock = true ∧ 0 < s.entryData.room) ∨ ¬ s.Bad))

theorem waiting_of_known (h : s.clientProtocol ≠ kClientProtocolUnknown)
    (hr : (parseSingleClientEntry pal setProtocol modifyEntry s m d).res = .noData) :
    (parseSingleClientEntry pal setProtocol modifyEntry s m d).st.Waiting := by
  rw [parseSingleClientEntry_known h] at hr ⊢
  by_cases hbad : s.Bad
  · rw [clientEntryData_bad m d hbad] at hr ⊢
    by_cases hroom : s.entryData.room ≤ d.length
    · rw [skipAt, consumeBadBlock_of_le hroom] at hr
      cases hr
    · rw [skipAt, consumeBadBlock_of_lt (by omega)]
      refine .inr ⟨h, .inl ⟨rfl, ?_⟩⟩
      simp only [room_eat (show d.length ≤ s.entryData.room by omega)]
      omega
  · rw [clientEntryData_good m d hbad] at hr ⊢
    split_ifs at hr ⊢
    exact .inr ⟨h, .inr hbad⟩

theorem waiting_of_noData (hc : (parseSingleClientEntry pal setProtocol modifyEntry s m d).Clean CutSafe)
    (hr : (parseSingleClientEntry pal setProtocol modifyEntry s m d).res = .noData) :
    (parseSingleClientEntry pal setProtocol modifyEntry s m d).st.Waiting := by
  by_cases h : s.clientProtocol = kClientProtocolUnknown
  swap
  · exact waiting_of_known h hr
  by_cases hlen : clientEntryHeaderSize ≤ d.length
  · have hev := hc _ (parseSingleClientEntry_header_log h hlen)
    rw [parseSingleClientEntry_header m h hlen hev.1 hev.2, since_res] at hr
    rw [parseSingleClientEntry_header m h hlen hev.1 hev.2, since_st]
    exact waiting_of_known hev.1 hr
  · simp only [parseSingleClientEntry, clientEntryHeader, h, hlen, and_false, if_false, if_true]
    exact .inl h

theorem entry_idle (hset : ∀ p m, setProtocol p m = m) (hw : s.Waiting)
    (hu : (parseSingleClientEntry pal setProtocol modifyEntry s m d).used = 0) :
    parseSingleClientEntry pal setProtocol modifyEntry s m d = ⟨s, m, 0, .noData, []⟩ := by
  rcases hw with h | ⟨h, hw⟩
  · by_cases hlen : clientEntryHeaderSize ≤ d.length
    · exfalso
      have hh : clientEntryHeaderSize ≤ (clientEntryHeader pal modifyEntry s m d).used := by
        simp only [clientEntryHeader, h, hlen, and_self, if_true]
        split_ifs
        · exact Nat.le_add_right _ _
        · exact le_rfl
      have hle : (clientEntryHeader pal modifyEntry s m d).used ≤
          (parseSingleClientEntry pal setProtocol modifyEntry s m d).used := by
        simp only [parseSingleClientEntry, clientEntryData]
        split_ifs <;> simp
      have h23 : (23 : Nat) ≤ (clientEntryHeader pal modifyEntry s m d).used := hh
      omega
    · simp [parseSingleClientEntry, clientEntryHeader, h, hlen]
  · rw [parseSingleClientEntry_known h] at hu ⊢
    rcases hw with ⟨hcons, hroom⟩ | hgood
    · rw [clientEntryData_bad m d (.inl hcons)] at hu ⊢
      by_cases hr : s.entryData.room ≤ d.length
      · rw [skipAt, consumeBadBlock_of_le hr] at hu
        simp only at hu
        omega
      · rw [skipAt, consumeBadBlock_of_lt (by omega)] at hu ⊢
        have hd : d.length = 0 := hu
        have heat : s.entryData.eat 0 = s.entryData := by
          cases hb : s.entryData
          rw [hb] at hcons
          simp_all [eat]
        simp only [hd, heat, hset]
    · rw [clientEntryData_good m d hgood] at hu ⊢
      split_ifs at hu ⊢
      rw [hset]

end Entry

/-! ### Client lists -/

section ClientList

variable {pal : EtcPal}

def MsgList.Live {α : Type} (l : MsgList α) : Prop :=
  l.items.isNull = false ∧ l.items.isFreed = false

variable {m : MsgList RptClientEntry × Heap}

variable (pal) in
theorem parseLastClientEntry_live (s : ClientEntryState)
    (d : Bytes) (h : m.1.Live) : (parseLastClientEntry pal s m d).msg.1.Live :=
  parseSingleClientEntry_msg (Q := fun m : MsgList RptClientEntry × Heap => m.1.Live) (fun _ _ hm => hm)
    (fun f m hm => ⟨(isNull_modifyLast f m.1.items).trans hm.1,
      (isFreed_modifyLast f m.1.items).trans hm.2⟩) s d h

theorem parseLastClientEntry_resumable (hpal : pal.Lawful) :
    Resumable parseVerdict CutSafe (fun _ _ => True) (parseLastClientEntry pal) :=
  parseSingleClientEntry_resumable hpal fun _ _ => rfl

def EntryChecked (s : ClientListState) (d : Bytes)
    (c : Out ClientEntryState (MsgList RptClientEntry × Heap) ParseRes Event) : Prop :=
  c.used ≤ d.length ∧ s.block.sizeParsed + c.used ≤ s.block.blockSize

variable {s : ClientListState} {d : Bytes}

theorem rptClientListEntry_eq (h : EntryChecked s d (parseLastClientEntry pal s.entry m d)) :
    rptClientListEntry pal s m d = rptClientListNext s d.length (parseLastClientEntry pal s.entry m d) := by
  simp only [rptClientListEntry, h.1, h.2, and_self, if_true]

theorem rptClientListNext_log (s : ClientListState) (n : Nat)
    (c : Out ClientEntryState (MsgList RptClientEntry × Heap) ParseRes Event) :
    (rptClientListNext s n c).log = c.log ++ [.check true] := by
  simp only [rptClientListNext]
  split <;> rfl

theorem rptClientListEntry_clean (hc : (rptClientListEntry pal s m d).Clean CutSafe) :
    (parseLastClientEntry pal s.entry m d).Clean CutSafe ∧
      EntryChecked s d (parseLastClientEntry pal s.entry m d) := by
  by_cases h : EntryChecked s d (parseLastClientEntry pal s.entry m d)
  · rw [rptClientListEntry_eq h] at hc
    refine ⟨fun x hx => hc x ?_, h⟩
    rw [rptClientListNext_log]
    exact mem_append_left _ hx
  · unfold EntryChecked at h
    simp only [rptClientListEntry] at hc
    rw [if_neg h] at hc
    cases hc (.check false) (by simp)

def listRound (pal : EtcPal) :
    Parser UInt8 ClientListState (MsgList RptClientEntry × Heap) (Option ParseRes) Event :=
  fun s m d =>
    if s.block.consumingBadBlock then
      (skipAt (fun b s => { s with block := b }) s.block s m d []).map some
    else rptClientListRound pal 0 s m d

def ListInv (s : ClientListState) (m : MsgList RptClientEntry × Heap) : Prop :=
  (s.block.consumingBadBlock = true → s.block.parsedHeader = false) ∧
  (s.block.parsedHeader = true → m.1.Live ∧ s.block.sizeParsed ≤ s.block.blockSize)

theorem rptClientListNext_same (n : Nat)
    {a b : Out ClientEntryState (MsgList RptClientEntry × Heap) ParseRes Event} (h : Same parseVerdict a b) :
    Same parseVerdict.round (rptClientListNext s n a) (rptClientListNext s n b) := by
  obtain ⟨hu, hr, hm, hst⟩ := h
  have hst' : ¬ parseVerdict.final b.res → a.st = b.st := fun hf => hst (hr ▸ hf)
  simp only [rptClientListNext, hu, hr, hm]
  cases hb : b.res <;> simp only <;>
    first | exact .refl _ | exact ⟨rfl, rfl, rfl, fun _ => rfl⟩ | skip
  all_goals
    rw [hst' (by simp [hb])]
    exact ⟨rfl, rfl, rfl, fun _ => rfl⟩

theorem rptClientListNext_after (s : ClientListState) (n k : Nat) (x : ClientEntryState)
    (c : Out ClientEntryState (MsgList RptClientEntry × Heap) ParseRes Event) :
    Same parseVerdict.round (rptClientListNext s (k + n) (c.after k))
      ((rptClientListNext ⟨s.block.advance k, x⟩ n c).after k) := by
  have hblock : (s.block.advance k).advance c.used = s.block.advance (k + c.used) := by
    simp [advance, Nat.add_assoc]
  have hsub : k + n - (k + c.used) = n - c.used := by omega
  simp only [rptClientListNext, after_res, after_used, hblock, hsub]
  cases c.res <;> exact ⟨by simp only [after_used, Nat.add_assoc], rfl, rfl, fun _ => rfl⟩

variable (pal) in
theorem listRound_mid (d : Bytes) (hI : ListInv s m) (hp : s.block.parsedHeader = true)
    (hlt : s.block.sizeParsed < s.block.blockSize) : listRound pal s m d = rptClientListEntry pal s m d := by
  have hcons : s.block.consumingBadBlock = false := by
    cases h : s.block.consumingBadBlock with
    | false => rfl
    | true => have := hI.1 h; simp [hp] at this
  obtain ⟨⟨h1, h2⟩, -⟩ := hI.2 hp
  simp [listRound, hcons, rptClientListRound, hlt, hp, h1, h2]

variable (pal) in
theorem listRound_skip (d : Bytes) (h : s.block.consumingBadBlock = true) : listRound pal s m d =
      (skipAt (fun b s => { s with block := b }) s.block s m d []).map some := by
  simp [listRound, h]

variable {c : Out ClientEntryState (MsgList RptClientEntry × Heap) ParseRes Event}

theorem clean_listNext {n : Nat} (h : c.Clean CutSafe) : (rptClientListNext s n c).Clean CutSafe := by
  unfold Clean
  rw [rptClientListNext_log]
  exact clean_append h (by simp [CutSafe])

variable {e : Bytes}

section Rounds

variable {c' : Out ClientEntryState (MsgList RptClientEntry × Heap) ParseRes Event}
  (hu : c.used ≤ d.length) (hd : listRound pal s m d = rptClientListNext s d.length c)
  (hcl : (rptClientListNext s d.length c).Clean CutSafe)
  (hde : listRound pal s m (d ++ e) = rptClientListNext s (d ++ e).length c')

include hu hd hcl hde

theorem listRound_resumes_ok (hr : c.res = .fullBlockParseOk) (hsame : Same parseVerdict c' c) :
    Resumes parseVerdict.round CutSafe ListInv (listRound pal) s m d e := by
  have hnext : ∀ n, rptClientListNext s n c =
      ⟨⟨{ s.block.advance c.used with parsedHeader := false }, default⟩, c.msg, c.used,
        if (s.block.advance c.used).sizeParsed ≠ (s.block.advance c.used).blockSize then none
        else some .fullBlockParseOk, c.log ++ [.check true]⟩ := by
    intro n
    simp only [rptClientListNext, hr]
  have hS := rptClientListNext_same (s := s) (d ++ e).length hsame
  rw [hnext] at hd hcl hS
  rw [← hde] at hS
  refine ofDone hd ?_ hcl hu ?_ ?_ hS
  · rintro ⟨x, hx, rfl⟩
    simp only at hx
    split_ifs at hx
    cases hx
  · intro x hx
    simp only at hx
    split_ifs at hx
    cases hx
    simp
  · exact fun _ => ⟨fun _ => rfl, fun h => by cases h⟩

theorem listRound_resumes_err (hr : c.res = .fullBlockProtErr) (hsame : Same parseVerdict c' c) :
    Resumes parseVerdict.round CutSafe ListInv (listRound pal) s m d e := by
  let b : PduBlockState := { s.block.advance c.used with parsedHeader := false }
  have hnext : ∀ n, rptClientListNext s n c =
      ⟨⟨(consumeBadBlock b (n - c.used)).1, default⟩, c.msg,
        c.used + (consumeBadBlock b (n - c.used)).2.1, some (consumeBadBlock b (n - c.used)).2.2,
        c.log ++ [.check true]⟩ := by
    intro n
    simp only [rptClientListNext, hr, b]
  have hS := rptClientListNext_same (s := s) (d ++ e).length hsame
  rw [← hde, hnext] at hS
  rw [hnext] at hd hcl
  have hlen : (d ++ e).length - c.used = (d.length - c.used) + e.length := by
    rw [length_append]
    omega
  by_cases hroom : b.room ≤ d.length - c.used
  · rw [consumeBadBlock_of_le hroom] at hd hcl
    rw [hlen, consumeBadBlock_of_le (by omega)] at hS
    refine ofDone hd ?_ hcl (by simp only; omega) ?_ ?_ hS
    · rintro ⟨x, hx, rfl⟩
      cases hx
    · rintro x ⟨⟩
      simp
    · exact fun h => absurd ⟨_, rfl, .inr rfl⟩ h
  · have hlt : d.length - c.used < b.room := by omega
    rw [consumeBadBlock_of_lt hlt] at hd hcl
    have hdrop : d.drop (c.used + (d.length - c.used)) ++ e = e := by
      rw [drop_of_length_le (by omega), nil_append]
    have hI : ListInv ⟨b.eat (d.length - c.used), default⟩ c.msg :=
      ⟨fun _ => rfl, fun h => by cases h⟩
    have hmore : listRound pal ⟨b.eat (d.length - c.used), default⟩ c.msg
        (d.drop (c.used + (d.length - c.used)) ++ e) = _ := listRound_skip _ _ rfl
    refine ofMore hd ⟨_, rfl, rfl⟩ hcl (by simp only; omega) ?_ hI hmore ?_ ?_
    · rintro x ⟨⟩
      simp
    · simp [Clean, Out.map, skipAt]
    · obtain ⟨h1, h2, h3⟩ := consumeBadBlock_split e.length hlt
      refine hS.trans ?_
      rw [hlen, hdrop]
      simp only [skipAt, Out.map]
      refine ⟨?_, congrArg some h2, rfl, fun hf => ?_⟩
      · simp only [after_used]
        omega
      · simp only [after_st]
        rw [h3 fun hfull => hf ⟨_, rfl, .inr hfull⟩]

theorem listRound_resumes_noData (hr : c.res = .noData) (hsame : Same parseVerdict c'
      ((parseLastClientEntry pal c.st c.msg (d.drop c.used ++ e)).after c.used))
    (hcl2 : (parseLastClientEntry pal c.st c.msg (d.drop c.used ++ e)).Clean CutSafe)
    (hu2 : (parseLastClientEntry pal c.st c.msg (d.drop c.used ++ e)).used ≤ (d.drop c.used ++ e).length)
    (hb2 : s.block.sizeParsed + c.used +
      (parseLastClientEntry pal c.st c.msg (d.drop c.used ++ e)).used ≤ s.block.blockSize)
    (hw : c.st.Waiting) (hI : ListInv s m) (hp : s.block.parsedHeader = true)
    (hlive : c.msg.1.Live) (hb : s.block.sizeParsed + c.used ≤ s.block.blockSize) :
    Resumes parseVerdict.round CutSafe ListInv (listRound pal) s m d e := by
  have hnext : ∀ n, rptClientListNext s n c =
      ⟨⟨s.block.advance c.used, c.st⟩, c.msg, c.used, some .noData, c.log ++ [.check true]⟩ := by
    intro n
    simp only [rptClientListNext, hr]
  rw [hnext] at hd hcl
  have hI1 : ListInv ⟨s.block.advance c.used, c.st⟩ c.msg := ⟨hI.1, fun _ => ⟨hlive, hb⟩⟩
  by_cases hlt : s.block.sizeParsed + c.used < s.block.blockSize
  · have hmid := listRound_mid pal (d.drop c.used ++ e) hI1 hp hlt
    rw [rptClientListEntry_eq ⟨hu2, hb2⟩] at hmid
    refine ofMore hd ⟨_, rfl, rfl⟩ hcl hu (by rintro x ⟨⟩; simp) hI1 hmid
      (clean_listNext hcl2) ?_
    rw [hde]
    refine (rptClientListNext_same _ hsame).trans ?_
    have hlen : (d ++ e).length = c.used + (d.drop c.used ++ e).length := by
      simp only [length_append, length_drop]
      omega
    rw [hlen]
    exact rptClientListNext_after _ _ _ _ _
  · -- the block is used up: what resumes the entry takes nothing and changes nothing
    have hidle : parseLastClientEntry pal c.st c.msg (d.drop c.used ++ e) =
        ⟨c.st, c.msg, 0, .noData, []⟩ := entry_idle (fun _ _ => rfl) hw (by
          show (parseLastClientEntry pal c.st c.msg (d.drop c.used ++ e)).used = 0
          omega)
    have hcons : s.block.consumingBadBlock = false := by
      cases h : s.block.consumingBadBlock with
      | false => rfl
      | true => have := hI.1 h; simp [hp] at this
    have hstop : listRound pal ⟨s.block.advance c.used, c.st⟩ c.msg (d.drop c.used ++ e) =
        ⟨⟨s.block.advance c.used, c.st⟩, c.msg, 0, some .noData, []⟩ := by
      simp [listRound, rptClientListRound, advance, hcons, hlt]
    refine ofMore hd ⟨_, rfl, rfl⟩ hcl hu (by rintro x ⟨⟩; simp) hI1 hstop
      (by simp [Clean]) ?_
    rw [hde]
    refine (rptClientListNext_same _ hsame).trans ?_
    rw [hidle]
    exact ⟨rfl, rfl, rfl, fun _ => rfl⟩

end Rounds

theorem listRound_resumes_mid (hpal : pal.Lawful) (hI : ListInv s m)
    (hp : s.block.parsedHeader = true) (hlt : s.block.sizeParsed < s.block.blockSize)
    (hc : (listRound pal s m (d ++ e)).Clean CutSafe) :
    Resumes parseVerdict.round CutSafe ListInv (listRound pal) s m d e := by
  have hE := parseLastClientEntry_resumable hpal
  rw [listRound_mid _ _ hI hp hlt] at hc
  obtain ⟨hcl, hchk⟩ := rptClientListEntry_clean hc
  have R := hE s.entry m d e trivial hcl
  have hde := (listRound_mid _ (d ++ e) hI hp hlt).trans (rptClientListEntry_eq hchk)
  have hlive := parseLastClientEntry_live pal s.entry d (hI.2 hp).1
  have hle : (parseLastClientEntry pal s.entry m d).used ≤
      (parseLastClientEntry pal s.entry m (d ++ e)).used := by
    by_cases hs : (parseLastClientEntry pal s.entry m d).res = .noData
    · have := (R.more hs).2.used
      simp only [after_used] at this
      omega
    · exact le_of_eq (R.done hs).used.symm
  have hchk1 : EntryChecked s d (parseLastClientEntry pal s.entry m d) :=
    ⟨R.used_le, by have := hchk.2; omega⟩
  have hd := (listRound_mid _ d hI hp hlt).trans (rptClientListEntry_eq hchk1)
  have hclean1 := clean_listNext (s := s) (n := d.length) R.clean
  have hw : (parseLastClientEntry pal s.entry m d).res.Whole := parseSingleClientEntry_whole _ _ _
  rcases hw with hr | hr | hr
  · obtain ⟨hcl2, hsame⟩ := R.more hr
    have hu := hsame.used
    simp only [after_used] at hu
    exact listRound_resumes_noData R.used_le hd hclean1 hde hr hsame hcl2
      (hE.call trivial hcl2).used_le (by have := hchk.2; omega) (waiting_of_noData R.clean hr) hI hp
      hlive hchk1.2
  · exact listRound_resumes_ok R.used_le hd hclean1 hde hr (R.done (by simp [hr]))
  · exact listRound_resumes_err R.used_le hd hclean1 hde hr (R.done (by simp [hr]))

/-! The loop of `parse_rpt_client_list` ends: every round takes an entry or an allocation. -/

theorem Heap.alloc_script (h : Heap) : h.alloc.2.script.length ≤ h.script.length := by
  unfold Heap.alloc
  split <;> simp_all

theorem rptClientListEntry_none (h : (rptClientListEntry pal s m d).res = none) :
    0 < (rptClientListEntry pal s m d).used ∧ (rptClientListEntry pal s m d).used ≤ d.length ∧
    (rptClientListEntry pal s m d).msg.2 = m.2 ∧ (rptClientListEntry pal s m d).st =
      ⟨{ s.block.advance (rptClientListEntry pal s m d).used with parsedHeader := false }, default⟩ := by
  have hheap : (parseLastClientEntry pal s.entry m d).msg.2 = m.2 := by
    unfold parseLastClientEntry
    refine parseSingleClientEntry_msg (Q := fun x : MsgList RptClientEntry × Heap => x.2 = m.2)
      ?_ ?_ s.entry d rfl
    · exact fun _ _ hm => hm
    · exact fun _ _ hm => hm
  by_cases hchk : EntryChecked s d (parseLastClientEntry pal s.entry m d)
  · rw [rptClientListEntry_eq hchk] at h ⊢
    cases hr : (parseLastClientEntry pal s.entry m d).res <;>
      simp only [rptClientListNext, hr] at h ⊢ <;> try cases h
    have hu := parseSingleClientEntry_ok_used hr
    have h23 : 23 ≤ (parseLastClientEntry pal s.entry m d).used := hu
    exact ⟨by omega, hchk.1, hheap, trivial⟩
  · unfold EntryChecked at hchk
    simp only [rptClientListEntry] at h
    rw [if_neg hchk] at h
    cases h

theorem rptClientListRound_decreases (total : Nat) :
    (rptClientListRound pal total).Decreases (fun _ m d => d.length + m.2.script.length) := by
  intro s m d h
  simp only [rptClientListRound] at h ⊢
  split_ifs at h ⊢ with h1 h2 h3 h4 h5 h6 h7 h8 h9
  · obtain ⟨hpos, hle, hheap, -⟩ := rptClientListEntry_none h
    rw [hheap, length_drop]
    omega
  · obtain ⟨hpos, hle, hheap, -⟩ := rptClientListEntry_none h
    have := Heap.alloc_script m.2
    simp only [since_used, since_msg, hheap, length_drop, Nat.zero_add]
    omega
  · simp only [drop_zero]
    have hs : m.2.alloc.2.script.length < m.2.script.length := by
      unfold Heap.alloc
      split <;> simp_all
    omega

theorem listRound_decreases : (listRound pal).Decreases (fun _ m d => d.length + m.2.script.length) := by
  intro s m d h
  by_cases hcons : s.block.consumingBadBlock = true
  · simp [listRound, hcons, Out.map] at h
  · simp only [listRound, hcons, if_false, Bool.false_eq_true] at h ⊢
    exact rptClientListRound_decreases 0 s m d h

def ClientListState.begun (s : ClientListState) : ClientListState :=
  ⟨{ s.block with parsedHeader := true }, .start s.block.blockSize⟩

def MsgList.grown (m : MsgList RptClientEntry × Heap) : MsgList RptClientEntry × Heap :=
  ({ m.1 with items := m.1.items.push default }, m.2.alloc.2)

variable (pal) in
theorem listRound_begin (hcons : s.block.consumingBadBlock = false)
    (hlt : s.block.sizeParsed < s.block.blockSize) (hp : s.block.parsedHeader = false)
    (hlen : clientEntryHeaderSize ≤ d.length) (hprot : u32At d 3 = kClientProtocolRPT)
    (hfreed : m.1.items.isFreed = false) (halloc : m.2.alloc.1 = true) :
    listRound pal s m d = (listRound pal s.begun (MsgList.grown m) d).since 0
      [.listRoom s.block.room, .listEntry (pal.acnPduLength d) s.block.room
        (s.begun.entry.known (u32At d 3) (pal.acnPduLength d)), .alloc true] := by
  have hI : ListInv s.begun (MsgList.grown m) :=
    ⟨fun h => by simp [begun, hcons] at h,
      fun _ => ⟨⟨isNull_push _ _, isFreed_push _ _⟩, le_of_lt hlt⟩⟩
  rw [listRound_mid _ d hI rfl hlt]
  simp only [listRound, hcons, rptClientListRound, hlt, hp, hprot, hfreed, halloc,
    not_lt.mpr hlen, not_true_eq_false, if_false, if_true, ne_eq, Bool.false_eq_true,
    begun, MsgList.grown, cons_append, nil_append]

theorem listRound_begin_clean (hcons : s.block.consumingBadBlock = false)
    (hlt : s.block.sizeParsed < s.block.blockSize) (hp : s.block.parsedHeader = false)
    (hlen : clientEntryHeaderSize ≤ d.length) (hc : (listRound pal s m d).Clean CutSafe) :
    u32At d 3 = kClientProtocolRPT ∧ m.1.items.isFreed = false ∧ m.2.alloc.1 = true := by
  simp only [listRound, hcons, rptClientListRound, hlt, hp, not_lt.mpr hlen,
    not_true_eq_false, if_false, ne_eq, Bool.false_eq_true] at hc
  by_cases hprot : u32At d 3 = kClientProtocolRPT
  swap
  · rw [if_pos hprot] at hc
    exact absurd (hc (.foreignEntry s.block.room (0 - d.length) d.length) (by simp)) id
  rw [if_neg (not_not.mpr hprot)] at hc
  cases hfreed : m.1.items.isFreed with
  | true =>
    rw [if_pos hfreed] at hc
    exact absurd (hc .touchFreed (by simp)) id
  | false =>
    rw [if_neg (by simp [hfreed])] at hc
    cases halloc : m.2.alloc.1 with
    | true => exact ⟨hprot, rfl, rfl⟩
    | false =>
      rw [if_neg (by simp [halloc])] at hc
      cases hc (.alloc false) (by simp)

/-- **A round of a client list is resumable.** -/
theorem listRound_resumable (hpal : pal.Lawful) :
    Resumable parseVerdict.round CutSafe ListInv (listRound pal) := by
  intro s m d e hI hc
  by_cases hcons : s.block.consumingBadBlock = true
  · -- the rest of the list is skipped
    have hp := hI.1 hcons
    refine ofSkipMap skipVerdict_some (fun b s => { s with block := b })
      (fun _ _ _ => rfl) (by simp) (listRound_skip _ d hcons) (listRound_skip _ _ hcons)
      fun _ => ⟨⟨fun _ => hp, fun h => ?_⟩, [], by simp, listRound_skip _ _ rfl⟩
    simp only [eat, hp, Bool.false_eq_true] at h
  rw [Bool.not_eq_true] at hcons
  by_cases hlt : s.block.sizeParsed < s.block.blockSize
  swap
  · refine wait ⟨_, rfl, rfl⟩ (by rintro x ⟨⟩; simp) hI ?_ hc
    simp [listRound, hcons, rptClientListRound, hlt]
  by_cases hp : s.block.parsedHeader = true
  · exact listRound_resumes_mid hpal hI hp hlt hc
  by_cases hlen : d.length < clientEntryHeaderSize
  · refine waitLog [.listRoom s.block.room] ⟨_, rfl, rfl⟩ (by rintro x ⟨⟩; simp)
      hI ?_ (by simp [CutSafe]) hc
    simp [listRound, hcons, rptClientListRound, hlt, hp, hlen]
  have hlen := not_lt.mp hlen
  rw [Bool.not_eq_true] at hp
  have h23 : 23 ≤ d.length := hlen
  have hlen' : clientEntryHeaderSize ≤ (d ++ e).length := by
    rw [length_append]
    exact Nat.le_add_right_of_le hlen
  have hP := u32At_append e (show 3 + 3 < d.length by omega)
  have hL := hpal.length_append d e (by omega)
  obtain ⟨hprot, hfreed, halloc⟩ := listRound_begin_clean hcons hlt hp hlen' hc
  have hde := listRound_begin pal hcons hlt hp hlen' hprot hfreed halloc
  have hI1 : ListInv s.begun (MsgList.grown m) :=
    ⟨fun h => by simp [begun, hcons] at h,
      fun _ => ⟨⟨isNull_push _ _, isFreed_push _ _⟩, le_of_lt hlt⟩⟩
  rw [hde] at hc
  obtain ⟨hlg, hc1⟩ := clean_since.mp hc
  rw [hL, hP] at hde hlg
  refine step (n := 0) zero_le hlg
    (listRound_begin _ hcons hlt hp hlen (hP ▸ hprot) hfreed halloc) hde ?_
  exact listRound_resumes_mid hpal hI1 rfl hlt hc1

/-- The rounds do not depend on the length of the data that the call was given, unless a foreign
entry is met. -/
theorem rptClientListRound_eq (total : Nat) (hs : s.block.consumingBadBlock = false)
    (hc : (rptClientListRound pal total s m d).Clean CutSafe ∨ (listRound pal s m d).Clean CutSafe) :
    rptClientListRound pal total s m d = listRound pal s m d := by
  have hlr : listRound pal s m d = rptClientListRound pal 0 s m d := by simp [listRound, hs]
  rewrite [hlr] at hc ⊢
  simp only [rptClientListRound] at hc ⊢
  split_ifs at hc ⊢ with h1 h2 h3 h4 h5 h6 <;> try rfl
  rcases hc with hc | hc
  · exact absurd (hc (.foreignEntry s.block.room (total - d.length) d.length) (by simp)) id
  · exact absurd (hc (.foreignEntry s.block.room (0 - d.length) d.length) (by simp)) id

theorem rptClientListRound_none {total : Nat} (hs : s.block.consumingBadBlock = false)
    (h : (rptClientListRound pal total s m d).res = none) :
    (rptClientListRound pal total s m d).st.block.consumingBadBlock = false := by
  have hentry : ∀ (s' : ClientListState) m', s'.block.consumingBadBlock = false →
      (rptClientListEntry pal s' m' d).res = none →
      (rptClientListEntry pal s' m' d).st.block.consumingBadBlock = false := by
    intro s' m' hs' h'
    rw [(rptClientListEntry_none h').2.2.2]
    exact hs'
  simp only [rptClientListRound] at h ⊢
  split_ifs at h ⊢
  · exact hentry _ _ hs h
  · exact hentry _ _ hs h
  · exact hs

/-- `parse_rpt_client_list` and `parse_client_list` on an RPT list: the loop of `listRound`. -/
def listLoop (pal : EtcPal) : ParseFn ClientListState (MsgList RptClientEntry × Heap) :=
  (listRound pal).iterate (fun _ m d => d.length + m.2.script.length) .stuck

theorem listLoop_resumable (hpal : pal.Lawful) : Resumable parseVerdict CutSafe ListInv (listLoop pal) :=
  (listRound_resumable hpal).iterate listRound_decreases

theorem listLoop_skip (d : Bytes) (h : s.block.consumingBadBlock = true) :
    listLoop pal s m d = skipAt (fun b s => { s with block := b }) s.block s m d [] := by
  have hr := listRound_skip pal (m := m) d h
  rw [listLoop, iterate_some listRound_decreases .stuck (congrArg res hr), hr]
  rfl

theorem parseRptClientList_eq (hpal : pal.Lawful) (hI : ListInv s m) (hs : s.block.consumingBadBlock = false)
    (hc : (parseRptClientList pal s m d).Clean CutSafe ∨ (listLoop pal s m d).Clean CutSafe) :
    parseRptClientList pal s m d = listLoop pal s m d := by
  have heq : ((rptClientListRound pal d.length).iterate
      (fun _ m d => d.length + m.2.script.length) .stuck s m d) = listLoop pal s m d := by
    refine rounds_congr CutSafe
      (P := fun s => s.block.consumingBadBlock = false) (fun _ _ _ => rptClientListRound_eq _)
      (fun _ _ _ => rptClientListRound_none) _ _ _ _ _ hs (hc.imp_left fun h x hx => h x ?_)
    simp only [parseRptClientList]
    split_ifs <;> exact hx
  have hcl : (listLoop pal s m d).Clean CutSafe := by
    rcases hc with hc | hc
    · intro x hx
      apply hc x
      simp only [parseRptClientList, heq]
      split_ifs <;> exact hx
    · exact hc
  have hproper := ((listLoop_resumable hpal).call hI hcl).proper.1
  simp only [parseRptClientList, heq, hproper, if_false]

def rptListZoom (pal : EtcPal) : ParseFn ClientListState (BrokerClientList × Heap) :=
  (listLoop pal).zoom id (fun x _ => x) (fun m => (m.1.rpt, m.2))
    (fun x m => ({ m.1 with rpt := x.1 }, x.2))

def ClientListInv (s : ClientListState) (m : BrokerClientList × Heap) : Prop :=
  ListInv s (m.1.rpt, m.2) ∧
  (s.block.parsedHeader = true → m.1.clientProtocol = kClientProtocolRPT)

theorem rptListZoom_resumable (hpal : pal.Lawful) :
    Resumable parseVerdict CutSafe (fun s m => ListInv s (m.1.rpt, m.2)) (rptListZoom pal) :=
  (listLoop_resumable hpal).zoom (fun _ _ => rfl) (fun _ _ _ => rfl) (fun _ _ => rfl)
    (fun _ _ _ => rfl)

theorem parseClientList_skip (m : BrokerClientList × Heap) (d : Bytes) (h : s.block.consumingBadBlock = true) :
    parseClientList pal s m d = skipAt (fun b s => { s with block := b }) s.block s m d [] := by
  simp [parseClientList, h, skipAt]

theorem parseClientList_rpt (hpal : pal.Lawful) {m : BrokerClientList × Heap} (hI : ListInv s (m.1.rpt, m.2))
    (hprot : m.1.clientProtocol = kClientProtocolRPT) (hc : (parseClientList pal s m d).Clean CutSafe ∨
      (rptListZoom pal s m d).Clean CutSafe) : parseClientList pal s m d = rptListZoom pal s m d := by
  by_cases hs : s.block.consumingBadBlock = true
  · rw [parseClientList_skip m d hs]
    simp only [rptListZoom, zoom, id, listLoop_skip d hs]
    rfl
  rw [Bool.not_eq_true] at hs
  have hne : kClientProtocolRPT ≠ kClientProtocolUnknown := by decide
  have hlist : parseClientList pal s m d =
      let o := parseRptClientList pal s (m.1.rpt, m.2) d
      ⟨o.st, ({ m.1 with rpt := o.msg.1 }, o.msg.2), o.used,
        if o.res = .unassigned then .noData else o.res, o.log⟩ := by
    obtain ⟨⟨prot, rpt⟩, heap⟩ := m
    obtain rfl : prot = kClientProtocolRPT := hprot
    simp [parseClientList, hs, hne]
  have heq := parseRptClientList_eq hpal hI hs (hc.imp (fun h => by rwa [hlist] at h) id)
  rw [hlist, heq] at hc
  have hcl : (listLoop pal s (m.1.rpt, m.2) d).Clean CutSafe := hc.elim id id
  have hproper := ((listLoop_resumable hpal).call hI hcl).proper.1
  rw [hlist, heq]
  simp only [hproper, if_false, rptListZoom, zoom, id]

theorem parseClientList_other {m : BrokerClientList × Heap}
    (hs : s.block.consumingBadBlock = false) (h1 : m.1.clientProtocol ≠ kClientProtocolRPT)
    (h2 : m.1.clientProtocol ≠ kClientProtocolUnknown) :
    parseClientList pal s m d = skipAt (fun b s => { s with block := b }) s.block s m d [] := by
  simp [parseClientList, hs, h1, h2, skipAt]

variable (pal) in
theorem parseClientList_fresh {m : BrokerClientList × Heap} (hs : s.block.consumingBadBlock = false)
    (hfresh : m.1.clientProtocol = kClientProtocolUnknown)
    (hlen : clientEntryHeaderSize ≤ d.length) (hp : u32At d 3 ≠ kClientProtocolUnknown) :
    parseClientList pal s m d = (parseClientList pal s ({ m.1 with clientProtocol := u32At d 3 }, m.2) d).since 0
        [.listHead s.block.room (some (u32At d 3))] := by
  simp only [parseClientList, hs, hfresh, hlen, and_self, if_true, hp, if_false, false_and,
    Bool.false_eq_true, ne_eq, not_false_eq_true]
  split_ifs <;> simp [since]

theorem parseClientList_unknown {m : BrokerClientList × Heap} (hs : s.block.consumingBadBlock = false)
    (hfresh : m.1.clientProtocol = kClientProtocolUnknown)
    (h : d.length < clientEntryHeaderSize ∨ u32At d 3 = kClientProtocolUnknown) :
    parseClientList pal s m d = ⟨s, m, 0, .noData, [.listHead s.block.room
      (if clientEntryHeaderSize ≤ d.length then some (u32At d 3) else none)]⟩ := by
  have hprot : (if clientEntryHeaderSize ≤ d.length then u32At d 3 else kClientProtocolUnknown) =
      kClientProtocolUnknown := by
    rcases h with h | h
    · rw [if_neg (by omega)]
    · rw [h, ite_self]
  have hne : kClientProtocolUnknown ≠ kClientProtocolRPT := by decide
  obtain ⟨⟨prot, rpt⟩, heap⟩ := m
  obtain rfl : prot = kClientProtocolUnknown := hfresh
  simp [parseClientList, hs, hprot, hne]

/-- **A client list is resumable.** -/
theorem parseClientList_resumable (hpal : pal.Lawful) :
    Resumable parseVerdict CutSafe ClientListInv (parseClientList pal) := by
  have hskip : ∀ s m d e lg m1, (∀ x ∈ lg, CutSafe x) → s.block.parsedHeader = false →
      parseClientList pal s m d = skipAt (fun b s => { s with block := b }) s.block s m1 d lg →
      parseClientList pal s m (d ++ e) =
        skipAt (fun b s => { s with block := b }) s.block s m1 (d ++ e) lg →
      Resumes parseVerdict CutSafe ClientListInv (parseClientList pal) s m d e := by
    intro s m d e lg m1 hlg hp h h'
    refine ofSkip (fun b s => { s with block := b }) (fun _ _ _ => rfl) hlg h h'
      fun _ => ⟨⟨⟨fun _ => hp, fun h => ?_⟩, fun h => ?_⟩, [], by simp,
        parseClientList_skip _ _ rfl⟩
    · simp only [eat, hp, Bool.false_eq_true] at h
    · simp only [eat, hp, Bool.false_eq_true] at h
  have rpt : ∀ s m d e, ClientListInv s m → m.1.clientProtocol = kClientProtocolRPT →
      (parseClientList pal s m (d ++ e)).Clean CutSafe →
      Resumes parseVerdict CutSafe ClientListInv (parseClientList pal) s m d e := by
    intro s m d e hI hprot hc
    have hZ := rptListZoom_resumable hpal
    have hde := parseClientList_rpt hpal hI.1 hprot (.inl hc)
    rw [hde] at hc
    have R := hZ s m d e hI.1 hc
    have hd := parseClientList_rpt hpal hI.1 hprot (.inr R.clean)
    refine R.relog ⟨[], [], by simp [hd], by simp, by simp⟩ (.of_eq hde)
      (fun _ h => ⟨h, fun _ => hprot⟩)
      fun hs hcl => ⟨[], [], ?_, by simp, by simp⟩
    rw [parseClientList_rpt hpal (R.inv (parseVerdict.susp_not_final _ hs)) hprot (.inr hcl)]
    simp
  intro s m d e hI hc
  by_cases hs : s.block.consumingBadBlock = true
  · exact hskip s m d e [] m (by simp) (hI.1.1 hs) (parseClientList_skip m d hs)
      (parseClientList_skip m _ hs)
  rw [Bool.not_eq_true] at hs
  by_cases hrpt : m.1.clientProtocol = kClientProtocolRPT
  · exact rpt s m d e hI hrpt hc
  have hp : s.block.parsedHeader = false := by
    cases h : s.block.parsedHeader with
    | false => rfl
    | true => exact absurd (hI.2 h) hrpt
  by_cases hfresh : m.1.clientProtocol = kClientProtocolUnknown
  swap
  · exact hskip s m d e [] m (by simp) hp (parseClientList_other hs hrpt hfresh)
      (parseClientList_other hs hrpt hfresh)
  by_cases hwait : d.length < clientEntryHeaderSize ∨ u32At d 3 = kClientProtocolUnknown
  · exact waitLog [.listHead s.block.room _] rfl (by simp) hI
      (parseClientList_unknown hs hfresh hwait) (by simp [CutSafe]) hc
  -- the first header is at hand: the call goes on with the protocol it names
  obtain ⟨hlen, hprot⟩ := not_or.mp hwait
  have hlen := not_lt.mp hlen
  have h23 : 23 ≤ d.length := hlen
  have hlen' : clientEntryHeaderSize ≤ (d ++ e).length := by
    rw [length_append]
    exact Nat.le_add_right_of_le hlen
  have hP := u32At_append e (show 3 + 3 < d.length by omega)
  have hd := parseClientList_fresh pal hs hfresh hlen hprot
  have hde := parseClientList_fresh pal hs hfresh hlen' (by rw [hP]; exact hprot)
  rw [hP] at hde
  rw [hde] at hc
  refine step (n := 0) zero_le (by simp [CutSafe]) hd hde ?_
  have hI1 : ClientListInv s ({ m.1 with clientProtocol := u32At d 3 }, m.2) :=
    ⟨hI.1, fun h => by simp [hp] at h⟩
  by_cases hr : u32At d 3 = kClientProtocolRPT
  · exact rpt _ _ _ _ hI1 hr (clean_since.mp hc).2
  · exact hskip _ _ _ _ [] _ (by simp) hp (parseClientList_other hs hr hprot)
      (parseClientList_other hs hr hprot)

end ClientList

end RDMnet
