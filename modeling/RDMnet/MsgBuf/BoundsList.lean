import RDMnet.MsgBuf.Bounds
import RDMnet.MsgBuf.ResumeRpt

/-!
# What lists take of a block

Client lists, RDM lists and RPT Status within their bounds.
-/

namespace RDMnet

open Out List Event Layer PduBlockState

/-! ### Client lists -/

section ClientList

variable {lv : Level} {pal : EtcPal}

/-- An RPT client list that is not being skipped, with `r` bytes left. -/
def RptListLeft (lv : Level) (s : ClientListState) (m : MsgList RptClientEntry × Heap)
    (r : Nat) : Prop :=
  (Supplied lv m ∧ Unfreed lv m.1 ∧ s.block.Left r) ∧ s.block.consumingBadBlock = false ∧
    (lv.live = true → 0 < r) ∧
    (s.block.parsedHeader = true → m.1.items.isNull = false ∧ ∃ k ≤ r, s.entry.Known k)

/-- An RPT client list with `r` bytes left. -/
def RptListRest (lv : Level) (s : ClientListState) (m : MsgList RptClientEntry × Heap)
    (r : Nat) : Prop :=
  RptListLeft lv s m r ∨ (Supplied lv m ∧ Unfreed lv m.1 ∧ s.block.Left r) ∧
    s.block.consumingBadBlock = true ∧ s.block.parsedHeader = false

def ListMemory (lv : Level) (m : MsgList RptClientEntry × Heap) : Prop :=
  Supplied lv m ∧ Unfreed lv m.1 ∧ m.1.items.isNull = false

variable {m : MsgList RptClientEntry × Heap}

theorem ListMemory.modifyLast (hm : ListMemory lv m) (f : RptClientEntry → RptClientEntry) :
    ListMemory lv ({ m.1 with items := m.1.items.modifyLast f }, m.2) :=
  ⟨hm.1, fun hp => by simpa using hm.2.1 hp, by simpa using hm.2.2⟩

variable {s : ClientListState} {r : Nat}

theorem rptClientListNext_within {k n : Nat}
    {c : Out ClientEntryState (MsgList RptClientEntry × Heap) ParseRes Event}
    (hb : s.block.Left r) (hcons : s.block.consumingBadBlock = false) (hk : k ≤ r) (hwhole : c.res.Whole)
    (hw : c.Within (terms lv) (ListMemory lv) (fun s' _ k' => s'.Known k') k n) :
    (rptClientListNext s n c).Round (terms lv) (Supplied lv) (RptListRest lv) (RptListLeft lv) r n := by
  have hused := hw.used_left
  have hlog : ∀ x ∈ c.log ++ [.check true], Held lv x :=
    clean_append hw.held (by simp [Held])
  have hadv := hb.advance (le_trans hused hk)
  have hmem : Supplied lv c.msg ∧ Unfreed lv c.msg.1 := ⟨hw.msg.1, hw.msg.2.1⟩
  rcases hwhole with hr | hr | hr
  · -- the entry waits
    have ho : rptClientListNext s n c = (⟨⟨s.block.advance c.used, c.st⟩, c.msg, c.used, .noData,
        c.log ++ [.check true]⟩ : Out _ _ ParseRes Event).map some := by
      simp only [rptClientListNext, hr]
      rfl
    rw [ho]
    refine .last ?_
    have hfair := hw.fair
    have hinv := hw.inv
    rw [hr] at hfair hinv
    obtain ⟨-, h2, -⟩ := hfair
    refine ⟨hlog, hw.used_le, le_trans hused hk, ⟨by simp, fun hl _ => ?_, by simp⟩, hmem.1,
      fun _ => .inl ⟨⟨hmem.1, hmem.2, hadv⟩, hcons, fun hl => ?_, fun _ => ⟨hw.msg.2.2, ?_⟩⟩⟩
    · obtain ⟨h3, h4⟩ := h2 hl rfl
      exact ⟨by omega, h4⟩
    · have := (h2 hl rfl).1
      have := hw.used_le
      simp only
      omega
    · exact ⟨k - c.used, by simp only; omega, hinv (by simp [terms])⟩
  · -- the entry is through
    simp only [rptClientListNext, hr]
    by_cases hend : (s.block.advance c.used).sizeParsed = (s.block.advance c.used).blockSize
    · rw [if_neg (not_not.mpr hend)]
      have hu : c.used = r := by
        have h1 := hadv.1
        have := hb.1
        omega
      exact .last (Within.ofFinal (.inl rfl) hlog hmem.1 hw.used_le (by omega)
        fun _ => hu)
    · rw [if_pos hend]
      have hleft : RptListLeft lv ⟨{ s.block.advance c.used with parsedHeader := false }, default⟩
          c.msg (r - c.used) := by
        refine ⟨⟨hmem.1, hmem.2, hadv⟩, hcons, fun _ => ?_, fun h => by cases h⟩
        have := hadv.1
        omega
      exact .next hlog hw.used_le (by omega) hmem.1 (.inl hleft) hleft
  · -- the rest of the list is skipped
    let b : PduBlockState := { s.block.advance c.used with parsedHeader := false }
    let k := consumeBadBlock b (n - c.used)
    have ho : rptClientListNext s n c = ((⟨⟨k.1, default⟩, c.msg, k.2.1, k.2.2, []⟩ :
        Out ClientListState _ ParseRes Event).since c.used (c.log ++ [.check true])).map some := by
      simp only [rptClientListNext, hr, since, Out.map, append_nil, k, b]
    rw [ho]
    refine .last (Out.Within.since ?_ (by omega) hw.used_le hlog)
    refine Within.ofConsume (fun b _ => ⟨b, default⟩) (b := b) s hadv ?_ hmem.1 fun hlt => ?_
    · simp
    · exact .inr ⟨⟨hmem.1, hmem.2, hadv.eat (by omega)⟩, rfl, rfl⟩

variable {d : Bytes}

theorem rptClientListEntry_log (x : Event) (h : x ∈ (parseLastClientEntry pal s.entry m d).log) :
    x ∈ (rptClientListEntry pal s m d).log := by
  simp only [rptClientListEntry, rptClientListNext]
  generalize parseLastClientEntry pal s.entry m d = c at h ⊢
  split_ifs <;> (try split) <;> exact mem_append_left _ h

theorem rptClientListEntry_within {k : Nat} (hb : s.block.Left r) (hcons : s.block.consumingBadBlock = false)
    (hk : k ≤ r) (hw : (parseLastClientEntry pal s.entry m d).Within (terms lv) (ListMemory lv)
      (fun s' _ k' => s'.Known k') k d.length) :
    (rptClientListEntry pal s m d).Round (terms lv) (Supplied lv) (RptListRest lv)
      (RptListLeft lv) r d.length := by
  have hwhole : (parseLastClientEntry pal s.entry m d).res.Whole :=
    parseSingleClientEntry_whole _ _ _
  have hcheck : (parseLastClientEntry pal s.entry m d).used ≤ d.length ∧
      s.block.sizeParsed + (parseLastClientEntry pal s.entry m d).used ≤ s.block.blockSize := by
    have h1 := hw.used_left
    have h2 := hb.1
    exact ⟨hw.used_le, by omega⟩
  simp only [rptClientListEntry, if_pos hcheck]
  exact rptClientListNext_within hb hcons hk hwhole hw

theorem rptClientListRound_within (hpal : pal.Lawful) {total : Nat} (htot : d.length ≤ total)
    (hI : RptListLeft lv s m r) (hc : (rptClientListRound pal total s m d).Clean (Meets lv)) :
    (rptClientListRound pal total s m d).Round (terms lv) (Supplied lv) (RptListRest lv)
      (RptListLeft lv) r d.length := by
  have hI' := hI
  obtain ⟨⟨hm, hf, hb⟩, hcons, hpos, hentry⟩ := hI
  have hroom := hb.room
  have hset : ∀ (p : UInt32) m, ListMemory lv m → ListMemory lv ((fun _ m => m) p m) :=
    fun _ _ h => h
  simp only [rptClientListRound] at hc ⊢
  by_cases h1 : s.block.sizeParsed < s.block.blockSize
  swap
  · -- nothing is left
    simp only [h1, not_false_eq_true, if_true] at hc ⊢
    refine .last (Within.ofWait (by simp) hm (.inl hI') fun hl => ?_)
    have := hpos hl
    have := hb.1
    omega
  simp only [h1, not_true_eq_false, if_false] at hc ⊢
  cases hp : s.block.parsedHeader with
  | true =>
    obtain ⟨hnull, k, hk, hknown⟩ := hentry hp
    simp only [hp, if_true, hnull, Bool.false_eq_true, if_false] at hc ⊢
    by_cases hfreed : m.1.items.isFreed = true
    · simp only [hfreed, if_true]
      exact .last (Within.ofNone (.inl ⟨rfl, hf.scarce hfreed⟩)
        (by simpa [Held] using hf.scarce hfreed) hm)
    · simp only [hfreed, if_false, Bool.false_eq_true] at hc ⊢
      exact rptClientListEntry_within hb hcons hk (parseSingleClientEntry_known_within hset
        (fun f m h => h.modifyLast f) d hknown ⟨hm, hf, hnull⟩)
  | false =>
    simp only [hp, Bool.false_eq_true, if_false] at hc ⊢
    by_cases hlen : d.length < clientEntryHeaderSize
    · -- wait for the header of an entry
      simp only [hlen, if_true] at hc ⊢
      refine .last (Within.ofWait (by simp [Held]) hm (.inl hI') fun hl => ?_)
      have hev : 23 ≤ s.block.room := hc (.listRoom s.block.room) (by simp) hl
      have hlt : d.length < 23 := hlen
      exact ⟨by omega, show d.length < 1100 by omega⟩
    simp only [hlen, if_false] at hc ⊢
    by_cases hprot : u32At d 3 = kClientProtocolRPT
    swap
    · -- a foreign entry: the rest of the list is skipped
      simp only [ne_eq, hprot, not_false_eq_true, if_true] at hc ⊢
      have hev := hc (.foreignEntry s.block.room (total - d.length) d.length) (by simp)
      have hsame : consumeBadBlock s.block total = consumeBadBlock s.block d.length := by
        rcases hev with h | h
        · rw [show total = d.length by omega]
        · rw [consumeBadBlock_of_le h, consumeBadBlock_of_le (by omega)]
      rw [hsame]
      refine .last (Within.ofConsume (fun b s => { s with block := b }) s hb ?_ hm fun hlt => ?_)
      · simp [Held]
      · exact .inr ⟨⟨hm, hf, hb.eat (by omega)⟩, rfl, hp⟩
    simp only [ne_eq, hprot, not_true_eq_false, if_false] at hc ⊢
    by_cases hfreed : m.1.items.isFreed = true
    · simp only [hfreed, if_true]
      exact .last (Within.ofNone (.inl ⟨rfl, hf.scarce hfreed⟩)
        (by simpa [Held] using hf.scarce hfreed) hm)
    simp only [hfreed, if_false, Bool.false_eq_true] at hc ⊢
    by_cases halloc : m.2.alloc.1 = true
    swap
    · have hscarce := hm.scarce halloc
      have hleft : RptListLeft lv s ({ m.1 with moreComing := true }, m.2.alloc.2) r :=
        ⟨⟨hm.after _, hf, hb⟩, hcons, hpos, hentry⟩
      simp only [halloc, if_false, Bool.false_eq_true] at hc ⊢
      have hlog : ∀ x ∈ [listRoom s.block.room,
          .listEntry (pal.acnPduLength d) s.block.room ((ClientEntryState.start
            s.block.blockSize).known kClientProtocolRPT (pal.acnPduLength d))] ++ [.alloc false],
          Held lv x := by
        simp [Held, hscarce]
      split_ifs
      · exact .last (Within.ofNone (.inl ⟨rfl, hscarce⟩) hlog (hm.after _))
      · exact .next hlog zero_le zero_le (hm.after _) (.inl hleft) hleft
    -- a new entry is begun: its header is at hand
    simp only [halloc, if_true] at hc ⊢
    obtain ⟨hlg, hin⟩ := clean_since.mp hc
    have hevent : pal.acnPduLength d ≤ s.block.room :=
      hlg (.listEntry (pal.acnPduLength d) s.block.room ((ClientEntryState.start
        s.block.blockSize).known kClientProtocolRPT (pal.acnPduLength d))) (by simp)
    have hmem : ListMemory lv
        ({ m.1 with items := m.1.items.push default }, m.2.alloc.2) :=
      ⟨hm.after _, fun _ => Arr.isFreed_push _ _, Arr.isNull_push _ _⟩
    obtain ⟨-, hw⟩ := parseSingleClientEntry_header_within hset (fun f m h => h.modifyLast f) hpal
      rfl (not_lt.mp hlen) hmem fun x hx => hin x (rptClientListEntry_log _ hx)
    obtain ⟨hout, hnext⟩ := rptClientListEntry_within
      (s := ⟨{ s.block with parsedHeader := true }, ClientEntryState.start s.block.blockSize⟩)
      (r := r) hb hcons (by omega) hw
    refine ⟨Out.Within.since hout zero_le zero_le ?_, fun h => ?_⟩
    · show ∀ x ∈ _, Held lv x
      simp [Held]
    · have := hnext h
      rwa [← Nat.zero_add (rptClientListEntry pal _ _ d).used] at this

theorem parseRptClientList_within (hpal : pal.Lawful) (hI : RptListLeft lv s m r)
    (hc : (parseRptClientList pal s m d).Clean (Meets lv)) :
    (parseRptClientList pal s m d).Within (terms lv) (Supplied lv) (RptListRest lv) r d.length := by
  have hcl : ((rptClientListRound pal d.length).iterate
      (fun _ m d => d.length + m.2.script.length) .stuck s m d).Clean (Meets lv) := by
    intro x hx
    apply hc
    simp only [parseRptClientList]
    split_ifs <;> exact hx
  have hw := Out.Within.iterate (t := terms lv) (N := d.length)
    (fun s m r d' hN hI hc => rptClientListRound_within hpal hN hI hc)
    (rptClientListRound_decreases d.length) s m r d le_rfl hI hcl
  have hne := hw.fair.1.1
  simp only [parseRptClientList]
  rw [if_neg hne]
  exact hw

/-- A client list with `r` bytes left. -/
def ClientListLeft (lv : Level) (s : ClientListState) (m : BrokerClientList × Heap) (r : Nat) :
    Prop :=
  if m.1.clientProtocol = kClientProtocolRPT then RptListRest lv s (m.1.rpt, m.2) r
  else (Supplied lv m ∧ Unfreed lv m.1.rpt ∧ s.block.Left r) ∧ s.block.parsedHeader = false

theorem parseClientList_bounded (hpal : pal.Lawful) :
    Bounded (terms lv) (Supplied lv) (ClientListLeft lv) (parseClientList pal) := by
  have skip : ∀ s m r d lg, Supplied lv m → Unfreed lv m.1.rpt → s.block.Left r →
      s.block.parsedHeader = false → (∀ x ∈ lg, Held lv x) →
      (skipAt (fun b s => { s with block := b }) s.block s m d lg).Within (terms lv) (Supplied lv)
        (ClientListLeft lv) r d.length := by
    intro s m r d lg hm hf hb hp hlg
    refine Within.ofSkip hb hlg hm fun hlt => ?_
    have hb' := hb.eat (le_of_lt hlt)
    unfold ClientListLeft
    split_ifs
    · exact .inr ⟨⟨hm, hf, hb'⟩, rfl, hp⟩
    · exact ⟨⟨hm, hf, hb'⟩, hp⟩
  -- the protocol of the list is known
  have known : ∀ s m r d, m.1.clientProtocol ≠ kClientProtocolUnknown →
      s.block.consumingBadBlock = false → ClientListLeft lv s m r →
      (parseClientList pal s m d).Clean (Meets lv) →
      (parseClientList pal s m d).Within (terms lv) (Supplied lv) (ClientListLeft lv) r
        d.length := by
    intro s m r d hk hs hI hc
    unfold ClientListLeft at hI
    by_cases hrpt : m.1.clientProtocol = kClientProtocolRPT
    · rw [if_pos hrpt] at hI
      have hleft : RptListLeft lv s (m.1.rpt, m.2) r := by
        rcases hI with h | ⟨-, h, -⟩
        · exact h
        · rw [hs] at h
          cases h
      have ho : parseClientList pal s m d =
          ⟨(parseRptClientList pal s (m.1.rpt, m.2) d).st,
            ({ m.1 with rpt := (parseRptClientList pal s (m.1.rpt, m.2) d).msg.1 },
              (parseRptClientList pal s (m.1.rpt, m.2) d).msg.2),
            (parseRptClientList pal s (m.1.rpt, m.2) d).used,
            if (parseRptClientList pal s (m.1.rpt, m.2) d).res = .unassigned then .noData
              else (parseRptClientList pal s (m.1.rpt, m.2) d).res,
            (parseRptClientList pal s (m.1.rpt, m.2) d).log⟩ := by
        have hu : kClientProtocolRPT ≠ kClientProtocolUnknown := by decide
        simp [parseClientList, hs, hrpt, hu]
      rw [ho] at hc ⊢
      have hw := parseRptClientList_within hpal hleft hc
      rw [if_neg hw.fair.1.1]
      refine { hw with inv := fun hd => ?_ }
      unfold ClientListLeft
      rw [if_pos hrpt]
      exact hw.inv hd
    · rw [if_neg hrpt] at hI
      obtain ⟨⟨hm, hf, hb⟩, hp⟩ := hI
      rw [parseClientList_other hs hrpt hk]
      exact skip s m r d [] hm hf hb hp (by simp)
  intro s m r d hI hc
  by_cases hs : s.block.consumingBadBlock = true
  · rw [parseClientList_skip m d hs]
    unfold ClientListLeft at hI
    split_ifs at hI
    · rcases hI with ⟨-, h, -⟩ | ⟨⟨hm, hf, hb⟩, -, hp⟩
      · rw [hs] at h
        cases h
      · exact skip s m r d [] hm hf hb hp (by simp)
    · obtain ⟨⟨hm, hf, hb⟩, hp⟩ := hI
      exact skip s m r d [] hm hf hb hp (by simp)
  rw [Bool.not_eq_true] at hs
  by_cases hfresh : m.1.clientProtocol = kClientProtocolUnknown
  swap
  · exact known s m r d hfresh hs hI hc
  have hne : kClientProtocolUnknown ≠ kClientProtocolRPT := by decide
  have hI' := hI
  unfold ClientListLeft at hI'
  rw [hfresh, if_neg hne] at hI'
  obtain ⟨⟨hm, hf, hb⟩, hp⟩ := hI'
  have hroom := hb.room
  by_cases hwait : d.length < clientEntryHeaderSize ∨ u32At d 3 = kClientProtocolUnknown
  · rw [parseClientList_unknown hs hfresh hwait] at hc ⊢
    refine Within.ofWait (by simp [Held]) hm hI fun hl => ?_
    obtain ⟨h23, hprot⟩ := hc _ (mem_singleton.mpr rfl) hl
    have h23 : 23 ≤ s.block.room := h23
    rcases hwait with h | h
    · have hlt : d.length < 23 := h
      exact ⟨by omega, show d.length < 1100 by omega⟩
    · by_cases hlen : clientEntryHeaderSize ≤ d.length
      · rw [if_pos hlen, h] at hprot
        exact absurd rfl hprot
      · have hlt : d.length < 23 := not_le.mp hlen
        exact ⟨by omega, show d.length < 1100 by omega⟩
  · obtain ⟨hlen, hprot⟩ := not_or.mp hwait
    rw [parseClientList_fresh pal hs hfresh (not_lt.mp hlen) hprot] at hc ⊢
    obtain ⟨hlg, hin⟩ := clean_since.mp hc
    have hI1 : ClientListLeft lv s ({ m.1 with clientProtocol := u32At d 3 }, m.2) r := by
      unfold ClientListLeft
      split_ifs with hrpt
      · refine .inl ⟨⟨hm, hf, hb⟩, hs, fun hl => ?_, fun h => by rw [hp] at h; cases h⟩
        have h23 : 23 ≤ s.block.room :=
          (hlg (.listHead s.block.room (some (u32At d 3))) (by simp) hl).1
        omega
      · exact ⟨⟨hm, hf, hb⟩, hp⟩
    exact Out.Within.since (known _ _ _ _ hprot hs hI1 hin) zero_le zero_le
      (by simp [terms, Held])

end ClientList

/-! ### RDM lists -/

section RdmList

variable {lv : Level} {pal : EtcPal}

/-- An RDM list with `r` bytes left. -/
def RdmListLeft (lv : Level) (s : RdmListState) (m : MsgList RdmBuffer × Heap) (r : Nat) : Prop :=
  (Supplied lv m ∧ Unfreed lv m.1 ∧ s.block.Left r) ∧
    (lv.live = true → if s.parsedRequestNotifHeader then s.block.consumingBadBlock = false → 0 < r
      else s.block.consumingBadBlock = false ∧ requestNotifPduHeaderSize ≤ r)

def RdmCmdsLeft (lv : Level) (s : RdmListState) (m : MsgList RdmBuffer × Heap) (r : Nat) : Prop :=
  RdmListLeft lv s m r ∧ s.parsedRequestNotifHeader = true ∧ s.block.consumingBadBlock = false

theorem rdmListRound_within {s : RdmListState} {m : MsgList RdmBuffer × Heap} {r : Nat} {d : Bytes}
    (hI : RdmCmdsLeft lv s m r) (hc : (rdmListRound pal s m d).Clean (Meets lv)) :
    (rdmListRound pal s m d).Round (terms lv) (Supplied lv) (RdmListLeft lv) (RdmCmdsLeft lv) r d.length := by
  obtain ⟨hI, hparsed, hcons⟩ := hI
  have hI' := hI
  obtain ⟨⟨hm, hf, hb⟩, hpos⟩ := hI
  simp only [hparsed, if_true] at hpos
  have hroom := hb.room
  simp only [rdmListRound] at hc ⊢
  by_cases h1 : s.block.sizeParsed < s.block.blockSize
  swap
  · simp only [h1, not_false_eq_true, if_true] at hc ⊢
    refine .last (Within.ofWait (by simp) hm hI' fun hl => ?_)
    have := hpos hl hcons
    have := hb.1
    omega
  simp only [h1, not_true_eq_false, if_false] at hc ⊢
  by_cases hmin : d.length < rdmCmdPduMinSize
  · simp only [hmin, if_true] at hc ⊢
    refine .last (Within.ofWait (by simp [Held]) hm hI' fun hl => ?_)
    have hev : 29 ≤ s.block.room := hc (.rdmRoom s.block.room) (by simp) hl
    have hlt : d.length < 29 := hmin
    exact ⟨by omega, show d.length < 1100 by omega⟩
  simp only [hmin, if_false] at hc ⊢
  have hlog : ∀ x ∈ [rdmRoom s.block.room,
      .rdmCmd (pal.acnPduLength d) s.block.blockSize s.block.room], Held lv x := by
    simp [Held]
  by_cases hbig : pal.acnPduLength d > s.block.blockSize ∨ pal.acnPduLength d > rdmCmdPduMaxSize
  · -- the rest of the list is skipped
    simp only [hbig, if_true] at hc ⊢
    refine .last (Within.ofConsume (fun b s => { s with block := b }) s hb hlog hm fun hlt => ?_)
    exact ⟨⟨hm, hf, hb.eat (by omega)⟩, fun _ => by simp [hparsed, eat]⟩
  simp only [hbig, if_false] at hc ⊢
  -- the command is within the list
  have hcmd : 3 ≤ pal.acnPduLength d ∧ pal.acnPduLength d ≤ s.block.room := by
    have hev : Meets lv
        (.rdmCmd (pal.acnPduLength d) s.block.blockSize s.block.room) := by
      apply hc
      split_ifs <;> simp
    rcases hev with h | h | h
    · exact absurd (.inl h) hbig
    · exact absurd (.inr h) hbig
    · exact h
  by_cases hshort : d.length < pal.acnPduLength d
  · simp only [hshort, if_true] at hc ⊢
    refine .last (Within.ofWait hlog hm hI' fun _ => ⟨by omega, ?_⟩)
    have hmax : pal.acnPduLength d ≤ 260 := not_lt.mp (not_or.mp hbig).2
    show d.length < 1100
    omega
  simp only [hshort, if_false] at hc ⊢
  by_cases hfreed : m.1.items.isFreed = true
  · simp only [hfreed, if_true]
    refine .last (Within.ofNone (.inl ⟨rfl, hf.scarce hfreed⟩) (clean_append hlog ?_) hm)
    simpa [Held] using hf.scarce hfreed
  simp only [hfreed, if_false, Bool.false_eq_true, show ¬ pal.acnPduLength d < 3 by omega] at hc ⊢
  by_cases halloc : m.2.alloc.1 = true
  swap
  · have hscarce := hm.scarce halloc
    have hlog' : ∀ x ∈ [rdmRoom s.block.room,
        .rdmCmd (pal.acnPduLength d) s.block.blockSize s.block.room] ++ [.alloc false],
        Held lv x := clean_append hlog (by simp [Held, hscarce])
    have hlive := Level.live_of_scarce hscarce
    simp only [halloc, if_false, Bool.false_eq_true]
    split_ifs
    · refine .last (Within.ofWait hlog' (hm.after _) ⟨⟨hm.after _, hf, hb⟩, hI'.2⟩ fun h => ?_)
      rw [hlive] at h
      cases h
    · exact .last (Within.ofNone (.inr ⟨rfl, ⟨hm.after _, hf, hb⟩, hI'.2⟩) hlog' (hm.after _))
  simp only [halloc, if_true]
  have hlog' : ∀ x ∈ [rdmRoom s.block.room,
      .rdmCmd (pal.acnPduLength d) s.block.blockSize s.block.room] ++ [.alloc true],
      Held lv x := clean_append hlog (by simp [Held])
  have hadv := hb.advance (n := pal.acnPduLength d) (by omega)
  by_cases hend : (s.block.advance (pal.acnPduLength d)).sizeParsed ≥
      (s.block.advance (pal.acnPduLength d)).blockSize
  · rw [if_pos hend]
    have hu : pal.acnPduLength d = r := by
      have := hadv.1
      omega
    exact .last (Within.ofFinal (.inl rfl) hlog' (hm.after _) (by omega) (by omega)
      fun _ => hu)
  · rw [if_neg hend]
    have hleft : RdmCmdsLeft lv { s with block := s.block.advance (pal.acnPduLength d) }
        ({ m.1 with items := m.1.items.push ((d.drop 3).take (pal.acnPduLength d - 3)) },
          m.2.alloc.2) (r - pal.acnPduLength d) := by
      refine ⟨⟨⟨hm.after _, fun _ => Arr.isFreed_push _ _, hadv⟩, fun _ => ?_⟩, hparsed, hcons⟩
      have := hadv.1
      simp only [hparsed, if_true]
      intro _
      omega
    exact .next hlog' (by omega) (by omega) (hm.after _) hleft.1 hleft

theorem rdmListData_within {s : RdmListState} {m : MsgList RdmBuffer × Heap} {r : Nat} {d : Bytes}
    (hI : RdmListLeft lv s m r) (hparsed : s.parsedRequestNotifHeader = true)
    (hc : (rdmListData pal s m d).Clean (Meets lv)) :
    (rdmListData pal s m d).Within (terms lv) (Supplied lv) (RdmListLeft lv) r d.length := by
  simp only [rdmListData] at hc ⊢
  by_cases hcons : s.block.consumingBadBlock = true
  · obtain ⟨⟨hm, hf, hb⟩, -⟩ := hI
    rw [if_pos hcons]
    refine Within.ofConsume (fun b s => { s with block := b }) s hb ?_ hm fun hlt => ?_
    · simp
    · refine ⟨⟨hm, hf, hb.eat (by omega)⟩, fun _ => ?_⟩
      simp [hparsed, eat]
  · rw [if_neg hcons] at hc ⊢
    rw [Bool.not_eq_true] at hcons
    exact Out.Within.iterate (fun s m r d _ hI hc => rdmListRound_within hI hc)
      rdmListRound_decreases s m r d le_rfl ⟨hI, hparsed, hcons⟩ hc

theorem parseRdmList_bounded : Bounded (terms lv) (Supplied lv) (RdmListLeft lv) (parseRdmList pal) := by
  intro s m r d hI hc
  simp only [parseRdmList] at hc ⊢
  by_cases hparsed : s.parsedRequestNotifHeader = true
  · rw [if_pos hparsed] at hc ⊢
    exact rdmListData_within hI hparsed hc
  · rw [if_neg hparsed] at hc ⊢
    have hI' := hI
    obtain ⟨⟨hm, hf, hb⟩, hlive⟩ := hI
    simp only [hparsed, Bool.false_eq_true, if_false] at hlive
    by_cases hlen : d.length < requestNotifPduHeaderSize
    · rw [if_pos hlen]
      refine Within.ofWait (by simp) hm hI' fun hl => ?_
      have h7 : 7 ≤ r := (hlive hl).2
      have hlt : d.length < 7 := hlen
      exact ⟨by omega, show d.length < 1100 by omega⟩
    rw [if_neg hlen] at hc ⊢
    have h7 : 7 ≤ d.length := not_lt.mp hlen
    by_cases hacc : pal.acnPduLength d = s.block.blockSize ∧
        (u32At d 3 = vectorRequestRdmCmd ∨ u32At d 3 = vectorNotificationRdmCmd)
    · rw [if_pos hacc] at hc ⊢
      obtain ⟨hlg, hin⟩ := clean_since.mp hc
      obtain ⟨hfit, hne⟩ := hlg _ (mem_singleton.mpr rfl)
      have hfit : s.block.sizeParsed + 7 ≤ s.block.blockSize := hfit (decide_eq_true hacc)
      have hsum := hb.1
      have hsub : sizeSub s.block.blockSize requestNotifPduHeaderSize = s.block.blockSize - 7 :=
        sizeSub_of_le (by show 7 ≤ _; omega) hb.2
      refine Out.Within.since (k := 7) ?_ (by omega) h7 (by simp [terms, Held])
      rw [← length_drop]
      refine rdmListData_within ⟨⟨hm, hf, ?_⟩, fun hl => ?_⟩ rfl hin
      · refine ⟨?_, ?_⟩
        · show s.block.sizeParsed + (r - 7) = sizeSub s.block.blockSize requestNotifPduHeaderSize
          omega
        · show sizeSub s.block.blockSize requestNotifPduHeaderSize < _
          have := hb.2
          omega
      · simp only [if_true]
        intro _
        have hlt : s.block.sizeParsed + 7 < s.block.blockSize := by
          have := hne hl
          rwa [if_pos (decide_eq_true hacc)] at this
        omega
    · rw [if_neg hacc] at hc ⊢
      refine Within.ofConsume (fun b s => { s with block := b }) s hb ?_ hm fun hlt => ?_
      · simp [Held]
      · refine ⟨⟨hm, hf, hb.eat (by omega)⟩, fun hl => ?_⟩
        -- with the whole list at hand nothing is left to skip
        have hev := (hc _ (mem_singleton.mpr rfl)).2 hl
        rw [if_neg (by rw [decide_eq_true_iff]; exact hacc)] at hev
        have := hb.1
        omega

end RdmList

/-! ### RPT Status -/

section Status

variable {lv : Level} {pal : EtcPal}

/-- An RPT Status PDU with `r` bytes left. -/
def StatusLeft (lv : Level) (s : Pdu Unit) (m : RptStatusMsg × Heap) (r : Nat) : Prop :=
  Supplied lv m ∧ s.block.Left r

variable {s : Pdu Unit} {m : RptStatusMsg × Heap}

theorem statusMid_within {r : Nat} (d : Bytes) (hI : StatusLeft lv s m r) :
    (statusMid s m d).Within (terms lv) (Supplied lv) (StatusLeft lv) r d.length := by
  have hI' := hI
  obtain ⟨hm, hb⟩ := hI
  have hroom := hb.room
  have bad : (⟨{ s with block := (consumeBadBlock s.block d.length).1 }, m,
      (consumeBadBlock s.block d.length).2.1, (consumeBadBlock s.block d.length).2.2,
      [.status m.1.statusCode s.block.room]⟩ : Out (Pdu Unit) _ ParseRes Event).Within (terms lv)
      (Supplied lv) (StatusLeft lv) r d.length :=
    Within.ofConsume (fun b s => { s with block := b }) s hb (by simp [Held]) hm
      fun hlt => ⟨hm, hb.eat (by omega)⟩
  simp only [statusMid, statusData, drop_zero, Nat.zero_add, nil_append]
  cases StatusKind.ofCode m.1.statusCode with
  | bare =>
    simp only
    split_ifs with hend
    · have hr : r = 0 := by
        have := hb.1
        omega
      exact Within.ofFinal (.inl rfl) (by simp [Held]) hm zero_le zero_le
        fun _ => hr.symm
    · exact bad
  | withString =>
    simp only
    by_cases hzero : s.block.room = 0
    · rw [if_pos hzero]
      exact Within.ofFinal (.inl rfl) (by simp [Held]) hm zero_le zero_le
        fun _ => by omega
    rw [if_neg hzero]
    by_cases hmax : s.block.room > rptStatusStringMaxlen
    · rw [if_pos hmax]
      exact bad
    rw [if_neg hmax]
    by_cases hlen : s.block.room ≤ d.length
    · rw [if_pos hlen]
      refine Within.ofFinal (.inl rfl) ?_ (hm.after _) hlen (by omega) fun _ => hroom
      simp only [cons_append, nil_append, mem_cons, not_mem_nil, or_false, forall_eq_or_imp, forall_eq]
      exact ⟨trivial, fun hp => by rw [hm.alloc hp]⟩
    · rw [if_neg hlen]
      have hle : s.block.room ≤ 1024 := not_lt.mp hmax
      exact Within.ofWait (by simp [Held]) hm hI' fun _ =>
        ⟨by omega, show d.length < 1100 by omega⟩
  | unknown => exact bad

theorem statusData_end {n : Nat} {x : ParseRes} {d : Bytes} (h : s.block.room = 0) :
    statusData d ⟨s, m, n, x, []⟩ = statusData d ⟨s, m, n, .noData, []⟩ := by
  simp only [statusData]
  cases StatusKind.ofCode m.1.statusCode with
  | bare => rfl
  | withString => simp only [h, if_true]
  | unknown => rfl

theorem parseRptStatus_consuming_within {r : Nat}
    (d : Bytes) (hI : StatusLeft lv s m r) (hs : s.block.consumingBadBlock = true)
    (hp : s.block.parsedHeader = true) :
    (parseRptStatus pal s m d).Within (terms lv) (Supplied lv) (StatusLeft lv) r d.length := by
  obtain ⟨hm, hb⟩ := hI
  have hroom := hb.room
  simp only [parseRptStatus, start_skip (.inl hs), skipAt, consumeBadBlock_parsedHeader, hp, if_true]
  by_cases hr : r ≤ d.length
  · rw [consumeBadBlock_of_le (by omega), hroom]
    have hend : StatusLeft lv { s with block := { s.block with sizeParsed := s.block.blockSize } } m
        (r - r) := ⟨hm, by rw [Nat.sub_self]; exact ⟨rfl, hb.2⟩⟩
    rw [statusData_end (by simpa using hend.2.room), statusData_since]
    refine Out.Within.since ?_ le_rfl hr (by simp)
    rw [← length_drop]
    exact statusMid_within _ hend
  · rw [consumeBadBlock_of_lt (by omega), statusData_since]
    refine Out.Within.since ?_ (show d.length ≤ r by omega) le_rfl (by simp)
    rw [← length_drop]
    exact statusMid_within _ ⟨hm, hb.eat (by omega)⟩

theorem parseRptStatus_bounded : Bounded (terms lv) (Supplied lv) (StatusLeft lv) (parseRptStatus pal) := by
  intro s m r d hI hc
  by_cases hp : s.block.parsedHeader = true
  · by_cases hs : s.block.consumingBadBlock = true
    · exact parseRptStatus_consuming_within d hI hs hp
    · rw [Bool.not_eq_true] at hs
      rw [parseRptStatus_mid hs hp]
      exact statusMid_within d hI
  rw [Bool.not_eq_true] at hp
  have hI' := hI
  obtain ⟨hm, hb⟩ := hI
  have hroom := hb.room
  -- no header has been accepted: the call is that of the first half
  have hskip : ∀ {lg}, (statusLayer pal).start s m d =
      skipAt (fun b s => { s with block := b }) s.block s m d lg → (∀ x ∈ lg, Held lv x) →
      (parseRptStatus pal s m d).Within (terms lv) (Supplied lv) (StatusLeft lv) r d.length := by
    intro lg h hlg
    have ho : parseRptStatus pal s m d =
        skipAt (fun b s => { s with block := b }) s.block s m d lg := by
      simp only [parseRptStatus, h]
      simp [skipAt, hp]
    rw [ho]
    exact Within.ofSkip hb hlg hm fun hlt => ⟨hm, hb.eat (by omega)⟩
  by_cases hbad : s.block.consumingBadBlock = true ∨ s.block.room < rptStatusHeaderSize
  · exact hskip (start_skip (hbad.imp_right fun h => ⟨hp, h⟩)) (by simp)
  rw [not_or, Bool.not_eq_true, Nat.not_lt] at hbad
  obtain ⟨hs, hle⟩ := hbad
  have h5 : 5 ≤ s.block.room := hle
  by_cases hlen : d.length < rptStatusHeaderSize
  · have hlt : d.length < 5 := hlen
    have ho : parseRptStatus pal s m d = ⟨s, m, 0, .noData, []⟩ := by
      simp only [parseRptStatus]
      rw [start_wait hs hp hle hlen]
      simp [hp]
    rw [ho]
    exact Within.ofWait (by simp) hm hI' fun _ => ⟨by omega, show d.length < 1100 by omega⟩
  have hlen := not_lt.mp hlen
  by_cases hacc : rptStatusHeaderSize ≤ pal.acnPduLength d ∧ s.block.blockSize ≤ pal.acnPduLength d
  swap
  · have hrej : (statusLayer pal).header s.block m d = (.reject 0, []) := by
      simp only [statusLayer, if_neg hacc]
    have h := start_reject hs hp hle hlen hrej
    rw [after_zero] at h
    exact hskip h (by simp)
  · have hh : (statusLayer pal).header s.block m d =
        (.accept () ({ m.1 with statusCode := u16At d 3 }, m.2), []) := by
      simp only [statusLayer, if_pos hacc]
    have ho : parseRptStatus pal s m d =
        (statusMid ⟨{ s.block.advance rptStatusHeaderSize with parsedHeader := true }, ()⟩
          ({ m.1 with statusCode := u16At d 3 }, m.2) (d.drop rptStatusHeaderSize)).since
            rptStatusHeaderSize [] := by
      rw [← statusData_since]
      simp only [parseRptStatus]
      rw [start_accept hs hp hle hlen hh]
      rfl
    rw [ho]
    refine Out.Within.since ?_ (by omega) hlen (by simp)
    rw [← length_drop]
    exact statusMid_within _ ⟨hm, hb.advance (by omega)⟩

end Status

end RDMnet
