import RDMnet.Lib.Bounded
import RDMnet.MsgBuf.ResumeData

/-!
# What the parser takes of a block

How many bytes a parse function may take, and when it asks for more.  Every length that it reads is
logged before it is used; `Event.Meets` says what these lengths must be like, and under that
assumption no function takes more than what is left of its block.  The assumption comes in levels,
each of which promises more.
-/

namespace RDMnet

open Out List Event ClientEntryState

/-- What is wanted of a run: that sizes stay within bounds; that memory does not run out; that the
parser does not wait for bytes that are not part of its block; that a PDU is taken as a whole. -/
inductive Level
  | sizes | memory | progress | whole
  deriving DecidableEq, Repr

namespace Level

def plenty : Level → Bool
  | sizes => false
  | _ => true

def live : Level → Bool
  | progress | whole => true
  | _ => false

def exact : Level → Bool
  | whole => true
  | _ => false

theorem plenty_of_live {lv : Level} (h : lv.live = true) : lv.plenty = true := by
  cases lv <;> first | rfl | cases h

end Level

def Event.Meets (lv : Level) : Event → Prop
  | .preamble _ => True
  -- a root layer PDU that is too long is skipped at once
  | .rlpHeader dataLen sizeParsed blockSize avail =>
    sizeParsed + dataLen ≤ blockSize ∨ blockSize - sizeParsed ≤ avail
  | .pduHeader _ _ => True
  | .entryHeader pduLen entry => entry.clientProtocol ≠ kClientProtocolUnknown ∧
    clientEntryHeaderSize ≤ pduLen ∧ pduLen ≤ entry.enclosingBlockSize
  | .entryTail left => lv.exact = true → left = 0
  | .listHead room protocol => lv.live = true →
    clientEntryHeaderSize ≤ room ∧ protocol ≠ some kClientProtocolUnknown
  | .listRoom room => lv.live = true → clientEntryHeaderSize ≤ room
  | .listEntry pduLen room _ => pduLen ≤ room
  -- a foreign entry is the first of its call, or the rest of the list is at hand
  | .foreignEntry room parsed remaining => parsed = 0 ∨ room ≤ remaining
  | .status _ _ => True
  | .rdmHeader accepted sizeParsed blockSize avail =>
    (accepted = true → sizeParsed + requestNotifPduHeaderSize ≤ blockSize) ∧
    (lv.live = true → if accepted then sizeParsed + requestNotifPduHeaderSize < blockSize
      else blockSize - sizeParsed ≤ avail)
  | .rdmRoom room => lv.live = true → rdmCmdPduMinSize ≤ room
  | .rdmCmd pduLen blockSize room =>
    blockSize < pduLen ∨ rdmCmdPduMaxSize < pduLen ∨ 3 ≤ pduLen ∧ pduLen ≤ room
  | .alloc _ => True
  | .touchFreed => lv.plenty = true
  | .check _ => True
  | .assigned _ => True

instance (lv : Level) : DecidablePred (Meets lv) := fun e => by
  delta Meets
  rcases e with _ | _ <;> (dsimp only; infer_instance)

def Event.Held (lv : Level) : Event → Prop
  | .alloc success => lv.plenty = true → success = true
  | .touchFreed => lv.plenty = false
  | .check holds => holds = true
  | .assigned written => written = true
  | _ => True

instance (lv : Level) : DecidablePred (Held lv) := fun e => by
  delta Held
  rcases e with _ | _ <;> (dsimp only; infer_instance)

abbrev waitMax : Nat := 1100

def terms (lv : Level) : Terms ParseRes Event where
  ok := Meets lv
  held := Held lv
  dead := fun x => parseVerdict.final x ∨ x = .stuck
  fair := fun x r n u => (x ≠ .unassigned ∧ (lv.plenty = true → x ≠ .stuck)) ∧
    (lv.live = true → x = .noData → n < r ∧ (u = 0 → n < waitMax)) ∧
    (lv.exact = true → parseVerdict.final x → u = r)
  fair_add := by
    rintro x r n u k hr hn ⟨h1, h2, h3⟩
    refine ⟨h1, fun hl hx => ?_, fun he hx => ?_⟩
    · obtain ⟨h4, h5⟩ := h2 hl hx
      refine ⟨by omega, fun hu => ?_⟩
      have := h5 (by omega)
      omega
    · have := h3 he hx
      omega

/-! ### Blocks -/

/-- The block has `r` bytes left. -/
def PduBlockState.Left (b : PduBlockState) (r : Nat) : Prop :=
  b.sizeParsed + r = b.blockSize ∧ b.blockSize < 18446744073709551616

theorem PduBlockState.Left.room {b : PduBlockState} {r : Nat} (h : b.Left r) : b.room = r := by
  obtain ⟨h1, h2⟩ := h
  rw [PduBlockState.room, sizeSub_of_le (by omega) h2]
  omega

theorem PduBlockState.Left.start {n : Nat} (h : n < 18446744073709551616) :
    (PduBlockState.start n).Left n := ⟨Nat.zero_add _, h⟩

theorem PduBlockState.Left.advance {b : PduBlockState} {r n : Nat} (h : b.Left r) (hn : n ≤ r) :
    (b.advance n).Left (r - n) := by
  obtain ⟨h1, h2⟩ := h
  refine ⟨?_, h2⟩
  show b.sizeParsed + n + (r - n) = b.blockSize
  omega

section Skip

variable {σ μ : Type} {lv : Level} {H : μ → Prop} {I : σ → μ → Nat → Prop}

variable {b : PduBlockState} {m : μ} {n r : Nat} {lg : List Event}

theorem Within.ofConsume (put : PduBlockState → σ → σ) (s : σ)
    (hb : b.Left r) (hlg : ∀ x ∈ lg, Held lv x) (hm : H m) (hI : n < r → I (put (b.eat n) s) m (r - n)) :
    (⟨put (consumeBadBlock b n).1 s, m, (consumeBadBlock b n).2.1, (consumeBadBlock b n).2.2, lg⟩ :
      Out σ μ ParseRes Event).Within (terms lv) H I r n := by
  have hroom := hb.room
  by_cases hr : r ≤ n
  · rw [consumeBadBlock_of_le (by omega), hroom]
    exact ⟨hlg, hr, le_rfl, ⟨by simp, by simp, fun _ _ => rfl⟩, hm,
      fun h => absurd (.inl (.inr rfl)) h⟩
  · rw [consumeBadBlock_of_lt (by omega)]
    refine ⟨hlg, le_rfl, by simp only; omega, ⟨by simp, fun _ _ => ⟨by omega, ?_⟩, by simp⟩, hm,
      fun _ => hI (by omega)⟩
    intro h0
    simp only at h0
    show n < 1100
    omega

variable {s : σ}

theorem Within.ofSkip {put : PduBlockState → σ → σ} {d : Bytes}
    (hb : b.Left r) (hlg : ∀ x ∈ lg, Held lv x) (hm : H m)
    (hI : d.length < r → I (put (b.eat d.length) s) m (r - d.length)) :
    (skipAt put b s m d lg).Within (terms lv) H I r d.length :=
  Within.ofConsume put s hb hlg hm hI

theorem PduBlockState.Left.eat (h : b.Left r) (hn : n ≤ r) : (b.eat n).Left (r - n) := by
  obtain ⟨h1, h2⟩ := h
  refine ⟨?_, h2⟩
  show b.sizeParsed + n + (r - n) = b.blockSize
  omega

theorem Within.ofWait (hlg : ∀ x ∈ lg, Held lv x) (hm : H m) (hI : I s m r)
    (hn : lv.live = true → n < r ∧ n < waitMax) :
    (⟨s, m, 0, .noData, lg⟩ : Out σ μ ParseRes Event).Within (terms lv) H I r n where
  held := hlg
  used_le := zero_le
  used_left := zero_le
  fair := ⟨by simp, fun hl _ => ⟨(hn hl).1, fun _ => (hn hl).2⟩, by simp⟩
  msg := hm
  inv := fun _ => hI

/-- A call that takes all that is left, or, unless the PDU must be taken as a whole, less. -/
theorem Within.ofFinal {u : Nat} {x : ParseRes}
    (hx : parseVerdict.final x) (hlg : ∀ y ∈ lg, Held lv y) (hm : H m) (hn : u ≤ n)
    (hr : u ≤ r) (hex : lv.exact = true → u = r) :
    (⟨s, m, u, x, lg⟩ : Out σ μ ParseRes Event).Within (terms lv) H I r n where
  held := hlg
  used_le := hn
  used_left := hr
  fair := by
    refine ⟨?_, fun _ h => ?_, fun he _ => hex he⟩
    · rcases hx with rfl | rfl <;> simp
    · simp only at h
      subst h
      simp at hx
  msg := hm
  inv := fun h => absurd (.inl hx) h

/-- A call that gives up, or hands out what there is, without taking anything. -/
theorem Within.ofNone {x : ParseRes} (hx : x = .stuck ∧ lv.plenty = false ∨ x = .partialBlockParseOk ∧ I s m r)
    (hlg : ∀ y ∈ lg, Held lv y) (hm : H m) :
    (⟨s, m, 0, x, lg⟩ : Out σ μ ParseRes Event).Within (terms lv) H I r n where
  held := hlg
  used_le := zero_le
  used_left := zero_le
  fair := by
    rcases hx with ⟨rfl, hp⟩ | ⟨rfl, -⟩
    · exact ⟨⟨by simp, by simp [hp]⟩, by simp, by simp⟩
    · exact ⟨by simp, by simp, by simp⟩
  msg := hm
  inv := fun h => by
    rcases hx with ⟨rfl, -⟩ | ⟨-, hI⟩
    · exact absurd (.inr rfl) h
    · exact hI

theorem skip_bounded : Bounded (terms lv) H (fun b m r => H m ∧ b.Left r) (skip (μ := μ)) := by
  rintro b m r d ⟨hm, hb⟩ -
  exact Within.ofConsume (fun b _ => b) b hb (by simp) hm fun h => ⟨hm, hb.eat (by omega)⟩

theorem fixedData_bounded {read : Bytes → μ → μ} (hread : ∀ d m, H m → H (read d m)) (hn : n < waitMax) :
    Bounded (terms lv) H (fun _ m r => H m ∧ r = n) (fixedData (σ := σ) n read) := by
  rintro s m r d ⟨hm, rfl⟩ -
  simp only [fixedData]
  split_ifs with hlen
  · exact Within.ofFinal (.inl rfl) (by simp) (hread d m hm) hlen le_rfl fun _ => rfl
  · exact Within.ofWait (by simp) hm ⟨hm, rfl⟩ fun _ => by omega

end Skip

/-! ### Lists of fixed-size entries -/

def Supplied (lv : Level) {α : Type} (m : α × Heap) : Prop := lv.plenty = true → m.2 = .plenty

def Unfreed (lv : Level) {α : Type} (l : MsgList α) : Prop :=
  lv.plenty = true → l.items.isFreed = false

variable {lv : Level} {α : Type}

theorem Supplied.alloc {m : α × Heap} (h : Supplied lv m) :
    lv.plenty = true → m.2.alloc = (true, .plenty) := fun hp => by
  rw [h hp]
  rfl

theorem Supplied.after {α' : Type} {m : α × Heap} (h : Supplied lv m) (a : α') :
    Supplied lv (a, m.2.alloc.2) := fun hp => by
  show m.2.alloc.2 = _
  rw [h.alloc hp]

theorem Supplied.scarce {m : α × Heap} (h : Supplied lv m) (hb : ¬ m.2.alloc.1 = true) : lv.plenty = false := by
  cases hp : lv.plenty with
  | false => rfl
  | true => simp [h.alloc hp] at hb

theorem Unfreed.scarce {l : MsgList α} (h : Unfreed lv l)
    (hb : l.items.isFreed = true) : lv.plenty = false := by
  cases hp : lv.plenty with
  | false => rfl
  | true => simp [h hp] at hb

theorem Level.live_of_scarce (h : lv.plenty = false) : lv.live = false := by
  cases lv <;> first | rfl | cases h

section GenericList

variable {lv : Level} {α : Type} {size : Nat} {unpack : Bytes → α}

/-- A list of entries of `size` bytes that has `r` bytes left. -/
def GenericListLeft (lv : Level) (size : Nat) (s : GenericListState) (m : MsgList α × Heap)
    (r : Nat) : Prop :=
  Supplied lv m ∧ Unfreed lv m.1 ∧ s.sizeParsed + r = s.fullListSize ∧ 0 < r ∧ size ∣ r

theorem genericListRound_bounded (hsize : size < waitMax) :
    Bounded (terms lv).round (Supplied lv) (GenericListLeft lv size) (genericListRound size unpack) := by
  rintro s m r d ⟨hm, hf, hr, hpos, hdvd⟩ hc
  have hle : size ≤ r := Nat.le_of_dvd hpos hdvd
  simp only [genericListRound]
  split_ifs with h1 h2 h3 h4 h5
  · -- wait for an entry
    exact .last (Within.ofWait (by simp) hm ⟨hm, hf, hr, hpos, hdvd⟩ fun _ => by omega)
  · exact .last (Within.ofNone (.inl ⟨rfl, hf.scarce h2⟩)
      (by simpa [Held] using hf.scarce h2) hm)
  · -- the last entry
    have hu : size = r := by omega
    exact .last (Within.ofFinal (.inl rfl) (by simp [Held]) (hm.after _) (by omega)
      hle fun _ => hu)
  · refine .next (by simp [terms, Held]) (by omega) hle (hm.after _)
      ⟨hm.after _, fun _ => Arr.isFreed_push _ _, ?_, ?_, Nat.dvd_sub hdvd (Nat.dvd_refl _)⟩
    · simp only
      omega
    · omega
  · have hp := hm.scarce h3
    exact .last (Within.ofWait (by simp [Held, hp]) (hm.after _)
      ⟨hm.after _, hf, hr, hpos, hdvd⟩ fun h => by simp [Level.live_of_scarce hp] at h)
  · have hp := hm.scarce h3
    exact .last (Within.ofNone (.inr ⟨rfl, hm.after _, hf, hr, hpos, hdvd⟩)
      (by simp [Held, hp]) (hm.after _))

theorem parseGenericList_bounded (hpos : 0 < size) (hsize : size < waitMax) :
    Bounded (terms lv) (Supplied lv) (GenericListLeft lv size) (parseGenericList size unpack) :=
  (genericListRound_bounded hsize).iterate (genericListRound_decreases hpos)

end GenericList

/-! ### Client entries -/

section Entry

variable {lv : Level} {pal : EtcPal} {μ : Type} {H : μ → Prop} {setProtocol : UInt32 → μ → μ}
  {modifyEntry : (RptClientEntry → RptClientEntry) → μ → μ}

/-- An entry whose header has been read, with `k` bytes left of it. -/
def ClientEntryState.Known (s : ClientEntryState) (k : Nat) : Prop :=
  s.clientProtocol ≠ kClientProtocolUnknown ∧ s.entryData.Left k

theorem parseSingleClientEntry_known_sizes {s : ClientEntryState} {m : μ} {d : Bytes}
    (h : s.clientProtocol ≠ kClientProtocolUnknown) :
    (parseSingleClientEntry pal setProtocol modifyEntry s m d).st.enclosingBlockSize = s.enclosingBlockSize ∧
    (parseSingleClientEntry pal setProtocol modifyEntry s m d).st.entryData.blockSize =
      s.entryData.blockSize := by
  rw [parseSingleClientEntry_known h]
  by_cases hbad : s.Bad
  · rw [clientEntryData_bad m d hbad]
    refine ⟨rfl, ?_⟩
    simp only [skipAt, consumeBadBlock]
    split_ifs <;> rfl
  · rw [clientEntryData_good m d hbad]
    split_ifs <;> exact ⟨rfl, rfl⟩

section Within

variable (hset : ∀ p m, H m → H (setProtocol p m)) (hmod : ∀ f m, H m → H (modifyEntry f m))

include hset hmod

variable {s : ClientEntryState} {m : μ}

theorem parseSingleClientEntry_known_within {k : Nat} (d : Bytes) (hs : s.Known k) (hm : H m) :
    (parseSingleClientEntry pal setProtocol modifyEntry s m d).Within (terms lv) H
      (fun s' _ k' => s'.Known k') k d.length := by
  obtain ⟨hp, hk⟩ := hs
  rw [parseSingleClientEntry_known hp]
  by_cases hbad : s.Bad
  · rw [clientEntryData_bad m d hbad]
    exact Within.ofSkip hk (by simp) (hset _ _ hm) fun h => ⟨hp, hk.eat (by omega)⟩
  · rw [clientEntryData_good m d hbad]
    simp only [Bad, not_or, not_not] at hbad
    have h23 : k = 23 := by
      have h1 : s.entryData.sizeParsed + 23 = s.entryData.blockSize := hbad.2.2
      have h2 := hk.1
      omega
    subst h23
    split_ifs with hlen
    · exact Within.ofFinal (.inl rfl) (by simp) (hmod _ _ (hset _ _ hm)) hlen le_rfl
        fun _ => rfl
    · have hlt : d.length < 23 := not_le.mp hlen
      exact Within.ofWait (by simp) (hset _ _ hm) ⟨hp, hk⟩ fun _ =>
        ⟨hlt, show d.length < 1100 by omega⟩

theorem parseSingleClientEntry_header_within (hpal : pal.Lawful)
    {d : Bytes} (h : s.clientProtocol = kClientProtocolUnknown)
    (hlen : clientEntryHeaderSize ≤ d.length) (hm : H m)
    (hc : (parseSingleClientEntry pal setProtocol modifyEntry s m d).Clean (Meets lv)) :
    (23 ≤ pal.acnPduLength d ∧ pal.acnPduLength d ≤ s.enclosingBlockSize ∧
      (parseSingleClientEntry pal setProtocol modifyEntry s m d).st.enclosingBlockSize = s.enclosingBlockSize ∧
      (parseSingleClientEntry pal setProtocol modifyEntry s m d).st.entryData.blockSize =
        pal.acnPduLength d - 23) ∧ (parseSingleClientEntry pal setProtocol modifyEntry s m d).Within (terms lv) H
      (fun s' _ k' => s'.Known k') (pal.acnPduLength d) d.length := by
  obtain ⟨hprot, h23, hle⟩ := hc _ (parseSingleClientEntry_header_log h hlen)
  have h23 : 23 ≤ pal.acnPduLength d := h23
  have hlt := hpal.length_lt d
  have hsub : sizeSub (pal.acnPduLength d) clientEntryHeaderSize = pal.acnPduLength d - 23 :=
    sizeSub_of_le h23 (by omega)
  rw [parseSingleClientEntry_header m h hlen hprot hle]
  have hk : (s.known (u32At d 3) (pal.acnPduLength d)).Known (pal.acnPduLength d - 23) := by
    refine ⟨hprot, ?_⟩
    show (PduBlockState.start (sizeSub (pal.acnPduLength d) clientEntryHeaderSize)).Left _
    rw [hsub]
    exact PduBlockState.Left.start (by omega)
  obtain ⟨he, hb⟩ := parseSingleClientEntry_known_sizes (m := modifyEntry
    (fun entry => { entry with cid := vecAt 16 d 7 }) m) (d := d.drop clientEntryHeaderSize) hk.1
  refine ⟨⟨h23, hle, he, hb.trans hsub⟩, ?_⟩
  have hw : (parseSingleClientEntry pal setProtocol modifyEntry _ _
      (d.drop clientEntryHeaderSize)).Within (terms lv) H (fun s' _ k' => s'.Known k')
      (pal.acnPduLength d - 23) (d.drop clientEntryHeaderSize).length :=
    parseSingleClientEntry_known_within hset hmod _ hk
      (hmod (fun entry => { entry with cid := vecAt 16 d 7 }) m hm)
  rw [length_drop] at hw
  exact hw.since h23 hlen (by simp [terms, Held])

/-- The entry of a Connect or Entry Update PDU with `r` bytes left of the PDU. -/
def ClientEntryState.LeftIn (s : ClientEntryState) (r : Nat) : Prop :=
  s.enclosingBlockSize < 18446744073709551616 ∧
  if s.clientProtocol = kClientProtocolUnknown then s.enclosingBlockSize = r ∧ 23 ≤ r
  else ∃ k ≤ r, s.Known k ∧ s.enclosingBlockSize = 23 + s.entryData.blockSize + (r - k)

theorem parseSingleClientEntry_within (hpal : pal.Lawful) {r : Nat} {d : Bytes} (hs : s.LeftIn r) (hm : H m)
    (hc : (parseSingleClientEntry pal setProtocol modifyEntry s m d).Clean (Meets lv)) :
    ∃ k ≤ r, (parseSingleClientEntry pal setProtocol modifyEntry s m d).Within (terms lv) H
        (fun s' _ k' => s'.LeftIn (k' + (r - k))) k d.length ∧
      (parseVerdict.final (parseSingleClientEntry pal setProtocol modifyEntry s m d).res →
        sizeSub (parseSingleClientEntry pal setProtocol modifyEntry s m d).st.enclosingBlockSize
          (23 + (parseSingleClientEntry pal setProtocol modifyEntry s m d).st.entryData.blockSize) = r - k) := by
  obtain ⟨hlt64, hs'⟩ := hs
  by_cases hp : s.clientProtocol = kClientProtocolUnknown
  · rw [if_pos hp] at hs'
    by_cases hlen : clientEntryHeaderSize ≤ d.length
    · obtain ⟨⟨h23, hle, he, hb⟩, hw⟩ :=
        parseSingleClientEntry_header_within hset hmod hpal hp hlen hm hc
      refine ⟨_, by omega, hw.mono fun hk => ⟨he ▸ hlt64, ?_⟩, fun _ => ?_⟩
      · rw [if_neg hk.1]
        refine ⟨_, Nat.le_add_right _ _, hk, ?_⟩
        omega
      · rw [he, hb, sizeSub_of_le (by omega) hlt64]
        omega
    · have hlt : d.length < 23 := not_le.mp hlen
      have hwait : parseSingleClientEntry pal setProtocol modifyEntry s m d =
          ⟨s, m, 0, .noData, []⟩ := by
        simp [parseSingleClientEntry, clientEntryHeader, hp, hlen]
      refine ⟨r, le_rfl, ?_, ?_⟩
      · rw [hwait]
        refine Within.ofWait (by simp) hm ?_ fun _ => ⟨by omega, show d.length < 1100 by omega⟩
        rw [Nat.sub_self]
        exact ⟨hlt64, by rw [if_pos hp]; exact hs'⟩
      · rw [hwait]
        simp
  · rw [if_neg hp] at hs'
    obtain ⟨k, hkr, hk, henc⟩ := hs'
    obtain ⟨he, hb⟩ := parseSingleClientEntry_known_sizes (m := m) (d := d) hp
    refine ⟨k, hkr, (parseSingleClientEntry_known_within hset hmod d hk hm).mono
      fun hk' => ⟨he ▸ hlt64, ?_⟩, fun _ => ?_⟩
    · rw [if_neg hk'.1]
      refine ⟨_, Nat.le_add_right _ _, hk', ?_⟩
      rw [he, hb]
      omega
    · rw [he, hb, sizeSub_of_le (by omega) hlt64]
      omega

variable {commonSize : Nat} {common : Bytes → μ → μ}

/-- A Connect or Entry Update PDU with `r` bytes left of its data. -/
def ClientConnectLeft (H : μ → Prop) (commonSize : Nat) (s : ClientConnectState) (m : μ)
    (r : Nat) : Prop :=
  H m ∧ if s.commonDataParsed then s.entry.LeftIn r
    else s.pduDataSize = r ∧ commonSize + 23 ≤ r ∧ r < 18446744073709551616

omit hset hmod in
theorem entryTail_held (c : Out ClientEntryState μ ParseRes Event) : ∀ x ∈ entryTail c, Held lv x := by
  unfold entryTail
  split <;> simp [Held]

variable (commonSize) in
omit hset hmod in
theorem afterEntry_within {s : ClientConnectState} {n k r dataLen : Nat}
    {c : Out ClientEntryState μ ParseRes Event} (hn : n ≤ dataLen) (hk : k ≤ r)
    (hw : c.Within (terms lv) H (fun s' _ k' => s'.LeftIn (k' + (r - k))) k (dataLen - n))
    (htail : parseVerdict.final c.res → sizeSub c.st.enclosingBlockSize (23 + c.st.entryData.blockSize) = r - k)
    (hc : (afterEntry s dataLen n c).Clean (Meets lv)) :
    (afterEntry s dataLen n c).Within (terms lv) H (ClientConnectLeft H commonSize) (n + r) dataLen := by
  have ho : afterEntry s dataLen n c =
      (⟨{ s with commonDataParsed := true, entry := c.st }, c.msg, c.used, c.res,
        c.log ++ (.check true :: entryTail c)⟩ : Out ClientConnectState μ ParseRes Event).since
          n [] := by
    simp only [afterEntry, if_pos hw.used_le, since, nil_append]
  rw [ho] at hc ⊢
  refine .since ?_ (Nat.le_add_right _ _) hn (by simp)
  rw [Nat.add_sub_cancel_left]
  have hex : lv.exact = true → parseVerdict.final c.res → k = r := by
    intro he hf
    have hev : Event.entryTail (r - k) ∈ entryTail c := by
      rw [← htail hf]
      unfold entryTail
      rcases hf with hf | hf <;> simp [hf]
    have hmeets : Meets lv (.entryTail (r - k)) := hc _ (by simp [hev])
    have := hmeets he
    omega
  obtain ⟨h1, h2, h3⟩ := hw.fair
  have hleft := hw.used_left
  refine ⟨?_, hw.used_le, le_trans hleft hk,
    ⟨h1, fun hl hx => ⟨?_, (h2 hl hx).2⟩, fun he hf => (h3 he hf).trans (hex he hf)⟩,
    hw.msg, fun hd => ⟨hw.msg, ?_⟩⟩
  · refine clean_append hw.held ?_
    simp only [mem_cons, forall_eq_or_imp]
    exact ⟨rfl, entryTail_held c⟩
  · have := (h2 hl hx).1
    omega
  · have hin := hw.inv hd
    have hsum : k - c.used + (r - k) = r - c.used := by omega
    rw [hsum] at hin
    exact hin

theorem parseCommonAndEntry_bounded (hpal : pal.Lawful) (hcommon : ∀ d m, H m → H (common d m))
    (hmax : commonSize < waitMax) : Bounded (terms lv) H (ClientConnectLeft H commonSize)
      (parseCommonAndEntry pal setProtocol modifyEntry commonSize common) := by
  rintro s m r d ⟨hm, hs⟩ hc
  have hlog : ∀ n (c : Out ClientEntryState μ ParseRes Event),
      (afterEntry s d.length n c).Clean (Meets lv) → c.Clean (Meets lv) := by
    intro n c h x hx
    apply h
    simp only [afterEntry]
    split_ifs <;> exact mem_append_left _ hx
  cases hp : s.commonDataParsed with
  | true =>
    rw [hp, if_pos rfl] at hs
    simp only [parseCommonAndEntry, hp, Bool.true_eq_false, false_and, if_false, if_true] at hc ⊢
    obtain ⟨k, hk, hw, htail⟩ := parseSingleClientEntry_within hset hmod hpal hs hm (hlog _ _ hc)
    rw [drop_zero] at hw htail hc ⊢
    have := afterEntry_within commonSize (s := s) zero_le hk hw htail hc
    rwa [Nat.zero_add] at this
  | false =>
    rw [hp, if_neg Bool.false_ne_true] at hs
    obtain ⟨hsize, hr, h64⟩ := hs
    by_cases hlen : d.length < commonSize
    · have hwait : parseCommonAndEntry pal setProtocol modifyEntry commonSize common s m d =
          ⟨s, m, 0, .noData, []⟩ := by simp [parseCommonAndEntry, hp, hlen]
      rw [hwait]
      refine Within.ofWait (by simp) hm ⟨hm, ?_⟩ fun _ => ⟨by omega, by omega⟩
      rw [hp, if_neg Bool.false_ne_true]
      exact ⟨hsize, hr, h64⟩
    · simp only [parseCommonAndEntry, hp, hlen, and_false, if_false, Bool.false_eq_true] at hc ⊢
      have hsub : sizeSub s.pduDataSize commonSize = r - commonSize := by
        rw [hsize]
        exact sizeSub_of_le (by omega) h64
      have hstart : (start (sizeSub s.pduDataSize commonSize)).LeftIn
          (r - commonSize) := by
        rw [hsub]
        refine ⟨by simp only [start]; omega, ?_⟩
        rw [if_pos (by rfl)]
        exact ⟨rfl, by omega⟩
      obtain ⟨k, hk, hw, htail⟩ := parseSingleClientEntry_within hset hmod hpal hstart
        (hcommon d m hm) (hlog _ _ hc)
      rw [length_drop] at hw
      have := afterEntry_within commonSize (s := s) (not_lt.mp hlen) hk hw htail hc
      rwa [Nat.add_sub_cancel' (by omega)] at this

end Within

end Entry

end RDMnet
