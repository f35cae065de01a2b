import RDMnet.MsgBuf.Progress

/-!
# Suspending a layer

`ParseFn`s that skip a bad block and the generic layer are resumable (`skip_resumable`,
`Layer.parse_resumable`), for any predicate on events under which no size check fails.
-/

namespace RDMnet

open Out List Resumes

/-- `kRCParseResNoData` suspends; after a full block the caller drops the state. -/
def parseVerdict : Verdict ParseRes where
  susp := fun r => r = .noData
  final := fun r => r = .fullBlockParseOk ∨ r = .fullBlockProtErr
  proper := fun r => r ≠ .unassigned ∧ r ≠ .stuck
  susp_not_final := by rintro r rfl; simp

@[simp] theorem parseVerdict_susp (r : ParseRes) : parseVerdict.susp r ↔ r = .noData := Iff.rfl

@[simp] theorem parseVerdict_final (r : ParseRes) :
    parseVerdict.final r ↔ r = .fullBlockParseOk ∨ r = .fullBlockProtErr := Iff.rfl

@[simp] theorem parseVerdict_proper (r : ParseRes) :
    parseVerdict.proper r ↔ r ≠ .unassigned ∧ r ≠ .stuck := Iff.rfl

section Skip

variable {σ μ : Type} {ok : Event → Prop} {I : σ → μ → Prop} {p : ParseFn σ μ}

/-- The block after `n` bytes of it were skipped and more is to be skipped. -/
def PduBlockState.eat (b : PduBlockState) (n : Nat) : PduBlockState :=
  { b with sizeParsed := b.sizeParsed + n, consumingBadBlock := true }

variable {b : PduBlockState} {n : Nat}

theorem consumeBadBlock_of_le (h : b.room ≤ n) :
    consumeBadBlock b n = ({ b with sizeParsed := b.blockSize }, b.room, .fullBlockProtErr) := by
  simp [consumeBadBlock, h]

theorem consumeBadBlock_of_lt (h : n < b.room) : consumeBadBlock b n = (b.eat n, n, .noData) := by
  simp [consumeBadBlock, h, PduBlockState.eat]

theorem PduBlockState.room_eat (h : n ≤ b.room) : (b.eat n).room = b.room - n := sizeSub_add h

theorem PduBlockState.eat_eat (b : PduBlockState) (n k : Nat) : (b.eat n).eat k = b.eat (n + k) := by
  simp [PduBlockState.eat, Nat.add_assoc]

theorem consumeBadBlock_split (k : Nat) (h : n < b.room) :
    (consumeBadBlock b (n + k)).2.1 = n + (consumeBadBlock (b.eat n) k).2.1 ∧
    (consumeBadBlock b (n + k)).2.2 = (consumeBadBlock (b.eat n) k).2.2 ∧
    ((consumeBadBlock b (n + k)).2.2 ≠ .fullBlockProtErr →
      (consumeBadBlock b (n + k)).1 = (consumeBadBlock (b.eat n) k).1) := by
  have hroom := PduBlockState.room_eat (le_of_lt h)
  by_cases hr : b.room ≤ n + k
  · rw [consumeBadBlock_of_le hr, consumeBadBlock_of_le (by omega)]
    refine ⟨?_, rfl, fun hn => absurd rfl hn⟩
    simp only [hroom]
    omega
  · rw [consumeBadBlock_of_lt (by omega), consumeBadBlock_of_lt (by omega)]
    exact ⟨rfl, rfl, fun _ => (PduBlockState.eat_eat b n k).symm⟩

/-- The outcome of skipping block `b`, which `put` stores in the state. -/
def skipAt (put : PduBlockState → σ → σ) (b : PduBlockState) (s : σ) (m : μ) (d : Bytes)
    (log : List Event) : Out σ μ ParseRes Event :=
  let c := consumeBadBlock b d.length
  ⟨put c.1 s, m, c.2.1, c.2.2, log⟩

structure SkipVerdict {ρ : Type} (v : Verdict ρ) (f : ParseRes → ρ) : Prop where
  susp : v.susp (f .noData)
  waiting : v.proper (f .noData)
  done : ¬ v.susp (f .fullBlockProtErr)
  proper : v.proper (f .fullBlockProtErr)
  final : v.final (f .fullBlockProtErr)

theorem skipVerdict_id : SkipVerdict parseVerdict id := by constructor <;> simp

theorem skipVerdict_some : SkipVerdict parseVerdict.round some where
  susp := ⟨_, rfl, rfl⟩
  waiting := by rintro x ⟨⟩; simp
  done := by rintro ⟨x, hx, rfl⟩; cases hx
  proper := by rintro x ⟨⟩; simp
  final := ⟨_, rfl, .inr rfl⟩

theorem Resumes.ofSkipMap {ρ : Type} {v : Verdict ρ} {f : ParseRes → ρ} (hf : SkipVerdict v f)
    {p : Parser UInt8 σ μ ρ Event} (put : PduBlockState → σ → σ) (hput : ∀ a b s, put a (put b s) = put a s)
    {s : σ} {m m1 : μ} {d e : Bytes} {lg lg' : List Event}
    (hlg : ∀ x ∈ lg, ok x) (h : p s m d = (skipAt put b s m1 d lg).map f)
    (h' : p s m (d ++ e) = (skipAt put b s m1 (d ++ e) lg').map f)
    (hmore : d.length < b.room → I (put (b.eat d.length) s) m1 ∧ ∃ lg2, (∀ x ∈ lg2, ok x) ∧
      p (put (b.eat d.length) s) m1 e = (skipAt put (b.eat d.length) (put (b.eat d.length) s) m1 e lg2).map f) :
    Resumes v ok I p s m d e := by
  by_cases hr : b.room ≤ d.length
  · -- the whole block is at hand
    rw [skipAt, consumeBadBlock_of_le hr] at h
    rw [skipAt, consumeBadBlock_of_le (by rw [length_append]; omega)] at h'
    refine ofDone h hf.done hlg hr hf.proper (fun hn => absurd hf.final hn) ?_
    rw [h']
    exact ⟨rfl, rfl, rfl, fun _ => rfl⟩
  · have hlt : d.length < b.room := by omega
    obtain ⟨hI, lg2, hlg2, hm⟩ := hmore hlt
    rw [skipAt, consumeBadBlock_of_lt hlt] at h
    have hm' : p (put (b.eat d.length) s) m1 (d.drop d.length ++ e) =
        (skipAt put (b.eat d.length) (put (b.eat d.length) s) m1 e lg2).map f := by
      rw [drop_length, nil_append, hm]
    refine ofMore h hf.susp hlg le_rfl hf.waiting hI hm' hlg2 ?_
    obtain ⟨h1, h2, h3⟩ := consumeBadBlock_split e.length hlt
    rw [h']
    simp only [skipAt, length_append]
    refine ⟨h1, congrArg f h2, rfl, fun hfin => ?_⟩
    simp only [after_st, Out.map, hput]
    rw [h3 fun hfull => hfin (by simp only [Out.map, hfull]; exact hf.final)]

theorem Resumes.ofSkip (put : PduBlockState → σ → σ) (hput : ∀ a b s, put a (put b s) = put a s)
    {s : σ} {m m1 : μ} {d e : Bytes} {lg lg' : List Event}
    (hlg : ∀ x ∈ lg, ok x) (h : p s m d = skipAt put b s m1 d lg)
    (h' : p s m (d ++ e) = skipAt put b s m1 (d ++ e) lg')
    (hmore : d.length < b.room → I (put (b.eat d.length) s) m1 ∧ ∃ lg2, (∀ x ∈ lg2, ok x) ∧
      p (put (b.eat d.length) s) m1 e = skipAt put (b.eat d.length) (put (b.eat d.length) s) m1 e lg2) :
    Resumes parseVerdict ok I p s m d e :=
  ofSkipMap skipVerdict_id put hput hlg h h' hmore

theorem skip_resumable : Resumable parseVerdict ok (fun _ _ => True) (skip (μ := μ)) := by
  intro s m d e _ _
  have hskip : ∀ (b : PduBlockState) (x : Bytes),
      skip b m x = skipAt (fun b _ => b) b b m x [] := fun _ _ => rfl
  exact ofSkip (fun b _ => b) (fun _ _ _ => rfl) (by simp) (hskip s d) (hskip s (d ++ e))
    fun _ => ⟨trivial, [], by simp, hskip _ e⟩

end Skip

/-! ### A layer -/

namespace Layer

variable {χ μ : Type} [Inhabited χ] {L : Layer χ μ} {ok : Event → Prop} {J : χ → μ → Prop}

/-! What the first half of a layer does, case by case. -/

variable {s : Pdu χ} {m : μ} {d : Bytes}

omit [Inhabited χ] in
theorem start_mid (hcons : s.block.consumingBadBlock = false)
    (hp : s.block.parsedHeader = true) : L.start s m d = ⟨s, m, 0, .noData, []⟩ := by
  simp [start, hcons, hp]

omit [Inhabited χ] in
theorem start_skip (h : s.block.consumingBadBlock = true ∨
      s.block.parsedHeader = false ∧ s.block.room < L.headerSize) :
    L.start s m d = skipAt (fun b s => { s with block := b }) s.block s m d [] := by
  have hadv : s.block.advance 0 = s.block := rfl
  rcases h with h | ⟨hp, h⟩
  · simp [start, h, skipAt, hadv]
  · simp [start, h, hp, skipAt, hadv]

section Header

variable {lg : List Event} {n : Nat} (hcons : s.block.consumingBadBlock = false)
  (hp : s.block.parsedHeader = false) (hroom : L.headerSize ≤ s.block.room)

include hcons hp hroom

omit [Inhabited χ] in
theorem start_wait (hlen : d.length < L.headerSize) : L.start s m d = ⟨s, m, 0, .noData, []⟩ := by
  simp [start, hcons, hp, not_lt.mpr hroom, not_le.mpr hlen]

omit [Inhabited χ] in
theorem start_accept {x : χ} {m' : μ} (hlen : L.headerSize ≤ d.length)
    (hh : L.header s.block m d = (.accept x m', lg)) : L.start s m d =
      ⟨⟨{ s.block.advance L.headerSize with parsedHeader := true }, x⟩, m', L.headerSize, .noData, lg⟩ := by
  simp [start, hcons, hp, not_lt.mpr hroom, hlen, hh]

omit [Inhabited χ] in
theorem start_reject (hlen : L.headerSize ≤ d.length) (hh : L.header s.block m d = (.reject n, lg)) :
    L.start s m d = (skipAt (fun b s => { s with block := b }) (s.block.advance n) s m d lg).after
      n := by
  simp only [start, hcons, hp, not_lt.mpr hroom, hlen, hh, skipAt, Out.after, if_false,
    if_true, Bool.false_eq_true]

end Header

/-- What is left of a layer's parse function once the next layer has returned `c`, if the size
checks hold. -/
def afterBody (s : Pdu χ) (c : Out χ μ ParseRes Event) : Out (Pdu χ) μ ParseRes Event :=
  let r := checkForFullParse c.res (s.block.advance c.used)
  ⟨⟨r.2, if r.2.parsedHeader then c.st else default⟩, c.msg, c.used, r.1, c.log ++ [.check true]⟩

def Checked (s : Pdu χ) (d : Bytes) (c : Out χ μ ParseRes Event) : Prop :=
  c.used ≤ d.length ∧ s.block.sizeParsed + c.used ≤ s.block.blockSize

theorem finish_eq (hp : s.block.parsedHeader = true)
    (hproper : parseVerdict.proper (L.body s.data m (d.drop n)).res)
    (hc : Checked s (d.drop n) (L.body s.data m (d.drop n))) :
    L.finish d ⟨s, m, n, .noData, lg⟩ = (afterBody s (L.body s.data m (d.drop n))).since n lg := by
  obtain ⟨hu, hb⟩ := hc
  rw [length_drop] at hu
  simp only [finish, hp, if_true, hproper.2, if_false, hu, hb, and_self, hproper.1, afterBody,
    Out.since, append_assoc]

theorem finish_clean (hp : s.block.parsedHeader = true) (hcheck : ¬ ok (.check false))
    (h : (L.finish d ⟨s, m, n, .noData, lg⟩).Clean ok) :
    (∀ x ∈ lg, ok x) ∧ (L.body s.data m (d.drop n)).Clean ok ∧ ((L.body s.data m (d.drop n)).res ≠ .stuck →
        Checked s (d.drop n) (L.body s.data m (d.drop n))) := by
  simp only [finish, hp, if_true] at h
  by_cases h1 : (L.body s.data m (d.drop n)).res = .stuck
  · rw [if_pos h1] at h
    exact ⟨fun x hx => h x (by simp [hx]), fun x hx => h x (by simp [hx]), fun hn => absurd h1 hn⟩
  rw [if_neg h1] at h
  by_cases h2 : (L.body s.data m (d.drop n)).used ≤ d.length - n ∧
      s.block.sizeParsed + (L.body s.data m (d.drop n)).used ≤ s.block.blockSize
  · rw [if_pos h2] at h
    refine ⟨fun x hx => h x (by simp [hx]), fun x hx => h x (by simp [hx]), fun _ => ?_⟩
    exact ⟨by rw [length_drop]; exact h2.1, h2.2⟩
  · rw [if_neg h2] at h
    exact absurd (h (.check false) (by simp)) hcheck

theorem afterBody_same {a b : Out χ μ ParseRes Event} (h : Same parseVerdict a b) :
    Same parseVerdict (afterBody s a) (afterBody s b) := by
  obtain ⟨hu, hr, hm, hst⟩ := h
  have hstate : (afterBody s a).st = (afterBody s b).st := by
    simp only [afterBody, hu, hr]
    by_cases hf : parseVerdict.final a.res
    · rw [hr] at hf
      rcases hf with hf | hf <;> simp [hf, checkForFullParse]
    · rw [hst hf]
  exact ⟨hu, by simp only [afterBody, hu, hr], hm, fun _ => hstate⟩

def suspended (s : Pdu χ) (n : Nat) (x : χ) : Pdu χ := ⟨s.block.advance n, x⟩

variable {c : Out χ μ ParseRes Event}

theorem afterBody_noData (hp : s.block.parsedHeader = true) (h : c.res = .noData) :
    afterBody s c = ⟨suspended s c.used c.st, c.msg, c.used, .noData, c.log ++ [.check true]⟩ := by
  simp [afterBody, h, checkForFullParse, PduBlockState.advance, hp, suspended]

theorem afterBody_after (s : Pdu χ) (n : Nat) (x : χ) (c : Out χ μ ParseRes Event) :
    Same parseVerdict (afterBody s (c.after n)) ((afterBody (suspended s n x) c).after n) := by
  have hblock : (suspended s n x).block.advance c.used = s.block.advance (n + c.used) := by
    simp [suspended, PduBlockState.advance, Nat.add_assoc]
  refine ⟨rfl, ?_, rfl, fun _ => ?_⟩
  · simp only [afterBody, after_res, after_used, hblock]
  · simp only [afterBody, after_res, after_used, after_st, hblock]
    rfl

/-- The invariant of a layer: a bad block has no PDU in it, and the data of a PDU has the
invariant of the next layer. -/
def Inv (J : χ → μ → Prop) (s : Pdu χ) (m : μ) : Prop :=
  (s.block.consumingBadBlock = true → s.block.parsedHeader = false) ∧
  (s.block.parsedHeader = true → J s.data m)

theorem parse_body (hI : Inv J s m)
    (hp : s.block.parsedHeader = true) : L.parse s m d = L.finish d ⟨s, m, 0, .noData, []⟩ := by
  have hcons : s.block.consumingBadBlock = false := by
    cases h : s.block.consumingBadBlock with
    | false => rfl
    | true => have := hI.1 h; simp [hp] at this
  rw [parse, start_mid hcons hp]

/-- What a layer's header function must satisfy: it decides by the header only, it counts no bytes
of a header that it rejects unless the block ends there, and it sets up the next layer. -/
structure GoodHeader (L : Layer χ μ) (ok : Event → Prop) (J : χ → μ → Prop) : Prop where
  append : ∀ b m d e r lg', L.headerSize ≤ d.length → L.header b m (d ++ e) = (r, lg') →
    ∃ lg, L.header b m d = (r, lg) ∧ ((∀ x ∈ lg', ok x) → ∀ x ∈ lg, ok x)
  reject : ∀ b m d n lg, L.header b m d = (.reject n, lg) → (∀ x ∈ lg, ok x) →
    n = 0 ∨ n ≤ L.headerSize ∧ (b.advance n).room = 0
  accept : ∀ b m d x m' lg, L.header b m d = (.accept x m', lg) → J x m'

theorem parse_eq (hI : Inv J s m)
    (hp : s.block.parsedHeader = true) (hproper : parseVerdict.proper (L.body s.data m d).res)
    (hc : Checked s d (L.body s.data m d)) : L.parse s m d = afterBody s (L.body s.data m d) := by
  obtain ⟨hu, hb⟩ := hc
  rw [parse_body hI hp]
  simp [finish, hp, hproper.2, hu, hb, hproper.1, afterBody]

theorem parse_checked (hcheck : ¬ ok (.check false)) (hbody : Resumable parseVerdict ok J L.body)
    (hI : Inv J s m) (hp : s.block.parsedHeader = true) (hc : (L.parse s m d).Clean ok) :
    (L.body s.data m d).Clean ok ∧ parseVerdict.proper (L.body s.data m d).res ∧
      Checked s d (L.body s.data m d) := by
  rw [parse_body hI hp] at hc
  obtain ⟨-, hcl, hchk⟩ := finish_clean hp hcheck hc
  rw [drop_zero] at hcl hchk
  have R := hbody.call (hI.2 hp) hcl
  exact ⟨hcl, R.proper, hchk R.proper.2⟩

theorem clean_afterBody (htrue : ok (.check true)) (hc : c.Clean ok) : (afterBody s c).Clean ok := by
  intro x hx
  rcases mem_append.mp hx with hx | hx
  · exact hc x hx
  · rw [mem_singleton.mp hx]
    exact htrue

theorem afterBody_susp : parseVerdict.susp (afterBody s c).res ↔ c.res = .noData := by
  cases h : c.res <;> simp [afterBody, checkForFullParse, h] <;> split_ifs <;> simp

theorem afterBody_proper : parseVerdict.proper (afterBody s c).res ↔ parseVerdict.proper c.res := by
  cases h : c.res <;> simp [afterBody, checkForFullParse, h] <;> split_ifs <;> simp

theorem afterBody_inv {e : Bytes} (hI : Inv J s m) (R : Resumes parseVerdict ok J L.body s.data m d e) :
    Inv J (afterBody s (L.body s.data m d)).st (afterBody s (L.body s.data m d)).msg := by
  by_cases hf : parseVerdict.final (L.body s.data m d).res
  · rcases hf with hf | hf <;> simp [Inv, afterBody, checkForFullParse, hf]
  · have hblock : (checkForFullParse (L.body s.data m d).res (s.block.advance (L.body s.data m d).used)).2 =
        s.block.advance (L.body s.data m d).used := by
      simp only [parseVerdict_final, not_or] at hf
      cases h : (L.body s.data m d).res <;> simp_all [checkForFullParse]
    refine ⟨?_, ?_⟩
    · simp only [afterBody, hblock]
      exact hI.1
    · simp only [afterBody, hblock]
      intro hp
      rw [if_pos hp]
      exact R.inv hf

theorem parse_resumes_body (hcheck : ¬ ok (.check false)) (htrue : ok (.check true))
    (hbody : Resumable parseVerdict ok J L.body) {e : Bytes}
    (hI : Inv J s m) (hp : s.block.parsedHeader = true) (hc : (L.parse s m (d ++ e)).Clean ok) :
    Resumes parseVerdict ok (Inv J) L.parse s m d e := by
  obtain ⟨hcl, hproper, hchk⟩ := parse_checked hcheck hbody hI hp hc
  have R := hbody s.data m d e (hI.2 hp) hcl
  have hde := parse_eq hI hp hproper hchk
  by_cases hs : (L.body s.data m d).res = .noData
  · -- the next layer suspends: so does this one, and both are resumed together
    obtain ⟨hcl2, hu, hr, hm, hst⟩ := R.more hs
    simp only [after_used] at hu
    have hchk1 : Checked s d (L.body s.data m d) := ⟨R.used_le, by have := hchk.2; omega⟩
    have hd := parse_eq hI hp R.proper hchk1
    rw [afterBody_noData hp hs] at hd
    have hI1 : Inv J (suspended s (L.body s.data m d).used (L.body s.data m d).st)
        (L.body s.data m d).msg :=
      ⟨hI.1, fun _ => R.inv (by simp [hs])⟩
    have hd2 := parse_eq (L := L) (d := d.drop (L.body s.data m d).used ++ e) hI1 hp
      (by
        show parseVerdict.proper (L.body (L.body s.data m d).st _ _).res
        rw [← show _ = (L.body (L.body s.data m d).st _ _).res from hr]
        exact hproper)
      (by
        refine ⟨?_, ?_⟩
        · show (L.body (L.body s.data m d).st _ _).used ≤ _
          have := hchk.1
          have := R.used_le
          simp only [length_append, length_drop] at *
          omega
        · show s.block.sizeParsed + (L.body s.data m d).used +
            (L.body (L.body s.data m d).st _ _).used ≤ s.block.blockSize
          have := hchk.2
          omega)
    refine ofMore hd rfl ?_ R.used_le (by simp) hI1 hd2 (clean_afterBody htrue hcl2) ?_
    · have := clean_afterBody (s := s) htrue R.clean
      rwa [afterBody_noData hp hs] at this
    · rw [hde]
      exact (afterBody_same ⟨hu, hr, hm, hst⟩).trans (afterBody_after s _ _ _)
  · obtain hsame := R.done hs
    have hchk1 : Checked s d (L.body s.data m d) :=
      ⟨R.used_le, by have := hchk.2; rw [hsame.used] at this; exact this⟩
    have hd := parse_eq hI hp R.proper hchk1
    refine ofDone hd ?_ (clean_afterBody htrue R.clean) R.used_le ?_ ?_ ?_
    · exact afterBody_susp.not.mpr hs
    · exact afterBody_proper.mpr R.proper
    · exact fun _ => afterBody_inv hI R
    · rw [hde]
      exact afterBody_same hsame

theorem finish_of_unparsed {o : Out (Pdu χ) μ ParseRes Event}
    (h : o.st.block.parsedHeader = false) : L.finish d o = o := by
  simp [finish, h]

theorem parse_skip (hp : s.block.parsedHeader = false)
    (h : s.block.consumingBadBlock = true ∨ s.block.room < L.headerSize) :
    L.parse s m d = skipAt (fun b s => { s with block := b }) s.block s m d [] := by
  rw [parse, start_skip (h.imp_right fun h => ⟨hp, h⟩), finish_of_unparsed (by simp [skipAt, hp])]

section Header

variable {lg : List Event} {n : Nat} (hcons : s.block.consumingBadBlock = false)
  (hp : s.block.parsedHeader = false) (hroom : L.headerSize ≤ s.block.room)

include hcons hp hroom

theorem parse_accept {x : χ} {m' : μ} (hlen : L.headerSize ≤ d.length)
    (hh : L.header s.block m d = (.accept x m', lg)) : L.parse s m d = L.finish d
      ⟨⟨{ s.block.advance L.headerSize with parsedHeader := true }, x⟩, m', L.headerSize, .noData, lg⟩ := by
  rw [parse, start_accept hcons hp hroom hlen hh]

theorem parse_reject (hlen : L.headerSize ≤ d.length) (hh : L.header s.block m d = (.reject n, lg)) :
    L.parse s m d = (skipAt (fun b s => { s with block := b }) (s.block.advance n) s m d lg).after
      n := by
  rw [parse, start_reject hcons hp hroom hlen hh,
    finish_of_unparsed (by simp [skipAt, PduBlockState.advance, hp])]

theorem parse_wait (hlen : d.length < L.headerSize) : L.parse s m d = ⟨s, m, 0, .noData, []⟩ := by
  rw [parse, start_wait hcons hp hroom hlen, finish_of_unparsed hp]

end Header

/-- **A layer is resumable** if its header is good and the next layer is resumable. -/
theorem parse_resumable (hcheck : ¬ ok (.check false)) (htrue : ok (.check true))
    (hhead : L.GoodHeader ok J) (hbody : Resumable parseVerdict ok J L.body) :
    Resumable parseVerdict ok (Inv J) L.parse := by
  intro s m d e hI hc
  -- once a block is being skipped, it is skipped to its end
  have hskip : ∀ lg lg', (∀ x ∈ lg, ok x) → s.block.parsedHeader = false →
      L.parse s m d = skipAt (fun b s => { s with block := b }) s.block s m d lg →
      L.parse s m (d ++ e) = skipAt (fun b s => { s with block := b }) s.block s m (d ++ e) lg' →
      Resumes parseVerdict ok (Inv J) L.parse s m d e := by
    intro lg lg' hlg hp h h'
    refine ofSkip (fun b s => { s with block := b }) (fun _ _ _ => rfl) hlg h h'
      fun _ => ⟨?_, [], by simp, ?_⟩
    · exact ⟨fun _ => hp, fun hp' => by simp [PduBlockState.eat, hp] at hp'⟩
    · exact parse_skip hp (.inl rfl)
  by_cases hp : s.block.parsedHeader = true
  · exact parse_resumes_body hcheck htrue hbody hI hp hc
  rw [Bool.not_eq_true] at hp
  by_cases hbad : s.block.consumingBadBlock = true ∨ s.block.room < L.headerSize
  · exact hskip [] [] (by simp) hp (parse_skip hp hbad) (parse_skip hp hbad)
  obtain ⟨hcons, hroom⟩ := not_or.mp hbad
  rw [Bool.not_eq_true] at hcons
  have hroom := not_lt.mp hroom
  by_cases hlen : d.length < L.headerSize
  · exact wait rfl (by simp) hI (parse_wait hcons hp hroom hlen) hc
  have hlen := not_lt.mp hlen
  have hlen' : L.headerSize ≤ (d ++ e).length := by rw [length_append]; omega
  rcases happ : L.header s.block m (d ++ e) with ⟨hres, lg'⟩
  obtain ⟨lg, hh, hlog⟩ := hhead.append _ _ _ _ _ _ hlen happ
  cases hres with
  | reject n =>
    have hlg' : ∀ x ∈ lg', ok x := by
      intro x hx
      apply hc x
      rw [parse_reject hcons hp hroom hlen' happ]
      exact hx
    have hlg := hlog hlg'
    have hd := parse_reject hcons hp hroom hlen hh
    have hde := parse_reject hcons hp hroom hlen' happ
    rcases hhead.reject _ _ _ _ _ hh hlg with rfl | ⟨hn, hzero⟩
    · have hadv : s.block.advance 0 = s.block := rfl
      rw [hadv, Out.after_zero] at hd hde
      exact hskip lg lg' hlg hp hd hde
    · -- the block ends with the header
      have hfull := fun k => consumeBadBlock_of_le (b := s.block.advance n) (n := k) (by omega)
      simp only [skipAt, hfull, hzero] at hd hde
      refine ofDone hd (by simp) hlg ?_ (by simp) (fun hf => absurd (.inr rfl) hf) ?_
      · simp only [after_used]
        omega
      · rw [hde]
        exact ⟨rfl, rfl, rfl, fun _ => rfl⟩
  | accept x m' =>
    -- the header is taken, and the call goes on as one in the middle of the PDU
    let s1 : Pdu χ := ⟨{ s.block.advance L.headerSize with parsedHeader := true }, x⟩
    have hI1 : Inv J s1 m' :=
      ⟨fun h => by simp [s1, PduBlockState.advance, hcons] at h, fun _ => hhead.accept _ _ _ _ _ _ hh⟩
    have hdrop : (d ++ e).drop L.headerSize = d.drop L.headerSize ++ e :=
      drop_append_of_le_length hlen
    have hfin : ∀ y lg', (L.parse s1 m' (y.drop L.headerSize)).Clean ok →
        L.finish y ⟨s1, m', L.headerSize, .noData, lg'⟩ =
          (L.parse s1 m' (y.drop L.headerSize)).since L.headerSize lg' := by
      intro y lg' hcl
      obtain ⟨-, hproper, hchk⟩ := parse_checked hcheck hbody hI1 rfl hcl
      rw [finish_eq rfl hproper hchk, parse_eq hI1 rfl hproper hchk]
    rw [parse_accept hcons hp hroom hlen' happ] at hc
    obtain ⟨hlg, hcl, hchk⟩ := finish_clean rfl hcheck hc
    have Rb := hbody.call (hI1.2 rfl) hcl
    have hclean1 : (L.parse s1 m' ((d ++ e).drop L.headerSize)).Clean ok := by
      rw [parse_eq hI1 rfl Rb.proper (hchk Rb.proper.2)]
      exact clean_afterBody htrue hcl
    have h' := hfin (d ++ e) lg' hclean1
    rw [hdrop] at hclean1 h'
    have R1 := parse_resumes_body hcheck htrue hbody hI1 rfl hclean1
    have hd : L.parse s m d = (L.parse s1 m' (d.drop L.headerSize)).since L.headerSize lg := by
      rw [parse_accept hcons hp hroom hlen hh]
      exact hfin d lg R1.clean
    rw [← parse_accept hcons hp hroom hlen' happ] at h'
    exact stepLog hlen (hlog hlg) hd h' R1

end Layer

end RDMnet
