import Mathlib

/-!
# Resumable parsers

A parser that is called again and again on a growing buffer: one call looks at the bytes at hand,
changes its control state and the message it is filling, and says how many bytes it is done with.
`Resumable` says that stopping early is harmless: what the parser does on `d ++ e` can be told from
what it does on `d`.  If it decided something on `d`, it decides the same on `d ++ e`; if it
suspended, then calling it again with `e` behind what it left gives what one call on `d ++ e` gives.

Every call leaves a log of the events it went through.  All statements are relative to a predicate
`ok` on events: they say something only about calls whose log is `Clean`.

* `Resumable.zoom`, `Resumable.dispatch`, `Resumable.iterate`: the property is kept by running a
  parser on a part of the state, by choosing one from the message, and by a loop.
* `Drains`, `Feeds`: calling the parser until it suspends, and doing so after each chunk of a stream.
* `Drains.feeds`, `Feeds.unique`: a clean drain of a whole stream is what any run over chunks of it
  comes to.
* `Midway`: where calls that suspended have got to in a message.
-/

namespace RDMnet

open List

variable {β σ μ ρ ε σ' μ' : Type}

/-- What one call of a parser gives back. -/
structure Out (σ μ ρ ε : Type) where
  st : σ
  msg : μ
  used : Nat
  res : ρ
  log : List ε

/-- A call: control state, message under construction, bytes at hand. -/
abbrev Parser (β σ μ ρ ε : Type) := σ → μ → List β → Out σ μ ρ ε

/-- How the results of a parser are read: `susp` asks for more bytes, after `final` the control
state is dead, and only `proper` results are results at all. -/
structure Verdict (ρ : Type) where
  susp : ρ → Prop
  final : ρ → Prop
  proper : ρ → Prop
  susp_not_final : ∀ r, susp r → ¬ final r

namespace Out

/-- Every event of the call is `ok`. -/
def Clean (ok : ε → Prop) (o : Out σ μ ρ ε) : Prop := ∀ x ∈ o.log, ok x

/-- The same outcome after `n` more bytes. -/
def after (n : Nat) (o : Out σ μ ρ ε) : Out σ μ ρ ε := { o with used := n + o.used }

/-- The same outcome after `n` more bytes and the events `lg`. -/
def since (n : Nat) (lg : List ε) (o : Out σ μ ρ ε) : Out σ μ ρ ε :=
  { o with used := n + o.used, log := lg ++ o.log }

/-- The same outcome with another kind of result. -/
def map {ρ' : Type} (f : ρ → ρ') (o : Out σ μ ρ ε) : Out σ μ ρ' ε :=
  ⟨o.st, o.msg, o.used, f o.res, o.log⟩

/-- The same outcome; the control state counts only while it is live. -/
structure Same (v : Verdict ρ) (a b : Out σ μ ρ ε) : Prop where
  used : a.used = b.used
  res : a.res = b.res
  msg : a.msg = b.msg
  st : ¬ v.final a.res → a.st = b.st

variable {v : Verdict ρ}

theorem Same.refl (a : Out σ μ ρ ε) : Same v a a := ⟨rfl, rfl, rfl, fun _ => rfl⟩

variable {a b : Out σ μ ρ ε}

theorem Same.of_eq (h : a = b) : Same v a b := h ▸ Same.refl a

theorem Same.symm (h : Same v a b) : Same v b a :=
  ⟨h.used.symm, h.res.symm, h.msg.symm, fun hf => (h.st (h.res ▸ hf)).symm⟩

theorem Same.trans {c : Out σ μ ρ ε} (h : Same v a b) (h' : Same v b c) : Same v a c :=
  ⟨h.used.trans h'.used, h.res.trans h'.res, h.msg.trans h'.msg,
    fun hf => (h.st hf).trans (h'.st (h.res ▸ hf))⟩

theorem Same.after (h : Same v a b) (n : Nat) : Same v (a.after n) (b.after n) :=
  { h with used := congrArg (n + ·) h.used }

@[simp] theorem since_used (n : Nat) (lg : List ε) (o : Out σ μ ρ ε) : (o.since n lg).used = n + o.used := rfl
@[simp] theorem since_st (n : Nat) (lg : List ε) (o : Out σ μ ρ ε) : (o.since n lg).st = o.st := rfl
@[simp] theorem since_msg (n : Nat) (lg : List ε) (o : Out σ μ ρ ε) : (o.since n lg).msg = o.msg := rfl
@[simp] theorem since_res (n : Nat) (lg : List ε) (o : Out σ μ ρ ε) : (o.since n lg).res = o.res := rfl
@[simp] theorem since_log (n : Nat) (lg : List ε) (o : Out σ μ ρ ε) : (o.since n lg).log = lg ++ o.log := rfl

theorem clean_since {ok : ε → Prop} {n : Nat} {lg : List ε} {o : Out σ μ ρ ε} :
    (o.since n lg).Clean ok ↔ (∀ x ∈ lg, ok x) ∧ o.Clean ok := by
  simp only [Out.Clean, since_log, mem_append]
  exact ⟨fun h => ⟨fun x hx => h x (.inl hx), fun x hx => h x (.inr hx)⟩,
    fun h x hx => hx.elim (h.1 x) (h.2 x)⟩

@[simp] theorem after_used (n : Nat) (o : Out σ μ ρ ε) : (o.after n).used = n + o.used := rfl
@[simp] theorem after_st (n : Nat) (o : Out σ μ ρ ε) : (o.after n).st = o.st := rfl
@[simp] theorem after_msg (n : Nat) (o : Out σ μ ρ ε) : (o.after n).msg = o.msg := rfl
@[simp] theorem after_res (n : Nat) (o : Out σ μ ρ ε) : (o.after n).res = o.res := rfl
@[simp] theorem after_log (n : Nat) (o : Out σ μ ρ ε) : (o.after n).log = o.log := rfl

@[simp] theorem after_zero (o : Out σ μ ρ ε) : o.after 0 = o := by simp [Out.after]

theorem after_after (n k : Nat) (o : Out σ μ ρ ε) : (o.after n).after k = o.after (k + n) := by
  simp [Out.after, Nat.add_assoc]

end Out

open Out

/-- What the call on `d` tells about the call on `d ++ e`. -/
structure Resumes (v : Verdict ρ) (ok : ε → Prop) (I : σ → μ → Prop) (p : Parser β σ μ ρ ε)
    (s : σ) (m : μ) (d e : List β) : Prop where
  clean : (p s m d).Clean ok
  used_le : (p s m d).used ≤ d.length
  proper : v.proper (p s m d).res
  inv : ¬ v.final (p s m d).res → I (p s m d).st (p s m d).msg
  done : ¬ v.susp (p s m d).res → Same v (p s m (d ++ e)) (p s m d)
  more : v.susp (p s m d).res →
    (p (p s m d).st (p s m d).msg (d.drop (p s m d).used ++ e)).Clean ok ∧
    Same v (p s m (d ++ e))
      ((p (p s m d).st (p s m d).msg (d.drop (p s m d).used ++ e)).after (p s m d).used)

/-- From states with `I`, suspending is harmless in every clean call. -/
def Resumable (v : Verdict ρ) (ok : ε → Prop) (I : σ → μ → Prop) (p : Parser β σ μ ρ ε) : Prop :=
  ∀ s m d e, I s m → (p s m (d ++ e)).Clean ok → Resumes v ok I p s m d e

section Rules

variable {v : Verdict ρ} {ok : ε → Prop} {I : σ → μ → Prop} {p : Parser β σ μ ρ ε}

variable {s : σ} {m : μ} {d : List β}

theorem Resumable.call (h : Resumable v ok I p) (hI : I s m)
    (hc : (p s m d).Clean ok) : Resumes v ok I p s m d [] :=
  h s m d [] hI (by rwa [append_nil])

variable {e : List β}

/-- A call that suspends without having touched anything resumes by being made again. -/
theorem Resumes.waitLog {r : ρ} (lg : List ε) (hr : v.susp r)
    (hp : v.proper r) (hI : I s m) (h : p s m d = ⟨s, m, 0, r, lg⟩) (hlg : ∀ x ∈ lg, ok x)
    (hc : (p s m (d ++ e)).Clean ok) : Resumes v ok I p s m d e where
  clean := by rw [h]; exact hlg
  used_le := by simp [h]
  proper := by simpa [h] using hp
  inv := by simpa [h] using fun _ => hI
  done := fun hn => absurd (by simpa [h] using hr) hn
  more := fun _ => by
    rw [h]
    refine ⟨by simpa using hc, ?_⟩
    simpa [Out.after] using Same.refl (v := v) (p s m (d ++ e))

theorem Resumes.wait {r : ρ} (hr : v.susp r) (hp : v.proper r)
    (hI : I s m) (h : p s m d = ⟨s, m, 0, r, []⟩) (hc : (p s m (d ++ e)).Clean ok) : Resumes v ok I p s m d e :=
  Resumes.waitLog [] hr hp hI h (by simp) hc

theorem Resumes.ofDone {o : Out σ μ ρ ε} (h : p s m d = o)
    (hn : ¬ v.susp o.res) (hc : o.Clean ok) (hu : o.used ≤ d.length) (hp : v.proper o.res)
    (hI : ¬ v.final o.res → I o.st o.msg) (h' : Same v (p s m (d ++ e)) o) : Resumes v ok I p s m d e := by
  subst h
  exact ⟨hc, hu, hp, hI, fun _ => h', fun hs => absurd hs hn⟩

theorem Resumes.ofMore {o o' : Out σ μ ρ ε} (h : p s m d = o)
    (hs : v.susp o.res) (hc : o.Clean ok) (hu : o.used ≤ d.length) (hp : v.proper o.res)
    (hI : I o.st o.msg) (ho' : p o.st o.msg (d.drop o.used ++ e) = o') (hc' : o'.Clean ok)
    (h' : Same v (p s m (d ++ e)) (o'.after o.used)) : Resumes v ok I p s m d e := by
  subst h ho'
  exact ⟨hc, hu, hp, fun _ => hI, fun hn => absurd hs hn, fun _ => ⟨hc', h'⟩⟩

theorem Resumes.stepLog {s1 : σ} {m1 : μ} {n : Nat} {lg lg' : List ε}
    (hn : n ≤ d.length) (hlg : ∀ x ∈ lg, ok x) (h : p s m d = (p s1 m1 (d.drop n)).since n lg)
    (h' : p s m (d ++ e) = (p s1 m1 (d.drop n ++ e)).since n lg')
    (R : Resumes v ok I p s1 m1 (d.drop n) e) : Resumes v ok I p s m d e := by
  obtain ⟨h1, h2, h3, h4, h5, h6⟩ := R
  rw [length_drop] at h2
  refine ⟨?_, ?_, ?_, ?_, ?_, ?_⟩
  · rw [h]
    exact clean_since.mpr ⟨hlg, h1⟩
  · rw [h]
    simp only [since_used]
    omega
  · rw [h]
    exact h3
  · rw [h]
    exact h4
  · rw [h, h']
    intro hns
    obtain ⟨hu, hr, hm, hst⟩ := h5 hns
    exact ⟨congrArg (n + ·) hu, hr, hm, hst⟩
  · rw [h, h']
    intro hs
    obtain ⟨hc, hu, hr, hm, hst⟩ := h6 hs
    simp only [since_st, since_msg, since_used]
    rw [← drop_drop]
    refine ⟨hc, ?_, hr, hm, hst⟩
    simp only [since_used, after_used] at hu ⊢
    omega

theorem Resumes.step {s1 : σ} {m1 : μ} {n : Nat} {lg : List ε} (hn : n ≤ d.length) (hlg : ∀ x ∈ lg, ok x)
    (h : p s m d = (p s1 m1 (d.drop n)).since n lg) (h' : p s m (d ++ e) = (p s1 m1 (d.drop n ++ e)).since n lg)
    (R : Resumes v ok I p s1 m1 (d.drop n) e) : Resumes v ok I p s m d e :=
  Resumes.stepLog hn hlg h h' R

/-- `a` is `b` with more events in its log, all of them `ok`. -/
def Relogged (ok : ε → Prop) (a b : Out σ μ ρ ε) : Prop :=
  ∃ l r, a = { b with log := l ++ b.log ++ r } ∧ (∀ x ∈ l, ok x) ∧ ∀ x ∈ r, ok x

theorem Relogged.same {a b : Out σ μ ρ ε} (h : Relogged ok a b) : Same v a b := by
  obtain ⟨l, r, rfl, -, -⟩ := h
  exact ⟨rfl, rfl, rfl, fun _ => rfl⟩

theorem Relogged.clean {a b : Out σ μ ρ ε} (h : Relogged ok a b) (hb : b.Clean ok) : a.Clean ok := by
  obtain ⟨l, r, rfl, hl, hr⟩ := h
  intro x hx
  simp only [mem_append] at hx
  rcases hx with (hx | hx) | hx
  · exact hl x hx
  · exact hb x hx
  · exact hr x hx

theorem Resumes.relog {q : Parser β σ μ ρ ε}
    {I' : σ → μ → Prop} (R : Resumes v ok I' q s m d e) (hd : Relogged ok (p s m d) (q s m d))
    (hde : Same v (p s m (d ++ e)) (q s m (d ++ e)))
    (hI : ¬ v.final (q s m d).res → I' (q s m d).st (q s m d).msg → I (q s m d).st (q s m d).msg)
    (hmore : v.susp (q s m d).res → (q (q s m d).st (q s m d).msg (d.drop (q s m d).used ++ e)).Clean ok →
      Relogged ok (p (q s m d).st (q s m d).msg (d.drop (q s m d).used ++ e))
        (q (q s m d).st (q s m d).msg (d.drop (q s m d).used ++ e))) : Resumes v ok I p s m d e := by
  have hc := hd.clean R.clean
  obtain ⟨l, r, hp, -, -⟩ := hd
  by_cases hs : v.susp (q s m d).res
  · obtain ⟨hcl, hsame⟩ := R.more hs
    have hr := hmore hs hcl
    rw [hp] at hc
    exact .ofMore hp hs hc R.used_le R.proper
      (hI (v.susp_not_final _ hs) (R.inv (v.susp_not_final _ hs))) rfl (hr.clean hcl)
      (hde.trans (hsame.trans (hr.same.symm.after _)))
  · rw [hp] at hc
    exact .ofDone hp hs hc R.used_le R.proper (fun hf => hI hf (R.inv hf))
      (hde.trans ((R.done hs).trans ⟨rfl, rfl, rfl, fun _ => rfl⟩))

end Rules

/-! ### Parsers on a part of the state -/

/-- Run a parser on a part of the control state and of the message. -/
def Parser.zoom (getS : σ' → σ) (setS : σ → σ' → σ') (getM : μ' → μ) (setM : μ → μ' → μ')
    (p : Parser β σ μ ρ ε) : Parser β σ' μ' ρ ε := fun s m d =>
  let o := p (getS s) (getM m) d
  ⟨setS o.st s, setM o.msg m, o.used, o.res, o.log⟩

variable {ok : ε → Prop}

theorem Resumable.zoom {v : Verdict ρ} {I : σ → μ → Prop}
    {p : Parser β σ μ ρ ε} {getS : σ' → σ} {setS : σ → σ' → σ'} {getM : μ' → μ}
    {setM : μ → μ' → μ'} (h : Resumable v ok I p) (hs1 : ∀ a s, getS (setS a s) = a)
    (hs2 : ∀ a b s, setS a (setS b s) = setS a s)
    (hm1 : ∀ a m, getM (setM a m) = a)
    (hm2 : ∀ a b m, setM a (setM b m) = setM a m) :
    Resumable v ok (fun s m => I (getS s) (getM m)) (p.zoom getS setS getM setM) := by
  intro s m d e hI hc
  obtain ⟨h1, h2, h3, h4, h5, h6⟩ := h (getS s) (getM m) d e hI hc
  refine ⟨h1, h2, h3, ?_, ?_, ?_⟩
  · intro hf
    show I (getS (setS _ s)) (getM (setM _ m))
    rw [hs1, hm1]
    exact h4 hf
  · intro hn
    obtain ⟨hu, hr, hm, hst⟩ := h5 hn
    exact ⟨hu, hr, congrArg (setM · m) hm, fun hf => congrArg (setS · s) (hst hf)⟩
  · intro hsu
    obtain ⟨hcl, hu, hr, hm, hst⟩ := h6 hsu
    have hz : ∀ a b x, Parser.zoom getS setS getM setM p (setS a s) (setM b m) x =
        ⟨setS (p a b x).st s, setM (p a b x).msg m, (p a b x).used, (p a b x).res, (p a b x).log⟩ := by
      intro a b x
      simp only [Parser.zoom, hs1, hs2, hm1, hm2]
    refine ⟨?_, ?_⟩
    · show Out.Clean ok (Parser.zoom getS setS getM setM p (setS _ s) (setM _ m) _)
      rw [hz]
      exact hcl
    · show Same v _ (Out.after _ (Parser.zoom getS setS getM setM p (setS _ s) (setM _ m) _))
      rw [hz]
      exact ⟨hu, hr, congrArg (setM · m) hm, fun hf => congrArg (setS · s) (hst hf)⟩

theorem Resumable.dispatch {κ : Type} {v : Verdict ρ} {I : κ → σ → μ → Prop}
    (key : μ → κ) {q : κ → Parser β σ μ ρ ε}
    (h : ∀ k, Resumable v ok (I k) (q k)) (hk : ∀ k s m d, key m = k → key (q k s m d).msg = k) :
    Resumable v ok (fun s m => I (key m) s m) (fun s m d => q (key m) s m d) := by
  intro s m d e hI hc
  obtain ⟨h1, h2, h3, h4, h5, h6⟩ := h (key m) s m d e hI hc
  have hkey := hk (key m) s m d rfl
  refine ⟨h1, h2, h3, fun hf => ?_, h5, fun hsu => ?_⟩
  · simp only [hkey]
    exact h4 hf
  · simp only [hkey]
    exact h6 hsu

/-! ### Loops -/

/-- Repeat `p` until it gives a result; `none` means another round. -/
def Parser.rounds (p : Parser β σ μ (Option ρ) ε) (dflt : ρ) : Nat → Parser β σ μ ρ ε
  | 0, s, m, _ => ⟨s, m, 0, dflt, []⟩
  | n + 1, s, m, d =>
    let o := p s m d
    match o.res with
    | some r => ⟨o.st, o.msg, o.used, r, o.log⟩
    | none =>
      let o' := Parser.rounds p dflt n o.st o.msg (d.drop o.used)
      ⟨o'.st, o'.msg, o.used + o'.used, o'.res, o.log ++ o'.log⟩

/-- The loop with as many rounds as the measure allows. -/
def Parser.iterate (meas : σ → μ → List β → Nat) (p : Parser β σ μ (Option ρ) ε) (dflt : ρ) :
    Parser β σ μ ρ ε := fun s m d => p.rounds dflt (meas s m d + 1) s m d

/-- Every round that asks for another one decreases the measure. -/
def Parser.Decreases (meas : σ → μ → List β → Nat) (p : Parser β σ μ (Option ρ) ε) : Prop :=
  ∀ s m d, (p s m d).res = none →
    meas (p s m d).st (p s m d).msg (d.drop (p s m d).used) < meas s m d

variable {meas : σ → μ → List β → Nat} {p : Parser β σ μ (Option ρ) ε}

/-- What holds of every last round, whatever came before it, holds of the loop. -/
theorem Parser.iterate_ends {dflt : ρ} {Q : Out σ μ ρ ε → Prop} (hp : ∀ s m d r, (p s m d).res = some r →
      Q ⟨(p s m d).st, (p s m d).msg, (p s m d).used, r, (p s m d).log⟩)
    (hsince : ∀ o n lg, Q o → Q (o.since n lg)) (hd : ∀ s m, Q ⟨s, m, 0, dflt, []⟩)
    (s : σ) (m : μ) (d : List β) : Q (p.iterate meas dflt s m d) := by
  have key : ∀ n s m d, Q (p.rounds dflt n s m d) := by
    intro n
    induction n with
    | zero => intro s m d; exact hd s m
    | succ n ih =>
      intro s m d
      simp only [Parser.rounds]
      cases hr : (p s m d).res with
      | some r => exact hp s m d r hr
      | none => exact hsince _ (p s m d).used (p s m d).log (ih _ _ _)
  exact key _ s m d

theorem Parser.rounds_enough (hd : p.Decreases meas) (dflt : ρ) :
    ∀ (n k : Nat) (s : σ) (m : μ) (d : List β), meas s m d < n → meas s m d < k →
      p.rounds dflt n s m d = p.rounds dflt k s m d := by
  intro n
  induction n with
  | zero => intro k s m d hn; omega
  | succ n ih =>
    intro k s m d hn hk
    obtain ⟨k, rfl⟩ : ∃ j, k = j + 1 := ⟨k - 1, by omega⟩
    simp only [Parser.rounds]
    cases hr : (p s m d).res with
    | some r => rfl
    | none =>
      have hlt := hd s m d hr
      simp only
      rw [ih k _ _ _ (by omega) (by omega)]

theorem Parser.iterate_clean {dflt : ρ} (hp : ∀ s m d, (p s m d).Clean ok) (s : σ) (m : μ) (d : List β) :
    (p.iterate meas dflt s m d).Clean ok := by
  have key : ∀ n s m d, (p.rounds dflt n s m d).Clean ok := by
    intro n
    induction n with
    | zero => intro s m d x hx; cases hx
    | succ n ih =>
      intro s m d
      simp only [Parser.rounds]
      cases (p s m d).res with
      | some r => exact hp s m d
      | none => exact forall_mem_append.mpr ⟨hp s m d, ih _ _ _⟩
  exact key _ s m d

theorem Parser.iterate_eq (hd : p.Decreases meas) (dflt : ρ) (s : σ) (m : μ) (d : List β) :
    p.iterate meas dflt s m d =
      match (p s m d).res with
      | some r => ⟨(p s m d).st, (p s m d).msg, (p s m d).used, r, (p s m d).log⟩
      | none =>
        let o' := p.iterate meas dflt (p s m d).st (p s m d).msg (d.drop (p s m d).used)
        ⟨o'.st, o'.msg, (p s m d).used + o'.used, o'.res, (p s m d).log ++ o'.log⟩ := by
  unfold Parser.iterate
  rw [Parser.rounds]
  cases hr : (p s m d).res with
  | some r => rfl
  | none =>
    have hlt := hd s m d hr
    simp only
    rw [Parser.rounds_enough hd dflt _ _ _ _ _ hlt (Nat.lt_succ_self _)]

theorem Parser.rounds_congr (ok : ε → Prop) {q : Parser β σ μ (Option ρ) ε} {P : σ → Prop}
    (h : ∀ s m d, P s → (p s m d).Clean ok ∨ (q s m d).Clean ok → p s m d = q s m d)
    (hP : ∀ s m d, P s → (p s m d).res = none → P (p s m d).st) (dflt : ρ) :
    ∀ (n : Nat) (s : σ) (m : μ) (d : List β), P s →
      (p.rounds dflt n s m d).Clean ok ∨ (q.rounds dflt n s m d).Clean ok →
      p.rounds dflt n s m d = q.rounds dflt n s m d := by
  intro n
  induction n with
  | zero => intros; rfl
  | succ n ih =>
    intro s m d hs hc
    have hfst : ∀ r : Parser β σ μ (Option ρ) ε, (r.rounds dflt (n + 1) s m d).Clean ok →
        (r s m d).Clean ok := by
      intro r hr x hx
      apply hr x
      simp only [Parser.rounds]
      split
      · exact hx
      · exact mem_append_left _ hx
    have heq := h s m d hs (hc.imp (hfst p) (hfst q))
    simp only [Parser.rounds, ← heq] at hc ⊢
    cases hr : (p s m d).res with
    | some r => rfl
    | none =>
      simp only [hr] at hc ⊢
      have hc' := hc.imp (fun hc x hx => hc x (mem_append_right _ hx))
        (fun hc x hx => hc x (mem_append_right _ hx))
      rw [ih _ _ _ (hP s m d hs hr) hc']

def Verdict.round (v : Verdict ρ) : Verdict (Option ρ) where
  susp := fun r => ∃ x, r = some x ∧ v.susp x
  final := fun r => ∃ x, r = some x ∧ v.final x
  proper := fun r => ∀ x, r = some x → v.proper x
  susp_not_final := by
    rintro r ⟨x, rfl, hx⟩ ⟨y, hy, hf⟩
    cases hy
    exact v.susp_not_final x hx hf

section Iterate

variable {v : Verdict ρ} {ok : ε → Prop} {I : σ → μ → Prop} {meas : σ → μ → List β → Nat}
  {p : Parser β σ μ (Option ρ) ε} {dflt : ρ}

variable {d : List β}

theorem Parser.iterate_some (hd : p.Decreases meas) (dflt : ρ) {s : σ} {m : μ} {r : ρ}
    (hr : (p s m d).res = some r) : p.iterate meas dflt s m d =
      ⟨(p s m d).st, (p s m d).msg, (p s m d).used, r, (p s m d).log⟩ := by
  rw [Parser.iterate_eq hd, hr]

theorem Parser.iterate_none (hd : p.Decreases meas) (dflt : ρ) {s : σ} {m : μ}
    (hr : (p s m d).res = none) : p.iterate meas dflt s m d =
      let o' := p.iterate meas dflt (p s m d).st (p s m d).msg (d.drop (p s m d).used)
      ⟨o'.st, o'.msg, (p s m d).used + o'.used, o'.res, (p s m d).log ++ o'.log⟩ := by
  rw [Parser.iterate_eq hd, hr]

theorem drop_append_drop {e : List β} {k j : Nat} (hk : k ≤ d.length) :
    (d ++ e).drop (k + j) = (d.drop k ++ e).drop j := by
  rw [← drop_drop, drop_append_of_le_length hk]

/-- **A loop of resumable rounds is resumable.**  By induction on the measure of the call on `d`:
the rounds made there are made on `d ++ e` too, up to the first one that suspends. -/
theorem Resumable.iterate (h : Resumable v.round ok I p) (hd : p.Decreases meas) :
    Resumable v ok I (p.iterate meas dflt) := by
  have key : ∀ (n : Nat) s m d e, meas s m d < n → I s m →
      (p.iterate meas dflt s m (d ++ e)).Clean ok →
      Resumes v ok I (p.iterate meas dflt) s m d e := by
    intro n
    induction n with
    | zero => intro s m d e hn; omega
    | succ n ih =>
      intro s m d e hn hI hc
      have hc1 : (p s m (d ++ e)).Clean ok := by
        intro x hx
        apply hc x
        cases hr : (p s m (d ++ e)).res with
        | some r => rw [Parser.iterate_some hd dflt hr]; exact hx
        | none => rw [Parser.iterate_none hd dflt hr]; exact mem_append_left _ hx
      obtain ⟨h1, h2, h3, h4, h5, h6⟩ := h s m d e hI hc1
      cases hr : (p s m d).res with
      | none =>
        -- the round on `d` goes on: so does the round on `d ++ e`, and the rest is the induction
        obtain ⟨hu, hres, hm, hst⟩ := h5 (by rw [hr]; rintro ⟨x, hx, -⟩; cases hx)
        have hr' : (p s m (d ++ e)).res = none := hres.trans hr
        have hst' := hst (by rw [hr']; rintro ⟨x, hx, -⟩; cases hx)
        have hdrop : (d ++ e).drop (p s m (d ++ e)).used = d.drop (p s m d).used ++ e := by
          rw [hu, drop_append_of_le_length h2]
        have hone : p.iterate meas dflt s m (d ++ e) =
            let o' := p.iterate meas dflt (p s m d).st (p s m d).msg (d.drop (p s m d).used ++ e)
            ⟨o'.st, o'.msg, (p s m d).used + o'.used, o'.res, (p s m (d ++ e)).log ++ o'.log⟩ := by
          rw [Parser.iterate_none hd dflt hr', hdrop, hst', hm, hu]
        have hlt := hd s m d hr
        have hI' := h4 (by rw [hr]; rintro ⟨x, hx, -⟩; cases hx)
        have hc' : (p.iterate meas dflt (p s m d).st (p s m d).msg
            (d.drop (p s m d).used ++ e)).Clean ok := by
          intro x hx
          apply hc x
          rw [hone]
          exact mem_append_right _ hx
        obtain ⟨g1, g2, g3, g4, g5, g6⟩ := ih _ _ _ e (by omega) hI' hc'
        rw [length_drop] at g2
        have hit := Parser.iterate_none hd dflt hr
        refine ⟨?_, ?_, ?_, ?_, ?_, ?_⟩
        · rw [hit]
          intro x hx
          rcases mem_append.mp hx with hx | hx
          · exact h1 x hx
          · exact g1 x hx
        · rw [hit]; simp only; omega
        · rw [hit]; exact g3
        · rw [hit]; exact g4
        · rw [hit]
          intro hn
          have hg := g5 hn
          rw [hone]
          exact { hg with used := congrArg ((p s m d).used + ·) hg.used }
        · rw [hit]
          intro hsu
          obtain ⟨gc, hg⟩ := g6 hsu
          simp only
          rw [← drop_drop]
          refine ⟨gc, ?_⟩
          rw [hone]
          refine { hg with used := ?_ }
          have := hg.used
          simp only [Out.after_used] at this ⊢
          omega
      | some r =>
        have hit := Parser.iterate_some hd dflt hr
        refine ⟨by rw [hit]; exact h1, by rw [hit]; exact h2, by rw [hit]; exact h3 r hr, ?_, ?_, ?_⟩
        · rw [hit]
          exact fun hf => h4 (by rw [hr]; rintro ⟨x, hx, hx'⟩; cases hx; exact hf hx')
        · rw [hit]
          intro hn
          obtain ⟨hu, hres, hm, hst⟩ := h5 (by rw [hr]; rintro ⟨x, hx, hx'⟩; cases hx; exact hn hx')
          rw [Parser.iterate_some hd dflt (hres.trans hr)]
          refine ⟨hu, rfl, hm, fun hf => hst ?_⟩
          rw [hres, hr]
          rintro ⟨x, hx, hx'⟩
          cases hx
          exact hf hx'
        · rw [hit]
          intro hsu
          obtain ⟨hcl, hu, hres, hm, hst⟩ := h6 ⟨r, hr, hsu⟩
          simp only at hu hres hm hst ⊢
          -- the round on `d` suspended: the round that resumes it is the round on `d ++ e`
          set q := p (p s m d).st (p s m d).msg (d.drop (p s m d).used ++ e) with hq
          cases hrq : q.res with
          | some r' =>
            have hr' : (p s m (d ++ e)).res = some r' := by rw [hres]; exact hrq
            rw [Parser.iterate_some hd dflt hrq, Parser.iterate_some hd dflt hr']
            refine ⟨hcl, hu, rfl, hm, fun hf => hst ?_⟩
            rw [hr']
            rintro ⟨x, hx, hx'⟩
            cases hx
            exact hf hx'
          | none =>
            have hr' : (p s m (d ++ e)).res = none := by rw [hres]; exact hrq
            have hst' := hst (by rw [hr']; rintro ⟨x, hx, -⟩; cases hx)
            have hdrop : (d ++ e).drop (p s m (d ++ e)).used =
                (d.drop (p s m d).used ++ e).drop q.used := by
              rw [hu]; exact drop_append_drop h2
            rw [Parser.iterate_none hd dflt hrq, Parser.iterate_none hd dflt hr', hdrop, hst', hm]
            simp only [Out.after_st, Out.after_msg, Out.after_used] at hu ⊢
            refine ⟨?_, by simp only [Out.after, hu, ← hq]; omega, rfl, rfl, fun _ => rfl⟩
            intro x hx
            rcases mem_append.mp hx with hx | hx
            · exact hcl x hx
            · apply hc x
              rw [Parser.iterate_none hd dflt hr', hdrop, hst', hm]
              exact mem_append_right _ hx
  intro s m d e hI hc
  exact key _ s m d e (Nat.lt_succ_self _) hI hc

end Iterate

/-! ### Streams in chunks -/

section Streams

/-- Call the parser until it suspends.  A result that `emits` hands out the message, which is then
`release`d; any other result that does not suspend is followed by another call. -/
inductive Drains (v : Verdict ρ) (emits : ρ → Prop) (release : μ → μ) (p : Parser β σ μ ρ ε) :
    σ → μ → List β → σ → μ → List β → List μ → List ε → Prop
  | wait {s m d} : v.susp (p s m d).res →
      Drains v emits release p s m d (p s m d).st (p s m d).msg (d.drop (p s m d).used) []
        (p s m d).log
  | emit {s m d s' m' d' os lg} : ¬ v.susp (p s m d).res → emits (p s m d).res →
      Drains v emits release p (p s m d).st (release (p s m d).msg) (d.drop (p s m d).used)
        s' m' d' os lg →
      Drains v emits release p s m d s' m' d' ((p s m d).msg :: os) ((p s m d).log ++ lg)
  | again {s m d s' m' d' os lg} : ¬ v.susp (p s m d).res → ¬ emits (p s m d).res →
      Drains v emits release p (p s m d).st (p s m d).msg (d.drop (p s m d).used)
        s' m' d' os lg →
      Drains v emits release p s m d s' m' d' os ((p s m d).log ++ lg)

/-- Draining with at most `n` calls: control state, message, bytes left, messages and log. -/
def Parser.drain (p : Parser β σ μ ρ ε) (v : Verdict ρ) (emits : ρ → Prop) [DecidablePred v.susp]
    [DecidablePred emits] (release : μ → μ) :
    Nat → σ → μ → List β → Option (σ × μ × List β × List μ × List ε)
  | 0, _, _, _ => none
  | n + 1, s, m, d =>
    let o := p s m d
    if v.susp o.res then some (o.st, o.msg, d.drop o.used, [], o.log)
    else if emits o.res then
      (p.drain v emits release n o.st (release o.msg) (d.drop o.used)).map
        fun r => (r.1, r.2.1, r.2.2.1, o.msg :: r.2.2.2.1, o.log ++ r.2.2.2.2)
    else
      (p.drain v emits release n o.st o.msg (d.drop o.used)).map
        fun r => (r.1, r.2.1, r.2.2.1, r.2.2.2.1, o.log ++ r.2.2.2.2)

/-- Append each chunk to what the last calls left, if it fits, and drain. -/
inductive Feeds (v : Verdict ρ) (emits : ρ → Prop) (release : μ → μ) (p : Parser β σ μ ρ ε)
    (fits : List β → List β → Prop) :
    σ → μ → List β → List (List β) → σ → μ → List β → List μ → List ε → Prop
  | nil {s m b} : Feeds v emits release p fits s m b [] s m b [] []
  | cons {s m b c cs s1 m1 b1 s' m' b' os1 os2 lg1 lg2} : fits b c →
      Drains v emits release p s m (b ++ c) s1 m1 b1 os1 lg1 →
      Feeds v emits release p fits s1 m1 b1 cs s' m' b' os2 lg2 →
      Feeds v emits release p fits s m b (c :: cs) s' m' b' (os1 ++ os2) (lg1 ++ lg2)

variable {v : Verdict ρ} {emits : ρ → Prop} {release : μ → μ} {p : Parser β σ μ ρ ε}
  {ok : ε → Prop} {I : σ → μ → Prop} {fits : List β → List β → Prop}

variable {s : σ} {m : μ} {d : List β}

theorem Drains.unique {s1 m1 d1 os1 lg1 s2 m2 d2 os2 lg2} (h1 : Drains v emits release p s m d s1 m1 d1 os1 lg1)
    (h2 : Drains v emits release p s m d s2 m2 d2 os2 lg2) :
    s1 = s2 ∧ m1 = m2 ∧ d1 = d2 ∧ os1 = os2 ∧ lg1 = lg2 := by
  induction h1 generalizing s2 m2 d2 os2 lg2 with
  | wait hs =>
    cases h2 with
    | wait => exact ⟨rfl, rfl, rfl, rfl, rfl⟩
    | emit hn | again hn => exact absurd hs hn
  | emit hn he _ ih =>
    cases h2 with
    | wait hs => exact absurd hs hn
    | emit _ _ h => obtain ⟨rfl, rfl, rfl, rfl, rfl⟩ := ih h; exact ⟨rfl, rfl, rfl, rfl, rfl⟩
    | again _ hne => exact absurd he hne
  | again hn hne _ ih =>
    cases h2 with
    | wait hs => exact absurd hs hn
    | emit _ he => exact absurd he hne
    | again _ _ h => obtain ⟨rfl, rfl, rfl, rfl, rfl⟩ := ih h; exact ⟨rfl, rfl, rfl, rfl, rfl⟩

variable {n : Nat}

theorem Parser.drain_sound [DecidablePred v.susp] [DecidablePred emits] {s' m' d' os lg}
    (h : p.drain v emits release n s m d = some (s', m', d', os, lg)) :
    Drains v emits release p s m d s' m' d' os lg := by
  induction n generalizing s m d s' m' d' os lg with
  | zero => simp [Parser.drain] at h
  | succ n ih =>
    simp only [Parser.drain] at h
    split_ifs at h with hs he
    · simp only [Option.some.injEq, Prod.mk.injEq] at h
      obtain ⟨rfl, rfl, rfl, rfl, rfl⟩ := h
      exact .wait hs
    · obtain ⟨⟨s1, m1, d1, os1, lg1⟩, hr, heq⟩ := Option.map_eq_some_iff.mp h
      simp only [Prod.mk.injEq] at heq
      obtain ⟨rfl, rfl, rfl, rfl, rfl⟩ := heq
      exact .emit hs he (ih hr)
    · obtain ⟨⟨s1, m1, d1, os1, lg1⟩, hr, heq⟩ := Option.map_eq_some_iff.mp h
      simp only [Prod.mk.injEq] at heq
      obtain ⟨rfl, rfl, rfl, rfl, rfl⟩ := heq
      exact .again hs he (ih hr)

variable {b : List β} {cs : List (List β)}

theorem Feeds.unique {s1 m1 b1 os1 lg1 s2 m2 b2 os2 lg2}
    (h1 : Feeds v emits release p fits s m b cs s1 m1 b1 os1 lg1)
    (h2 : Feeds v emits release p fits s m b cs s2 m2 b2 os2 lg2) :
    s1 = s2 ∧ m1 = m2 ∧ b1 = b2 ∧ os1 = os2 ∧ lg1 = lg2 := by
  induction h1 generalizing s2 m2 b2 os2 lg2 with
  | nil => cases h2; exact ⟨rfl, rfl, rfl, rfl, rfl⟩
  | cons _ hd _ ih =>
    cases h2 with
    | cons _ hd' hf' =>
      obtain ⟨rfl, rfl, rfl, rfl, rfl⟩ := hd.unique hd'
      obtain ⟨rfl, rfl, rfl, rfl, rfl⟩ := ih hf'
      exact ⟨rfl, rfl, rfl, rfl, rfl⟩

/-- Feeding with at most `n` calls for each chunk. -/
def Parser.feed (p : Parser β σ μ ρ ε) (v : Verdict ρ) (emits : ρ → Prop) [DecidablePred v.susp]
    [DecidablePred emits] (release : μ → μ) (fits : List β → List β → Prop)
    [DecidableRel fits] (n : Nat) :
    σ → μ → List β → List (List β) → Option (σ × μ × List β × List μ × List ε)
  | s, m, b, [] => some (s, m, b, [], [])
  | s, m, b, c :: cs =>
    if fits b c then
      (p.drain v emits release n s m (b ++ c)).bind fun r =>
        (p.feed v emits release fits n r.1 r.2.1 r.2.2.1 cs).map fun r' =>
          (r'.1, r'.2.1, r'.2.2.1, r.2.2.2.1 ++ r'.2.2.2.1, r.2.2.2.2 ++ r'.2.2.2.2)
    else none

theorem Parser.feed_sound [DecidablePred v.susp] [DecidablePred emits] [DecidableRel fits] {s' m' b' os lg}
    (h : p.feed v emits release fits n s m b cs = some (s', m', b', os, lg)) :
    Feeds v emits release p fits s m b cs s' m' b' os lg := by
  induction cs generalizing s m b s' m' b' os lg with
  | nil =>
    simp only [Parser.feed, Option.some.injEq, Prod.mk.injEq] at h
    obtain ⟨rfl, rfl, rfl, rfl, rfl⟩ := h
    exact .nil
  | cons c cs ih =>
    simp only [Parser.feed] at h
    split_ifs at h with hf
    obtain ⟨⟨s1, m1, b1, os1, lg1⟩, hd, h⟩ := Option.bind_eq_some_iff.mp h
    obtain ⟨⟨s2, m2, b2, os2, lg2⟩, hr, heq⟩ := Option.map_eq_some_iff.mp h
    simp only [Prod.mk.injEq] at heq
    obtain ⟨rfl, rfl, rfl, rfl, rfl⟩ := heq
    exact .cons hf (Parser.drain_sound hd) (ih hr)

/-- A run without limits is one within limits if each chunk fits behind what is left by then. -/
theorem Feeds.fit {s' m' b' os lg} (h : Feeds v emits release p (fun _ _ => True) s m b cs s' m' b' os lg)
    (hfits : ∀ cs1 c cs2, cs = cs1 ++ c :: cs2 → ∀ s1 m1 b1 os1 lg1,
      Feeds v emits release p (fun _ _ => True) s m b cs1 s1 m1 b1 os1 lg1 → fits b1 c) :
    Feeds v emits release p fits s m b cs s' m' b' os lg := by
  induction h with
  | nil => exact .nil
  | cons _ hd _ ih =>
    refine .cons (hfits [] _ _ rfl _ _ _ _ _ Feeds.nil) hd (ih fun cs1 c cs2 hcs => ?_)
    intro s1 m1 b1 os1 lg1 h1
    exact hfits (_ :: cs1) c cs2 (by rw [hcs]; rfl) _ _ _ _ _ (.cons trivial hd h1)

variable {s1 : σ} {m1 : μ}

theorem Drains.wait_of {r : ρ} {lg : List ε} (h : p s m d = ⟨s1, m1, n, r, lg⟩) (hr : v.susp r) :
    Drains v emits release p s m d s1 m1 (d.drop n) [] lg := by
  have hd : Drains v emits release p s m d (p s m d).st (p s m d).msg (d.drop (p s m d).used) []
      (p s m d).log := .wait (by rw [h]; exact hr)
  rwa [h] at hd

theorem Drains.emit_of {r : ρ} {lg1 : List ε}
    {s' m' d' os lg} (h : p s m d = ⟨s1, m1, n, r, lg1⟩) (hr : ¬ v.susp r) (he : emits r)
    (hd : Drains v emits release p s1 (release m1) (d.drop n) s' m' d' os lg) :
    Drains v emits release p s m d s' m' d' (m1 :: os) (lg1 ++ lg) := by
  have hfirst : Drains v emits release p s m d s' m' d' ((p s m d).msg :: os)
      ((p s m d).log ++ lg) :=
    Drains.emit (by rw [h]; exact hr) (by rw [h]; exact he) (by rw [h]; exact hd)
  rwa [h] at hfirst

theorem Drains.since_of {lg1 : List ε} {s' m' d' os lg} (h : p s m d = (p s1 m1 (d.drop n)).since n lg1)
    (hd : Drains v emits release p s1 m1 (d.drop n) s' m' d' os lg) :
    Drains v emits release p s m d s' m' d' os (lg1 ++ lg) := by
  have hdrop : d.drop (p s m d).used = (d.drop n).drop (p s1 m1 (d.drop n)).used := by
    rw [h, Out.since_used, drop_drop]
  have hst : (p s m d).st = (p s1 m1 (d.drop n)).st := by rw [h]; rfl
  have hmsg : (p s m d).msg = (p s1 m1 (d.drop n)).msg := by rw [h]; rfl
  have hres : (p s m d).res = (p s1 m1 (d.drop n)).res := by rw [h]; rfl
  have hlog : (p s m d).log = lg1 ++ (p s1 m1 (d.drop n)).log := by rw [h]; rfl
  generalize hD : d.drop n = D at *
  cases hd with
  | wait hs =>
    rw [← hlog, ← hdrop, ← hst, ← hmsg]
    exact .wait (by rw [hres]; exact hs)
  | emit hs he hd =>
    rw [← append_assoc, ← hlog, ← hmsg]
    refine .emit (by rw [hres]; exact hs) (by rw [hres]; exact he) ?_
    rw [hst, hmsg, hdrop]
    exact hd
  | again hs he hd =>
    rw [← append_assoc, ← hlog]
    refine .again (by rw [hres]; exact hs) (by rw [hres]; exact he) ?_
    rw [hst, hmsg, hdrop]
    exact hd

theorem Feeds.cons_inv {c : List β} {s' m' b' os lg}
    (h : Feeds v emits release p fits s m b (c :: cs) s' m' b' os lg) :
    ∃ s1 m1 b1 os1 os2 lg1 lg2, os = os1 ++ os2 ∧ lg = lg1 ++ lg2 ∧
      Drains v emits release p s m (b ++ c) s1 m1 b1 os1 lg1 ∧
      Feeds v emits release p fits s1 m1 b1 cs s' m' b' os2 lg2 := by
  cases h with
  | cons _ hd hf => exact ⟨_, _, _, _, _, _, _, rfl, rfl, hd, hf⟩

theorem Drains.length_le {s' m' d' os lg}
    (h : Drains v emits release p s m d s' m' d' os lg) : d'.length ≤ d.length := by
  induction h with
  | wait => rw [length_drop]; omega
  | emit _ _ _ ih | again _ _ _ ih => rw [length_drop] at ih; omega

theorem Feeds.length_le {s' m' b' os lg} (h : Feeds v emits release p fits s m b cs s' m' b' os lg) :
    b'.length ≤ b.length + cs.flatten.length := by
  induction h with
  | nil => omega
  | cons _ hd _ ih =>
    have hle := hd.length_le
    rw [length_append] at hle
    rw [flatten_cons, length_append]
    omega

/-- No result ends the life of the control state, as at the outermost layer. -/
def Verdict.Restarts (v : Verdict ρ) : Prop := ∀ r, ¬ v.final r

/-- Handing out a message and releasing it keeps the invariant. -/
def Releases (emits : ρ → Prop) (release : μ → μ) (p : Parser β σ μ ρ ε) (ok : ε → Prop)
    (I : σ → μ → Prop) : Prop :=
  ∀ s m d, I s m → (p s m d).Clean ok → emits (p s m d).res →
    I (p s m d).st (release (p s m d).msg)

/-- What draining on `d` and then, behind what is left, on `e` does. -/
def DrainsTwice (v : Verdict ρ) (emits : ρ → Prop) (release : μ → μ) (p : Parser β σ μ ρ ε)
    (ok : ε → Prop) (I : σ → μ → Prop) (s : σ) (m : μ) (d e : List β) (s' : σ) (m' : μ)
    (d' : List β) (os : List μ) : Prop :=
  ∃ s1 m1 d1 os1 lg1 os2 lg2, Drains v emits release p s m d s1 m1 d1 os1 lg1 ∧
    (∀ x ∈ lg1, ok x) ∧ I s1 m1 ∧ Drains v emits release p s1 m1 (d1 ++ e) s' m' d' os2 lg2 ∧
    (∀ x ∈ lg2, ok x) ∧ os = os1 ++ os2

theorem clean_append {a b : List ε} (ha : ∀ x ∈ a, ok x) (hb : ∀ x ∈ b, ok x) : ∀ x ∈ a ++ b, ok x := by
  intro x hx
  rcases mem_append.mp hx with hx | hx
  · exact ha x hx
  · exact hb x hx

theorem Drains.resumed (hv : v.Restarts) {e : List β} {s' m' d' os lg}
    (h : Drains v emits release p s m (d ++ e) s' m' d' os lg) (hlg : ∀ x ∈ lg, ok x)
    (R : Resumes v ok I p s m d e) (hs : v.susp (p s m d).res) :
    ∃ lg', Drains v emits release p (p s m d).st (p s m d).msg (d.drop (p s m d).used ++ e)
      s' m' d' os lg' ∧ ∀ x ∈ lg', ok x := by
  obtain ⟨hcl, hu, hr, hm, hst⟩ := R.more hs
  have hst' := hst (hv _)
  have hdrop : (d ++ e).drop (p s m (d ++ e)).used =
      (d.drop (p s m d).used ++ e).drop
        (p (p s m d).st (p s m d).msg (d.drop (p s m d).used ++ e)).used := by
    rw [hu]; exact drop_append_drop R.used_le
  simp only [Out.after_st, Out.after_msg, Out.after_res] at hst' hm hr
  cases h with
  | wait hs2 =>
    refine ⟨_, ?_, hcl⟩
    rw [hdrop, hst', hm]
    exact .wait (hr ▸ hs2)
  | emit hn he ht =>
    rw [hdrop, hst', hm] at ht
    rw [hm]
    exact ⟨_, Drains.emit (hr ▸ hn) (hr ▸ he) ht, clean_append hcl fun x hx => hlg x (mem_append_right _ hx)⟩
  | again hn he ht =>
    rw [hdrop, hst', hm] at ht
    exact ⟨_, Drains.again (hr ▸ hn) (hr ▸ he) ht, clean_append hcl fun x hx => hlg x (mem_append_right _ hx)⟩

/-- **A clean drain can be cut anywhere.**  By induction on the drain: each call on `d ++ e` is
compared with the call on `d`; the first one that suspends there is resumed with `e`. -/
theorem Drains.split (hv : v.Restarts) (hp : Resumable v ok I p)
    (hrel : Releases emits release p ok I) {D : List β} {s' m' d' os lg}
    (h : Drains v emits release p s m D s' m' d' os lg) (hlg : ∀ x ∈ lg, ok x) :
    ∀ d e, D = d ++ e → I s m → DrainsTwice v emits release p ok I s m d e s' m' d' os := by
  have susp : ∀ {s m d e s' m' d' os lg}, Drains v emits release p s m (d ++ e) s' m' d' os lg →
      (∀ x ∈ lg, ok x) → Resumes v ok I p s m d e → v.susp (p s m d).res →
      DrainsTwice v emits release p ok I s m d e s' m' d' os := by
    intro s m d e s' m' d' os lg h hlg R hs
    obtain ⟨lg', h', hlg'⟩ := h.resumed hv hlg R hs
    exact ⟨_, _, _, [], _, os, lg', Drains.wait hs, R.clean, R.inv (hv _), h', hlg', rfl⟩
  induction h with
  | @wait s m D hs =>
    rintro d e rfl hI
    have R := hp s m d e hI hlg
    by_cases hsu : v.susp (p s m d).res
    · exact susp (.wait hs) hlg R hsu
    · exact absurd ((R.done hsu).res ▸ hs) hsu
  | @emit s m D s' m' d' os lg hn he ht ih =>
    rintro d e rfl hI
    have R := hp s m d e hI (fun x hx => hlg x (mem_append_left _ hx))
    by_cases hsu : v.susp (p s m d).res
    · exact susp (.emit hn he ht) hlg R hsu
    · obtain ⟨hu, hr, hm, hst⟩ := R.done hsu
      have hst' := hst (hv _)
      obtain ⟨s1, m1, d1, os1, lg1, os2, lg2, k1, k2, k3, k4, k5, rfl⟩ :=
        ih (fun x hx => hlg x (mem_append_right _ hx)) (d.drop (p s m d).used) e
          (by rw [hu, drop_append_of_le_length R.used_le])
          (by rw [hst', hm]; exact hrel s m d hI R.clean (hr ▸ he))
      rw [hst', hm] at k1
      refine ⟨s1, m1, d1, _, _, os2, lg2, Drains.emit hsu (hr ▸ he) k1,
        clean_append R.clean k2, k3, k4, k5, ?_⟩
      rw [hm]
      rfl
  | @again s m D s' m' d' os lg hn he ht ih =>
    rintro d e rfl hI
    have R := hp s m d e hI (fun x hx => hlg x (mem_append_left _ hx))
    by_cases hsu : v.susp (p s m d).res
    · exact susp (.again hn he ht) hlg R hsu
    · obtain ⟨hu, hr, hm, hst⟩ := R.done hsu
      have hst' := hst (hv _)
      obtain ⟨s1, m1, d1, os1, lg1, os2, lg2, k1, k2, k3, k4, k5, rfl⟩ :=
        ih (fun x hx => hlg x (mem_append_right _ hx)) (d.drop (p s m d).used) e
          (by rw [hu, drop_append_of_le_length R.used_le])
          (by rw [hst', hm]; exact R.inv (hv _))
      rw [hst', hm] at k1
      exact ⟨s1, m1, d1, _, _, os2, lg2, Drains.again hsu (hr ▸ he) k1,
        clean_append R.clean k2, k3, k4, k5, rfl⟩

/-- **A clean drain of a whole stream is a clean run over any chunks of it.** -/
theorem Drains.feeds (hv : v.Restarts) (hp : Resumable v ok I p) (hrel : Releases emits release p ok I) :
    ∀ (cs : List (List β)) {s : σ} {m : μ} {b c : List β} {s' m' d' os lg}, I s m →
      Drains v emits release p s m (b ++ (c ++ cs.flatten)) s' m' d' os lg → (∀ x ∈ lg, ok x) →
      ∃ lg', Feeds v emits release p (fun _ _ => True) s m b (c :: cs) s' m' d' os lg' ∧ ∀ x ∈ lg', ok x := by
  intro cs
  induction cs with
  | nil =>
    intro s m b c s' m' d' os lg _ h hlg
    rw [flatten_nil, append_nil] at h
    have hf : Feeds v emits release p (fun _ _ => True) s m b [c] s' m' d' (os ++ []) (lg ++ []) :=
      Feeds.cons trivial h Feeds.nil
    rw [append_nil, append_nil] at hf
    exact ⟨lg, hf, hlg⟩
  | cons c' cs ih =>
    intro s m b c s' m' d' os lg hI h hlg
    rw [flatten_cons, ← append_assoc] at h
    obtain ⟨s1, m1, d1, os1, lg1, os2, lg2, k1, k2, k3, k4, k5, rfl⟩ :=
      h.split hv hp hrel hlg _ _ rfl hI
    obtain ⟨lg3, hf, hc⟩ := ih k3 k4 k5
    exact ⟨_, Feeds.cons trivial k1 hf, clean_append k2 hc⟩

end Streams

/-! ### In the middle of a message -/

section Midway

variable {v : Verdict ρ} {ok : ε → Prop} {I : σ → μ → Prop} {p : Parser β σ μ ρ ε} {s0 : σ} {m0 : μ}

/-- The parser was started in `s0` and `m0` on the bytes `pre`, in calls that all suspended; it is now
in `s` and `m`, with the bytes `d` still in the buffer.  Whatever comes behind them, a call now gives
what one call on everything gives. -/
structure Midway (v : Verdict ρ) (ok : ε → Prop) (I : σ → μ → Prop) (p : Parser β σ μ ρ ε) (s0 : σ)
    (m0 : μ) (pre : List β) (s : σ) (m : μ) (d : List β) : Prop where
  inv : I s m
  resumes : ∃ k, k ≤ pre.length ∧ d = pre.drop k ∧ ∀ e, (p s0 m0 (pre ++ e)).Clean ok →
    (p s m (d ++ e)).Clean ok ∧ Same v (p s0 m0 (pre ++ e)) ((p s m (d ++ e)).after k)

theorem Midway.start (hI : I s0 m0) (d : List β) : Midway v ok I p s0 m0 d s0 m0 d :=
  ⟨hI, 0, zero_le, rfl, fun _ hc => ⟨hc, .of_eq (after_zero _).symm⟩⟩

variable {d : List β} {s : σ} {m : μ}

theorem Midway.append {pre : List β} (h : Midway v ok I p s0 m0 pre s m d)
    (c : List β) : Midway v ok I p s0 m0 (pre ++ c) s m (d ++ c) := by
  obtain ⟨hI, k, hk, rfl, hres⟩ := h
  refine ⟨hI, k, by rw [length_append]; omega, (drop_append_of_le_length hk).symm, ?_⟩
  intro e hc
  rw [append_assoc] at hc ⊢
  rw [append_assoc]
  exact hres (c ++ e) hc

theorem Midway.suspends (hp : Resumable v ok I p) (hv : v.Restarts) {pre e : List β}
    (h : Midway v ok I p s0 m0 pre s m d) (hc : (p s0 m0 (pre ++ e)).Clean ok)
    (hlong : pre.length < (p s0 m0 (pre ++ e)).used) : v.susp (p s m d).res ∧
      Midway v ok I p s0 m0 pre (p s m d).st (p s m d).msg (d.drop (p s m d).used) := by
  obtain ⟨hI, k, hk, hd, hres⟩ := h
  have hlen : d.length = pre.length - k := by rw [hd, length_drop]
  obtain ⟨hcl, hsame⟩ := hres e hc
  have R := hp s m d e hI hcl
  have hsusp : v.susp (p s m d).res := by
    by_contra hn
    have hused := hsame.used
    rw [after_used, (R.done hn).used] at hused
    have := R.used_le
    omega
  refine ⟨hsusp, R.inv (hv _), k + (p s m d).used, ?_, ?_, ?_⟩
  · have := R.used_le
    omega
  · rw [← drop_drop, ← hd]
  · intro e' hc'
    obtain ⟨hcl', hsame'⟩ := hres e' hc'
    obtain ⟨hclean, hmore⟩ := (hp s m d e' hI hcl').more hsusp
    refine ⟨hclean, hsame'.trans ?_⟩
    rw [← after_after]
    exact hmore.after k

theorem Midway.completes (hv : v.Restarts) {x d' : List β}
    (h : Midway v ok I p s0 m0 (x ++ d') s m d) (hc : (p s0 m0 (x ++ d')).Clean ok)
    (hused : (p s0 m0 (x ++ d')).used = x.length) :
    (p s m d).res = (p s0 m0 (x ++ d')).res ∧ (p s m d).msg = (p s0 m0 (x ++ d')).msg ∧
      (p s m d).st = (p s0 m0 (x ++ d')).st ∧ d.drop (p s m d).used = d' := by
  obtain ⟨-, k, hk, hd, hres⟩ := h
  have hcall := hres []
  rw [append_nil, append_nil] at hcall
  obtain ⟨-, hsame⟩ := hcall hc
  refine ⟨hsame.res.symm, hsame.msg.symm, (hsame.st (hv _)).symm, ?_⟩
  have hk' : k + (p s m d).used = x.length := hsame.used.symm.trans hused
  rw [hd, drop_drop, ← hd, hk', drop_left]

end Midway

end RDMnet
