import RDMnet.Lib.Resumable

/-!
# Parsers within bounds

A parser that has `r` symbols left of what it may take.  `Bounded` says of every call that it stays
within these and within the data at hand, and that the invariant, which knows how many symbols are
left, is kept.  What is assumed of the events of a call, what is shown of them, and what a result
must be like, given the symbols left, those at hand and those taken, are `Terms`.

* `Bounded.zoom`, `Bounded.dispatch`, `Bounded.iterate`: the property is kept by running a parser on
  a part of the state, by choosing one from the message, and by a loop.
* `Parser.iterate_rule`: the rule of a loop, for any property of the rounds.
-/

namespace RDMnet

variable {β σ μ ρ ε σ' μ' : Type}

/-- The terms of a bound: of every event `ok` is assumed and `held` is shown; after a `dead` result
the control state is not used again; `fair x r n u` says when a call with `n` symbols at hand and
`r` left may take `u` of them and return `x`. -/
structure Terms (ρ ε : Type) where
  ok : ε → Prop
  held : ε → Prop
  dead : ρ → Prop
  fair : ρ → Nat → Nat → Nat → Prop
  /-- What is fair for the rest is fair for the whole. -/
  fair_add : ∀ x r n u k, u ≤ r → u ≤ n → fair x (r - u) (n - u) k → fair x r n (u + k)

/-- The outcome of a call with `n` symbols at hand and `r` left. -/
structure Out.Within (t : Terms ρ ε) (H : μ → Prop) (I : σ → μ → Nat → Prop) (r n : Nat)
    (o : Out σ μ ρ ε) : Prop where
  held : o.Clean t.held
  used_le : o.used ≤ n
  used_left : o.used ≤ r
  fair : t.fair o.res r n o.used
  msg : H o.msg
  inv : ¬ t.dead o.res → I o.st o.msg (r - o.used)

def Bounded (t : Terms ρ ε) (H : μ → Prop) (I : σ → μ → Nat → Prop)
    (p : Parser β σ μ ρ ε) : Prop :=
  ∀ s m r d, I s m r → (p s m d).Clean t.ok → (p s m d).Within t H I r d.length

namespace Out.Within

variable {t : Terms ρ ε} {H : μ → Prop} {I : σ → μ → Nat → Prop} {r n : Nat} {o : Out σ μ ρ ε}

theorem since {k : Nat} {lg : List ε} (h : o.Within t H I (r - k) (n - k)) (hr : k ≤ r)
    (hn : k ≤ n) (hlg : ∀ x ∈ lg, t.held x) : (o.since k lg).Within t H I r n where
  held := clean_since.mpr ⟨hlg, h.held⟩
  used_le := by have := h.used_le; simp only [since_used]; omega
  used_left := by have := h.used_left; simp only [since_used]; omega
  fair := t.fair_add _ _ _ _ _ hr hn h.fair
  msg := h.msg
  inv := fun hd => by
    have := h.inv hd
    rwa [Nat.sub_sub] at this

theorem mono {I' : σ → μ → Nat → Prop} (h : o.Within t H I r n)
    (hI : I o.st o.msg (r - o.used) → I' o.st o.msg (r - o.used)) : o.Within t H I' r n :=
  { h with inv := fun hd => hI (h.inv hd) }

end Out.Within

variable {t : Terms ρ ε} {H : μ → Prop} {I : σ → μ → Nat → Prop}

theorem Bounded.zoom {p : Parser β σ μ ρ ε} {getS : σ' → σ} {setS : σ → σ' → σ'} {getM : μ' → μ}
    {setM : μ → μ' → μ'} {H' : μ' → Prop} (h : Bounded t H I p)
    (hs : ∀ a s, getS (setS a s) = a) (hm : ∀ a m, getM (setM a m) = a)
    (hH : ∀ a m, H' m → H a → H' (setM a m)) :
    Bounded t H' (fun s m r => H' m ∧ I (getS s) (getM m) r) (p.zoom getS setS getM setM) := by
  rintro s m r d ⟨hm', hI⟩ hc
  obtain ⟨h1, h2, h3, h4, h5, h6⟩ := h _ _ _ _ hI hc
  refine ⟨h1, h2, h3, h4, hH _ _ hm' h5, fun hd => ⟨hH _ _ hm' h5, ?_⟩⟩
  show I (getS (setS _ s)) (getM (setM _ m)) _
  rw [hs, hm]
  exact h6 hd

theorem Bounded.dispatch {κ : Type} {I : κ → σ → μ → Nat → Prop}
    (key : μ → κ) {q : κ → Parser β σ μ ρ ε} (h : ∀ k, Bounded t H (I k) (q k))
    (hk : ∀ k s m d, key m = k → key (q k s m d).msg = k) :
    Bounded t H (fun s m r => I (key m) s m r) (fun s m d => q (key m) s m d) := by
  intro s m r d hI hc
  refine (h (key m) s m r d hI hc).mono fun hinv => ?_
  rw [hk (key m) s m d rfl]
  exact hinv

/-! ### Loops -/

/-- The terms of a round: one that asks for another round promises nothing yet. -/
def Terms.round (t : Terms ρ ε) : Terms (Option ρ) ε where
  ok := t.ok
  held := t.held
  dead := fun x => ∃ y, x = some y ∧ t.dead y
  fair := fun x r n u => ∀ y, x = some y → t.fair y r n u
  fair_add := fun _ r n u k hr hn h y hy => t.fair_add y r n u k hr hn (h y hy)

variable {r n : Nat}

theorem Out.Within.last {o : Out σ μ ρ ε} (h : o.Within t H I r n) : (o.map some).Within t.round H I r n where
  __ := h
  fair := by
    rintro y ⟨⟩
    exact h.fair
  inv := fun hd => h.inv fun hx => hd ⟨_, rfl, hx⟩

theorem Out.Within.result
    {o : Out σ μ (Option ρ) ε} {x : ρ} (h : o.Within t.round H I r n) (hx : o.res = some x) :
    (⟨o.st, o.msg, o.used, x, o.log⟩ : Out σ μ ρ ε).Within t H I r n where
  __ := h
  fair := h.fair x hx
  inv := fun hd => h.inv fun ⟨y, hy, hy'⟩ => by
    rw [hx] at hy
    cases hy
    exact hd hy'

theorem Out.Within.next {u : Nat}
    {s : σ} {m : μ} {lg : List ε} (hlg : ∀ x ∈ lg, t.held x) (hn : u ≤ n) (hr : u ≤ r) (hm : H m)
    (hI : I s m (r - u)) : (⟨s, m, u, none, lg⟩ : Out σ μ (Option ρ) ε).Within t.round H I r n where
  held := hlg
  used_le := hn
  used_left := hr
  fair := fun _ hy => (nomatch hy)
  msg := hm
  inv := fun _ => hI

/-- A round within its bounds: `J` holds behind it, and `I` too if it asks for another one. -/
structure Out.Round (t : Terms ρ ε) (H : μ → Prop) (J I : σ → μ → Nat → Prop) (r n : Nat)
    (o : Out σ μ (Option ρ) ε) : Prop where
  within : o.Within t.round H J r n
  again : o.res = none → I o.st o.msg (r - o.used)

namespace Out.Round

variable {J : σ → μ → Nat → Prop}

theorem last {o : Out σ μ ρ ε} (h : o.Within t H J r n) : (o.map some).Round t H J I r n :=
  ⟨.last h, fun h => by cases h⟩

theorem next {u : Nat} {s : σ} {m : μ} {lg : List ε} (hlg : ∀ x ∈ lg, t.held x) (hn : u ≤ n)
    (hr : u ≤ r) (hm : H m) (hJ : J s m (r - u)) (hI : I s m (r - u)) :
    (⟨s, m, u, none, lg⟩ : Out σ μ (Option ρ) ε).Round t H J I r n :=
  ⟨.next hlg hn hr hm hJ, fun _ => hI⟩

end Out.Round

variable {p : Parser β σ μ (Option ρ) ε} {meas : σ → μ → List β → Nat} {dflt : ρ}

/-- **The rule of a loop.**  `I` holds before every round and `Q` of what the rounds from there on
do; the index says what they may rely on. -/
theorem Parser.iterate_rule {ι : Type} {ok : ε → Prop} {I : ι → σ → μ → List β → Prop}
    {Q : ι → List β → Out σ μ ρ ε → Prop} (hd : p.Decreases meas)
    (hlast : ∀ i s m d x, I i s m d → (p s m d).Clean ok → (p s m d).res = some x →
      Q i d ⟨(p s m d).st, (p s m d).msg, (p s m d).used, x, (p s m d).log⟩)
    (hnext : ∀ i s m d, I i s m d → (p s m d).Clean ok → (p s m d).res = none →
      ∃ j, I j (p s m d).st (p s m d).msg (d.drop (p s m d).used) ∧
        ∀ o, Q j (d.drop (p s m d).used) o → Q i d (o.since (p s m d).used (p s m d).log))
    (i : ι) (s : σ) (m : μ) (d : List β) (hI : I i s m d)
    (hc : (p.iterate meas dflt s m d).Clean ok) : Q i d (p.iterate meas dflt s m d) := by
  have key : ∀ (k : Nat) i s m d, meas s m d < k → I i s m d →
      (p.iterate meas dflt s m d).Clean ok → Q i d (p.iterate meas dflt s m d) := by
    intro k
    induction k with
    | zero => intro i s m d hk; omega
    | succ k ih =>
      intro i s m d hk hI hc
      cases hr : (p s m d).res with
      | some x =>
        rw [Parser.iterate_some hd dflt hr] at hc ⊢
        exact hlast i s m d x hI hc hr
      | none =>
        rw [Parser.iterate_none hd dflt hr] at hc ⊢
        obtain ⟨j, hJ, hQ⟩ := hnext i s m d hI (fun x hx => hc x (List.mem_append_left _ hx)) hr
        exact hQ _ (ih j _ _ _ (by have := hd s m d hr; omega) hJ
          fun x hx => hc x (List.mem_append_right _ hx))
  exact key _ i s m d (Nat.lt_succ_self _) hI hc

/-- **A loop is within bounds** if every round on at most `N` symbols is.  The invariant `I` holds
before every round, `J` after the last. -/
theorem Out.Within.iterate {N : Nat} {J : σ → μ → Nat → Prop}
    (h : ∀ s m r d, d.length ≤ N → I s m r → (p s m d).Clean t.ok → (p s m d).Round t H J I r d.length)
    (hd : p.Decreases meas) (s : σ) (m : μ) (r : Nat) (d : List β) (hN : d.length ≤ N)
    (hI : I s m r) (hc : (p.iterate meas dflt s m d).Clean t.ok) :
    (p.iterate meas dflt s m d).Within t H J r d.length := by
  refine Parser.iterate_rule (I := fun r s m d => d.length ≤ N ∧ I s m r)
    (Q := fun r d o => o.Within t H J r d.length) hd ?_ ?_ r s m d ⟨hN, hI⟩ hc
  · rintro r s m d x ⟨hN, hI⟩ hc hr
    exact (h s m r d hN hI hc).1.result hr
  · rintro r s m d ⟨hN, hI⟩ hc hr
    obtain ⟨hw, hnext⟩ := h s m r d hN hI hc
    -- the rounds that follow have what this one left
    refine ⟨r - (p s m d).used, ⟨by rw [List.length_drop]; omega, hnext hr⟩, fun o ho => ?_⟩
    rw [List.length_drop] at ho
    exact ho.since hw.used_left hw.used_le hw.held

theorem Bounded.iterate
    (h : Bounded t.round H I p) (hd : p.Decreases meas) : Bounded t H I (p.iterate meas dflt) := by
  intro s m r d hI hc
  refine Out.Within.iterate (fun s m r d _ hI hc => ?_) hd s m r d le_rfl hI hc
  have hw := h s m r d hI hc
  exact ⟨hw, fun hr => hw.inv (by rw [hr]; rintro ⟨y, hy, -⟩; cases hy)⟩

end RDMnet
