import RDMnet.Lib.Resumable

/-!
# The rounds of a loop

`Parser.Gets` says where the rounds of a loop get to.  A loop whose rounds decrease a measure gives
the result of the first of these rounds that has one.
-/

namespace RDMnet

variable {β σ μ ρ ε : Type} {p : Parser β σ μ (Option ρ) ε}

/-- The loop gets from one state to another, by rounds that each ask for the next one. -/
inductive Parser.Gets (p : Parser β σ μ (Option ρ) ε) : σ → μ → List β → σ → μ → List β → Prop
  | refl {s m d} : p.Gets s m d s m d
  | again {s m d s' m' d'} : (p s m d).res = none →
      p.Gets (p s m d).st (p s m d).msg (d.drop (p s m d).used) s' m' d' → p.Gets s m d s' m' d'

theorem Parser.Gets.keeps {I : σ → μ → List β → Prop} {s s' : σ} {m m' : μ} {d d' : List β}
    (h : p.Gets s m d s' m' d') (hI : I s m d) (hstep : ∀ s m d, I s m d → (p s m d).res = none →
      I (p s m d).st (p s m d).msg (d.drop (p s m d).used)) : I s' m' d' := by
  induction h with
  | refl => exact hI
  | again hr _ ih => exact ih (hstep _ _ _ hI hr)

theorem Parser.Gets.eq_of_some {s s' : σ} {m m' : μ} {d d' : List β} {x : ρ}
    (h : p.Gets s m d s' m' d') (hr : (p s m d).res = some x) : s' = s ∧ m' = m ∧ d' = d := by
  cases h with
  | refl => exact ⟨rfl, rfl, rfl⟩
  | again hn => rw [hn] at hr; cases hr

theorem Parser.iterate_res_iff {meas : σ → μ → List β → Nat} (hd : p.Decreases meas) (dflt : ρ)
    {s : σ} {m : μ} {d : List β} {x : ρ} : (p.iterate meas dflt s m d).res = x ↔
      ∃ s' m' d', p.Gets s m d s' m' d' ∧ (p s' m' d').res = some x := by
  have key : ∀ (n : Nat) s m d, meas s m d < n → ((p.iterate meas dflt s m d).res = x ↔
      ∃ s' m' d', p.Gets s m d s' m' d' ∧ (p s' m' d').res = some x) := by
    intro n
    induction n with
    | zero => intro s m d hn; omega
    | succ n ih =>
      intro s m d hn
      cases hr : (p s m d).res with
      | some y =>
        rw [Parser.iterate_some hd dflt hr]
        refine ⟨fun h => ⟨s, m, d, .refl, by rw [hr]; exact congrArg some h⟩, ?_⟩
        rintro ⟨s', m', d', hg, hx⟩
        obtain ⟨rfl, rfl, rfl⟩ := hg.eq_of_some hr
        rw [hr] at hx
        exact Option.some.inj hx
      | none =>
        have hlt := hd s m d hr
        rw [Parser.iterate_none hd dflt hr]
        refine (ih _ _ _ (by omega)).trans ⟨?_, ?_⟩
        · rintro ⟨s', m', d', hg, hx⟩
          exact ⟨s', m', d', .again hr hg, hx⟩
        · rintro ⟨s', m', d', hg, hx⟩
          cases hg with
          | refl => rw [hr] at hx; cases hx
          | again _ hg => exact ⟨s', m', d', hg, hx⟩
  exact key _ s m d (Nat.lt_succ_self _)

end RDMnet
