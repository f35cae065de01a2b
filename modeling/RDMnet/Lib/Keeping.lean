import RDMnet.Lib.Resumable

/-!
# Parsers that keep an invariant

An invariant of the control state and of the message under construction that every call keeps,
whatever its result, and a property of the messages that calls hand out.  `src` says where the data
at hand comes from; a call may leave out a part at the front of it.

* `Keeping.dispatch`, `Keeping.iterate`: the property is kept by choosing a parser from the message
  and by a loop.
-/

namespace RDMnet

open Out

variable {β σ μ ρ ε : Type}

/-- From a state with `I` and on data with `src`, a call whose events are all `ok` leaves a state
with `I`, and what it hands out with a result in `gives` has `G`. -/
def Keeping (ok : ε → Prop) (src : List β → Prop) (gives : ρ → Prop) (I : σ → μ → Prop)
    (G : μ → Prop) (p : Parser β σ μ ρ ε) : Prop :=
  ∀ s m d, src d → I s m → (p s m d).Clean ok →
    I (p s m d).st (p s m d).msg ∧ (gives (p s m d).res → G (p s m d).msg)

section Rules

variable {ok : ε → Prop} {src : List β → Prop} {gives : ρ → Prop} {I : σ → μ → Prop} {G : μ → Prop}

theorem Keeping.dispatch {κ : Type} {I : κ → σ → μ → Prop} {G : κ → μ → Prop} (key : μ → κ)
    {q : κ → Parser β σ μ ρ ε} (h : ∀ k, Keeping ok src gives (I k) (G k) (q k))
    (hk : ∀ k s m d, key m = k → key (q k s m d).msg = k) :
    Keeping ok src gives (fun s m => I (key m) s m) (fun m => G (key m) m) (fun s m d => q (key m) s m d) := by
  intro s m d hd hI hc
  have hkey := hk (key m) s m d rfl
  simp only [hkey]
  exact h (key m) s m d hd hI hc

theorem Keeping.iterate {q : Parser β σ μ (Option ρ) ε} {meas : σ → μ → List β → Nat} {dflt : ρ}
    (h : Keeping ok src (fun r => ∃ x, r = some x ∧ gives x) I G q)
    (hsrc : ∀ d n, src d → src (d.drop n)) (hdflt : ¬ gives dflt) :
    Keeping ok src gives I G (q.iterate meas dflt) := by
  have key : ∀ n s m d, src d → I s m → (q.rounds dflt n s m d).Clean ok →
      I (q.rounds dflt n s m d).st (q.rounds dflt n s m d).msg ∧
        (gives (q.rounds dflt n s m d).res → G (q.rounds dflt n s m d).msg) := by
    intro n
    induction n with
    | zero => exact fun s m d _ hI _ => ⟨hI, fun hg => absurd hg hdflt⟩
    | succ n ih =>
      intro s m d hd hI hc
      simp only [Parser.rounds] at hc ⊢
      cases hr : (q s m d).res with
      | some x =>
        rw [hr] at hc
        obtain ⟨h1, h2⟩ := h s m d hd hI hc
        exact ⟨h1, fun hg => h2 ⟨x, hr, hg⟩⟩
      | none =>
        rw [hr] at hc
        have hc1 : (q s m d).Clean ok := fun x hx => hc x (List.mem_append_left _ hx)
        exact ih _ _ _ (hsrc _ _ hd) (h s m d hd hI hc1).1
          fun x hx => hc x (List.mem_append_right _ hx)
  exact fun s m d => key _ s m d

end Rules

end RDMnet
