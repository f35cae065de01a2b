import Mathlib

/-!
# Runs of a system that takes actions

A system is a partial function `step`: what an action makes of a state, if it is possible there.
`Runs step ok` are the runs all of whose actions meet a condition `ok` on the action and the state
it is taken in.  `Runs.keeps` is the rule for invariants; `play` executes a list of actions, so that
a run can be exhibited by evaluating it.
-/

namespace RDMnet

variable {α σ : Type} {step : α → σ → Option σ} {ok ok' : α → σ → Prop} {s s' s'' : σ}

/-- One step, by an action that meets `ok`. -/
def Takes (step : α → σ → Option σ) (ok : α → σ → Prop) (s s' : σ) : Prop :=
  ∃ a, ok a s ∧ step a s = some s'

/-- A run of any length, each step of which meets `ok`. -/
abbrev Runs (step : α → σ → Option σ) (ok : α → σ → Prop) : σ → σ → Prop :=
  Relation.ReflTransGen (Takes step ok)

abbrev anyStep : α → σ → Prop := fun _ _ => True

theorem Runs.keeps {I : σ → Prop} (hstep : ∀ a t t', ok a t → I t → step a t = some t' → I t')
    (h : Runs step ok s s') (hI : I s) : I s' := by
  induction h with
  | refl => exact hI
  | tail _ hst ih =>
    obtain ⟨a, hok, ht⟩ := hst
    exact hstep a _ _ hok ih ht

theorem Runs.mono (himp : ∀ a t, ok a t → ok' a t) (h : Runs step ok s s') : Runs step ok' s s' :=
  Relation.ReflTransGen.mono (fun _ _ ⟨a, hok, ht⟩ => ⟨a, himp a _ hok, ht⟩) _ _ h

/-- Take the actions of a list one after another, as long as each meets `ok`. -/
def play (step : α → σ → Option σ) (ok : α → σ → Prop) [∀ a s, Decidable (ok a s)] :
    List α → σ → Option σ
  | [], s => some s
  | a :: as, s => if ok a s then (step a s).bind (play step ok as) else none

theorem Runs.of_play [∀ a s, Decidable (ok a s)] (as : List α) :
    ∀ {s : σ}, play step ok as s = some s' → Runs step ok s s' := by
  induction as with
  | nil =>
    intro s h
    cases h
    exact .refl
  | cons a as ih =>
    intro s h
    unfold play at h
    split at h
    · rename_i hok
      obtain ⟨t, ht, hp⟩ := Option.bind_eq_some_iff.mp h
      exact Relation.ReflTransGen.head ⟨a, hok, ht⟩ (ih hp)
    · cases h

/-- The state after playing a list of actions that can be taken. -/
def played (step : α → σ → Option σ) (ok : α → σ → Prop) [∀ a s, Decidable (ok a s)] (as : List α)
    (s : σ) (h : (play step ok as s).isSome = true) : σ :=
  (play step ok as s).get h

theorem Runs.played [∀ a s, Decidable (ok a s)] (as : List α)
    (h : (play step ok as s).isSome = true) : Runs step ok s (played step ok as s h) :=
  .of_play as (Option.some_get h).symm

theorem Runs.exists_of_play (step : α → σ → Option σ) (ok : α → σ → Prop)
    [∀ a s, Decidable (ok a s)] {γ : Type} (f : σ → γ) (x : γ) (as : List α)
    (h : (play step ok as s).map f = some x) : ∃ s', Runs step ok s s' ∧ f s' = x := by
  obtain ⟨s', hp, hf⟩ := Option.map_eq_some_iff.mp h
  exact ⟨s', .of_play as hp, hf⟩

end RDMnet
