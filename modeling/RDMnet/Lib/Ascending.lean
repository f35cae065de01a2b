import Mathlib

/-!
# Lists in ascending order

What an iteration over a search tree gives: the elements in the order of a number, their key, which differs
from one to the next.
-/

namespace RDMnet

open List

variable {α : Type} {key : α → Nat} {l : List α} {a : α}

abbrev Ascending (key : α → Nat) (l : List α) : Prop := l.Pairwise (key · < key ·)

namespace Ascending

theorem insert (r : α → α → Prop) [DecidableRel r] (hr : ∀ a b, r a b ↔ key a ≤ key b)
    (h : Ascending key l) (hne : ∀ b ∈ l, key b ≠ key a) : Ascending key (l.orderedInsert r a) := by
  induction l with
  | nil => exact pairwise_singleton _ _
  | cons c l ih =>
    obtain ⟨hc, hl⟩ := pairwise_cons.mp h
    have hca := hne c mem_cons_self
    rw [orderedInsert_cons]
    split
    · rename_i hrc
      have hac : key a < key c := lt_of_le_of_ne ((hr _ _).mp hrc) hca.symm
      refine pairwise_cons.mpr ⟨fun b hb => ?_, h⟩
      rcases mem_cons.mp hb with rfl | hb
      · exact hac
      · exact hac.trans (hc b hb)
    · rename_i hrc
      have hac : key c < key a := not_le.mp fun hle => hrc ((hr _ _).mpr (by omega))
      refine pairwise_cons.mpr ⟨fun b hb => ?_, ih hl fun b hb => hne b (mem_cons_of_mem _ hb)⟩
      rcases (mem_orderedInsert r).mp hb with rfl | hb
      · exact hac
      · exact hc b hb

theorem mem_take (h : Ascending key l) {i : Nat} (hi : i < l.length) :
    a ∈ l.take (i + 1) ↔ a ∈ l ∧ key a ≤ key l[i] := by
  have hlt := pairwise_iff_getElem.mp h
  rw [mem_iff_getElem, mem_iff_getElem]
  constructor
  · rintro ⟨j, hj, rfl⟩
    rw [length_take] at hj
    rw [getElem_take]
    refine ⟨⟨j, by omega, rfl⟩, ?_⟩
    rcases Nat.lt_or_ge j i with hji | hji
    · exact (hlt j i (by omega) hi hji).le
    · have : j = i := by omega
      subst this
      exact le_rfl
  · rintro ⟨⟨j, hj, rfl⟩, hle⟩
    have hji : j ≤ i := not_lt.mp fun hij => absurd (hlt i j hi hj hij) (not_lt.mpr hle)
    exact ⟨j, by rw [length_take]; omega, getElem_take⟩

end Ascending

end RDMnet
