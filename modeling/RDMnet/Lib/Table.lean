import Mathlib

/-!
# Finite maps

Association lists with distinct keys, with the operations of `std::map` that Mathlib's `AList` does not
have: an `insert` that keeps the value of a key that is there, a change of all values, and the removal
of several keys.  Each operation comes with what a lookup finds after it and with the number of keys.
-/

namespace RDMnet

open List

/-- A map from `κ` to `ν`. -/
abbrev Table (κ ν : Type) := AList fun _ : κ => ν

namespace Table

variable {κ ν ν' : Type}

def size (t : Table κ ν) : Nat := t.entries.length

def map (f : κ → ν → ν') (t : Table κ ν) : Table κ ν' :=
  ⟨t.entries.map (.map id f), t.nodupKeys.map₂ f t.entries⟩

variable [DecidableEq κ] {t : Table κ ν} {k k' : κ} {v : ν}

/-- `std::map::insert` -/
def insertNew (k : κ) (v : ν) (t : Table κ ν) : Table κ ν := if k ∈ t then t else t.insert k v

def eraseAll (ks : List κ) (t : Table κ ν) : Table κ ν := ks.foldl (fun t k => t.erase k) t

/-! ### Lookups -/

theorem lookup_map (f : κ → ν → ν') : (t.map f).lookup k = (t.lookup k).map (f k) :=
  dlookup_map₂ k

theorem lookup_insert_eq (t : Table κ ν) (k k' : κ) (v : ν) :
    (t.insert k v).lookup k' = if k' = k then some v else t.lookup k' := by
  by_cases h : k' = k
  · rw [h, if_pos rfl]
    exact AList.lookup_insert t
  · rw [if_neg h]
    exact AList.lookup_insert_ne h

theorem lookup_erase_eq (t : Table κ ν) (k k' : κ) :
    (t.erase k).lookup k' = if k' = k then none else t.lookup k' := by
  by_cases h : k' = k
  · rw [h, if_pos rfl]
    exact AList.lookup_erase k t
  · rw [if_neg h]
    exact AList.lookup_erase_ne h

theorem lookup_insertNew (hk : k ∉ t) :
    (t.insertNew k v).lookup k' = if k' = k then some v else t.lookup k' := by
  rw [insertNew, if_neg hk]
  exact lookup_insert_eq t k k' v

theorem lookup_eraseAll (ks : List κ) (t : Table κ ν) (k : κ) :
    (t.eraseAll ks).lookup k = if k ∈ ks then none else t.lookup k := by
  unfold eraseAll
  induction ks generalizing t with
  | nil => rfl
  | cons k' ks ih =>
    rw [foldl_cons, ih, lookup_erase_eq]
    by_cases h : k ∈ ks
    · rw [if_pos h, if_pos (mem_cons_of_mem _ h)]
    · rw [if_neg h]
      by_cases hk : k = k'
      · rw [if_pos hk, if_pos (hk ▸ mem_cons_self ..)]
      · rw [if_neg hk, if_neg (by simp [hk, h])]

theorem mem_iff_lookup : k ∈ t ↔ ∃ v, t.lookup k = some v := by
  rw [← AList.lookup_isSome, Option.isSome_iff_exists]

/-! ### Sizes -/

omit [DecidableEq κ] in
theorem size_eq_length_keys (t : Table κ ν) : t.size = t.keys.length := (length_map _).symm

theorem size_eq_of_lookup {t' : Table κ ν} (h : ∀ k, t.lookup k = t'.lookup k) : t.size = t'.size :=
  (lookup_ext t.nodupKeys t'.nodupKeys fun k v => by
    rw [show t.entries.dlookup k = t'.entries.dlookup k from h k]).length_eq

theorem size_insertNew_le (k : κ) (v : ν) (t : Table κ ν) : (t.insertNew k v).size ≤ t.size + 1 := by
  unfold insertNew
  split
  · exact Nat.le_succ _
  · exact Nat.succ_le_succ (kerase_sublist _ _).length_le

theorem size_eraseAll_le (ks : List κ) (t : Table κ ν) : (t.eraseAll ks).size ≤ t.size := by
  induction ks generalizing t with
  | nil => exact le_rfl
  | cons k ks ih => exact (ih (t.erase k)).trans (kerase_sublist _ _).length_le

end Table

end RDMnet
