import Mathlib

/-!
# Counting changes in a machine word

`Advances n a b same`: a 32-bit counter has gone from `a` to `b` in at most `n` increments, and something has
stayed the `same` if it was not incremented at all.  Steps that advance a counter compose; and as long as the
counter cannot have gone round, an unchanged counter means that nothing has changed.
-/

namespace RDMnet

def Advances (n : Nat) (a b : UInt32) (same : Prop) : Prop :=
  ∃ k ≤ n, b = a + UInt32.ofNat k ∧ (k = 0 → same)

namespace Advances

variable {n m : Nat} {a b c : UInt32} {p q r : Prop}

theorem stays (n : Nat) (a : UInt32) (h : p) : Advances n a a p :=
  ⟨0, Nat.zero_le n, (UInt32.add_zero a).symm, fun _ => h⟩

theorem one (hn : 1 ≤ n) (a : UInt32) : Advances n a (a + 1) p := ⟨1, hn, rfl, fun h => by cases h⟩

theorem mono (h : Advances n a b p) (hnm : n ≤ m) : Advances m a b p := by
  obtain ⟨k, hk, hb, hp⟩ := h
  exact ⟨k, le_trans hk hnm, hb, hp⟩

theorem trans (hpq : p → q → r) (h : Advances n a b p) (h' : Advances m b c q) : Advances (n + m) a c r := by
  obtain ⟨k, hk, rfl, hp⟩ := h
  obtain ⟨l, hl, rfl, hq⟩ := h'
  refine ⟨k + l, Nat.add_le_add hk hl, ?_, fun h => ?_⟩
  · rw [UInt32.ofNat_add, UInt32.add_assoc]
  · exact hpq (hp (Nat.eq_zero_of_add_eq_zero_right h)) (hq (Nat.eq_zero_of_add_eq_zero_left h))

theorem same_of_eq (h : Advances n a a p) (hn : n < 4294967296) : p := by
  obtain ⟨k, hk, ha, hp⟩ := h
  apply hp
  have h0 : UInt32.ofNat k = 0 := by simpa using ha.symm
  have hk0 := congrArg UInt32.toNat h0
  rw [UInt32.toNat_ofNat'] at hk0
  have : k % 4294967296 = 0 := hk0
  omega

end Advances

end RDMnet
