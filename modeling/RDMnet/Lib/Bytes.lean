import Mathlib

/-!
# Byte strings: fixed-width fields in network order

Reading a field at an offset of a byte string and writing it.  A read looks only at the bytes of
its own field, so it does not change when the string is extended (`*_append`), and it gives back
what was written there (`*_pack`).  `sizeSub` is subtraction of two machine words.
-/

namespace RDMnet

abbrev Bytes := List UInt8

/-! ### Machine words -/

/-- `a - b` on 64-bit `size_t`: wraps below zero. -/
def sizeSub (a b : Nat) : Nat := (((a : Int) - b) % 18446744073709551616).toNat

theorem sizeSub_of_le {a b : Nat} (h : b ≤ a) (ha : a < 18446744073709551616) : sizeSub a b = a - b := by
  unfold sizeSub; omega

variable {n : Nat}

theorem sizeSub_add {a b : Nat} (h : n ≤ sizeSub a b) : sizeSub a (b + n) = sizeSub a b - n := by
  unfold sizeSub at *; omega

@[simp] theorem sizeSub_self (a : Nat) : sizeSub a a = 0 := by
  unfold sizeSub; omega

/-! ### Reading -/

/-- The byte at offset `i`. -/
def u8At (d : Bytes) (i : Nat) : UInt8 := d.getD i 0

/-- The big-endian 16-bit field at offset `i`. -/
def u16At (d : Bytes) (i : Nat) : UInt16 :=
  UInt16.ofNat ((u8At d i).toNat * 256 + (u8At d (i + 1)).toNat)

/-- The big-endian 32-bit field at offset `i`. -/
def u32At (d : Bytes) (i : Nat) : UInt32 :=
  UInt32.ofNat ((u16At d i).toNat * 65536 + (u16At d (i + 2)).toNat)

/-- The `n` bytes at offset `i`. -/
def vecAt (n : Nat) (d : Bytes) (i : Nat) : Vector UInt8 n := Vector.ofFn fun j => u8At d (i + j)

variable {d : Bytes} {i : Nat}

theorem u8At_append (e : Bytes) (h : i < d.length) : u8At (d ++ e) i = u8At d i := by
  simp only [u8At, List.getD_eq_getElem?_getD]
  rw [List.getElem?_append_left h]

theorem u16At_append (e : Bytes) (h : i + 1 < d.length) : u16At (d ++ e) i = u16At d i := by
  unfold u16At
  rw [u8At_append e (by omega), u8At_append e (by omega)]

theorem u32At_append (e : Bytes) (h : i + 3 < d.length) : u32At (d ++ e) i = u32At d i := by
  unfold u32At
  rw [u16At_append e (by omega), u16At_append e (by omega)]

theorem vecAt_append (e : Bytes) (h : i + n ≤ d.length) : vecAt n (d ++ e) i = vecAt n d i := by
  unfold vecAt
  congr 1
  funext j
  exact u8At_append e (by have := j.isLt; omega)

theorem u8At_append_right (p : Bytes) (d : Bytes) (i : Nat) : u8At (p ++ d) (p.length + i) = u8At d i := by
  simp only [u8At, List.getD_eq_getElem?_getD]
  rw [List.getElem?_append_right (by omega), Nat.add_sub_cancel_left]

theorem u16At_append_right (p d : Bytes) (i : Nat) : u16At (p ++ d) (p.length + i) = u16At d i := by
  unfold u16At
  rw [u8At_append_right, Nat.add_assoc, u8At_append_right]

theorem u32At_append_right (p d : Bytes) (i : Nat) : u32At (p ++ d) (p.length + i) = u32At d i := by
  unfold u32At
  rw [u16At_append_right, Nat.add_assoc, u16At_append_right]

theorem vecAt_append_right (p d : Bytes) (i : Nat) : vecAt n (p ++ d) (p.length + i) = vecAt n d i := by
  unfold vecAt
  congr 1
  funext j
  rw [Nat.add_assoc, u8At_append_right]

/-! The same reads, behind a field of known length. -/

variable {p : Bytes}

theorem u8At_skip (h : p.length ≤ i) : u8At (p ++ d) i = u8At d (i - p.length) := by
  rw [← u8At_append_right p d, Nat.add_sub_cancel' h]

theorem u16At_skip (h : p.length ≤ i) : u16At (p ++ d) i = u16At d (i - p.length) := by
  rw [← u16At_append_right p d, Nat.add_sub_cancel' h]

theorem u32At_skip (h : p.length ≤ i) : u32At (p ++ d) i = u32At d (i - p.length) := by
  rw [← u32At_append_right p d, Nat.add_sub_cancel' h]

theorem vecAt_skip (h : p.length ≤ i) : vecAt n (p ++ d) i = vecAt n d (i - p.length) := by
  rw [← vecAt_append_right p d, Nat.add_sub_cancel' h]

theorem u16At_behind {k : Nat} (h : p.length = k) (d : Bytes) (i : Nat) :
    u16At (p ++ d) (i + k) = u16At d i := by
  rw [u16At_skip (by omega), h, Nat.add_sub_cancel]

theorem u32At_behind {k : Nat} (h : p.length = k) (d : Bytes) (i : Nat) :
    u32At (p ++ d) (i + k) = u32At d i := by
  rw [u32At_skip (by omega), h, Nat.add_sub_cancel]

/-! ### Writing -/

def packU16 (x : UInt16) : Bytes := [UInt8.ofNat (x.toNat / 256), UInt8.ofNat x.toNat]

def packU32 (x : UInt32) : Bytes :=
  packU16 (UInt16.ofNat (x.toNat / 65536)) ++ packU16 (UInt16.ofNat x.toNat)

@[simp] theorem length_packU16 (x : UInt16) : (packU16 x).length = 2 := rfl

@[simp] theorem length_packU32 (x : UInt32) : (packU32 x).length = 4 := rfl

theorem u8At_cons_zero (x : UInt8) (d : Bytes) : u8At (x :: d) 0 = x := rfl

theorem u8At_cons_succ (x : UInt8) (d : Bytes) (i : Nat) : u8At (x :: d) (i + 1) = u8At d i := rfl

theorem u16At_pack (x : UInt16) (d : Bytes) : u16At (packU16 x ++ d) 0 = x := by
  have hx := x.toNat_lt
  apply UInt16.toNat.inj
  simp [u16At, packU16, u8At]
  omega

theorem u32At_pack (x : UInt32) (d : Bytes) : u32At (packU32 x ++ d) 0 = x := by
  have hx := x.toNat_lt
  have hhi : u16At (packU32 x ++ d) 0 = UInt16.ofNat (x.toNat / 65536) := by
    rw [packU32, List.append_assoc, u16At_pack]
  have hlo : u16At (packU32 x ++ d) 2 = UInt16.ofNat x.toNat := by
    rw [packU32, List.append_assoc]
    exact (u16At_append_right _ _ 0).trans (u16At_pack _ _)
  apply UInt32.toNat.inj
  unfold u32At
  rw [hhi, hlo]
  simp
  omega

/-! The same reads, behind a packed field. -/

theorem u16At_behind_u16 (x : UInt16) (d : Bytes) (i : Nat) : u16At (packU16 x ++ d) (i + 2) = u16At d i := rfl

theorem u16At_behind_u32 (x : UInt32) (d : Bytes) (i : Nat) : u16At (packU32 x ++ d) (i + 4) = u16At d i := rfl

theorem u32At_behind_u16 (x : UInt16) (d : Bytes) (i : Nat) : u32At (packU16 x ++ d) (i + 2) = u32At d i := rfl

theorem u32At_behind_u32 (x : UInt32) (d : Bytes) (i : Nat) : u32At (packU32 x ++ d) (i + 4) = u32At d i := rfl

theorem vecAt_pack (v : Vector UInt8 n) (d : Bytes) : vecAt n (v.toList ++ d) 0 = v := by
  apply Vector.ext
  intro i hi
  simp only [vecAt, Vector.getElem_ofFn, u8At, List.getD_eq_getElem?_getD, Nat.zero_add]
  rw [List.getElem?_append_left (by simpa using hi)]
  simp [hi]

end RDMnet
