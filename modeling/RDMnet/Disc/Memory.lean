import RDMnet.Core.Message

/-!
# Assertions and allocations

`RDMNET_ASSERT_VERIFY` gives the value of its condition back, so that the function that evaluates it
goes on, or returns, with what it has.  Whether one has failed is kept, together with the outcomes of
the allocations to come.
-/

namespace RDMnet

/-- What calls leave behind besides their results. -/
structure Mem where
  heap : Heap
  /-- An assertion has failed. -/
  tripped : Bool
  deriving DecidableEq

/-- A computation that evaluates assertions and allocates. -/
abbrev Checked := StateM Mem

namespace Checked

variable {α β : Type}

@[simp] theorem bind_apply (x : Checked α) (f : α → Checked β) (m : Mem) : (x >>= f) m = f (x m).1 (x m).2 := rfl

@[simp] theorem pure_apply (a : α) (m : Mem) : (pure a : Checked α) m = (a, m) := rfl

end Checked

/-- `RDMNET_ASSERT_VERIFY` -/
def assertVerify (exp : Bool) : Checked Bool := fun m =>
  (exp, { m with tripped := m.tripped || !exp })

/-- `malloc` or `realloc`: whether it succeeds. -/
def alloc : Checked Bool := fun m => (m.heap.alloc.1, { m with heap := m.heap.alloc.2 })

@[simp] theorem assertVerify_true (m : Mem) : assertVerify true m = (true, m) := by
  simp [assertVerify]

@[simp] theorem alloc_plenty (t : Bool) : alloc ⟨.plenty, t⟩ = (true, ⟨.plenty, t⟩) := rfl

namespace Checked

variable {α β : Type} {x : Checked α} {f : α → Checked β} {Q Q' : α → Prop} {R : β → Prop}
  {b c : Bool}

/-! ### What a computation returns -/

/-- Whatever can be allocated, the result meets `Q`. -/
def Ensures (x : Checked α) (Q : α → Prop) : Prop := ∀ m, Q (x m).1

theorem Ensures.pure {a : α} (h : Q a) : Ensures (Pure.pure a) Q := fun _ => h

theorem Ensures.bind (hx : Ensures x Q) (hf : ∀ a, Q a → Ensures (f a) R) : Ensures (x >>= f) R :=
  fun m => hf _ (hx m) _

theorem Ensures.any : Ensures x fun _ => True := fun _ => trivial

theorem Ensures.mono (hx : Ensures x Q) (h : ∀ a, Q a → Q' a) : Ensures x Q' := fun m => h _ (hx m)

/-! ### Whether an assertion fails -/

/-- While all allocations succeed, an assertion fails exactly if `b` is true, and the result meets `Q`. -/
def Trips (x : Checked α) (b : Bool) (Q : α → Prop) : Prop :=
  ∀ t, (x ⟨.plenty, t⟩).2 = ⟨.plenty, t || b⟩ ∧ Q (x ⟨.plenty, t⟩).1

theorem Trips.pure {a : α} (h : Q a) : Trips (Pure.pure a) false Q := by
  intro t
  simp [h]

theorem Trips.assertVerify (e : Bool) : Trips (assertVerify e) (!e) (· = e) := by
  intro t
  simp [RDMnet.assertVerify]

theorem Trips.alloc : Trips alloc false (· = true) := by
  intro t
  simp

theorem Trips.bind (hx : Trips x b Q) (hf : ∀ a, Q a → Trips (f a) c R) : Trips (x >>= f) (b || c) R := by
  intro t
  obtain ⟨hm, hq⟩ := hx t
  have hr := hf _ hq (t || b)
  rw [← hm] at hr
  rw [bind_apply]
  exact ⟨hr.1.trans (by simp [Bool.or_assoc]), hr.2⟩

theorem Trips.bind_silent (hx : Trips x false Q) (hf : ∀ a, Q a → Trips (f a) c R) : Trips (x >>= f) c R := by
  simpa using hx.bind hf

end Checked

end RDMnet
