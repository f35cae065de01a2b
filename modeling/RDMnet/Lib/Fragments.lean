import Mathlib

/-!
# Messages that are sent in fragments

A message is offered to a stream fragment by fragment.  For each fragment the stream answers with the
number of bytes it took, or with an error; `again` is the error upon which the same bytes are offered
once more.  The program that sends goes on, whatever the count was, unless it checks the answer and
the answer is an error.

`run_sendFragments` says what a program did that has returned, and `complete_iff` that it has written
the whole message exactly if each fragment was taken as a whole.
-/

namespace RDMnet

open List

variable {ε β : Type}

/-- The answers that the stream will give, and the bytes it has taken. -/
structure Sink (ε β : Type) where
  results : List (Except ε Nat)
  taken : List β

/-- Programs that write to a stream; none is one that waits for the stream to answer. -/
abbrev Sending (ε β : Type) := ExceptT ε (StateT (Sink ε β) Option)

/-- A part of a message, and whether an error is noticed. -/
structure Fragment (β : Type) where
  bytes : List β
  checked : Bool

/-! ### Programs -/

section Programs

variable [DecidableEq ε] (again : ε)

/-- Offer bytes until the answer is not `again`. -/
def offerLoop (bytes taken : List β) : List (Except ε Nat) → Option (Except ε Nat × Sink ε β)
  | [] => none
  | .error e :: results =>
    if e = again then offerLoop bytes taken results else some (.error e, ⟨results, taken⟩)
  | .ok n :: results => some (.ok n, ⟨results, taken ++ bytes.take n⟩)

def offer (bytes : List β) : StateT (Sink ε β) Option (Except ε Nat) := fun s =>
  offerLoop again bytes s.taken s.results

def offerChecked (bytes : List β) : Sending ε β Unit := .mk do
  let answer ← offer again bytes
  pure (answer.map fun _ => ())

def offerUnchecked (bytes : List β) : Sending ε β Unit := .mk do
  let _ ← offer again bytes
  pure (.ok ())

def Fragment.send (f : Fragment β) : Sending ε β Unit :=
  if f.checked then offerChecked again f.bytes else offerUnchecked again f.bytes

def sendFragments (fs : List (Fragment β)) : Sending ε β Unit := fs.forM (Fragment.send again)

theorem sendFragments_nil : sendFragments again ([] : List (Fragment β)) = pure () := rfl

theorem sendFragments_cons (f : Fragment β) (fs : List (Fragment β)) :
    sendFragments again (f :: fs) = f.send again >>= fun _ => sendFragments again fs := rfl

theorem sendFragments_append (fs gs : List (Fragment β)) :
    sendFragments again (fs ++ gs) = sendFragments again fs >>= fun _ => sendFragments again gs := by
  induction fs with
  | nil => simp [sendFragments_nil]
  | cons f fs ih => rw [cons_append, sendFragments_cons, ih, sendFragments_cons, bind_assoc]

theorem forM_offerChecked {α : Type} (pack : α → List β) (xs : List α) :
    xs.forM (fun x => offerChecked again (pack x)) = sendFragments again (xs.map fun x => ⟨pack x, true⟩) := by
  induction xs with
  | nil => rfl
  | cons x xs ih =>
    rw [map_cons, sendFragments_cons, ← ih]
    rfl

end Programs

/-! ### What the stream answers -/

/-- The answers upon which a fragment is done with. -/
def answers [DecidableEq ε] (again : ε) (results : List (Except ε Nat)) : List (Except ε Nat) :=
  results.filter fun
    | .error e => e ≠ again
    | .ok _ => true

def Fragment.part (f : Fragment β) : Except ε Nat → List β
  | .ok n => f.bytes.take n
  | .error _ => []

def Fragment.Whole (f : Fragment β) : Except ε Nat → Prop
  | .ok n => f.bytes.length ≤ n
  | .error _ => False

def Fragment.Fails (f : Fragment β) : Except ε Nat → Prop
  | .ok _ => False
  | .error _ => f.checked = true

def SomeFails (fs : List (Fragment β)) (as : List (Except ε Nat)) : Prop :=
  ∃ p ∈ fs.zip as, p.1.Fails p.2

def AllWhole (fs : List (Fragment β)) (as : List (Except ε Nat)) : Prop :=
  ∀ p ∈ fs.zip as, p.1.Whole p.2

instance (f : Fragment β) (a : Except ε Nat) : Decidable (f.Whole a) :=
  match a with
  | .ok _ => inferInstanceAs (Decidable (_ ≤ _))
  | .error _ => inferInstanceAs (Decidable False)

instance (f : Fragment β) (a : Except ε Nat) : Decidable (f.Fails a) :=
  match a with
  | .ok _ => inferInstanceAs (Decidable False)
  | .error _ => inferInstanceAs (Decidable (_ = true))

instance (fs : List (Fragment β)) (as : List (Except ε Nat)) : Decidable (SomeFails fs as) :=
  inferInstanceAs (Decidable (∃ p ∈ fs.zip as, p.1.Fails p.2))

instance (fs : List (Fragment β)) (as : List (Except ε Nat)) : Decidable (AllWhole fs as) :=
  inferInstanceAs (Decidable (∀ p ∈ fs.zip as, p.1.Whole p.2))

def parts (fs : List (Fragment β)) (as : List (Except ε Nat)) : List β :=
  (fs.zip as).flatMap fun p => p.1.part p.2

variable {fs : List (Fragment β)} {as : List (Except ε Nat)}

theorem someFails_cons {f : Fragment β} {a : Except ε Nat} :
    SomeFails (f :: fs) (a :: as) ↔ f.Fails a ∨ SomeFails fs as := by
  unfold SomeFails
  rw [zip_cons_cons]
  simp

theorem allWhole_cons {f : Fragment β} {a : Except ε Nat} :
    AllWhole (f :: fs) (a :: as) ↔ f.Whole a ∧ AllWhole fs as := by
  unfold AllWhole
  rw [zip_cons_cons]
  simp

/-! ### What a program did -/

section Runs

variable [DecidableEq ε] {again : ε}

theorem offerLoop_some {bytes taken : List β} {results : List (Except ε Nat)} {a : Except ε Nat}
    {s' : Sink ε β} (h : offerLoop again bytes taken results = some (a, s')) (checked : Bool) :
    ∃ used, results = used ++ s'.results ∧ used.getLast? = some a ∧
      answers again results = a :: answers again s'.results ∧
      s'.taken = taken ++ Fragment.part ⟨bytes, checked⟩ a := by
  induction results with
  | nil => cases h
  | cons r results ih =>
    cases r with
    | ok n =>
      simp only [offerLoop, Option.some.injEq, Prod.mk.injEq] at h
      obtain ⟨rfl, rfl⟩ := h
      exact ⟨[.ok n], rfl, rfl, rfl, rfl⟩
    | error e =>
      simp only [offerLoop] at h
      by_cases he : e = again
      · rw [if_pos he] at h
        obtain ⟨used, hres, hlast, hans, htaken⟩ := ih h
        refine ⟨.error e :: used, by rw [hres]; rfl, ?_, ?_, htaken⟩
        · rw [getLast?_cons, hlast]
          rfl
        · rw [← hans]
          simp [answers, he]
      · rw [if_neg he] at h
        cases h
        exact ⟨[.error e], rfl, rfl, by simp [answers, he], (append_nil taken).symm⟩

theorem run_sendFragments_cons (f : Fragment β) (fs : List (Fragment β)) (s : Sink ε β) :
    (sendFragments again (f :: fs)).run s = (offerLoop again f.bytes s.taken s.results).bind fun (a, s1) =>
        match a, f.checked with
        | .error e, true => some (.error e, s1)
        | _, _ => (sendFragments again fs).run s1 := by
  rw [sendFragments_cons]
  unfold Fragment.send
  cases hf : f.checked with
  | true | false =>
    show Option.bind (Option.bind (offerLoop again f.bytes s.taken s.results) _) _ = _
    rw [Option.bind_assoc]
    refine Option.bind_congr fun ⟨a, s1⟩ _ => ?_
    cases a <;> rfl

/-- A program that has returned an error got it as its last answer.  One that has returned without an
error got as many answers as there are fragments. -/
theorem run_sendFragments {fs : List (Fragment β)} {s s' : Sink ε β} {res : Except ε Unit}
    (h : (sendFragments again fs).run s = some (res, s')) :
    (∃ e used, res = .error e ∧ s.results = used ++ s'.results ∧ used.getLast? = some (.error e) ∧
      SomeFails fs (answers again s.results)) ∨ res = .ok () ∧ ¬ SomeFails fs (answers again s.results) ∧
      fs.length ≤ (answers again s.results).length ∧
      s'.taken = s.taken ++ parts fs (answers again s.results) := by
  induction fs generalizing s with
  | nil =>
    cases h
    exact .inr ⟨rfl, (fun ⟨_, hp, _⟩ => nomatch hp), zero_le, (append_nil _).symm⟩
  | cons f fs ih =>
    rw [run_sendFragments_cons] at h
    obtain ⟨⟨a, s1⟩, hoffer, h⟩ := Option.bind_eq_some_iff.mp h
    obtain ⟨used, hres, hlast, hans, htaken⟩ := offerLoop_some hoffer f.checked
    rw [hans]
    -- the answer does not end the program
    have hnext : ¬ f.Fails a → (sendFragments again fs).run s1 = some (res, s') →
        (∃ e used, res = .error e ∧ s.results = used ++ s'.results ∧
          used.getLast? = some (.error e) ∧ SomeFails (f :: fs) (a :: answers again s1.results)) ∨
        res = .ok () ∧ ¬ SomeFails (f :: fs) (a :: answers again s1.results) ∧
          (f :: fs).length ≤ (a :: answers again s1.results).length ∧
          s'.taken = s.taken ++ parts (f :: fs) (a :: answers again s1.results) := by
      intro hf hrun
      rcases ih hrun with ⟨e, used', rfl, hres', hlast', hfail⟩ | ⟨rfl, hfail, hlen, htaken'⟩
      · refine .inl ⟨e, used ++ used', rfl, ?_, ?_, someFails_cons.mpr (.inr hfail)⟩
        · rw [hres, hres', append_assoc]
        · rw [getLast?_append, hlast']
          rfl
      · refine .inr ⟨rfl, fun hbad => (someFails_cons.mp hbad).elim hf hfail, Nat.succ_le_succ hlen, ?_⟩
        rw [htaken', htaken, append_assoc]
        rfl
    dsimp only at h
    cases a with
    | ok n => exact hnext id h
    | error e =>
      cases hc : f.checked with
      | true =>
        rw [hc] at h
        cases h
        exact .inl ⟨e, used, rfl, hres, hlast, someFails_cons.mpr (.inl hc)⟩
      | false =>
        rw [hc] at h
        exact hnext (by rw [Fragment.Fails, hc]; exact nofun) h

/-- The answers of a stream that takes every fragment as a whole. -/
def wholeAnswers (fs : List (Fragment β)) : List (Except ε Nat) := fs.map fun f => .ok f.bytes.length

theorem run_wholeAnswers (fs : List (Fragment β)) (taken : List β) :
    (sendFragments again fs).run ⟨wholeAnswers fs, taken⟩ =
      some (.ok (), ⟨[], taken ++ fs.flatMap (·.bytes)⟩) := by
  induction fs generalizing taken with
  | nil =>
    rw [flatMap_nil, append_nil]
    rfl
  | cons f fs ih =>
    rw [run_sendFragments_cons, flatMap_cons, ← append_assoc, ← ih]
    show some _ >>= _ = _
    rw [take_length]
    rfl

theorem allWhole_wholeAnswers (fs : List (Fragment β)) : AllWhole fs (answers again (wholeAnswers fs)) := by
  induction fs with
  | nil => exact fun p hp => nomatch hp
  | cons f fs ih => exact allWhole_cons.mpr ⟨le_rfl, ih⟩

end Runs

theorem Fragment.length_part_le (f : Fragment β) (a : Except ε Nat) : (f.part a).length ≤ f.bytes.length := by
  cases a with
  | ok n => exact length_take_le' ..
  | error e => exact zero_le

theorem length_parts_le (fs : List (Fragment β)) (as : List (Except ε Nat)) :
    (parts fs as).length ≤ (fs.flatMap (·.bytes)).length := by
  induction fs generalizing as with
  | nil => exact zero_le
  | cons f fs ih =>
    cases as with
    | nil => exact zero_le
    | cons a as =>
      have h1 := f.length_part_le a
      have h2 := ih as
      simp only [parts, zip_cons_cons, flatMap_cons, length_append] at h2 ⊢
      omega

theorem complete_iff (hlen : fs.length ≤ as.length) (hne : ∀ f ∈ fs, f.checked = false → f.bytes ≠ [])
    (hok : ¬ SomeFails fs as) : parts fs as = fs.flatMap (·.bytes) ↔ AllWhole fs as := by
  induction fs generalizing as with
  | nil => exact ⟨fun _ => (fun p hp => nomatch hp), fun _ => rfl⟩
  | cons f fs ih =>
    cases as with
    | nil => cases hlen
    | cons a as =>
      rw [someFails_cons, not_or] at hok
      have hrest := ih (Nat.le_of_succ_le_succ hlen)
        (fun g hg => hne g (mem_cons_of_mem _ hg)) hok.2
      have hpart : f.part a = f.bytes ↔ f.Whole a := by
        cases a with
        | ok n =>
          refine ⟨fun h => ?_, take_of_length_le⟩
          have := length_take_le n f.bytes
          rwa [show f.bytes.take n = f.bytes from h] at this
        | error e =>
          have hun : f.checked = false := Bool.eq_false_iff.mpr hok.1
          exact ⟨fun h => absurd h.symm (hne f (mem_cons_self ..) hun), False.elim⟩
      refine Iff.trans ?_ (allWhole_cons.trans (and_congr hpart.symm hrest.symm)).symm
      show f.part a ++ parts fs as = f.bytes ++ fs.flatMap (·.bytes) ↔ _
      constructor
      · intro h
        have hlen' := congrArg List.length h
        have h1 := f.length_part_le a
        have h2 := length_parts_le fs as
        rw [length_append, length_append] at hlen'
        exact append_inj h (by omega)
      · rintro ⟨h1, h2⟩
        rw [h1, h2]

end RDMnet
