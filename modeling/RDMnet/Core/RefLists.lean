import RDMnet.Lib.Runs

/-!
# The lists of references

The part of `util.c` that keeps the connections, LLRP managers and LLRP targets of the library:
`RCRefList`, an array of pointers that grows or has a fixed capacity, and `RCRefLists`, the three
lists of what is processed, what is to be processed and what is to be destroyed.

`Registered` says what the lists are for, without lists: the refs that are registered, and those that
were marked since the last sweep.  A sweep calls `on_remove` for the refs that are both.
-/

namespace RDMnet

open List

variable {ρ : Type}

/-! ### One list -/

/-- `RDMNET_DYNAMIC_MEM` -/
inductive Build
  | static | dynamic
  deriving DecidableEq, Repr

/-- `RCRefList`: `refs` up to `num_refs`. -/
structure RCRefList (ρ : Type) where
  refs : List ρ
  refsCapacity : Nat
  deriving DecidableEq

/-- The conversion of a `size_t` to an `int`. -/
def sizeToInt (i : Nat) : Int := (BitVec.ofNat 32 i).toInt

theorem sizeToInt_of_lt {i : Nat} (h : i < 2147483648) : sizeToInt i = i := by
  rw [sizeToInt, BitVec.toInt_eq_toNat_of_lt] <;> simp <;> omega

/-- `rc_ref_list_add_ref`, where `realloc` says whether `realloc` returns memory if it is called. -/
def rcRefListAddRef (build : Build) (realloc : Bool) (toAdd : ρ) (list : RCRefList ρ) :
    RCRefList ρ × Bool :=
  if list.refs.length < list.refsCapacity then ({ list with refs := list.refs ++ [toAdd] }, true)
  else
    match build with
    | .dynamic =>
      if realloc then (⟨list.refs ++ [toAdd], list.refsCapacity * 2⟩, true) else (list, false)
    | .static => (list, false)

structure RCRefList.Sized (build : Build) (list : RCRefList ρ) : Prop where
  fits : list.refs.length ≤ list.refsCapacity
  grows : build = .dynamic → 0 < list.refsCapacity

theorem rcRefListAddRef_cases (build : Build) (realloc : Bool) (toAdd : ρ) (list : RCRefList ρ) :
    ((rcRefListAddRef build realloc toAdd list).2 = true ∧
      (rcRefListAddRef build realloc toAdd list).1.refs = list.refs ++ [toAdd]) ∨
    rcRefListAddRef build realloc toAdd list = (list, false) := by
  unfold rcRefListAddRef
  split
  · exact .inl ⟨rfl, rfl⟩
  · cases build with
    | static => exact .inr rfl
    | dynamic =>
      cases realloc with
      | true => exact .inl ⟨rfl, rfl⟩
      | false => exact .inr rfl

variable {build : Build} {list : RCRefList ρ}

theorem rcRefListAddRef_sized (h : list.Sized build)
    (realloc : Bool) (toAdd : ρ) : (rcRefListAddRef build realloc toAdd list).1.Sized build := by
  obtain ⟨hfits, hgrows⟩ := h
  unfold rcRefListAddRef
  split
  · exact ⟨by simpa using Nat.succ_le_of_lt ‹_›, hgrows⟩
  · cases build with
    | static => exact ⟨hfits, hgrows⟩
    | dynamic =>
      cases realloc with
      | false => exact ⟨hfits, hgrows⟩
      | true =>
        have hpos := hgrows rfl
        refine ⟨?_, fun _ => Nat.mul_pos hpos (by decide)⟩
        simp only [if_true, length_append, length_singleton]
        omega

variable [DecidableEq ρ]

/-- The loop of `rc_ref_list_find_ref_index` from the index `i` on. -/
def findRefFrom (toFind : ρ) : Nat → List ρ → Int
  | _, [] => -1
  | i, r :: rs => if r = toFind then sizeToInt i else findRefFrom toFind (i + 1) rs

/-- `rc_ref_list_find_ref_index` -/
def rcRefListFindRefIndex (toFind : ρ) (list : RCRefList ρ) : Int := findRefFrom toFind 0 list.refs

/-- `rc_ref_list_remove_ref` -/
def rcRefListRemoveRef (toRemove : ρ) (list : RCRefList ρ) : RCRefList ρ :=
  let index := rcRefListFindRefIndex toRemove list
  if index ≥ 0 then { list with refs := list.refs.eraseIdx index.toNat } else list

variable {r : ρ}

theorem findRefFrom_absent {l : List ρ} (h : r ∉ l) (i : Nat) : findRefFrom r i l = -1 := by
  induction l generalizing i with
  | nil => rfl
  | cons x l ih =>
    obtain ⟨hx, hl⟩ := not_or.mp (mt mem_cons.mpr h)
    rw [findRefFrom, if_neg (Ne.symm hx), ih hl]

theorem findRefFrom_present {l : List ρ} (h : r ∈ l) (i : Nat) :
    findRefFrom r i l = sizeToInt (i + l.idxOf r) := by
  induction l generalizing i with
  | nil => cases h
  | cons x l ih =>
    by_cases hx : x = r
    · rw [findRefFrom, if_pos hx, idxOf_cons_eq _ hx, Nat.add_zero]
    · have hl : r ∈ l := (mem_cons.mp h).resolve_left (Ne.symm hx)
      rw [findRefFrom, if_neg hx, ih hl, idxOf_cons_ne _ hx]
      congr 1
      omega

/-- The ref, if it is in the list, is at an index that an `int` can hold. -/
def IndexFits (r : ρ) (l : List ρ) : Prop := r ∈ l → l.idxOf r < 2147483648

instance (r : ρ) (l : List ρ) : Decidable (IndexFits r l) := inferInstanceAs (Decidable (_ → _))

theorem rcRefListFindRefIndex_ne (h : IndexFits r list.refs) :
    rcRefListFindRefIndex r list ≠ -1 ↔ r ∈ list.refs := by
  by_cases hr : r ∈ list.refs
  · rw [rcRefListFindRefIndex, findRefFrom_present hr, Nat.zero_add, sizeToInt_of_lt (h hr)]
    exact ⟨fun _ => hr, fun _ => by omega⟩
  · rw [rcRefListFindRefIndex, findRefFrom_absent hr]
    exact ⟨fun hne => absurd rfl hne, fun hmem => absurd hmem hr⟩

theorem rcRefListRemoveRef_eq (h : IndexFits r list.refs) :
    rcRefListRemoveRef r list = { list with refs := list.refs.erase r } := by
  by_cases hr : r ∈ list.refs
  · rw [rcRefListRemoveRef, rcRefListFindRefIndex, findRefFrom_present hr, Nat.zero_add, sizeToInt_of_lt (h hr)]
    simp
  · rw [rcRefListRemoveRef, rcRefListFindRefIndex, findRefFrom_absent hr, erase_of_not_mem hr]
    simp

/-! ### The three lists -/

/-- `RCRefLists` -/
structure RCRefLists (ρ : Type) where
  active : RCRefList ρ
  pending : RCRefList ρ
  toRemove : RCRefList ρ
  deriving DecidableEq

def RCRefLists.held (lists : RCRefLists ρ) : List ρ := lists.active.refs ++ lists.pending.refs

omit [DecidableEq ρ] in
/-- `RC_DECLARE_REF_LISTS` and `rc_ref_lists_init` -/
def rcRefListsInit (build : Build) (maxStatic : Nat) : RCRefLists ρ :=
  let list : RCRefList ρ := ⟨[], match build with
    | .static => maxStatic
    | .dynamic => 8⟩
  ⟨list, list, list⟩

/-- The loop of `rc_ref_lists_add_pending`, from the ref at index `k` on: `reallocs k` is what
`realloc` comes to if it is called for that ref. -/
def addPendingFrom (build : Build) (reallocs : Nat → Bool) : Nat → List ρ → RCRefList ρ → RCRefList ρ
  | _, [], active => active
  | k, r :: rs, active =>
    addPendingFrom build reallocs (k + 1) rs (rcRefListAddRef build (reallocs k) r active).1

/-- `rc_ref_lists_add_pending` -/
def rcRefListsAddPending (build : Build) (reallocs : Nat → Bool) (lists : RCRefLists ρ) :
    RCRefLists ρ :=
  { lists with
    active := addPendingFrom build reallocs 0 lists.pending.refs lists.active
    pending.refs := [] }

/-- The loop of `rc_ref_lists_remove_marked` over `to_remove`, with the calls of `on_remove`. -/
def removeMarkedLoop : List ρ → RCRefLists ρ → List ρ → RCRefLists ρ × List ρ
  | [], lists, calls => (lists, calls)
  | r :: rs, lists, calls =>
    if rcRefListFindRefIndex r lists.active ≠ -1 ∨ rcRefListFindRefIndex r lists.pending ≠ -1 then
      removeMarkedLoop rs
        { lists with
          active := rcRefListRemoveRef r lists.active
          pending := rcRefListRemoveRef r lists.pending } (calls ++ [r])
    else removeMarkedLoop rs lists calls

/-- `rc_ref_lists_remove_marked` -/
def rcRefListsRemoveMarked (lists : RCRefLists ρ) : RCRefLists ρ × List ρ :=
  let (lists, calls) := removeMarkedLoop lists.toRemove.refs lists []
  ({ lists with toRemove.refs := [] }, calls)

/-- `rc_ref_lists_remove_all` -/
def rcRefListsRemoveAll (lists : RCRefLists ρ) : RCRefLists ρ × List ρ :=
  let (lists, calls) := rcRefListsRemoveMarked lists
  ({ lists with pending.refs := [], active.refs := [] }, calls ++ lists.pending.refs ++ lists.active.refs)

/-! ### What the operations do to the lists -/

/-- Every insertion finds room for its ref: where the array is full, it can grow. -/
def Room (build : Build) (reallocs : Nat → Bool) (list : RCRefList ρ) (k count : Nat) : Prop :=
  ∀ i < count, ∀ j ≤ list.refs.length + i,
    list.refs.length + i = list.refsCapacity * 2 ^ j → build = .dynamic ∧ reallocs (k + i) = true

instance (build : Build) (reallocs : Nat → Bool) (list : RCRefList ρ) (k count : Nat) :
    Decidable (Room build reallocs list k count) :=
  inferInstanceAs (Decidable (∀ i < count, ∀ j ≤ list.refs.length + i, _ → _))

variable {reallocs : Nat → Bool}

omit [DecidableEq ρ] in
theorem Room.add {k count : Nat} (h : Room build reallocs list k (count + 1)) (hs : list.Sized build) (r : ρ) :
    (rcRefListAddRef build (reallocs k) r list).1.refs = list.refs ++ [r] ∧
      Room build reallocs (rcRefListAddRef build (reallocs k) r list).1 (k + 1) count := by
  obtain ⟨hfits, hgrows⟩ := hs
  by_cases hlt : list.refs.length < list.refsCapacity
  · simp only [rcRefListAddRef, if_pos hlt]
    refine ⟨trivial, fun i hi j hj heq => ?_⟩
    simp only [length_append, length_singleton] at hj heq
    obtain ⟨hdyn, hre⟩ := h (i + 1) (by omega) j (by omega) (by omega)
    exact ⟨hdyn, by rwa [Nat.add_assoc, Nat.add_comm 1 i]⟩
  · -- the array is full and is made twice as large
    obtain ⟨rfl, hre⟩ := h 0 (by omega) 0 zero_le (by simp; omega)
    rw [Nat.add_zero] at hre
    simp only [rcRefListAddRef, if_neg hlt, hre, if_true]
    refine ⟨trivial, fun i hi j hj heq => ?_⟩
    simp only [length_append, length_singleton] at hj heq
    have hpow : list.refsCapacity * 2 ^ (j + 1) = list.refs.length + (i + 1) := by
      rw [Nat.pow_succ, Nat.mul_comm (2 ^ j) 2, ← Nat.mul_assoc, ← heq]
      omega
    have hbound : j + 1 < list.refsCapacity * 2 ^ (j + 1) :=
      lt_of_lt_of_le Nat.lt_two_pow_self (Nat.le_mul_of_pos_left _ (hgrows rfl))
    obtain ⟨hdyn, hre'⟩ := h (i + 1) (by omega) (j + 1) (by omega) hpow.symm
    exact ⟨hdyn, by rwa [Nat.add_assoc, Nat.add_comm 1 i]⟩

omit [DecidableEq ρ] in
theorem addPendingFrom_refs (rs : List ρ) :
    ∀ {k : Nat} {list : RCRefList ρ}, Room build reallocs list k rs.length → list.Sized build →
      (addPendingFrom build reallocs k rs list).refs = list.refs ++ rs := by
  induction rs with
  | nil =>
    intro k list _ _
    exact (append_nil _).symm
  | cons r rs ih =>
    intro k list hroom hs
    obtain ⟨hrefs, hroom'⟩ := hroom.add hs r
    rw [addPendingFrom, ih hroom' (rcRefListAddRef_sized hs _ r), hrefs, append_assoc]
    rfl

/-- At the turn of each of the refs, its index is one that an `int` can hold. -/
def Indexable : List ρ → List ρ → Prop
  | [], _ => True
  | r :: rs, l => IndexFits r l ∧ Indexable rs (l.erase r)

instance decidableIndexable : ∀ marks l : List ρ, Decidable (Indexable marks l)
  | [], _ => inferInstanceAs (Decidable True)
  | r :: rs, l =>
    have := decidableIndexable rs (l.erase r)
    inferInstanceAs (Decidable (IndexFits r l ∧ Indexable rs (l.erase r)))

theorem removeMarkedLoop_spec (marks : List ρ) : ∀ {lists : RCRefLists ρ} (calls : List ρ),
    Indexable marks lists.active.refs → Indexable marks lists.pending.refs → lists.held.Nodup →
    ∃ new, removeMarkedLoop marks lists calls = ({ lists with
            active.refs := lists.active.refs.filter (· ∉ marks)
            pending.refs := lists.pending.refs.filter (· ∉ marks) }, calls ++ new) ∧
      new.Nodup ∧ ∀ r, r ∈ new ↔ r ∈ marks ∧ r ∈ lists.held := by
  induction marks with
  | nil =>
    intro lists calls _ _ _
    exact ⟨[], by simp [removeMarkedLoop], .nil, by simp⟩
  | cons r rs ih =>
    intro lists calls hact hpend hnodup
    obtain ⟨hactive, hpending, hdisj⟩ := nodup_append.mp hnodup
    -- the lists after the turn of `r`
    let next : RCRefLists ρ :=
      { lists with
        active.refs := lists.active.refs.erase r
        pending.refs := lists.pending.refs.erase r }
    have hnext : next.held.Nodup :=
      hnodup.sublist (List.Sublist.append erase_sublist erase_sublist)
    have hheld (x : ρ) : x ∈ next.held ↔ x ≠ r ∧ x ∈ lists.held := by
      simp only [RCRefLists.held, next, mem_append, hactive.mem_erase_iff, hpending.mem_erase_iff, and_or_left]
    have hfilter {l : List ρ} (hl : l.Nodup) :
        (l.erase r).filter (· ∉ rs) = l.filter (· ∉ r :: rs) := by
      rw [hl.erase_eq_filter, filter_filter]
      refine filter_congr fun x _ => ?_
      by_cases hx : x = r <;> simp [hx]
    have hfound : (rcRefListFindRefIndex r lists.active ≠ -1 ∨
        rcRefListFindRefIndex r lists.pending ≠ -1) ↔ r ∈ lists.held := by
      rw [rcRefListFindRefIndex_ne hact.1, rcRefListFindRefIndex_ne hpend.1, RCRefLists.held, mem_append]
    by_cases hr : r ∈ lists.held
    · obtain ⟨new, hloop, hnew, hmem⟩ := @ih next (calls ++ [r]) hact.2 hpend.2 hnext
      refine ⟨r :: new, ?_, nodup_cons.mpr ⟨fun hin => ?_, hnew⟩, fun x => ?_⟩
      · rw [removeMarkedLoop, if_pos (hfound.mpr hr), rcRefListRemoveRef_eq hact.1,
          rcRefListRemoveRef_eq hpend.1, hloop]
        simp only [next, hfilter hactive, hfilter hpending, append_assoc, singleton_append]
      · exact ((hheld r).mp ((hmem r).mp hin).2).1 rfl
      · rw [mem_cons, hmem, hheld, mem_cons]
        by_cases hx : x = r <;> simp [hx, hr]
    · obtain ⟨new, hloop, hnew, hmem⟩ := @ih next calls hact.2 hpend.2 hnext
      have hgone : next = lists := by
        simp only [RCRefLists.held, mem_append, not_or] at hr
        simp only [next, erase_of_not_mem hr.1, erase_of_not_mem hr.2]
      refine ⟨new, ?_, hnew, fun x => ?_⟩
      · rw [removeMarkedLoop, if_neg (mt hfound.mp hr), ← hfilter hactive, ← hfilter hpending]
        rw [hgone] at hloop
        rw [hloop]
        simp only [RCRefLists.held, mem_append, not_or] at hr
        rw [erase_of_not_mem hr.1, erase_of_not_mem hr.2]
      · rw [hmem, hgone, mem_cons]
        by_cases hx : x = r <;> simp [hx, hr]

theorem rcRefListsRemoveMarked_spec {lists : RCRefLists ρ}
    (hact : Indexable lists.toRemove.refs lists.active.refs)
    (hpend : Indexable lists.toRemove.refs lists.pending.refs) (hnodup : lists.held.Nodup) :
    ∃ calls, rcRefListsRemoveMarked lists =
        ({ active.refs := lists.active.refs.filter (· ∉ lists.toRemove.refs)
           active.refsCapacity := lists.active.refsCapacity
           pending.refs := lists.pending.refs.filter (· ∉ lists.toRemove.refs)
           pending.refsCapacity := lists.pending.refsCapacity
           toRemove.refs := []
           toRemove.refsCapacity := lists.toRemove.refsCapacity }, calls) ∧
      calls.Nodup ∧ ∀ r, r ∈ calls ↔ r ∈ lists.toRemove.refs ∧ r ∈ lists.held := by
  obtain ⟨new, hloop, hnew, hmem⟩ := removeMarkedLoop_spec _ [] hact hpend hnodup
  refine ⟨new, ?_, hnew, hmem⟩
  rw [rcRefListsRemoveMarked, hloop]
  rfl

/-! ### What the lists are for -/

structure Registered (ρ : Type) where
  live : Finset ρ
  marked : Finset ρ
  deriving DecidableEq

/-- The operations on the lists, with what the calls of `realloc` come to. -/
inductive RefOp (ρ : Type)
  /-- `rc_ref_list_add_ref` on `pending`, with a ref that is not registered. -/
  | register (ref : ρ) (realloc : Bool)
  /-- `rc_ref_list_add_ref` on `to_remove`, with any ref. -/
  | mark (ref : ρ) (realloc : Bool)
  | removeMarked
  | addPending (reallocs : Nat → Bool)
  | removeAll

/-- What an operation makes of the lists, whether it succeeds, and for which refs it calls
`on_remove`. -/
def RefOp.run (build : Build) : RefOp ρ → RCRefLists ρ → RCRefLists ρ × Bool × List ρ
  | .register r realloc, lists =>
    let (pending, ok) := rcRefListAddRef build realloc r lists.pending
    ({ lists with pending }, ok, [])
  | .mark r realloc, lists =>
    let (toRemove, ok) := rcRefListAddRef build realloc r lists.toRemove
    ({ lists with toRemove }, ok, [])
  | .removeMarked, lists =>
    let (lists, calls) := rcRefListsRemoveMarked lists
    (lists, true, calls)
  | .addPending reallocs, lists => (rcRefListsAddPending build reallocs lists, true, [])
  | .removeAll, lists =>
    let (lists, calls) := rcRefListsRemoveAll lists
    (lists, true, calls)

def RefOp.removes : RefOp ρ → Registered ρ → Finset ρ
  | .removeMarked, reg => reg.live ∩ reg.marked
  | .removeAll, reg => reg.live
  | _, _ => ∅

def RefOp.registers : RefOp ρ → Bool → Registered ρ → Registered ρ
  | .register r _, ok, reg => if ok then { reg with live := insert r reg.live } else reg
  | .mark r _, ok, reg => if ok then { reg with marked := insert r reg.marked } else reg
  | .addPending _, _, reg => reg
  | op, _, reg => ⟨reg.live \ op.removes reg, ∅⟩

def refStep (build : Build) (op : RefOp ρ) (s : RCRefLists ρ × Registered ρ) :
    Option (RCRefLists ρ × Registered ρ) :=
  let after := (op.run build s.1).1
  let reg := op.registers (op.run build s.1).2.1 s.2
  match op with
  | .register r _ => if r ∈ s.1.held then none else some (after, reg)
  | _ => some (after, reg)

structure RefsAgree (build : Build) (lists : RCRefLists ρ) (reg : Registered ρ) : Prop where
  once : lists.held.Nodup
  live : ∀ r, r ∈ lists.held ↔ r ∈ reg.live
  marked : ∀ r, r ∈ lists.toRemove.refs ↔ r ∈ reg.marked
  active : lists.active.Sized build
  pending : lists.pending.Sized build
  toRemove : lists.toRemove.Sized build

/-- `on_remove` is called once for each of these refs, and for no other. -/
def CalledFor (calls : List ρ) (refs : Finset ρ) : Prop :=
  calls.Nodup ∧ ∀ r, r ∈ calls ↔ r ∈ refs

/-- All the refs that `rc_ref_lists_add_pending` moves find room, and the refs that are marked are
found. -/
def RefOp.Fits (build : Build) : RefOp ρ → RCRefLists ρ → Prop
  | .addPending reallocs, lists =>
    Room build reallocs lists.active 0 lists.pending.refs.length
  | .removeMarked, lists =>
    Indexable lists.toRemove.refs lists.active.refs ∧ Indexable lists.toRemove.refs lists.pending.refs
  | .removeAll, lists =>
    Indexable lists.toRemove.refs lists.active.refs ∧ Indexable lists.toRemove.refs lists.pending.refs
  | _, _ => True

instance (build : Build) (lists : RCRefLists ρ) : DecidablePred fun op : RefOp ρ => op.Fits build lists
  | .register _ _ => inferInstanceAs (Decidable True)
  | .mark _ _ => inferInstanceAs (Decidable True)
  | .removeMarked => inferInstanceAs (Decidable (_ ∧ _))
  | .addPending _ => inferInstanceAs (Decidable (Room _ _ _ _ _))
  | .removeAll => inferInstanceAs (Decidable (_ ∧ _))

variable {build : Build} {lists lists' : RCRefLists ρ} {reg reg' : Registered ρ}

omit [DecidableEq ρ] in
theorem RCRefList.Sized.of_le (h : list.Sized build) {refs : List ρ}
    (hle : refs.length ≤ list.refs.length) : RCRefList.Sized build ⟨refs, list.refsCapacity⟩ :=
  ⟨hle.trans h.fits, h.grows⟩

theorem register_agrees (h : RefsAgree build lists reg) (hnew : r ∉ lists.held) (realloc : Bool) :
    RefsAgree build ((RefOp.register r realloc).run build lists).1
      ((RefOp.register r realloc).registers ((RefOp.register r realloc).run build lists).2.1 reg) := by
  have hsized := rcRefListAddRef_sized h.pending realloc r
  rcases rcRefListAddRef_cases build realloc r lists.pending with ⟨hok, hrefs⟩ | hfull
  · simp only [RefOp.run, RefOp.registers, hok, if_true]
    have hheld : lists.active.refs ++ (rcRefListAddRef build realloc r lists.pending).1.refs =
        lists.held ++ [r] := by
      rw [hrefs, RCRefLists.held, append_assoc]
    refine ⟨?_, fun x => ?_, h.marked, h.active, hsized, h.toRemove⟩
    · show (lists.active.refs ++ (rcRefListAddRef build realloc r lists.pending).1.refs).Nodup
      rw [hheld]
      exact h.once.append (nodup_singleton r) (by simpa using hnew)
    · show x ∈ lists.active.refs ++ (rcRefListAddRef build realloc r lists.pending).1.refs ↔ _
      rw [hheld, mem_append, mem_singleton, h.live, Finset.mem_insert, or_comm]
  · simp only [RefOp.run, RefOp.registers, hfull]
    exact h

theorem mark_agrees (h : RefsAgree build lists reg) (r : ρ) (realloc : Bool) :
    RefsAgree build ((RefOp.mark r realloc).run build lists).1
      ((RefOp.mark r realloc).registers ((RefOp.mark r realloc).run build lists).2.1 reg) := by
  have hsized := rcRefListAddRef_sized h.toRemove realloc r
  rcases rcRefListAddRef_cases build realloc r lists.toRemove with ⟨hok, hrefs⟩ | hfull
  · simp only [RefOp.run, RefOp.registers, hok, if_true]
    refine { h with marked := fun x => ?_, toRemove := hsized }
    rw [hrefs, mem_append, mem_singleton, h.marked, Finset.mem_insert, or_comm]
  · simp only [RefOp.run, RefOp.registers, hfull]
    exact h

omit [DecidableEq ρ] in
theorem addPendingFrom_sized (rs : List ρ) : ∀ {k : Nat} {list : RCRefList ρ}, list.Sized build →
      (addPendingFrom build reallocs k rs list).Sized build := by
  induction rs with
  | nil => exact fun hs => hs
  | cons r rs ih => exact fun hs => ih (rcRefListAddRef_sized hs _ r)

omit [DecidableEq ρ] in
theorem addPending_agrees (h : RefsAgree build lists reg)
    (hroom : Room build reallocs lists.active 0 lists.pending.refs.length) :
    RefsAgree build (rcRefListsAddPending build reallocs lists) reg := by
  have hheld : (rcRefListsAddPending build reallocs lists).held = lists.held := by
    show (addPendingFrom build reallocs 0 lists.pending.refs lists.active).refs ++ [] = _
    rw [addPendingFrom_refs _ hroom h.active, append_nil, RCRefLists.held]
  refine ⟨?_, ?_, h.marked, addPendingFrom_sized _ h.active, h.pending.of_le zero_le, h.toRemove⟩
  · rw [hheld]
    exact h.once
  · rw [hheld]
    exact h.live

theorem removeMarked_agrees (h : RefsAgree build lists reg)
    (hact : Indexable lists.toRemove.refs lists.active.refs)
    (hpend : Indexable lists.toRemove.refs lists.pending.refs) :
    RefsAgree build (rcRefListsRemoveMarked lists).1 ⟨reg.live \ (reg.live ∩ reg.marked), ∅⟩ ∧
      CalledFor (rcRefListsRemoveMarked lists).2 (reg.live ∩ reg.marked) := by
  obtain ⟨calls, heq, hnodup, hmem⟩ := rcRefListsRemoveMarked_spec hact hpend h.once
  rw [heq]
  refine ⟨⟨?_, fun r => ?_, fun r => ?_, h.active.of_le (length_filter_le ..),
    h.pending.of_le (length_filter_le ..), h.toRemove.of_le zero_le⟩, hnodup, fun r => ?_⟩
  · simp only [RCRefLists.held, ← filter_append]
    exact h.once.filter _
  · simp only [RCRefLists.held, ← filter_append, mem_filter, decide_eq_true_eq, h.marked,
      Finset.mem_sdiff, Finset.mem_inter, ← h.live]
    tauto
  · simp
  · rw [hmem, h.marked, h.live, Finset.mem_inter, and_comm]

theorem removeAll_agrees (h : RefsAgree build lists reg) (hact : Indexable lists.toRemove.refs lists.active.refs)
    (hpend : Indexable lists.toRemove.refs lists.pending.refs) :
    RefsAgree build (rcRefListsRemoveAll lists).1 ⟨reg.live \ reg.live, ∅⟩ ∧
      CalledFor (rcRefListsRemoveAll lists).2 reg.live := by
  obtain ⟨hleft, hcalls, hmem⟩ := removeMarked_agrees h hact hpend
  have hrest (r : ρ) : r ∈ (rcRefListsRemoveMarked lists).1.held ↔ r ∈ reg.live ∧ r ∉ reg.marked := by
    rw [hleft.live, Finset.mem_sdiff, Finset.mem_inter]
    tauto
  have hperm : List.Perm ((rcRefListsRemoveMarked lists).1.pending.refs ++
      (rcRefListsRemoveMarked lists).1.active.refs) (rcRefListsRemoveMarked lists).1.held :=
    perm_append_comm
  refine ⟨⟨nodup_nil, ?_, hleft.marked, hleft.active.of_le zero_le,
    hleft.pending.of_le zero_le, hleft.toRemove⟩, ?_, fun r => ?_⟩
  · simp [rcRefListsRemoveAll, RCRefLists.held]
  · show ((rcRefListsRemoveMarked lists).2 ++ (rcRefListsRemoveMarked lists).1.pending.refs ++
      (rcRefListsRemoveMarked lists).1.active.refs).Nodup
    rw [append_assoc]
    refine hcalls.append (hperm.nodup_iff.mpr hleft.once) fun r hr hr' => ?_
    exact ((hrest r).mp (hperm.mem_iff.mp hr')).2 (Finset.mem_inter.mp ((hmem r).mp hr)).2
  · show r ∈ (rcRefListsRemoveMarked lists).2 ++ (rcRefListsRemoveMarked lists).1.pending.refs ++
      (rcRefListsRemoveMarked lists).1.active.refs ↔ _
    rw [append_assoc, mem_append, hperm.mem_iff, hrest, hmem, Finset.mem_inter]
    tauto

theorem refStep_agrees {op : RefOp ρ} (h : RefsAgree build lists reg) (hfits : op.Fits build lists)
    (hs : refStep build op (lists, reg) = some (lists', reg')) :
    RefsAgree build lists' reg' ∧ CalledFor (op.run build lists).2.2 (op.removes reg) := by
  have hnone : CalledFor ([] : List ρ) ∅ := ⟨nodup_nil, fun r => by simp⟩
  cases op with
  | register r realloc =>
    simp only [refStep] at hs
    split at hs
    · cases hs
    · cases hs
      exact ⟨register_agrees h ‹_› realloc, hnone⟩
  | mark r realloc =>
    cases hs
    exact ⟨mark_agrees h r realloc, hnone⟩
  | removeMarked =>
    cases hs
    exact removeMarked_agrees h hfits.1 hfits.2
  | addPending reallocs =>
    cases hs
    exact ⟨addPending_agrees h hfits, hnone⟩
  | removeAll =>
    cases hs
    exact removeAll_agrees h hfits.1 hfits.2

/-- **Registered objects are never lost or destroyed twice.**  In every run of operations that meet
the condition `Fits`, in either build and whatever the insertions return: the refs in `active` and
`pending` are those that were registered and not removed, each of them once; and each operation calls
`on_remove` once for each of the refs that it has to remove, which are the registered ones that were
marked for a sweep and all of them for `rc_ref_lists_remove_all`, and for no other. -/
theorem refs_removed_once (build : Build) (maxStatic : Nat)
    (h : Runs (refStep build) (fun op s => op.Fits build s.1)
      (rcRefListsInit build maxStatic, ⟨∅, ∅⟩) (lists, reg)) :
    lists.held.Nodup ∧ (∀ r, r ∈ lists.held ↔ r ∈ reg.live) ∧
      ∀ op s', op.Fits build lists → refStep build op (lists, reg) = some s' →
        CalledFor (op.run build lists).2.2 (op.removes reg) := by
  have hsized : RCRefList.Sized build (rcRefListsInit build maxStatic : RCRefLists ρ).active :=
    ⟨zero_le, fun hdyn => by simp [rcRefListsInit, hdyn]⟩
  have hinit : RefsAgree build (rcRefListsInit build maxStatic : RCRefLists ρ) ⟨∅, ∅⟩ :=
    ⟨nodup_nil, by simp [rcRefListsInit, RCRefLists.held], by simp [rcRefListsInit], hsized,
      hsized, hsized⟩
  have hagree : RefsAgree build lists reg :=
    Runs.keeps (I := fun s : RCRefLists ρ × Registered ρ => RefsAgree build s.1 s.2)
      (fun op s s' hfits hs hstep => (refStep_agrees hs hfits hstep).1) h hinit
  exact ⟨hagree.once, hagree.live, fun op s' hfits hstep => (refStep_agrees hagree hfits hstep).2⟩

/-- Two refs are registered and processed, one of them is marked twice; the sweep calls `on_remove`
for it once. -/
theorem refs_removed_once_marked_twice : ∃ lists reg, Runs (refStep .static) (fun op s => op.Fits .static s.1)
        (rcRefListsInit .static 2, ⟨∅, ∅⟩) (lists, reg) ∧
      ((RefOp.removeMarked : RefOp Nat).run .static lists).2.2 = [1] ∧
      lists.held.Nodup ∧ (∀ r, r ∈ lists.held ↔ r ∈ reg.live) ∧
      ∀ op s', op.Fits .static lists → refStep .static op (lists, reg) = some s' →
        CalledFor (op.run .static lists).2.2 (op.removes reg) := by
  obtain ⟨⟨lists, reg⟩, hr, hx⟩ := Runs.exists_of_play
    (s := ((rcRefListsInit .static 2, ⟨∅, ∅⟩) : RCRefLists Nat × Registered Nat)) (refStep .static)
    (fun op s => op.Fits .static s.1) (fun s => (RefOp.removeMarked.run .static s.1).2.2) [1]
    [.register 1 false, .register 2 false, .addPending fun _ => false, .mark 1 false, .mark 1 false]
    (by decide +kernel)
  exact ⟨lists, reg, hr, hx, refs_removed_once .static 2 hr⟩

/-- With room for one ref in each list, the second one that is registered is lost when it is moved:
it is in no list, and nobody will call `on_remove` for it. -/
theorem registered_ref_lost :
    ∃ lists reg, Runs (refStep .static) anyStep (rcRefListsInit .static 1, ⟨∅, ∅⟩) (lists, reg) ∧
      2 ∈ reg.live ∧ 2 ∉ lists.held ∧ 2 ∉ ((RefOp.removeAll : RefOp Nat).run .static lists).2.2 := by
  obtain ⟨⟨lists, reg⟩, hr, hx⟩ := Runs.exists_of_play
    (s := ((rcRefListsInit .static 1, ⟨∅, ∅⟩) : RCRefLists Nat × Registered Nat)) (refStep .static)
    anyStep (fun s => decide (2 ∈ s.2.live ∧ 2 ∉ s.1.held ∧ 2 ∉ (RefOp.removeAll.run .static s.1).2.2)) true
    [.register 1 false, .addPending fun _ => false, .register 2 false, .addPending fun _ => false]
    (by decide +kernel)
  exact ⟨lists, reg, hr, of_decide_eq_true hx⟩

end RDMnet
