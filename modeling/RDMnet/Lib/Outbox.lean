import Mathlib

/-!
# Queues that share a byte stream

Messages wait in queues, and one after another they are written to a stream that may take fewer bytes
than it is offered.  `Outbox.WellSent` says that the stream is a sequence of complete messages, with
perhaps one at its end that is not complete yet.  This is so as long as a message that has been begun
is finished before another one is begun: `Outbox.Orderly` is the invariant, and there is a rule for
each operation.

Every byte on the wire carries the number of the message it belongs to, so that bytes of different
messages are never mistaken for each other.
-/

namespace RDMnet

open List Function

variable {ι β : Type}

/-- A message in a queue: its number, its bytes, and how many of them have been written. -/
structure Ref (β : Type) where
  id : Nat
  data : List β
  sent : Nat

/-- The queues, all messages that were ever offered, by number, and the bytes on the wire. -/
structure Outbox (ι β : Type) where
  queue : ι → List (Ref β)
  offered : List (List β)
  wire : List (Nat × β)

namespace Outbox

def tagged (offered : List (List β)) (i : Nat) : List (Nat × β) :=
  ((offered[i]?).getD []).map (i, ·)

/-- The stream is the beginning of a sequence of complete messages. -/
def WellSent (o : Outbox ι β) : Prop :=
  ∃ ids : List Nat, (∀ i ∈ ids, i < o.offered.length) ∧ o.wire <+: ids.flatMap (tagged o.offered)

/-! ### Operations -/

section Operations

variable [DecidableEq ι]

def push (q : ι) (data : List β) (o : Outbox ι β) : Outbox ι β where
  queue := update o.queue q (o.queue q ++ [⟨o.offered.length, data, 0⟩])
  offered := o.offered ++ [data]
  wire := o.wire

/-- What is left of a queue after `k` more bytes of its first message are written. -/
def advance (k : Nat) : List (Ref β) → List (Ref β)
  | [] => []
  | r :: rest => if r.data.length ≤ r.sent + k then rest else { r with sent := r.sent + k } :: rest

/-- The stream takes `k` bytes of the first message of a queue. -/
def write (q : ι) (k : Nat) (o : Outbox ι β) : Outbox ι β where
  queue := update o.queue q (advance k (o.queue q))
  offered := o.offered
  wire := o.wire ++ match o.queue q with
    | [] => []
    | r :: _ => ((r.data.drop r.sent).take k).map (r.id, ·)

/-- The stream takes `k` bytes of a message that is in no queue. -/
def writeOnce (data : List β) (k : Nat) (o : Outbox ι β) : Outbox ι β where
  queue := o.queue
  offered := o.offered ++ [data]
  wire := o.wire ++ (data.take k).map (o.offered.length, ·)

def drop (q : ι) (o : Outbox ι β) : Outbox ι β :=
  { o with queue := update o.queue q [] }

end Operations

def clear (o : Outbox ι β) : Outbox ι β := { o with queue := fun _ => [] }

/-! ### The invariant -/

def Fresh (l : List (Ref β)) : Prop := ∀ r ∈ l, r.sent = 0

/-- The messages in the queues are messages that were offered, and not complete. -/
def Waiting (o : Outbox ι β) : Prop :=
  ∀ q, ∀ r ∈ o.queue q, o.offered[r.id]? = some r.data ∧ r.sent < r.data.length

/-- Either no message has been begun, and the stream is a sequence of complete messages, or the first
message of one queue has been begun, and the stream ends with what was written of it. -/
def Orderly (o : Outbox ι β) : Prop :=
  Waiting o ∧ ∃ done : List Nat, (∀ i ∈ done, i < o.offered.length) ∧
    (((∀ q, Fresh (o.queue q)) ∧ o.wire = done.flatMap (tagged o.offered)) ∨
      ∃ q r rest, o.queue q = r :: rest ∧ 0 < r.sent ∧ Fresh rest ∧ (∀ q' ≠ q, Fresh (o.queue q')) ∧
        o.wire = done.flatMap (tagged o.offered) ++ (tagged o.offered r.id).take r.sent)

def Begun (o : Outbox ι β) (q : ι) : Prop := ¬ Fresh (o.queue q)

variable {o : Outbox ι β} {q : ι} {r : Ref β}

theorem Waiting.lt (h : Waiting o) (hr : r ∈ o.queue q) :
    r.id < o.offered.length := (List.getElem?_eq_some_iff.mp (h q r hr).1).1

theorem Waiting.tagged (h : Waiting o) (hr : r ∈ o.queue q) : tagged o.offered r.id = r.data.map (r.id, ·) := by
  unfold Outbox.tagged
  rw [(h q r hr).1]
  rfl

theorem Orderly.wellSent (h : Orderly o) : WellSent o := by
  obtain ⟨hwait, done, hdone, ⟨-, hwire⟩ | ⟨q, r, rest, hq, -, -, -, hwire⟩⟩ := h
  · exact ⟨done, hdone, hwire ▸ prefix_refl _⟩
  · have hr : r ∈ o.queue q := by rw [hq]; exact mem_cons_self ..
    refine ⟨done ++ [r.id], fun i hi => ?_, ?_⟩
    · rcases mem_append.mp hi with hi | hi
      · exact hdone i hi
      · rw [mem_singleton.mp hi]
        exact hwait.lt hr
    · rw [hwire, flatMap_append, flatMap_singleton]
      exact (prefix_append_right_inj _).mpr <| take_prefix ..

theorem tagged_append (offered more : List (List β)) {i : Nat} (h : i < offered.length) :
    tagged (offered ++ more) i = tagged offered i := by
  unfold tagged
  rw [getElem?_append_left h]

theorem flatMap_tagged_append (offered more : List (List β)) {ids : List Nat}
    (h : ∀ i ∈ ids, i < offered.length) : ids.flatMap (tagged (offered ++ more)) = ids.flatMap (tagged offered) :=
  flatMap_congr fun i hi => tagged_append offered more (h i hi)

theorem tagged_last (offered : List (List β)) (data : List β) :
    tagged (offered ++ [data]) offered.length = data.map (offered.length, ·) := by
  simp [tagged]

theorem WellSent.offer {o' : Outbox ι β} (h : WellSent o) (more : List (List β))
    (hoff : o'.offered = o.offered ++ more) (hwire : o'.wire = o.wire) : WellSent o' := by
  obtain ⟨ids, hids, hpre⟩ := h
  refine ⟨ids, fun i hi => ?_, ?_⟩
  · rw [hoff, length_append]
    exact Nat.lt_add_right _ (hids i hi)
  · rw [hoff, hwire, flatMap_tagged_append _ _ hids]
    exact hpre

theorem WellSent.same_message (h : WellSent o) {i j : Nat} {x y : β}
    {w : List (Nat × β)} (hw : o.wire = (i, x) :: (j, y) :: w)
    (hlen : 1 < ((o.offered[i]?).getD []).length) : j = i := by
  obtain ⟨ids, -, hpre⟩ := h
  rw [hw] at hpre
  induction ids with
  | nil => exact absurd (prefix_nil.mp hpre) nofun
  | cons k ids ih =>
    rw [flatMap_cons] at hpre
    unfold tagged at hpre
    cases hdata : (o.offered[k]?).getD [] with
    | nil =>
      rw [hdata] at hpre
      exact ih hpre
    | cons b bs =>
      rw [hdata, map_cons, cons_append, cons_prefix_cons] at hpre
      obtain ⟨hi, hpre⟩ := hpre
      obtain ⟨rfl, -⟩ := Prod.mk.inj hi
      cases bs with
      | nil =>
        rw [hdata] at hlen
        exact absurd hlen (Nat.lt_irrefl 1)
      | cons b' bs =>
        rw [map_cons, cons_append, cons_prefix_cons] at hpre
        exact (Prod.mk.inj hpre.1).1

/-! ### Rules -/

theorem Orderly.fresh (h : Orderly o) (hno : ∀ q, ¬ Begun o q) :
    ∃ done : List Nat, (∀ i ∈ done, i < o.offered.length) ∧ o.wire = done.flatMap (tagged o.offered) := by
  obtain ⟨-, done, hdone, ⟨-, hwire⟩ | ⟨q, r, rest, hq, hsent, -⟩⟩ := h
  · exact ⟨done, hdone, hwire⟩
  · refine absurd (fun hf => ?_) (hno q)
    have := hf r (by rw [hq]; exact mem_cons_self ..)
    omega

theorem fresh_nil : Fresh ([] : List (Ref β)) := fun _ h => nomatch h

theorem Fresh.tail {l : List (Ref β)} (h : Fresh (r :: l)) : Fresh l :=
  fun x hx => h x (mem_cons_of_mem _ hx)

theorem Fresh.snoc {l : List (Ref β)} (hr : r.sent = 0) (h : Fresh l) :
    Fresh (l ++ [r]) := fun x hx =>
  (mem_append.mp hx).elim (h x) fun hx => mem_singleton.mp hx ▸ hr

theorem Waiting.offer (h : Waiting o) (data : List β) (hr : r ∈ o.queue q) :
    (o.offered ++ [data])[r.id]? = some r.data ∧ r.sent < r.data.length := by
  rw [getElem?_append_left (h.lt hr)]
  exact h q r hr

theorem lt_append {offered : List (List β)} {ids : List Nat} (h : ∀ i ∈ ids, i < offered.length)
    (data : List β) : ∀ i ∈ ids, i < (offered ++ [data]).length := by
  intro i hi
  rw [length_append]
  exact Nat.lt_add_right _ (h i hi)

section Rules

variable [DecidableEq ι] {o : Outbox ι β} {q : ι} {k : Nat} {data : List β}

theorem update_fresh {f : ι → List (Ref β)} {l : List (Ref β)} {q' : ι}
    (h : q' ≠ q → Fresh (f q')) (hl : Fresh l) : Fresh (update f q l q') := by
  by_cases hq : q' = q
  · rw [hq, update_self]
    exact hl
  · rw [update_of_ne hq]
    exact h hq

theorem Orderly.push (h : Orderly o) (hdata : data ≠ []) : Orderly (o.push q data) := by
  obtain ⟨hwait, done, hdone, hopen⟩ := h
  have hlast : (o.offered ++ [data])[o.offered.length]? = some data := by simp
  have hpos : 0 < data.length := length_pos_iff.mpr hdata
  refine ⟨fun q' r hr => ?_, done, lt_append hdone data, ?_⟩
  · simp only [Outbox.push] at hr ⊢
    by_cases hq : q' = q
    · rw [hq, update_self] at hr
      rcases mem_append.mp hr with hr | hr
      · exact hwait.offer data hr
      · rw [mem_singleton.mp hr]
        exact ⟨hlast, hpos⟩
    · rw [update_of_ne hq] at hr
      exact hwait.offer data hr
  · simp only [Outbox.push]
    rw [flatMap_tagged_append _ _ hdone]
    rcases hopen with ⟨hfresh, hwire⟩ | ⟨q0, r, rest, hq0, hsent, hrest, hothers, hwire⟩
    · exact .inl ⟨fun q' => update_fresh (fun _ => hfresh q') ((hfresh q).snoc rfl), hwire⟩
    · have hr : r ∈ o.queue q0 := by rw [hq0]; exact mem_cons_self ..
      rw [← tagged_append o.offered [data] (hwait.lt hr)] at hwire
      refine .inr ⟨q0, r, if q0 = q then rest ++ [⟨o.offered.length, data, 0⟩] else rest, ?_, hsent, ?_,
        fun q' hq' => ?_, hwire⟩
      · by_cases hq : q0 = q
        · rw [if_pos hq, ← hq, update_self, hq0]
          rfl
        · rw [if_neg hq, update_of_ne hq, hq0]
      · split
        · exact hrest.snoc rfl
        · exact hrest
      · by_cases hq : q' = q
        · rw [hq, update_self]
          exact (hothers q (hq ▸ hq')).snoc rfl
        · rw [update_of_ne hq]
          exact hothers q' hq'

omit [DecidableEq ι] in
theorem Orderly.writeOnce (h : Orderly o) (hk : k = 0 ∨ (∀ q, ¬ Begun o q) ∧ data.length ≤ k) :
    Orderly (o.writeOnce data k) := by
  refine ⟨fun q r hr => h.1.offer data hr, ?_⟩
  simp only [Outbox.writeOnce]
  rcases hk with rfl | ⟨hno, hk⟩
  · obtain ⟨hwait, done, hdone, hopen⟩ := h
    refine ⟨done, lt_append hdone data, ?_⟩
    rw [flatMap_tagged_append _ _ hdone, take_zero, map_nil, append_nil]
    refine hopen.imp_right fun ⟨q0, r, rest, hq0, hsent, hrest, hothers, hwire⟩ => ?_
    have hr : r ∈ o.queue q0 := by rw [hq0]; exact mem_cons_self ..
    rw [← tagged_append o.offered [data] (hwait.lt hr)] at hwire
    exact ⟨q0, r, rest, hq0, hsent, hrest, hothers, hwire⟩
  · obtain ⟨done, hdone, hwire⟩ := h.fresh hno
    refine ⟨done ++ [o.offered.length], fun i hi => ?_, .inl ⟨fun q => not_not.mp (hno q), ?_⟩⟩
    · rcases mem_append.mp hi with hi | hi
      · exact lt_append hdone data i hi
      · rw [mem_singleton.mp hi]
        simp
    · rw [flatMap_append, flatMap_tagged_append _ _ hdone, flatMap_singleton, tagged_last,
        take_of_length_le hk, hwire]

omit [DecidableEq ι] in
theorem Orderly.clear (h : Orderly o) (hno : ∀ q, ¬ Begun o q) : Orderly o.clear := by
  obtain ⟨done, hdone, hwire⟩ := h.fresh hno
  exact ⟨fun _ _ hr => (nomatch hr), done, hdone, .inl ⟨fun _ => fresh_nil, hwire⟩⟩

theorem Orderly.drop (h : Orderly o) (hno : ¬ Begun o q) : Orderly (o.drop q) := by
  obtain ⟨hwait, done, hdone, hopen⟩ := h
  refine ⟨fun q' r hr => ?_, done, hdone, ?_⟩
  · simp only [Outbox.drop] at hr
    by_cases hq : q' = q
    · rw [hq, update_self] at hr
      cases hr
    · rw [update_of_ne hq] at hr
      exact hwait q' r hr
  · simp only [Outbox.drop]
    rcases hopen with ⟨hfresh, hwire⟩ | ⟨q0, r, rest, hq0, hsent, hrest, hothers, hwire⟩
    · exact .inl ⟨fun q' => update_fresh (fun _ => hfresh q') fresh_nil, hwire⟩
    · have hne : q0 ≠ q := by
        rintro rfl
        refine hno fun hf => ?_
        have := hf r (by rw [hq0]; exact mem_cons_self ..)
        omega
      refine .inr ⟨q0, r, rest, ?_, hsent, hrest, fun q' hq' => ?_, hwire⟩
      · rw [update_of_ne hne, hq0]
      · exact update_fresh (fun _ => hothers q' hq') fresh_nil

theorem wire_advance (r : Ref β) (k : Nat) (w : List (Nat × β)) :
    w ++ (r.data.map (r.id, ·)).take r.sent ++ ((r.data.drop r.sent).take k).map (r.id, ·) =
      w ++ (r.data.map (r.id, ·)).take (r.sent + k) := by
  rw [append_assoc, take_add, map_take, map_drop]

theorem Orderly.write (h : Orderly o) (hk : k = 0 ∨ ∀ q', Begun o q' → q' = q) : Orderly (o.write q k) := by
  obtain ⟨hwait, done, hdone, hopen⟩ := h
  cases hq : o.queue q with
  | nil =>
    have hsame : o.write q k = o := by
      simp only [Outbox.write, hq, advance, append_nil]
      rw [← hq, update_eq_self]
    rw [hsame]
    exact ⟨hwait, done, hdone, hopen⟩
  | cons r rest =>
    have hr : r ∈ o.queue q := by rw [hq]; exact mem_cons_self ..
    have hlen := (hwait q r hr).2
    rcases Nat.eq_zero_or_pos k with rfl | hpos
    · have hsame : o.write q 0 = o := by
        simp only [Outbox.write, hq, advance, Nat.add_zero, if_neg (not_le.mpr hlen),
          take_zero, map_nil, append_nil]
        rw [← hq, update_eq_self]
      rw [hsame]
      exact ⟨hwait, done, hdone, hopen⟩
    have hk := hk.resolve_left (Nat.ne_of_gt hpos)
    -- the stream ends with what was written of the message, if anything was
    have hstream : (∀ q' ≠ q, Fresh (o.queue q')) ∧ Fresh rest ∧
        o.wire = done.flatMap (tagged o.offered) ++ (r.data.map (r.id, ·)).take r.sent := by
      rcases hopen with ⟨hfresh, hwire⟩ | ⟨q0, r0, rest0, hq0, hsent, hrest, hothers, hwire⟩
      · have hr0 : r.sent = 0 := hfresh q r hr
        exact ⟨fun q' _ => hfresh q', (hq ▸ hfresh q).tail, by simp [hwire, hr0]⟩
      · have hbegun : q0 = q := hk q0 fun hf => by
          have := hf r0 (by rw [hq0]; exact mem_cons_self ..)
          omega
        subst hbegun
        rw [hq] at hq0
        cases hq0
        exact ⟨hothers, hrest, by rw [hwire, hwait.tagged hr]⟩
    obtain ⟨hothers, hrest, hwire⟩ := hstream
    have hnew : (o.write q k).wire = done.flatMap (tagged o.offered) ++
        (r.data.map (r.id, ·)).take (r.sent + k) := by
      simp only [Outbox.write, hq]
      rw [hwire, wire_advance]
    by_cases hdone' : r.data.length ≤ r.sent + k
    · -- the message is complete
      have hqueue : (o.write q k).queue = update o.queue q rest := by
        simp only [Outbox.write, hq, advance, if_pos hdone']
      refine ⟨fun q' x hx => ?_, done ++ [r.id], fun i hi => ?_, .inl ⟨fun q' => ?_, ?_⟩⟩
      · rw [hqueue] at hx
        by_cases hq' : q' = q
        · rw [hq', update_self] at hx
          exact hwait q x (by rw [hq]; exact mem_cons_of_mem _ hx)
        · rw [update_of_ne hq'] at hx
          exact hwait q' x hx
      · rcases mem_append.mp hi with hi | hi
        · exact hdone i hi
        · rw [mem_singleton.mp hi]
          exact hwait.lt hr
      · rw [hqueue]
        exact update_fresh (hothers q') hrest
      · rw [hnew, take_of_length_le (by rwa [length_map]), flatMap_append, flatMap_singleton, ← hwait.tagged hr]
        rfl
    · -- the message goes on
      have hqueue : (o.write q k).queue =
          update o.queue q ({ r with sent := r.sent + k } :: rest) := by
        simp only [Outbox.write, hq, advance, if_neg hdone']
      refine ⟨fun q' x hx => ?_, done, hdone, .inr ⟨q, { r with sent := r.sent + k }, rest, ?_,
        Nat.add_pos_right _ hpos, hrest, fun q' hq' => ?_, ?_⟩⟩
      · rw [hqueue] at hx
        by_cases hq' : q' = q
        · rw [hq', update_self] at hx
          rcases mem_cons.mp hx with rfl | hx
          · exact ⟨(hwait q r hr).1, not_le.mp hdone'⟩
          · exact hwait q x (by rw [hq]; exact mem_cons_of_mem _ hx)
        · rw [update_of_ne hq'] at hx
          exact hwait q' x hx
      · rw [hqueue, update_self]
      · rw [hqueue, update_of_ne hq']
        exact hothers q' hq'
      · rw [hnew]
        show _ = _ ++ (tagged o.offered r.id).take (r.sent + k)
        rw [hwait.tagged hr]
        rfl

end Rules

end Outbox

end RDMnet
