import RDMnet.Broker.Client

/-!
# The queue of a device

`RptMsgQ` as a map from controllers to their messages: what each operation does to the messages of a
controller, and which controller `front` serves.
-/

namespace RDMnet.RptMsgQ

open List

variable {q : RptMsgQ} {h h' c : Handle} {l : List (Handle × List MessageRef)} {v : MessageRef}

/-- The map is sorted by handle, and the count is the number of messages in it. -/
structure WF (q : RptMsgQ) : Prop where
  sorted : q.rptMsgs.Pairwise (·.1 < ·.1)
  count : q.totalMsgCount = (q.rptMsgs.map (·.2.length)).sum

theorem wf_init : init.WF := ⟨.nil, rfl⟩

/-! ### Looking up a controller -/

theorem lookup_eq_none_of_lt (hl : ∀ e ∈ l, h < e.1) : l.lookup h = none := by
  rw [lookup_eq_none_iff]
  intro e he
  simpa using Int.ne_of_lt (hl e he)

variable {ms : List MessageRef}

theorem lookup_cons_of_ne {k : Handle} (hne : h ≠ k) : ((k, ms) :: l).lookup h = l.lookup h := by
  rw [lookup_cons, beq_false_of_ne hne]

theorem lookup_of_mem (hs : l.Pairwise (·.1 < ·.1)) (hm : (h, ms) ∈ l) : l.lookup h = some ms := by
  induction l with
  | nil => cases hm
  | cons e l ih =>
    rw [pairwise_cons] at hs
    rcases mem_cons.mp hm with rfl | hm
    · exact lookup_cons_self
    · have hlt : e.1 < h := hs.1 _ hm
      rw [lookup_cons_of_ne (Int.ne_of_gt hlt)]
      exact ih hs.2 hm

theorem get_of_mem (hq : q.WF) (hm : (h, ms) ∈ q.rptMsgs) : q.get h = ms := by
  rw [get, lookup_of_mem hq.sorted hm]
  rfl

theorem mem_of_get (hne : q.get h ≠ []) : (h, q.get h) ∈ q.rptMsgs := by
  unfold get at hne ⊢
  cases hl : q.rptMsgs.lookup h with
  | none =>
    rw [hl] at hne
    exact absurd rfl hne
  | some ms =>
    obtain ⟨l1, l2, heq, -⟩ := lookup_eq_some_iff.mp hl
    rw [heq]
    simp

/-! ### Adding a message -/

variable {e : Handle × List MessageRef}

theorem mem_insert (he : e ∈ insert c v l) : e.1 = c ∨ e ∈ l := by
  induction l with
  | nil =>
    rw [mem_singleton.mp he]
    exact .inl rfl
  | cons e' l ih =>
    obtain ⟨k, ms⟩ := e'
    simp only [insert] at he
    split_ifs at he with hlt heq
    · rcases mem_cons.mp he with rfl | he
      · exact .inl rfl
      · exact .inr he
    · rcases mem_cons.mp he with rfl | he
      · exact .inl heq.symm
      · exact .inr (mem_cons_of_mem _ he)
    · rcases mem_cons.mp he with rfl | he
      · exact .inr (mem_cons_self ..)
      · exact (ih he).imp_right (mem_cons_of_mem _)

theorem sorted_insert (hs : l.Pairwise (·.1 < ·.1)) : (insert c v l).Pairwise (·.1 < ·.1) := by
  induction l with
  | nil => exact pairwise_singleton ..
  | cons e l ih =>
    obtain ⟨k, ms⟩ := e
    rw [pairwise_cons] at hs
    simp only [insert]
    split_ifs with hlt heq
    · refine pairwise_cons.mpr ⟨fun e he => ?_, pairwise_cons.mpr hs⟩
      rcases mem_cons.mp he with rfl | he
      · exact hlt
      · exact Int.lt_trans hlt (hs.1 e he)
    · exact pairwise_cons.mpr hs
    · refine pairwise_cons.mpr ⟨fun e he => ?_, ih hs.2⟩
      rcases mem_insert he with hc | he
      · have hlt' : k < c := Int.lt_iff_le_and_ne.mpr ⟨Int.not_lt.mp hlt, Ne.symm heq⟩
        exact hc ▸ hlt'
      · exact hs.1 e he

theorem lookup_insert (hs : l.Pairwise (·.1 < ·.1)) :
    (insert c v l).lookup h = if h = c then some ((l.lookup c).getD [] ++ [v]) else l.lookup h := by
  induction l with
  | nil =>
    by_cases hc : h = c
    · rw [hc, if_pos rfl]
      exact lookup_cons_self
    · rw [if_neg hc]
      exact lookup_cons_of_ne hc
  | cons e l ih =>
    obtain ⟨k, ms⟩ := e
    rw [pairwise_cons] at hs
    by_cases hlt : c < k
    · have hnone : ((k, ms) :: l).lookup c = none := lookup_eq_none_of_lt fun e he => by
        rcases mem_cons.mp he with rfl | he
        · exact hlt
        · exact Int.lt_trans hlt (hs.1 e he)
      rw [insert, if_pos hlt]
      by_cases hc : h = c
      · rw [if_pos hc, hc, hnone]
        exact lookup_cons_self
      · rw [if_neg hc, lookup_cons_of_ne hc]
    rw [insert, if_neg hlt]
    by_cases heq : c = k
    · subst heq
      rw [if_pos rfl]
      by_cases hc : h = c
      · rw [if_pos hc, hc, lookup_cons_self, lookup_cons_self]
        rfl
      · rw [if_neg hc, lookup_cons_of_ne hc, lookup_cons_of_ne hc]
    · rw [if_neg heq]
      by_cases hk : h = k
      · have hc : h ≠ c := fun hc => heq (hc.symm.trans hk)
        rw [if_neg hc, hk, lookup_cons_self, lookup_cons_self]
      · rw [lookup_cons_of_ne hk, ih hs.2, lookup_cons_of_ne heq, lookup_cons_of_ne hk]

theorem sum_insert : ((insert c v l).map (·.2.length)).sum = (l.map (·.2.length)).sum + 1 := by
  induction l with
  | nil => rfl
  | cons e l ih =>
    obtain ⟨k, ms⟩ := e
    simp only [insert]
    split_ifs <;> simp [ih] <;> omega

theorem WF.pushBack (hq : q.WF) : (q.pushBack c v).WF :=
  ⟨sorted_insert hq.sorted, by
    show q.totalMsgCount + 1 = _
    rw [hq.count]
    exact sum_insert.symm⟩

theorem get_pushBack (hq : q.WF) :
    (q.pushBack c v).get h = if h = c then q.get c ++ [v] else q.get h := by
  unfold get pushBack
  rw [lookup_insert hq.sorted]
  split <;> rfl

/-! ### Changing the messages of a controller -/

section

variable (f : List MessageRef → List MessageRef)
include f

theorem lookup_modify :
    (l.map fun e => if e.1 = c then (e.1, f e.2) else e).lookup h =
      if h = c then (l.lookup c).map f else l.lookup h := by
  induction l with
  | nil => split <;> rfl
  | cons e l ih =>
    obtain ⟨k, ms⟩ := e
    rw [map_cons]
    by_cases hk : k = c
    · subst hk
      rw [if_pos rfl]
      by_cases hh : h = k
      · rw [hh, lookup_cons_self, lookup_cons_self, if_pos rfl]
        rfl
      · rw [lookup_cons_of_ne hh, lookup_cons_of_ne hh, ih, if_neg hh, if_neg hh]
    · rw [if_neg hk, lookup_cons_of_ne (Ne.symm hk)]
      by_cases hh : h = k
      · rw [hh, lookup_cons_self, lookup_cons_self, if_neg hk]
      · rw [lookup_cons_of_ne hh, lookup_cons_of_ne hh, ih]

theorem get_modify (hf : f [] = [] ∨ q.get c ≠ []) :
    (q.modify c f).get h = if h = c then f (q.get c) else q.get h := by
  unfold get modify
  rw [lookup_modify]
  split
  · cases hl : q.rptMsgs.lookup c with
    | some ms => rfl
    | none =>
      rcases hf with hf | hf
      · exact hf.symm
      · exact absurd (by rw [get, hl]; rfl) hf
  · rfl

theorem sorted_modify (hs : l.Pairwise (·.1 < ·.1)) :
    (l.map fun e => if e.1 = c then (e.1, f e.2) else e).Pairwise (·.1 < ·.1) := by
  refine pairwise_map.mpr (hs.imp fun {a b} hab => ?_)
  split <;> split <;> exact hab

theorem sum_modify (hs : l.Pairwise (·.1 < ·.1))
    (hl : l.lookup c = some ms) :
    ((l.map fun e => if e.1 = c then (e.1, f e.2) else e).map (·.2.length)).sum + ms.length =
      (l.map (·.2.length)).sum + (f ms).length := by
  induction l with
  | nil => cases hl
  | cons e l ih =>
    obtain ⟨k, ms'⟩ := e
    rw [pairwise_cons] at hs
    by_cases hk : k = c
    · subst hk
      rw [lookup_cons_self] at hl
      cases hl
      have hsame : (l.map fun e => if e.1 = k then (e.1, f e.2) else e) = l := by
        conv_rhs => rw [← map_id l]
        exact map_congr_left fun e he => if_neg (Int.ne_of_gt (hs.1 e he))
      rw [map_cons, hsame, if_pos rfl]
      simp only [map_cons, sum_cons]
      omega
    · rw [lookup_cons_of_ne (Ne.symm hk)] at hl
      have := ih hs.2 hl
      rw [map_cons, if_neg hk]
      simp only [map_cons, sum_cons]
      omega

end

theorem lookup_of_get (hne : q.get c ≠ []) : q.rptMsgs.lookup c = some (q.get c) := by
  unfold get at hne ⊢
  cases hl : q.rptMsgs.lookup c with
  | some ms => rfl
  | none =>
    rw [hl] at hne
    exact absurd rfl hne

theorem WF.modify (hq : q.WF) (f : List MessageRef → List MessageRef) (hne : q.get c ≠ [])
    (hlen : (f (q.get c)).length = (q.get c).length) : (q.modify c f).WF := by
  refine ⟨sorted_modify f hq.sorted, ?_⟩
  have := sum_modify f hq.sorted (lookup_of_get hne)
  show q.totalMsgCount = ((q.modify c f).rptMsgs.map (·.2.length)).sum
  rw [hq.count]
  unfold RptMsgQ.modify
  dsimp only
  omega

theorem WF.popFront (hq : q.WF) (hne : q.get q.currentController ≠ []) : q.popFront.WF := by
  unfold RptMsgQ.popFront
  split
  · refine ⟨sorted_modify _ hq.sorted, ?_⟩
    have hsum := sum_modify (·.drop 1) hq.sorted (lookup_of_get hne)
    have hpos : 0 < (q.get q.currentController).length := length_pos_iff.mpr hne
    rw [length_drop] at hsum
    show q.totalMsgCount - 1 = ((q.modify q.currentController (·.drop 1)).rptMsgs.map (·.2.length)).sum
    rw [hq.count]
    unfold RptMsgQ.modify
    dsimp only
    omega
  · exact hq

theorem get_popFront (hc : q.currentController ≠ kInvalidHandle) :
    q.popFront.get h =
      if h = q.currentController then (q.get q.currentController).drop 1 else q.get h := by
  unfold popFront
  rw [if_pos hc]
  exact get_modify (·.drop 1) (.inl rfl)

/-! ### Removing a controller -/

theorem get_remove :
    q.removeCurrentController.get h = if h = q.currentController then [] else q.get h := by
  have hlook : ∀ l : List (Handle × List MessageRef),
      (l.filter (·.1 ≠ q.currentController)).lookup h =
        if h = q.currentController then none else l.lookup h := by
    intro l
    induction l with
    | nil => split <;> rfl
    | cons e l ih =>
      obtain ⟨k, ms⟩ := e
      by_cases hk : k = q.currentController
      · rw [filter_cons_of_neg (by simpa using hk), ih]
        by_cases hh : h = q.currentController
        · rw [if_pos hh, if_pos hh]
        · rw [if_neg hh, if_neg hh, lookup_cons_of_ne (hk ▸ hh)]
      · rw [filter_cons_of_pos (by simpa using hk)]
        by_cases hh : h = k
        · rw [hh, lookup_cons_self, lookup_cons_self, if_neg hk]
        · rw [lookup_cons_of_ne hh, lookup_cons_of_ne hh, ih]
  unfold get removeCurrentController
  dsimp only
  rw [hlook]
  split <;> rfl

theorem WF.remove (hq : q.WF) : q.removeCurrentController.WF := by
  refine ⟨hq.sorted.sublist filter_sublist, ?_⟩
  have hsum : ∀ l : List (Handle × List MessageRef), l.Pairwise (·.1 < ·.1) →
      ((l.filter (·.1 ≠ q.currentController)).map (·.2.length)).sum +
        ((l.lookup q.currentController).getD []).length = (l.map (·.2.length)).sum := by
    intro l hs
    induction l with
    | nil => rfl
    | cons e l ih =>
      obtain ⟨k, ms⟩ := e
      rw [pairwise_cons] at hs
      have := ih hs.2
      by_cases hk : k = q.currentController
      · have hnone : l.lookup q.currentController = none :=
          lookup_eq_none_of_lt fun e he => hk ▸ hs.1 e he
        rw [hnone] at this
        rw [filter_cons_of_neg (by simpa using hk), hk, lookup_cons_self, map_cons, sum_cons]
        simp only [Option.getD_some, Option.getD_none, length_nil] at this ⊢
        omega
      · rw [filter_cons_of_pos (by simpa using hk), lookup_cons_of_ne (Ne.symm hk),
          map_cons, map_cons, sum_cons, sum_cons]
        omega
  have hall := hsum q.rptMsgs hq.sorted
  show q.totalMsgCount - (q.get q.currentController).length =
    ((q.rptMsgs.filter (·.1 ≠ q.currentController)).map (·.2.length)).sum
  rw [hq.count]
  unfold get
  omega

/-! ### The controller that is served -/

theorem mem_rotated : e ∈ q.rotated ↔ e ∈ q.rptMsgs := by
  unfold rotated
  rw [mem_append, mem_filter, mem_filter]
  constructor
  · rintro (⟨he, -⟩ | ⟨he, -⟩) <;> exact he
  · intro he
    rcases Int.lt_or_le q.currentController e.1 with hlt | hge
    · exact .inl ⟨he, by simpa using hlt⟩
    · exact .inr ⟨he, by simpa using hge⟩

variable {m : MessageRef}

theorem frontLoop_some {current : Handle} (hf : frontLoop current l = some (h, m)) :
    ∃ ms, (h, m :: ms) ∈ l := by
  induction l with
  | nil => cases hf
  | cons e l ih =>
    obtain ⟨k, ms⟩ := e
    cases ms with
    | nil =>
      simp only [frontLoop] at hf
      split at hf
      · cases hf
      · obtain ⟨ms, hm⟩ := ih hf
        exact ⟨ms, mem_cons_of_mem _ hm⟩
    | cons m' ms =>
      simp only [frontLoop, Option.some.injEq, Prod.mk.injEq] at hf
      obtain ⟨rfl, rfl⟩ := hf
      exact ⟨ms, mem_cons_self ..⟩

theorem frontLoop_isSome {current : Handle} (he : e ∈ l)
    (hne : e.2 ≠ []) (hlast : l.Pairwise fun a _ => a.1 ≠ current) : (frontLoop current l).isSome := by
  induction l with
  | nil => cases he
  | cons e' l ih =>
    obtain ⟨k, ms⟩ := e'
    rw [pairwise_cons] at hlast
    cases ms with
    | cons m' ms => rfl
    | nil =>
      rcases mem_cons.mp he with rfl | he
      · exact absurd rfl hne
      · rw [frontLoop, if_neg (hlast.1 e he)]
        exact ih he hlast.2

theorem rotated_last (hq : q.WF) : q.rotated.Pairwise fun a _ => a.1 ≠ q.currentController := by
  unfold rotated
  refine pairwise_append.mpr ⟨?_, ?_, ?_⟩
  · refine List.Pairwise.imp_of_mem (fun {a b} ha _ _ => ?_) (hq.sorted.sublist filter_sublist)
    have := (mem_filter.mp ha).2
    exact Int.ne_of_gt (by simpa using this)
  · refine List.Pairwise.imp_of_mem (fun {a b} _ hb hab => ?_) (hq.sorted.sublist filter_sublist)
    have := (mem_filter.mp hb).2
    exact Int.ne_of_lt (Int.lt_of_lt_of_le hab (by simpa using this))
  · intro a ha b _
    have := (mem_filter.mp ha).2
    exact Int.ne_of_gt (by simpa using this)

theorem front_some (hq : q.WF) (hf : q.front = some (h, m)) : ∃ ms, q.get h = m :: ms := by
  obtain ⟨ms, hm⟩ := frontLoop_some hf
  exact ⟨ms, get_of_mem hq (mem_rotated.mp hm)⟩

theorem front_isSome (hq : q.WF) (hne : q.get h ≠ []) : q.front.isSome :=
  frontLoop_isSome (mem_rotated.mpr (mem_of_get hne)) hne (rotated_last hq)

theorem empty_iff (hq : q.WF) : q.empty = true ↔ ∀ h, q.get h = [] := by
  unfold empty
  rw [decide_eq_true_iff, hq.count, List.sum_eq_zero_iff_forall_eq_nat]
  constructor
  · intro hall h
    by_contra hne
    have := hall _ (mem_map_of_mem (mem_of_get hne))
    exact hne (length_eq_zero_iff.mp this)
  · rintro hall n hn
    obtain ⟨e, he, rfl⟩ := mem_map.mp hn
    rw [← get_of_mem hq he, hall]
    rfl

end RDMnet.RptMsgQ
