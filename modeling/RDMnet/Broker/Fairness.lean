import RDMnet.Broker.DeviceQueue
import RDMnet.Lib.Runs

/-!
# Fair scheduling of the requests for a device

`front` goes around the controllers in the order of their handles.  While a controller waits, those that
are served lie between the one served first and the one that waits (`Arc`), so that the first one does not
come up again.
-/

namespace RDMnet.RptMsgQ

open List

variable {h k c r : Handle} {m : MessageRef}

/-- The calls that `RPTDevice` makes. -/
inductive Call
  | pushBack (controller : Handle) (value : MessageRef)
  | front
  | popFront
  | removeCurrentController
  | clear

/-- The queue; whether the last call was `front`; and, as ghost data, what each controller pushed. -/
structure Serving where
  q : RptMsgQ
  fronted : Bool
  pushed : Handle → List MessageRef

namespace Serving

variable {s s' : Serving}

def init : Serving := ⟨.init, false, fun _ => []⟩

/-- A call: `push_back` for a controller with a valid handle, `front` for a queue that is not empty, `pop_front`
and `RemoveCurrentController` directly after `front`. -/
def step : Call → Serving → Option Serving
  | .pushBack c v, s =>
    if c = kInvalidHandle then none
    else some ⟨s.q.pushBack c v, false, fun h => if h = c then s.pushed h ++ [v] else s.pushed h⟩
  | .front, s =>
    if s.q.empty then none
    else s.q.front.map fun (h, _) => ⟨{ s.q with currentController := h }, true, s.pushed⟩
  | .popFront, s => if s.fronted then some ⟨s.q.popFront, false, s.pushed⟩ else none
  | .removeCurrentController, s =>
    if s.fronted then some ⟨s.q.removeCurrentController, false, s.pushed⟩ else none
  | .clear, s => some ⟨.init, false, s.pushed⟩

def gone (s : Serving) (h : Handle) : Nat := (s.pushed h).length - (s.q.get h).length

structure Good (s : Serving) : Prop where
  wf : s.q.WF
  last : ∀ h, s.q.get h <:+ s.pushed h
  valid : s.pushed kInvalidHandle = []
  current : s.fronted = true → s.q.get s.q.currentController ≠ []

theorem Good.valid_of_get (hg : s.Good) (hne : s.q.get h ≠ []) : h ≠ kInvalidHandle := by
  rintro rfl
  have hlast := hg.last kInvalidHandle
  rw [hg.valid] at hlast
  exact hne (suffix_nil.mp hlast)

/-- The controller that `front` serves loses its first messages, and no other controller loses any. -/
structure Loses (n : Nat) (h : Handle) (s s' : Serving) : Prop where
  gone : s'.gone h = s.gone h + n
  others : ∀ k ≠ h, s'.q.get k = s.q.get k
  count : s'.q.totalMsgCount + n = s.q.totalMsgCount

theorem Good.loses (hg : s.Good) {n : Nat} (hle : n ≤ (s.q.get h).length) {q : RptMsgQ} {fronted : Bool}
    (hget : ∀ k, q.get k = if k = h then (s.q.get h).drop n else s.q.get k)
    (hcount : q.totalMsgCount = s.q.totalMsgCount - n) : Loses n h s ⟨q, fronted, s.pushed⟩ := by
  have hlen := (hg.last h).length_le
  refine ⟨?_, fun k hk => (hget k).trans (if_neg hk), ?_⟩
  · unfold gone
    dsimp only
    rw [hget, if_pos rfl, length_drop]
    omega
  · have hsum : (s.q.get h).length ≤ s.q.totalMsgCount := by
      rw [hg.wf.count]
      by_cases hne : s.q.get h = []
      · simp [hne]
      · exact le_sum_of_mem (mem_map_of_mem (mem_of_get hne))
    show q.totalMsgCount + n = _
    omega

theorem Good.removes (hg : s.Good) {s₁ s₂ : Serving} (hf : s.q.front = some (h, m)) (hs₁ : s.step .front = some s₁) :
    (s₁.step .popFront = some s₂ → Loses 1 h s s₂) ∧
    (s₁.step .removeCurrentController = some s₂ → Loses (s.q.get h).length h s s₂) := by
  obtain ⟨ms, hget⟩ := front_some hg.wf hf
  have hne : s.q.get h ≠ [] := by simp [hget]
  simp only [step, hf] at hs₁
  split_ifs at hs₁
  cases hs₁
  refine ⟨fun hs₂ => ?_, fun hs₂ => ?_⟩ <;> cases hs₂
  · have hh := hg.valid_of_get hne
    refine hg.loses (length_pos_iff.mpr hne) (fun k => get_popFront hh) ?_
    unfold RptMsgQ.popFront
    rw [if_pos hh]
  · refine hg.loses le_rfl (fun k => ?_) rfl
    rw [drop_length]
    exact get_remove

theorem Good.step (hg : s.Good) {a : Call} (hs : s.step a = some s') :
    s'.Good ∧ ∀ h, s.gone h ≤ s'.gone h ∧ s.pushed h <+: s'.pushed h := by
  have hsame : ∀ q fronted, (∀ h, q.get h <:+ s.q.get h) → ∀ h,
      s.gone h ≤ (⟨q, fronted, s.pushed⟩ : Serving).gone h ∧ s.pushed h <+: s.pushed h := by
    intro q fronted hq h
    have := (hq h).length_le
    refine ⟨?_, prefix_rfl⟩
    unfold gone
    dsimp only
    omega
  cases a with
  | pushBack c v =>
    simp only [Serving.step] at hs
    split_ifs at hs with hvalid
    cases hs
    refine ⟨⟨hg.wf.pushBack, fun h => ?_, (if_neg (Ne.symm hvalid)).trans hg.valid, nofun⟩, fun h => ?_⟩
    · dsimp only
      rw [get_pushBack hg.wf]
      split
      · rename_i hc
        obtain ⟨t, ht⟩ := hg.last c
        exact ⟨t, by rw [hc, ← ht, append_assoc]⟩
      · exact hg.last h
    · unfold gone
      dsimp only
      rw [get_pushBack hg.wf]
      split
      · rename_i hc
        have := (hg.last c).length_le
        refine ⟨?_, prefix_append ..⟩
        rw [hc, length_append, length_append]
        omega
      · exact ⟨le_rfl, prefix_rfl⟩
  | front =>
    simp only [Serving.step] at hs
    split_ifs at hs
    obtain ⟨⟨h, m⟩, hf, rfl⟩ := Option.map_eq_some_iff.mp hs
    obtain ⟨ms, hget⟩ := front_some hg.wf hf
    refine ⟨⟨⟨hg.wf.sorted, hg.wf.count⟩, hg.last, hg.valid, fun _ => ?_⟩, hsame _ _ fun _ => suffix_rfl⟩
    show s.q.get h ≠ []
    rw [hget]
    exact nofun
  | popFront =>
    simp only [Serving.step] at hs
    split_ifs at hs with hfr
    cases hs
    have hsuffix : ∀ h, s.q.popFront.get h <:+ s.q.get h := by
      intro h
      by_cases hc : s.q.currentController = kInvalidHandle
      · have heq : s.q.popFront = s.q := if_neg (not_not.mpr hc)
        simp only [heq, suffix_rfl]
      · rw [get_popFront hc]
        split
        · rename_i hh
          rw [hh]
          exact drop_suffix ..
        · exact suffix_rfl
    exact ⟨⟨hg.wf.popFront (hg.current hfr), fun h => (hsuffix h).trans (hg.last h), hg.valid, nofun⟩,
      hsame _ _ hsuffix⟩
  | removeCurrentController =>
    simp only [Serving.step] at hs
    split_ifs at hs with hfr
    cases hs
    have hsuffix : ∀ h, s.q.removeCurrentController.get h <:+ s.q.get h := by
      intro h
      rw [get_remove]
      split
      · exact nil_suffix
      · exact suffix_rfl
    exact ⟨⟨hg.wf.remove, fun h => (hsuffix h).trans (hg.last h), hg.valid, nofun⟩, hsame _ _ hsuffix⟩
  | clear =>
    cases hs
    exact ⟨⟨wf_init, fun _ => nil_suffix, hg.valid, nofun⟩, hsame _ _ fun _ => nil_suffix⟩

theorem good_of_runs (hr : Runs step anyStep init s) : s.Good :=
  hr.keeps (I := Good) (fun _ _ _ _ hg hs => (hg.step hs).1) ⟨wf_init, fun _ => nil_suffix, rfl, nofun⟩

end Serving

/-! ### Going around -/

/-- Going around from behind `c`, `r` comes before `k`. -/
def Before (c r k : Int) : Prop := (c < r ∧ (r < k ∨ k ≤ c)) ∨ (r ≤ c ∧ k ≤ c ∧ r < k)

/-- Going around from `h`, `c` comes before `k`. -/
def Arc (h k c : Int) : Prop := (h < k ∧ h ≤ c ∧ c < k) ∨ (k < h ∧ (h ≤ c ∨ c < k))

theorem Arc.next {h k c r : Int} (ha : Arc h k c) (hb : Before c r k) : Arc h k r ∧ r ≠ h := by
  unfold Arc Before at *
  omega

theorem rotated_before {q : RptMsgQ} (hq : q.WF) :
    q.rotated.Pairwise fun a b => Before q.currentController a.1 b.1 := by
  unfold rotated
  refine pairwise_append.mpr ⟨?_, ?_, fun a ha b hb => ?_⟩
  · refine List.Pairwise.imp_of_mem (fun {a b} ha _ hab => ?_) (hq.sorted.sublist filter_sublist)
    have := (mem_filter.mp ha).2
    exact .inl ⟨by simpa using this, .inl hab⟩
  · refine List.Pairwise.imp_of_mem (fun {a b} ha hb hab => ?_) (hq.sorted.sublist filter_sublist)
    have := (mem_filter.mp ha).2
    have := (mem_filter.mp hb).2
    simp only [decide_eq_true_eq] at *
    exact .inr ⟨‹_›, ‹_›, hab⟩
  · have := (mem_filter.mp ha).2
    have := (mem_filter.mp hb).2
    simp only [decide_eq_true_eq] at *
    exact .inl ⟨‹_›, .inr ‹_›⟩

theorem frontLoop_first {S : Handle × List MessageRef → Handle × List MessageRef → Prop}
    {l : List (Handle × List MessageRef)} {current : Handle} (hl : l.Pairwise S)
    (hf : frontLoop current l = some (h, m)) {e : Handle × List MessageRef} (he : e ∈ l)
    (hne : e.2 ≠ []) : e.1 = h ∨ ∃ ms, S (h, ms) e := by
  induction l with
  | nil => cases he
  | cons e' l ih =>
    obtain ⟨k, ms⟩ := e'
    rw [pairwise_cons] at hl
    cases ms with
    | nil =>
      simp only [frontLoop] at hf
      split at hf
      · cases hf
      · rcases mem_cons.mp he with rfl | he
        · exact absurd rfl hne
        · exact ih hl.2 hf he
    | cons m' ms =>
      simp only [frontLoop, Option.some.injEq, Prod.mk.injEq] at hf
      obtain ⟨rfl, rfl⟩ := hf
      rcases mem_cons.mp he with rfl | he
      · exact .inl rfl
      · exact .inr ⟨_, hl.1 e he⟩

theorem front_before {q : RptMsgQ} (hq : q.WF) (hf : q.front = some (r, m)) (hk : q.get k ≠ [])
    (hne : r ≠ k) : Before q.currentController r k := by
  rcases frontLoop_first (rotated_before hq) hf (mem_rotated.mpr (mem_of_get hk)) hk with heq | ⟨_, hb⟩
  · exact absurd heq.symm hne
  · exact hb

namespace Serving

variable {s s₁ s₂ : Serving}

/-- A call while controller `k` waits and is not served. -/
def Waits (k : Handle) (a : Call) (s : Serving) : Prop :=
  s.q.get k ≠ [] ∧ ∀ m, a = .front → s.q.front ≠ some (k, m)

theorem arc_of_runs (hg : s₁.Good) (h₁ : s₁.q.currentController = h) (hne : k ≠ h)
    (hr : Runs step (Waits k) s₁ s₂) : s₂.Good ∧ (s₂.q.get k ≠ [] → Arc h k s₂.q.currentController) := by
  refine hr.keeps (I := fun s => s.Good ∧ (s.q.get k ≠ [] → Arc h k s.q.currentController)) ?_
    ⟨hg, fun _ => ?_⟩
  · rintro a t t' ⟨hk, hnot⟩ ⟨hgt, harc⟩ hs
    refine ⟨(hgt.step hs).1, fun hk' => ?_⟩
    cases a with
    | front =>
      simp only [step] at hs
      split_ifs at hs
      obtain ⟨⟨r, m⟩, hf, rfl⟩ := Option.map_eq_some_iff.mp hs
      have hrk : r ≠ k := by
        rintro rfl
        exact hnot m rfl hf
      exact ((harc hk).next (front_before hgt.wf hf hk hrk)).1
    | pushBack c v =>
      simp only [step] at hs
      split_ifs at hs
      cases hs
      exact harc hk
    | popFront =>
      simp only [step] at hs
      split_ifs at hs
      cases hs
      have hcur : t.q.popFront.currentController = t.q.currentController := by
        unfold RptMsgQ.popFront
        split <;> rfl
      show Arc h k t.q.popFront.currentController
      rw [hcur]
      exact harc hk
    | removeCurrentController =>
      simp only [step] at hs
      split_ifs at hs
      cases hs
      exact harc hk
    | clear =>
      cases hs
      exact absurd rfl hk'
  · rw [h₁]
    exact (Int.lt_or_gt_of_ne hne.symm).imp (fun hlt => ⟨hlt, Int.le_refl h, hlt⟩)
      fun hlt => ⟨hlt, .inl (Int.le_refl h)⟩

/-- **The requests for a device are scheduled fairly.**  After any calls: the count is the number of
messages in all queues; `front` of a queue that is not empty gives the head of the messages of a controller,
which is the next one of those that it pushed, and which `pop_front` takes away, as `RemoveCurrentController` does
with all messages of this controller and `clear` with all there are; and a controller that was served is not
served again as long as another one waits and was not served in between. -/
theorem requests_scheduled_fairly (hr : Runs step anyStep init s) :
    s.q.totalMsgCount = (s.q.rptMsgs.map (·.2.length)).sum ∧ (s.q.empty = false → s.q.front.isSome = true) ∧
    (∀ h m, s.q.front = some (h, m) → (∃ ms, s.q.get h = m :: ms) ∧ (s.pushed h)[s.gone h]? = some m) ∧
    (∀ a s', step a s = some s' → ∀ h, s.gone h ≤ s'.gone h ∧ s.pushed h <+: s'.pushed h) ∧
    (∀ h m s₁ s₂, s.q.front = some (h, m) → step .front s = some s₁ →
      (step .popFront s₁ = some s₂ → Loses 1 h s s₂) ∧
      (step .removeCurrentController s₁ = some s₂ → Loses (s.q.get h).length h s s₂)) ∧
    (∀ s', step .clear s = some s' → s'.q.totalMsgCount = 0 ∧ ∀ h, s'.q.get h = []) ∧
    ∀ h m s₁ k s₂, s.q.front = some (h, m) → step .front s = some s₁ → k ≠ h →
      Runs step (Waits k) s₁ s₂ → s₂.q.get k ≠ [] → ∀ m', s₂.q.front ≠ some (h, m') := by
  have hg := good_of_runs hr
  refine ⟨hg.wf.count, fun hne => ?_, fun h m hf => ?_, fun a s' hs => (hg.step hs).2,
    fun h m s₁ s₂ hf hs₁ => hg.removes hf hs₁, fun s' hs => ?_, ?_⟩
  · have hsome : ¬ ∀ h, s.q.get h = [] := fun hall => by
      rw [(empty_iff hg.wf).mpr hall] at hne
      cases hne
    obtain ⟨h, hh⟩ := not_forall.mp hsome
    exact front_isSome hg.wf hh
  · obtain ⟨ms, hget⟩ := front_some hg.wf hf
    refine ⟨⟨ms, hget⟩, ?_⟩
    obtain ⟨t, ht⟩ := hg.last h
    have hlen : s.gone h = t.length := by
      unfold gone
      rw [← ht, length_append]
      omega
    rw [hlen, ← ht, hget]
    simp
  · cases hs
    exact ⟨rfl, fun _ => rfl⟩
  · intro h m s₁ k s₂ hf hs₁ hne hrun hk m' hf'
    have hcur : s₁.q.currentController = h := by
      simp only [step] at hs₁
      split_ifs at hs₁
      rw [hf] at hs₁
      cases hs₁
      rfl
    obtain ⟨hg₂, harc⟩ := arc_of_runs (hg.step hs₁).1 hcur hne hrun
    exact ((harc hk).next (front_before hg₂.wf hf' hk hne.symm)).2 rfl

/-- Two controllers with two messages each are served in turn. -/
theorem requests_scheduled_fairly_twice :
    ∃ s m, Runs step anyStep init s ∧ s.q.front = some (2, m) ∧ s.q.get 1 = [m] ∧
      s.q.totalMsgCount = (s.q.rptMsgs.map (·.2.length)).sum ∧
      ∃ s₁ s₂, step .front s = some s₁ ∧ step .popFront s₁ = some s₂ ∧ Loses 1 2 s s₂ := by
  let m : MessageRef := ⟨0, (default, .null 0), 0⟩
  have hr : Runs step anyStep init _ := Runs.of_play
    [.pushBack 1 m, .pushBack 1 m, .pushBack 2 m, .pushBack 2 m, .front, .popFront] rfl
  obtain ⟨hcount, -, -, -, hloses, -⟩ := requests_scheduled_fairly hr
  exact ⟨_, m, hr, rfl, rfl, hcount, _, _, rfl, rfl, (hloses 2 m _ _ rfl rfl).1 rfl⟩

end Serving

end RDMnet.RptMsgQ
