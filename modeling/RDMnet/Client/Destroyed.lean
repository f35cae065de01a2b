import RDMnet.Client.Machine

/-!
# The end of a client

After `rc_client_unregister` a client waits for its connections and for its LLRP target, each of which
reports once that it has been destroyed.  Whatever the order of the reports, the last of them, and no
other, finds that nothing is left.
-/

namespace RDMnet

open List

variable {β ι : Type}

inductive Completion
  | connection (i : Nat)
  | target
  deriving DecidableEq

namespace RCClient

def Awaits (c : RCClient β ι) : Completion → Prop
  | .connection i => ∃ sc, c.scopes[i]? = some sc ∧ sc.handle.isSome = true
  | .target => c.targetValid = true

def complete (c : RCClient β ι) : Completion → RCClient β ι
  | .connection i => c.conncbDestroyed i
  | .target => c.llrpcbTargetDestroyed

def note (c : RCClient β ι) : Completion → RCClient β ι
  | .connection i => c.modifyScope i (·.ended)
  | .target => { c with targetValid := false }

variable {c : RCClient β ι} {e e' : Completion}

theorem complete_eq (c : RCClient β ι) (e : Completion) : c.complete e = (c.note e).tellIfDestroyed := by
  cases e <;> rfl

theorem note_awaits : (c.note e).Awaits e' ↔ c.Awaits e' ∧ e' ≠ e := by
  cases e with
  | target => cases e' <;> simp [note, Awaits]
  | connection i =>
    cases e' with
    | target => simp [note, Awaits, modifyScope]
    | connection j =>
      by_cases hij : i = j
      · subst hij
        simp [note, Awaits, modifyScope, RCClientScope.ended]
      · simp [note, Awaits, modifyScope, hij, Ne.symm hij]

theorem note_frame (c : RCClient β ι) (e : Completion) :
    (c.note e).markedForDestruction = c.markedForDestruction ∧ (c.note e).destroyedCalls = c.destroyedCalls ∧
      (c.note e).scopes.length = c.scopes.length := by
  cases e <;> simp [note, modifyScope]

theorem nothing_left_iff :
    (c.targetValid = false ∧ c.scopes.all (·.handle.isNone) = true) ↔ ∀ e, ¬ c.Awaits e := by
  constructor
  · rintro ⟨ht, hs⟩ e he
    cases e with
    | target => exact absurd (ht.symm.trans he) (by decide)
    | connection i =>
      obtain ⟨sc, hsc, hh⟩ := he
      have := all_eq_true.mp hs sc (mem_of_getElem? hsc)
      rw [Option.isNone_iff_eq_none] at this
      rw [this] at hh
      cases hh
  · intro h
    refine ⟨by simpa [Awaits] using h .target, all_eq_true.mpr fun sc hsc => ?_⟩
    obtain ⟨i, hi⟩ := getElem?_of_mem hsc
    have hno : ¬ sc.handle.isSome = true := fun hh => h (.connection i) ⟨sc, hi, hh⟩
    simpa using hno

theorem clientFullyDestroyed_waits (he : c.Awaits e) : c.clientFullyDestroyed = (c, false) := by
  have hleft : ¬ (c.targetValid = false ∧ c.scopes.all (·.handle.isNone) = true) :=
    fun h => nothing_left_iff.mp h e he
  unfold clientFullyDestroyed
  split
  · rfl
  · rename_i ht
    rw [if_neg (fun hs => hleft ⟨Bool.eq_false_iff.mpr ht, hs⟩)]

theorem clientFullyDestroyed_done (h : ∀ e, ¬ c.Awaits e) :
    c.clientFullyDestroyed = ({ c with scopes := [] }, true) := by
  obtain ⟨ht, hs⟩ := nothing_left_iff.mpr h
  unfold clientFullyDestroyed
  rw [if_neg (by simp [ht]), if_pos hs]

theorem complete_waits (h : (c.note e).Awaits e') : c.complete e = c.note e := by
  rw [complete_eq, tellIfDestroyed]
  split
  · rw [clientFullyDestroyed_waits h]
    rfl
  · rfl

theorem complete_last (hm : c.markedForDestruction = true) (h : ∀ e', ¬ (c.note e).Awaits e') :
    ∃ handles, (c.complete e).destroyedCalls = c.destroyedCalls ++ [(handles, false)] ∧
      handles.length = c.scopes.length ∧ ∀ handle ∈ handles, handle = none := by
  obtain ⟨hmarked, hcalls, hlen⟩ := note_frame c e
  obtain ⟨ht, hs⟩ := nothing_left_iff.mpr h
  refine ⟨(c.note e).scopes.map (·.handle), ?_, by simp [hlen], ?_⟩
  · rw [complete_eq, tellIfDestroyed, if_pos (hmarked.trans hm), clientFullyDestroyed_done h]
    simp [hcalls, ht]
  · intro handle hh
    obtain ⟨sc, hsc, rfl⟩ := mem_map.mp hh
    simpa using all_eq_true.mp hs sc hsc

theorem complete_others (hm : c.markedForDestruction = true) (first rest : List Completion)
    (hnodup : (first ++ rest).Nodup) (horder : ∀ e, e ∈ first ++ rest ↔ c.Awaits e) (hrest : rest ≠ []) :
    (first.foldl complete c).markedForDestruction = true ∧
      (first.foldl complete c).destroyedCalls = c.destroyedCalls ∧
      (first.foldl complete c).scopes.length = c.scopes.length ∧
      ∀ e, e ∈ rest ↔ (first.foldl complete c).Awaits e := by
  induction first generalizing c with
  | nil => exact ⟨hm, rfl, rfl, horder⟩
  | cons e first ih =>
    rw [cons_append, nodup_cons] at hnodup
    obtain ⟨hmarked, hcalls, hlen⟩ := note_frame c e
    have hnext : ∀ e', e' ∈ first ++ rest ↔ (c.note e).Awaits e' := by
      intro e'
      rw [note_awaits, ← horder e', cons_append, mem_cons]
      constructor
      · exact fun h => ⟨.inr h, fun heq => hnodup.1 (heq ▸ h)⟩
      · exact fun h => h.1.resolve_left h.2
    obtain ⟨e', he'⟩ := exists_mem_of_ne_nil rest hrest
    rw [foldl_cons, complete_waits ((hnext e').mp (mem_append_right _ he'))]
    obtain ⟨h1, h2, h3, h4⟩ := ih (hmarked.trans hm) hnodup.2 hnext
    exact ⟨h1, h2.trans hcalls, h3.trans hlen, h4⟩

theorem rcClientUnregister_awaits (reason : UInt16) (c : RCClient β ι) :
    ∃ c' : RCClient β ι, c.rcClientUnregister reason = c'.clientFullyDestroyed ∧
      c'.markedForDestruction = true ∧ c'.destroyedCalls = c.destroyedCalls ∧
      c'.scopes.length = c.scopes.length ∧ ∀ e, c'.Awaits e ↔ c.Awaits e := by
  refine ⟨_, rfl, rfl, rfl, by simp, fun e => ?_⟩
  cases e with
  | target => rfl
  | connection i =>
    simp only [Awaits, getElem?_map, Option.map_eq_some_iff]
    constructor
    · rintro ⟨-, ⟨sc, hsc, rfl⟩, hh⟩
      refine ⟨sc, hsc, ?_⟩
      split at hh
      · assumption
      · exact hh
    · rintro ⟨sc, hsc, hh⟩
      exact ⟨_, ⟨sc, hsc, rfl⟩, by rw [if_pos hh]; exact hh⟩

/-- **A client is destroyed exactly once, and not too early.**  If nothing is left at once,
`rc_client_unregister` says so, and no report comes.  If not, the application is told with the last
report, whatever their order, and not before. -/
theorem destroyed_once (c : RCClient β ι) (reason : UInt16) (order : List Completion)
    (hnodup : order.Nodup) (horder : ∀ e, e ∈ order ↔ c.Awaits e) :
    ((c.rcClientUnregister reason).2 = true ∧ order = [] ∧
        (c.rcClientUnregister reason).1.destroyedCalls = c.destroyedCalls ∧
        c.targetValid = false ∧ ∀ sc ∈ c.scopes, sc.handle = none) ∨
      ((c.rcClientUnregister reason).2 = false ∧ (∀ first rest, order = first ++ rest → rest ≠ [] →
          (first.foldl complete (c.rcClientUnregister reason).1).destroyedCalls = c.destroyedCalls) ∧
        ∃ handles, (order.foldl complete (c.rcClientUnregister reason).1).destroyedCalls =
              c.destroyedCalls ++ [(handles, false)] ∧
            handles.length = c.scopes.length ∧ ∀ handle ∈ handles, handle = none) := by
  obtain ⟨c', hun, hm, hcalls, hlen, hawaits⟩ := rcClientUnregister_awaits reason c
  rw [hun]
  rcases eq_nil_or_concat order with rfl | ⟨first, e, rfl⟩
  · -- no report is to come
    have hnone : ∀ e, ¬ c.Awaits e := fun e he => (nomatch (horder e).mpr he)
    obtain ⟨ht, hs⟩ := nothing_left_iff.mpr hnone
    rw [clientFullyDestroyed_done fun e he => hnone e ((hawaits e).mp he)]
    exact .inl ⟨rfl, rfl, hcalls, ht, fun sc hsc => by simpa using all_eq_true.mp hs sc hsc⟩
  · have horder' : ∀ e', e' ∈ first ++ [e] ↔ c'.Awaits e' := fun e' => by
      rw [hawaits, ← horder e', concat_eq_append]
    rw [concat_eq_append] at hnodup ⊢
    rw [clientFullyDestroyed_waits ((horder' e).mp (by simp))]
    refine .inr ⟨rfl, ?_, ?_⟩
    · intro first' rest hsplit hrest
      rw [hsplit] at hnodup horder'
      exact (complete_others hm first' rest hnodup horder' hrest).2.1.trans hcalls
    · obtain ⟨hm', hcalls', hlen', hlast⟩ := complete_others hm first [e] hnodup horder' (by simp)
      rw [foldl_append, foldl_cons, foldl_nil]
      obtain ⟨handles, h1, h2, h3⟩ := complete_last (e := e) hm' fun e' he' => by
        obtain ⟨ha, hne⟩ := note_awaits.mp he'
        exact hne (mem_singleton.mp ((hlast e').mpr ha))
      exact ⟨handles, h1.trans (by rw [hcalls', hcalls]), h2.trans (hlen'.trans hlen), h3⟩

def sampleClient : RCClient RecvBuf (List RecvRes) :=
  ⟨sampleClientData, false, [sampleScope sampleDynamic, sampleScope sampleStatic], true, []⟩

theorem sampleClient_awaits (e : Completion) :
    e ∈ [.connection 1, .target, .connection 0] ↔ sampleClient.Awaits e := by
  rcases e with (_ | _ | i) | _
  · exact ⟨fun _ => ⟨_, rfl, by decide +kernel⟩, fun _ => by decide⟩
  · exact ⟨fun _ => ⟨_, rfl, by decide +kernel⟩, fun _ => by decide⟩
  · simp [Awaits, sampleClient]
  · exact ⟨fun _ => rfl, fun _ => by decide⟩

/-- Its target reports between the two connections. -/
theorem destroyed_once_two : (sampleClient.rcClientUnregister 0).2 = false ∧
      ∃ handles, ([.connection 1, .target, .connection 0].foldl complete
        (sampleClient.rcClientUnregister 0).1).destroyedCalls = [(handles, false)] ∧
        handles.length = 2 ∧ ∀ handle ∈ handles, handle = none := by
  rcases destroyed_once sampleClient 0 [.connection 1, .target, .connection 0] (by decide)
    sampleClient_awaits with ⟨-, h, -⟩ | ⟨hret, -, hlast⟩
  · cases h
  · exact ⟨hret, hlast⟩

end RCClient

end RDMnet
