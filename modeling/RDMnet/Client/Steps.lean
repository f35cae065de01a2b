import RDMnet.Client.Machine
import RDMnet.Lib.Runs

/-!
# The steps of a client, scope by scope

What a step of the client does to one of its scopes: a call of the application changes it by one of three
functions, the background thread by a step of its own, and a new scope takes the place of an entry
without a handle.  `RCClient.scope_keeps` is the rule for invariants of a scope that follows.
-/

namespace RDMnet

open List

variable {β ι : Type} {env : ClientEnv β ι}

inductive ScopeCall
  | remove (disconnectReason : UInt16)
  | change (config : ScopeConfig) (disconnectReason : UInt16) (monitor : Except EtcPalErr Nat)
  | changeSearchDomain (disconnectReason : UInt16) (monitor : Except EtcPalErr Nat)

def RCClientScope.call (env : ClientEnv β ι) (data : ClientData) (k : ScopeCall)
    (sc : RCClientScope β ι) : RCClientScope β ι :=
  match k with
  | .remove reason => sc.remove reason
  | .change config reason monitor => (sc.change env data config reason monitor).1
  | .changeSearchDomain reason monitor => sc.changeSearchDomain reason monitor

namespace RCClient

variable {c c' : RCClient β ι}

/-- What an action, if it is a call of the application, does to scope `i`. -/
def calls (a : ClientAction β ι) (c : RCClient β ι) (i : Nat) : Option ScopeCall :=
  match a with
  | .removeScope handle reason => if c.getScope handle = some i then some (.remove reason) else none
  | .changeScope handle config reason monitor =>
    if c.getScope handle = some i then some (.change config reason monitor) else none
  | .changeSearchDomain domain reason monitor =>
    if domain = c.data.searchDomain.chars then none
    else some (.changeSearchDomain reason (monitor i))
  | .unregister reason =>
    if (c.scopes[i]?.bind (·.handle)).isSome then some (.remove reason) else none
  | _ => none

/-- What a step does to scope `i`. -/
inductive ScopeMoves (env : ClientEnv β ι) (a : ClientAction β ι) (c : RCClient β ι) (i : Nat) :
    RCClientScope β ι → Prop
  | stays (sc : RCClientScope β ι) (hsc : c.scopes[i]? = some sc) (hcall : c.calls a i = none) :
      ScopeMoves env a c i sc
  | called (sc : RCClientScope β ι) (k : ScopeCall) (data : ClientData)
      (hsc : c.scopes[i]? = some sc) (hcall : c.calls a i = some k) :
      ScopeMoves env a c i (sc.call env data k)
  | moves (sc sc' : RCClientScope β ι) (e : ScopeEvent ι) (ha : a = .event i e)
      (hsc : c.scopes[i]? = some sc) (hs : sc.step env c.data e = some sc') :
      ScopeMoves env a c i sc'
  | ends (sc sc' : RCClientScope β ι) (e : ScopeEvent ι) (ha : a = .event i e)
      (hsc : c.scopes[i]? = some sc) (hs : sc.step env c.data e = some sc')
      (hend : sc'.conn.listed = .removed) : ScopeMoves env a c i sc'.ended
  | entry (r : AddScopeRes β) : ScopeMoves env a c i (newEntry env r)
  | added (sc : RCClientScope β ι) (config : ScopeConfig) (handle : Nat) (r : AddScopeRes β)
      (hfree : sc.handle = none) :
      ScopeMoves env a c i (newScope env c.data config handle r sc).1

theorem getElem?_modifyScope (i j : Nat) (f : RCClientScope β ι → RCClientScope β ι) (c : RCClient β ι) :
    (c.modifyScope i f).scopes[j]? = if i = j then c.scopes[j]?.map f else c.scopes[j]? := by
  simp only [modifyScope, getElem?_modify]
  split <;> simp

variable {i : Nat} {sc : RCClientScope β ι}

theorem getScope_handle {handle : Nat} (hi : c.getScope handle = some i)
    (hsc : c.scopes[i]? = some sc) : sc.handle = some handle := by
  obtain ⟨hlt, hh, -⟩ := findIdx?_eq_some_iff_getElem.mp hi
  rw [getElem?_eq_getElem hlt] at hsc
  cases hsc
  simpa using hh

theorem newScope_fresh (data : ClientData) (config : ScopeConfig) (handle : Nat) (r : AddScopeRes β)
    (sc : RCClientScope β ι) : (newScope env data config handle r sc).1.identity = (some handle, none, []) ∧
      (newScope env data config handle r sc).1.telling = none := by
  let started (b : Bool) (sc : RCClientScope β ι) := (if b then sc.startScopeDiscovery r.monitor
    else sc.startConnectionForScope env data sc.staticBrokerAddr none).1
  have hstart : ∀ b sc, (started b sc).identity = sc.identity ∧ (started b sc).telling = sc.telling := by
    intro b sc
    dsimp only [started]
    split
    · exact ⟨RCClientScope.startScopeDiscovery_identity _ sc, by cases r.monitor <;> rfl⟩
    · exact ⟨rfl, rfl⟩
  have hmark : ∀ x : RCClientScope β ι × EtcPalErr,
      (if x.2 = .ok then x.1 else x.1.markScopeForDestruction none).identity = x.1.identity ∧
        (if x.2 = .ok then x.1 else x.1.markScopeForDestruction none).telling = x.1.telling := by
    intro x
    split <;> exact ⟨rfl, rfl⟩
  exact ⟨(hmark _).1.trans ((hstart _ _).1.trans rfl), (hmark _).2.trans ((hstart _ _).2.trans rfl)⟩

theorem clientFullyDestroyed_scopes
    (h : c.clientFullyDestroyed.1.scopes[i]? = some sc) : c.scopes[i]? = some sc := by
  unfold clientFullyDestroyed at h
  split at h
  · exact h
  · split at h
    · simp at h
    · exact h

theorem tellIfDestroyed_scopes (h : c.tellIfDestroyed.scopes[i]? = some sc) : c.scopes[i]? = some sc := by
  unfold tellIfDestroyed at h
  split at h
  · dsimp only at h
    split at h <;> exact clientFullyDestroyed_scopes h
  · exact h

variable {j : Nat}

/-- An entry without a handle is one of the client's scopes, or a new one behind them. -/
theorem getUnusedScopeEntry_spec {r : AddScopeRes β} (h : getUnusedScopeEntry env r c = some (j, c')) :
    c'.data = c.data ∧ (∀ sc, c'.scopes[j]? = some sc → sc.handle = none) ∧
      ∀ (i : Nat) sc, c'.scopes[i]? = some sc → c.scopes[i]? = some sc ∨ sc = newEntry env r := by
  unfold getUnusedScopeEntry at h
  split at h
  · rename_i k hk
    cases h
    refine ⟨rfl, fun sc hsc => ?_, fun i sc hsc => .inl hsc⟩
    obtain ⟨hlt, hnone, -⟩ := findIdx?_eq_some_iff_getElem.mp hk
    rw [getElem?_eq_getElem hlt] at hsc
    cases hsc
    simpa using hnone
  · split at h
    · cases h
      refine ⟨rfl, fun sc hsc => ?_, fun i sc hsc => ?_⟩
      · rw [getElem?_concat_length] at hsc
        cases hsc
        rfl
      · rw [getElem?_append] at hsc
        split at hsc
        · exact .inl hsc
        · exact .inr (mem_singleton.mp (mem_of_getElem? hsc))
    · cases h

variable {sc' : RCClientScope β ι}

theorem addScope_moves {config : ScopeConfig} {r : AddScopeRes β}
    (h : (c.rcClientAddScope env config r).1.scopes[i]? = some sc') :
    ScopeMoves env (.addScope config r) c i sc' := by
  unfold rcClientAddScope at h
  split at h
  · exact .stays sc' h rfl
  · split at h
    · exact .stays sc' h rfl
    · rename_i handle _
      split at h
      · exact .stays sc' h rfl
      · rename_i j c₁ hentry
        obtain ⟨hdata, hfree, hold⟩ := getUnusedScopeEntry_spec hentry
        have hkept : ∀ sc, c₁.scopes[i]? = some sc → ScopeMoves env (.addScope config r) c i sc := by
          intro sc hsc
          rcases hold i sc hsc with hsc | rfl
          · exact .stays sc hsc rfl
          · exact .entry r
        split at h
        · exact hkept sc' h
        · dsimp only at h
          rw [getElem?_modifyScope] at h
          split at h
          · rename_i hij
            obtain ⟨sc, hsc, rfl⟩ := Option.map_eq_some_iff.mp h
            rw [hdata]
            exact .added sc config handle r (hfree sc (hij ▸ hsc))
          · exact hkept sc' h

theorem getScope_modify {handle : Nat} {f : RCClientScope β ι → RCClientScope β ι}
    (hj : c.getScope handle = some j) (h : (c.modifyScope j f).scopes[i]? = some sc') :
    (c.getScope handle = some i ∧ ∃ sc, c.scopes[i]? = some sc ∧ sc' = f sc) ∨
      (c.getScope handle ≠ some i ∧ c.scopes[i]? = some sc') := by
  rw [getElem?_modifyScope] at h
  split at h
  · rename_i hij
    obtain ⟨sc, hsc, rfl⟩ := Option.map_eq_some_iff.mp h
    exact .inl ⟨hij ▸ hj, sc, hsc, rfl⟩
  · rename_i hij
    exact .inr ⟨fun hi => hij (Option.some.inj (hj.symm.trans hi)), h⟩

theorem eventStep_moves {e : ScopeEvent ι} (hs : c.eventStep env j e = some c') (h : c'.scopes[i]? = some sc') :
    ScopeMoves env (.event j e) c i sc' := by
  unfold eventStep at hs
  split at hs
  · split at hs
    · cases hs
    · rename_i sc hsc
      split at hs
      · cases hs
      · rename_i sc₁ hstep
        have hset : ∀ t, (c.scopes.set j sc₁)[i]? = some t →
            (i = j ∧ t = sc₁) ∨ (i ≠ j ∧ c.scopes[i]? = some t) := by
          intro t ht
          rw [getElem?_set] at ht
          split at ht
          · rename_i hij
            subst hij
            split at ht <;> cases ht
            exact .inl ⟨rfl, rfl⟩
          · exact .inr ⟨fun hij => absurd hij.symm ‹_›, ht⟩
        dsimp only at hs
        split at hs <;> cases hs
        · -- the connection was destroyed
          rename_i hend
          have h' := tellIfDestroyed_scopes h
          rw [getElem?_modifyScope] at h'
          split at h'
          · rename_i hij
            subst hij
            obtain ⟨t, ht, rfl⟩ := Option.map_eq_some_iff.mp h'
            rcases hset t ht with ⟨-, rfl⟩ | ⟨hne, -⟩
            · exact .ends sc t e rfl hsc hstep hend.2
            · exact absurd rfl hne
          · rcases hset sc' h' with ⟨hij, -⟩ | ⟨-, ht⟩
            · exact absurd hij.symm ‹_›
            · exact .stays sc' ht rfl
        · rcases hset sc' h with ⟨rfl, rfl⟩ | ⟨-, ht⟩
          · exact .moves sc sc' e rfl hsc hstep
          · exact .stays sc' ht rfl
  · cases hs

/-- **Every step does to a scope what `ScopeMoves` says.** -/
theorem step_scope {a : ClientAction β ι}
    (hs : c.step env a = some c') (h : c'.scopes[i]? = some sc') : ScopeMoves env a c i sc' := by
  cases a with
  | addScope config r =>
    simp only [step] at hs
    split at hs <;> cases hs
    exact addScope_moves h
  | removeScope handle reason =>
    cases hs
    unfold rcClientRemoveScope at h
    split at h
    · rename_i hnone
      exact .stays sc' h (by simp [calls, hnone])
    · rename_i j hj
      rcases getScope_modify hj h with ⟨hi, sc, hsc, rfl⟩ | ⟨hi, hsc⟩
      · exact .called sc (.remove reason) c.data hsc (by simp [calls, hi])
      · exact .stays sc' hsc (by simp [calls, hi])
  | changeScope handle config reason monitor =>
    cases hs
    unfold rcClientChangeScope at h
    split at h
    · rename_i hnone
      exact .stays sc' h (by simp [calls, hnone])
    · rename_i j hj
      rcases getScope_modify hj h with ⟨hi, sc, hsc, rfl⟩ | ⟨hi, hsc⟩
      · exact .called sc (.change config reason monitor) c.data hsc (by simp [calls, hi])
      · exact .stays sc' hsc (by simp [calls, hi])
  | changeSearchDomain domain reason monitor =>
    cases hs
    unfold rcClientChangeSearchDomain at h
    split at h
    · rename_i hsame
      exact .stays sc' h (by simp [calls, hsame])
    · rename_i hnew
      dsimp only at h
      rw [getElem?_mapIdx] at h
      obtain ⟨sc, hsc, rfl⟩ := Option.map_eq_some_iff.mp h
      exact .called sc (.changeSearchDomain reason (monitor i)) c.data hsc (by simp [calls, hnew])
  | unregister reason =>
    cases hs
    have h' := clientFullyDestroyed_scopes h
    rw [getElem?_map] at h'
    obtain ⟨sc, hsc, rfl⟩ := Option.map_eq_some_iff.mp h'
    split
    · rename_i hh
      exact .called sc (.remove reason) c.data hsc (by simp [calls, hsc, hh])
    · rename_i hh
      exact .stays sc hsc (by simp [calls, hsc, hh])
  | event j e => exact eventStep_moves hs h
  | targetDestroyed =>
    simp only [step] at hs
    split at hs <;> cases hs
    have h' : ({ c with targetValid := false } : RCClient β ι).scopes[i]? = some sc' :=
      tellIfDestroyed_scopes h
    exact .stays sc' h' rfl

/-- **The rule for invariants of a scope**: what holds of new entries and new scopes and is kept by every
call and every step of the thread holds of the scope in every state that is reached. -/
theorem scope_keeps {ok : ClientAction β ι → RCClient β ι → Prop} {P : RCClientScope β ι → Prop}
    (i : Nat) (hentry : ∀ r, P (newEntry env r)) (hadded : ∀ data config handle r sc, sc.handle = none →
      P (newScope env data config handle r sc).1)
    (hcall : ∀ a c sc k data, ok a c → c.scopes[i]? = some sc → c.calls a i = some k → P sc →
      P (sc.call env data k)) (hevent : ∀ e c sc sc', ok (.event i e) c → c.scopes[i]? = some sc → P sc →
      sc.step env c.data e = some sc' → P sc') (hends : ∀ sc, P sc → sc.conn.listed = .removed → P sc.ended)
    (hr : Runs (step env) ok c c') (h0 : ∀ sc, c.scopes[i]? = some sc → P sc) :
    ∀ sc, c'.scopes[i]? = some sc → P sc := by
  refine hr.keeps (I := fun c => ∀ sc, c.scopes[i]? = some sc → P sc) ?_ h0
  intro a t t' hok hP hs sc' hsc'
  cases step_scope hs hsc' with
  | stays _ hsc _ => exact hP _ hsc
  | called sc k data hsc hk => exact hcall a t sc k data hok hsc hk (hP sc hsc)
  | moves sc _ e ha hsc hstep =>
    subst ha
    exact hevent e t sc _ hok hsc (hP sc hsc) hstep
  | ends sc sc₁ e ha hsc hstep hend =>
    subst ha
    exact hends sc₁ (hevent e t sc sc₁ hok hsc (hP sc hsc) hstep) hend
  | entry r => exact hentry r
  | added sc config handle r hfree => exact hadded _ config handle r sc hfree

end RCClient

end RDMnet
