import RDMnet.Lib.Runs

/-!
# Starting and stopping the library

`rc_init` initialises the modules of the library one after another, and deinitialises those that were
initialised if one fails; `rc_deinit` deinitialises them all (`core/common.c`).  Later modules use earlier ones,
so they are to be deinitialised in the reverse order.

* `rc_deinit` does so.  `rc_init` goes through the modules from the first to the last also when it cleans up.
* `rc_init` creates the lock of the library before it looks whether the library is initialised, and a failure
  leaves it there: the next call creates another one in its place, which is the only one that `rc_deinit`
  destroys.
-/

namespace RDMnet

open List

/-- The modules, by their functions `init_fn` (or `netint_init_fn`) and `deinit_fn`. -/
inductive CoreModule
  | etcpalDependencies | mcast | conn | disc | llrp | llrpTarget | llrpManager | client
  deriving DecidableEq, Repr

/-- `modules`, with and without `RDMNET_DYNAMIC_MEM` -/
def coreModules (dynamicMem : Bool) : List CoreModule :=
  [.etcpalDependencies, .mcast, .conn, .disc, .llrp, .llrpTarget] ++
    (if dynamicMem then [.llrpManager] else []) ++ [.client]

inductive CoreErr
  | sys | already
  /-- What the function of a module has returned. -/
  | module (m : CoreModule)
  deriving DecidableEq, Repr

/-- What a call does to the modules and the lock, in order. -/
inductive CoreEffect
  | createLock | destroyLock
  | init (m : CoreModule)
  | deinit (m : CoreModule)
  deriving DecidableEq, Repr

structure CoreState where
  /-- `core_state.initted` -/
  initted : Bool
  /-- The modules with `initted` set. -/
  modulesInitted : List CoreModule
  /-- `rdmnet_log_params` is not `NULL`. -/
  logging : Bool
  /-- Ghost data: the locks that were created and not destroyed. -/
  locks : Nat
  deriving DecidableEq, Repr

/-- The first loop of `rc_init`: the modules it has initialised, and the one that fails. -/
def initModules (results : CoreModule → Bool) : List CoreModule → List CoreModule × Option CoreModule
  | [] => ([], none)
  | m :: ms =>
    if results m then
      let rest := initModules results ms
      (m :: rest.1, rest.2)
    else ([], some m)

/-- `rc_init`.  `created` is the result of `etcpal_rwlock_create`, `results` are those of the modules, and
`log` tells whether there are log parameters. -/
def rcInit (dynamicMem created log : Bool) (results : CoreModule → Bool) (s : CoreState) :
    CoreState × Option CoreErr × List CoreEffect :=
  if created = false then (s, some .sys, [])
  else if s.initted then ({ s with locks := s.locks + 1 }, some .already, [.createLock])
  else
    let (done, failed) := initModules results (coreModules dynamicMem)
    let modulesInitted := s.modulesInitted ++ done
    match failed with
    | none =>
      (⟨true, modulesInitted, s.logging || log, s.locks + 1⟩, none, .createLock :: done.map .init)
    | some m =>
      -- from the first module to the last
      let undone := (coreModules dynamicMem).filter (· ∈ modulesInitted)
      (⟨false, modulesInitted.filter (· ∉ undone), false, s.locks + 1⟩, some (.module m),
        .createLock :: (done.map .init ++ undone.map .deinit))

/-- `rc_deinit`; `locked` is the result of `rdmnet_writelock`. -/
def rcDeinit (dynamicMem locked : Bool) (s : CoreState) : CoreState × List CoreEffect :=
  if s.initted = false then (s, [])
  else if locked then
    (⟨false, s.modulesInitted.filter (· ∉ coreModules dynamicMem), false, s.locks - 1⟩,
      (coreModules dynamicMem).reverse.map .deinit ++ [.destroyLock])
  else ({ s with initted := false, locks := s.locks - 1 }, [.destroyLock])

/-! ### Runs -/

inductive CoreCall
  | init (created log : Bool) (results : CoreModule → Bool)
  | deinit (locked : Bool)

def coreStep (dynamicMem : Bool) : CoreCall → CoreState → Option CoreState
  | .init created log results, s => some (rcInit dynamicMem created log results s).1
  | .deinit locked, s => some (rcDeinit dynamicMem locked s).1

/-- The lock can be taken. -/
def Locks : CoreCall → CoreState → Prop
  | .deinit locked, _ => locked = true
  | _, _ => True

/-- The library before the first call. -/
def CoreState.start : CoreState := ⟨false, [], false, 0⟩

/-- All modules are initialised, or none. -/
structure CoreState.Sound (dynamicMem : Bool) (s : CoreState) : Prop where
  up : s.initted = true → s.modulesInitted = coreModules dynamicMem
  down : s.initted = false → s.modulesInitted = [] ∧ s.logging = false

/-! What `rc_init` is to do. -/

variable {dynamicMem created log : Bool} {results : CoreModule → Bool} {s : CoreState}

theorem initModules_none {ms : List CoreModule} (h : (initModules results ms).2 = none) :
    (initModules results ms).1 = ms ∧ ∀ m ∈ ms, results m = true := by
  fun_induction initModules results ms with
  | case1 => exact ⟨rfl, fun m hm => by cases hm⟩
  | case2 m ms hm rest ih =>
    obtain ⟨hdone, hall⟩ := ih h
    exact ⟨congrArg (m :: ·) hdone, forall_mem_cons.mpr ⟨hm, hall⟩⟩
  | case3 => cases h

/-- The modules up to the one that fails. -/
theorem initModules_some {ms : List CoreModule} {m : CoreModule} (h : (initModules results ms).2 = some m) :
    ∃ rest, ms = (initModules results ms).1 ++ m :: rest ∧ results m = false := by
  fun_induction initModules results ms with
  | case1 => cases h
  | case2 m' ms hm rest ih =>
    obtain ⟨tail, hms, hres⟩ := ih h
    exact ⟨tail, congrArg (m' :: ·) hms, hres⟩
  | case3 m' ms hm =>
    cases h
    exact ⟨ms, rfl, by simpa using hm⟩

theorem coreModules_nodup (dynamicMem : Bool) : (coreModules dynamicMem).Nodup := by
  cases dynamicMem <;> decide

/-- The modules that were initialised are deinitialised, in the same order. -/
theorem rcInit_failed {m : CoreModule} (hs : s.Sound dynamicMem) (hdown : s.initted = false)
    (hfailed : (initModules results (coreModules dynamicMem)).2 = some m) :
    rcInit dynamicMem true log results s = (⟨false, [], false, s.locks + 1⟩, some (.module m),
      .createLock :: ((initModules results (coreModules dynamicMem)).1.map .init ++
        (initModules results (coreModules dynamicMem)).1.map .deinit)) := by
  obtain ⟨rest, hms, -⟩ := initModules_some hfailed
  have hundone : (coreModules dynamicMem).filter (· ∈ (initModules results (coreModules dynamicMem)).1) =
      (initModules results (coreModules dynamicMem)).1 := by
    have hnodup := coreModules_nodup dynamicMem
    generalize (initModules results (coreModules dynamicMem)).1 = done at hms ⊢
    rw [hms] at hnodup ⊢
    have hrest : ∀ x ∈ m :: rest, x ∉ done := fun x hx hd => (nodup_append.mp hnodup).2.2 x hd x hx rfl
    rw [filter_append, filter_eq_self.mpr (by simp), filter_eq_nil_iff.mpr (by simpa using hrest),
      append_nil]
  rcases hinit : initModules results (coreModules dynamicMem) with ⟨done, failed⟩
  rw [hinit] at hundone hfailed
  dsimp only at hfailed
  subst hfailed
  unfold rcInit
  rw [if_neg (by decide), if_neg (by simp [hdown]), hinit, (hs.down hdown).1]
  simp only [nil_append, hundone]
  rw [filter_eq_nil_iff.mpr (by simp)]

theorem rcInit_done (hs : s.Sound dynamicMem) (hdown : s.initted = false)
    (hall : (initModules results (coreModules dynamicMem)).2 = none) :
    rcInit dynamicMem true log results s = (⟨true, coreModules dynamicMem, log, s.locks + 1⟩, none,
      .createLock :: (coreModules dynamicMem).map .init) := by
  obtain ⟨hdone, -⟩ := initModules_none hall
  rcases hinit : initModules results (coreModules dynamicMem) with ⟨done, failed⟩
  rw [hinit] at hdone hall
  dsimp only at hdone hall
  subst hdone hall
  unfold rcInit
  rw [if_neg (by decide), if_neg (by simp [hdown]), hinit, (hs.down hdown).1, (hs.down hdown).2]
  rfl

/-- **One call**. -/
theorem sound_step {call : CoreCall} {s' : CoreState} (hlocks : Locks call s) (hs : s.Sound dynamicMem)
    (hstep : coreStep dynamicMem call s = some s') : s'.Sound dynamicMem := by
  cases call with
  | init created log results =>
    cases hstep
    cases created with
    | false => exact hs
    | true =>
      cases hinit : s.initted with
      | true =>
        rw [rcInit, if_neg (by decide), if_pos hinit]
        exact ⟨hs.up, hs.down⟩
      | false =>
        rcases hres : (initModules results (coreModules dynamicMem)).2 with _ | m
        · rw [rcInit_done hs hinit hres]
          exact ⟨fun _ => rfl, fun h => (by cases h)⟩
        · rw [rcInit_failed hs hinit hres]
          exact ⟨fun h => (by cases h), fun _ => ⟨rfl, rfl⟩⟩
  | deinit locked =>
    cases hstep
    cases (hlocks : locked = true)
    unfold rcDeinit
    split_ifs with hdown
    · exact hs
    · rw [hs.up (by simpa using hdown)]
      exact ⟨fun h => (by cases h), fun _ => ⟨filter_eq_nil_iff.mpr (by simp), rfl⟩⟩
    · contradiction

theorem sound_of_runs (hr : Runs (coreStep dynamicMem) Locks .start s) : s.Sound dynamicMem :=
  hr.keeps (fun _ _ _ => sound_step) ⟨fun h => (by cases h), fun _ => ⟨rfl, rfl⟩⟩

end RDMnet
