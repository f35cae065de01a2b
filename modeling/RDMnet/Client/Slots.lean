import RDMnet.Client.Machine
import RDMnet.Device.Answers

/-!
# The scope slots of a controller

GET COMPONENT_SCOPE skips the entries that are not in use.  Its slot is a 16-bit number: if entry 65535 is skipped,
the entry in front of the array is read.
-/

namespace RDMnet

open List

section Slots

variable {β ι : Type}

/-- An entry that `handle_component_scope` skips. -/
def RCClientScope.skipped (scope : RCClientScope β ι) : Bool :=
  scope.handle.isNone || scope.state = .markedForDestruction

def componentScopeData (slot : UInt16) (scope : RCClientScope β ι) : Bytes :=
  packU16 slot ++ (scope.id.padded ++
    match scope.staticBrokerAddr.ip with
    | some (.v4 ip) => [1] ++ packU32 ip ++ replicate 16 0 ++ packU16 scope.staticBrokerAddr.port
    | some (.v6 ip) => [2] ++ replicate 4 0 ++ ip ++ packU16 scope.staticBrokerAddr.port
    | none => replicate 23 0)

/-- The loop of `handle_component_scope` over the entries from a slot on; no response if it leaves the array. -/
def findScope (scopeSlot : UInt16) : List (RCClientScope β ι) → Option SyncRdmResponse
  | [] => some (.sendNack .dataOutOfRange)
  | scope :: rest =>
    if scope.skipped then
      if scopeSlot = 65535 then none else findScope (scopeSlot + 1) rest
    else some (.sendAck (componentScopeData scopeSlot scope))

/-- `handle_component_scope`; there are `RDMNET_MAX_SCOPES_PER_CLIENT` entries in the static build. -/
def handleComponentScope (getBuf : Nat → Bool) (scopes : List (RCClientScope β ι)) (data : Bytes) :
    Option SyncRdmResponse :=
  if data.length < 2 then some (.sendNack .formatError)
  else if !getBuf 88 then some (.sendNack .hardwareFault)
  else if u16At data 0 = 0 ∨ scopes.length < (u16At data 0).toNat then some (.sendNack .dataOutOfRange)
  else findScope (u16At data 0) (scopes.drop ((u16At data 0).toNat - 1))

/-- The answers to at most `n` requests, from a slot on and then always for the slot behind the last answer, if
the last one is a NACK; there is a buffer. -/
def askScopes (scopes : List (RCClientScope β ι)) : (n : Nat) → UInt16 → Option (List Bytes)
  | 0, _ => none
  | n + 1, slot =>
    match handleComponentScope (fun _ => true) scopes (packU16 slot) with
    | some (.sendAck data) => (askScopes scopes n (u16At data 0 + 1)).map (data :: ·)
    | some (.sendNack _) => some []
    | _ => none

def scopeAnswers (slot : UInt16) : List (RCClientScope β ι) → List Bytes
  | [] => []
  | scope :: rest =>
    if scope.skipped then scopeAnswers (slot + 1) rest
    else componentScopeData slot scope :: scopeAnswers (slot + 1) rest

variable {pre rest : List (RCClientScope β ι)} {slot : UInt16}

theorem toNat_slot_succ (h : slot.toNat < 65535) : (slot + 1).toNat = slot.toNat + 1 := by
  rw [UInt16.toNat_add, UInt16.toNat_one]
  exact Nat.mod_eq_of_lt (by omega)

theorem handleComponentScope_slot (rest : List (RCClientScope β ι)) (hslot : slot.toNat = pre.length + 1) :
    handleComponentScope (fun _ => true) (pre ++ rest) (packU16 slot) = findScope slot rest := by
  have hread : u16At (packU16 slot) 0 = slot := by simpa using u16At_pack slot []
  have hne : slot ≠ 0 := fun h => by simp [h] at hslot
  rw [handleComponentScope, if_neg (by simp [packU16]), if_neg (by decide), hread, hslot]
  cases rest with
  | nil => exact if_pos (.inr (by simp))
  | cons scope rest => rw [if_neg (by simp [hne]), Nat.add_sub_cancel, drop_left]

theorem handleComponentScope_zero (scopes : List (RCClientScope β ι)) :
    handleComponentScope (fun _ => true) scopes (packU16 0) = some (.sendNack .dataOutOfRange) := by
  rw [handleComponentScope, if_neg (by decide), if_neg (by decide), if_pos (.inl (by decide))]

/-- The entries from the one behind `before` on can all be asked for: there are no more than slots, or the one with
the last slot is in use and ends the dialogue. -/
def Enumerable (before : Nat) (scopes : List (RCClientScope β ι)) : Prop :=
  before + scopes.length < 65535 ∨ ∃ front last behind, scopes = front ++ last :: behind ∧
    before + front.length = 65534 ∧ last.skipped = false ∧ ∀ scope ∈ behind, scope.skipped = true

theorem enumerable_cons {before : Nat} (scope : RCClientScope β ι) (h : before < 65534) :
    Enumerable before (scope :: rest) ↔ Enumerable (before + 1) rest := by
  refine or_congr (by rw [length_cons]; omega) ⟨?_, ?_⟩
  · rintro ⟨front, last, behind, heq, hlen, h'⟩
    cases front with
    | nil => exact absurd hlen (by simpa using h.ne)
    | cons first front =>
      rw [cons_append, cons.injEq] at heq
      exact ⟨front, last, behind, heq.2, by rw [length_cons] at hlen; omega, h'⟩
  · rintro ⟨front, last, behind, rfl, hlen, h'⟩
    exact ⟨scope :: front, last, behind, rfl, by rw [length_cons]; omega, h'⟩

theorem enumerable_last {scope : RCClientScope β ι} :
    Enumerable 65534 (scope :: rest) ↔ scope.skipped = false ∧ ∀ scope ∈ rest, scope.skipped = true := by
  constructor
  · rintro (h | ⟨front, last, behind, heq, hlen, h⟩)
    · rw [length_cons] at h
      omega
    · obtain rfl : front = [] := length_eq_zero_iff.mp (by omega)
      cases heq
      exact h
  · exact fun h => .inr ⟨[], scope, rest, rfl, rfl, h⟩

theorem scopeAnswers_eq_nil (slot : UInt16) :
    scopeAnswers slot rest = [] ↔ ∀ scope ∈ rest, scope.skipped = true := by
  induction rest generalizing slot with
  | nil => simp [scopeAnswers]
  | cons scope rest ih =>
    rw [scopeAnswers]
    by_cases h : scope.skipped = true <;> simp [h, ih]

theorem askScopes_from (hslot : slot.toNat = pre.length + 1) :
    askScopes (pre ++ rest) ((scopeAnswers slot rest).length + 1) slot = some (scopeAnswers slot rest) ↔
      Enumerable pre.length rest := by
  induction rest generalizing pre slot with
  | nil =>
    have hlt := slot.toNat_lt
    rw [askScopes, handleComponentScope_slot [] hslot]
    exact iff_of_true rfl (.inl (show pre.length < 65535 by omega))
  | cons scope rest ih =>
    have hask := handleComponentScope_slot (scope :: rest) hslot
    rw [findScope] at hask
    rw [scopeAnswers]
    by_cases hlast : slot = 65535
    · -- the slot behind the last one is 0, and a request for it is refused
      have hpre : pre.length = 65534 := by simpa [hlast] using hslot.symm
      subst hlast
      rw [if_pos rfl] at hask
      rw [hpre, enumerable_last]
      by_cases h : scope.skipped = true
      · rw [if_pos h] at hask
        rw [if_pos h, askScopes, hask]
        simp [h]
      · rw [if_neg h] at hask ⊢
        have hzero := handleComponentScope_zero (pre ++ scope :: rest)
        rw [length_cons, askScopes, hask]
        simpa [componentScopeData, u16At_pack, askScopes, hzero, h] using scopeAnswers_eq_nil 0
    · have hlt : slot.toNat < 65535 := by
        have hne : slot.toNat ≠ 65535 := fun h => hlast (UInt16.toNat.inj h)
        have := slot.toNat_lt
        omega
      have hslot' : (slot + 1).toNat = (pre ++ [scope]).length + 1 := by
        rw [toNat_slot_succ hlt, hslot, length_append, length_singleton]
      have hrest := ih hslot'
      have hnext := handleComponentScope_slot rest hslot'
      rw [append_assoc, singleton_append] at hrest hnext
      rw [length_append, length_singleton, ← enumerable_cons scope (by omega)] at hrest
      rw [← hrest]
      by_cases h : scope.skipped = true
      · rw [if_pos h, if_neg hlast, ← hnext] at hask
        rw [if_pos h, askScopes, askScopes, hask]
      · rw [if_neg h] at hask ⊢
        rw [length_cons, askScopes, hask]
        simp [componentScopeData, u16At_pack]

end Slots

/-- The dialogue from slot 1 on gets exactly the scopes in use, in the order of their slots, with one more
request, exactly if there are fewer than 65535 entries, or entry 65535 is in use and none behind it is. -/
theorem component_scope_enumerates_iff {β ι : Type} (scopes : List (RCClientScope β ι)) :
    askScopes scopes ((scopeAnswers 1 scopes).length + 1) 1 = some (scopeAnswers 1 scopes) ↔
      Enumerable 0 scopes :=
  @askScopes_from _ _ [] scopes 1 rfl

theorem findScope_wraps {β ι : Type} {scope : RCClientScope β ι} (h : scope.skipped = true) {slot : UInt16}
    {n : Nat} (hslot : slot.toNat + n = 65535) : findScope slot (replicate (n + 1) scope) = none := by
  induction n generalizing slot with
  | zero => rw [replicate_one, findScope, if_pos h, if_pos (UInt16.toNat.inj hslot)]
  | succ n ih =>
    have hmax : slot ≠ 65535 := fun h => by simp [h] at hslot
    rw [replicate_succ, findScope, if_pos h, if_neg hmax]
    exact ih (by rw [toNat_slot_succ (by omega)]; omega)

/-- There are 65535 entries that are not in use: the entry in front of the array is read. -/
theorem component_scope_wraps :
    handleComponentScope (fun _ => true) (replicate 65535 { sampleScope sampleStatic with handle := none })
      (packU16 1) = none :=
  (@handleComponentScope_slot _ _ [] 1 (replicate 65535 _) rfl).trans
    (@findScope_wraps _ _ { sampleScope sampleStatic with handle := none } rfl 1 65534 rfl)

end RDMnet
