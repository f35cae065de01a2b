import RDMnet.Disc.Assertions

/-!
# The data of TXT items

* `binary_atoi` counts ones for the first digit it reads, tens for the second and so on.  What it returns is
  the number whose digits are read backwards, which is the right one only for a palindrome.
* `registered_broker_new` stores an item where it was in the configuration and counts the items it has stored.
  The first entries are the stored items only if no item without a key comes before one with a key.
-/

namespace RDMnet

open List

/-! ### Numbers -/

def leadingDigits (v : Bytes) : List Nat :=
  (v.takeWhile fun c => 0x30 ≤ c ∧ c ≤ 0x39).map fun c => c.toNat - 0x30

/-- The number that a string starts with: its first digit is the most significant one. -/
def decimalValue (v : Bytes) : Nat := Nat.ofDigits 10 (leadingDigits v).reverse

theorem leadingDigits_lt {v : Bytes} {n : Nat} (h : n ∈ leadingDigits v) : n < 10 := by
  obtain ⟨c, hc, rfl⟩ := mem_map.mp h
  have hdigit := mem_takeWhile_imp hc
  have hle : c.toNat ≤ 0x39 := UInt8.le_iff_toNat_le.mp (of_decide_eq_true hdigit).2
  omega

theorem binaryAtoiLoop_eq (v : Bytes) (placeMultiplier res : Int) :
    binaryAtoiLoop v placeMultiplier res = res + placeMultiplier * (Nat.ofDigits 10 (leadingDigits v) : Nat) := by
  induction v generalizing placeMultiplier res with
  | nil => simp [binaryAtoiLoop, leadingDigits]
  | cons c rest ih =>
    unfold binaryAtoiLoop leadingDigits
    split_ifs with hc
    · have hle : 0x30 ≤ c.toNat := UInt8.le_iff_toNat_le.mp hc.1
      rw [ih, takeWhile_cons_of_pos (by simpa using hc), map_cons, Nat.ofDigits_cons, leadingDigits]
      push_cast [hle]
      ring
    · rw [takeWhile_cons_of_neg (by simpa using hc)]
      simp

/-- A string of digits is read as the number it stands for, where `binary_atoi` is used: as an `E133Vers` that
is stored unless it is zero, and as a `TxtVers` that has to be 1. -/
def ReadsNumber (v : Bytes) : Prop :=
  ∀ m : Mem, (binaryAtoi (some v) m).1 = decimalValue v ∧
    (∀ p, (parseE133VersItem ⟨ascii "E133Vers", some v⟩ p m).1.db.e133Version =
      if decimalValue v = 0 then p.db.e133Version else decimalValue v) ∧
    ((parseTxtVers ⟨ascii "TxtVers", some v⟩ m).1 = true ↔ decimalValue v = 1)

/-- Numbers of at most nine characters are read as decimal numbers exactly if their digits are a palindrome. -/
theorem readsNumber_iff {v : Bytes} (hlen : v.length ≤ 9) :
    ReadsNumber v ↔ (leadingDigits v).reverse = leadingDigits v := by
  have hatoi : ∀ m, (binaryAtoi (some v) m).1 = (Nat.ofDigits 10 (leadingDigits v) : Nat) := by
    intro m
    rw [binaryAtoi_some, if_neg (not_lt.mpr hlen), binaryAtoiLoop_eq, zero_add, one_mul]
  constructor
  · intro h
    have hval : Nat.ofDigits 10 (leadingDigits v) = decimalValue v := by
      have := (h ⟨.plenty, false⟩).1
      rw [hatoi] at this
      exact_mod_cast this
    exact (Nat.ofDigits_inj_of_len_eq (by decide) (length_reverse ..).symm (fun _ => leadingDigits_lt)
      (fun _ hn => leadingDigits_lt (mem_reverse.mp hn)) hval).symm
  · intro h m
    have hval : decimalValue v = Nat.ofDigits 10 (leadingDigits v) := congrArg _ h
    refine ⟨by rw [hatoi, hval], fun p => ?_, ?_⟩
    · simp only [parseE133VersItem, Checked.bind_apply, Checked.pure_apply, hatoi, hval, parseValueItem]
      by_cases hz : Nat.ofDigits 10 (leadingDigits v) = 0
      · simp [hz]
      · simp only [ne_eq, Nat.cast_eq_zero, hz, not_false_eq_true, if_true, if_false]
        split_ifs with hsame
        · exact hsame
        · rfl
    · simp [parseTxtVers, hatoi, hval]

theorem readsNumber_palindrome : ReadsNumber (ascii "121") := (readsNumber_iff (by decide)).mpr (by decide)

/-- Version 12 is read as 21; a TXT record of version 10 is accepted, and one of version 01 is not. -/
theorem numbers_reversed : ¬ ReadsNumber (ascii "12") ∧ (binaryAtoi (some (ascii "12")) ⟨.plenty, false⟩).1 = 21 ∧
    decimalValue (ascii "12") = 12 ∧
    (parseTxtVers ⟨ascii "TxtVers", some (ascii "10")⟩ ⟨.plenty, false⟩).1 = true ∧
    (parseTxtVers ⟨ascii "TxtVers", some (ascii "01")⟩ ⟨.plenty, false⟩).1 = false := by
  have hread : (binaryAtoi (some (ascii "12")) ⟨.plenty, false⟩).1 = 21 := by decide
  refine ⟨fun h => ?_, hread, by decide, by decide, by decide⟩
  have := (h ⟨.plenty, false⟩).1
  rw [hread] at this
  exact absurd this (by decide)

/-! ### Items of a registered broker -/

/-- `RdmnetDnsTxtRecordItem`: the pointers may be null, and `value` has at least `value_len` bytes. -/
structure RdmnetDnsTxtRecordItem where
  key : Option Bytes
  value : Option Bytes
  valueLen : UInt8

def RdmnetDnsTxtRecordItem.configured (item : RdmnetDnsTxtRecordItem) (key : Bytes) : DnsTxtRecordItemInternal :=
  ⟨key, (item.value.getD []).take item.valueLen.toNat, item.valueLen.toNat⟩

/-- The characters of a key that `additional_txt_items[i].key` has room for. -/
def storedKey (key : Bytes) : Bytes := (safeStrncpy 256 (by decide) key).chars

/-- The loop of `registered_broker_new` over the configured items, from the one at `i` on. -/
def storeTxtItems : List RdmnetDnsTxtRecordItem → (i : Nat) → List DnsTxtRecordItemInternal × Nat →
    List DnsTxtRecordItemInternal × Nat
  | [], _, stored => stored
  | item :: rest, i, stored =>
    match item.key with
    | none => storeTxtItems rest (i + 1) stored
    | some key => storeTxtItems rest (i + 1) (stored.1.set i (item.configured (storedKey key)), stored.2 + 1)

/-- `additional_txt_items` and `num_additional_txt_items` of what `registered_broker_new` returns, if its
allocations succeed; the array comes from `calloc`. -/
def registeredBrokerNewTxtItems (config : List RdmnetDnsTxtRecordItem) : List DnsTxtRecordItemInternal × Nat :=
  storeTxtItems config 0 (replicate config.length ⟨[], [], 0⟩, 0)

def keyedItems (config : List RdmnetDnsTxtRecordItem) : List DnsTxtRecordItemInternal :=
  config.filterMap fun item => item.key.map item.configured

def StoresKeyed (config : List RdmnetDnsTxtRecordItem) : Prop :=
  (registeredBrokerNewTxtItems config).1.take (registeredBrokerNewTxtItems config).2 = keyedItems config

def RdmnetDnsTxtRecordItem.slot (item : RdmnetDnsTxtRecordItem) : DnsTxtRecordItemInternal :=
  item.key.elim ⟨[], [], 0⟩ fun key => item.configured (storedKey key)

theorem storeTxtItems_eq (config : List RdmnetDnsTxtRecordItem) (front : List DnsTxtRecordItemInternal) (n : Nat) :
    storeTxtItems config front.length (front ++ replicate config.length ⟨[], [], 0⟩, n) =
      (front ++ config.map (·.slot), n + (keyedItems config).length) := by
  induction config generalizing front n with
  | nil => simp [storeTxtItems, keyedItems]
  | cons item rest ih =>
    rw [storeTxtItems]
    cases hkey : item.key with
    | none =>
      have := ih (front ++ [⟨[], [], 0⟩]) n
      simpa [replicate_succ, keyedItems, RdmnetDnsTxtRecordItem.slot, hkey] using this
    | some key =>
      have := ih (front ++ [item.configured (storedKey key)]) (n + 1)
      simpa [replicate_succ, keyedItems, RdmnetDnsTxtRecordItem.slot, hkey, Nat.add_assoc, Nat.add_comm 1]
        using this

theorem storesKeyed_iff_take {config : List RdmnetDnsTxtRecordItem} :
    StoresKeyed config ↔ (config.map (·.slot)).take (keyedItems config).length = keyedItems config := by
  have h := storeTxtItems_eq config [] 0
  rw [nil_append, nil_append, length_nil, Nat.zero_add] at h
  unfold StoresKeyed registeredBrokerNewTxtItems
  rw [h]

/-- All items with a key are in front of those without one, and there is room for their keys. -/
def KeyedFirst (config : List RdmnetDnsTxtRecordItem) : Prop :=
  ∃ front back, config = front ++ back ∧
    (∀ item ∈ front, ∃ key, item.key = some key ∧ storedKey key = key) ∧ ∀ item ∈ back, item.key = none

variable {config : List RdmnetDnsTxtRecordItem}

theorem KeyedFirst.stores (h : KeyedFirst config) : StoresKeyed config := by
  obtain ⟨front, back, rfl, hfront, hback⟩ := h
  have hkeyed : keyedItems front = front.map (·.slot) := by
    rw [keyedItems, ← filterMap_eq_map]
    refine filterMap_congr fun item hitem => ?_
    obtain ⟨key, hkey, hfits⟩ := hfront item hitem
    simp [RdmnetDnsTxtRecordItem.slot, hkey, hfits]
  have hnone : keyedItems back = [] := by simpa [keyedItems] using hback
  have hall : keyedItems (front ++ back) = front.map (·.slot) := by
    rw [← hkeyed, ← append_nil (keyedItems front), ← hnone]
    exact filterMap_append
  rw [storesKeyed_iff_take, hall, map_append]
  exact take_left

/-- Behind an item without a key, the array would have to begin with an empty entry. -/
theorem keyless_of_take {item : RdmnetDnsTxtRecordItem} {rest : List RdmnetDnsTxtRecordItem}
    (hne : ∀ item ∈ rest, item.key ≠ some []) (hkey : item.key = none)
    (h : ((item :: rest).map (·.slot)).take (keyedItems rest).length = keyedItems rest) :
    ∀ item ∈ rest, item.key = none := by
  cases hk : keyedItems rest with
  | nil => simpa [keyedItems] using hk
  | cons first more =>
    rw [hk, map_cons, length_cons, take_succ_cons, cons.injEq, RdmnetDnsTxtRecordItem.slot, hkey] at h
    obtain ⟨item', hmem, hfirst⟩ := mem_filterMap.mp (hk ▸ mem_cons_self : first ∈ keyedItems rest)
    obtain ⟨key, hkey', rfl⟩ := Option.map_eq_some_iff.mp hfirst
    have hempty : key = [] := (congrArg DnsTxtRecordItemInternal.key h.1).symm
    exact absurd (hempty ▸ hkey') (hne item' hmem)

theorem StoresKeyed.keyedFirst (hne : ∀ item ∈ config, item.key ≠ some []) (h : StoresKeyed config) :
    KeyedFirst config := by
  rw [storesKeyed_iff_take] at h
  induction config with
  | nil => exact ⟨[], [], rfl, by simp, by simp⟩
  | cons item rest ih =>
    obtain ⟨-, hne⟩ := forall_mem_cons.mp hne
    cases hkey : item.key with
    | none =>
      have hkeyed : keyedItems (item :: rest) = keyedItems rest := by simp [keyedItems, hkey]
      rw [hkeyed] at h
      exact ⟨[], item :: rest, rfl, by simp, by simpa [hkey] using keyless_of_take hne hkey h⟩
    | some key =>
      have hkeyed : keyedItems (item :: rest) = item.configured key :: keyedItems rest := by
        simp [keyedItems, hkey]
      have hslot : item.slot = item.configured key ↔ storedKey key = key := by
        simp [RdmnetDnsTxtRecordItem.slot, RdmnetDnsTxtRecordItem.configured, hkey]
      rw [hkeyed, map_cons, length_cons, take_succ_cons, cons.injEq, hslot] at h
      obtain ⟨front, back, rfl, hfront, hback⟩ := ih hne h.2
      exact ⟨item :: front, back, rfl, forall_mem_cons.mpr ⟨⟨key, hkey, h.1⟩, hfront⟩, hback⟩

/-- **The first entries of the array are the items that have a key** if all items with a key are in front of those
without one, and there is room for their keys; and only then, if no key is empty. -/
theorem txt_items_stored_iff (config : List RdmnetDnsTxtRecordItem) : (KeyedFirst config → StoresKeyed config) ∧
    ((∀ item ∈ config, item.key ≠ some []) → (StoresKeyed config ↔ KeyedFirst config)) :=
  ⟨fun h => h.stores, fun hne => ⟨fun h => h.keyedFirst hne, fun h => h.stores⟩⟩

theorem txt_items_stored_last : StoresKeyed [⟨some [0x61], none, 0⟩, ⟨none, none, 0⟩] :=
  (txt_items_stored_iff _).1 ⟨[⟨some [0x61], none, 0⟩], [⟨none, none, 0⟩], rfl, by simp; rfl, by simp⟩

/-- An item without a key is in front: its empty place is counted, and the item with a key is not. -/
theorem txt_items_gap : registeredBrokerNewTxtItems [⟨none, none, 0⟩, ⟨some [0x61], none, 0⟩] =
    ([⟨[], [], 0⟩, ⟨[0x61], [], 0⟩], 1) ∧ ¬ StoresKeyed [⟨none, none, 0⟩, ⟨some [0x61], none, 0⟩] := by
  unfold StoresKeyed
  decide

end RDMnet
