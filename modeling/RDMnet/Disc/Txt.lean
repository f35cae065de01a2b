import RDMnet.Disc.Broker

/-!
# TXT records

`lwmdns_txt_record_to_broker_info`.  The strings of a record are `key=value` or only `key`; the first
with a value has to be the version of the record, but strings without a value are taken before it.
-/

namespace RDMnet

/-- What the discovery takes from the libraries under it. -/
structure DiscEnv where
  /-- `etcpal_string_to_uuid` -/
  stringToUuid : Bytes → Option Uuid
  /-- `rdm_string_to_uid` -/
  rdmStringToUid : Bytes → Option RdmUid

/-- `TxtRecordItemRef`; the pointer to the value is null without a value. -/
structure TxtRecordItemRef where
  key : Bytes
  value : Option Bytes
  deriving DecidableEq

namespace TxtRecordItemRef

/-- The value, of length `value_len`. -/
def bytes (item : TxtRecordItemRef) : Bytes := item.value.getD []

end TxtRecordItemRef

/-- `txt_keys_found_mask_t` -/
structure TxtKeysFound where
  scope : Bool
  vers : Bool
  cid : Bool
  uid : Bool
  model : Bool
  manuf : Bool
  deriving DecidableEq

/-- `ALL_TXT_KEYS_FOUND` -/
def TxtKeysFound.all (mask : TxtKeysFound) : Bool :=
  mask.scope && mask.vers && mask.cid && mask.uid && mask.model && mask.manuf

/-- `txt_record_parse_result_t` -/
inductive TxtRecordParseResult
  | okDataChanged | okNoDataChanged | error
  deriving DecidableEq, Repr

/-- The variables of `lwmdns_txt_record_to_broker_info`, and the entry. -/
structure TxtParse where
  db : DiscoveredBroker
  keysFound : TxtKeysFound
  dataChanged : Bool
  parsedTxtVers : Bool
  deriving DecidableEq

/-! ### Items -/

/-- The loop of `binary_atoi`: the first digit counts ones, the second tens. -/
def binaryAtoiLoop : Bytes → (placeMultiplier res : Int) → Int
  | [], _, res => res
  | c :: rest, placeMultiplier, res =>
    if 0x30 ≤ c ∧ c ≤ 0x39 then
      binaryAtoiLoop rest (placeMultiplier * 10) (res + (c.toNat - 0x30) * placeMultiplier)
    else res

/-- `binary_atoi` -/
def binaryAtoi (asciiVal : Option Bytes) : Checked Int := do
  if !(← assertVerify asciiVal.isSome) then return 0
  let digits := asciiVal.getD []
  if 9 < digits.length then return 0
  return binaryAtoiLoop digits 1 0

/-- `parse_txt_vers` -/
def parseTxtVers (item : TxtRecordItemRef) : Checked Bool := do
  if item.key ≠ ascii "TxtVers" then return false
  return (← binaryAtoi item.value) = 1

/-- The items that are C strings: `get` and `set` are the string in the entry, which has room for
`size` characters and the NUL. -/
def parseStringItem (size : Nat) (get : DiscoveredBroker → Bytes)
    (set : Bytes → DiscoveredBroker → DiscoveredBroker) (mark : TxtKeysFound → TxtKeysFound)
    (item : TxtRecordItemRef) (p : TxtParse) : TxtParse :=
  if 0 < item.bytes.length ∧ item.bytes.length ≤ size then
    let p := { p with keysFound := mark p.keysFound }
    if get p.db = item.bytes then p
    else { p with db := set (cstr item.bytes) p.db, dataChanged := true }
  else p

/-- `parse_e133_scope_item` -/
def parseE133ScopeItem : TxtRecordItemRef → TxtParse → TxtParse :=
  parseStringItem (e133ScopeStringPaddedLength - 1) (·.scope) (fun s db => { db with scope := s })
    fun mask => { mask with scope := true }

/-- `parse_model_item` -/
def parseModelItem : TxtRecordItemRef → TxtParse → TxtParse :=
  parseStringItem 249 (·.model) (fun s db => { db with model := s })
    fun mask => { mask with model := true }

/-- `parse_manufacturer_item` -/
def parseManufacturerItem : TxtRecordItemRef → TxtParse → TxtParse :=
  parseStringItem 249 (·.manufacturer) (fun s db => { db with manufacturer := s })
    fun mask => { mask with manuf := true }

def parseValueItem {α : Type} [DecidableEq α] (value : Option α) (get : DiscoveredBroker → α)
    (set : α → DiscoveredBroker → DiscoveredBroker) (mark : TxtKeysFound → TxtKeysFound)
    (p : TxtParse) : TxtParse :=
  match value with
  | none => p
  | some a =>
    let p := { p with keysFound := mark p.keysFound }
    if get p.db = a then p else { p with db := set a p.db, dataChanged := true }

theorem parseStringItem_eq {size : Nat} {get : DiscoveredBroker → Bytes}
    {set : Bytes → DiscoveredBroker → DiscoveredBroker} {mark : TxtKeysFound → TxtKeysFound}
    (item : TxtRecordItemRef) (p : TxtParse) : parseStringItem size get set mark item p =
      parseValueItem (if 0 < item.bytes.length ∧ item.bytes.length ≤ size then some item.bytes else none)
        get (fun s => set (cstr s)) mark p := by
  unfold parseStringItem
  split_ifs <;> rfl

/-- `parse_e133_vers_item` -/
def parseE133VersItem (item : TxtRecordItemRef) (p : TxtParse) : Checked TxtParse := do
  let e133Vers ← binaryAtoi item.value
  return parseValueItem (if e133Vers ≠ 0 then some e133Vers else none) (·.e133Version)
    (fun v db => { db with e133Version := v }) (fun mask => { mask with vers := true }) p

/-- `parse_cid_item` -/
def parseCidItem (env : DiscEnv) (item : TxtRecordItemRef) : TxtParse → TxtParse :=
  parseValueItem
    (if 32 ≤ item.bytes.length ∧ item.bytes.length < 37 then env.stringToUuid (cstr item.bytes) else none)
    (·.cid) (fun v db => { db with cid := v }) fun mask => { mask with cid := true }

/-- `parse_uid_item` -/
def parseUidItem (env : DiscEnv) (item : TxtRecordItemRef) : TxtParse → TxtParse :=
  parseValueItem
    (if 12 ≤ item.bytes.length ∧ item.bytes.length < 14 then env.rdmStringToUid (cstr item.bytes) else none)
    (·.uid) (fun v db => { db with uid := v }) fun mask => { mask with uid := true }

/-- `parse_txt_item` -/
def parseTxtItem (env : DiscEnv) (item : TxtRecordItemRef) (p : TxtParse) : Checked TxtParse := do
  if item.key = ascii "E133Scope" then return parseE133ScopeItem item p
  else if item.key = ascii "E133Vers" then parseE133VersItem item p
  else if item.key = ascii "CID" then return parseCidItem env item p
  else if item.key = ascii "UID" then return parseUidItem env item p
  else if item.key = ascii "Model" then return parseModelItem item p
  else if item.key = ascii "Manuf" then return parseManufacturerItem item p
  else do
    let (db, changed) ← p.db.addBinaryTxtRecordItem item.key item.value
    return { p with db := db, dataChanged := p.dataChanged || changed }

/-! ### Records -/

/-- The strings of a record, each behind its length; one that does not fit ends the record. -/
def txtStrings : (turns : Nat) → Bytes → List Bytes
  | 0, _ => []
  | _ + 1, [] => []
  | turns + 1, txtLen :: rest =>
    if txtLen.toNat ≤ rest.length then
      rest.take txtLen.toNat :: txtStrings turns (rest.drop txtLen.toNat)
    else []

def txtItem (s : Bytes) : Option TxtRecordItemRef :=
  let key := s.takeWhile (· != 0x3d)
  if key = [] then none
  else if key.length < s.length then some ⟨key, some (s.drop (key.length + 1))⟩
  else some ⟨key, none⟩

/-- One string of the record: whether the record is read on. -/
def parseTxtString (env : DiscEnv) (s : Bytes) (p : TxtParse) : Checked (TxtParse × Bool) := do
  match txtItem s with
  | none => return (p, true)
  | some item =>
    if item.value.isNone || p.parsedTxtVers then return (← parseTxtItem env item p, true)
    -- the TxtVers key must be the first key in the record
    else if ← parseTxtVers item then return ({ p with parsedTxtVers := true }, true)
    else return (p, false)

/-- The loop of `lwmdns_txt_record_to_broker_info`. -/
def parseTxtStrings (env : DiscEnv) : List Bytes → TxtParse → Checked (TxtParse × Bool)
  | [], p => return (p, true)
  | s :: rest, p => do
    let (p, goOn) ← parseTxtString env s p
    if goOn then parseTxtStrings env rest p else return (p, false)

/-- `lwmdns_txt_record_to_broker_info` -/
def lwmdnsTxtRecordToBrokerInfo (env : DiscEnv) (txtData : Bytes) (db : DiscoveredBroker) :
    Checked (DiscoveredBroker × TxtRecordParseResult) := do
  let (p, toTheEnd) ← parseTxtStrings env (txtStrings txtData.length txtData)
    { db
      keysFound := ⟨false, false, false, false, false, false⟩
      dataChanged := false
      parsedTxtVers := false }
  if toTheEnd && p.keysFound.all then
    return (p.db, if p.dataChanged then .okDataChanged else .okNoDataChanged)
  else return (p.db, .error)

end RDMnet
