import RDMnet.Disc.Memory
import RDMnet.Lib.Buffer

/-!
# Domain names

The functions of `lwmdns_common.c` on domain names.  A name is read label by label; a length byte with
its two highest bits set points to where the name goes on.  `lwmdns_parse_domain_name` checks a name
where it stands, but no label behind a pointer.
-/

namespace RDMnet

/-- `DNS_FQDN_MAX_LENGTH` -/
abbrev dnsFqdnMaxLength : Nat := 255

/-- `DNS_LABEL_MAX_LEN` -/
abbrev dnsLabelMaxLen : Nat := 63

/-- The turns that a loop over the labels of a name is given here.  A name without circles has ended
long before. -/
abbrev maxLabels : Nat := 16384

/-- `(byte & DNS_NAME_POINTER_MASK) == DNS_NAME_POINTER_MASK` -/
def isNamePointer (byte : UInt8) : Bool := byte &&& 0xc0 = 0xc0

def pointerOffset (buf : Buf) (i : Nat) : Nat := (buf.u16 i &&& 0x3fff).toNat

def ascii (s : String) : Bytes := s.toList.map fun c => c.toNat.toUInt8

def cstr (b : Bytes) : Bytes := b.takeWhile (· != 0)

/-! ### Checking a name -/

/-- The loop of `lwmdns_parse_domain_name`.  A label takes two bytes at least, so that as many turns
are enough as there are bytes. -/
def parseNameLoop (buf : Buf) (offset : Nat) : (turns cur remaining : Nat) → Option Nat
  | 0, _, _ => none
  | turns + 1, cur, remaining =>
    if buf cur = 0 then some (cur + 1)
    else if isNamePointer (buf cur) then
      if 2 ≤ remaining then
        if pointerOffset buf cur < offset then some (cur + 2) else none
      else none
    else if buf cur < 64 then
      if (buf cur).toNat + 2 ≤ remaining then
        parseNameLoop buf offset turns (cur + ((buf cur).toNat + 1))
          (remaining - ((buf cur).toNat + 1))
      else none
    else none

/-- `lwmdns_parse_domain_name`: the offset behind the name; the pointer to it may be null. -/
def lwmdnsParseDomainName (buf : Buf) (offset : Option Nat) (totalRemainingLength : Nat) :
    Checked (Option Nat) := do
  if !(← assertVerify offset.isSome) then return none
  match offset with
  | none => return none
  | some offset =>
    return parseNameLoop buf offset (totalRemainingLength + 1) offset totalRemainingLength

/-! ### Labels -/

/-- `DomainNameLabel`: the length and the offset of a label. -/
structure DomainNameLabel where
  length : Nat
  label : Nat
  deriving DecidableEq, Repr

namespace DomainNameLabel

def next (label : DomainNameLabel) : Nat := label.label + label.length

def chars (buf : Buf) (label : DomainNameLabel) : Bytes := buf.slice label.label label.length

end DomainNameLabel

/-- `get_domain_name_label` at the offset of a length byte: the first of a name, or that behind a
label. -/
def getDomainNameLabel (buf : Buf) (nextLengthOffset : Nat) : Option DomainNameLabel :=
  let next :=
    if isNamePointer (buf nextLengthOffset) then pointerOffset buf nextLengthOffset
    else nextLengthOffset
  if buf next = 0 ∨ 63 < buf next then none
  else some ⟨(buf next).toNat, next + 1⟩

def overlay (i : Nat) (d : Bytes) (dest : Bytes) : Bytes := dest.take i ++ d ++ dest.drop (i + d.length)

/-- The loop of `lwmdns_copy_domain_name`: the buffer, and the length of the name or 0. -/
def copyLoop (buf : Buf) : (turns : Nat) → DomainNameLabel → (sizeCopied : Nat) → Bytes → Bytes × Nat
  | 0, _, _, dest => (dest, 0)
  | turns + 1, label, sizeCopied, dest =>
    if dnsFqdnMaxLength < sizeCopied + label.length + 2 then (dest, 0)
    else
      let dest := overlay sizeCopied (buf.slice (label.label - 1) (label.length + 1)) dest
      let sizeCopied := sizeCopied + (label.length + 1)
      match getDomainNameLabel buf label.next with
      | some label => copyLoop buf turns label sizeCopied dest
      | none => (overlay sizeCopied [0] dest, sizeCopied + 1)

/-- `lwmdns_copy_domain_name` into a buffer that holds `dest`. -/
def lwmdnsCopyDomainName (buf : Buf) (namePtr : Nat) (dest : Bytes) : Bytes × Nat :=
  match getDomainNameLabel buf namePtr with
  | none => (dest, 0)
  | some label => copyLoop buf maxLabels label 0 dest

/-- The loop of `lwmdns_domain_names_equal`, which has no bound: two names that both run in circles are
compared for ever.  The result is `none` if there is none after `turns` turns. -/
def namesEqualLoop (bufA bufB : Buf) :
    (turns : Nat) → (labelA labelB : Option DomainNameLabel) → Option Bool
  | 0, _, _ => none
  | turns + 1, some labelA, some labelB =>
    if labelA.length ≠ labelB.length ∨ labelA.chars bufA ≠ labelB.chars bufB then some false
    else
      namesEqualLoop bufA bufB turns (getDomainNameLabel bufA labelA.next)
        (getDomainNameLabel bufB labelB.next)
  | _ + 1, labelA, labelB => some (labelA.isSome = labelB.isSome)

/-- `lwmdns_domain_names_equal`, or `none` if it does not return. -/
def lwmdnsDomainNamesEqual (bufA : Buf) (nameA : Nat) (bufB : Buf) (nameB : Nat) : Option Bool :=
  namesEqualLoop bufA bufB maxLabels (getDomainNameLabel bufA nameA) (getDomainNameLabel bufB nameB)

/-! ### Names of services -/

def labelsFollow (buf : Buf) : DomainNameLabel → List Bytes → Bool
  | last, [] => (getDomainNameLabel buf last.next).isNone
  | last, name :: names =>
    match getDomainNameLabel buf last.next with
    | none => false
    | some label => label.chars buf = name && labelsFollow buf label names

/-- `is_rdmnet_service_type_and_domain` -/
def isRdmnetServiceTypeAndDomain (buf : Buf) (lastNonServiceLabel : DomainNameLabel) : Bool :=
  labelsFollow buf lastNonServiceLabel [ascii "_rdmnet", ascii "_tcp", ascii "local"]

/-- `lwmdns_domain_name_matches_service_instance`; the pointer to the name may be null. -/
def lwmdnsDomainNameMatchesServiceInstance (buf : Buf) (namePtr : Option Nat)
    (serviceInstanceName : Bytes) : Bool :=
  match namePtr with
  | none => false
  | some namePtr =>
    if dnsLabelMaxLen < serviceInstanceName.length then false
    else
      match getDomainNameLabel buf namePtr with
      | none => false
      | some label =>
        label.chars buf = serviceInstanceName && isRdmnetServiceTypeAndDomain buf label

/-- `lwmdns_domain_name_matches_service_subtype` -/
def lwmdnsDomainNameMatchesServiceSubtype (buf : Buf) (namePtr : Nat) (scope : Bytes) : Bool :=
  if dnsLabelMaxLen - 1 < scope.length then false
  else
    match getDomainNameLabel buf namePtr with
    | none => false
    | some label =>
      label.chars buf = ascii "_" ++ scope &&
        match getDomainNameLabel buf label.next with
        | none => false
        | some label => label.chars buf = ascii "_sub" && isRdmnetServiceTypeAndDomain buf label

/-- `lwmdns_domain_label_to_string`: the string that is in the buffer afterwards. -/
def lwmdnsDomainLabelToString (buf : Buf) (label : Option Nat) : Option Bytes :=
  label.bind fun label => (getDomainNameLabel buf label).map fun l => cstr (l.chars buf)

end RDMnet
