import RDMnet.Prot.Pack

/-!
# RDM packets

RPT messages carry RDM packets.  Packing, splitting and unpacking them is left to the RDM library, whose
functions are parameters: `RdmMessages.Lawful` says that they read and write the packets of ANSI E1.20,
and `RdmMessages.reference` does.  The offsets of a packet are used by the clients themselves.
-/

namespace RDMnet

open List

abbrev rdmOffsetDestManufacturer : Nat := 3
abbrev rdmOffsetDestDevice : Nat := 5
abbrev rdmOffsetCommandClass : Nat := 20
abbrev rdmOffsetParamDataLen : Nat := 23
abbrev rdmOffsetParamData : Nat := 24
abbrev rdmMaxPdl : Nat := 231

/-- `rdm_command_class_t` -/
abbrev kRdmCCGetCommand : UInt8 := 0x20
abbrev kRdmCCGetCommandResponse : UInt8 := 0x21
abbrev kRdmCCSetCommand : UInt8 := 0x30
abbrev kRdmCCSetCommandResponse : UInt8 := 0x31

/-- `rdm_response_type_t` -/
abbrev kRdmResponseTypeAck : UInt8 := 0
abbrev kRdmResponseTypeAckOverflow : UInt8 := 3

abbrev e120SupportedParameters : UInt16 := 0x0050

/-- `kRdmBroadcastUid` -/
abbrev kRdmBroadcastUid : RdmUid := ⟨0xffff, 0xffffffff⟩

structure RdmCommandHeader where
  sourceUid : RdmUid
  destUid : RdmUid
  portId : UInt8
  transactionNum : UInt8
  subdevice : UInt16
  commandClass : UInt8
  paramId : UInt16
  deriving DecidableEq, Repr, Inhabited

structure RdmResponseHeader where
  sourceUid : RdmUid
  destUid : RdmUid
  transactionNum : UInt8
  respType : UInt8
  messageCount : UInt8
  subdevice : UInt16
  commandClass : UInt8
  paramId : UInt16
  deriving DecidableEq, Repr, Inhabited

def RdmCommandHeader.NonDisc (header : RdmCommandHeader) : Prop :=
  header.commandClass = kRdmCCGetCommand ∨ header.commandClass = kRdmCCSetCommand

instance (header : RdmCommandHeader) : Decidable header.NonDisc :=
  inferInstanceAs (Decidable (_ ∨ _))

/-! ### Packets on the wire -/

/-- The fields of a packet; in a command the sixteenth byte is the port ID, in a response its type. -/
structure RdmPacket where
  destUid : RdmUid
  sourceUid : RdmUid
  transactionNum : UInt8
  portIdRespType : UInt8
  messageCount : UInt8
  subdevice : UInt16
  commandClass : UInt8
  paramId : UInt16
  data : Bytes
  deriving DecidableEq, Repr

def rdmChecksum (d : Bytes) : UInt16 := UInt16.ofNat (d.map UInt8.toNat).sum

namespace RdmPacket

def header (p : RdmPacket) : Bytes :=
  [0xcc, 0x01, UInt8.ofNat (rdmOffsetParamData + p.data.length)] ++ packUid p.destUid ++
    packUid p.sourceUid ++ [p.transactionNum, p.portIdRespType, p.messageCount] ++
    packU16 p.subdevice ++ [p.commandClass] ++ packU16 p.paramId ++ [UInt8.ofNat p.data.length]

def bytes (p : RdmPacket) : RdmBuffer :=
  p.header ++ p.data ++ packU16 (rdmChecksum (p.header ++ p.data))

theorem length_header (p : RdmPacket) : p.header.length = rdmOffsetParamData := rfl

theorem length_bytes (p : RdmPacket) : p.bytes.length = p.data.length + 26 := by
  rw [bytes, length_append, length_append, length_header, length_packU16]
  show 24 + p.data.length + 2 = p.data.length + 26
  omega

def responseHeader (p : RdmPacket) : RdmResponseHeader where
  sourceUid := p.sourceUid
  destUid := p.destUid
  transactionNum := p.transactionNum
  respType := p.portIdRespType
  messageCount := p.messageCount
  subdevice := p.subdevice
  commandClass := p.commandClass
  paramId := p.paramId

def command (h : RdmCommandHeader) (data : Bytes) : RdmPacket :=
  ⟨h.destUid, h.sourceUid, h.transactionNum, h.portId, 0, h.subdevice, h.commandClass, h.paramId, data⟩

def response (h : RdmCommandHeader) (respType : UInt8) (data : Bytes) : RdmPacket :=
  ⟨h.sourceUid, h.destUid, h.transactionNum, respType, 0, h.subdevice, h.commandClass + 1, h.paramId, data⟩

/-- The response with its data in several packets: `ACK_OVERFLOW` says that there are more. -/
def responses (h : RdmCommandHeader) : List Bytes → List RdmPacket
  | [] => []
  | [data] => [response h kRdmResponseTypeAck data]
  | data :: next :: rest => response h kRdmResponseTypeAckOverflow data :: responses h (next :: rest)

theorem map_data_responses (h : RdmCommandHeader) :
    ∀ chunks : List Bytes, (responses h chunks).map (·.data) = chunks
  | [] => rfl
  | [_] => rfl
  | data :: next :: rest => congrArg (data :: ·) (map_data_responses h (next :: rest))

theorem mem_responses {h : RdmCommandHeader} {p : RdmPacket} : ∀ {chunks : List Bytes}, p ∈ responses h chunks →
      p.data ∈ chunks ∧ (p.portIdRespType = kRdmResponseTypeAck ∨
        p.portIdRespType = kRdmResponseTypeAckOverflow) ∧ p = response h p.portIdRespType p.data
  | [], hp => nomatch hp
  | [data], hp => by
    rw [mem_singleton.mp hp]
    exact ⟨mem_singleton.mpr rfl, .inl rfl, rfl⟩
  | data :: next :: rest, hp => by
    rcases mem_cons.mp hp with rfl | hp
    · exact ⟨mem_cons_self, .inr rfl, rfl⟩
    · obtain ⟨hdata, hrest⟩ := mem_responses hp
      exact ⟨mem_cons_of_mem _ hdata, hrest⟩

end RdmPacket

/-! ### The RDM library -/

/-- The functions of the RDM library for packets; `ε` are its error codes. -/
structure RdmMessages (ε : Type) where
  /-- `rdm_get_num_responses_needed` -/
  getNumResponsesNeeded : UInt16 → Nat → Nat
  /-- `rdm_pack_command` -/
  packCommand : RdmCommandHeader → Bytes → Except ε RdmBuffer
  /-- `rdm_pack_full_response` into a number of buffers -/
  packFullResponse : RdmCommandHeader → Bytes → Nat → Except ε (List RdmBuffer)
  /-- `rdm_validate_msg` -/
  validateMsg : RdmBuffer → Bool
  /-- `rdm_unpack_command`; none if it returns an error -/
  unpackCommand : RdmBuffer → Option (RdmCommandHeader × Bytes)
  /-- `rdm_unpack_response`; none if it returns an error -/
  unpackResponse : RdmBuffer → Option (RdmResponseHeader × Bytes)

/-- The library packs and unpacks the packets of E1.20, and splits the data of a response over as many
packets as it says. -/
structure RdmMessages.Lawful {ε : Type} (rdm : RdmMessages ε) : Prop where
  pack_command : ∀ h data, h.NonDisc → data.length ≤ rdmMaxPdl →
    rdm.packCommand h data = .ok (RdmPacket.command h data).bytes
  pack_response : ∀ h data, h.NonDisc → ∃ chunks : List Bytes, chunks ≠ [] ∧
    chunks.length = rdm.getNumResponsesNeeded h.paramId data.length ∧
    (∀ chunk ∈ chunks, chunk.length ≤ rdmMaxPdl) ∧ chunks.flatten = data ∧
    rdm.packFullResponse h data (rdm.getNumResponsesNeeded h.paramId data.length) =
      .ok ((RdmPacket.responses h chunks).map (·.bytes))
  validate : ∀ p : RdmPacket, p.data.length ≤ rdmMaxPdl → rdm.validateMsg p.bytes = true
  unpack_command : ∀ h data, h.NonDisc → data.length ≤ rdmMaxPdl →
    rdm.unpackCommand (RdmPacket.command h data).bytes = some (h, data)
  unpack_response : ∀ p : RdmPacket, p.data.length ≤ rdmMaxPdl →
    (p.commandClass = kRdmCCGetCommandResponse ∨ p.commandClass = kRdmCCSetCommandResponse) →
    (p.portIdRespType = kRdmResponseTypeAck ∨ p.portIdRespType = kRdmResponseTypeAckOverflow) →
    rdm.unpackResponse p.bytes = some (p.responseHeader, p.data)

namespace RdmMessages

def splitData (data : Bytes) : List Bytes :=
  if data.length ≤ rdmMaxPdl then [data] else
    data.take rdmMaxPdl :: splitData (data.drop rdmMaxPdl)
  termination_by data.length
  decreasing_by
    rename_i h
    have h231 : ¬ data.length ≤ 231 := h
    rw [length_drop]
    show data.length - 231 < data.length
    omega

/-- A packet starts with the two start codes, and is as long as its length field and its checksum say. -/
def refValidate (d : RdmBuffer) : Bool :=
  let len := (u8At d 2).toNat
  u8At d 0 = 0xcc ∧ u8At d 1 = 0x01 ∧ len = rdmOffsetParamData + (u8At d rdmOffsetParamDataLen).toNat ∧
    len + 2 ≤ d.length ∧ u16At d len = rdmChecksum (d.take len)

def refUidAt (d : RdmBuffer) (i : Nat) : RdmUid := ⟨u16At d i, u32At d (i + 2)⟩

def refDataOf (d : RdmBuffer) : Bytes :=
  (d.drop rdmOffsetParamData).take (u8At d rdmOffsetParamDataLen).toNat

def reference : RdmMessages Unit where
  getNumResponsesNeeded := fun _ n => max 1 ((n + 230) / rdmMaxPdl)
  packCommand := fun h data =>
    if data.length ≤ rdmMaxPdl then .ok (RdmPacket.command h data).bytes else .error ()
  packFullResponse := fun h data num =>
    if (splitData data).length ≤ num then
      .ok ((RdmPacket.responses h (splitData data)).map (·.bytes))
    else .error ()
  validateMsg := refValidate
  unpackCommand := fun d =>
    if refValidate d ∧ (u8At d rdmOffsetCommandClass = kRdmCCGetCommand ∨
        u8At d rdmOffsetCommandClass = kRdmCCSetCommand) then
      some (⟨refUidAt d 9, refUidAt d 3, u8At d 16, u8At d 15, u16At d 18, u8At d 20, u16At d 21⟩,
        refDataOf d)
    else none
  unpackResponse := fun d =>
    if refValidate d ∧ (u8At d rdmOffsetCommandClass = kRdmCCGetCommandResponse ∨
        u8At d rdmOffsetCommandClass = kRdmCCSetCommandResponse) then
      some (⟨refUidAt d 9, refUidAt d 3, u8At d 15, u8At d 16, u8At d 17, u16At d 18, u8At d 20,
        u16At d 21⟩, refDataOf d)
    else none

theorem splitData_spec (data : Bytes) :
    splitData data ≠ [] ∧ (splitData data).length = max 1 ((data.length + 230) / rdmMaxPdl) ∧
      (∀ chunk ∈ splitData data, chunk.length ≤ rdmMaxPdl) ∧ (splitData data).flatten = data := by
  induction data using splitData.induct with
  | case1 data h =>
    have h231 : data.length ≤ 231 := h
    rw [splitData, if_pos h]
    refine ⟨cons_ne_nil _ _, ?_, by simpa using h, by simp⟩
    show 1 = max 1 ((data.length + 230) / 231)
    omega
  | case2 data h ih =>
    have h231 : ¬ data.length ≤ 231 := h
    obtain ⟨-, hlen, hall, hflat⟩ := ih
    rw [splitData, if_neg h]
    refine ⟨cons_ne_nil _ _, ?_, ?_, ?_⟩
    · rw [length_cons, hlen, length_drop]
      show max 1 ((data.length - 231 + 230) / 231) + 1 = max 1 ((data.length + 230) / 231)
      omega
    · intro chunk hchunk
      rcases mem_cons.mp hchunk with rfl | hchunk
      · exact length_take_le _ _
      · exact hall chunk hchunk
    · rw [flatten_cons, hflat, take_append_drop]

section Reference

variable (p : RdmPacket) (h : p.data.length ≤ rdmMaxPdl)

include h in
theorem pdl_toNat : (u8At p.bytes rdmOffsetParamDataLen).toNat = p.data.length := by
  have h231 : p.data.length ≤ 231 := h
  show (UInt8.ofNat p.data.length).toNat = p.data.length
  rw [UInt8.toNat_ofNat']
  omega

include h in
theorem refValidate_bytes : refValidate p.bytes = true := by
  have h231 : p.data.length ≤ 231 := h
  have hlen : (u8At p.bytes 2).toNat = (p.header ++ p.data).length := by
    rw [length_append, RdmPacket.length_header]
    show (UInt8.ofNat (24 + p.data.length)).toNat = 24 + p.data.length
    rw [UInt8.toNat_ofNat']
    omega
  have hsum : u16At p.bytes (p.header ++ p.data).length =
      rdmChecksum (p.bytes.take (p.header ++ p.data).length) := by
    rw [RdmPacket.bytes, take_left]
    have hread := u16At_append_right (p.header ++ p.data)
      (packU16 (rdmChecksum (p.header ++ p.data)) ++ []) 0
    rw [u16At_pack, append_nil, Nat.add_zero] at hread
    exact hread
  unfold refValidate
  rw [decide_eq_true_iff, hlen]
  refine ⟨rfl, rfl, ?_, ?_, hsum⟩
  · rw [pdl_toNat p h, length_append, RdmPacket.length_header]
  · have hbytes : p.bytes.length = (p.header ++ p.data).length + 2 := by
      rw [RdmPacket.bytes, length_append, length_packU16]
    exact le_of_eq hbytes.symm

theorem refUidAt_dest : refUidAt p.bytes 3 = p.destUid :=
  congrArg₂ RdmUid.mk (u16At_pack p.destUid.manu (p.bytes.drop 5))
    (u32At_pack p.destUid.id (p.bytes.drop 9))

theorem refUidAt_source : refUidAt p.bytes 9 = p.sourceUid :=
  congrArg₂ RdmUid.mk (u16At_pack p.sourceUid.manu (p.bytes.drop 11))
    (u32At_pack p.sourceUid.id (p.bytes.drop 15))

theorem u16At_subdevice : u16At p.bytes 18 = p.subdevice :=
  u16At_pack p.subdevice (p.bytes.drop 20)

theorem u16At_paramId : u16At p.bytes 21 = p.paramId :=
  u16At_pack p.paramId (p.bytes.drop 23)

include h in
theorem refDataOf_bytes : refDataOf p.bytes = p.data := by
  rw [refDataOf, pdl_toNat p h, RdmPacket.bytes, append_assoc, ← RdmPacket.length_header p, drop_left, take_left]

end Reference

theorem reference_lawful : reference.Lawful where
  pack_command := fun _ _ _ hd => if_pos hd
  pack_response := by
    intro h data _
    obtain ⟨hne, hlen, hall, hflat⟩ := splitData_spec data
    exact ⟨splitData data, hne, hlen, hall, hflat, if_pos (le_of_eq hlen)⟩
  validate := refValidate_bytes
  unpack_command := by
    intro h data hh hd
    have hcc : u8At (RdmPacket.command h data).bytes rdmOffsetCommandClass = h.commandClass := rfl
    simp only [reference]
    rw [if_pos ⟨refValidate_bytes _ hd, by rw [hcc]; exact hh⟩, refUidAt_source, refUidAt_dest,
      u16At_subdevice, u16At_paramId, refDataOf_bytes _ hd]
    rfl
  unpack_response := by
    intro p hd hcc _
    have hcc' : u8At p.bytes rdmOffsetCommandClass = p.commandClass := rfl
    simp only [reference]
    rw [if_pos ⟨refValidate_bytes _ hd, by rw [hcc']; exact hcc⟩, refUidAt_source, refUidAt_dest,
      u16At_subdevice, u16At_paramId, refDataOf_bytes _ hd]
    rfl

end RdmMessages

end RDMnet
