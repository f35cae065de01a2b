import RDMnet.Prot.RdmPacket
import RDMnet.Prot.Send

/-!
# RDM responses in RPT notifications

A client answers an RDM command with an RPT Notification that holds the command and the packets of the
response (`send_rdm_ack_internal`).  The client that gets the notification puts the data of the packets
together again, in a buffer whose size it works out first (`parse_rpt_notification`).
-/

namespace RDMnet

open List Function RdmPacket RdmResponseHeader EtcPal

/-- What `send_rdm_ack_internal` returns if it does not come to sending. -/
inductive AckErr (ε : Type)
  | noMem
  /-- An error of the RDM library. -/
  | rdm (err : ε)

/-! ### Sending -/

/-- Bytes written over those at an offset. -/
def writeAt (i : Nat) (new d : Bytes) : Bytes := d.take i ++ new ++ d.drop (i + new.length)

/-- One round of the loop of `change_destination_to_broadcast`: the checksum is adapted to the bytes that
change. -/
def broadcastDestination (buf : RdmBuffer) : RdmBuffer :=
  let checksumOffset := rdmOffsetParamData + (u8At buf rdmOffsetParamDataLen).toNat
  let checksum := (u16At buf checksumOffset).toNat +
    ((List.range 6).map fun i => 0xff - (u8At buf (rdmOffsetDestManufacturer + i)).toNat).sum
  writeAt checksumOffset (packU16 (UInt16.ofNat checksum))
    (writeAt rdmOffsetDestDevice (packU32 kRdmBroadcastUid.id)
      (writeAt rdmOffsetDestManufacturer (packU16 kRdmBroadcastUid.manu) buf))

/-- `change_destination_to_broadcast`: the command, which comes first, stays as it is. -/
def changeDestinationToBroadcast : List RdmBuffer → List RdmBuffer
  | cmd :: resp :: rest => cmd :: (resp :: rest).map broadcastDestination
  | respBuf => respBuf

section Functions

variable {ε : Type} (rdm : RdmMessages ε) (pal : EtcPal)

/-- The buffers that `send_rdm_ack_internal` sends; `appendTo` is `append_to_supported_parameters`. -/
def ackBuffers (appendTo : List RdmBuffer → List RdmBuffer) (calloc : Bool)
    (receivedCmdHeader : RdmCommandHeader) (receivedCmdData respData : Bytes) :
    Except (AckErr ε) (List RdmBuffer) :=
  let respSize := rdm.getNumResponsesNeeded receivedCmdHeader.paramId respData.length
  if ¬ calloc then .error .noMem else
    match rdm.packCommand receivedCmdHeader receivedCmdData with
    | .error err => .error (.rdm err)
    | .ok command =>
      match rdm.packFullResponse receivedCmdHeader respData respSize with
      | .error err => .error (.rdm err)
      | .ok responses =>
        let responses := if receivedCmdHeader.paramId = e120SupportedParameters then appendTo responses
          else responses
        .ok (if receivedCmdHeader.commandClass = kRdmCCSetCommand then
          changeDestinationToBroadcast (command :: responses) else command :: responses)

/-- `send_rdm_ack_internal`: an error, or what it does with the socket. -/
def sendRdmAckInternal (appendTo : List RdmBuffer → List RdmBuffer) (calloc : Bool) (cid : Uuid)
    (rptHeader : RptHeader) (receivedCmdHeader : RdmCommandHeader)
    (receivedCmdData respData : Bytes) : Except (AckErr ε) (Sends Unit) :=
  (ackBuffers rdm appendTo calloc receivedCmdHeader receivedCmdData respData).map
    (.rcRptSendNotification pal cid rptHeader)

/-! ### Putting a response together -/

structure RdmnetRdmResponse where
  rdmnetSourceUid : RdmUid
  sourceEndpoint : UInt16
  seqNum : UInt32
  isResponseToMe : Bool
  originalCmdHeader : RdmCommandHeader
  originalCmdData : Bytes
  rdmHeader : RdmResponseHeader
  /-- The first `rdm_data_len` bytes of the buffer. -/
  rdmData : Bytes
  moreComing : Bool
  deriving DecidableEq, Inhabited

/-- The response while it is put together. -/
structure Reassembly where
  resp : RdmnetRdmResponse
  firstMsg : Bool
  /-- Ghost data: bytes were written behind the end of the buffer. -/
  overrun : Bool
  deriving DecidableEq

/-- `RDM_CC_IS_NON_DISC_COMMAND` -/
def ccIsNonDiscCommand (cc : UInt8) : Bool := cc = kRdmCCGetCommand ∨ cc = kRdmCCSetCommand

/-- `RDM_CC_IS_NON_DISC_RESPONSE` -/
def ccIsNonDiscResponse (cc : UInt8) : Bool :=
  cc = kRdmCCGetCommandResponse ∨ cc = kRdmCCSetCommandResponse

/-- The size that `get_rdm_response_data_buf` works out; there is no buffer if it is 0. -/
def rdmResponseDataSize (buffers : List RdmBuffer) : Nat :=
  (buffers.map fun buf =>
    if ccIsNonDiscResponse (u8At buf rdmOffsetCommandClass) then
      (u8At buf rdmOffsetParamDataLen).toNat else 0).sum

/-- `memcpy` behind the data that is there already. -/
def Reassembly.copyData (size : Nat) (thisData : Bytes) (r : Reassembly) : Reassembly :=
  if thisData ≠ [] ∧ size ≠ 0 then
    { r with
      resp.rdmData := r.resp.rdmData ++ thisData
      overrun := r.overrun || decide (size < r.resp.rdmData.length + thisData.length) }
  else r

/-- The header of the first packet: an overflow is not passed on. -/
def RdmResponseHeader.whole (header : RdmResponseHeader) : RdmResponseHeader :=
  if header.respType = kRdmResponseTypeAckOverflow then { header with respType := kRdmResponseTypeAck }
  else header

def RdmResponseHeader.SameResponse (a b : RdmResponseHeader) : Prop :=
  a.sourceUid = b.sourceUid ∧ a.destUid = b.destUid ∧ a.subdevice = b.subdevice ∧
    a.commandClass = b.commandClass ∧ a.paramId = b.paramId

instance (a b : RdmResponseHeader) : Decidable (a.SameResponse b) :=
  inferInstanceAs (Decidable (_ ∧ _ ∧ _ ∧ _ ∧ _))

/-- `unpack_notification_rdm_buffer` -/
def unpackNotificationRdmBuffer (size : Nat) (buffer : RdmBuffer) (r : Reassembly) :
    Reassembly × Bool :=
  if rdm.validateMsg buffer then
    if r.firstMsg then
      if ccIsNonDiscCommand (u8At buffer rdmOffsetCommandClass) then
        -- the command is included
        match rdm.unpackCommand buffer with
        | some (header, data) =>
          ({ r with resp.originalCmdHeader := header, resp.originalCmdData := data }, true)
        | none => (r, false)
      else if ccIsNonDiscResponse (u8At buffer rdmOffsetCommandClass) then
        match rdm.unpackResponse buffer with
        | some (header, thisData) =>
          ({ r.copyData size thisData with
              resp.rdmHeader := header.whole
              firstMsg := false }, true)
        | none => (r, false)
      else (r, false)
    else if ccIsNonDiscResponse (u8At buffer rdmOffsetCommandClass) then
      match rdm.unpackResponse buffer with
      | some (header, thisData) =>
        if header.SameResponse r.resp.rdmHeader then (r.copyData size thisData, true) else (r, false)
      | none => (r, false)
    else (r, false)
  else (r, false)

/-- The loop of `parse_rpt_notification`; it ends at a buffer that cannot be unpacked. -/
def unpackNotification (size : Nat) : List RdmBuffer → Reassembly → Reassembly × Bool
  | [], r => (r, true)
  | buffer :: rest, r =>
    let (r, goodParse) := unpackNotificationRdmBuffer rdm size buffer r
    if goodParse then unpackNotification size rest r else (r, false)

/-- The response before the first buffer; `left` is what its memory held before. -/
def startReassembly (left : RdmnetRdmResponse) (moreComing : Bool) : Reassembly :=
  ⟨{ left with originalCmdHeader := default, originalCmdData := [], rdmData := [], moreComing }, true, false⟩

/-- `parse_rpt_notification` on a scope with UID `uid`: the response if it could be put together, and
whether bytes were written behind the end of the buffer. -/
def parseRptNotification (malloc : Bool) (uid : RdmUid) (left : RdmnetRdmResponse) (rmsg : RptMessage) :
    Option RdmnetRdmResponse × Bool :=
  if rmsg.rdm.items.isNull then (none, false) else
    let size := rdmResponseDataSize rmsg.rdm.items.toList
    if size ≠ 0 ∧ ¬ malloc then (none, false) else
      let (r, goodParse) := unpackNotification rdm size rmsg.rdm.items.toList
        (startReassembly left rmsg.rdm.moreComing)
      (if goodParse then
        some { r.resp with
          rdmnetSourceUid := rmsg.header.sourceUid
          sourceEndpoint := rmsg.header.sourceEndpointId
          seqNum := rmsg.header.seqnum
          isResponseToMe := uid = rmsg.header.destUid } else none, r.overrun)

end Functions

/-! ### The destination of a response -/

theorem writeAt_append {i : Nat} (a old new c : Bytes) (ha : a.length = i)
    (hold : old.length = new.length) : writeAt i new (a ++ (old ++ c)) = a ++ (new ++ c) := by
  subst ha
  have hdrop : (a ++ (old ++ c)).drop (a.length + new.length) = c := by
    rw [← hold, ← length_append, ← append_assoc, drop_left]
  rw [writeAt, take_left, hdrop, append_assoc]

namespace RdmPacket

def tail (p : RdmPacket) : Bytes :=
  packUid p.sourceUid ++ [p.transactionNum, p.portIdRespType, p.messageCount] ++ packU16 p.subdevice ++
    [p.commandClass] ++ packU16 p.paramId ++ [UInt8.ofNat p.data.length] ++ p.data

def front (p : RdmPacket) : Bytes := [0xcc, 0x01, UInt8.ofNat (rdmOffsetParamData + p.data.length)]

theorem header_data (p : RdmPacket) : p.header ++ p.data = p.front ++ (packUid p.destUid ++ p.tail) := by
  simp only [header, front, tail, append_assoc]

theorem bytes_eq (p : RdmPacket) : p.bytes = p.front ++ (packUid p.destUid ++ (p.tail ++ packU16 (rdmChecksum
      (p.front ++ (packUid p.destUid ++ p.tail))))) := by
  rw [bytes, header_data]
  simp only [append_assoc]

theorem bytes_to (p : RdmPacket) (uid : RdmUid) :
    { p with destUid := uid }.bytes = p.front ++ (packUid uid ++ (p.tail ++ packU16 (rdmChecksum
      (p.front ++ (packUid uid ++ p.tail))))) :=
  bytes_eq _

theorem sum_packUid (uid : RdmUid) (d : Bytes) :
    ((List.range 6).map fun i => 0xff - (u8At (packUid uid ++ d) i).toNat).sum +
      ((packUid uid).map UInt8.toNat).sum = ((packUid kRdmBroadcastUid).map UInt8.toNat).sum := by
  have hbroadcast : ((packUid kRdmBroadcastUid).map UInt8.toNat).sum = 1530 := by decide
  obtain ⟨x0, x1, x2, x3, x4, x5, hx⟩ : ∃ x0 x1 x2 x3 x4 x5, packUid uid = [x0, x1, x2, x3, x4, x5] :=
    ⟨_, _, _, _, _, _, rfl⟩
  have h0 := x0.toNat_lt
  have h1 := x1.toNat_lt
  have h2 := x2.toNat_lt
  have h3 := x3.toNat_lt
  have h4 := x4.toNat_lt
  have h5 := x5.toNat_lt
  rw [hbroadcast, hx]
  simp only [range_succ, range_zero, nil_append, cons_append, map_cons,
    map_nil, sum_cons, sum_nil, u8At, getD_cons_zero, getD_cons_succ]
  omega

theorem length_before_checksum (p : RdmPacket) (uid : RdmUid) :
    (p.front ++ (packUid uid ++ p.tail)).length = rdmOffsetParamData + p.data.length := by
  have hhead := congrArg List.length (header_data p)
  rw [length_append, length_header] at hhead
  rw [hhead]
  simp only [length_append, length_packUid]

theorem u16At_checksum (p : RdmPacket) : u16At p.bytes (rdmOffsetParamData + p.data.length) =
      rdmChecksum (p.front ++ (packUid p.destUid ++ p.tail)) := by
  have hread := u16At_append_right (p.front ++ (packUid p.destUid ++ p.tail))
    (packU16 (rdmChecksum (p.front ++ (packUid p.destUid ++ p.tail))) ++ []) 0
  rw [u16At_pack, append_nil, Nat.add_zero, length_before_checksum] at hread
  rw [bytes_eq]
  simpa only [append_assoc] using hread

theorem checksum_broadcast (p : RdmPacket) :
    UInt16.ofNat ((rdmChecksum (p.front ++ (packUid p.destUid ++ p.tail))).toNat +
      ((List.range 6).map fun i => 0xff - (u8At p.bytes (rdmOffsetDestManufacturer + i)).toNat).sum) =
      rdmChecksum (p.front ++ (packUid kRdmBroadcastUid ++ p.tail)) := by
  have hbytes : ∀ i, u8At p.bytes (rdmOffsetDestManufacturer + i) =
      u8At (packUid p.destUid ++ p.bytes.drop 9) i := by
    intro i
    exact u8At_append_right p.front _ i
  have hsix := sum_packUid p.destUid (p.bytes.drop 9)
  simp only [hbytes]
  generalize ((List.range 6).map fun i =>
    0xff - (u8At (packUid p.destUid ++ p.bytes.drop 9) i).toNat).sum = lack at hsix ⊢
  apply UInt16.toNat.inj
  simp only [rdmChecksum, map_append, sum_append, UInt16.toNat_ofNat']
  omega

theorem writeAt_dest (p : RdmPacket) (uid : RdmUid) (old new : UInt16) :
    writeAt (rdmOffsetParamData + p.data.length) (packU16 new) (writeAt rdmOffsetDestDevice (packU32 uid.id)
        (writeAt rdmOffsetDestManufacturer (packU16 uid.manu)
          (p.front ++ (packUid p.destUid ++ (p.tail ++ packU16 old))))) =
      p.front ++ (packUid uid ++ (p.tail ++ packU16 new)) := by
  have hfront : p.front.length = rdmOffsetDestManufacturer := rfl
  have hmanu : writeAt rdmOffsetDestManufacturer (packU16 uid.manu)
      (p.front ++ (packUid p.destUid ++ (p.tail ++ packU16 old))) =
      (p.front ++ packU16 uid.manu) ++ (packU32 p.destUid.id ++ (p.tail ++ packU16 old)) := by
    rw [packUid, append_assoc, writeAt_append p.front (packU16 p.destUid.manu) (packU16 uid.manu) _
      hfront rfl, append_assoc]
  have hid : writeAt rdmOffsetDestDevice (packU32 uid.id)
      ((p.front ++ packU16 uid.manu) ++ (packU32 p.destUid.id ++ (p.tail ++ packU16 old))) =
      (p.front ++ packU16 uid.manu) ++ (packU32 uid.id ++ (p.tail ++ packU16 old)) :=
    writeAt_append _ (packU32 p.destUid.id) (packU32 uid.id) _ rfl rfl
  have hregroup : (p.front ++ packU16 uid.manu) ++ (packU32 uid.id ++ (p.tail ++ packU16 old)) =
      (p.front ++ (packUid uid ++ p.tail)) ++ (packU16 old ++ []) := by
    simp only [packUid, append_assoc, append_nil]
  rw [hmanu, hid, hregroup, writeAt_append _ (packU16 old) (packU16 new) []
    (length_before_checksum p uid) rfl, append_nil]
  simp only [append_assoc]

/-- **The checksum follows the destination**: what `change_destination_to_broadcast` makes of a packet is
the same packet to all. -/
theorem broadcastDestination_bytes (p : RdmPacket) (h : p.data.length ≤ rdmMaxPdl) :
    broadcastDestination p.bytes = { p with destUid := kRdmBroadcastUid }.bytes := by
  unfold broadcastDestination
  dsimp only
  rw [RdmMessages.pdl_toNat p h, u16At_checksum, checksum_broadcast, bytes_eq p]
  exact (writeAt_dest p kRdmBroadcastUid _ _).trans (bytes_to p kRdmBroadcastUid).symm

end RdmPacket

/-! ### The packets of a response -/

section Lawful

variable {ε : Type} {rdm : RdmMessages ε} (hrdm : rdm.Lawful)
  {h : RdmCommandHeader} (hh : h.NonDisc)

/-- Packets of a response to `h` that go to `dest`. -/
def ResponsePackets (h : RdmCommandHeader) (dest : RdmUid) (ps : List RdmPacket) : Prop :=
  ∀ p ∈ ps, p.data.length ≤ rdmMaxPdl ∧
    (p.portIdRespType = kRdmResponseTypeAck ∨ p.portIdRespType = kRdmResponseTypeAckOverflow) ∧
    p = { response h p.portIdRespType p.data with destUid := dest }

/-- The destination of the response: the answer to a SET command goes to everybody. -/
def ackDest (h : RdmCommandHeader) : RdmUid :=
  if h.commandClass = kRdmCCSetCommand then kRdmBroadcastUid else h.sourceUid

variable {cmdData : Bytes}

include hrdm hh in
theorem ackBuffers_eq (appendTo : List RdmBuffer → List RdmBuffer)
    (hpid : h.paramId ≠ e120SupportedParameters) (hcmd : cmdData.length ≤ rdmMaxPdl) (respData : Bytes) :
    ∃ ps : List RdmPacket, ps ≠ [] ∧ ps.length = rdm.getNumResponsesNeeded h.paramId respData.length ∧
      ps.flatMap (·.data) = respData ∧ ResponsePackets h (ackDest h) ps ∧
      ackBuffers rdm appendTo true h cmdData respData = .ok ((command h cmdData).bytes :: ps.map (·.bytes)) := by
  obtain ⟨chunks, hne, hlen, hshort, hflat, hpack⟩ := hrdm.pack_response h respData hh
  have hdata := map_data_responses h chunks
  have hfits : ∀ p ∈ responses h chunks, p.data.length ≤ rdmMaxPdl :=
    fun p hp => hshort _ (mem_responses hp).1
  have hbuffers : ackBuffers rdm appendTo true h cmdData respData =
      .ok (if h.commandClass = kRdmCCSetCommand then
        changeDestinationToBroadcast ((command h cmdData).bytes ::
          (responses h chunks).map (·.bytes))
        else (command h cmdData).bytes :: (responses h chunks).map (·.bytes)) := by
    simp only [ackBuffers, hrdm.pack_command h cmdData hh hcmd, hpack, if_neg hpid, not_true, if_false]
  refine ⟨(responses h chunks).map fun p => { p with destUid := ackDest h }, ?_, ?_, ?_, ?_, ?_⟩
  · rintro hnil
    have hchunks := congrArg List.length hdata
    rw [length_map, map_eq_nil_iff.mp hnil] at hchunks
    exact hne (length_eq_zero_iff.mp hchunks.symm)
  · rw [length_map, ← hlen, ← congrArg List.length hdata, length_map]
  · rw [flatMap_map, flatMap_def, hdata, hflat]
  · intro p hp
    obtain ⟨q, hq, rfl⟩ := mem_map.mp hp
    obtain ⟨-, htype, heq⟩ := mem_responses hq
    refine ⟨hfits q hq, htype, ?_⟩
    rw [heq]
    rfl
  · rw [hbuffers, map_map]
    refine congrArg Except.ok ?_
    by_cases hset : h.commandClass = kRdmCCSetCommand
    · have hchange : ∀ (cmd : RdmBuffer) (rs : List RdmBuffer),
          changeDestinationToBroadcast (cmd :: rs) = cmd :: rs.map broadcastDestination := by
        intro cmd rs
        cases rs <;> rfl
      rw [if_pos hset, hchange, map_map]
      refine congrArg (List.cons _) (map_congr_left fun p hp => ?_)
      rw [comp_apply, comp_apply, broadcastDestination_bytes p (hfits p hp), ackDest, if_pos hset]
    · rw [if_neg hset]
      refine congrArg (List.cons _) (map_congr_left fun p hp => ?_)
      have hdest : ackDest h = p.destUid := by
        rw [(mem_responses hp).2.2, ackDest, if_neg hset]
        rfl
      rw [comp_apply, hdest]

/-! ### Putting the packets together -/

/-- The fields in which the packets of a response to `h` that goes to `dest` agree. -/
structure RdmResponseHeader.Answers (header : RdmResponseHeader) (h : RdmCommandHeader) (dest : RdmUid) :
    Prop where
  sourceUid : header.sourceUid = h.destUid
  destUid : header.destUid = dest
  subdevice : header.subdevice = h.subdevice
  commandClass : header.commandClass = h.commandClass + 1
  paramId : header.paramId = h.paramId

variable {dest : RdmUid} {ps : List RdmPacket} {p : RdmPacket} {size : Nat} {r : Reassembly}

theorem Reassembly.copyData_fits {thisData : Bytes} (hfit : r.resp.rdmData.length + thisData.length ≤ size) :
    r.copyData size thisData = { r with resp.rdmData := r.resp.rdmData ++ thisData } := by
  unfold copyData
  by_cases hdata : thisData = []
  · subst hdata
    rw [if_neg (fun h => h.1 rfl), append_nil]
  · have hpos : 0 < thisData.length := length_pos_iff.mpr hdata
    rw [if_pos ⟨hdata, by omega⟩, decide_eq_false (by omega), Bool.or_false]

theorem ResponsePackets.header (hps : ResponsePackets h dest ps) (hp : p ∈ ps) :
    p.responseHeader.Answers h dest := by
  obtain ⟨-, -, heq⟩ := hps p hp
  rw [heq]
  exact ⟨rfl, rfl, rfl, rfl, rfl⟩

include hh in
theorem ResponsePackets.cc (hps : ResponsePackets h dest ps) (hp : p ∈ ps) :
    p.commandClass = kRdmCCGetCommandResponse ∨ p.commandClass = kRdmCCSetCommandResponse := by
  have hcc : p.commandClass = h.commandClass + 1 := (hps.header hp).commandClass
  rw [hcc]
  rcases hh with hget | hset
  · exact .inl (by rw [hget]; rfl)
  · exact .inr (by rw [hset]; rfl)

include hrdm hh in
theorem ResponsePackets.unpack (hps : ResponsePackets h dest ps) (hp : p ∈ ps) :
    rdm.validateMsg p.bytes = true ∧ ccIsNonDiscCommand (u8At p.bytes rdmOffsetCommandClass) = false ∧
      ccIsNonDiscResponse (u8At p.bytes rdmOffsetCommandClass) = true ∧
      rdm.unpackResponse p.bytes = some (p.responseHeader, p.data) := by
  obtain ⟨hlen, htype, -⟩ := hps p hp
  have hcc := hps.cc hh hp
  have hread : u8At p.bytes rdmOffsetCommandClass = p.commandClass := rfl
  refine ⟨hrdm.validate p hlen, ?_, ?_, hrdm.unpack_response p hlen hcc htype⟩
  · rw [hread]
    rcases hcc with hcc | hcc <;> rw [hcc] <;> rfl
  · rw [hread]
    exact decide_eq_true hcc

theorem RdmResponseHeader.whole_answers {header : RdmResponseHeader} (ha : header.Answers h dest) :
    header.whole.Answers h dest := by
  unfold whole
  split
  · exact { ha with }
  · exact ha

include hrdm hh in
/-- The packets behind the first one only add their data.  By induction on the packets; the room that is
left is enough for those to come. -/
theorem unpackNotification_rest (ps : List RdmPacket) : ∀ r : Reassembly, ResponsePackets h dest ps →
    r.firstMsg = false → r.resp.rdmHeader.Answers h dest →
    r.resp.rdmData.length + (ps.flatMap (·.data)).length ≤ size →
    unpackNotification rdm size (ps.map (·.bytes)) r =
      ({ r with resp.rdmData := r.resp.rdmData ++ ps.flatMap (·.data) }, true) := by
  induction ps with
  | nil =>
    intro r _ _ _ _
    simp [unpackNotification]
  | cons p ps ih =>
    intro r hps hfirst hheader hfit
    have hp : p ∈ p :: ps := mem_cons_self
    obtain ⟨hvalid, -, hresp, hunpack⟩ := hps.unpack hrdm hh hp
    have ha := hps.header hp
    have hsame : p.responseHeader.SameResponse r.resp.rdmHeader :=
      ⟨ha.sourceUid.trans hheader.sourceUid.symm, ha.destUid.trans hheader.destUid.symm,
        ha.subdevice.trans hheader.subdevice.symm, ha.commandClass.trans hheader.commandClass.symm,
        ha.paramId.trans hheader.paramId.symm⟩
    rw [flatMap_cons, length_append] at hfit
    have hstep : unpackNotificationRdmBuffer rdm size p.bytes r =
        ({ r with resp.rdmData := r.resp.rdmData ++ p.data }, true) := by
      rw [← Reassembly.copyData_fits (by omega : r.resp.rdmData.length + p.data.length ≤ size)]
      simp only [unpackNotificationRdmBuffer, hvalid, hfirst, hresp, hunpack, if_pos hsame, if_true,
        Bool.false_eq_true, if_false]
    rw [map_cons, unpackNotification, hstep]
    dsimp only
    rw [if_pos rfl, ih { r with resp.rdmData := r.resp.rdmData ++ p.data }
      (fun q hq => hps q (mem_cons_of_mem _ hq)) hfirst hheader
      (by rw [length_append]; omega), flatMap_cons, append_assoc]

include hrdm hh in
theorem unpackNotification_responses (hps : ResponsePackets h dest (p :: ps)) (hfirst : r.firstMsg = true)
    (hfit : r.resp.rdmData.length + ((p :: ps).flatMap (·.data)).length ≤ size) :
    unpackNotification rdm size ((p :: ps).map (·.bytes)) r = ({ r with
          resp.rdmData := r.resp.rdmData ++ (p :: ps).flatMap (·.data)
          resp.rdmHeader := p.responseHeader.whole
          firstMsg := false }, true) := by
  have hp : p ∈ p :: ps := mem_cons_self
  obtain ⟨hvalid, hcmd, hresp, hunpack⟩ := hps.unpack hrdm hh hp
  rw [flatMap_cons, length_append] at hfit
  have hstep : unpackNotificationRdmBuffer rdm size p.bytes r =
      ({ r with
          resp.rdmData := r.resp.rdmData ++ p.data
          resp.rdmHeader := p.responseHeader.whole
          firstMsg := false }, true) := by
    simp only [unpackNotificationRdmBuffer, hvalid, hfirst, hcmd, hresp, hunpack, if_true,
      Bool.false_eq_true, if_false,
      Reassembly.copyData_fits (by omega : r.resp.rdmData.length + p.data.length ≤ size)]
  rw [map_cons, unpackNotification, hstep]
  dsimp only
  rw [if_pos rfl, unpackNotification_rest hrdm hh ps _ (fun q hq => hps q (mem_cons_of_mem _ hq)) rfl
    (whole_answers (hps.header hp)) (by rw [length_append]; omega),
    flatMap_cons, append_assoc]

include hrdm hh in
theorem unpackNotification_command (hcmd : cmdData.length ≤ rdmMaxPdl)
    (rest : List RdmBuffer) (hfirst : r.firstMsg = true) :
    unpackNotification rdm size ((command h cmdData).bytes :: rest) r = unpackNotification rdm size rest
        { r with resp.originalCmdHeader := h, resp.originalCmdData := cmdData } := by
  have hcc : ccIsNonDiscCommand (u8At (command h cmdData).bytes rdmOffsetCommandClass) = true :=
    decide_eq_true hh
  have hstep : unpackNotificationRdmBuffer rdm size (command h cmdData).bytes r =
      ({ r with resp.originalCmdHeader := h, resp.originalCmdData := cmdData }, true) := by
    simp only [unpackNotificationRdmBuffer, hrdm.validate (command h cmdData) hcmd, hfirst, hcc,
      hrdm.unpack_command h cmdData hh hcmd, if_true]
  rw [unpackNotification, hstep]
  dsimp only
  rw [if_pos rfl]

include hrdm hh in
theorem rdmResponseDataSize_eq (hps : ResponsePackets h dest ps) :
    rdmResponseDataSize ((command h cmdData).bytes :: ps.map (·.bytes)) = (ps.flatMap (·.data)).length := by
  have hcmd : ccIsNonDiscResponse
      (u8At (command h cmdData).bytes rdmOffsetCommandClass) = false := by
    have hread : u8At (command h cmdData).bytes rdmOffsetCommandClass = h.commandClass := rfl
    rw [hread]
    rcases hh with hcc | hcc <;> rw [hcc] <;> rfl
  unfold rdmResponseDataSize
  rw [map_cons, sum_cons, hcmd, map_map, length_flatMap]
  have hall : ∀ p ∈ ps, (if ccIsNonDiscResponse (u8At p.bytes rdmOffsetCommandClass) then
      (u8At p.bytes rdmOffsetParamDataLen).toNat else 0) = p.data.length := by
    intro p hp
    rw [if_pos (hps.unpack hrdm hh hp).2.2.1, RdmMessages.pdl_toNat p (hps p hp).1]
  rw [if_neg Bool.false_ne_true, Nat.zero_add]
  exact congrArg List.sum (map_congr_left hall)

include hrdm hh in
/-- **A notification with a command and the packets of its response** is put together to that response,
and nothing is written outside of the buffer. -/
theorem parseRptNotification_ack (hcmd : cmdData.length ≤ rdmMaxPdl)
    (hps : ResponsePackets h dest (p :: ps)) {rmsg : RptMessage}
    (hlist : rmsg.rdm.Holds ((command h cmdData).bytes :: (p :: ps).map (·.bytes)))
    (uid : RdmUid) (left : RdmnetRdmResponse) : parseRptNotification rdm true uid left rmsg = (some
        { rdmnetSourceUid := rmsg.header.sourceUid
          sourceEndpoint := rmsg.header.sourceEndpointId
          seqNum := rmsg.header.seqnum
          isResponseToMe := uid = rmsg.header.destUid
          originalCmdHeader := h
          originalCmdData := cmdData
          rdmHeader := p.responseHeader.whole
          rdmData := (p :: ps).flatMap (·.data)
          moreComing := false }, false) := by
  obtain ⟨hitems, hmore⟩ := hlist
  have hnull : rmsg.rdm.items.isNull = false := by
    cases hi : rmsg.rdm.items with
    | null =>
      rw [hi] at hitems
      cases hitems
    | live init last => rfl
    | freed => rfl
  have hunpack : unpackNotification rdm ((p :: ps).flatMap (·.data)).length
      ((command h cmdData).bytes :: (p :: ps).map (·.bytes)) (startReassembly left false) = _ :=
    (unpackNotification_command hrdm hh hcmd _ rfl).trans
      (unpackNotification_responses hrdm hh hps rfl (le_of_eq (Nat.zero_add _)))
  unfold parseRptNotification
  rw [hnull, hitems, hmore, rdmResponseDataSize_eq hrdm hh hps, if_neg Bool.false_ne_true]
  rw [if_neg (fun hno => hno.2 rfl), hunpack]
  simp [startReassembly]

theorem RdmResponseHeader.whole_ack {header : RdmResponseHeader}
    (htype : header.respType = kRdmResponseTypeAck ∨ header.respType = kRdmResponseTypeAckOverflow) :
    header.whole.respType = kRdmResponseTypeAck := by
  unfold whole
  split
  · rfl
  · exact htype.resolve_right ‹_›

end Lawful

/-! ### From one client to another -/

/-- A call of `send_rdm_ack_internal`, in the dynamic-memory build. -/
structure Ack where
  cid : Uuid
  rptHeader : RptHeader
  receivedCmdHeader : RdmCommandHeader
  receivedCmdData : Bytes
  respData : Bytes
  /-- `append_to_supported_parameters` -/
  appendTo : List RdmBuffer → List RdmBuffer

namespace Ack

/-- The command was received: a GET or SET with as much data as a packet holds, for a parameter to which
nothing is appended. -/
def Received (a : Ack) : Prop :=
  a.receivedCmdHeader.NonDisc ∧ a.receivedCmdHeader.paramId ≠ e120SupportedParameters ∧
    a.receivedCmdData.length ≤ rdmMaxPdl

section Survives

variable {ε : Type} (rdm : RdmMessages ε) (pal : EtcPal)

def buffers (a : Ack) : Except (AckErr ε) (List RdmBuffer) :=
  ackBuffers rdm a.appendTo true a.receivedCmdHeader a.receivedCmdData a.respData

def send (a : Ack) : Except (AckErr ε) (Sends Unit) :=
  sendRdmAckInternal rdm pal a.appendTo true a.cid a.rptHeader a.receivedCmdHeader a.receivedCmdData
    a.respData

def fragments (a : Ack) (bufs : List RdmBuffer) : List (Fragment UInt8) :=
  (ClientMessage.notification a.cid a.rptHeader bufs).fragments pal ⟨a.cid, default⟩

/-- The call returns `kEtcPalErrOk`, and the socket has taken these bytes, each part as a whole. -/
def SentInFull (a : Ack) (bufs : List RdmBuffer) (bytes : Bytes) : Prop :=
  ∃ call results sink, a.send rdm pal = .ok call ∧ call.run ⟨results, []⟩ = some (.ok (), sink) ∧
    AllWhole (a.fragments pal bufs) (answers ClientMessage.blocked results) ∧ sink.taken = bytes

structure Returned (a : Ack) (resp : RdmnetRdmResponse) : Prop where
  rdmData : resp.rdmData = a.respData
  originalCmdHeader : resp.originalCmdHeader = a.receivedCmdHeader
  originalCmdData : resp.originalCmdData = a.receivedCmdData
  respType : resp.rdmHeader.respType = kRdmResponseTypeAck
  header : resp.rdmHeader.Answers a.receivedCmdHeader (ackDest a.receivedCmdHeader)
  complete : resp.moreComing = false

/-- Every buffer is valid, something is sent, and whoever receives it, in whatever chunks, gets one
message, from which the response is put together inside its buffer. -/
def Survives (a : Ack) : Prop :=
  ∃ bufs bytes, a.buffers rdm = .ok bufs ∧ (∀ buf ∈ bufs, rdm.validateMsg buf = true) ∧
    (∀ sent, a.SentInFull rdm pal bufs sent ↔ sent = bytes) ∧
    ∀ (m : RdmnetMessage) (cs : List Bytes), cs.flatten = bytes → ChunksFit pal m cs →
      ∃ o, (∀ os, Receives pal m cs os ↔ os = [o]) ∧ ∀ uid left, ∃ resp,
        parseRptNotification rdm true uid left o.rpt = (some resp, false) ∧ a.Returned resp

def Fits (a : Ack) : Prop :=
  87 + a.receivedCmdData.length + a.respData.length +
    29 * rdm.getNumResponsesNeeded a.receivedCmdHeader.paramId a.respData.length < 1048576

end Survives

variable {ε : Type} {rdm : RdmMessages ε} {pal : EtcPal} {a : Ack}

theorem isRdmCmd_bytes {p : RdmPacket} (h : p.data.length ≤ rdmMaxPdl) : IsRdmCmd p.bytes := by
  have h231 : p.data.length ≤ 231 := h
  have hlen := p.length_bytes
  exact ⟨rfl, by omega, by omega⟩

theorem buffers_eq (hrdm : rdm.Lawful) (ha : a.Received) : ∃ p ps, ((p :: ps).flatMap (·.data)) = a.respData ∧
      ResponsePackets a.receivedCmdHeader (ackDest a.receivedCmdHeader) (p :: ps) ∧
      a.buffers rdm = .ok ((command a.receivedCmdHeader a.receivedCmdData).bytes :: (p :: ps).map (·.bytes)) ∧
      calcNotificationPduSize ((command a.receivedCmdHeader a.receivedCmdData).bytes ::
        (p :: ps).map (·.bytes)) = 36 + a.receivedCmdData.length + a.respData.length +
          29 * rdm.getNumResponsesNeeded a.receivedCmdHeader.paramId a.respData.length := by
  obtain ⟨hh, hpid, hcmd⟩ := ha
  obtain ⟨ps, hne, hlen, hdata, hps, hbufs⟩ := ackBuffers_eq hrdm hh a.appendTo hpid hcmd a.respData
  obtain ⟨p, ps, rfl⟩ := exists_cons_of_ne_nil hne
  refine ⟨p, ps, hdata, hps, hbufs, ?_⟩
  have hsum : ∀ qs : List RdmPacket, ((qs.map (·.bytes)).map rdmCmdPduLen).sum =
      (qs.flatMap (·.data)).length + 29 * qs.length := by
    intro qs
    induction qs with
    | nil => rfl
    | cons q qs ih =>
      rw [map_cons, map_cons, sum_cons, ih, rdmCmdPduLen, q.length_bytes,
        flatMap_cons, length_append, length_cons]
      omega
  have hfirst : rdmCmdPduLen (command a.receivedCmdHeader a.receivedCmdData).bytes =
      a.receivedCmdData.length + 29 := by
    rw [rdmCmdPduLen, length_bytes]
    rfl
  rw [calcNotificationPduSize, map_cons, sum_cons, hfirst, hsum, hdata, hlen]
  show 7 + _ = _
  omega

variable {bufs : List RdmBuffer}

theorem sentInFull_iff (hpk : pal.Packs) (hbufs : a.buffers rdm = .ok bufs) (hne : bufs ≠ []) (sent : Bytes) :
    a.SentInFull rdm pal bufs sent ↔ sent = (a.fragments pal bufs).flatMap (·.bytes) := by
  have hsend : a.send rdm pal = .ok (.rcRptSendNotification pal a.cid a.rptHeader bufs) := by
    unfold send sendRdmAckInternal
    rw [show ackBuffers rdm a.appendTo true a.receivedCmdHeader a.receivedCmdData a.respData = .ok bufs
      from hbufs]
    rfl
  have hprog : Sends.rcRptSendNotification pal a.cid a.rptHeader bufs =
      sendFragments ClientMessage.blocked (a.fragments pal bufs) :=
    ClientMessage.rcRptSendNotification_eq hpk a.cid a.rptHeader hne
  constructor
  · rintro ⟨call, results, sink, hcall, hrun, hwhole, rfl⟩
    rw [hsend] at hcall
    cases hcall
    rw [hprog] at hrun
    rcases run_sendFragments hrun with ⟨e, _, he, -⟩ | ⟨-, hfail, hlen, htaken⟩
    · cases he
    · rw [htaken, (complete_iff hlen (ClientMessage.unchecked_ne_nil hpk _) hfail).mpr hwhole]
      rfl
  · rintro rfl
    have hrun : (Sends.rcRptSendNotification pal a.cid a.rptHeader bufs).run
        ⟨wholeAnswers (a.fragments pal bufs), []⟩ =
        some (.ok (), ⟨[], [] ++ (a.fragments pal bufs).flatMap (·.bytes)⟩) := by
      rw [hprog]
      exact run_wholeAnswers _ _
    exact ⟨_, _, _, hsend, hrun, allWhole_wholeAnswers _, rfl⟩

theorem packed_notification (hpk : pal.Packs) (hne : bufs ≠ [])
    (hcmds : ∀ buf ∈ bufs, IsRdmCmd buf) (hsize : 51 + calcNotificationPduSize bufs < 1048576) :
    Packed pal (a.cid, .notification (rptPduFullHeaderSize + calcNotificationPduSize bufs) a.rptHeader bufs) := by
  have hbuf : ¬ (bufs = [] ∨ rptPduFullHeaderSize + calcNotificationPduSize bufs <
      rptPduFullHeaderSize + calcNotificationPduSize bufs) := by
    rintro (hnil | hlt)
    · exact hne hnil
    · exact Nat.lt_irrefl _ hlt
  have hlen : ((Outgoing.notification (rptPduFullHeaderSize + calcNotificationPduSize bufs) a.rptHeader
      bufs).bytes pal a.cid).length = 67 + calcNotificationPduSize bufs := by
    have h39 : 39 ≤ rptPduFullHeaderSize + calcNotificationPduSize bufs :=
      le_trans (by decide) (Nat.le_add_right 67 _)
    rw [Outgoing.bytes, rcRptPackNotification, if_neg hbuf, (packRpt_eq hpk h39 _).2, length_append,
      length_packRequestNotifHeader hpk, length_flatMap_packRdmCmdPdu hpk hcmds]
    rfl
  refine ⟨hcmds, ?_, ?_⟩
  · intro hnil
    rw [show (Outgoing.notification (rptPduFullHeaderSize + calcNotificationPduSize bufs) a.rptHeader
      bufs).bytes pal a.cid = [] from hnil] at hlen
    rw [length_nil] at hlen
    omega
  · show List.length (Outgoing.bytes pal a.cid _) < 16 + 1048576
    rw [hlen]
    omega

/-- **An RDM response survives** its way through an RPT notification, if the notification is not too long
for the length fields of its PDUs. -/
theorem survives_of_fits (hpal : pal.Lawful) (hpk : pal.Packs) (hu : pal.Uniform) (hrdm : rdm.Lawful)
    (a : Ack) (ha : a.Received) (hfits : a.Fits rdm) : a.Survives rdm pal := by
  obtain ⟨p, ps, hdata, hps, hbufs, hsize⟩ := buffers_eq hrdm ha
  obtain ⟨hh, -, hcmd⟩ := ha
  obtain ⟨bufs, hdef⟩ : ∃ bufs, bufs = (command a.receivedCmdHeader a.receivedCmdData).bytes ::
    (p :: ps).map (·.bytes) := ⟨_, rfl⟩
  rw [← hdef] at hbufs hsize
  have hne : bufs ≠ [] := by
    rw [hdef]
    exact cons_ne_nil _ _
  have hpackets : ∀ buf ∈ bufs, ∃ q : RdmPacket, buf = q.bytes ∧ q.data.length ≤ rdmMaxPdl := by
    intro buf hbuf
    rw [hdef] at hbuf
    rcases mem_cons.mp hbuf with rfl | hbuf
    · exact ⟨_, rfl, hcmd⟩
    · obtain ⟨q, hq, rfl⟩ := mem_map.mp hbuf
      exact ⟨q, rfl, (hps q hq).1⟩
  have hsmall : 51 + calcNotificationPduSize bufs < 1048576 := by
    unfold Fits at hfits
    omega
  have hpacked : Packed pal (a.cid, .notification (rptPduFullHeaderSize + calcNotificationPduSize bufs)
      a.rptHeader bufs) := by
    refine packed_notification hpk hne (fun buf hbuf => ?_) hsmall
    obtain ⟨q, rfl, hq⟩ := hpackets buf hbuf
    exact isRdmCmd_bytes hq
  have hencoding : (a.fragments pal bufs).flatMap (·.bytes) = packAll pal
      [(a.cid, .notification (rptPduFullHeaderSize + calcNotificationPduSize bufs) a.rptHeader bufs)] := by
    have henc : (ClientMessage.notification a.cid a.rptHeader bufs).encoding pal ⟨a.cid, default⟩ = _ :=
      ClientMessage.encoding_eq hpk hu (.notification a.cid a.rptHeader bufs) (if_neg hne)
    exact henc.symm.trans (append_nil _).symm
  refine ⟨bufs, _, hbufs, ?_, sentInFull_iff hpk hbufs hne, ?_⟩
  · intro buf hbuf
    obtain ⟨q, rfl, hq⟩ := hpackets buf hbuf
    exact hrdm.validate q hq
  · intro m cs hcs hfit
    obtain ⟨os, hos, harrives⟩ := receives_packed hpal hpk m _ (by
      intro x hx
      rw [mem_singleton.mp hx]
      exact hpacked) cs (hcs.trans hencoding) hfit
    obtain ⟨o, os, ⟨hrpt, hlist⟩, hnil, rfl⟩ := List.forall₂_cons_left_iff.mp harrives
    rw [List.forall₂_nil_left_iff.mp hnil] at hos
    refine ⟨o, hos, fun uid left => ?_⟩
    rw [hdef] at hlist
    have hp : p ∈ p :: ps := mem_cons_self
    exact ⟨_, parseRptNotification_ack hrdm hh hcmd hps hlist uid left, hdata, rfl, rfl,
      whole_ack (hps p hp).2.1, whole_answers (hps.header hp), rfl⟩

def sampleAck : Ack where
  cid := default
  rptHeader := default
  receivedCmdHeader := { (default : RdmCommandHeader) with commandClass := kRdmCCSetCommand }
  receivedCmdData := [1, 2]
  respData := List.replicate 300 7
  appendTo := fun responses => responses

theorem survives_of_fits_set : sampleAck.Survives RdmMessages.reference EtcPal.reference :=
  survives_of_fits reference_lawful reference_packs reference_uniform
    RdmMessages.reference_lawful sampleAck ⟨.inr rfl, by decide, by decide⟩
    (by unfold Fits; decide +kernel)

/-! ### A notification that is too long -/

/-- The message buffer while it throws away a block of `n` bytes, of which `k` are gone. -/
def skippingBuf (n k : Nat) : RCMsgBuf :=
  if k = n then rcMsgBufInit else ⟨true, ⟨⟨n, k, true, false⟩, default⟩⟩

theorem skippingBuf_drains {n k : Nat} (hn : n < 18446744073709551616) (hk : k < n) {c : Bytes}
    (hc : k + c.length ≤ n) (m : RdmnetMessage × Heap) :
    ∃ lg, BufDrains pal (skippingBuf n k) m c (skippingBuf n (k + c.length)) m [] [] lg := by
  have hroom : (⟨n, k, true, false⟩ : PduBlockState).room = n - k := sizeSub_of_le (le_of_lt hk) hn
  have hparse : parseRlpBlock pal ⟨⟨n, k, true, false⟩, default⟩ m c =
      skipAt (fun b s => { s with block := b }) ⟨n, k, true, false⟩ ⟨⟨n, k, true, false⟩, default⟩ m c [] :=
    Layer.parse_skip rfl (.inl rfl)
  have hstart : skippingBuf n k = ⟨true, ⟨⟨n, k, true, false⟩, default⟩⟩ := if_neg (Nat.ne_of_lt hk)
  rw [hstart]
  by_cases hend : k + c.length = n
  · -- the last bytes of the block: the buffer looks for the next preamble
    have hround : parseDataRound pal ⟨true, ⟨⟨n, k, true, false⟩, default⟩⟩ m c =
        ⟨rcMsgBufInit, m, c.length, none, [.assigned true, .check true]⟩ := by
      rw [parseDataRound_block rfl, parseDataBlock, hparse, skipAt,
        consumeBadBlock_of_le (by rw [hroom]; omega), hroom]
      have hused : n - k = c.length := by omega
      simp [blockResult, hused, rcMsgBufInit]
    have hcall : rcMsgBufParseData pal ⟨true, ⟨⟨n, k, true, false⟩, default⟩⟩ m c =
        ⟨rcMsgBufInit, m, c.length, .noData, [.assigned true, .check true]⟩ := by
      have hrest : rcMsgBufParseData pal rcMsgBufInit m [] = ⟨rcMsgBufInit, m, 0, .noData, []⟩ :=
        rcMsgBufParseData_nil m
      unfold rcMsgBufParseData at hrest ⊢
      rw [Parser.iterate_none parseDataRound_decreases _ (congrArg Out.res hround), hround]
      rw [drop_length, hrest]
      rfl
    have hd : BufDrains pal _ m c rcMsgBufInit m (c.drop c.length) [] _ := .wait_of hcall rfl
    rw [drop_length] at hd
    exact ⟨_, by rw [hend, skippingBuf, if_pos rfl]; exact hd⟩
  · have hround : parseDataRound pal ⟨true, ⟨⟨n, k, true, false⟩, default⟩⟩ m c =
        ⟨⟨true, ⟨⟨n, k + c.length, true, false⟩, default⟩⟩, m, c.length, some .noData,
          [.assigned true, .check true]⟩ := by
      rw [parseDataRound_block rfl, parseDataBlock, hparse, skipAt, consumeBadBlock_of_lt (by rw [hroom]; omega)]
      simp [blockResult, PduBlockState.eat]
    have hcall : rcMsgBufParseData pal ⟨true, ⟨⟨n, k, true, false⟩, default⟩⟩ m c =
        ⟨⟨true, ⟨⟨n, k + c.length, true, false⟩, default⟩⟩, m, c.length, .noData,
          [.assigned true, .check true]⟩ := by
      unfold rcMsgBufParseData
      rw [Parser.iterate_some parseDataRound_decreases _ (congrArg Out.res hround), hround]
    have hd : BufDrains pal _ m c _ m (c.drop c.length) [] _ := .wait_of hcall rfl
    rw [drop_length] at hd
    exact ⟨_, by rw [skippingBuf, if_neg hend]; exact hd⟩

theorem skippingBuf_feeds {n : Nat} (hn : n < 18446744073709551616) (m : RdmnetMessage × Heap)
    {fits : Bytes → Bytes → Prop} (hfits : ∀ b, fits [] [b]) (rest : Bytes) :
    ∀ k, k + rest.length ≤ n → ∃ lg, BufFeeds pal fits (skippingBuf n k) m [] (rest.map ([·]))
      (skippingBuf n (k + rest.length)) m [] [] lg := by
  induction rest with
  | nil => exact fun k _ => ⟨[], Feeds.nil⟩
  | cons b rest ih =>
    intro k hk
    rw [length_cons] at hk
    obtain ⟨lg1, hdrain⟩ : ∃ lg, BufDrains pal (skippingBuf n k) m [b] (skippingBuf n (k + 1)) m [] [] lg :=
      skippingBuf_drains hn (by omega) (show k + [b].length ≤ n by rw [length_singleton]; omega) m
    obtain ⟨lg2, hfeed⟩ := ih (k + 1) (by omega)
    have hend : k + 1 + rest.length = k + (b :: rest).length := by
      rw [length_cons]
      omega
    rw [hend] at hfeed
    exact ⟨lg1 ++ lg2, Feeds.cons (hfits b) hdrain hfeed⟩

/-- The preamble and the root layer header of a notification of 2^20 bytes: the length field of the header
is 0. -/
def overlongHead : Bytes :=
  packetIdent ++ packU32 1048576 ++ ([0xf0, 0, 0] ++ packU32 acnVectorRootRpt ++
    (default : Uuid).toList)

theorem overlongHead_drains : ∃ lg, BufDrains EtcPal.reference rcMsgBufInit (default, .plenty)
    overlongHead (skippingBuf 1048576 23) (default, .plenty) [] [] lg := by
  have hcall : rcMsgBufParseData EtcPal.reference rcMsgBufInit (default, .plenty) overlongHead =
      ⟨skippingBuf 1048576 23, (default, .plenty), 39, .noData,
        [.preamble 1048576, .assigned true, .check true]⟩ := by
    have hfound : findTcpPreamble EtcPal.reference overlongHead = some (0, 1048576) := by decide +kernel
    have hblock : parseDataBlock EtcPal.reference ⟨true, ⟨.start 1048576, default⟩⟩ (default, .plenty)
        (overlongHead.drop 16) = ⟨skippingBuf 1048576 23, (default, .plenty), 23, some .noData,
          [.assigned true, .check true]⟩ := by
      rfl
    have hround : parseDataRound EtcPal.reference rcMsgBufInit (default, .plenty) overlongHead =
        ⟨skippingBuf 1048576 23, (default, .plenty), 39, some .noData,
          [.preamble 1048576, .assigned true, .check true]⟩ :=
      (parseDataRound_preamble rfl hfound (by decide)).trans
        (congrArg (Out.since 16 [.preamble 1048576]) hblock)
    unfold rcMsgBufParseData
    rw [Parser.iterate_some parseDataRound_decreases _ (congrArg Out.res hround), hround]
  exact ⟨_, Drains.wait_of hcall rfl⟩

theorem overlong_lost {rest : Bytes} (hrest : rest.length = 1048553) :
    ChunksFit EtcPal.reference default (overlongHead :: rest.map ([·])) ∧
      Receives EtcPal.reference default (overlongHead :: rest.map ([·])) [] := by
  obtain ⟨lg1, hhead⟩ := overlongHead_drains
  have hfeeds : ∀ fits : Bytes → Bytes → Prop, fits [] overlongHead → (∀ b, fits [] [b]) →
      ∀ r : Bytes, r.length ≤ 1048553 → ∃ s lg, BufFeeds EtcPal.reference fits rcMsgBufInit
        (default, .plenty) [] (overlongHead :: r.map ([·])) s (default, .plenty) [] [] lg := by
    intro fits hfirst hfits r hr
    obtain ⟨lg2, hskip⟩ : ∃ lg, BufFeeds EtcPal.reference fits (skippingBuf 1048576 23)
        (default, .plenty) [] (r.map ([·])) (skippingBuf 1048576 (23 + r.length)) (default, .plenty) [] []
        lg := skippingBuf_feeds (by decide) _ hfits r 23 (by omega)
    exact ⟨_, _, Feeds.cons hfirst hhead hskip⟩
  have hone : ∀ b, FitsBuf [] [b] := fun b => show 0 + 1 ≤ 2400 by decide
  refine ⟨?_, ?_⟩
  · intro cs1 c cs2 hcs s1 m1 b1 os1 lg hfeed
    cases cs1 with
    | nil =>
      cases hfeed
      cases hcs
      exact (by decide : FitsBuf [] overlongHead)
    | cons c1 cs1 =>
      obtain ⟨rfl, htail⟩ := List.cons.inj hcs
      obtain ⟨r1, r2, rfl, rfl, h2⟩ := map_eq_append_iff.mp htail
      obtain ⟨b, r3, rfl, rfl, -⟩ := map_eq_cons_iff.mp h2
      rw [length_append] at hrest
      obtain ⟨s, lg', hfeed'⟩ := hfeeds (fun _ _ => True) trivial (fun _ => trivial) r1
        (by omega)
      obtain ⟨-, -, rfl, -, -⟩ := hfeed.unique hfeed'
      exact hone b
  · have hhead' : FitsBuf [] overlongHead := by decide
    obtain ⟨s, lg, hfeed⟩ := hfeeds FitsBuf hhead' hone rest (le_of_eq hrest)
    exact ⟨s, _, _, [], lg, hfeed, rfl⟩

def longAck : Ack where
  cid := default
  rptHeader := default
  receivedCmdHeader := { (default : RdmCommandHeader) with commandClass := kRdmCCGetCommand }
  receivedCmdData := []
  respData := List.replicate 931532 0
  appendTo := fun responses => responses

theorem longAck_bytes (hcmds : ∀ buf ∈ bufs, IsRdmCmd buf) (hlong : calcNotificationPduSize bufs = 1048525) :
    ∃ rest : Bytes, rest.length = 1048553 ∧
      (longAck.fragments EtcPal.reference bufs).flatMap (·.bytes) = overlongHead ++ rest := by
  refine ⟨packRptHeader EtcPal.reference 1048553 vectorRptNotification longAck.rptHeader ++
    (packRequestNotifHeader EtcPal.reference 1048525 vectorNotificationRdmCmd ++
      bufs.flatMap (packRdmCmdPdu EtcPal.reference)), ?_, ?_⟩
  · have hsum : 7 + (bufs.map rdmCmdPduLen).sum = 1048525 := hlong
    rw [length_append, length_append, length_packRptHeader reference_packs,
      length_packRequestNotifHeader reference_packs,
      length_flatMap_packRdmCmdPdu reference_packs hcmds]
    show 28 + (7 + _) = 1048553
    omega
  · simp only [fragments, ClientMessage.fragments, hlong, ClientMessage.rptFragments,
      ClientMessage.headerFragments, flatMap_append, flatMap_cons, flatMap_nil,
      append_nil, ClientMessage.flatMap_checked, append_assoc]
    rfl

/-- It is lost. -/
theorem long_response_lost : longAck.Received ∧ ¬ longAck.Survives RdmMessages.reference EtcPal.reference := by
  have hreceived : longAck.Received := ⟨.inl rfl, by decide, zero_le⟩
  refine ⟨hreceived, ?_⟩
  rintro ⟨bufs, bytes, hbufs, -, hsent, hreceives⟩
  obtain ⟨p, ps, -, hps, hbufs', hsize⟩ := buffers_eq RdmMessages.reference_lawful hreceived
  rw [hbufs] at hbufs'
  have hdef := Except.ok.inj hbufs'
  have hne : bufs ≠ [] := by
    rw [hdef]
    exact cons_ne_nil _ _
  have hcmds : ∀ buf ∈ bufs, IsRdmCmd buf := by
    intro buf hbuf
    rw [hdef] at hbuf
    rcases mem_cons.mp hbuf with rfl | hbuf
    · exact isRdmCmd_bytes zero_le
    · obtain ⟨q, hq, rfl⟩ := mem_map.mp hbuf
      exact isRdmCmd_bytes (hps q hq).1
  have hlen : longAck.respData.length = 931532 := length_replicate
  have hlong : calcNotificationPduSize bufs = 1048525 := by
    rw [hdef, hsize, hlen]
    decide
  obtain ⟨rest, hrest, hbytes⟩ := longAck_bytes hcmds hlong
  obtain ⟨hfit, hnothing⟩ := overlong_lost hrest
  have hflat : (overlongHead :: rest.map ([·])).flatten = bytes := by
    rw [(sentInFull_iff reference_packs hbufs hne bytes).mp ((hsent bytes).mpr rfl), hbytes,
      flatten_cons, ← flatMap_def, flatMap_singleton']
  obtain ⟨o, hos, -⟩ := hreceives default _ hflat hfit
  cases (hos []).mp hnothing

end Ack

end RDMnet
