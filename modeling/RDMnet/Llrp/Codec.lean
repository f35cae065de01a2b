import RDMnet.Llrp.Prot

/-!
# LLRP messages are read as they were sent

A datagram has a UDP preamble, a root layer PDU, an LLRP PDU and an inner PDU, each with a length of its
own.  The lengths are computed by the functions that pack and checked by those that parse:
`rcParseLlrpMessage_pack` takes the outer layers off, and one lemma for each kind of message reads the
inner one.

The parser does not look at the vector of the root layer, so that it takes the PDUs of other protocols for
LLRP where they look like it; `LlrpShaped` is what an LLRP PDU looks like to it.
-/

namespace RDMnet

variable {pal : EtcPalUdp}

/-! ### Reading behind a part of the buffer -/

section Reads

variable {p : Bytes} {k : Nat}

section

variable (hp : p.length = k)
include hp

theorem u8At_pack_behind (x : UInt8) (d : Bytes) : u8At (p ++ (x :: d)) k = x := by
  rw [u8At_skip (by omega), hp, Nat.sub_self]
  rfl

theorem u16At_pack_behind (x : UInt16) (d : Bytes) : u16At (p ++ (packU16 x ++ d)) k = x := by
  rw [u16At_skip (by omega), hp, Nat.sub_self, u16At_pack]

theorem u32At_pack_behind (x : UInt32) (d : Bytes) : u32At (p ++ (packU32 x ++ d)) k = x := by
  rw [u32At_skip (by omega), hp, Nat.sub_self, u32At_pack]

theorem vecAt_pack_behind {n : Nat} (v : Vector UInt8 n) (d : Bytes) :
    vecAt n (p ++ (v.toList ++ d)) k = v := by
  rw [vecAt_skip (by omega), hp, Nat.sub_self, vecAt_pack]

theorem uidAt_pack_behind (uid : RdmUid) (d : Bytes) : uidAt (p ++ (packUid uid ++ d)) k = uid := by
  unfold uidAt packUid
  rw [List.append_assoc, u16At_pack_behind hp]
  have hid : u32At (p ++ (packU16 uid.manu ++ (packU32 uid.id ++ d))) (k + 2) = uid.id := by
    rw [← List.append_assoc p]
    exact u32At_pack_behind (by rw [List.length_append, hp, length_packU16]) uid.id d
  rw [hid]

end

end Reads

/-! ### The layers -/

def RootLayer (pal : EtcPalUdp) (buf : Bytes) (rlp : AcnRootLayerPdu) (pdata : Bytes) : Prop :=
  ∃ block, pal.acnParseUdpPreamble buf = some block ∧
    pal.acnParseRootLayerPdu block = some (rlp, pdata)

section Layers

variable (h : pal.Inverse)

include h

theorem acnPduLength_pack {n : Nat} (hn : n < 1048576) (d : Bytes) :
    pal.acnPduLength (pal.acnPduPackExtLen n ++ d) = n := by
  rw [h.lawful.length_append _ _ (le_of_eq (h.packs.extLen_length n).symm), h.packs.extLen_read n hn]

theorem length_packLlrpHeader (pduLen : Nat) (vector : UInt32) (header : LlrpHeader) :
    (packLlrpHeader pal pduLen vector header).length = llrpHeaderSize := by
  unfold packLlrpHeader
  simp only [List.length_append, h.packs.extLen_length, length_packU32, Vector.length_toList]

theorem acnPduLength_packLlrpHeader {pduLen : Nat} (hmax : pduLen < 1048576) (vector : UInt32)
    (header : LlrpHeader) (pdu : Bytes) :
    pal.acnPduLength (packLlrpHeader pal pduLen vector header ++ pdu) = pduLen := by
  unfold packLlrpHeader
  rw [List.append_assoc, List.append_assoc, List.append_assoc]
  exact acnPduLength_pack h hmax _

theorem destCid_packLlrpHeader (pduLen : Nat) (vector : UInt32) (header : LlrpHeader) (pdu : Bytes) :
    vecAt 16 (packLlrpHeader pal pduLen vector header ++ pdu) 7 = header.destCid := by
  unfold packLlrpHeader
  rw [List.append_assoc, List.append_assoc]
  exact vecAt_pack_behind
    (by rw [List.length_append, h.packs.extLen_length, length_packU32]) header.destCid _

theorem parseLlrpPdu_pack {interest : LlrpMessageInterest} {header : LlrpHeader} {vector : UInt32}
    {pdu : Bytes} {pduLen : Nat} (hlen : pduLen = llrpHeaderSize + pdu.length)
    (hmin : probeReplyPduSize ≤ pdu.length) (hmax : pduLen < 1048576)
    (hdest : header.destCid = kLlrpBroadcastCid ∨ header.destCid = interest.myCid) :
    parseLlrpPdu pal interest header.senderCid (packLlrpHeader pal pduLen vector header ++ pdu) =
      (parseLlrpBody pal interest header.senderCid vector pdu).map fun data => ⟨vector, header, data⟩ := by
  have hhead := length_packLlrpHeader h pduLen vector header
  have hbuf : (packLlrpHeader pal pduLen vector header ++ pdu).length = pduLen := by
    rw [List.length_append, hhead, hlen]
  have h17 : 17 ≤ pdu.length := hmin
  have h44 : 44 ≤ pduLen := by
    rw [hlen]
    show 44 ≤ 27 + pdu.length
    omega
  have hext := h.packs.extLen_length pduLen
  have hvector : u32At (packLlrpHeader pal pduLen vector header ++ pdu) 3 = vector := by
    unfold packLlrpHeader
    rw [List.append_assoc, List.append_assoc, List.append_assoc]
    exact u32At_pack_behind hext vector _
  have htrans : u32At (packLlrpHeader pal pduLen vector header ++ pdu) 23 =
      header.transactionNumber := by
    unfold packLlrpHeader
    rw [List.append_assoc]
    exact u32At_pack_behind (by simp [hext]) header.transactionNumber _
  have hrest : ((packLlrpHeader pal pduLen vector header ++ pdu).take pduLen).drop llrpHeaderSize =
      pdu := by
    rw [List.take_of_length_le (le_of_eq hbuf), ← hhead, List.drop_left]
  unfold parseLlrpPdu
  dsimp only
  rw [acnPduLength_packLlrpHeader h hmax, hvector, destCid_packLlrpHeader h, htrans, hrest, hbuf,
    if_neg (by show ¬ pduLen < 44; omega),
    if_neg (by show ¬ (pduLen > pduLen ∨ pduLen < 44); omega), if_pos hdest]

/-- The inner PDUs that fit into the buffers. -/
structure LlrpFits (bufSize dataLen : Nat) (pdu : Bytes) : Prop where
  dataLen : dataLen = llrpHeaderSize + pdu.length
  min : probeReplyPduSize ≤ pdu.length
  max : pdu.length ≤ 1218
  room : llrpTargetMaxMessageSize ≤ bufSize

omit h in
theorem LlrpFits.sizes {bufSize dataLen : Nat} {pdu : Bytes} (hfits : LlrpFits bufSize dataLen pdu) :
    dataLen = 27 + pdu.length ∧ 17 ≤ pdu.length ∧ pdu.length ≤ 1218 ∧ 326 ≤ bufSize :=
  ⟨hfits.dataLen, hfits.min, hfits.max, hfits.room⟩

variable {header : LlrpHeader} {vector : UInt32} {pdu : Bytes} {bufSize dataLen : Nat}
  (hfits : LlrpFits bufSize dataLen pdu)

include hfits

theorem packLlrpMessage_root : RootLayer pal (packLlrpMessage pal bufSize header vector dataLen pdu)
      ⟨acnVectorRootLlrp, header.senderCid, dataLen⟩ (packLlrpHeader pal dataLen vector header ++ pdu) := by
  obtain ⟨hlen, hmin, hmax, hbuf⟩ := hfits.sizes
  have hpre := h.udp_length bufSize (show 16 ≤ bufSize by omega)
  have hroom : acnRlpHeaderSizeExtLen ≤ bufSize - (pal.acnPackUdpPreamble bufSize).length := by
    rw [hpre]
    show 23 ≤ bufSize - 16
    omega
  refine ⟨_, h.udp_read _ _ (show 16 ≤ bufSize by omega), ?_⟩
  refine h.root_pdu_read _ ⟨acnVectorRootLlrp, header.senderCid, dataLen⟩ _ hroom
    (show 23 + dataLen < 1048576 by omega) ?_
  rw [List.length_append, length_packLlrpHeader h, hlen]

theorem length_packLlrpMessage :
    (packLlrpMessage pal bufSize header vector dataLen pdu).length = 66 + pdu.length := by
  obtain ⟨hlen, hmin, hmax, hbuf⟩ := hfits.sizes
  have hpre := h.udp_length bufSize (show 16 ≤ bufSize by omega)
  have hroom : acnRlpHeaderSizeExtLen ≤ bufSize - (pal.acnPackUdpPreamble bufSize).length := by
    rw [hpre]
    show 23 ≤ bufSize - 16
    omega
  have hroot := h.packs.root_length _ ⟨acnVectorRootLlrp, header.senderCid, dataLen⟩ hroom
  unfold packLlrpMessage
  dsimp only
  rw [List.length_append, List.length_append, List.length_append, hroot, hpre, length_packLlrpHeader h]
  show 16 + (23 + (27 + pdu.length)) = 66 + pdu.length
  omega

/-- **A datagram is what is in its LLRP PDU.** -/
theorem rcParseLlrpMessage_pack {interest : LlrpMessageInterest}
    (hdest : header.destCid = kLlrpBroadcastCid ∨ header.destCid = interest.myCid) :
    rcParseLlrpMessage pal interest (packLlrpMessage pal bufSize header vector dataLen pdu) =
      (parseLlrpBody pal interest header.senderCid vector pdu).map fun data => ⟨vector, header, data⟩ := by
  obtain ⟨hlen, hmin, hmax, hbuf⟩ := hfits.sizes
  have hroot : RootLayer pal (packLlrpMessage pal bufSize header vector dataLen pdu) _ _ :=
    packLlrpMessage_root h hfits
  obtain ⟨block, hblock, hroot⟩ := hroot
  unfold rcParseLlrpMessage
  rw [if_neg (by rw [length_packLlrpMessage h hfits]; show ¬ 66 + pdu.length < 83; omega), hblock]
  dsimp only
  rw [hroot]
  exact parseLlrpPdu_pack h hfits.dataLen hfits.min (by omega) hdest

end Layers

/-! ### The inner PDUs -/

@[simp] theorem length_flatMap_packUid (uids : List RdmUid) :
    (uids.flatMap packUid).length = uids.length * 6 := by
  induction uids with
  | nil => rfl
  | cons uid uids ih =>
    rw [List.flatMap_cons, List.length_append, ih, List.length_cons]
    show 6 + uids.length * 6 = (uids.length + 1) * 6
    omega

theorem suppressed_flatMap (myUid : RdmUid) (uids : List RdmUid) :
    suppressed myUid (uids.flatMap packUid) = decide (myUid ∈ uids) := by
  induction uids with
  | nil =>
    rw [suppressed, if_neg (by simp)]
    simp
  | cons uid uids ih =>
    have hlen : 6 ≤ ((uid :: uids).flatMap packUid).length := by
      rw [length_flatMap_packUid, List.length_cons]
      omega
    have huid : uidAt ((uid :: uids).flatMap packUid) 0 = uid := by
      rw [List.flatMap_cons, ← List.nil_append (packUid uid ++ _)]
      exact uidAt_pack_behind List.length_nil uid _
    have hrest : ((uid :: uids).flatMap packUid).drop 6 = uids.flatMap packUid := by
      rw [List.flatMap_cons]
      exact List.drop_left' (by simp [packUid])
    rw [suppressed, if_pos hlen, huid, hrest, ih]
    by_cases heq : myUid = uid
    · simp [heq]
    · simp [heq]

section Bodies

variable (h : pal.Inverse)

include h

/-- **Probe requests.** -/
theorem parseLlrpProbeRequest_pack (interest : LlrpMessageInterest) (request : LocalProbeRequest)
    {pduLen : Nat} (hlen : pduLen = probeRequestPduMinSize + request.knownUids.length * 6)
    (hknown : request.knownUids.length ≤ llrpKnownUidSize) : parseLlrpProbeRequest pal interest
        (pal.acnPduPackExtLen pduLen ++ [vectorProbeRequestData] ++ packUid request.lowerUid ++
          packUid request.upperUid ++ packU16 request.filter ++ request.knownUids.flatMap packUid) =
      some ⟨decide (request.lowerUid.key ≤ interest.myUid.key ∧
        interest.myUid.key ≤ request.upperUid.key ∧ interest.myUid ∉ request.knownUids), request.filter⟩ := by
  have hext := h.packs.extLen_length pduLen
  have h18 : pduLen = 18 + request.knownUids.length * 6 := hlen
  have h200 : request.knownUids.length ≤ 200 := hknown
  generalize hbuf : pal.acnPduPackExtLen pduLen ++ [vectorProbeRequestData] ++
    packUid request.lowerUid ++ packUid request.upperUid ++ packU16 request.filter ++
    request.knownUids.flatMap packUid = buf
  have hpdu : pal.acnPduLength buf = pduLen := by
    rw [← hbuf]
    simp only [List.append_assoc]
    exact acnPduLength_pack h (by omega) _
  have hlength : buf.length = pduLen := by
    rw [← hbuf]
    simp only [List.length_append, hext, length_flatMap_packUid]
    rw [h18]
    rfl
  have hvector : u8At buf 3 = vectorProbeRequestData := by
    rw [← hbuf]
    simp only [List.append_assoc]
    exact u8At_pack_behind hext _ _
  have hlower : uidAt buf 4 = request.lowerUid := by
    rw [← hbuf, List.append_assoc, List.append_assoc, List.append_assoc]
    exact uidAt_pack_behind (by simp [hext]) _ _
  have hupper : uidAt buf 10 = request.upperUid := by
    rw [← hbuf, List.append_assoc, List.append_assoc]
    exact uidAt_pack_behind (by simp [hext, packUid]) _ _
  have hfilter : u16At buf 16 = request.filter := by
    rw [← hbuf, List.append_assoc]
    exact u16At_pack_behind (by simp [hext, packUid]) _ _
  have hrest : (buf.take pduLen).drop probeRequestPduMinSize = request.knownUids.flatMap packUid := by
    rw [List.take_of_length_le (le_of_eq hlength), ← hbuf]
    exact List.drop_left' (by simp [hext, packUid])
  unfold parseLlrpProbeRequest
  dsimp only
  rw [hpdu, hlength, hvector, hlower, hupper, hfilter, hrest, suppressed_flatMap,
    if_neg (by show ¬ pduLen < 18; omega), if_neg (by show ¬ (pduLen > pduLen ∨ pduLen < 18); omega),
    if_neg (by simp)]
  simp only [rdmUidCompare_sign]
  by_cases hlo : request.lowerUid.key ≤ interest.myUid.key
  · by_cases hup : interest.myUid.key ≤ request.upperUid.key
    · simp [hlo, hup]
    · simp [hup]
  · simp [hlo]

/-- **Probe replies.** -/
theorem parseLlrpProbeReply_pack (cid : Uuid) (target : LlrpDiscoveredTarget) : parseLlrpProbeReply pal cid
        (pal.acnPduPackExtLen probeReplyPduSize ++ [vectorProbeReplyData] ++ packUid target.uid ++
          target.hardwareAddress.toList ++ [target.componentType]) = some { target with cid } := by
  have hext := h.packs.extLen_length probeReplyPduSize
  generalize hbuf : pal.acnPduPackExtLen probeReplyPduSize ++ [vectorProbeReplyData] ++
    packUid target.uid ++ target.hardwareAddress.toList ++ [target.componentType] = buf
  have hpdu : pal.acnPduLength buf = probeReplyPduSize := by
    rw [← hbuf]
    simp only [List.append_assoc]
    exact acnPduLength_pack h (by decide) _
  have hlength : buf.length = probeReplyPduSize := by
    rw [← hbuf]
    simp [hext, packUid]
  have hvector : u8At buf 3 = vectorProbeReplyData := by
    rw [← hbuf]
    simp only [List.append_assoc]
    exact u8At_pack_behind hext _ _
  have huid : uidAt buf 4 = target.uid := by
    rw [← hbuf, List.append_assoc, List.append_assoc]
    exact uidAt_pack_behind (by simp [hext]) _ _
  have hmac : vecAt 6 buf 10 = target.hardwareAddress := by
    rw [← hbuf, List.append_assoc]
    exact vecAt_pack_behind (by simp [hext, packUid]) _ _
  have htype : u8At buf 16 = target.componentType := by
    rw [← hbuf]
    exact u8At_pack_behind (by simp [hext, packUid]) _ _
  unfold parseLlrpProbeReply
  rw [hpdu, hlength, hvector, huid, hmac, htype, if_neg (by decide), if_neg (by simp), if_neg (by simp)]

/-- **RDM messages.** -/
theorem parseLlrpRdmCommand_pack {cmd : RdmBuffer} {pduLen : Nat} (hlen : pduLen = 3 + cmd.length)
    (hmin : rdmMinBytes ≤ cmd.length) (hmax : cmd.length ≤ rdmMaxBytes)
    (hstart : cmd.head? = some vectorRdmCmdRdmData) :
    parseLlrpRdmCommand pal (pal.acnPduPackExtLen pduLen ++ cmd) = some cmd := by
  have hext := h.packs.extLen_length pduLen
  have h26 : 26 ≤ cmd.length := hmin
  have h257 : cmd.length ≤ 257 := hmax
  have hpdu := acnPduLength_pack h (show pduLen < 1048576 by omega) cmd
  have hlength : (pal.acnPduPackExtLen pduLen ++ cmd).length = pduLen := by
    rw [List.length_append, hext, hlen]
  have hvector : u8At (pal.acnPduPackExtLen pduLen ++ cmd) 3 = vectorRdmCmdRdmData := by
    obtain ⟨first, rest, rfl⟩ := List.exists_cons_of_length_pos (l := cmd) (by omega)
    rw [u8At_pack_behind hext]
    simpa using hstart
  have hrest : ((pal.acnPduPackExtLen pduLen ++ cmd).take pduLen).drop 3 = cmd := by
    rw [List.take_of_length_le (le_of_eq hlength)]
    exact List.drop_left' hext
  unfold parseLlrpRdmCommand
  dsimp only
  rw [hpdu, hlength, hvector, hrest, if_neg (by show ¬ pduLen < 29; omega),
    if_neg (by show ¬ (pduLen > pduLen ∨ pduLen > 260 ∨ pduLen < 29); omega), if_neg (by simp)]

end Bodies

/-! ### What is sent -/

/-- The messages that the library sends. -/
inductive LlrpOutgoing
  | probeRequest (request : LocalProbeRequest)
  | probeReply (targetInfo : LlrpDiscoveredTarget)
  | rdmCommand (cmd : RdmBuffer)
  | rdmResponse (resp : RdmBuffer)

namespace LlrpOutgoing

/-- The bytes that are passed to `etcpal_sendto`. -/
def sent (pal : EtcPalUdp) (header : LlrpHeader) : LlrpOutgoing → Option Bytes
  | .probeRequest request => rcSendLlrpProbeRequest pal header request
  | .probeReply targetInfo => some (rcSendLlrpProbeReply pal header targetInfo)
  | .rdmCommand cmd => some (rcSendLlrpRdmCommand pal header cmd)
  | .rdmResponse resp => some (rcSendLlrpRdmResponse pal header resp)

def RdmValid (cmd : RdmBuffer) : Prop :=
  rdmMinBytes ≤ cmd.length ∧ cmd.length ≤ rdmMaxBytes ∧ cmd.head? = some vectorRdmCmdRdmData

def Valid : LlrpOutgoing → Prop
  | .probeRequest request => request.knownUids.length ≤ llrpKnownUidSize
  | .probeReply _ => True
  | .rdmCommand cmd => RdmValid cmd
  | .rdmResponse resp => RdmValid resp

def Interests (interest : LlrpMessageInterest) : LlrpOutgoing → Prop
  | .probeRequest _ => interest.interestedInProbeRequest = true
  | .probeReply _ => interest.interestedInProbeReply = true
  | .rdmCommand _ => True
  | .rdmResponse _ => True

/-- What the receiver gets: of a probe request, whether it is meant; a probe reply is from the sender of
the message. -/
def received (interest : LlrpMessageInterest) (header : LlrpHeader) : LlrpOutgoing → LlrpMessage
  | .probeRequest request =>
    ⟨vectorLlrpProbeRequest, header, .probeRequest ⟨decide (request.lowerUid.key ≤ interest.myUid.key ∧
        interest.myUid.key ≤ request.upperUid.key ∧ interest.myUid ∉ request.knownUids), request.filter⟩⟩
  | .probeReply targetInfo =>
    ⟨vectorLlrpProbeReply, header, .probeReply { targetInfo with cid := header.senderCid }⟩
  | .rdmCommand cmd => ⟨vectorLlrpRdmCmd, header, .rdm cmd⟩
  | .rdmResponse resp => ⟨vectorLlrpRdmCmd, header, .rdm resp⟩

variable (h : pal.Inverse) {interest : LlrpMessageInterest} {header : LlrpHeader}
  (hdest : header.destCid = kLlrpBroadcastCid ∨ header.destCid = interest.myCid)

include h hdest

theorem probeRequest_trips {request : LocalProbeRequest}
    (hknown : request.knownUids.length ≤ llrpKnownUidSize) (hint : interest.interestedInProbeRequest = true) :
    ∃ bytes, rcSendLlrpProbeRequest pal header request = some bytes ∧
      rcParseLlrpMessage pal interest bytes = some ((probeRequest request).received interest header) := by
  have h200 : request.knownUids.length ≤ 200 := hknown
  have hpdu : llrpHeaderSize + probeRequestPduMinSize + request.knownUids.length * 6 -
      llrpHeaderSize = probeRequestPduMinSize + request.knownUids.length * 6 := by
    show 27 + 18 + request.knownUids.length * 6 - 27 = 18 + request.knownUids.length * 6
    omega
  unfold rcSendLlrpProbeRequest
  rw [if_neg (by show ¬ request.knownUids.length > 200; omega)]
  dsimp only
  rw [hpdu]
  have hlength : (pal.acnPduPackExtLen (probeRequestPduMinSize + request.knownUids.length * 6) ++
      [vectorProbeRequestData] ++ packUid request.lowerUid ++ packUid request.upperUid ++
      packU16 request.filter ++ request.knownUids.flatMap packUid).length =
        probeRequestPduMinSize + request.knownUids.length * 6 := by
    simp only [List.length_append, h.packs.extLen_length, length_flatMap_packUid]
    rfl
  have hfits : LlrpFits llrpManagerMaxMessageSize
      (llrpHeaderSize + probeRequestPduMinSize + request.knownUids.length * 6) _ :=
    ⟨by rw [hlength, Nat.add_assoc], by rw [hlength]; show 17 ≤ 18 + _; omega,
      by rw [hlength]; show 18 + _ ≤ 1218; omega, by decide⟩
  refine ⟨_, rfl, ?_⟩
  rw [rcParseLlrpMessage_pack h hfits hdest]
  simp only [parseLlrpBody, if_true, hint, parseLlrpProbeRequest_pack h interest request rfl hknown]
  rfl

theorem probeReply_trips (targetInfo : LlrpDiscoveredTarget) (hint : interest.interestedInProbeReply = true) :
    rcParseLlrpMessage pal interest (rcSendLlrpProbeReply pal header targetInfo) =
      some ((probeReply targetInfo).received interest header) := by
  have hpdu : llrpHeaderSize + probeReplyPduSize - llrpHeaderSize = probeReplyPduSize := rfl
  unfold rcSendLlrpProbeReply
  dsimp only
  rw [hpdu]
  have hlength : (pal.acnPduPackExtLen probeReplyPduSize ++ [vectorProbeReplyData] ++
      packUid targetInfo.uid ++ targetInfo.hardwareAddress.toList ++
      [targetInfo.componentType]).length = probeReplyPduSize := by
    simp [h.packs.extLen_length, packUid]
  have hfits : LlrpFits llrpTargetMaxMessageSize (llrpHeaderSize + probeReplyPduSize) _ :=
    ⟨by rw [hlength], le_of_eq hlength.symm, by rw [hlength]; decide, by decide⟩
  rw [rcParseLlrpMessage_pack h hfits hdest]
  simp only [parseLlrpBody, if_true, hint, parseLlrpProbeReply_pack h header.senderCid targetInfo]
  rfl

theorem rdm_trips {cmd : RdmBuffer} (hvalid : RdmValid cmd) :
    rcParseLlrpMessage pal interest (sendLlrpRdm pal header cmd) = some ⟨vectorLlrpRdmCmd, header, .rdm cmd⟩ := by
  obtain ⟨hmin, hmax, hstart⟩ := hvalid
  have h26 : 26 ≤ cmd.length := hmin
  have h257 : cmd.length ≤ 257 := hmax
  have hpdu : llrpHeaderSize + 3 + cmd.length - llrpHeaderSize = 3 + cmd.length := by
    show 27 + 3 + cmd.length - 27 = 3 + cmd.length
    omega
  unfold sendLlrpRdm
  dsimp only
  rw [hpdu]
  have hlength : (pal.acnPduPackExtLen (3 + cmd.length) ++ cmd).length = 3 + cmd.length := by
    rw [List.length_append, h.packs.extLen_length]
  have hfits : LlrpFits llrpMaxMessageSize (llrpHeaderSize + 3 + cmd.length) _ :=
    ⟨by rw [hlength, Nat.add_assoc], by rw [hlength]; show 17 ≤ _; omega,
      by rw [hlength]; omega, by decide⟩
  rw [rcParseLlrpMessage_pack h hfits hdest]
  simp only [parseLlrpBody, if_true, parseLlrpRdmCommand_pack h rfl hmin hmax hstart]
  rfl

/-- **What is sent is received.** -/
theorem received_of_sent {m : LlrpOutgoing} (hvalid : m.Valid) (hint : m.Interests interest) :
    ∃ bytes, m.sent pal header = some bytes ∧
      rcParseLlrpMessage pal interest bytes = some (m.received interest header) := by
  cases m with
  | probeRequest request => exact probeRequest_trips h hdest hvalid hint
  | probeReply targetInfo => exact ⟨_, rfl, probeReply_trips h hdest targetInfo hint⟩
  | rdmCommand cmd | rdmResponse resp => exact ⟨_, rfl, rdm_trips h hdest hvalid⟩

end LlrpOutgoing

/-! ### What is taken for LLRP -/

/-- The bytes inside an LLRP PDU look like one of the messages that the receiver is interested in. -/
def BodyShaped (pal : EtcPalUdp) (interest : LlrpMessageInterest) (vector : UInt32) (buf : Bytes) :
    Prop :=
  (vector = vectorLlrpProbeRequest ∧ interest.interestedInProbeRequest = true ∧
    probeRequestPduMinSize ≤ pal.acnPduLength buf ∧ pal.acnPduLength buf ≤ buf.length ∧
    u8At buf 3 = vectorProbeRequestData) ∨
  (vector = vectorLlrpProbeReply ∧ interest.interestedInProbeReply = true ∧
    pal.acnPduLength buf = probeReplyPduSize ∧ probeReplyPduSize ≤ buf.length ∧
    u8At buf 3 = vectorProbeReplyData) ∨
  (vector = vectorLlrpRdmCmd ∧ llrpRdmCmdPduMinSize ≤ pal.acnPduLength buf ∧
    pal.acnPduLength buf ≤ llrpRdmCmdPduMaxSize ∧ pal.acnPduLength buf ≤ buf.length ∧
    u8At buf 3 = vectorRdmCmdRdmData)

structure LlrpShaped (pal : EtcPalUdp) (interest : LlrpMessageInterest) (pdata : Bytes) : Prop where
  min : llrpMinPduSize ≤ pal.acnPduLength pdata
  max : pal.acnPduLength pdata ≤ pdata.length
  dest : vecAt 16 pdata 7 = kLlrpBroadcastCid ∨ vecAt 16 pdata 7 = interest.myCid
  body : BodyShaped pal interest (u32At pdata 3)
    ((pdata.take (pal.acnPduLength pdata)).drop llrpHeaderSize)

section Shapes

variable {interest : LlrpMessageInterest} {buf : Bytes}

theorem parseLlrpProbeRequest_isSome : (parseLlrpProbeRequest pal interest buf).isSome = true ↔
    probeRequestPduMinSize ≤ pal.acnPduLength buf ∧ pal.acnPduLength buf ≤ buf.length ∧
      u8At buf 3 = vectorProbeRequestData := by
  unfold parseLlrpProbeRequest
  dsimp only
  by_cases h1 : buf.length < probeRequestPduMinSize
  · rw [if_pos h1]
    simp only [Option.isSome_none, Bool.false_eq_true, false_iff]
    rintro ⟨hmin, hmax, -⟩
    omega
  by_cases h2 : pal.acnPduLength buf > buf.length ∨ pal.acnPduLength buf < probeRequestPduMinSize
  · rw [if_neg h1, if_pos h2]
    simp only [Option.isSome_none, Bool.false_eq_true, false_iff]
    rintro ⟨hmin, hmax, -⟩
    omega
  by_cases h3 : u8At buf 3 ≠ vectorProbeRequestData
  · rw [if_neg h1, if_neg h2, if_pos h3]
    simp [h3]
  · rw [if_neg h1, if_neg h2, if_neg h3]
    simp only [Option.isSome_some, true_iff]
    exact ⟨by omega, by omega, not_not.mp h3⟩

theorem parseLlrpProbeReply_isSome {cid : Uuid} : (parseLlrpProbeReply pal cid buf).isSome = true ↔
    pal.acnPduLength buf = probeReplyPduSize ∧ probeReplyPduSize ≤ buf.length ∧
      u8At buf 3 = vectorProbeReplyData := by
  unfold parseLlrpProbeReply
  split_ifs with h1 h2 h3
  · simp only [Option.isSome_none, Bool.false_eq_true, false_iff]
    rintro ⟨-, hmax, -⟩
    omega
  · simp [h2]
  · simp [h3]
  · simp only [Option.isSome_some, true_iff]
    exact ⟨not_not.mp h2, by omega, not_not.mp h3⟩

theorem parseLlrpRdmCommand_isSome : (parseLlrpRdmCommand pal buf).isSome = true ↔
    llrpRdmCmdPduMinSize ≤ pal.acnPduLength buf ∧ pal.acnPduLength buf ≤ llrpRdmCmdPduMaxSize ∧
      pal.acnPduLength buf ≤ buf.length ∧ u8At buf 3 = vectorRdmCmdRdmData := by
  unfold parseLlrpRdmCommand
  dsimp only
  split_ifs with h1 h2 h3
  · have h1' : buf.length < 29 := h1
    simp only [Option.isSome_none, Bool.false_eq_true, false_iff]
    rintro ⟨hmin, -, hmax, -⟩
    have hmin' : 29 ≤ pal.acnPduLength buf := hmin
    omega
  · simp only [Option.isSome_none, Bool.false_eq_true, false_iff]
    rintro ⟨hmin, hmax, hbuf, -⟩
    omega
  · simp [h3]
  · simp only [Option.isSome_some, true_iff]
    exact ⟨by omega, by omega, by omega, not_not.mp h3⟩

theorem parseLlrpBody_isSome {cid : Uuid} {vector : UInt32} :
    (parseLlrpBody pal interest cid vector buf).isSome = true ↔ BodyShaped pal interest vector buf := by
  have hne : vectorLlrpProbeRequest ≠ vectorLlrpProbeReply ∧
      vectorLlrpProbeRequest ≠ vectorLlrpRdmCmd ∧ vectorLlrpProbeReply ≠ vectorLlrpRdmCmd := by decide
  unfold parseLlrpBody BodyShaped
  by_cases h1 : vector = vectorLlrpProbeRequest
  · subst h1
    cases interest.interestedInProbeRequest <;> simp [hne, parseLlrpProbeRequest_isSome]
  by_cases h2 : vector = vectorLlrpProbeReply
  · subst h2
    cases interest.interestedInProbeReply <;> simp [h1, hne, parseLlrpProbeReply_isSome]
  by_cases h3 : vector = vectorLlrpRdmCmd
  · subst h3
    simp [h1, h2, parseLlrpRdmCommand_isSome]
  · simp [h1, h2, h3]

theorem parseLlrpPdu_isSome {cid : Uuid} {pdata : Bytes} :
    (parseLlrpPdu pal interest cid pdata).isSome = true ↔ LlrpShaped pal interest pdata := by
  unfold parseLlrpPdu
  dsimp only
  split_ifs with h1 h2 h3
  · have h1' : pdata.length < 44 := h1
    simp only [Option.isSome_none, Bool.false_eq_true, false_iff]
    intro hshape
    have hmin : 44 ≤ pal.acnPduLength pdata := hshape.min
    have hmax := hshape.max
    omega
  · simp only [Option.isSome_none, Bool.false_eq_true, false_iff]
    intro hshape
    have hmin := hshape.min
    have hmax := hshape.max
    omega
  · rw [Option.isSome_map, parseLlrpBody_isSome]
    exact ⟨fun hbody => ⟨by omega, by omega, h3, hbody⟩, fun hshape => hshape.body⟩
  · simp only [Option.isSome_none, Bool.false_eq_true, false_iff]
    exact fun hshape => h3 hshape.dest

end Shapes

/-- **A datagram is rejected** unless its root layer PDU looks like LLRP, whatever its vector is. -/
theorem rcParseLlrpMessage_eq_none {interest : LlrpMessageInterest} {buf pdata : Bytes}
    {rlp : AcnRootLayerPdu} (hroot : RootLayer pal buf rlp pdata) : rcParseLlrpMessage pal interest buf = none ↔
      ¬ (llrpMinTotalMessageSize ≤ buf.length ∧ LlrpShaped pal interest pdata) := by
  obtain ⟨block, hblock, hpdu⟩ := hroot
  rw [← @parseLlrpPdu_isSome pal interest rlp.senderCid pdata]
  unfold rcParseLlrpMessage
  rw [hblock]
  dsimp only
  rw [hpdu]
  by_cases hlen : buf.length < llrpMinTotalMessageSize
  · rw [if_pos hlen]
    simp only [true_iff]
    rintro ⟨hmin, -⟩
    omega
  · rw [if_neg hlen]
    have hmin : llrpMinTotalMessageSize ≤ buf.length := by omega
    simp [hmin]

/-- **The LLRP codec**: what is sent is received, and a datagram of another protocol is rejected exactly
if it does not look like LLRP. -/
theorem llrp_codec (pal : EtcPalUdp) (h : pal.Inverse) (interest : LlrpMessageInterest) :
    (∀ (header : LlrpHeader) (m : LlrpOutgoing),
      header.destCid = kLlrpBroadcastCid ∨ header.destCid = interest.myCid → m.Valid →
      m.Interests interest → ∃ bytes, m.sent pal header = some bytes ∧
        rcParseLlrpMessage pal interest bytes = some (m.received interest header)) ∧
    (∀ (buf pdata : Bytes) (rlp : AcnRootLayerPdu), RootLayer pal buf rlp pdata →
      rlp.vector ≠ acnVectorRootLlrp → (rcParseLlrpMessage pal interest buf = none ↔
        ¬ (llrpMinTotalMessageSize ≤ buf.length ∧ LlrpShaped pal interest pdata))) :=
  ⟨fun _ _ hdest hvalid hint => LlrpOutgoing.received_of_sent h hdest hvalid hint,
    fun _ _ _ hroot _ => rcParseLlrpMessage_eq_none hroot⟩

def sampleLlrpInterest : LlrpMessageInterest := ⟨true, true, default, ⟨1, 2⟩⟩

def sampleLlrpHeader : LlrpHeader := ⟨default, kLlrpBroadcastCid, 7⟩

def foreignDatagram (pdata : Bytes) : Bytes :=
  EtcPalUdp.preamble ++ (EtcPal.reference.acnPackRootLayerHeader 1000
    ⟨acnVectorRootBroker, default, pdata.length⟩ ++ pdata)

def sampleReplyPdu : Bytes :=
  packLlrpHeader .reference 44 vectorLlrpProbeReply sampleLlrpHeader ++
    (EtcPal.reference.acnPduPackExtLen 17 ++ [vectorProbeReplyData] ++ packUid ⟨1, 2⟩ ++
      [0, 0, 0, 0, 0, 0] ++ [0])

/-- A Broker PDU that holds the bytes of a probe reply is taken for one. -/
theorem foreign_reply_received :
    ∃ buf pdata rlp, RootLayer .reference buf rlp pdata ∧ rlp.vector ≠ acnVectorRootLlrp ∧
      rcParseLlrpMessage .reference sampleLlrpInterest buf ≠ none := by
  refine ⟨foreignDatagram sampleReplyPdu, sampleReplyPdu, ⟨acnVectorRootBroker, default, 44⟩,
    ⟨_, rfl, ?_⟩, by decide, ?_⟩
  · decide +kernel
  · decide +kernel

/-- A probe request is received; a Broker PDU that is too short is not. -/
theorem llrp_codec_request : (∃ bytes, (LlrpOutgoing.probeRequest ⟨⟨0, 0⟩, ⟨1, 9⟩, 0, [⟨1, 1⟩]⟩).sent .reference
        sampleLlrpHeader = some bytes ∧ rcParseLlrpMessage .reference sampleLlrpInterest bytes =
        some ⟨vectorLlrpProbeRequest, sampleLlrpHeader, .probeRequest ⟨true, 0⟩⟩) ∧
    rcParseLlrpMessage .reference sampleLlrpInterest (foreignDatagram [0, 0, 0]) = none := by
  obtain ⟨hsent, hforeign⟩ := llrp_codec .reference EtcPalUdp.reference_inverse sampleLlrpInterest
  have hrecv : (LlrpOutgoing.probeRequest ⟨⟨0, 0⟩, ⟨1, 9⟩, 0, [⟨1, 1⟩]⟩).received sampleLlrpInterest
      sampleLlrpHeader = ⟨vectorLlrpProbeRequest, sampleLlrpHeader, .probeRequest ⟨true, 0⟩⟩ := by
    decide +kernel
  rw [← hrecv]
  refine ⟨hsent sampleLlrpHeader _ (.inl rfl) (by show 1 ≤ 200; decide) rfl, ?_⟩
  have hroot : RootLayer .reference (foreignDatagram [0, 0, 0]) ⟨acnVectorRootBroker, default, 3⟩
      [0, 0, 0] := ⟨_, rfl, by decide +kernel⟩
  refine (hforeign _ _ _ hroot (by decide)).mpr fun hshape => ?_
  exact absurd hshape.1 (by decide +kernel)

end RDMnet
