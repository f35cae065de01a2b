import RDMnet.Prot.Pack

/-!
# LLRP messages

`llrp_prot.c`: the datagrams of LLRP, how they are packed and how they are parsed.

EtcPal's functions for UDP are parameters like those for TCP.  A pointer and a length are the bytes there,
so that a datagram, the root layer block in it, the data of a root layer PDU and the inner PDUs are byte
strings, each a part of the one before.
-/

namespace RDMnet

open EtcPal

/-! ### UIDs -/

/-- `rdm_uid_compare`: negative, zero or positive; the manufacturer counts first. -/
def rdmUidCompare (a b : RdmUid) : Int :=
  if a.manu = b.manu then (a.id.toNat : Int) - b.id.toNat else (a.manu.toNat : Int) - b.manu.toNat

def RdmUid.key (uid : RdmUid) : Nat := uid.manu.toNat * 4294967296 + uid.id.toNat

theorem rdmUidCompare_sign (a b : RdmUid) :
    (rdmUidCompare a b ≤ 0 ↔ a.key ≤ b.key) ∧ (rdmUidCompare a b ≥ 0 ↔ b.key ≤ a.key) := by
  have hai := a.id.toNat_lt
  have hbi := b.id.toNat_lt
  unfold rdmUidCompare RdmUid.key
  split
  · rename_i hm
    rw [hm]
    omega
  · rename_i hm
    have hne : a.manu.toNat ≠ b.manu.toNat := fun h => hm (UInt16.toNat.inj h)
    omega

/-! ### Constants and types -/

abbrev acnUdpPreambleSize : Nat := 16
abbrev acnVectorRootLlrp : UInt32 := 0xa

abbrev llrpHeaderSize : Nat := 27
abbrev probeRequestPduMinSize : Nat := 18
abbrev probeReplyPduSize : Nat := 17
abbrev llrpMinPduSize : Nat := 44
abbrev llrpMinTotalMessageSize : Nat := 83
abbrev llrpRdmCmdPduMinSize : Nat := 29
abbrev llrpRdmCmdPduMaxSize : Nat := 260
abbrev llrpKnownUidSize : Nat := 200
abbrev llrpTargetMaxMessageSize : Nat := 326
abbrev llrpManagerMaxMessageSize : Nat := 1284
abbrev llrpMaxMessageSize : Nat := llrpManagerMaxMessageSize

abbrev vectorLlrpProbeRequest : UInt32 := 1
abbrev vectorLlrpProbeReply : UInt32 := 2
abbrev vectorLlrpRdmCmd : UInt32 := 3
abbrev vectorProbeRequestData : UInt8 := 1
abbrev vectorProbeReplyData : UInt8 := 1

/-- `kLlrpBroadcastCid`: `fbad822c-bd0c-4d4c-bdc8-7eabebc85aff` -/
def kLlrpBroadcastCid : Uuid :=
  #v[0xfb, 0xad, 0x82, 0x2c, 0xbd, 0x0c, 0x4d, 0x4c, 0xbd, 0xc8, 0x7e, 0xab, 0xeb, 0xc8, 0x5a, 0xff]

structure LlrpHeader where
  senderCid : Uuid
  destCid : Uuid
  transactionNumber : UInt32
  deriving DecidableEq, Inhabited

structure LlrpMessageInterest where
  interestedInProbeRequest : Bool
  interestedInProbeReply : Bool
  myCid : Uuid
  myUid : RdmUid

structure RemoteProbeRequest where
  containsMyUid : Bool
  filter : UInt16
  deriving DecidableEq

/-- `LocalProbeRequest`, with the `num_known_uids` UIDs at `known_uids`. -/
structure LocalProbeRequest where
  lowerUid : RdmUid
  upperUid : RdmUid
  filter : UInt16
  knownUids : List RdmUid
  deriving DecidableEq

/-- `LlrpDiscoveredTarget`; any byte can arrive as the component type. -/
structure LlrpDiscoveredTarget where
  cid : Uuid
  uid : RdmUid
  hardwareAddress : Vector UInt8 6
  componentType : UInt8
  deriving DecidableEq

/-- The `union` of an `LlrpMessage`. -/
inductive LlrpData
  | probeRequest (request : RemoteProbeRequest)
  | probeReply (reply : LlrpDiscoveredTarget)
  | rdm (cmd : RdmBuffer)
  deriving DecidableEq

structure LlrpMessage where
  vector : UInt32
  header : LlrpHeader
  data : LlrpData
  deriving DecidableEq

/-! ### EtcPal -/

structure EtcPalUdp extends EtcPal where
  /-- `acn_pack_udp_preamble` into `buflen` bytes. -/
  acnPackUdpPreamble : (buflen : Nat) → Bytes
  /-- `acn_parse_udp_preamble`: the root layer block of a datagram. -/
  acnParseUdpPreamble : Bytes → Option Bytes
  /-- `acn_parse_root_layer_pdu`, for the first PDU of a block: its header, and the `data_len` bytes
  at `pdata`. -/
  acnParseRootLayerPdu : Bytes → Option (AcnRootLayerPdu × Bytes)

/-- What is packed is parsed again. -/
structure EtcPalUdp.Inverse (pal : EtcPalUdp) : Prop where
  lawful : pal.Lawful
  packs : pal.Packs
  udp_length : ∀ buflen, acnUdpPreambleSize ≤ buflen →
    (pal.acnPackUdpPreamble buflen).length = acnUdpPreambleSize
  udp_read : ∀ buflen d, acnUdpPreambleSize ≤ buflen →
    pal.acnParseUdpPreamble (pal.acnPackUdpPreamble buflen ++ d) = some d
  root_pdu_read : ∀ buflen rlp d, acnRlpHeaderSizeExtLen ≤ buflen →
    acnRlpHeaderSizeExtLen + rlp.dataLen < 1048576 → d.length = rlp.dataLen →
    pal.acnParseRootLayerPdu (pal.acnPackRootLayerHeader buflen rlp ++ d) = some (rlp, d)

namespace EtcPalUdp

/-- The UDP preamble: its size, the size of the postamble, and the packet identifier. -/
def preamble : Bytes := [0x00, 0x10, 0x00, 0x00] ++ packetIdent

/-- EtcPal's functions; a root layer PDU lies in its block as a whole. -/
def reference : EtcPalUdp where
  toEtcPal := .reference
  acnPackUdpPreamble := fun buflen => if acnUdpPreambleSize ≤ buflen then preamble else []
  acnParseUdpPreamble := fun d => if d.take 16 = preamble then some (d.drop 16) else none
  acnParseRootLayerPdu := fun d =>
    match EtcPal.reference.acnParseRootLayerHeader d with
    | none => none
    | some rlp =>
      if refPduLength d ≤ d.length then
        some (rlp, (d.drop (refPduLength d - rlp.dataLen)).take rlp.dataLen)
      else none

theorem reference_inverse : reference.Inverse where
  lawful := reference_lawful
  packs := reference_packs
  udp_length := by
    intro buflen hlen
    simp only [reference, if_pos hlen]
    rfl
  udp_read := by
    intro buflen d hlen
    simp only [reference, if_pos hlen]
    have hlen : preamble.length = 16 := rfl
    rw [if_pos (List.take_left' hlen), List.drop_left' hlen]
  root_pdu_read := by
    intro buflen rlp d hbuf hmax hlen
    have hroot := reference_packs.root_length buflen rlp hbuf
    have hread := (reference_lawful.root_append _ d (le_of_eq hroot.symm)).trans
      (reference_packs.root_read buflen rlp hbuf hmax)
    have hpdu : refPduLength (EtcPal.reference.acnPackRootLayerHeader buflen rlp ++ d) =
        acnRlpHeaderSizeExtLen + rlp.dataLen := by
      simp only [EtcPal.reference, if_pos hbuf, List.append_assoc]
      exact refPduLength_pack hmax _
    have hdrop : acnRlpHeaderSizeExtLen + rlp.dataLen - rlp.dataLen = acnRlpHeaderSizeExtLen :=
      Nat.add_sub_cancel _ _
    have hblock : (EtcPal.reference.acnPackRootLayerHeader buflen rlp ++ d).length =
        acnRlpHeaderSizeExtLen + rlp.dataLen := by rw [List.length_append, hroot, hlen]
    have hpal : reference.toEtcPal = EtcPal.reference := rfl
    rw [hpal]
    dsimp only [reference]
    rw [hread]
    dsimp only
    rw [hpdu, hdrop, hblock, if_pos le_rfl, List.drop_left' hroot, List.take_of_length_le (le_of_eq hlen)]

end EtcPalUdp

section Functions

variable (pal : EtcPalUdp)

/-! ### Parsing -/

/-- The UID at offset `i`. -/
def uidAt (d : Bytes) (i : Nat) : RdmUid := ⟨u16At d i, u32At d (i + 2)⟩

/-- The loop of `parse_llrp_probe_request` over the Known UIDs, which are what is left up to `buf_end`:
whether `my_uid` is among them. -/
def suppressed (myUid : RdmUid) (d : Bytes) : Bool :=
  if 6 ≤ d.length then
    if myUid = uidAt d 0 then true else suppressed myUid (d.drop 6)
  else false
  termination_by d.length
  decreasing_by simp only [List.length_drop]; omega

/-- `parse_llrp_probe_request` -/
def parseLlrpProbeRequest (interest : LlrpMessageInterest) (buf : Bytes) :
    Option RemoteProbeRequest :=
  if buf.length < probeRequestPduMinSize then none
  else
    let pduLen := pal.acnPduLength buf
    if pduLen > buf.length ∨ pduLen < probeRequestPduMinSize then none
    else if u8At buf 3 ≠ vectorProbeRequestData then none
    else
      let lowerUidBound := uidAt buf 4
      let upperUidBound := uidAt buf 10
      some
        { filter := u16At buf 16
          containsMyUid :=
            if rdmUidCompare interest.myUid lowerUidBound ≥ 0 ∧
                rdmUidCompare interest.myUid upperUidBound ≤ 0 then
              !suppressed interest.myUid ((buf.take pduLen).drop probeRequestPduMinSize)
            else false }

/-- `parse_llrp_probe_reply`; the CID is the sender's. -/
def parseLlrpProbeReply (cid : Uuid) (buf : Bytes) : Option LlrpDiscoveredTarget :=
  if buf.length < probeReplyPduSize then none
  else if pal.acnPduLength buf ≠ probeReplyPduSize then none
  else if u8At buf 3 ≠ vectorProbeReplyData then none
  else some ⟨cid, uidAt buf 4, vecAt 6 buf 10, u8At buf 16⟩

/-- `parse_llrp_rdm_command` -/
def parseLlrpRdmCommand (buf : Bytes) : Option RdmBuffer :=
  if buf.length < llrpRdmCmdPduMinSize then none
  else
    let pduLen := pal.acnPduLength buf
    if pduLen > buf.length ∨ pduLen > llrpRdmCmdPduMaxSize ∨ pduLen < llrpRdmCmdPduMinSize then none
    else if u8At buf 3 ≠ vectorRdmCmdRdmData then none
    else some ((buf.take pduLen).drop 3)

/-- The `switch` of `parse_llrp_pdu`. -/
def parseLlrpBody (interest : LlrpMessageInterest) (senderCid : Uuid) (vector : UInt32) (buf : Bytes) :
    Option LlrpData :=
  if vector = vectorLlrpProbeRequest then
    if interest.interestedInProbeRequest then
      (parseLlrpProbeRequest pal interest buf).map .probeRequest
    else none
  else if vector = vectorLlrpProbeReply then
    if interest.interestedInProbeReply then (parseLlrpProbeReply pal senderCid buf).map .probeReply
    else none
  else if vector = vectorLlrpRdmCmd then (parseLlrpRdmCommand pal buf).map .rdm
  else none

/-- `parse_llrp_pdu` -/
def parseLlrpPdu (interest : LlrpMessageInterest) (senderCid : Uuid) (buf : Bytes) :
    Option LlrpMessage :=
  if buf.length < llrpMinPduSize then none
  else
    let llrpPduLen := pal.acnPduLength buf
    if llrpPduLen > buf.length ∨ llrpPduLen < llrpMinPduSize then none
    else
      let vector := u32At buf 3
      let header : LlrpHeader := ⟨senderCid, vecAt 16 buf 7, u32At buf 23⟩
      if header.destCid = kLlrpBroadcastCid ∨ header.destCid = interest.myCid then
        (parseLlrpBody pal interest senderCid vector
          ((buf.take llrpPduLen).drop llrpHeaderSize)).map fun data => ⟨vector, header, data⟩
      else none

/-- `rc_parse_llrp_message` -/
def rcParseLlrpMessage (interest : LlrpMessageInterest) (buf : Bytes) : Option LlrpMessage :=
  if buf.length < llrpMinTotalMessageSize then none
  else
    match pal.acnParseUdpPreamble buf with
    | none => none
    | some block =>
      match pal.acnParseRootLayerPdu block with
      | none => none
      | some (rlp, pdata) => parseLlrpPdu pal interest rlp.senderCid pdata

/-! ### Packing -/

/-- `pack_llrp_header` -/
def packLlrpHeader (pduLen : Nat) (vector : UInt32) (header : LlrpHeader) : Bytes :=
  pal.acnPduPackExtLen pduLen ++ packU32 vector ++ header.destCid.toList ++
    packU32 header.transactionNumber

/-- What the functions that send have in common: a datagram in a buffer of `bufSize` bytes, with an LLRP
PDU of `dataLen` bytes around `pdu`. -/
def packLlrpMessage (bufSize : Nat) (header : LlrpHeader) (vector : UInt32) (dataLen : Nat)
    (pdu : Bytes) : Bytes :=
  let preamble := pal.acnPackUdpPreamble bufSize
  let root := pal.acnPackRootLayerHeader (bufSize - preamble.length)
    ⟨acnVectorRootLlrp, header.senderCid, dataLen⟩
  preamble ++ (root ++ (packLlrpHeader pal dataLen vector header ++ pdu))

/-- The bytes that `rc_send_llrp_probe_request` passes to `etcpal_sendto`; too many Known UIDs are
`kEtcPalErrInvalid`. -/
def rcSendLlrpProbeRequest (header : LlrpHeader) (request : LocalProbeRequest) : Option Bytes :=
  if request.knownUids.length > llrpKnownUidSize then none
  else
    let dataLen := llrpHeaderSize + probeRequestPduMinSize + request.knownUids.length * 6
    some (packLlrpMessage pal llrpManagerMaxMessageSize header vectorLlrpProbeRequest dataLen
      (pal.acnPduPackExtLen (dataLen - llrpHeaderSize) ++ [vectorProbeRequestData] ++
        packUid request.lowerUid ++ packUid request.upperUid ++ packU16 request.filter ++
        request.knownUids.flatMap packUid))

/-- The bytes that `rc_send_llrp_probe_reply` passes to `etcpal_sendto`. -/
def rcSendLlrpProbeReply (header : LlrpHeader) (targetInfo : LlrpDiscoveredTarget) : Bytes :=
  let dataLen := llrpHeaderSize + probeReplyPduSize
  packLlrpMessage pal llrpTargetMaxMessageSize header vectorLlrpProbeReply dataLen
    (pal.acnPduPackExtLen (dataLen - llrpHeaderSize) ++ [vectorProbeReplyData] ++
      packUid targetInfo.uid ++ targetInfo.hardwareAddress.toList ++ [targetInfo.componentType])

/-- The bytes that `send_llrp_rdm` passes to `etcpal_sendto`. -/
def sendLlrpRdm (header : LlrpHeader) (rdmMsg : RdmBuffer) : Bytes :=
  let dataLen := llrpHeaderSize + 3 + rdmMsg.length
  packLlrpMessage pal llrpMaxMessageSize header vectorLlrpRdmCmd dataLen
    (pal.acnPduPackExtLen (dataLen - llrpHeaderSize) ++ rdmMsg)

/-- `rc_send_llrp_rdm_command` and `rc_send_llrp_rdm_response` differ in the address they send to. -/
def rcSendLlrpRdmCommand (header : LlrpHeader) (cmd : RdmBuffer) : Bytes := sendLlrpRdm pal header cmd

def rcSendLlrpRdmResponse (header : LlrpHeader) (resp : RdmBuffer) : Bytes :=
  sendLlrpRdm pal header resp

end Functions

end RDMnet
