import RDMnet.Core.Message

/-!
# The ACN functions of EtcPal

The library leaves the TCP preamble, the root layer header and the length field of a PDU to EtcPal.
They are parameters of the model.  `EtcPal.Lawful` says all that is assumed of the functions that
read: each looks only at the bytes of its own field.  `EtcPal.Packs` says what is assumed of those
that write: what they wrote is read back.  `EtcPal.reference` reads and writes as the real library
does, and meets both.
-/

namespace RDMnet

open List

/-- `AcnRootLayerPdu`: a root layer header and the length of the data behind it. -/
structure AcnRootLayerPdu where
  vector : UInt32
  senderCid : Uuid
  dataLen : Nat
  deriving DecidableEq, Inhabited

/-- The functions of EtcPal's ACN module that the library uses.  One that packs into a buffer gives
the bytes it wrote, none if it returns 0. -/
structure EtcPal where
  /-- `acn_parse_tcp_preamble`: the `rlp_block_len` of the preamble that the bytes start with. -/
  acnParseTcpPreamble : Bytes → Option Nat
  /-- `acn_parse_root_layer_header` without a PDU to inherit from. -/
  acnParseRootLayerHeader : Bytes → Option AcnRootLayerPdu
  /-- `ACN_PDU_LENGTH` -/
  acnPduLength : Bytes → Nat
  /-- `acn_root_layer_buf_size` of one PDU. -/
  acnRootLayerBufSize : AcnRootLayerPdu → Nat
  /-- `acn_pack_tcp_preamble` into `buflen` bytes. -/
  acnPackTcpPreamble : (buflen rlpBlockLen : Nat) → Bytes
  /-- `acn_pack_root_layer_header` into `buflen` bytes. -/
  acnPackRootLayerHeader : (buflen : Nat) → AcnRootLayerPdu → Bytes
  /-- `ACN_PDU_PACK_EXT_LEN` behind the flags `0xf0`: the three bytes. -/
  acnPduPackExtLen : Nat → Bytes

/-- Each reader looks at its own field only, and a length field holds what its width allows. -/
structure EtcPal.Lawful (pal : EtcPal) : Prop where
  preamble_append : ∀ d e, acnTcpPreambleSize ≤ d.length →
    pal.acnParseTcpPreamble (d ++ e) = pal.acnParseTcpPreamble d
  preamble_lt : ∀ d n, pal.acnParseTcpPreamble d = some n → n < 4294967296
  root_append : ∀ d e, acnRlpHeaderSizeExtLen ≤ d.length →
    pal.acnParseRootLayerHeader (d ++ e) = pal.acnParseRootLayerHeader d
  root_lt : ∀ d r, pal.acnParseRootLayerHeader d = some r → r.dataLen < 1048576
  length_append : ∀ d e, 3 ≤ d.length → pal.acnPduLength (d ++ e) = pal.acnPduLength d
  length_lt : ∀ d, pal.acnPduLength d < 1048576

/-- A packed preamble, root layer header or length field is read back, whatever room is left in the
buffer. -/
structure EtcPal.Packs (pal : EtcPal) : Prop where
  bufSize : ∀ rlp, pal.acnRootLayerBufSize rlp = acnRlpHeaderSizeExtLen + rlp.dataLen
  preamble_length : ∀ buflen n, acnTcpPreambleSize ≤ buflen →
    (pal.acnPackTcpPreamble buflen n).length = acnTcpPreambleSize
  preamble_read : ∀ buflen n, acnTcpPreambleSize ≤ buflen → n < 4294967296 →
    pal.acnParseTcpPreamble (pal.acnPackTcpPreamble buflen n) = some n
  root_length : ∀ buflen rlp, acnRlpHeaderSizeExtLen ≤ buflen →
    (pal.acnPackRootLayerHeader buflen rlp).length = acnRlpHeaderSizeExtLen
  root_read : ∀ buflen rlp, acnRlpHeaderSizeExtLen ≤ buflen →
    acnRlpHeaderSizeExtLen + rlp.dataLen < 1048576 →
    pal.acnParseRootLayerHeader (pal.acnPackRootLayerHeader buflen rlp) = some rlp
  extLen_length : ∀ n, (pal.acnPduPackExtLen n).length = 3
  extLen_read : ∀ n, n < 1048576 → pal.acnPduLength (pal.acnPduPackExtLen n) = n

namespace EtcPal

def packetIdent : Bytes :=
  [0x41, 0x53, 0x43, 0x2d, 0x45, 0x31, 0x2e, 0x31, 0x37, 0, 0, 0]

/-- `ACN_PDU_LENGTH`: 20 bits if the `L` flag is set, 12 bits otherwise. -/
def refPduLength (d : Bytes) : Nat :=
  if (u8At d 0).toNat ≥ 128 then
    ((u8At d 0).toNat % 16) * 65536 + (u8At d 1).toNat * 256 + (u8At d 2).toNat
  else
    ((u8At d 0).toNat % 16) * 256 + (u8At d 1).toNat

/-- `ACN_PDU_PACK_EXT_LEN`: 20 bits behind the flags. -/
def refPduPackExtLen (n : Nat) : Bytes :=
  [UInt8.ofNat (0xf0 + n / 65536 % 16), UInt8.ofNat (n / 256), UInt8.ofNat n]

/-- EtcPal's functions.  The flags of a PDU are the high bits `L`, `V` and `H` of its first byte; a
root layer PDU must carry its own vector and header. -/
def reference : EtcPal where
  acnParseTcpPreamble := fun d =>
    if acnTcpPreambleSize ≤ d.length ∧ d.take 12 = packetIdent then some (u32At d 12).toNat else none
  acnParseRootLayerHeader := fun d =>
    let flags := (u8At d 0).toNat / 32
    let headerLen := if flags ≥ 4 then 23 else 22
    if headerLen ≤ d.length ∧ flags % 4 = 3 ∧ headerLen ≤ refPduLength d then
      some ⟨u32At d (headerLen - 20), vecAt 16 d (headerLen - 16), refPduLength d - headerLen⟩
    else none
  acnPduLength := refPduLength
  acnRootLayerBufSize := fun rlp => acnRlpHeaderSizeExtLen + rlp.dataLen
  acnPackTcpPreamble := fun buflen n =>
    if acnTcpPreambleSize ≤ buflen then packetIdent ++ packU32 (UInt32.ofNat n) else []
  acnPackRootLayerHeader := fun buflen rlp =>
    if acnRlpHeaderSizeExtLen ≤ buflen then
      refPduPackExtLen (acnRlpHeaderSizeExtLen + rlp.dataLen) ++ packU32 rlp.vector ++
        rlp.senderCid.toList
    else []
  acnPduPackExtLen := refPduPackExtLen

theorem refPduLength_append {d : Bytes} (e : Bytes) (h : 3 ≤ d.length) :
    refPduLength (d ++ e) = refPduLength d := by
  unfold refPduLength
  rw [u8At_append e (by omega), u8At_append e (by omega), u8At_append e (by omega)]

theorem refPduLength_lt (d : Bytes) : refPduLength d < 1048576 := by
  have h1 := (u8At d 1).toNat_lt
  have h2 := (u8At d 2).toNat_lt
  unfold refPduLength
  split_ifs <;> omega

theorem reference_lawful : reference.Lawful where
  preamble_append := by
    intro d e h
    have h16 : 16 ≤ d.length := h
    have ht : (d ++ e).take 12 = d.take 12 := by
      rw [take_append_of_le_length (by omega)]
    have hl : acnTcpPreambleSize ≤ (d ++ e).length := by
      rw [length_append]
      exact Nat.le_add_right_of_le h
    simp only [reference, ht, hl, h, u32At_append e (show 12 + 3 < d.length by omega)]
  preamble_lt := by
    intro d n h
    simp only [reference] at h
    split_ifs at h
    cases h
    exact (u32At d 12).toNat_lt
  root_append := by
    intro d e h
    have h23 : 23 ≤ d.length := h
    simp only [reference, refPduLength_append e (show 3 ≤ d.length by omega),
      u8At_append e (show 0 < d.length by omega), length_append]
    by_cases hf : (u8At d 0).toNat / 32 ≥ 4
    · simp only [hf, if_true, u32At_append e (show 23 - 20 + 3 < d.length by omega),
        vecAt_append e (show 23 - 16 + 16 ≤ d.length by omega), h23, Nat.le_add_right_of_le h23]
    · have h22 : 22 ≤ d.length := by omega
      simp only [hf, if_false, u32At_append e (show 22 - 20 + 3 < d.length by omega),
        vecAt_append e (show 22 - 16 + 16 ≤ d.length by omega), h22, Nat.le_add_right_of_le h22]
  root_lt := by
    intro d r h
    have hlt := refPduLength_lt d
    simp only [reference] at h
    split_ifs at h <;> cases h <;> simp only <;> omega
  length_append := fun _ e h => refPduLength_append e h
  length_lt := refPduLength_lt

theorem refPduLength_pack {n : Nat} (h : n < 1048576) (e : Bytes) :
    refPduLength (refPduPackExtLen n ++ e) = n := by
  unfold refPduLength refPduPackExtLen
  simp only [cons_append, u8At_cons_zero, u8At_cons_succ, UInt8.toNat_ofNat']
  rw [if_pos (by omega)]
  omega

theorem reference_packs : reference.Packs where
  bufSize := fun _ => rfl
  preamble_length := by
    intro buflen n h
    simp [reference, h, packetIdent]
  preamble_read := by
    intro buflen n h hn
    have hread := u32At_pack (UInt32.ofNat n) []
    rw [append_nil] at hread
    have h12 : u32At (packetIdent ++ packU32 (UInt32.ofNat n)) 12 = UInt32.ofNat n :=
      (u32At_append_right packetIdent _ 0).trans hread
    simp only [reference, h, if_true, h12, UInt32.toNat_ofNat']
    rw [if_pos ⟨by simp [packetIdent], by simp [packetIdent]⟩, Nat.mod_eq_of_lt hn]
  root_length := by
    intro buflen rlp h
    simp [reference, h, refPduPackExtLen]
  root_read := by
    intro buflen rlp h hlen
    have h23 : 23 + rlp.dataLen < 1048576 := hlen
    have hl := refPduLength_pack h23 (packU32 rlp.vector ++ rlp.senderCid.toList)
    have h0 : (u8At (refPduPackExtLen (23 + rlp.dataLen) ++
        (packU32 rlp.vector ++ rlp.senderCid.toList)) 0).toNat / 32 = 7 := by
      simp only [refPduPackExtLen, cons_append, u8At_cons_zero, UInt8.toNat_ofNat']
      omega
    have hvec : u32At (refPduPackExtLen (23 + rlp.dataLen) ++
        (packU32 rlp.vector ++ rlp.senderCid.toList)) 3 = rlp.vector :=
      (u32At_append_right (refPduPackExtLen _) _ 0).trans (u32At_pack _ _)
    have hcid : vecAt 16 (refPduPackExtLen (23 + rlp.dataLen) ++
        (packU32 rlp.vector ++ rlp.senderCid.toList)) 7 = rlp.senderCid := by
      have hread := vecAt_pack rlp.senderCid []
      rw [append_nil] at hread
      exact ((vecAt_append_right (refPduPackExtLen _) _ 4).trans
        (vecAt_append_right (packU32 _) _ 0)).trans hread
    have hd : (refPduPackExtLen (23 + rlp.dataLen) ++
        (packU32 rlp.vector ++ rlp.senderCid.toList)).length = 23 := by simp [refPduPackExtLen]
    have hpack : reference.acnPackRootLayerHeader buflen rlp = refPduPackExtLen (23 + rlp.dataLen) ++
        (packU32 rlp.vector ++ rlp.senderCid.toList) := by
      simp only [reference, if_pos h, append_assoc]
    rw [hpack]
    generalize refPduPackExtLen (23 + rlp.dataLen) ++
      (packU32 rlp.vector ++ rlp.senderCid.toList) = d at *
    simp [reference, h0, hl, hd, hvec, hcid]
  extLen_length := fun _ => rfl
  extLen_read := by
    intro n h
    have := refPduLength_pack h []
    rwa [append_nil] at this

end EtcPal

end RDMnet
