import RDMnet.Prot.Reads

/-!
# Framed messages

The headers that a packing function puts in front of a message, and what the layers of the parser
make of them: a message whose data is read as a whole is delivered as a whole, whatever follows it
in the buffer.
-/

namespace RDMnet

open Out List Layer PduBlockState

variable {pal : EtcPal}

/-! ### Layers -/

theorem Layer.parse_reads {χ μ : Type} [Inhabited χ] {L : Layer χ μ} {k : Nat} {y x : χ}
    {m m1 m' : μ} {d : Bytes} {lg : List Event} (hk : L.headerSize + k < 1048576)
    (hd : L.headerSize + k ≤ d.length) (hacc : L.header (.start (L.headerSize + k)) m d = (.accept x m1, lg))
    (hlg : ∀ z ∈ lg, z.Sound) (hbody : Reads L.body x m1 (d.drop L.headerSize) k m') :
    Reads L.parse ⟨.start (L.headerSize + k), y⟩ m d (L.headerSize + k) m' := by
  have hroom : ¬ (PduBlockState.start (L.headerSize + k)).room < L.headerSize := by
    show ¬ sizeSub (L.headerSize + k) 0 < _
    rw [sizeSub_of_le zero_le (by omega)]
    omega
  have hstart : L.start ⟨.start (L.headerSize + k), y⟩ m d =
      ⟨⟨⟨L.headerSize + k, 0 + L.headerSize, false, true⟩, x⟩, m1, L.headerSize, .noData, lg⟩ := by
    simp only [Layer.start, hroom, hacc, if_pos (show L.headerSize ≤ d.length by omega), if_false]
    rfl
  have hfits : k ≤ d.length - L.headerSize ∧ 0 + L.headerSize + k ≤ L.headerSize + k := by omega
  have hend : ¬ 0 + L.headerSize + k < L.headerSize + k := by omega
  have ho : L.parse ⟨.start (L.headerSize + k), y⟩ m d =
      ⟨⟨⟨L.headerSize + k, 0 + L.headerSize + k, false, false⟩, default⟩, m', L.headerSize + k,
        .fullBlockParseOk, lg ++ (L.body x m1 (d.drop L.headerSize)).log ++ [.check true]⟩ := by
    rw [parse, hstart]
    simp only [finish, if_true, hfits, hbody.res, hbody.used, hbody.msg, checkForFullParse,
      advance, hend, if_false, reduceCtorEq, and_self, Bool.false_eq_true]
  refine ⟨?_, ?_, ?_, ?_⟩ <;> rw [ho]
  refine clean_append (clean_append hlg hbody.sound) ?_
  intro z hz
  rw [mem_singleton.mp hz]
  exact ⟨trivial, fun h => h⟩

theorem Layer.parse_reads_append {χ μ : Type} [Inhabited χ] {L : Layer χ μ} {k : Nat} {y x : χ}
    {m m1 m' : μ} {head data e : Bytes} {ev : Event} (hk : L.headerSize + k < 1048576)
    (hhead : head.length = L.headerSize) (hdata : data.length = k)
    (hacc : L.header (.start (L.headerSize + k)) m (head ++ (data ++ e)) = (.accept x m1, [ev]))
    (hev : ev.Sound) (hbody : Reads L.body x m1 (data ++ e) k m') :
    Reads L.parse ⟨.start (L.headerSize + k), y⟩ m (head ++ (data ++ e)) (L.headerSize + k) m' := by
  refine parse_reads hk ?_ hacc (by simpa using hev) ?_
  · simp only [length_append, hhead, hdata]
    omega
  · rwa [drop_left' hhead]

/-- The data of a Broker PDU makes this message of the one before, whatever follows it. -/
def BrokerReads (pal : EtcPal) (v : UInt16) (k : Nat) (data : Bytes) (m m' : BrokerMessage) : Prop :=
  ∃ x bmsg, initializeBrokerMessage { m with vector := v } k = (x, bmsg) ∧
    ∀ e, Reads (brokerDataParser pal (.ofVector bmsg.vector)) x (bmsg, .plenty) (data ++ e) k
      (m', .plenty)

def RptReads (pal : EtcPal) (v : UInt32) (header : RptHeader) (k : Nat) (data : Bytes)
    (m m' : RptMessage) : Prop :=
  ∃ x rmsg, initializeRptMessage { m with vector := v, header := header } k = (x, rmsg) ∧
    ∀ e, Reads (rptDataParser pal (.ofVector rmsg.vector)) x (rmsg, .plenty) (data ++ e) k
      (m', .plenty)

section Headers

variable (hpal : pal.Lawful) (hpk : pal.Packs)

include hpk in
theorem length_packBrokerHeader (n : Nat) (v : UInt16) :
    (packBrokerHeader pal n v).length = brokerPduHeaderSize := by
  simp [packBrokerHeader, hpk.extLen_length]

include hpal hpk in
theorem packBrokerHeader_reads {n : Nat} (hn : n < 1048576) (v : UInt16) (e : Bytes) :
    pal.acnPduLength (packBrokerHeader pal n v ++ e) = n ∧ u16At (packBrokerHeader pal n v ++ e) 3 = v := by
  have h3 := hpk.extLen_length n
  simp only [packBrokerHeader, append_assoc]
  refine ⟨?_, ?_⟩
  · rw [hpal.length_append _ _ (le_of_eq h3.symm), hpk.extLen_read n hn]
  · rw [u16At_skip (le_of_eq h3), h3, Nat.sub_self, u16At_pack]

variable {k : Nat} {data : Bytes} (hdata : data.length = k)

include hpal hpk hdata in
theorem parseBrokerBlock_reads {v : UInt16} {m m' : BrokerMessage} (hk : 5 + k < 1048576)
    (hread : BrokerReads pal v k data m m') (e : Bytes) :
    Reads (parseBrokerBlock pal) ⟨.start (5 + k), default⟩ (m, .plenty)
      (packBrokerHeader pal (5 + k) v ++ (data ++ e)) (5 + k) (m', .plenty) := by
  obtain ⟨x, bmsg, hinit, hbody⟩ := hread
  obtain ⟨hlen, hvec⟩ := packBrokerHeader_reads hpal hpk hk v (data ++ e)
  have hheader := (brokerLayer_sized pal).start (m := (m, .plenty)) hlen
  simp only [hvec, hinit] at hheader
  have hbody := hbody e
  exact parse_reads_append (L := brokerLayer pal) hk (length_packBrokerHeader hpk ..) hdata hheader
    ⟨trivial, fun _ => trivial⟩ { hbody with }

include hpk in
theorem length_packRptHeader (n : Nat) (v : UInt32) (header : RptHeader) :
    (packRptHeader pal n v header).length = rptPduHeaderSize := by
  simp [packRptHeader, hpk.extLen_length]

include hpal hpk in
theorem packRptHeader_reads {n : Nat} (hn : n < 1048576) (v : UInt32) (header : RptHeader) (e : Bytes) :
    pal.acnPduLength (packRptHeader pal n v header ++ e) = n ∧ u32At (packRptHeader pal n v header ++ e) 3 = v ∧
    unpackRptHeader (packRptHeader pal n v header ++ e) = header := by
  have h3 := hpk.extLen_length n
  simp only [packRptHeader, append_assoc]
  refine ⟨?_, ?_, ?_⟩
  · rw [hpal.length_append _ _ (le_of_eq h3.symm), hpk.extLen_read n hn]
  · rw [u32At_skip (le_of_eq h3), h3, Nat.sub_self, u32At_pack]
  · simp only [unpackRptHeader, u16At_behind h3, u32At_behind h3, u16At_behind_u16,
      u16At_behind_u32, u32At_behind_u16, u32At_behind_u32, u16At_pack, u32At_pack]

include hpal hpk hdata in
theorem parseRptBlock_reads {v : UInt32} {header : RptHeader} {m m' : RptMessage}
    (hk : 28 + k < 1048576) (hread : RptReads pal v header k data m m') (e : Bytes) :
    Reads (parseRptBlock pal) ⟨.start (28 + k), default⟩ (m, .plenty)
      (packRptHeader pal (28 + k) v header ++ (data ++ e)) (28 + k) (m', .plenty) := by
  obtain ⟨x, rmsg, hinit, hbody⟩ := hread
  obtain ⟨hlen, hvec, hhead⟩ := packRptHeader_reads hpal hpk hk v header (data ++ e)
  have hheader := (rptLayer_sized pal).start (m := (m, .plenty)) hlen
  simp only [hvec, hhead, hinit] at hheader
  have hbody := hbody e
  exact parse_reads_append (L := rptLayer pal) hk (length_packRptHeader hpk ..) hdata hheader
    ⟨trivial, fun _ => trivial⟩ { hbody with }

end Headers

/-! ### Frames -/

/-- The bytes in front of a PDU: a TCP preamble and a root layer header, whose lengths agree. -/
structure Frame (pal : EtcPal) (rlp : AcnRootLayerPdu) (preamble root : Bytes) : Prop where
  preamble_length : preamble.length = acnTcpPreambleSize
  preamble_read : pal.acnParseTcpPreamble preamble = some (acnRlpHeaderSizeExtLen + rlp.dataLen)
  root_length : root.length = acnRlpHeaderSizeExtLen
  root_read : pal.acnParseRootLayerHeader root = some rlp
  short : acnRlpHeaderSizeExtLen + rlp.dataLen < 1048576

/-- `rc_msg_buf_parse_data` delivers exactly the message that the buffer starts with. -/
def Delivers (pal : EtcPal) (bytes : Bytes) (m m' : RdmnetMessage) : Prop :=
  ∀ e, ∃ lg, rcMsgBufParseData pal rcMsgBufInit (m, .plenty) (bytes ++ e) =
    ⟨rcMsgBufInit, (m', .plenty), bytes.length, .ok, lg⟩ ∧ ∀ x ∈ lg, x.Sound

theorem findTcpPreamble_first {d : Bytes} {n : Nat} (hd : acnTcpPreambleSize < d.length)
    (h : pal.acnParseTcpPreamble d = some n) : findTcpPreamble pal d = some (0, n) := by
  cases d with
  | nil => cases hd
  | cons x d => simp only [findTcpPreamble, if_pos hd, h]

namespace Frame

variable {rlp : AcnRootLayerPdu} {preamble root : Bytes}

theorem delivers (hpal : pal.Lawful) (h : Frame pal rlp preamble root) {pdu : Bytes}
    {m m' : RdmnetMessage} (hpdu : pdu.length = rlp.dataLen)
    (hbody : ∀ e, Reads (rlpDataParser pal (.ofVector rlp.vector))
      (initializeRdmnetMessage rlp.vector rlp.dataLen)
      ({ m with vector := rlp.vector, senderCid := rlp.senderCid }, .plenty) (pdu ++ e) rlp.dataLen
      (m', .plenty)) :
    Delivers pal (preamble ++ (root ++ pdu)) m m' := by
  intro e
  have h16 : preamble.length = 16 := h.preamble_length
  have h23 : root.length = 23 := h.root_length
  have hshort : 23 + rlp.dataLen < 1048576 := h.short
  have hread := hpal.preamble_append _ (root ++ pdu ++ e) (le_of_eq h.preamble_length.symm)
  have hroot := hpal.root_append _ (pdu ++ e) (le_of_eq h.root_length.symm)
  rw [h.preamble_read] at hread
  rw [h.root_read, ← append_assoc] at hroot
  have hfits : 0 + acnRlpHeaderSizeExtLen + rlp.dataLen ≤ acnRlpHeaderSizeExtLen + rlp.dataLen :=
    le_of_eq (congrArg (· + rlp.dataLen) (Nat.zero_add _))
  -- the root layer reads the block that the preamble announces
  have hblock : Reads (parseRlpBlock pal) ⟨.start (23 + rlp.dataLen), default⟩ (m, .plenty)
      (root ++ pdu ++ e) (23 + rlp.dataLen) (m', .plenty) := by
    have hheader : (rlpLayer pal).header (.start (23 + rlp.dataLen)) (m, .plenty)
        (root ++ pdu ++ e) = (.accept (initializeRdmnetMessage rlp.vector rlp.dataLen)
          ({ m with vector := rlp.vector, senderCid := rlp.senderCid }, .plenty),
          [.rlpHeader rlp.dataLen (0 + 23) (23 + rlp.dataLen) ((root ++ pdu ++ e).length - 23)]) := by
      show rlpHeader pal (.start (23 + rlp.dataLen)) (m, .plenty) _ = _
      simp only [rlpHeader, hroot]
      exact if_pos hfits
    rw [append_assoc] at hheader ⊢
    exact parse_reads_append (L := rlpLayer pal) hshort h23 hpdu hheader
      ⟨.inl hfits, fun _ => .inl hfits⟩
      ⟨(hbody e).res, (hbody e).used, (hbody e).msg, (hbody e).sound⟩
  have hle : 23 + rlp.dataLen ≤ (root ++ pdu ++ e).length := by
    simp only [length_append, h23, hpdu]
    omega
  have hlong : acnTcpPreambleSize < (preamble ++ (root ++ pdu ++ e)).length := by
    rw [length_append, h16]
    show 16 < _
    omega
  have hround : parseDataRound pal rcMsgBufInit (m, .plenty) (preamble ++ (root ++ pdu ++ e)) =
      ⟨rcMsgBufInit, (m', .plenty), 16 + (23 + rlp.dataLen), some .ok,
        [.preamble (23 + rlp.dataLen)] ++ ((parseRlpBlock pal ⟨.start (23 + rlp.dataLen), default⟩
          (m, .plenty) (root ++ pdu ++ e)).log ++ [.assigned true] ++ [.check true])⟩ := by
    have hne : ¬ 23 + rlp.dataLen = 0 := by omega
    have hlocate : locateTcpPreamble pal (preamble ++ (root ++ pdu ++ e)) =
        (16, 23 + rlp.dataLen, [.preamble (23 + rlp.dataLen)]) := by
      simp only [locateTcpPreamble, findTcpPreamble_first hlong hread]
      rfl
    simp only [parseDataRound, rcMsgBufInit, hlocate, hne, if_false, Bool.false_eq_true,
      drop_left' h16, parseDataBlock, hblock.res, hblock.used, hblock.msg, if_pos hle, blockResult]
    rfl
  refine ⟨[.preamble (23 + rlp.dataLen)] ++ ((parseRlpBlock pal
    ⟨.start (23 + rlp.dataLen), default⟩ (m, .plenty) (root ++ pdu ++ e)).log ++ [.assigned true] ++
    [.check true]), ?_, ?_⟩
  · rw [show preamble ++ (root ++ pdu) ++ e = preamble ++ (root ++ pdu ++ e) by
      simp only [append_assoc], rcMsgBufParseData,
      Parser.iterate_some parseDataRound_decreases _ (congrArg Out.res hround), hround]
    simp only [length_append, h16, h23, hpdu]
  · intro x hx
    simp only [mem_append, mem_singleton] at hx
    rcases hx with rfl | (hx | rfl) | rfl
    · exact ⟨trivial, fun _ => show 23 + rlp.dataLen ≠ 0 by omega⟩
    · exact hblock.sound x hx
    · exact ⟨trivial, fun h => h⟩
    · exact ⟨trivial, fun h => h⟩

end Frame

/-! ### The headers that are packed -/

section Packed

variable (hpk : pal.Packs) (rlp : AcnRootLayerPdu) {buflen : Nat} (header : Bytes)

include hpk in
theorem headers_packed {buflen' : Nat} (h16 : acnTcpPreambleSize ≤ buflen)
    (h23 : acnRlpHeaderSizeExtLen ≤ buflen') :
    let preamble := pal.acnPackTcpPreamble buflen (pal.acnRootLayerBufSize rlp)
    let root := pal.acnPackRootLayerHeader buflen' rlp
    preamble.length = acnTcpPreambleSize ∧ root.length = acnRlpHeaderSizeExtLen ∧
      ¬ (pal.acnRootLayerBufSize rlp = 0 ∨ preamble = [] ∨ root = []) ∧
      (acnRlpHeaderSizeExtLen + rlp.dataLen < 1048576 → Frame pal rlp preamble root) := by
  rw [hpk.bufSize]
  have hlen := hpk.preamble_length buflen (acnRlpHeaderSizeExtLen + rlp.dataLen) h16
  have hroot := hpk.root_length buflen' rlp h23
  refine ⟨hlen, hroot, ?_, fun hshort => ⟨hlen, hpk.preamble_read _ _ h16 (by omega), hroot,
    hpk.root_read _ _ h23 hshort, hshort⟩⟩
  rintro (h | h | h)
  · have : 23 + rlp.dataLen = 0 := h
    omega
  · rw [h] at hlen
    cases hlen
  · rw [h] at hroot
    cases hroot

def Framed (pal : EtcPal) (rlp : AcnRootLayerPdu) (header out : Bytes) : Prop :=
  out.length = acnTcpPreambleSize + acnRlpHeaderSizeExtLen + header.length ∧
    (acnRlpHeaderSizeExtLen + rlp.dataLen < 1048576 →
      ∃ preamble root, Frame pal rlp preamble root ∧ out = preamble ++ (root ++ header))

include hpk in
theorem packHeaderWithRlp_framed (hbuf : 39 ≤ buflen) :
    Framed pal rlp header (packHeaderWithRlp pal rlp buflen header) := by
  have hlen := hpk.preamble_length buflen (pal.acnRootLayerBufSize rlp) (show 16 ≤ buflen by omega)
  have hlen' : (pal.acnPackTcpPreamble buflen (pal.acnRootLayerBufSize rlp)).length = 16 := hlen
  obtain ⟨h16, h23, hne, hframe⟩ := headers_packed hpk rlp (show 16 ≤ buflen by omega)
    (show 23 ≤ buflen - (pal.acnPackTcpPreamble buflen (pal.acnRootLayerBufSize rlp)).length by omega)
  rw [packHeaderWithRlp]
  simp only [if_neg hne]
  exact ⟨by rw [length_append, length_append, h23, h16],
    fun h => ⟨_, _, hframe h, append_assoc ..⟩⟩

include hpk in
theorem sendHeader_framed (hbuf : acnRlpHeaderSizeExtLen ≤ buflen) {out : Bytes}
    (h : sendHeader pal rlp buflen header = some out) : Framed pal rlp header out := by
  obtain ⟨h16, h23, hne, hframe⟩ := headers_packed hpk rlp (le_trans (by decide) hbuf) hbuf
  rw [sendHeader] at h
  simp only [if_neg hne] at h
  obtain rfl := Option.some.inj h
  exact ⟨by simp only [length_append, h16, h23],
    fun h => ⟨_, _, hframe h, append_assoc ..⟩⟩

end Packed

/-! ### Messages behind their headers -/

section Deliver

variable (hpal : pal.Lawful) {cid : Uuid} {k : Nat} {out data : Bytes} {m : RdmnetMessage}
  (hdata : data.length = k) (hlen : (out ++ data).length < acnTcpPreambleSize + 1048576)

include hpal hdata hlen in
theorem Framed.delivers {rlp : AcnRootLayerPdu} {header : Bytes} (hf : Framed pal rlp header out)
    (hrlp : rlp.dataLen = header.length + k) {m' : RdmnetMessage}
    (hread : rlp.dataLen < 1048576 → ∀ e, Reads (rlpDataParser pal (.ofVector rlp.vector))
      (initializeRdmnetMessage rlp.vector rlp.dataLen)
      ({ m with vector := rlp.vector, senderCid := rlp.senderCid }, .plenty) (header ++ (data ++ e))
      rlp.dataLen (m', .plenty)) :
    Delivers pal (out ++ data) m m' := by
  have hlen' : 16 + 23 + header.length + k < 16 + 1048576 := by
    rwa [length_append, hf.1, hdata] at hlen
  obtain ⟨preamble, root, hframe, rfl⟩ := hf.2 (show 23 + rlp.dataLen < 1048576 by omega)
  rw [append_assoc, append_assoc]
  refine hframe.delivers hpal (by rw [length_append, hdata, hrlp]) fun e => ?_
  rw [append_assoc]
  exact hread (by omega) e

variable (hpk : pal.Packs)

include hpal hdata hlen hpk

theorem Framed.deliversBroker {v : UInt16}
    (hf : Framed pal (brokerRlp cid (5 + k)) (packBrokerHeader pal (5 + k) v) out)
    {b' : BrokerMessage} (hread : BrokerReads pal v k data m.broker b') : Delivers pal (out ++ data) m
      { m with vector := acnVectorRootBroker, senderCid := cid, broker := b' } := by
  refine hf.delivers hpal hdata hlen (by rw [length_packBrokerHeader hpk]; rfl) fun hlt e => ?_
  have h := parseBrokerBlock_reads hpal hpk hdata hlt hread e
  exact { h with msg := congrArg (fun x => ({ m with
    vector := acnVectorRootBroker, senderCid := cid, broker := x.1 }, x.2)) h.msg }

theorem Framed.deliversRpt {v : UInt32} {header : RptHeader}
    (hf : Framed pal (rptRlp cid (28 + k)) (packRptHeader pal (28 + k) v header) out)
    {r' : RptMessage} (hread : RptReads pal v header k data m.rpt r') :
    Delivers pal (out ++ data) m { m with vector := acnVectorRootRpt, senderCid := cid, rpt := r' } := by
  refine hf.delivers hpal hdata hlen (by rw [length_packRptHeader hpk]; rfl) fun hlt e => ?_
  have h := parseRptBlock_reads hpal hpk hdata hlt hread e
  exact { h with msg := congrArg (fun x => ({ m with
    vector := acnVectorRootRpt, senderCid := cid, rpt := x.1 }, x.2)) h.msg }

end Deliver

end RDMnet
