import RDMnet.MsgBuf.Logs
import RDMnet.Prot.RoundTrip

/-!
# Errors stay within their PDU

A Broker or RPT PDU whose lengths agree is the only thing in its TCP block.  Whatever its data is,
the parser is done with it exactly at its end, hands out at most one message for it and reads no
second header in it, as long as the lengths in the data are as `Event.Meets .whole` asks.  The
message behind it is then received as if nothing had been before it.
-/

namespace RDMnet

open Out List BrokerKind Event

variable {pal : EtcPal}

/-! ### Headers of PDUs -/

abbrev NoHeader {σ μ ρ : Type} (o : Out σ μ ρ Event) : Prop := o.Clean (·.isHeader = false)

theorem OfData.noHeader {σ μ ρ : Type} {o : Out σ μ ρ Event} (h : OfData o) : NoHeader o :=
  fun x hx => (h x hx).1

/-! ### Parsers that end with their bytes -/

def headers (lg : List Event) : Nat := lg.countP isHeader

theorem headers_append (a b : List Event) : headers (a ++ b) = headers a + headers b :=
  countP_append

theorem NoHeader.headers {σ μ ρ : Type} {o : Out σ μ ρ Event} (h : NoHeader o) : headers o.log = 0 :=
  countP_eq_zero.mpr fun x hx => by simp [h x hx]

/-- `d` is at hand of a stream that begins with `R`. -/
def AtHand (d R : Bytes) : Prop := d <+: R ∨ R <+: d

variable {d R : Bytes} {n : Nat}

theorem AtHand.drop (h : AtHand d R) : AtHand (d.drop n) (R.drop n) :=
  h.imp (fun h => List.IsPrefix.drop h n) fun h => List.IsPrefix.drop h n

theorem AtHand.split {p e : Bytes} (h : AtHand d (p ++ e)) (hlen : p.length ≤ d.length) : ∃ t, d = p ++ t := by
  rcases h with ⟨t, ht⟩ | ⟨t, ht⟩
  · obtain ⟨u, hu⟩ : p <+: d := prefix_of_prefix_length_le (prefix_append _ _)
      ⟨t, ht⟩ hlen
    exact ⟨u, hu.symm⟩
  · exact ⟨e ++ t, by rw [← ht, append_assoc]⟩

section Ends

variable {σ μ : Type}

/-- The outcome of a call with `d` at hand, when the bytes `R` and `h` headers are still to come: the
call wants more of them, or it is done with all of them. -/
def EndsAt (H : μ → Prop) (I : σ → μ → Bytes → Nat → Prop) (R : Bytes) (h : Nat) (d : Bytes)
    (o : Out σ μ ParseRes Event) : Prop :=
  H o.msg ∧
  ((o.res = .noData ∧ d.length < R.length ∧ o.used ≤ d.length ∧
      ∃ k, I o.st o.msg (R.drop o.used) k ∧ headers o.log + k = h) ∨
    parseVerdict.final o.res ∧ o.used = R.length ∧ R.length ≤ d.length ∧ headers o.log = h)

/-- The parser is done exactly at the end of its bytes, in whatever pieces they arrive. -/
def Ends (H : μ → Prop) (I : σ → μ → Bytes → Nat → Prop) (p : ParseFn σ μ) : Prop :=
  ∀ s m R h d, I s m R h → AtHand d R → (p s m d).Clean (Meets .whole) →
    EndsAt H I R h d (p s m d)

theorem Bounded.ends {H : μ → Prop} {J : σ → μ → Nat → Prop} {p : ParseFn σ μ}
    (hb : Bounded (terms .whole) H J p) (hof : ∀ s m d, (p s m d).res.OfData (p s m d).log)
    (hno : ∀ s m d, NoHeader (p s m d)) : Ends H (fun s m R h => J s m R.length ∧ h = 0) p := by
  rintro s m R h d ⟨hJ, rfl⟩ - hc
  have hw := hb s m R.length d hJ hc
  obtain ⟨⟨hun, hmem⟩, hwait, hexact⟩ := hw.fair
  have hle := hw.used_le
  have hhead := (hno s m d).headers
  refine ⟨hw.msg, ?_⟩
  have hfinal : parseVerdict.final (p s m d).res →
      parseVerdict.final (p s m d).res ∧ (p s m d).used = R.length ∧ R.length ≤ d.length ∧
        headers (p s m d).log = 0 := by
    intro hf
    have hused := hexact rfl hf
    exact ⟨hf, hused, by omega, hhead⟩
  cases hres : (p s m d).res with
  | noData =>
    refine .inl ⟨rfl, (hwait rfl hres).1, hle, 0, ⟨?_, rfl⟩, hhead⟩
    rw [length_drop]
    exact hw.inv (by simp [terms, hres])
  | fullBlockParseOk => rw [← hres]; exact .inr (hfinal (.inl hres))
  | fullBlockProtErr => rw [← hres]; exact .inr (hfinal (.inr hres))
  | unassigned => exact absurd hres hun
  | stuck => exact absurd hres (hmem rfl)
  | partialBlockProtErr => exact absurd hres (hof s m d).1
  | partialBlockParseOk => exact absurd (hw.held _ ((hof s m d).2 hres) rfl) (by simp)

end Ends

namespace Layer

variable {χ μ : Type} [Inhabited χ] {L : Layer χ μ} {H : μ → Prop} {I : χ → μ → Bytes → Nat → Prop}

/-- A layer with a block of one PDU, which its header fills: the header is due, or the next layer
goes on with the data. -/
def SoleInv (L : Layer χ μ) (H : μ → Prop) (I : χ → μ → Bytes → Nat → Prop) (s : Pdu χ) (m : μ)
    (R : Bytes) (h : Nat) : Prop :=
  H m ∧ s.block.Left R.length ∧ s.block.consumingBadBlock = false ∧
  (s.block.parsedHeader = true ∧ I s.data m R h ∨ s.block.parsedHeader = false ∧ L.headerSize ≤ R.length ∧
      ∀ d, AtHand d R → L.headerSize ≤ d.length → ∃ x m1 lg k,
        L.header s.block m d = (.accept x m1, lg) ∧ I x m1 (R.drop L.headerSize) k ∧ headers lg + k = h)

theorem finish_ends (hbody : Ends H I L.body) {s : Pdu χ} {m : μ} {R d : Bytes} {u h k : Nat}
    {lg : List Event} (hu : u ≤ R.length) (hd : u ≤ d.length)
    (hb : s.block.Left (R.length - u)) (hcons : s.block.consumingBadBlock = false)
    (hp : s.block.parsedHeader = true) (hI : I s.data m (R.drop u) k) (hh : headers lg + k = h)
    (hat : AtHand d R) (hc : (L.finish d ⟨s, m, u, .noData, lg⟩).Clean (Meets .whole)) :
    EndsAt H (SoleInv L H I) R h d (L.finish d ⟨s, m, u, .noData, lg⟩) := by
  have hcl : (L.body s.data m (d.drop u)).Clean (Meets .whole) := by
    intro x hx
    apply hc
    simp only [finish, hp, if_true]
    split_ifs <;> simp [hx]
  have hsize := hb.1
  obtain ⟨hm, hend⟩ := hbody _ _ _ _ _ hI hat.drop hcl
  simp only [length_drop] at hend
  simp only [finish, hp, if_true]
  generalize L.body s.data m (d.drop u) = c at *
  have hlog : headers (lg ++ c.log ++ [.check true]) = headers lg + headers c.log := by
    rw [headers_append, headers_append]
    rfl
  rcases hend with ⟨hres, hlt, hle, j, hj, hcount⟩ | ⟨hfin, hused, hlen, hcount⟩
  · -- the next layer wants more, and so does this one
    rw [if_neg (by simp [hres]), if_pos ⟨hle, by omega⟩, if_neg (by simp [hres])]
    simp only [hres, checkForFullParse, PduBlockState.advance, hp, if_true]
    refine ⟨hm, .inl ⟨rfl, by omega, by simp only; omega, j, ⟨hm, ?_, hcons, .inl ⟨rfl, ?_⟩⟩, ?_⟩⟩
    · refine ⟨?_, hb.2⟩
      simp only [length_drop]
      omega
    · rw [drop_drop] at hj
      exact hj
    · simp only
      omega
  · -- it is done with the PDU, and that was the block
    have hne : c.res ≠ .stuck ∧ c.res ≠ .unassigned := by
      rcases hfin with h | h <;> simp [h]
    rw [if_neg hne.1, if_pos ⟨by omega, by omega⟩, if_neg hne.2]
    have hend : ¬ (s.block.advance c.used).sizeParsed < (s.block.advance c.used).blockSize := by
      show ¬ s.block.sizeParsed + c.used < s.block.blockSize
      omega
    refine ⟨hm, .inr ⟨?_, by simp only; omega, by omega, by simp only; omega⟩⟩
    rcases hfin with h | h <;> simp only [h, checkForFullParse, hend, if_false]
    · exact .inl rfl
    · exact .inr rfl

/-- **A layer ends with its bytes** if the next one does. -/
theorem parse_ends (hbody : Ends H I L.body) : Ends H (SoleInv L H I) L.parse := by
  rintro s m R h d ⟨hm, hb, hcons, hphase⟩ hat hc
  rcases hphase with ⟨hp, hI⟩ | ⟨hp, hle, hhead⟩
  · rw [parse, start_mid hcons hp] at hc ⊢
    exact finish_ends hbody zero_le zero_le hb hcons hp hI (Nat.zero_add _) hat hc
  have hroom : L.headerSize ≤ s.block.room := by rwa [hb.room]
  by_cases hlen : d.length < L.headerSize
  · rw [parse_wait hcons hp hroom hlen]
    exact ⟨hm, .inl ⟨rfl, by omega, zero_le, h,
      ⟨hm, hb, hcons, .inr ⟨hp, hle, hhead⟩⟩, Nat.zero_add _⟩⟩
  have hlen := not_lt.mp hlen
  obtain ⟨x, m1, lg, k, hacc, hI, hh⟩ := hhead d hat hlen
  rw [parse_accept hcons hp hroom hlen hacc] at hc ⊢
  exact finish_ends hbody hle hlen (hb.advance hle) hcons rfl hI hh hat hc

/-- A layer at the start of a PDU with a header that is accepted whatever is behind it. -/
theorem sole_start {m : μ} {header payload : Bytes} {size h : Nat} (hm : H m)
    (hlen : header.length = L.headerSize) (hsize : size = header.length + payload.length) (hlt : size < 1048576)
    (hhead : ∀ t, ∃ x m1 lg k, L.header (.start size) m (header ++ t) = (.accept x m1, lg) ∧
      I x m1 payload k ∧ headers lg + k = h) : SoleInv L H I ⟨.start size, default⟩ m (header ++ payload) h := by
  have htotal : (header ++ payload).length = size := by rw [length_append, hsize]
  refine ⟨hm, ?_, rfl, .inr ⟨rfl, by omega, fun d hat hd => ?_⟩⟩
  · rw [htotal]
    exact PduBlockState.Left.start (show size < 18446744073709551616 by omega)
  · obtain ⟨t, rfl⟩ := hat.split (by omega)
    rw [drop_left' hlen]
    exact hhead t

end Layer

/-! ### A framed PDU -/

abbrev BrokerSole (pal : EtcPal) : BrokerState → BrokerMessage × Heap → Bytes → Nat → Prop :=
  (brokerLayer pal).SoleInv (Supplied .whole) fun s m R h =>
    BrokerDataLeft .whole (.ofVector m.1.vector) s m R.length ∧ h = 0

abbrev RptSole (pal : EtcPal) : RptState → RptMessage × Heap → Bytes → Nat → Prop :=
  (rptLayer pal).SoleInv (Supplied .whole) fun s m R h =>
    RptDataLeft .whole (.ofVector m.1.vector) s m R.length ∧ h = 0

theorem parseBrokerBlock_ends (hpal : pal.Lawful) :
    Ends (Supplied .whole) (BrokerSole pal) (parseBrokerBlock pal) :=
  Layer.parse_ends (Bounded.ends (brokerLayer_body_bounded hpal)
    (fun _ _ _ => brokerDataParser_ofData _ _ _ _) fun _ _ _ => (brokerDataParser_logs hpal _ _ _ _).noHeader)

theorem parseRptBlock_ends (hpal : pal.Lawful) : Ends (Supplied .whole) (RptSole pal) (parseRptBlock pal) :=
  Layer.parse_ends (Bounded.ends rptLayer_body_bounded (fun _ _ _ => rptDataParser_ofData _ _ _ _)
    fun _ _ _ => (rptDataParser_logs hpal _ _ _ _).noHeader)

def RlpDataSole (pal : EtcPal) (s : RlpData) (m : RdmnetMessage × Heap) (R : Bytes) (h : Nat) :
    Prop :=
  RootKind.ofVector m.1.vector = .broker ∧ BrokerSole pal s.broker (m.1.broker, m.2) R h ∨
    RootKind.ofVector m.1.vector = .rpt ∧ RptSole pal s.rpt (m.1.rpt, m.2) R h

theorem rlpLayer_body_ends (hpal : pal.Lawful) :
    Ends (Supplied .whole) (RlpDataSole pal) (rlpLayer pal).body := by
  rintro s m R h d (⟨hk, hI⟩ | ⟨hk, hI⟩) hat hc
  · have hbody : (rlpLayer pal).body s m d = rlpDataParser pal .broker s m d := by
      simp only [rlpLayer, hk]
    rw [hbody] at hc ⊢
    obtain ⟨hm, hend⟩ := parseBrokerBlock_ends hpal _ _ _ _ _ hI hat hc
    refine ⟨hm, hend.imp_left ?_⟩
    rintro ⟨hres, hlt, hle, k, hk', hcount⟩
    exact ⟨hres, hlt, hle, k, .inl ⟨hk, hk'⟩, hcount⟩
  · have hbody : (rlpLayer pal).body s m d = rlpDataParser pal .rpt s m d := by
      simp only [rlpLayer, hk]
    rw [hbody] at hc ⊢
    obtain ⟨hm, hend⟩ := parseRptBlock_ends hpal _ _ _ _ _ hI hat hc
    refine ⟨hm, hend.imp_left ?_⟩
    rintro ⟨hres, hlt, hle, k, hk', hcount⟩
    exact ⟨hres, hlt, hle, k, .inr ⟨hk, hk'⟩, hcount⟩

abbrev RlpSole (pal : EtcPal) : RlpState → RdmnetMessage × Heap → Bytes → Nat → Prop :=
  (rlpLayer pal).SoleInv (Supplied .whole) (RlpDataSole pal)

theorem parseRlpBlock_ends (hpal : pal.Lawful) : Ends (Supplied .whole) (RlpSole pal) (parseRlpBlock pal) :=
  Layer.parse_ends (rlpLayer_body_ends hpal)

/-- `payload` as the data of a Broker or RPT PDU, in a TCP block of its own; the length of the PDU,
that of the root layer PDU and that of the block agree. -/
structure FramedPdu (pal : EtcPal) (payload : Bytes) (rlp : AcnRootLayerPdu)
    (preamble root header : Bytes) : Prop where
  frame : Frame pal rlp preamble root
  dataLen : rlp.dataLen = header.length + payload.length
  length : pal.acnPduLength header = header.length + payload.length
  kind : RootKind.ofVector rlp.vector = .broker ∧ header.length = brokerPduHeaderSize ∨
    RootKind.ofVector rlp.vector = .rpt ∧ header.length = rptPduHeaderSize

section Framed

variable (hpal : pal.Lawful) {payload header : Bytes}

include hpal in
theorem Layer.Sized.sole_start {χ μ : Type} [Inhabited χ] {L : Layer χ (μ × Heap)}
    {init : μ → Bytes → Nat → χ × μ} (hL : L.Sized pal init) {J : χ → μ × Heap → Nat → Prop}
    {m : μ × Heap} (hm : Supplied .whole m) (h3 : 3 ≤ L.headerSize) (hsize : header.length = L.headerSize)
    (hlen : pal.acnPduLength header = header.length + payload.length)
    (hinit : ∀ d, payload.length < 18446744073709551616 →
      J (init m.1 d payload.length).1 ((init m.1 d payload.length).2, m.2) payload.length) :
    L.SoleInv (Supplied .whole) (fun s m R h => J s m R.length ∧ h = 0)
      ⟨.start (header.length + payload.length), default⟩ m (header ++ payload) 1 := by
  have hlt := hpal.length_lt header
  refine Layer.sole_start hm hsize rfl (by omega) fun t => ?_
  have hread : pal.acnPduLength (header ++ t) = L.headerSize + payload.length := by
    rw [hpal.length_append _ _ (by omega), hlen, hsize]
  rw [hsize]
  exact ⟨_, _, _, 0, hL.start hread, ⟨hinit _ (by omega), rfl⟩, rfl⟩

include hpal in
theorem FramedPdu.sole {rlp : AcnRootLayerPdu} {preamble root : Bytes}
    (h : FramedPdu pal payload rlp preamble root header) {m : RdmnetMessage × Heap} (hm : Supplied .whole m) :
    RlpSole pal ⟨.start (acnRlpHeaderSizeExtLen + rlp.dataLen), default⟩ m (root ++ (header ++ payload)) 1 := by
  have hshort : 23 + rlp.dataLen < 1048576 := h.frame.short
  refine Layer.sole_start hm h.frame.root_length ?_ hshort fun t => ?_
  · rw [h.frame.root_length, h.dataLen, length_append]
  have hread : pal.acnParseRootLayerHeader (root ++ t) = some rlp := by
    rw [hpal.root_append _ _ (le_of_eq h.frame.root_length.symm), h.frame.root_read]
  have hheader : (rlpLayer pal).header (.start (acnRlpHeaderSizeExtLen + rlp.dataLen)) m (root ++ t) =
      (.accept (initializeRdmnetMessage rlp.vector rlp.dataLen)
        ({ m.1 with vector := rlp.vector, senderCid := rlp.senderCid }, m.2),
        [.rlpHeader rlp.dataLen (0 + 23) (23 + rlp.dataLen) ((root ++ t).length - 23)]) := by
    show rlpHeader pal _ m _ = _
    simp only [rlpHeader, hread]
    exact if_pos (show 0 + 23 + rlp.dataLen ≤ 23 + rlp.dataLen by omega)
  refine ⟨_, _, _, 1, hheader, ?_, rfl⟩
  rw [h.dataLen]
  rcases h.kind with ⟨hk, h5⟩ | ⟨hk, h28⟩
  · refine .inl ⟨hk, ?_⟩
    simp only [initializeRdmnetMessage, hk]
    exact (brokerLayer_sized pal).sole_start hpal hm (show 3 ≤ 5 by decide) h5 h.length
      fun _ hn => initializeBrokerMessage_left hm hn
  · refine .inr ⟨hk, ?_⟩
    simp only [initializeRdmnetMessage, hk]
    exact (rptLayer_sized pal).sole_start hpal hm (show 3 ≤ 28 by decide) h28 h.length
      fun _ hn => initializeRptMessage_left hm hn

end Framed

/-! ### Receiving a framed PDU -/

/-- The message buffer while the bytes `R` of a framed PDU and `h` headers are still to come. -/
def BufSole (pal : EtcPal) (s : RCMsgBuf) (m : RdmnetMessage × Heap) (R : Bytes) (h : Nat) : Prop :=
  s.havePreamble = true ∧ RlpSole pal s.rlpState m R h ∨
    s = rcMsgBufInit ∧ m.2 = .plenty ∧ h = 1 ∧ ∃ payload rlp preamble root header,
      FramedPdu pal payload rlp preamble root header ∧ R = preamble ++ (root ++ (header ++ payload))

/-- The outcome of a round with `d` at hand: it wants more, or it is done with the PDU. -/
def RoundEnds (pal : EtcPal) (R : Bytes) (h : Nat) (d : Bytes)
    (o : Out RCMsgBuf (RdmnetMessage × Heap) (Option MsgBufRes) Event) : Prop :=
  (o.res = some .noData ∧ d.length < R.length ∧ o.used ≤ d.length ∧
      ∃ k, BufSole pal o.st o.msg (R.drop o.used) k ∧ headers o.log + k = h) ∨
    (o.res = some .ok ∨ o.res = none) ∧ o.st = rcMsgBufInit ∧ o.msg.2 = .plenty ∧
      o.used = R.length ∧ R.length ≤ d.length ∧ headers o.log = h

variable {m : RdmnetMessage × Heap}

theorem parseDataBlock_ends (hpal : pal.Lawful) {s : RCMsgBuf}
    {h : Nat} (hI : RlpSole pal s.rlpState m R h) (hat : AtHand d R)
    (hc : (parseDataBlock pal s m d).Clean (Meets .whole)) : RoundEnds pal R h d (parseDataBlock pal s m d) := by
  obtain ⟨hm, hend⟩ := parseRlpBlock_ends hpal _ _ _ _ _ hI hat (parseDataBlock_clean hc)
  have hle : (parseRlpBlock pal s.rlpState m d).used ≤ d.length := by
    rcases hend with ⟨-, -, hle, -⟩ | ⟨-, hused, hlen, -⟩ <;> omega
  rw [parseDataBlock_eq hle]
  generalize parseRlpBlock pal s.rlpState m d = o at *
  have hlog : headers (afterBlock o).log = headers o.log := by
    simp only [afterBlock, headers_append]
    rfl
  rcases hend with ⟨hres, hlt, -, k, hk, hcount⟩ | ⟨hfin, hused, hlen, hcount⟩
  · refine .inl ⟨by simp [afterBlock, hres, blockResult], hlt, hle, k, .inl ⟨?_, ?_⟩, ?_⟩
    · simp [afterBlock, hres, blockResult]
    · simp only [afterBlock, hres, blockResult]
      exact hk
    · rw [hlog]
      exact hcount
  · refine .inr ⟨?_, ?_, hm rfl, hused, hlen, by rw [hlog]; exact hcount⟩ <;>
      rcases hfin with h | h <;> simp [afterBlock, h, blockResult, rcMsgBufInit]

theorem parseDataRound_ends (hpal : pal.Lawful) {s : RCMsgBuf}
    {h : Nat} (hI : BufSole pal s m R h) (hat : AtHand d R)
    (hc : (parseDataRound pal s m d).Clean (Meets .whole)) : RoundEnds pal R h d (parseDataRound pal s m d) := by
  rcases hI with ⟨hp, hI⟩ | ⟨rfl, hm, rfl, payload, rlp, preamble, root, header, hf, rfl⟩
  · rw [parseDataRound_block hp] at hc ⊢
    exact parseDataBlock_ends hpal hI hat hc
  have h16 : preamble.length = 16 := hf.frame.preamble_length
  have h23 : root.length = 23 := hf.frame.root_length
  by_cases hshort : d.length ≤ 16
  · -- the preamble is not looked for before a byte behind it is there
    have hfind : findTcpPreamble pal d = none := by
      cases d with
      | nil => rfl
      | cons x d => simp only [findTcpPreamble, if_neg (not_lt.mpr hshort)]
    have hround : parseDataRound pal rcMsgBufInit m d = ⟨rcMsgBufInit, m, 0, some .noData, []⟩ := by
      rw [parseDataRound_none rfl hfind, Nat.sub_eq_zero_of_le hshort]
    rw [hround]
    refine .inl ⟨rfl, ?_, zero_le, 1, ?_, rfl⟩
    · simp only [length_append]
      omega
    · exact .inr ⟨rfl, hm, rfl, payload, rlp, preamble, root, header, hf, rfl⟩
  · obtain ⟨t, rfl⟩ := hat.split (by omega)
    have hread : pal.acnParseTcpPreamble (preamble ++ t) =
        some (acnRlpHeaderSizeExtLen + rlp.dataLen) := by
      rw [hpal.preamble_append _ _ (le_of_eq hf.frame.preamble_length.symm), hf.frame.preamble_read]
    have hne : ¬ acnRlpHeaderSizeExtLen + rlp.dataLen = 0 := by
      show ¬ 23 + rlp.dataLen = 0
      omega
    have hround : parseDataRound pal rcMsgBufInit m (preamble ++ t) =
        (parseDataBlock pal ⟨true, ⟨.start (acnRlpHeaderSizeExtLen + rlp.dataLen), default⟩⟩ m t).since
          16 [.preamble (acnRlpHeaderSizeExtLen + rlp.dataLen)] := by
      have hlocate : locateTcpPreamble pal (preamble ++ t) = (16, acnRlpHeaderSizeExtLen + rlp.dataLen,
          [.preamble (acnRlpHeaderSizeExtLen + rlp.dataLen)]) := by
        simp only [locateTcpPreamble, findTcpPreamble_first (not_le.mp hshort) hread]
        rfl
      simp only [parseDataRound, rcMsgBufInit, hlocate, hne, if_false, Bool.false_eq_true, drop_left' h16]
    rw [hround] at hc ⊢
    have hrest : AtHand t (root ++ (header ++ payload)) := by
      have := hat.drop (n := 16)
      rwa [drop_left' h16, drop_left' h16] at this
    have hend := parseDataBlock_ends hpal (s := ⟨true, ⟨.start (acnRlpHeaderSizeExtLen + rlp.dataLen),
      default⟩⟩) (hf.sole hpal fun _ => hm) hrest (clean_since.mp hc).2
    generalize parseDataBlock pal ⟨true, ⟨.start (acnRlpHeaderSizeExtLen + rlp.dataLen), default⟩⟩ m t =
      o at *
    have hlog : headers (o.since 16 [.preamble (acnRlpHeaderSizeExtLen + rlp.dataLen)]).log =
        headers o.log := by
      rw [since_log, headers_append]
      exact Nat.zero_add _
    have hlen : (preamble ++ t).length = 16 + t.length := by rw [length_append, h16]
    have hlenR : (preamble ++ (root ++ (header ++ payload))).length =
        16 + (root ++ (header ++ payload)).length := by rw [length_append, h16]
    rcases hend with ⟨hres, hlt, hle, k, hk, hcount⟩ | ⟨hres, hst, hm', hused, hlen', hcount⟩
    · refine .inl ⟨hres, by omega, by rw [since_used]; omega, k, ?_, by rw [hlog]; exact hcount⟩
      have hdrop : (preamble ++ (root ++ (header ++ payload))).drop (16 + o.used) =
          (root ++ (header ++ payload)).drop o.used := by
        rw [← drop_drop, drop_left' h16]
      show BufSole pal o.st o.msg ((preamble ++ (root ++ (header ++ payload))).drop (16 + o.used)) k
      rw [hdrop]
      exact hk
    · exact .inr ⟨hres, hst, hm', by rw [since_used]; omega, by omega, by rw [hlog]; exact hcount⟩

/-- A message buffer that receives a stream: the chunks still to come, and whether the last call of
`rc_msg_buf_parse_data` wanted more data. -/
structure Receiving where
  st : RCMsgBuf
  msg : RdmnetMessage × Heap
  buf : Bytes
  rest : List Bytes
  waiting : Bool

def Receiving.left (r : Receiving) : Nat := r.buf.length + r.rest.flatten.length

/-- Receive a chunk, or make a round of the loop of `rc_msg_buf_parse_data`. -/
inductive Receiving.Step (pal : EtcPal) : Receiving → Receiving → Prop
  | recv {s m b c cs} : Step pal ⟨s, m, b, c :: cs, true⟩ ⟨s, m, b ++ c, cs, false⟩
  | again {s m b cs} : (parseDataRound pal s m b).res = none →
      Step pal ⟨s, m, b, cs, false⟩ ⟨(parseDataRound pal s m b).st, (parseDataRound pal s m b).msg,
        b.drop (parseDataRound pal s m b).used, cs, false⟩
  | emit {s m b cs} : (parseDataRound pal s m b).res = some .ok →
      Step pal ⟨s, m, b, cs, false⟩ ⟨(parseDataRound pal s m b).st,
        release (parseDataRound pal s m b).msg, b.drop (parseDataRound pal s m b).used, cs, false⟩
  | wait {s m b cs} : (parseDataRound pal s m b).res = some .noData →
      Step pal ⟨s, m, b, cs, false⟩ ⟨(parseDataRound pal s m b).st, (parseDataRound pal s m b).msg,
        b.drop (parseDataRound pal s m b).used, cs, true⟩

/-- Every round made before only `n` bytes are left meets the lengths that are asked for. -/
def Receiving.MeetsUntil (pal : EtcPal) (n : Nat) (r : Receiving) : Prop :=
  ∀ r', Relation.ReflTransGen (Receiving.Step pal) r r' → r'.waiting = false → n < r'.left →
    (parseDataRound pal r'.st r'.msg r'.buf).Clean (Meets .whole)

theorem Receiving.MeetsUntil.step {r r' : Receiving} (h : r.MeetsUntil pal n)
    (hstep : Receiving.Step pal r r') : r'.MeetsUntil pal n :=
  fun _ hr => h _ (Relation.ReflTransGen.head hstep hr)

theorem feeds_packed (hpal : pal.Lawful) (hpk : pal.Packs) {cid : Uuid} {x : Outgoing}
    (hx : Packed pal (cid, x)) (hm : m.2 = .plenty) {b : Bytes}
    {cs : List Bytes} (hcs : b ++ cs.flatten = x.bytes pal cid) :
    ∃ m' o lg, BufFeeds pal (fun _ _ => True) rcMsgBufInit m [] (b :: cs) rcMsgBufInit m' [] [o] lg ∧
      x.Arrives cid o.1 := by
  obtain ⟨m, heap⟩ := m
  cases hm
  obtain ⟨m', os, lg, hd, hlg, hall⟩ := drains_packed hpal hpk [(cid, x)] m
    fun y hy => by rw [mem_singleton.mp hy]; exact hx
  have hcut := BufDrains.cutSafe hpal hd (bufLeft_init fun _ => rfl) hlg
  have hI : BufInv rcMsgBufInit (m, .plenty) := fun h => by cases h
  have hbytes : packAll pal [(cid, x)] = [] ++ (b ++ cs.flatten) := by
    rw [hcs]
    simp [packAll]
  rw [hbytes] at hd
  obtain ⟨lg', hf, -⟩ := Drains.feeds (fun _ h => h) (rcMsgBufParseData_resumable hpal)
    (rcMsgBufParseData_releases hpal) cs hI hd hcut
  -- one message was packed, and one is received
  obtain ⟨o, harr, hos⟩ : ∃ o, x.Arrives cid o.1 ∧ os = [o] := by
    cases os with
    | nil => cases hall
    | cons o os =>
      rw [map_cons] at hall
      cases hall with
      | cons harr hrest =>
        have hnil : os = [] := by
          cases os with
          | nil => rfl
          | cons => cases hrest
        exact ⟨o, harr, by rw [hnil]⟩
  rw [hos] at hf
  exact ⟨_, o, lg', hf, harr⟩

theorem drains_ended {s : RCMsgBuf} (hm : (parseDataRound pal s m d).msg.2 = .plenty)
    (hst : (parseDataRound pal s m d).st = rcMsgBufInit)
    (hres : (parseDataRound pal s m d).res = some .ok ∨ (parseDataRound pal s m d).res = none) :
    ∃ m2 os, m2.2 = Heap.plenty ∧ os.length ≤ 1 ∧ ∀ {s1 m1 b1 os1 lg1},
      BufDrains pal rcMsgBufInit m2 (d.drop (parseDataRound pal s m d).used) s1 m1 b1 os1 lg1 →
      BufDrains pal s m d s1 m1 b1 (os ++ os1) ((parseDataRound pal s m d).log ++ lg1) := by
  rcases hres with hres | hres
  · have hcall : rcMsgBufParseData pal s m d = _ :=
      Parser.iterate_some parseDataRound_decreases .stuck hres
    rw [hst] at hcall
    exact ⟨release (parseDataRound pal s m d).msg, [(parseDataRound pal s m d).msg], hm, le_rfl,
      fun hd => .emit_of hcall (by rintro ⟨⟩) rfl hd⟩
  · have hcall : rcMsgBufParseData pal s m d = _ :=
      Parser.iterate_none parseDataRound_decreases .stuck hres
    rw [hst] at hcall
    exact ⟨(parseDataRound pal s m d).msg, [], hm, zero_le, fun hd => .since_of hcall hd⟩

theorem feeds_behind (hpal : pal.Lawful) (hpk : pal.Packs) {cid : Uuid} {x : Outgoing}
    (hx : Packed pal (cid, x)) :
    ∀ (cs : List Bytes) {s : RCMsgBuf} {m : RdmnetMessage × Heap} {b R : Bytes} {h : Nat},
      BufSole pal s m R h → b ++ cs.flatten = R ++ x.bytes pal cid → b.length < R.length →
      Receiving.MeetsUntil pal (x.bytes pal cid).length ⟨s, m, b, cs, true⟩ → ∃ s' m' os o lgP lgM m1 b1 cs1,
        BufFeeds pal (fun _ _ => True) s m b cs s' m' [] (os ++ [o]) (lgP ++ lgM) ∧
        os.length ≤ 1 ∧ headers lgP = h ∧ x.Arrives cid o.1 ∧ b1 ++ cs1.flatten = x.bytes pal cid ∧
        BufFeeds pal (fun _ _ => True) rcMsgBufInit m1 [] (b1 :: cs1) s' m' [] [o] lgM := by
  intro cs
  induction cs with
  | nil =>
    intro s m b R h _ hbytes hlt
    have := congrArg List.length hbytes
    simp only [flatten_nil, append_nil, length_append] at this
    omega
  | cons c cs ih =>
    intro s m b R h hI hbytes hlt hok
    rw [flatten_cons, ← append_assoc] at hbytes
    have hat : AtHand (b ++ c) R := prefix_or_prefix_of_prefix
      ⟨cs.flatten, hbytes⟩ (prefix_append R (x.bytes pal cid))
    have hok1 := hok.step Receiving.Step.recv
    have hlen := congrArg List.length hbytes
    simp only [length_append] at hlen
    have hclean := hok1 _ Relation.ReflTransGen.refl rfl (by
      simp only [Receiving.left, length_append]
      omega)
    simp only at hclean
    have hend := parseDataRound_ends hpal hI hat hclean
    generalize hd : b ++ c = d at *
    have hdrop : ∀ {k}, k ≤ R.length → k ≤ d.length →
        d.drop k ++ cs.flatten = R.drop k ++ x.bytes pal cid := by
      intro k hk hk'
      rw [← drop_append_of_le_length hk', hbytes, drop_append_of_le_length hk]
    rcases hend with ⟨hres, hshort, hused, k, hI', hcount⟩ |
      ⟨hres, hst, hm, hused, hle, hcount⟩
    · -- the PDU goes on in the next chunk
      have hcall : rcMsgBufParseData pal s m d = _ :=
        Parser.iterate_some parseDataRound_decreases .stuck hres
      obtain ⟨s', m', os, o, lgP, lgM, m1, b1, cs1, hf, hos, hhead, harr, hb1, hfM⟩ :=
        ih hI' (hdrop (by omega) hused) (by simp only [length_drop]; omega)
          (hok1.step (Receiving.Step.wait hres))
      refine ⟨s', m', os, o, (parseDataRound pal s m d).log ++ lgP, lgM, m1, b1, cs1, ?_, hos, ?_,
        harr, hb1, hfM⟩
      · have hdrains : BufDrains pal s m d _ _ _ [] _ := Drains.wait_of hcall rfl
        have hfeed := Feeds.cons (b := b) (c := c) trivial (by rw [hd]; exact hdrains) hf
        rwa [nil_append, ← append_assoc] at hfeed
      · rw [headers_append]
        omega
    · -- the PDU ends here, and the message behind it begins
      have hrest : d.drop R.length ++ cs.flatten = x.bytes pal cid := by
        rw [hdrop le_rfl hle, drop_length, nil_append]
      rw [← hused] at hrest
      obtain ⟨m2, os, hm2, hos, hdrains⟩ := drains_ended hm hst hres
      obtain ⟨m', o, lgM, hfM, harr⟩ := feeds_packed hpal hpk hx hm2 hrest
      obtain ⟨s1, m1, b1, os1, os2, lg1, lg2, hos1, hlg, hdM, hfR⟩ := hfM.cons_inv
      refine ⟨_, m', os, o, (parseDataRound pal s m d).log, lgM, m2, _, cs, ?_, hos, hcount, harr, hrest, hfM⟩
      have hfeed := Feeds.cons (b := b) (c := c) trivial (by rw [hd]; exact hdrains hdM) hfR
      rw [hos1, hlg]
      simpa only [append_assoc] using hfeed

/-- **Errors stay within their PDU.**  A framed PDU and a packed message are received in chunks, in
a run whose rounds meet the lengths asked for until the PDU is done with.  Then at most one message
is handed out for the PDU, one header is read in it, and the message behind it is received last, from
its first byte on and as if nothing had been before it. -/
theorem errors_contained (hpal : pal.Lawful) (hpk : pal.Packs) (m : RdmnetMessage)
    {payload : Bytes} {rlp : AcnRootLayerPdu} {preamble root header : Bytes}
    (hf : FramedPdu pal payload rlp preamble root header) {cid : Uuid} {x : Outgoing}
    (hx : Packed pal (cid, x)) {cs : List Bytes}
    (hcs : cs.flatten = preamble ++ (root ++ (header ++ payload)) ++ x.bytes pal cid)
    (hfit : ChunksFit pal m cs) (hok : Receiving.MeetsUntil pal (x.bytes pal cid).length
      ⟨rcMsgBufInit, (m, .plenty), [], cs, true⟩) : ∃ s' m' os o lgP lgM m1 b1 cs1,
      BufFeeds pal FitsBuf rcMsgBufInit (m, .plenty) [] cs s' m' [] (os ++ [o]) (lgP ++ lgM) ∧
      os.length ≤ 1 ∧ headers lgP = 1 ∧ x.Arrives cid o.1 ∧ b1 ++ cs1.flatten = x.bytes pal cid ∧
      BufFeeds pal (fun _ _ => True) rcMsgBufInit m1 [] (b1 :: cs1) s' m' [] [o] lgM := by
  have hI : BufSole pal rcMsgBufInit (m, .plenty) (preamble ++ (root ++ (header ++ payload))) 1 :=
    .inr ⟨rfl, rfl, rfl, payload, rlp, preamble, root, header, hf, rfl⟩
  have hpos : ([] : Bytes).length < (preamble ++ (root ++ (header ++ payload))).length := by
    have h16 : preamble.length = 16 := hf.frame.preamble_length
    rw [length_append, h16, length_nil]
    omega
  obtain ⟨s', m', os, o, lgP, lgM, m1, b1, cs1, hfeed, h⟩ := feeds_behind hpal hpk hx cs hI
    (by rw [nil_append, hcs]) hpos hok
  exact ⟨s', m', os, o, lgP, lgM, m1, b1, cs1, hfeed.fit hfit, h⟩

theorem Receiving.Step.left_le {r r' : Receiving} (h : Receiving.Step pal r r') : r'.left ≤ r.left := by
  cases h <;> simp only [Receiving.left, flatten_cons, length_append, length_drop] <;>
    omega

/-- A buffer that makes a round which takes all but the last `n` bytes has no other round to make
before them. -/
theorem Receiving.meetsUntil_of_round (hc : (parseDataRound pal rcMsgBufInit m d).Clean (Meets .whole))
    (hused : d.length ≤ (parseDataRound pal rcMsgBufInit m d).used + n) :
    Receiving.MeetsUntil pal n ⟨rcMsgBufInit, m, [], [d], true⟩ := by
  have hle : ∀ {r r'}, Relation.ReflTransGen (Receiving.Step pal) r r' → r'.left ≤ r.left := by
    intro r r' h
    induction h with
    | refl => exact le_rfl
    | tail _ hs ih => exact le_trans hs.left_le ih
  intro r' hr hw hn
  rcases hr.cases_head with rfl | ⟨r1, h1, hr1⟩
  · cases hw
  cases h1
  rcases hr1.cases_head with rfl | ⟨r2, h2, hr2⟩
  · exact hc
  have h2le := hle hr2
  cases h2 <;> simp only [Receiving.left, nil_append, length_drop, flatten_nil, length_nil] at h2le hn <;> omega

def sampleBadVector : Bytes := sampleFrame 9 30 ++ [0xf0, 0, 7, 0, 77, 1, 2]

theorem sampleBadVector_framed : FramedPdu EtcPal.reference [1, 2]
    ⟨acnVectorRootBroker, Vector.replicate 16 0, 7⟩ ((sampleFrame 9 30).take 16)
    ((sampleFrame 9 30).drop 16) [0xf0, 0, 7, 0, 77] where
  frame := ⟨by decide +kernel, by decide +kernel, by decide +kernel, by decide +kernel,
    by decide +kernel⟩
  dataLen := by decide
  length := by decide +kernel
  kind := .inl ⟨by decide +kernel, by decide⟩

theorem errors_contained_badVector : ∃ s' m' os o lgP lgM m1 b1 cs1,
      BufFeeds EtcPal.reference FitsBuf rcMsgBufInit (default, .plenty) []
        [sampleBadVector ++ (Outgoing.null 44).bytes EtcPal.reference default] s' m' [] (os ++ [o])
        (lgP ++ lgM) ∧ os.length ≤ 1 ∧ headers lgP = 1 ∧ (Outgoing.null 44).Arrives default o.1 ∧
      b1 ++ cs1.flatten = (Outgoing.null 44).bytes EtcPal.reference default ∧
      BufFeeds EtcPal.reference (fun _ _ => True) rcMsgBufInit m1 [] (b1 :: cs1) s' m' [] [o] lgM :=
  errors_contained EtcPal.reference_lawful EtcPal.reference_packs default sampleBadVector_framed
    (show Packed EtcPal.reference (default, .null 44) from
      ⟨trivial, by decide +kernel, by decide +kernel⟩) (by decide +kernel)
    (chunksFit_of_short (by decide +kernel))
    (Receiving.meetsUntil_of_round (show ∀ x ∈ _, Meets .whole x by decide +kernel)
      (by decide +kernel))

/-- A Client Connect PDU whose client entry is followed by the bytes of a Null PDU, all of it in
one Broker PDU. -/
def sampleTail : Bytes :=
  EtcPal.packetIdent ++ [0, 0, 1, 0x78, 0xf0, 1, 0x78, 0, 0, 0, 9] ++ List.replicate 16 0 ++
    [0xf0, 1, 0x61, 0, 1] ++ List.replicate 297 0 ++ [0xf0, 0, 46, 0, 0, 0, 5] ++
    List.replicate 39 0 ++ [0xf0, 0, 5, 0, 15]

/-- Two messages are handed out for it. -/
theorem tail_not_contained : FramedPdu EtcPal.reference (sampleTail.drop 44)
      ⟨acnVectorRootBroker, Vector.replicate 16 0, 353⟩ (sampleTail.take 16)
      ((sampleTail.drop 16).take 23) ((sampleTail.drop 39).take 5) ∧ ∃ os, Receives EtcPal.reference default
        [sampleTail ++ (Outgoing.null 44).bytes EtcPal.reference default] os ∧
      os.map (·.broker.vector) = [connect.vector, null.vector, null.vector] := by
  refine ⟨⟨⟨by decide +kernel, by decide +kernel, by decide +kernel, by decide +kernel,
    by decide +kernel⟩, by decide +kernel, by decide +kernel, .inl ⟨by decide +kernel,
    by decide +kernel⟩⟩, ?_⟩
  have hrun : (((rcMsgBufParseData EtcPal.reference).feed bufVerdict (· = .ok) release FitsBuf 5
      rcMsgBufInit (default, .plenty) []
      [sampleTail ++ (Outgoing.null 44).bytes EtcPal.reference default]).map
        (fun r => r.2.2.2.1.map Prod.fst)).map (fun os => os.map (·.broker.vector)) =
      some [connect.vector, null.vector, null.vector] := by
    decide +kernel
  obtain ⟨os, hos, hvec⟩ := Option.map_eq_some_iff.mp hrun
  exact ⟨os, Receives.of_feed 5 hos, hvec⟩

end RDMnet
