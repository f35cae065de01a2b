import RDMnet.MsgBuf.BoundsList
import RDMnet.MsgBuf.ResumeBuf

/-!
# What the layers take of a block

The layers on top of the data of PDUs, and a whole call of `rc_msg_buf_parse_data`: each layer
hands to the next what is left of the PDU, and gets back no more than that.
-/

namespace RDMnet

open Out PduBlockState Event BrokerKind Layer RootKind Bounded RptKind Unfreed

variable {pal : EtcPal} {lv : Level}

/-! ### Layers -/

namespace Layer

variable {χ μ : Type} [Inhabited χ] {L : Layer χ μ} {H : μ → Prop} {J : χ → μ → Nat → Prop}

/-- A layer with `r` bytes left of its block, of which those left of a PDU are known to the next
layer. -/
def LeftInv (H : μ → Prop) (J : χ → μ → Nat → Prop) (s : Pdu χ) (m : μ) (r : Nat) : Prop :=
  (H m ∧ s.block.Left r) ∧ (s.block.consumingBadBlock = true → s.block.parsedHeader = false) ∧
    (s.block.parsedHeader = true → ∃ k ≤ r, J s.data m k)

omit [Inhabited χ] in
theorem LeftInv.message {s : Pdu χ} {m m' : μ} {r : Nat} (h : LeftInv H J s m r) (hm : H m')
    (hJ : s.block.parsedHeader = true → ∀ k, J s.data m k → J s.data m' k) : LeftInv H J s m' r := by
  obtain ⟨⟨-, hb⟩, hbad, hdata⟩ := h
  refine ⟨⟨hm, hb⟩, hbad, fun hp => ?_⟩
  obtain ⟨k, hk, hx⟩ := hdata hp
  exact ⟨k, hk, hJ hp k hx⟩

/-- What a layer's header must satisfy: an accepted PDU is within the block, and a rejected header
is counted only if the block is thrown away at once. -/
structure BoundedHeader (L : Layer χ μ) (lv : Level) (H : μ → Prop) (J : χ → μ → Nat → Prop) :
    Prop where
  size : L.headerSize < waitMax
  held : ∀ b m d, ∀ x ∈ (L.header b m d).2, Held lv x
  accept : ∀ {b m d x m' lg r}, L.header b m d = (.accept x m', lg) → b.Left r → H m →
    (∀ y ∈ lg, Meets lv y) → H m' ∧ ∃ k, L.headerSize + k ≤ r ∧ J x m' k
  reject : ∀ {b m d n lg r}, L.header b m d = (.reject n, lg) → b.Left r → L.headerSize ≤ r →
    L.headerSize ≤ d.length → (∀ y ∈ lg, Meets lv y) →
    n = 0 ∨ n = L.headerSize ∧ r ≤ d.length

theorem finish_within (hbody : Bounded (terms lv) H J L.body) {s : Pdu χ} {m : μ} {u r k : Nat}
    {d : Bytes} {lg : List Event} (hb : s.block.Left (r - u))
    (hcons : s.block.consumingBadBlock = false) (hp : s.block.parsedHeader = true) (hJ : J s.data m k)
    (hk : u + k ≤ r) (hu : u ≤ d.length) (hlg : ∀ x ∈ lg, Held lv x)
    (hc : (L.finish d ⟨s, m, u, .noData, lg⟩).Clean (Meets lv)) :
    (L.finish d ⟨s, m, u, .noData, lg⟩).Within (terms lv) H (LeftInv H J) r d.length := by
  have hcl : (L.body s.data m (d.drop u)).Clean (Meets lv) := by
    intro x hx
    apply hc
    simp only [finish, hp, if_true]
    split_ifs <;> simp [hx]
  have hw := hbody _ _ _ _ hJ hcl
  rw [List.length_drop] at hw
  obtain ⟨⟨hun, hmem⟩, hwait, -⟩ := hw.fair
  have hleft := hw.used_left
  have hle := hw.used_le
  have hsize := hb.1
  simp only [finish, hp, if_true]
  generalize L.body s.data m (d.drop u) = c at *
  by_cases hstuck : c.res = .stuck
  · rw [if_pos hstuck]
    have hscarce : lv.plenty = false := by
      rw [← Bool.not_eq_true]
      exact fun hp => hmem hp hstuck
    exact Within.ofNone (.inl ⟨rfl, hscarce⟩) (clean_append hlg hw.held) hw.msg
  rw [if_neg hstuck, if_pos ⟨hle, by omega⟩, if_neg hun]
  have hadv : (s.block.advance c.used).Left (r - (u + c.used)) := by
    rw [← Nat.sub_sub]
    exact hb.advance (by omega)
  have hlog : ∀ x ∈ lg ++ c.log ++ [.check true], Held lv x :=
    clean_append (clean_append hlg hw.held) (by simp [Held])
  -- a PDU that is through ends the block, or another one follows
  have hfull : ∀ {x y : ParseRes}, parseVerdict.final x → (y = .partialBlockParseOk ∨
      y = .partialBlockProtErr) → (⟨⟨{ s.block.advance c.used with parsedHeader := false }, default⟩,
      c.msg, u + c.used, if (s.block.advance c.used).sizeParsed < (s.block.advance c.used).blockSize
        then y else x, lg ++ c.log ++ [.check true]⟩ : Out (Pdu χ) μ ParseRes Event).Within
      (terms lv) H (LeftInv H J) r d.length := by
    intro x y hx hy
    split_ifs with hlt
    · refine ⟨hlog, by simp only; omega, by simp only; omega, ?_, hw.msg, fun _ =>
        ⟨⟨hw.msg, hadv⟩, fun _ => rfl, fun h => (by cases h)⟩⟩
      rcases hy with rfl | rfl <;> exact ⟨by simp, by simp, by simp⟩
    · have h1 : s.block.sizeParsed + c.used + (r - (u + c.used)) = s.block.blockSize := hadv.1
      have h2 : ¬ s.block.sizeParsed + c.used < s.block.blockSize := hlt
      exact Within.ofFinal hx hlog hw.msg (by omega) (by omega) fun _ => by omega
  -- one that is not goes on where the next layer stopped
  have hopen : ¬ parseVerdict.final c.res → (⟨⟨s.block.advance c.used, c.st⟩, c.msg, u + c.used,
      c.res, lg ++ c.log ++ [.check true]⟩ : Out (Pdu χ) μ ParseRes Event).Within
      (terms lv) H (LeftInv H J) r d.length := by
    intro hf
    have hinv := hw.inv fun hd => hd.elim hf hstuck
    refine ⟨hlog, by simp only; omega, by simp only; omega,
      ⟨⟨hun, hmem⟩, fun hl hx => ?_, fun _ hx => absurd hx hf⟩, hw.msg,
      fun _ => ⟨⟨hw.msg, hadv⟩, fun h => ?_, fun _ => ⟨k - c.used, by simp only; omega, hinv⟩⟩⟩
    · obtain ⟨h1, h2⟩ := hwait hl hx
      refine ⟨by omega, fun h0 => ?_⟩
      simp only at h0
      have h3 : d.length - u < 1100 := h2 (by omega)
      show d.length < 1100
      omega
    · simp [advance, hcons] at h
  cases hres : c.res with
  | fullBlockParseOk => exact hfull (.inl rfl) (.inl rfl)
  | fullBlockProtErr => exact hfull (.inr rfl) (.inr rfl)
  | unassigned => exact absurd hres hun
  | stuck => exact absurd hres hstuck
  | noData | partialBlockParseOk | partialBlockProtErr =>
    simpa [checkForFullParse, advance, hp, hres] using hopen (by simp [hres])

/-- **A layer is within bounds** if its header and the next layer are. -/
theorem parse_bounded (hhead : L.BoundedHeader lv H J) (hbody : Bounded (terms lv) H J L.body) :
    Bounded (terms lv) H (LeftInv H J) L.parse := by
  rintro s m r d hI hc
  obtain ⟨⟨hm, hb⟩, hbad, hJ⟩ := hI
  have hroom := hb.room
  have hsize : L.headerSize < 1100 := hhead.size
  have hskip : ∀ lg, (∀ x ∈ lg, Held lv x) → s.block.parsedHeader = false →
      L.parse s m d = skipAt (fun b s => { s with block := b }) s.block s m d lg →
      (L.parse s m d).Within (terms lv) H (LeftInv H J) r d.length := by
    intro lg hlg hp h
    rw [h]
    refine Within.ofSkip hb hlg hm fun hlt => ⟨⟨hm, hb.eat (by omega)⟩, fun _ => hp, fun h => ?_⟩
    simp [eat, hp] at h
  by_cases hp : s.block.parsedHeader = true
  · have hcons : s.block.consumingBadBlock = false := by
      rw [← Bool.not_eq_true]
      exact fun h => by simp [hbad h] at hp
    obtain ⟨k, hk, hJk⟩ := hJ hp
    rw [parse, start_mid hcons hp] at hc ⊢
    exact finish_within hbody (by simpa using hb) hcons hp hJk (by omega) zero_le (by simp) hc
  rw [Bool.not_eq_true] at hp
  by_cases hskipped : s.block.consumingBadBlock = true ∨ s.block.room < L.headerSize
  · exact hskip [] (by simp) hp (parse_skip hp hskipped)
  obtain ⟨hcons, hle⟩ := not_or.mp hskipped
  rw [Bool.not_eq_true] at hcons
  have hle := not_lt.mp hle
  by_cases hlen : d.length < L.headerSize
  · rw [parse_wait hcons hp hle hlen]
    exact Within.ofWait (by simp) hm ⟨⟨hm, hb⟩, hbad, hJ⟩ fun _ =>
      ⟨by omega, show d.length < 1100 by omega⟩
  have hlen := not_lt.mp hlen
  rcases hh : L.header s.block m d with ⟨hres, lg⟩
  have hlg : ∀ x ∈ lg, Held lv x := by
    have := hhead.held s.block m d
    rwa [hh] at this
  cases hres with
  | reject n =>
    have hd := parse_reject hcons hp hle hlen hh
    have hmeets : ∀ x ∈ lg, Meets lv x := by
      rw [hd] at hc
      exact hc
    rcases hhead.reject hh hb (by omega) hlen hmeets with rfl | ⟨rfl, hr⟩
    · have hadv : s.block.advance 0 = s.block := rfl
      rw [hadv, Out.after_zero] at hd
      exact hskip lg hlg hp hd
    · -- the rest of the block is at hand
      have hrest := (hb.advance (n := L.headerSize) (by omega)).room
      rw [hd]
      simp only [skipAt, consumeBadBlock_of_le (show (s.block.advance L.headerSize).room ≤ d.length
        by omega), hrest, Out.after]
      exact Within.ofFinal (.inr rfl) hlg hm (by omega) (by omega) fun _ => by omega
  | accept x m' =>
    rw [parse_accept hcons hp hle hlen hh] at hc ⊢
    have hmeets : ∀ y ∈ lg, Meets lv y := by
      intro y hy
      apply hc
      simp only [finish, if_true]
      split_ifs <;> simp [hy]
    obtain ⟨hm', k, hk, hJk⟩ := hhead.accept hh hb hm hmeets
    exact finish_within hbody (hb.advance (by omega)) hcons rfl hJk hk hlen hlg hc

omit [Inhabited χ] in
theorem Sized.boundedHeader {μ : Type} {L : Layer χ (μ × Heap)} {init : μ → Bytes → Nat → χ × μ}
    {pal : EtcPal} (hL : L.Sized pal init) (hpal : pal.Lawful) (hsize : L.headerSize < waitMax)
    {J : χ → μ × Heap → Nat → Prop} (hinit : ∀ m d n, Supplied lv m → n < 18446744073709551616 →
      J (init m.1 d n).1 ((init m.1 d n).2, m.2) n) : L.BoundedHeader lv (Supplied lv) J where
  size := hsize
  held := by
    intro b m d
    rw [hL]
    simp [Held]
  accept := by
    rintro b m d x ⟨m', heap⟩ lg r h hb hm -
    obtain ⟨hle, hblock, hx, rfl⟩ := hL.accept h
    obtain ⟨rfl, rfl⟩ := Prod.mk.inj hx
    have hlt := hpal.length_lt d
    refine ⟨hm, pal.acnPduLength d - L.headerSize, ?_, hinit _ _ _ hm (by omega)⟩
    have := hb.1
    omega
  reject := fun h _ _ _ _ => .inl (hL.reject h)

end Layer

/-! ### The Broker layer -/

/-- The data of a Broker PDU with `r` bytes left. -/
def BrokerDataLeft (lv : Level) (k : BrokerKind) (s : BrokerData) (m : BrokerMessage × Heap)
    (r : Nat) : Prop :=
  Supplied lv m ∧ match k with
  | .connect => ClientConnectLeft (fun _ => True) clientConnectCommonFieldSize s.clientConnect
      m.1.clientConnect r
  | .clientEntryUpdate => ClientConnectLeft (fun _ => True) clientEntryUpdateCommonFieldSize
      s.update m.1.clientEntryUpdate r
  | .connectReply => r = brokerConnectReplyDataSize
  | .redirectV4 => r = redirectV4DataSize
  | .redirectV6 => r = redirectV6DataSize
  | .disconnect => r = disconnectDataSize
  | .null | .fetchClientList => r = 0
  | .connectedClientList | .clientAdd | .clientRemove | .clientEntryChange =>
    ClientListLeft lv s.clientList (m.1.clientList, m.2) r
  | .requestDynamicUids => GenericListLeft lv dynamicUidRequestPairSize s.dataList
      (m.1.dynamicUidRequestList, m.2) r
  | .assignedDynamicUids => GenericListLeft lv dynamicUidMappingSize s.dataList
      (m.1.dynamicUidAssignmentList, m.2) r
  | .fetchDynamicUidList => GenericListLeft lv fetchUidSize s.dataList
      (m.1.fetchUidAssignmentList, m.2) r
  | .unknown => Supplied lv m ∧ s.unknown.Left r

theorem parseClientConnect_bounded (hpal : pal.Lawful) :
    Bounded (terms lv) (fun _ => True) (ClientConnectLeft (fun _ => True)
      clientConnectCommonFieldSize) (parseClientConnect pal) := by
  unfold parseClientConnect
  exact parseCommonAndEntry_bounded (fun _ _ _ => trivial) (fun _ _ _ => trivial) hpal
    (fun _ _ _ => trivial) (by decide)

theorem parseClientEntryUpdate_bounded (hpal : pal.Lawful) :
    Bounded (terms lv) (fun _ => True) (ClientConnectLeft (fun _ => True)
      clientEntryUpdateCommonFieldSize) (parseClientEntryUpdate pal) := by
  unfold parseClientEntryUpdate
  exact parseCommonAndEntry_bounded (fun _ _ _ => trivial) (fun _ _ _ => trivial) hpal
    (fun _ _ _ => trivial) (by decide)

theorem brokerDataParser_bounded (hpal : pal.Lawful) (k : BrokerKind) :
    Bounded (terms lv) (Supplied lv) (BrokerDataLeft lv k) (brokerDataParser pal k) := by
  have hlist : Bounded (terms lv) (Supplied lv) (BrokerDataLeft lv .clientAdd)
      (brokerDataParser pal .clientAdd) :=
    (parseClientList_bounded hpal).zoom (fun _ _ => rfl) (fun _ _ => rfl) (fun _ _ _ h => h)
  cases k
  case connectedClientList | clientAdd | clientRemove | clientEntryChange => exact hlist
  case connect =>
    exact (parseClientConnect_bounded hpal).zoom (fun _ _ => rfl) (fun _ _ => rfl) (fun _ _ h _ => h)
  case clientEntryUpdate =>
    exact (parseClientEntryUpdate_bounded hpal).zoom (fun _ _ => rfl) (fun _ _ => rfl) (fun _ _ h _ => h)
  case connectReply | redirectV4 | redirectV6 | disconnect | null | fetchClientList =>
    exact fixedData_bounded (fun _ _ h => h) (by decide)
  case requestDynamicUids | assignedDynamicUids | fetchDynamicUidList =>
    exact (parseGenericList_bounded (by decide) (by decide)).zoom (fun _ _ => rfl) (fun _ _ => rfl)
      (fun _ _ _ h => h)
  case unknown => exact skip_bounded.zoom (fun _ _ => rfl) (fun _ _ => rfl) (fun _ _ _ h => h)

variable {n : Nat}

theorem initializeBrokerMessage_left {bmsg : BrokerMessage} {heap : Heap}
    (h : Supplied lv (bmsg, heap)) (hn : n < 18446744073709551616) :
    BrokerDataLeft lv (.ofVector (initializeBrokerMessage bmsg n).2.vector)
      (initializeBrokerMessage bmsg n).1 ((initializeBrokerMessage bmsg n).2, heap) n := by
  have hs : ∀ b : BrokerMessage, Supplied lv (b, heap) := fun _ => h
  have hbad : BrokerDataLeft lv (.ofVector BrokerKind.unknown.vector)
      { (default : BrokerData) with unknown := .start n }
      ({ bmsg with vector := BrokerKind.unknown.vector }, heap) n :=
    ⟨hs _, hs _, Left.start hn⟩
  have hfree : ∀ α, Unfreed lv (⟨.null, false⟩ : MsgList α) := fun _ _ => rfl
  simp only [initializeBrokerMessage]
  cases hk : BrokerKind.ofVector bmsg.vector <;> simp only
  case connect | clientEntryUpdate =>
    split_ifs with hlen
    · rw [hk]
      exact ⟨hs _, trivial, rfl, hlen, hn⟩
    · exact hbad
  case unknown =>
    rw [hk]
    exact ⟨hs _, hs _, Left.start hn⟩
  case requestDynamicUids | assignedDynamicUids | fetchDynamicUidList =>
    split_ifs with hlen
    · rw [hk]
      exact ⟨hs _, h, hfree _, Nat.zero_add _, hlen.1, Nat.dvd_of_mod_eq_zero hlen.2⟩
    · exact hbad
  case connectedClientList | clientAdd | clientRemove | clientEntryChange =>
    rw [hk]
    exact ⟨hs _, ⟨h, hfree _, Left.start hn⟩, rfl⟩
  all_goals
    split_ifs with hlen
    · exact hbad
    · rw [hk]
      exact ⟨hs _, not_not.mp hlen⟩

theorem brokerLayer_boundedHeader (hpal : pal.Lawful) : (brokerLayer pal).BoundedHeader lv (Supplied lv)
      (fun s m r => BrokerDataLeft lv (.ofVector m.1.vector) s m r) :=
  (brokerLayer_sized pal).boundedHeader hpal (show 5 < 1100 by decide)
    fun _ _ _ hm hn => initializeBrokerMessage_left hm hn

/-- A Broker block with `r` bytes left. -/
abbrev BrokerLeft (lv : Level) : BrokerState → BrokerMessage × Heap → Nat → Prop :=
  LeftInv (Supplied lv) fun s m r => BrokerDataLeft lv (.ofVector m.1.vector) s m r

theorem brokerLayer_body_bounded (hpal : pal.Lawful) :
    Bounded (terms lv) (Supplied lv) (fun s m r => BrokerDataLeft lv (.ofVector m.1.vector) s m r)
      (brokerLayer pal).body :=
  dispatch (fun m : BrokerMessage × Heap => BrokerKind.ofVector m.1.vector)
    (brokerDataParser_bounded hpal) fun k s m d h => by
      simp only [brokerDataParser_vector]
      exact h

theorem parseBrokerBlock_bounded (hpal : pal.Lawful) :
    Bounded (terms lv) (Supplied lv) (BrokerLeft lv) (parseBrokerBlock pal) :=
  parse_bounded (brokerLayer_boundedHeader hpal) (brokerLayer_body_bounded hpal)

/-! ### The RPT layer -/

/-- The data of an RPT PDU with `r` bytes left. -/
def RptDataLeft (lv : Level) (k : RptKind) (s : RptData) (m : RptMessage × Heap) (r : Nat) : Prop :=
  Supplied lv m ∧ match k with
  | .request | .notification => RdmListLeft lv s.rdmList (m.1.rdm, m.2) r
  | .status => StatusLeft lv s.status (m.1.status, m.2) r
  | .unknown => Supplied lv m ∧ s.unknown.Left r

theorem rptDataParser_bounded (k : RptKind) :
    Bounded (terms lv) (Supplied lv) (RptDataLeft lv k) (rptDataParser pal k) := by
  have hlist : Bounded (terms lv) (Supplied lv) (RptDataLeft lv .request)
      (rptDataParser pal .request) :=
    parseRdmList_bounded.zoom (fun _ _ => rfl) (fun _ _ => rfl) (fun _ _ _ h => h)
  cases k with
  | request | notification => exact hlist
  | status => exact parseRptStatus_bounded.zoom (fun _ _ => rfl) (fun _ _ => rfl) (fun _ _ _ h => h)
  | unknown => exact skip_bounded.zoom (fun _ _ => rfl) (fun _ _ => rfl) (fun _ _ _ h => h)

theorem initializeRptMessage_left {rmsg : RptMessage} {heap : Heap}
    (h : Supplied lv (rmsg, heap)) (hn : n < 18446744073709551616) :
    RptDataLeft lv (.ofVector (initializeRptMessage rmsg n).2.vector)
      (initializeRptMessage rmsg n).1 ((initializeRptMessage rmsg n).2, heap) n := by
  have hs : ∀ b : RptMessage, Supplied lv (b, heap) := fun _ => h
  have hstart := Left.start hn
  have hbad : RptDataLeft lv (.ofVector 0xffffffff)
      { (default : RptData) with unknown := .start n }
      ({ rmsg with vector := 0xffffffff }, heap) n := ⟨hs _, hs _, hstart⟩
  simp only [initializeRptMessage]
  cases hk : RptKind.ofVector rmsg.vector <;> simp only
  case unknown =>
    rw [hk]
    exact ⟨hs _, hs _, hstart⟩
  case status =>
    split_ifs with hlen
    · rw [hk]
      exact ⟨hs _, h, hstart⟩
    · exact hbad
  all_goals
    split_ifs with hlen
    · rw [hk]
      exact ⟨hs _, ⟨h, fun _ => rfl, hstart⟩, fun _ => ⟨rfl, hlen⟩⟩
    · exact hbad

theorem rptLayer_boundedHeader (hpal : pal.Lawful) : (rptLayer pal).BoundedHeader lv (Supplied lv)
      (fun s m r => RptDataLeft lv (.ofVector m.1.vector) s m r) :=
  (rptLayer_sized pal).boundedHeader hpal (show 28 < 1100 by decide)
    fun _ _ _ hm hn => initializeRptMessage_left hm hn

/-- An RPT block with `r` bytes left. -/
abbrev RptLeft (lv : Level) : RptState → RptMessage × Heap → Nat → Prop :=
  LeftInv (Supplied lv) fun s m r => RptDataLeft lv (.ofVector m.1.vector) s m r

theorem rptLayer_body_bounded :
    Bounded (terms lv) (Supplied lv) (fun s m r => RptDataLeft lv (.ofVector m.1.vector) s m r)
      (rptLayer pal).body :=
  dispatch (fun m : RptMessage × Heap => RptKind.ofVector m.1.vector)
    rptDataParser_bounded fun k s m d h => by
      simp only [rptDataParser_vector]
      exact h

theorem parseRptBlock_bounded (hpal : pal.Lawful) :
    Bounded (terms lv) (Supplied lv) (RptLeft lv) (parseRptBlock pal) :=
  parse_bounded (rptLayer_boundedHeader hpal) rptLayer_body_bounded

/-! ### The root layer -/

/-- The data of a root layer PDU with `r` bytes left. -/
def RlpDataLeft (lv : Level) (k : RootKind) (s : RlpData) (m : RdmnetMessage × Heap) (r : Nat) :
    Prop :=
  Supplied lv m ∧ match k with
  | .broker => BrokerLeft lv s.broker (m.1.broker, m.2) r
  | .rpt => RptLeft lv s.rpt (m.1.rpt, m.2) r
  | .unknown => Supplied lv m ∧ s.unknown.Left r

theorem rlpDataParser_bounded (hpal : pal.Lawful) (k : RootKind) :
    Bounded (terms lv) (Supplied lv) (RlpDataLeft lv k) (rlpDataParser pal k) := by
  cases k with
  | broker => exact (parseBrokerBlock_bounded hpal).zoom (fun _ _ => rfl) (fun _ _ => rfl) (fun _ _ _ h => h)
  | rpt => exact (parseRptBlock_bounded hpal).zoom (fun _ _ => rfl) (fun _ _ => rfl) (fun _ _ _ h => h)
  | unknown => exact skip_bounded.zoom (fun _ _ => rfl) (fun _ _ => rfl) (fun _ _ _ h => h)

variable {m : RdmnetMessage × Heap}

theorem initializeRdmnetMessage_left {v : UInt32} (h : Supplied lv m) (hn : n < 18446744073709551616) :
    RlpDataLeft lv (.ofVector v) (initializeRdmnetMessage v n) m n := by
  have hstart := Left.start hn
  simp only [initializeRdmnetMessage]
  cases RootKind.ofVector v with
  | broker | rpt => exact ⟨h, ⟨h, hstart⟩, fun h => (by cases h), fun h => (by cases h)⟩
  | unknown => exact ⟨h, h, hstart⟩

theorem rlpLayer_boundedHeader (hpal : pal.Lawful) : (rlpLayer pal).BoundedHeader lv (Supplied lv)
      (fun s m r => RlpDataLeft lv (.ofVector m.1.vector) s m r) where
  size := show 23 < 1100 by decide
  held := by
    intro b m d
    simp only [rlpLayer, rlpHeader]
    cases pal.acnParseRootLayerHeader d with
    | none => simp
    | some rlp => simp only; split_ifs <;> simp [Held]
  accept := by
    rintro b m d x m' lg r h hb hm -
    obtain ⟨rlp, hp, hle, rfl, rfl⟩ := rlpHeader_accept h
    have hlt := hpal.root_lt d rlp hp
    have h1 := hb.1
    exact ⟨hm, rlp.dataLen, by simp only [rlpLayer]; omega,
      initializeRdmnetMessage_left hm (by omega)⟩
  reject := by
    intro b m d n lg r h hb hr hlen hmeets
    rcases rlpHeader_reject h with rfl | ⟨rfl, rlp, -, hif, hev⟩
    · exact .inl rfl
    · have hle := (hmeets _ hev).resolve_left hif
      have h1 := hb.1
      simp only [rlpLayer] at hr hlen
      exact .inr ⟨rfl, by omega⟩

/-- A root layer block with `r` bytes left. -/
abbrev RlpLeft (lv : Level) : RlpState → RdmnetMessage × Heap → Nat → Prop :=
  LeftInv (Supplied lv) fun s m r => RlpDataLeft lv (.ofVector m.1.vector) s m r

theorem parseRlpBlock_bounded (hpal : pal.Lawful) :
    Bounded (terms lv) (Supplied lv) (RlpLeft lv) (parseRlpBlock pal) :=
  parse_bounded (rlpLayer_boundedHeader hpal)
    (dispatch (fun m : RdmnetMessage × Heap => RootKind.ofVector m.1.vector)
      (rlpDataParser_bounded hpal) fun k s m d h => by
        simp only [rlpDataParser_vector]
        exact h)

/-! ### The message buffer -/

theorem bufTerms_fair_add (lv : Level) (x : MsgBufRes) (r n u k : Nat) (_ : u ≤ r) (hn : u ≤ n)
    (h : (x ≠ .errSys ∧ (lv.plenty = true → x ≠ .stuck)) ∧
      (lv.live = true → x = .noData → k = 0 → n - u < waitMax)) :
    (x ≠ .errSys ∧ (lv.plenty = true → x ≠ .stuck)) ∧
      (lv.live = true → x = .noData → u + k = 0 → n < waitMax) := by
  refine ⟨h.1, fun hl hx hu => ?_⟩
  have := h.2 hl hx (by omega)
  omega

/-- The terms of `rc_msg_buf_parse_data`. -/
def bufTerms (lv : Level) : Terms MsgBufRes Event where
  ok := Meets lv
  held := Held lv
  dead := fun x => x = .stuck
  fair := fun x _ n u => (x ≠ .errSys ∧ (lv.plenty = true → x ≠ .stuck)) ∧
    (lv.live = true → x = .noData → u = 0 → n < waitMax)
  fair_add := bufTerms_fair_add lv

def BufLeft (lv : Level) (s : RCMsgBuf) (m : RdmnetMessage × Heap) : Prop :=
  Supplied lv m ∧ (s.havePreamble = true → ∃ r, RlpLeft lv s.rlpState m r)

variable {d : Bytes}

variable {s : RCMsgBuf} {r : Nat}

theorem parseDataBlock_within (hpal : pal.Lawful) (hb : RlpLeft lv s.rlpState m r)
    (hc : (parseDataBlock pal s m d).Clean (Meets lv)) :
    parseDataBlock pal s m d = afterBlock (parseRlpBlock pal s.rlpState m d) ∧
      (parseRlpBlock pal s.rlpState m d).Within (terms lv) (Supplied lv) (RlpLeft lv) r d.length := by
  have hw := parseRlpBlock_bounded hpal _ _ _ _ hb (parseDataBlock_clean hc)
  exact ⟨parseDataBlock_eq hw.used_le, hw⟩

theorem afterBlock_within {o : Out RlpState (RdmnetMessage × Heap) ParseRes Event}
    (hw : o.Within (terms lv) (Supplied lv) (RlpLeft lv) r n) :
    (afterBlock o).Within (bufTerms lv).round (Supplied lv) (fun s m _ => BufLeft lv s m) n n where
  held := by
    show ∀ x ∈ _, Held lv x
    refine clean_append (clean_append hw.held ?_) (by simp [Held])
    simp [Held, hw.fair.1.1]
  used_le := hw.used_le
  used_left := hw.used_le
  fair := by
    obtain ⟨⟨h1, h2⟩, h3, -⟩ := hw.fair
    intro y hy
    simp only [afterBlock] at hy
    cases hr : o.res <;> rw [hr] at hy <;> simp only [blockResult] at hy <;> cases hy
    case noData => exact ⟨⟨by simp, by simp⟩, fun hl _ => (h3 hl hr).2⟩
    case unassigned => exact absurd hr h1
    case stuck => exact ⟨⟨by simp, fun hp _ => h2 hp hr⟩, by simp⟩
    all_goals exact ⟨⟨by simp, by simp⟩, by simp⟩
  msg := hw.msg
  inv := by
    intro hd
    have hgo : ¬ (terms lv).dead o.res →
        BufLeft lv ⟨true, o.st⟩ o.msg := fun h => ⟨hw.msg, fun _ => ⟨_, hw.inv h⟩⟩
    have hend : BufLeft lv ⟨false, default⟩ o.msg := ⟨hw.msg, fun h => (by cases h)⟩
    simp only [afterBlock] at hd ⊢
    cases hr : o.res <;> simp only [blockResult, hr] at hd ⊢
    case fullBlockParseOk | fullBlockProtErr => exact hend
    case stuck => exact absurd ⟨_, rfl, rfl⟩ hd
    all_goals exact hgo (by simp [terms, hr])

theorem parseDataRound_within (hpal : pal.Lawful)
    (hI : BufLeft lv s m) (hc : (parseDataRound pal s m d).Clean (Meets lv)) :
    (parseDataRound pal s m d).Within (bufTerms lv).round (Supplied lv)
      (fun s m _ => BufLeft lv s m) d.length d.length := by
  cases hs : s.havePreamble with
  | true =>
    obtain ⟨r, hr⟩ := hI.2 hs
    rw [parseDataRound_block hs] at hc ⊢
    obtain ⟨h, hw⟩ := parseDataBlock_within hpal hr hc
    rw [h]
    exact afterBlock_within hw
  | false =>
    cases hf : findTcpPreamble pal d with
    | none =>
      rw [parseDataRound_none hs hf]
      refine ⟨by simp [Clean], Nat.sub_le _ _, Nat.sub_le _ _, ?_, hI.1, fun _ => hI⟩
      rintro y ⟨⟩
      refine ⟨⟨by simp, by simp⟩, fun _ _ hu => ?_⟩
      have hu : d.length - 16 = 0 := hu
      show d.length < 1100
      omega
    | some r =>
      obtain ⟨i, n⟩ := r
      have hi := le_of_lt (findTcpPreamble_found hf).1
      by_cases hn : n = 0
      · subst hn
        rw [parseDataRound_zero hs hf]
        refine ⟨by simp [Clean, bufTerms, Terms.round, Held], hi, hi, ?_, hI.1, fun _ => hI⟩
        rintro y ⟨⟩
        refine ⟨⟨by simp, by simp⟩, fun _ _ hu => ?_⟩
        have hu : i + 16 = 0 := hu
        omega
      · rw [parseDataRound_preamble hs hf hn] at hc ⊢
        have hlt := hpal.preamble_lt _ _ (findTcpPreamble_found hf).2
        have hstart : RlpLeft lv (⟨.start n, default⟩ : RlpState) m n :=
          ⟨⟨hI.1, Left.start (by omega)⟩, fun h => (by cases h), fun h => (by cases h)⟩
        obtain ⟨h, hw⟩ := parseDataBlock_within (s := ⟨true, ⟨.start n, default⟩⟩) hpal hstart
          (clean_since.mp hc).2
        rw [h]
        refine Out.Within.since ?_ hi hi (by simp [bufTerms, Terms.round, Held])
        rw [← List.length_drop]
        exact afterBlock_within hw

/-- **A call of `rc_msg_buf_parse_data` is within bounds.** -/
theorem rcMsgBufParseData_within (hpal : pal.Lawful) (hI : BufLeft lv s m)
    (hc : (rcMsgBufParseData pal s m d).Clean (Meets lv)) :
    (rcMsgBufParseData pal s m d).Within (bufTerms lv) (Supplied lv)
      (fun s m _ => BufLeft lv s m) d.length d.length := by
  refine Parser.iterate_rule (ι := Unit) (I := fun _ s m _ => BufLeft lv s m)
    (Q := fun _ d o => o.Within (bufTerms lv) (Supplied lv) (fun s m _ => BufLeft lv s m) d.length
      d.length) parseDataRound_decreases ?_ ?_ () s m d hI hc
  · intro _ s m d x hI hc hr
    exact (parseDataRound_within hpal hI hc).result hr
  · intro _ s m d hI hc hr
    have hw := parseDataRound_within hpal hI hc
    refine ⟨(), hw.inv (by simp [Terms.round, hr]), fun o ho => ?_⟩
    rw [List.length_drop] at ho
    exact ho.since hw.used_le hw.used_le hw.held

/-! ### Releasing a message -/

theorem freeBrokerMessage_keeps (b : BrokerMessage) :
    (freeBrokerMessage b).vector = b.vector ∧ (freeBrokerMessage b).clientConnect = b.clientConnect ∧
    (freeBrokerMessage b).clientEntryUpdate = b.clientEntryUpdate ∧
    (freeBrokerMessage b).clientList.clientProtocol = b.clientList.clientProtocol ∧
    (freeBrokerMessage b).clientList.rpt.items.isNull = b.clientList.rpt.items.isNull := by
  simp only [freeBrokerMessage]
  cases BrokerKind.ofVector b.vector <;> simp only <;> (try split_ifs) <;> simp

theorem freeRptMessage_vector (b : RptMessage) : (freeRptMessage b).vector = b.vector := by
  simp only [freeRptMessage]
  cases RptKind.ofVector b.vector <;> rfl

section Free

variable (hp : lv.plenty = false)

include hp

theorem Unfreed.of_scarce {α : Type} (l : MsgList α) : Unfreed lv l := fun h => by simp [hp] at h

variable {heap : Heap} {r : Nat}

theorem ClientListLeft.free {s : ClientListState} {l l' : BrokerClientList}
    (hprot : l'.clientProtocol = l.clientProtocol)
    (hnull : l'.rpt.items.isNull = l.rpt.items.isNull) (h : ClientListLeft lv s (l, heap) r) :
    ClientListLeft lv s (l', heap) r := by
  unfold ClientListLeft at h ⊢
  simp only [hprot] at h ⊢
  have hmem := of_scarce hp l'.rpt
  split_ifs at h ⊢
  · rcases h with ⟨⟨h1, -, h2⟩, h3, h4, h5⟩ | ⟨⟨h1, -, h2⟩, h3⟩
    · exact .inl ⟨⟨h1, hmem, h2⟩, h3, h4, fun hq => by rw [hnull]; exact h5 hq⟩
    · exact .inr ⟨⟨h1, hmem, h2⟩, h3⟩
  · obtain ⟨⟨h1, -, h2⟩, h3⟩ := h
    exact ⟨⟨h1, hmem, h2⟩, h3⟩

theorem GenericListLeft.free {α : Type} {size : Nat} {s : GenericListState} {l : MsgList α}
    (l' : MsgList α) (h : GenericListLeft lv size s (l, heap) r) : GenericListLeft lv size s (l', heap) r :=
  ⟨h.1, of_scarce hp l', h.2.2⟩

theorem BrokerDataLeft.free {k : BrokerKind} {s : BrokerData} {b : BrokerMessage}
    (h : BrokerDataLeft lv k s (b, heap) r) : BrokerDataLeft lv k s (freeBrokerMessage b, heap) r := by
  obtain ⟨-, hcon, hupd, hprot, hnull⟩ := freeBrokerMessage_keeps b
  obtain ⟨hs, h⟩ := h
  refine ⟨hs, ?_⟩
  cases k <;> simp only [hcon, hupd] at h ⊢
  case requestDynamicUids | assignedDynamicUids | fetchDynamicUidList => exact h.free hp _
  case connectedClientList | clientAdd | clientRemove | clientEntryChange => exact h.free hp hprot hnull
  all_goals exact h

theorem RptDataLeft.free {k : RptKind} {s : RptData} {b : RptMessage}
    (h : RptDataLeft lv k s (b, heap) r) : RptDataLeft lv k s (freeRptMessage b, heap) r := by
  obtain ⟨hs, h⟩ := h
  refine ⟨hs, ?_⟩
  cases k with
  | request | notification => exact ⟨⟨h.1.1, of_scarce hp _, h.1.2.2⟩, h.2⟩
  | status | unknown => exact h

end Free

theorem RlpLeft.release (hpre : s.havePreamble = true)
    (hr : RlpLeft lv s.rlpState m r) (hout : lv.plenty = true → s.HandedOut m) :
    RlpLeft lv s.rlpState (release m) r := by
  have hs : Supplied lv m := hr.1.1
  refine hr.message hs fun hpar k hx => ?_
  have hbetween : ∀ kind, RootKind.ofVector m.1.vector = kind → lv.plenty = true →
      s.rlpState.data.Between kind := fun kind hk hp => hk ▸ hout hp hpre hpar
  show RlpDataLeft lv (.ofVector (RDMnet.release m).1.vector) _ _ _
  rw [release_vector]
  refine ⟨hs, ?_⟩
  have hx := hx.2
  cases hkind : RootKind.ofVector m.1.vector with
  | broker =>
    rw [hkind] at hx
    have hrel : (RDMnet.release m).1.broker = freeBrokerMessage m.1.broker := by
      simp only [RDMnet.release, rcFreeMessageResources, hkind]
    simp only [hrel]
    refine hx.message hs fun hq j hJ => ?_
    have hp : lv.plenty = false := by
      rw [← Bool.not_eq_true]
      exact fun hp => absurd (hbetween _ hkind hp) (by simp [RlpData.Between, hq])
    simp only [(freeBrokerMessage_keeps m.1.broker).1]
    exact hJ.free hp
  | rpt =>
    rw [hkind] at hx
    have hrel : (RDMnet.release m).1.rpt = freeRptMessage m.1.rpt := by
      simp only [RDMnet.release, rcFreeMessageResources, hkind]
    simp only [hrel]
    refine hx.message hs fun hq j hJ => ?_
    have hp : lv.plenty = false := by
      rw [← Bool.not_eq_true]
      exact fun hp => absurd (hbetween _ hkind hp) (by simp [RlpData.Between, hq])
    simp only [freeRptMessage_vector]
    exact hJ.free hp
  | unknown =>
    rw [hkind] at hx
    exact hx

theorem BufLeft.release (h : BufLeft lv s m)
    (hout : lv.plenty = true → s.HandedOut m) : BufLeft lv s (release m) := by
  refine ⟨h.1, fun hpre => ?_⟩
  obtain ⟨r, hr⟩ := h.2 hpre
  exact ⟨r, hr.release hpre hout⟩

theorem rcMsgBufParseData_release (hpal : pal.Lawful)
    (hI : BufLeft lv s m) (hc : (rcMsgBufParseData pal s m d).Clean (Meets lv))
    (hok : (rcMsgBufParseData pal s m d).res = .ok) :
    BufLeft lv (rcMsgBufParseData pal s m d).st (release (rcMsgBufParseData pal s m d).msg) := by
  have hw := rcMsgBufParseData_within hpal hI hc
  refine (hw.inv (by simp [bufTerms, hok])).release fun hp => ?_
  rcases rcMsgBufParseData_handedOut s m d hok with h | h
  · exact absurd (hw.held _ h hp) (by simp)
  · exact h

end RDMnet
