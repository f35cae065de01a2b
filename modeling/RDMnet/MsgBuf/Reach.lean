import RDMnet.MsgBuf.Stream

/-!
# States of the message buffer

The states that `RCMsgBuf` goes through while bytes arrive and `rc_msg_buf_parse_data` is called.
In every run whose lengths are as `Event.Meets` asks,

* the parser's own size checks hold, whatever the allocations do (`checks_hold`);
* the parser does not wait for bytes that will not come (`never_wedged`).
-/

namespace RDMnet

open Out List Event

variable {pal : EtcPal} {lv : Level}

/-! ### Initialised blocks -/

def ClientEntryState.blocks (s : ClientEntryState) : List PduBlockState :=
  if s.clientProtocol = kClientProtocolUnknown then [] else [s.entryData]

def ClientConnectState.blocks (s : ClientConnectState) : List PduBlockState :=
  if s.commonDataParsed then s.entry.blocks else []

def Pdu.blocks {χ : Type} (s : Pdu χ) (data : χ → List PduBlockState) : List PduBlockState :=
  s.block :: if s.block.parsedHeader then data s.data else []

/-- The initialised blocks in the union of `BrokerState`. -/
def BrokerData.blocks (s : BrokerData) : BrokerKind → List PduBlockState
  | .connect => s.clientConnect.blocks
  | .clientEntryUpdate => s.update.blocks
  | .connectedClientList | .clientAdd | .clientRemove | .clientEntryChange =>
    s.clientList.block :: if s.clientList.block.parsedHeader then s.clientList.entry.blocks else []
  | .unknown => [s.unknown]
  | _ => []

/-- The initialised blocks in the union of `RptState`. -/
def RptData.blocks (s : RptData) : RptKind → List PduBlockState
  | .request | .notification => [s.rdmList.block]
  | .status => [s.status.block]
  | .unknown => [s.unknown]

/-- The initialised blocks in the union of `RlpState`. -/
def RlpData.blocks (s : RlpData) (m : RdmnetMessage) : List PduBlockState :=
  match RootKind.ofVector m.vector with
  | .broker => s.broker.blocks (·.blocks (.ofVector m.broker.vector))
  | .rpt => s.rpt.blocks (·.blocks (.ofVector m.rpt.vector))
  | .unknown => [s.unknown]

def RCMsgBuf.blocks (s : RCMsgBuf) (m : RdmnetMessage) : List PduBlockState :=
  if s.havePreamble then s.rlpState.blocks (·.blocks m) else []

def PduBlockState.Within (b : PduBlockState) : Prop := b.sizeParsed ≤ b.blockSize

variable {r : Nat}

theorem PduBlockState.Left.within {b : PduBlockState} (h : b.Left r) : b.Within := by
  have := h.1
  unfold PduBlockState.Within
  omega

theorem ClientEntryState.Known.blocks {s : ClientEntryState} {k : Nat} (h : s.Known k) :
    ∀ b ∈ s.blocks, b.Within := by
  simp only [ClientEntryState.blocks, if_neg h.1, mem_singleton]
  rintro b rfl
  exact h.2.within

theorem ClientConnectLeft.blocks {μ : Type} {H : μ → Prop} {n : Nat} {s : ClientConnectState}
    {m : μ} (h : ClientConnectLeft H n s m r) : ∀ b ∈ s.blocks, b.Within := by
  intro b hb
  obtain ⟨-, h⟩ := h
  simp only [ClientConnectState.blocks] at hb
  split_ifs at hb h with hp
  · obtain ⟨-, h⟩ := h
    split_ifs at h with hu
    · simp [ClientEntryState.blocks, hu] at hb
    · obtain ⟨k, -, hk, -⟩ := h
      exact hk.blocks b hb
  · cases hb

theorem Layer.LeftInv.blocks {χ μ : Type} {H : μ → Prop} {J : χ → μ → Nat → Prop} {s : Pdu χ}
    {m : μ} {data : χ → List PduBlockState} (h : LeftInv H J s m r)
    (hJ : ∀ k, J s.data m k → ∀ b ∈ data s.data, b.Within) : ∀ b ∈ s.blocks data, b.Within := by
  obtain ⟨⟨-, hb⟩, -, hdata⟩ := h
  simp only [Pdu.blocks, mem_cons]
  rintro b (rfl | hx)
  · exact hb.within
  · split_ifs at hx with hp
    · obtain ⟨k, -, hk⟩ := hdata hp
      exact hJ k hk b hx
    · cases hx

theorem ClientListLeft.blocks {s : ClientListState} {m : BrokerClientList × Heap}
    (h : ClientListLeft lv s m r) : ∀ b ∈ s.block ::
      (if s.block.parsedHeader then s.entry.blocks else []), b.Within := by
  have hboth : s.block.Left r ∧
      (s.block.parsedHeader = true → ∃ k, s.entry.Known k) := by
    unfold ClientListLeft at h
    split_ifs at h
    · rcases h with ⟨⟨-, -, hb⟩, -, -, hk⟩ | ⟨⟨-, -, hb⟩, -, hp⟩
      · exact ⟨hb, fun hp => by obtain ⟨-, k, -, hk⟩ := hk hp; exact ⟨k, hk⟩⟩
      · exact ⟨hb, fun h => by simp [hp] at h⟩
    · exact ⟨h.1.2.2, fun hp => by simp [h.2] at hp⟩
  simp only [mem_cons]
  rintro b (rfl | hx)
  · exact hboth.1.within
  · split_ifs at hx with hp
    · obtain ⟨k, hk⟩ := hboth.2 hp
      exact hk.blocks b hx
    · cases hx

theorem BrokerDataLeft.blocks {k : BrokerKind} {s : BrokerData} {m : BrokerMessage × Heap}
    (h : BrokerDataLeft lv k s m r) : ∀ b ∈ s.blocks k, b.Within := by
  obtain ⟨-, h⟩ := h
  cases k <;> simp only [BrokerData.blocks] at h ⊢
  case connect | clientEntryUpdate | connectedClientList | clientAdd | clientRemove | clientEntryChange =>
    exact h.blocks
  case unknown =>
    intro b hb
    rw [mem_singleton.mp hb]
    exact h.2.within
  all_goals simp

theorem RptDataLeft.blocks {k : RptKind} {s : RptData} {m : RptMessage × Heap}
    (h : RptDataLeft lv k s m r) : ∀ b ∈ s.blocks k, b.Within := by
  obtain ⟨-, h⟩ := h
  cases k <;> simp only [RptData.blocks, mem_singleton, forall_eq]
  case request | notification => exact h.1.2.2.within
  case status | unknown => exact h.2.within

variable {m : RdmnetMessage × Heap}

theorem RlpDataLeft.blocks {s : RlpData}
    (h : RlpDataLeft lv (.ofVector m.1.vector) s m r) : ∀ b ∈ s.blocks m.1, b.Within := by
  obtain ⟨-, h⟩ := h
  unfold RlpData.blocks
  cases hk : RootKind.ofVector m.1.vector <;> simp only [hk] at h ⊢
  case broker => exact Layer.LeftInv.blocks h fun k hk => BrokerDataLeft.blocks hk
  case rpt => exact Layer.LeftInv.blocks h fun k hk => RptDataLeft.blocks hk
  case unknown =>
    intro b hb
    rw [mem_singleton.mp hb]
    exact h.2.within

variable {s : RCMsgBuf}

theorem BufLeft.blocks (h : BufLeft lv s m) : ∀ b ∈ s.blocks m.1, b.Within := by
  unfold RCMsgBuf.blocks
  split_ifs with hp
  · obtain ⟨r, hr⟩ := h.2 hp
    exact Layer.LeftInv.blocks hr fun k hk => RlpDataLeft.blocks hk
  · simp

/-! ### Reachable states -/

/-- The states that are reached from `rc_msg_buf_init` when bytes arrive, `rc_msg_buf_parse_data`
is called and a message that it handed out is released, in runs with only `ok` events.  The message
is not initialised, and `heap` says which allocations succeed. -/
inductive Reaches (pal : EtcPal) (ok : Event → Prop) (heap : Heap) :
    RCMsgBuf → RdmnetMessage × Heap → Bytes → Prop
  | init (m : RdmnetMessage) : Reaches pal ok heap rcMsgBufInit (m, heap) []
  | recv {s m b c} : Reaches pal ok heap s m b → FitsBuf b c → Reaches pal ok heap s m (b ++ c)
  | parse {s m b} : Reaches pal ok heap s m b → (rcMsgBufParseData pal s m b).Clean ok →
      (rcMsgBufParseData pal s m b).res ≠ .stuck →
      Reaches pal ok heap (rcMsgBufParseData pal s m b).st (rcMsgBufParseData pal s m b).msg
        (b.drop (rcMsgBufParseData pal s m b).used)
  | emit {s m b} : Reaches pal ok heap s m b → (rcMsgBufParseData pal s m b).Clean ok →
      (rcMsgBufParseData pal s m b).res = .ok →
      Reaches pal ok heap (rcMsgBufParseData pal s m b).st
        (release (rcMsgBufParseData pal s m b).msg) (b.drop (rcMsgBufParseData pal s m b).used)

theorem Reaches.first {ok : Event → Prop} {heap : Heap} (m : RdmnetMessage) {c : Bytes}
    (h : FitsBuf [] c) : Reaches pal ok heap rcMsgBufInit (m, heap) c :=
  Reaches.recv (b := []) (.init m) h

/-- **The invariant of the message buffer holds in every reachable state.** -/
theorem Reaches.left (hpal : pal.Lawful) {heap : Heap} (hheap : lv.plenty = true → heap = .plenty) {b : Bytes}
    (h : Reaches pal (Meets lv) heap s m b) : BufLeft lv s m ∧ b.length ≤ rcMsgBufSize := by
  induction h with
  | init m => exact ⟨bufLeft_init hheap, zero_le⟩
  | recv _ hfit ih => exact ⟨ih.1, by rw [length_append]; exact hfit⟩
  | parse _ hc hs ih =>
    have hle := ih.2
    exact ⟨(rcMsgBufParseData_within hpal ih.1 hc).inv hs, by rw [length_drop]; omega⟩
  | emit _ hc hok ih =>
    have hle := ih.2
    exact ⟨rcMsgBufParseData_release hpal ih.1 hc hok, by rw [length_drop]; omega⟩

/-- **The size checks of the parser hold** in every reachable state, and in the call made there:
every `RDMNET_ASSERT_VERIFY` of what a layer took, and that of the bytes taken from the buffer; the
result of the root layer is written; every initialised block is within its size. -/
theorem checks_hold (hpal : pal.Lawful) (heap : Heap) {s : RCMsgBuf} {m : RdmnetMessage × Heap}
    {b : Bytes} (h : Reaches pal (Meets .sizes) heap s m b)
    (hc : (rcMsgBufParseData pal s m b).Clean (Meets .sizes)) :
    (∀ x ∈ s.blocks m.1, x.Within) ∧ .check false ∉ (rcMsgBufParseData pal s m b).log ∧
      .assigned false ∉ (rcMsgBufParseData pal s m b).log ∧ (rcMsgBufParseData pal s m b).res ≠ .errSys ∧
      (rcMsgBufParseData pal s m b).used ≤ b.length := by
  have hleft : BufLeft .sizes s m := (h.left hpal (by simp [Level.plenty])).1
  have hw := rcMsgBufParseData_within hpal hleft hc
  refine ⟨hleft.blocks, fun hx => ?_, fun hx => ?_, hw.fair.1.1, hw.used_le⟩
  · cases hw.held _ hx
  · cases hw.held _ hx

theorem checks_hold_nulls : Reaches EtcPal.reference (Meets .sizes) ⟨[false], true⟩ rcMsgBufInit
      (default, ⟨[false], true⟩) sampleNulls ∧
    .check false ∉ (rcMsgBufParseData EtcPal.reference rcMsgBufInit (default, ⟨[false], true⟩) sampleNulls).log :=
  have h := .first default (show FitsBuf [] sampleNulls by decide +kernel)
  have hc : ∀ x ∈ (rcMsgBufParseData EtcPal.reference rcMsgBufInit (default, ⟨[false], true⟩)
      sampleNulls).log, Meets .sizes x := by decide +kernel
  ⟨h, (checks_hold EtcPal.reference_lawful _ h hc).2.1⟩

/-- A preamble that announces 24 bytes, and the header of a root layer PDU of 100 bytes. -/
def sampleLongRlp : Bytes :=
  EtcPal.packetIdent ++ [0, 0, 0, 24, 0xf0, 0, 100, 0, 0, 0, 9] ++ List.replicate 16 0

/-- The header is counted and then skipped once more, with a byte that has not arrived. -/
theorem check_fails_longRlp :
    Reaches EtcPal.reference (fun _ => True) .plenty rcMsgBufInit (default, .plenty) sampleLongRlp ∧
    .check false ∈ (rcMsgBufParseData EtcPal.reference rcMsgBufInit (default, .plenty) sampleLongRlp).log ∧
    (rcMsgBufParseData EtcPal.reference rcMsgBufInit (default, .plenty) sampleLongRlp).res = .errSys :=
  ⟨Reaches.first default (by decide +kernel),
    by decide +kernel, by decide +kernel⟩

/-! ### Progress -/

/-- The rounds of the loop of `rc_msg_buf_parse_data`, call after call, on the bytes at hand. -/
inductive Rounds (pal : EtcPal) : RCMsgBuf → RdmnetMessage × Heap → Bytes →
    RCMsgBuf → RdmnetMessage × Heap → Bytes → Prop
  | refl {s m b} : Rounds pal s m b s m b
  /-- a protocol error: the loop goes on -/
  | again {s m b s' m' b'} : (parseDataRound pal s m b).res = none →
      Rounds pal (parseDataRound pal s m b).st (parseDataRound pal s m b).msg
        (b.drop (parseDataRound pal s m b).used) s' m' b' → Rounds pal s m b s' m' b'
  /-- a message: it is released, and the function is called again -/
  | emit {s m b s' m' b'} : (parseDataRound pal s m b).res = some .ok →
      Rounds pal (parseDataRound pal s m b).st (release (parseDataRound pal s m b).msg)
        (b.drop (parseDataRound pal s m b).used) s' m' b' → Rounds pal s m b s' m' b'

/-- A round with the rest of the block at hand does not ask for more. -/
theorem parseDataBlock_progress (hpal : pal.Lawful) (hlv : lv.live = true)
    {b : Bytes} (hr : RlpLeft lv s.rlpState m r)
    (hle : r ≤ b.length) (hc : (parseDataBlock pal s m b).Clean (Meets lv)) :
    ((parseDataBlock pal s m b).res = none ∨ (parseDataBlock pal s m b).res = some .ok) ∧
    .alloc false ∉ (parseDataBlock pal s m b).log ∧ (parseDataBlock pal s m b).used ≤ r ∧
    ((parseDataBlock pal s m b).st.havePreamble = true →
      RlpLeft lv (parseDataBlock pal s m b).st.rlpState (parseDataBlock pal s m b).msg
        (r - (parseDataBlock pal s m b).used)) := by
  have hplenty := Level.plenty_of_live hlv
  obtain ⟨heq, hw⟩ := parseDataBlock_within hpal hr hc
  have hheld := (afterBlock_within hw).held
  rw [← heq] at hheld
  refine ⟨?_, fun hx => ?_, ?_, ?_⟩
  · obtain ⟨⟨h1, h2⟩, h3, -⟩ := hw.fair
    rw [heq]
    simp only [afterBlock]
    cases hres : (parseRlpBlock pal s.rlpState m b).res <;> simp only [blockResult]
    case noData => have := (h3 hlv hres).1; omega
    case unassigned => exact absurd hres h1
    case stuck => exact absurd hres (h2 hplenty)
    case fullBlockParseOk | partialBlockParseOk => exact .inr trivial
    all_goals exact .inl trivial
  · cases hheld _ hx hplenty
  · rw [heq]
    exact hw.used_left
  · rw [heq]
    intro hpre
    simp only [afterBlock] at hpre ⊢
    cases hres : (parseRlpBlock pal s.rlpState m b).res <;> simp only [blockResult, hres] at hpre ⊢
    case fullBlockParseOk | fullBlockProtErr => cases hpre
    case stuck => exact absurd hres (hw.fair.1.2 hplenty)
    all_goals exact hw.inv (by simp [terms, hres])

theorem rounds_to_end (hpal : pal.Lawful) (hlv : lv.live = true) :
    ∀ (n : Nat) (s : RCMsgBuf) (m : RdmnetMessage × Heap) (b : Bytes) (r : Nat), s.measure b < n →
      s.havePreamble = true → RlpLeft lv s.rlpState m r → r ≤ b.length →
      (∀ s' m' b', Rounds pal s m b s' m' b' → s'.havePreamble = true →
        (parseDataRound pal s' m' b').Clean (Meets lv)) →
      ∃ s' m' b', Rounds pal s m b s' m' b' ∧ s'.havePreamble = false ∧ b.length ≤ b'.length + r := by
  intro n
  induction n with
  | zero => intro s m b r hn; omega
  | succ n ih =>
    intro s m b r hn hpre hr hle hmeets
    have hc := hmeets s m b Rounds.refl hpre
    have hround : parseDataRound pal s m b = parseDataBlock pal s m b := parseDataRound_block hpre
    rw [hround] at hc
    obtain ⟨hres, hmem, hused, hleft⟩ := parseDataBlock_progress hpal hlv hr hle hc
    have hdec := parseDataBlock_decreases hpre (hres.imp_right fun h => ⟨h, hmem⟩)
    -- the message of a round that handed one out is released before the next
    have hnext : ∃ m1, ((parseDataBlock pal s m b).st.havePreamble = true →
          RlpLeft lv (parseDataBlock pal s m b).st.rlpState m1 (r - (parseDataBlock pal s m b).used)) ∧
        ∀ {s' m' b'}, Rounds pal (parseDataBlock pal s m b).st m1
          (b.drop (parseDataBlock pal s m b).used) s' m' b' → Rounds pal s m b s' m' b' := by
      rcases hres with h | h
      · refine ⟨_, hleft, fun hR => Rounds.again (by rw [hround]; exact h) ?_⟩
        rw [hround]
        exact hR
      · refine ⟨_, fun hp => (hleft hp).release hp fun _ =>
          (parseDataBlock_handedOut h).resolve_left hmem, fun hR => Rounds.emit (by rw [hround]; exact h) ?_⟩
        rw [hround]
        exact hR
    obtain ⟨m1, hleft1, hrounds⟩ := hnext
    by_cases hend : (parseDataBlock pal s m b).st.havePreamble = true
    swap
    · refine ⟨_, m1, _, hrounds Rounds.refl, by simpa using hend, ?_⟩
      rw [length_drop]
      omega
    obtain ⟨s', m', b', hR, hs', hb'⟩ := ih _ m1 (b.drop (parseDataBlock pal s m b).used)
      (r - (parseDataBlock pal s m b).used) (by omega) hend (hleft1 hend)
      (by rw [length_drop]; omega)
      fun s' m' b' hR => hmeets s' m' b' (hrounds hR)
    rw [length_drop] at hb'
    exact ⟨s', m', b', hrounds hR, hs', by omega⟩

/-- **The parser cannot be wedged.**  In every reachable state, with every allocation succeeding: a
call on a full buffer hands out a message or makes room; and once the block is at hand, repeated
calls come to its end and take no byte behind it. -/
theorem never_wedged (hpal : pal.Lawful) {s : RCMsgBuf} {m : RdmnetMessage × Heap} {b : Bytes}
    (h : Reaches pal (Meets .progress) .plenty s m b) :
    (b.length = rcMsgBufSize → (rcMsgBufParseData pal s m b).Clean (Meets .progress) →
      (rcMsgBufParseData pal s m b).res = .ok ∨ (b.drop (rcMsgBufParseData pal s m b).used).length < b.length) ∧
    (s.havePreamble = true → s.rlpState.block.room ≤ b.length →
      (∀ s' m' b', Rounds pal s m b s' m' b' → s'.havePreamble = true →
        (parseDataRound pal s' m' b').Clean (Meets .progress)) →
      ∃ s' m' b', Rounds pal s m b s' m' b' ∧ s'.havePreamble = false ∧
        b.length ≤ b'.length + s.rlpState.block.room) := by
  obtain ⟨hleft, -⟩ := h.left hpal fun _ => rfl
  refine ⟨fun hfull hc => ?_, fun hpre hroom hmeets => ?_⟩
  · have hw := rcMsgBufParseData_within hpal hleft hc
    obtain ⟨⟨h1, h2⟩, h3⟩ := hw.fair
    have hfull : b.length = 2400 := hfull
    cases hres : (rcMsgBufParseData pal s m b).res with
    | ok => exact .inl rfl
    | errSys => exact absurd hres h1
    | stuck => exact absurd hres (h2 rfl)
    | noData =>
      right
      by_contra hlen
      rw [length_drop] at hlen
      have hlt : b.length < 1100 := h3 rfl hres (by omega)
      omega
  · obtain ⟨r, hr⟩ := hleft.2 hpre
    have hrr := hr.1.2.room
    rw [hrr] at hroom ⊢
    exact rounds_to_end hpal rfl _ s m b r (Nat.lt_succ_self _) hpre hr hroom hmeets

/-- The first call has seen no more than the preamble. -/
theorem never_wedged_null :
    let o := rcMsgBufParseData EtcPal.reference rcMsgBufInit (default, .plenty) (sampleNull.take 20)
    let b := (sampleNull.take 20).drop o.used ++ sampleNull.drop 20
    o.st.havePreamble = true ∧ o.st.rlpState.block.room ≤ b.length ∧
    ∃ s' m' b', Rounds EtcPal.reference o.st o.msg b s' m' b' ∧ s'.havePreamble = false ∧
      b.length ≤ b'.length + o.st.rlpState.block.room := by
  intro o b
  have hclean : ∀ x ∈ o.log, Meets .progress x := by decide +kernel
  have hreach : Reaches EtcPal.reference (Meets .progress) .plenty o.st o.msg b :=
    Reaches.recv (.parse (.first default (by decide +kernel)) hclean
      (by decide +kernel)) (by decide +kernel)
  have hpre : o.st.havePreamble = true := by decide +kernel
  have hroom : o.st.rlpState.block.room ≤ b.length := by decide +kernel
  refine ⟨hpre, hroom, (never_wedged EtcPal.reference_lawful hreach).2 hpre hroom ?_⟩
  -- the first round hands out the message, and there is no other
  intro s' m' b' hR hp
  cases hR with
  | refl =>
    show ∀ x ∈ (parseDataRound EtcPal.reference o.st o.msg b).log, Meets .progress x
    decide +kernel
  | again h => exact absurd h (by decide +kernel)
  | emit _ hR =>
    cases hR with
    | refl => exact absurd hp (by decide +kernel)
    | again h | emit h => exact absurd h (by decide +kernel)

def sampleEmptyList : Bytes := sampleFrame 9 28 ++ [0xf0, 0, 5, 0, 7]

/-- All of the block has been taken, and further calls change nothing. -/
theorem wedged_by_emptyList :
    let o := rcMsgBufParseData EtcPal.reference rcMsgBufInit (default, .plenty) sampleEmptyList
    let o' := rcMsgBufParseData EtcPal.reference o.st o.msg (sampleEmptyList.drop o.used)
    Reaches EtcPal.reference (fun _ => True) .plenty o.st o.msg (sampleEmptyList.drop o.used) ∧
    o.st.havePreamble = true ∧ o.st.rlpState.block.room = 0 ∧
    o'.res = .noData ∧ o'.st = o.st ∧ o'.msg = o.msg ∧ o'.used = 0 :=
  ⟨Reaches.parse (.first default (by decide +kernel)) (fun _ _ => trivial) (by decide +kernel),
    by decide +kernel, by decide +kernel, by decide +kernel, by decide +kernel, by decide +kernel,
    by decide +kernel⟩

end RDMnet
