import RDMnet.MsgBuf.ResumeRpt

/-!
# Suspending the message buffer

The three layers on top of the data of PDUs, and `rc_msg_buf_parse_data` on top of them: in a run
that meets only `CutSafe` decisions, it does not matter where the buffer ended when the parser was
called.
-/

namespace RDMnet

open Out List Event RootKind Resumes Resumable Layer

variable {pal : EtcPal}

/-! ### The Broker layer -/

def BrokerDataInv : BrokerKind → BrokerData → BrokerMessage × Heap → Prop
  | .connectedClientList | .clientAdd | .clientRemove | .clientEntryChange =>
    fun s m => ClientListInv s.clientList (m.1.clientList, m.2)
  | _ => fun _ _ => True

theorem brokerDataParser_resumable (hpal : pal.Lawful) (k : BrokerKind) :
    Resumable parseVerdict CutSafe (BrokerDataInv k) (brokerDataParser pal k) := by
  have hlist : Resumable parseVerdict CutSafe (BrokerDataInv .clientAdd)
      (brokerDataParser pal .clientAdd) :=
    (parseClientList_resumable hpal).zoom (fun _ _ => rfl) (fun _ _ _ => rfl) (fun _ _ => rfl)
      (fun _ _ _ => rfl)
  cases k
  case connectedClientList | clientAdd | clientRemove | clientEntryChange => exact hlist
  case connect => apply (parseClientConnect_resumable hpal).zoom <;> intros <;> rfl
  case clientEntryUpdate => apply (parseClientEntryUpdate_resumable hpal).zoom <;> intros <;> rfl
  case connectReply =>
    refine fixedData_resumable fun d e m h => ?_
    have h16 : 16 ≤ d.length := h
    simp only [unpackConnectReply]
    rw [u16At_append e (by omega), u16At_append e (by omega), u16At_append e (by omega),
      u32At_append e (by omega), u16At_append e (by omega), u32At_append e (by omega)]
  case redirectV4 =>
    refine fixedData_resumable fun d e m h => ?_
    have h6 : 6 ≤ d.length := h
    rw [u32At_append e (by omega), u16At_append e (by omega)]
  case redirectV6 =>
    refine fixedData_resumable fun d e m h => ?_
    have h18 : 18 ≤ d.length := h
    rw [vecAt_append e (by omega), u16At_append e (by omega)]
  case disconnect =>
    refine fixedData_resumable fun d e m h => ?_
    have h2 : 2 ≤ d.length := h
    rw [u16At_append e (by omega)]
  case null | fetchClientList => exact fixedData_resumable fun _ _ _ _ => rfl
  case requestDynamicUids =>
    refine (parseGenericList_resumable (Nat.succ_pos _) fun d e h => ?_).zoom (fun _ _ => rfl)
      (fun _ _ _ => rfl) (fun _ _ => rfl) (fun _ _ _ => rfl)
    have h22 : 22 ≤ d.length := h
    simp only [unpackDynamicUidRequest]
    rw [u16At_append e (by omega), vecAt_append e (by omega)]
  case assignedDynamicUids =>
    refine (parseGenericList_resumable (Nat.succ_pos _) fun d e h => ?_).zoom (fun _ _ => rfl)
      (fun _ _ _ => rfl) (fun _ _ => rfl) (fun _ _ _ => rfl)
    have h24 : 24 ≤ d.length := h
    simp only [unpackDynamicUidMapping, unpackUid]
    rw [u16At_append e (by omega), u32At_append e (by omega), vecAt_append e (by omega),
      u16At_append e (by omega)]
  case fetchDynamicUidList =>
    refine (parseGenericList_resumable (Nat.succ_pos _) fun d e h => ?_).zoom (fun _ _ => rfl)
      (fun _ _ _ => rfl) (fun _ _ => rfl) (fun _ _ _ => rfl)
    have h6 : 6 ≤ d.length := h
    simp only [unpackUid]
    rw [u16At_append e (by omega), u32At_append e (by omega)]
  case unknown => apply skip_resumable.zoom <;> intros <;> rfl

theorem brokerDataParser_vector (k : BrokerKind) (s : BrokerData) (m : BrokerMessage × Heap)
    (d : Bytes) : (brokerDataParser pal k s m d).msg.1.vector = m.1.vector := by
  have hfix : ∀ n (read : Bytes → BrokerMessage × Heap → BrokerMessage × Heap),
      (∀ d m, (read d m).1.vector = m.1.vector) →
      (fixedData n read s m d).msg.1.vector = m.1.vector := by
    intro n read h
    simp only [fixedData]
    split_ifs
    · exact h d m
    · rfl
  cases k
  all_goals first
    | exact hfix _ _ fun _ _ => rfl
    | rfl

theorem brokerLayer_body_resumable (hpal : pal.Lawful) : Resumable parseVerdict CutSafe
      (fun s m => BrokerDataInv (.ofVector m.1.vector) s m) (brokerLayer pal).body :=
  dispatch (fun m : BrokerMessage × Heap => BrokerKind.ofVector m.1.vector)
    (brokerDataParser_resumable hpal) fun k s m d h => by
      simp only [brokerDataParser_vector]
      exact h

theorem initializeBrokerMessage_idle (bmsg : BrokerMessage) (n : Nat) :
    (initializeBrokerMessage bmsg n).1.clientList.block.consumingBadBlock = false ∧
      (initializeBrokerMessage bmsg n).1.clientList.block.parsedHeader = false := by
  simp only [initializeBrokerMessage]
  cases BrokerKind.ofVector bmsg.vector <;> simp only <;> (try split_ifs) <;> exact ⟨rfl, rfl⟩

theorem brokerDataInv_of_idle {s : BrokerData} (h1 : s.clientList.block.consumingBadBlock = false)
    (h2 : s.clientList.block.parsedHeader = false) (k : BrokerKind) (m : BrokerMessage × Heap) :
    BrokerDataInv k s m := by
  cases k
  all_goals first
    | trivial
    | exact ⟨⟨fun h => by simp [h1] at h, fun h => by simp [h2] at h⟩,
        fun h => by simp [h2] at h⟩

theorem brokerLayer_goodHeader (hpal : pal.Lawful) :
    (brokerLayer pal).GoodHeader CutSafe (fun s m => BrokerDataInv (.ofVector m.1.vector) s m) where
  append := by
    intro b m d e r lg' hlen h
    have h5 : 5 ≤ d.length := hlen
    refine ⟨lg', ?_, fun h => h⟩
    rw [← h]
    simp only [brokerLayer, brokerHeader]
    rw [hpal.length_append d e (by omega), u16At_append e (by omega)]
  reject := fun b m d n lg h _ => .inl ((brokerLayer_sized pal).reject h)
  accept := by
    intro b m d x m' lg h
    obtain ⟨-, -, hx, -⟩ := (brokerLayer_sized pal).accept h
    obtain ⟨rfl, -⟩ := Prod.mk.inj hx
    obtain ⟨h1, h2⟩ := initializeBrokerMessage_idle { m.1 with vector := u16At d 3 } _
    exact brokerDataInv_of_idle h1 h2 _ _

abbrev BrokerInv : BrokerState → BrokerMessage × Heap → Prop :=
  Layer.Inv fun s m => BrokerDataInv (.ofVector m.1.vector) s m

theorem parseBrokerBlock_resumable (hpal : pal.Lawful) :
    Resumable parseVerdict CutSafe BrokerInv (parseBrokerBlock pal) :=
  parse_resumable (by simp [CutSafe]) (by simp [CutSafe])
    (brokerLayer_goodHeader hpal) (brokerLayer_body_resumable hpal)

/-! ### The RPT layer -/

def RptDataInv : RptKind → RptData → RptMessage × Heap → Prop
  | .status => fun s m => StatusInv s.status (m.1.status, m.2)
  | _ => fun _ _ => True

theorem rptDataParser_resumable (hpal : pal.Lawful) (k : RptKind) :
    Resumable parseVerdict CutSafe (RptDataInv k) (rptDataParser pal k) := by
  cases k
  case status => apply (parseRptStatus_resumable hpal).zoom <;> intros <;> rfl
  case unknown => apply skip_resumable.zoom <;> intros <;> rfl
  all_goals
    apply (parseRdmList_resumable hpal).zoom <;> intros <;> rfl

theorem rptDataParser_vector (k : RptKind) (s : RptData) (m : RptMessage × Heap) (d : Bytes) :
    (rptDataParser pal k s m d).msg.1.vector = m.1.vector := by
  cases k <;> rfl

theorem rptLayer_body_resumable (hpal : pal.Lawful) : Resumable parseVerdict CutSafe
      (fun s m => RptDataInv (.ofVector m.1.vector) s m) (rptLayer pal).body :=
  dispatch (fun m : RptMessage × Heap => RptKind.ofVector m.1.vector)
    (rptDataParser_resumable hpal) fun k s m d h => by
      simp only [rptDataParser_vector]
      exact h

theorem initializeRptMessage_idle (rmsg : RptMessage) (n : Nat) :
    (initializeRptMessage rmsg n).1.status.block.parsedHeader = false := by
  simp only [initializeRptMessage]
  cases RptKind.ofVector rmsg.vector <;> simp only <;> (try split_ifs) <;> rfl

theorem rptDataInv_of_idle {s : RptData} (h : s.status.block.parsedHeader = false) (k : RptKind)
    (m : RptMessage × Heap) : RptDataInv k s m := by
  cases k
  case status =>
    intro _ h'
    simp [h] at h'
  all_goals trivial

theorem rptHeader_append (hpal : pal.Lawful) (b : PduBlockState) (m : RptMessage × Heap) {d : Bytes}
    (e : Bytes) (h28 : 28 ≤ d.length) : rptHeader pal b m (d ++ e) = rptHeader pal b m d := by
  have hu : unpackRptHeader (d ++ e) = unpackRptHeader d := by
    unfold unpackRptHeader
    rw [u16At_append e (by omega), u32At_append e (by omega), u16At_append e (by omega),
      u16At_append e (by omega), u32At_append e (by omega), u16At_append e (by omega),
      u32At_append e (by omega)]
  unfold rptHeader
  rw [hpal.length_append d e (by omega), u32At_append e (by omega), hu]

theorem rptLayer_goodHeader (hpal : pal.Lawful) :
    (rptLayer pal).GoodHeader CutSafe (fun s m => RptDataInv (.ofVector m.1.vector) s m) where
  append := by
    intro b m d e r lg' hlen h
    exact ⟨lg', (rptHeader_append hpal b m e hlen).symm.trans h, fun h => h⟩
  reject := fun b m d n lg h _ => .inl ((rptLayer_sized pal).reject h)
  accept := by
    intro b m d x m' lg h
    obtain ⟨-, -, hx, -⟩ := (rptLayer_sized pal).accept h
    have hidle : x.status.block.parsedHeader = false := by
      rw [show x = _ from congrArg Prod.fst hx]
      exact initializeRptMessage_idle _ _
    exact rptDataInv_of_idle hidle _ _

abbrev RptInv : RptState → RptMessage × Heap → Prop :=
  Layer.Inv fun s m => RptDataInv (.ofVector m.1.vector) s m

theorem parseRptBlock_resumable (hpal : pal.Lawful) : Resumable parseVerdict CutSafe RptInv (parseRptBlock pal) :=
  parse_resumable (by simp [CutSafe]) (by simp [CutSafe])
    (rptLayer_goodHeader hpal) (rptLayer_body_resumable hpal)

/-! ### The root layer -/

def RlpDataInv : RootKind → RlpData → RdmnetMessage × Heap → Prop
  | .broker => fun s m => BrokerInv s.broker (m.1.broker, m.2)
  | .rpt => fun s m => RptInv s.rpt (m.1.rpt, m.2)
  | .unknown => fun _ _ => True

theorem rlpDataParser_resumable (hpal : pal.Lawful) (k : RootKind) :
    Resumable parseVerdict CutSafe (RlpDataInv k) (rlpDataParser pal k) := by
  cases k with
  | broker => apply (parseBrokerBlock_resumable hpal).zoom <;> intros <;> rfl
  | rpt => apply (parseRptBlock_resumable hpal).zoom <;> intros <;> rfl
  | unknown => apply skip_resumable.zoom <;> intros <;> rfl

theorem rlpDataParser_vector (k : RootKind) (s : RlpData) (m : RdmnetMessage × Heap) (d : Bytes) :
    (rlpDataParser pal k s m d).msg.1.vector = m.1.vector := by
  cases k <;> rfl

theorem rlpLayer_body_resumable (hpal : pal.Lawful) : Resumable parseVerdict CutSafe
      (fun s m => RlpDataInv (.ofVector m.1.vector) s m) (rlpLayer pal).body :=
  dispatch (fun m : RdmnetMessage × Heap => ofVector m.1.vector)
    (rlpDataParser_resumable hpal) fun k s m d h => by
      simp only [rlpDataParser_vector]
      exact h

theorem initializeRdmnetMessage_inv (v : UInt32) (n : Nat) (k : RootKind)
    (m : RdmnetMessage × Heap) : RlpDataInv k (initializeRdmnetMessage v n) m := by
  have hbroker : (initializeRdmnetMessage v n).broker.block.parsedHeader = false := by
    simp only [initializeRdmnetMessage]
    cases ofVector v <;> rfl
  have hrpt : (initializeRdmnetMessage v n).rpt.block.parsedHeader = false := by
    simp only [initializeRdmnetMessage]
    cases ofVector v <;> rfl
  cases k with
  | broker => exact ⟨fun _ => hbroker, fun h => by simp [hbroker] at h⟩
  | rpt => exact ⟨fun _ => hrpt, fun h => by simp [hrpt] at h⟩
  | unknown => trivial

theorem rlpLayer_goodHeader (hpal : pal.Lawful) :
    (rlpLayer pal).GoodHeader CutSafe (fun s m => RlpDataInv (.ofVector m.1.vector) s m) where
  append := by
    intro b m d e r lg' hlen h
    have hroot := hpal.root_append d e hlen
    simp only [rlpLayer, rlpHeader, hroot] at h ⊢
    cases hp : pal.acnParseRootLayerHeader d with
    | none =>
      simp only [hp] at h ⊢
      exact ⟨lg', h, fun h => h⟩
    | some rlp =>
      simp only [hp] at h ⊢
      split_ifs at h ⊢ with hif
      all_goals
        obtain ⟨rfl, rfl⟩ := Prod.mk.inj h
        exact ⟨_, rfl, by simp [CutSafe]⟩
  reject := by
    intro b m d n lg h hlg
    rcases rlpHeader_reject h with rfl | ⟨rfl, rlp, -, hif, hev⟩
    · exact .inl rfl
    · right
      refine ⟨le_rfl, ?_⟩
      exact (hlg _ hev).resolve_left hif
  accept := by
    intro b m d x m' lg h
    obtain ⟨rlp, -, -, rfl, -⟩ := rlpHeader_accept h
    exact initializeRdmnetMessage_inv _ _ _ _

abbrev RlpInv : RlpState → RdmnetMessage × Heap → Prop :=
  Layer.Inv fun s m => RlpDataInv (.ofVector m.1.vector) s m

theorem parseRlpBlock_resumable (hpal : pal.Lawful) : Resumable parseVerdict CutSafe RlpInv (parseRlpBlock pal) :=
  parse_resumable (by simp [CutSafe]) (by simp [CutSafe])
    (rlpLayer_goodHeader hpal) (rlpLayer_body_resumable hpal)

/-! ### The preamble -/

variable {d : Bytes}

theorem findTcpPreamble_append (hpal : pal.Lawful) (e : Bytes) {i n : Nat}
    (h : findTcpPreamble pal d = some (i, n)) : findTcpPreamble pal (d ++ e) = some (i, n) := by
  induction d generalizing i with
  | nil => simp [findTcpPreamble] at h
  | cons x d ih =>
    simp only [findTcpPreamble, cons_append] at h ⊢
    split_ifs at h with hlen
    have hlen' : acnTcpPreambleSize < (x :: (d ++ e)).length := by
      simp only [length_cons, length_append] at hlen ⊢
      omega
    have hpre := hpal.preamble_append (x :: d) e (le_of_lt hlen)
    rw [cons_append] at hpre
    rw [if_pos hlen', hpre]
    cases hp : pal.acnParseTcpPreamble (x :: d) with
    | some k =>
      simp only [hp] at h ⊢
      exact h
    | none =>
      simp only [hp, Option.map_eq_some_iff, Prod.mk.injEq, Prod.exists] at h ⊢
      obtain ⟨j, k, hj, rfl, rfl⟩ := h
      exact ⟨j, k, ih hj, rfl, rfl⟩

theorem findTcpPreamble_drop (hpal : pal.Lawful) (e : Bytes) (h : findTcpPreamble pal d = none) :
    findTcpPreamble pal (d ++ e) = (findTcpPreamble pal (d.drop (d.length - acnTcpPreambleSize) ++ e)).map
        fun r => (r.1 + (d.length - acnTcpPreambleSize), r.2) := by
  induction d with
  | nil =>
    simp only [nil_append, drop_nil, length_nil, Nat.zero_sub, Nat.add_zero]
    exact Option.map_id'.symm
  | cons x d ih =>
    by_cases hlen : acnTcpPreambleSize < (x :: d).length
    swap
    · have hzero : (x :: d).length - acnTcpPreambleSize = 0 := by omega
      simp only [hzero, drop_zero, Nat.add_zero]
      exact Option.map_id'.symm
    simp only [findTcpPreamble, hlen, if_true] at h
    cases hp : pal.acnParseTcpPreamble (x :: d) with
    | some k => simp [hp] at h
    | none =>
      simp only [hp, Option.map_eq_none_iff] at h
      have hlen' : acnTcpPreambleSize < (x :: (d ++ e)).length := by
        simp only [length_cons, length_append] at hlen ⊢
        omega
      have hpre := hpal.preamble_append (x :: d) e (le_of_lt hlen)
      rw [cons_append] at hpre
      have hsub : (x :: d).length - acnTcpPreambleSize = (d.length - acnTcpPreambleSize) + 1 := by
        simp only [length_cons] at hlen ⊢
        omega
      rw [hsub, drop_succ_cons, cons_append]
      simp only [findTcpPreamble, hlen', if_true, hpre, hp, ih h, Option.map_map]
      rfl

/-! ### The message buffer -/

/-- A call of `rc_msg_buf_parse_data` that returns asks for data or hands out a message. -/
def bufVerdict : Verdict MsgBufRes where
  susp := fun r => r = .noData
  final := fun _ => False
  proper := fun r => r = .ok ∨ r = .noData
  susp_not_final := fun _ _ h => h

instance : DecidablePred bufVerdict.susp := fun r => inferInstanceAs (Decidable (r = .noData))

def BufInv (s : RCMsgBuf) (m : RdmnetMessage × Heap) : Prop :=
  s.havePreamble = true → RlpInv s.rlpState m

/-- What a round does once the root layer has returned `o` within the buffer. -/
def afterBlock (o : Out RlpState (RdmnetMessage × Heap) ParseRes Event) :
    Out RCMsgBuf (RdmnetMessage × Heap) (Option MsgBufRes) Event :=
  let r := blockResult o.st o.res
  ⟨r.1, o.msg, o.used, r.2, o.log ++ [.assigned (decide (o.res ≠ .unassigned))] ++ [.check true]⟩

variable {s : RCMsgBuf} {m : RdmnetMessage × Heap}

theorem parseDataBlock_eq (h : (parseRlpBlock pal s.rlpState m d).used ≤ d.length) :
    parseDataBlock pal s m d = afterBlock (parseRlpBlock pal s.rlpState m d) := by
  simp only [parseDataBlock, if_pos h, afterBlock]

theorem afterBlock_same {a b : Out RlpState (RdmnetMessage × Heap) ParseRes Event}
    (h : Same parseVerdict a b) : Same bufVerdict.round (afterBlock a) (afterBlock b) := by
  obtain ⟨hu, hr, hm, hst⟩ := h
  have hres : (blockResult a.st b.res).2 = (blockResult b.st b.res).2 := by cases b.res <;> rfl
  refine ⟨hu, by simp only [afterBlock, hr, hres], hm, fun _ => ?_⟩
  simp only [afterBlock, hr]
  by_cases hf : parseVerdict.final a.res
  · rw [hr] at hf
    rcases hf with hf | hf <;> rw [hf] <;> rfl
  · rw [hst hf]

theorem afterBlock_clean {o : Out RlpState (RdmnetMessage × Heap) ParseRes Event}
    (h : o.Clean CutSafe) (hp : parseVerdict.proper o.res) : (afterBlock o).Clean CutSafe := by
  have ha : ∀ x ∈ [assigned (decide (o.res ≠ .unassigned))], CutSafe x := by
    simp [CutSafe, hp.1]
  exact clean_append (clean_append h ha) (by simp [CutSafe])

theorem parseDataBlock_clean {ok : Event → Prop} (h : (parseDataBlock pal s m d).Clean ok) :
    (parseRlpBlock pal s.rlpState m d).Clean ok := by
  intro x hx
  apply h
  simp only [parseDataBlock]
  split_ifs <;> exact mem_append_left _ (mem_append_left _ hx)

theorem parseDataRound_resumes_block (hpal : pal.Lawful)
    {e : Bytes} (hI : BufInv s m) (hs : s.havePreamble = true)
    (hc : (parseDataBlock pal s m (d ++ e)).Clean CutSafe) :
    Resumes bufVerdict.round CutSafe BufInv (parseDataRound pal) s m d e := by
  have hcl := parseDataBlock_clean hc
  have R := parseRlpBlock_resumable hpal s.rlpState m d e (hI hs) hcl
  have Rde := (parseRlpBlock_resumable hpal).call (hI hs) hcl
  have hd : parseDataRound pal s m d = afterBlock (parseRlpBlock pal s.rlpState m d) := by
    rw [parseDataRound_block hs, parseDataBlock_eq R.used_le]
  have hde : parseDataRound pal s m (d ++ e) =
      afterBlock (parseRlpBlock pal s.rlpState m (d ++ e)) := by
    rw [parseDataRound_block hs, parseDataBlock_eq Rde.used_le]
  by_cases hsu : (parseRlpBlock pal s.rlpState m d).res = .noData
  · obtain ⟨hcl2, hsame⟩ := R.more hsu
    have hwait : afterBlock (parseRlpBlock pal s.rlpState m d) =
        ⟨⟨true, (parseRlpBlock pal s.rlpState m d).st⟩, (parseRlpBlock pal s.rlpState m d).msg,
          (parseRlpBlock pal s.rlpState m d).used, some .noData,
          (parseRlpBlock pal s.rlpState m d).log ++ [.assigned true] ++ [.check true]⟩ := by
      simp only [afterBlock, hsu, blockResult]
      rfl
    have hI1 := R.inv (parseVerdict.susp_not_final _ hsu)
    have R2 := (parseRlpBlock_resumable hpal).call hI1 hcl2
    rw [hwait] at hd
    refine ofMore hd ⟨_, rfl, rfl⟩ ?_ R.used_le ?_ (fun _ => hI1) ?_
      (afterBlock_clean hcl2 R2.proper) ?_
    · have := afterBlock_clean R.clean R.proper
      rwa [hwait] at this
    · rintro x ⟨⟩
      exact .inr rfl
    · rw [parseDataRound_block rfl, parseDataBlock_eq R2.used_le]
    · rw [hde]
      exact (afterBlock_same hsame).trans ⟨rfl, rfl, rfl, fun _ => rfl⟩
  · have hsame := R.done hsu
    refine ofDone hd ?_ (afterBlock_clean R.clean R.proper) R.used_le ?_ ?_ ?_
    · rintro ⟨x, hx, hx'⟩
      have hp := R.proper
      cases hr : (parseRlpBlock pal s.rlpState m d).res <;>
        simp_all [afterBlock, blockResult, bufVerdict]
    · intro x hx
      have hp := R.proper
      cases hr : (parseRlpBlock pal s.rlpState m d).res <;>
        simp_all [afterBlock, blockResult, bufVerdict]
    · intro _ h
      cases hr : (parseRlpBlock pal s.rlpState m d).res <;>
        simp only [afterBlock, hr, blockResult] at h ⊢
      all_goals first
        | exact R.inv (by simp [hr])
        | cases h
    · rw [hde]
      exact afterBlock_same hsame

theorem parseDataRound_resumes_locate (hpal : pal.Lawful) {e : Bytes} (hs : s.havePreamble = false)
    (hc : (parseDataRound pal s m (d ++ e)).Clean CutSafe) :
    Resumes bufVerdict.round CutSafe BufInv (parseDataRound pal) s m d e := by
  cases hf : findTcpPreamble pal d with
  | some r =>
    obtain ⟨i, n⟩ := r
    have hfde := findTcpPreamble_append hpal e hf
    have hn : n ≠ 0 := by
      rintro rfl
      rw [parseDataRound_zero hs hfde] at hc
      exact hc (.preamble 0) (by simp) rfl
    -- the preamble is at hand: the call goes on with the block
    have hi : i + acnTcpPreambleSize ≤ d.length := le_of_lt (findTcpPreamble_found hf).1
    have hd := parseDataRound_preamble (m := m) hs hf hn
    have hde := parseDataRound_preamble (m := m) hs hfde hn
    rw [drop_append_of_le_length hi] at hde
    rw [hde] at hc
    obtain ⟨hlg, hcl⟩ := clean_since.mp hc
    rw [← parseDataRound_block rfl] at hd hde
    have hI1 : BufInv ⟨true, ⟨.start n, default⟩⟩ m :=
      fun _ => ⟨fun h => (nomatch h), fun h => (nomatch h)⟩
    exact step hi hlg hd hde (parseDataRound_resumes_block hpal hI1 rfl hcl)
  | none =>
    -- all but the last bytes are thrown away; the search goes on with them
    have hd := parseDataRound_none (m := m) hs hf
    have hfde := findTcpPreamble_drop hpal e hf
    have hI : BufInv s m := fun h => by simp [hs] at h
    have hsame : Same bufVerdict.round (parseDataRound pal s m (d ++ e))
        ((parseDataRound pal s m (d.drop (d.length - acnTcpPreambleSize) ++ e)).after
          (d.length - acnTcpPreambleSize)) ∧
        (parseDataRound pal s m (d.drop (d.length - acnTcpPreambleSize) ++ e)).log =
          (parseDataRound pal s m (d ++ e)).log := by
      have hrest : d.drop (d.length - acnTcpPreambleSize) ++ e =
          (d ++ e).drop (d.length - acnTcpPreambleSize) :=
        (drop_append_of_le_length (Nat.sub_le _ _)).symm
      cases hfr : findTcpPreamble pal (d.drop (d.length - acnTcpPreambleSize) ++ e) with
      | none =>
        rw [hfr, Option.map_none] at hfde
        rw [parseDataRound_none hs hfde, parseDataRound_none hs hfr]
        refine ⟨⟨?_, rfl, rfl, fun _ => rfl⟩, rfl⟩
        simp only [after_used, length_append, length_drop]
        omega
      | some r =>
        obtain ⟨i, n⟩ := r
        rw [hfr, Option.map_some] at hfde
        have hn : n ≠ 0 := by
          rintro rfl
          rw [parseDataRound_zero hs hfde] at hc
          exact hc (.preamble 0) (by simp) rfl
        rw [parseDataRound_preamble hs hfde hn, parseDataRound_preamble hs hfr hn, hrest, drop_drop]
        have hk : d.length - acnTcpPreambleSize + (i + acnTcpPreambleSize) =
            i + (d.length - acnTcpPreambleSize) + acnTcpPreambleSize := by omega
        rw [hk]
        refine ⟨⟨?_, rfl, rfl, fun _ => rfl⟩, rfl⟩
        simp only [after_used, since_used]
        omega
    refine ofMore hd ⟨_, rfl, rfl⟩ (by simp [Clean]) (Nat.sub_le _ _) ?_ hI rfl ?_ hsame.1
    · rintro x ⟨⟩
      exact .inr rfl
    · intro x hx
      rw [hsame.2] at hx
      exact hc x hx

theorem parseDataRound_resumable (hpal : pal.Lawful) :
    Resumable bufVerdict.round CutSafe BufInv (parseDataRound pal) := by
  intro s m d e hI hc
  cases hs : s.havePreamble with
  | true =>
    rw [parseDataRound_block hs] at hc
    exact parseDataRound_resumes_block hpal hI hs hc
  | false => exact parseDataRound_resumes_locate hpal hs hc

/-- **The message buffer is resumable.** -/
theorem rcMsgBufParseData_resumable (hpal : pal.Lawful) :
    Resumable bufVerdict CutSafe BufInv (rcMsgBufParseData pal) :=
  (parseDataRound_resumable hpal).iterate parseDataRound_decreases

/-! ### Releasing a message -/

/-- `rc_free_message_resources` on the message that was handed out. -/
def release (m : RdmnetMessage × Heap) : RdmnetMessage × Heap := (rcFreeMessageResources m.1, m.2)

theorem release_vector (m : RdmnetMessage × Heap) : (release m).1.vector = m.1.vector := by
  simp only [release, rcFreeMessageResources]
  split <;> rfl

theorem rcMsgBufParseData_releases (hpal : pal.Lawful) :
    Releases (· = .ok) release (rcMsgBufParseData pal) CutSafe BufInv := by
  intro s m d hI hc hok
  have R := (rcMsgBufParseData_resumable hpal).call hI hc
  have hinv := R.inv id
  intro hs
  obtain ⟨h1, h2⟩ := hinv hs
  refine ⟨h1, fun hp => ?_⟩
  rcases rcMsgBufParseData_handedOut s m d hok with h | h
  · exact absurd (hc _ h) (by simp [CutSafe])
  have hb := h hs hp
  have hdata := h2 hp
  rw [release_vector]
  generalize (rcMsgBufParseData pal s m d).st.rlpState.data = x at hb hdata ⊢
  cases hk : ofVector (rcMsgBufParseData pal s m d).msg.1.vector with
  | broker | rpt =>
    rw [hk] at hb hdata
    exact ⟨hdata.1, fun h' => by rw [hb] at h'; cases h'⟩
  | unknown => trivial

end RDMnet
