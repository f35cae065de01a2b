import RDMnet.Prot.Frame

/-!
# What is packed is received

Every message that the library packs or sends is delivered by `rc_msg_buf_parse_data` as it was
given to the packing function, and so is a stream of such messages, in whatever chunks it arrives.
-/

namespace RDMnet

open List StatusKind

variable {pal : EtcPal}

/-! ### Packed bytes -/

variable {header : Bytes}

theorem packBehind_nil (header : Bytes) : packBehind header (some []) = header := by
  unfold packBehind
  split_ifs with h
  · exact h.symm
  · exact append_nil header

theorem packBehind_eq {n : Nat} (hn : header.length = n + 1) (data : Bytes) :
    packBehind header (some data) = header ++ data ∧
      (packBehind header (some data)).length = n + 1 + data.length := by
  have hne : header ≠ [] := by
    rintro rfl
    cases hn
  rw [packBehind, if_neg hne, length_append, hn]
  exact ⟨rfl, rfl⟩

theorem packEach_eq {α : Type} {size : Nat} {pack : α → Bytes} :
    ∀ {xs : List α} {room : Nat} {out : Bytes}, packEach size pack room xs = some out →
      out = xs.flatMap pack := by
  intro xs
  induction xs with
  | nil => intro _ _ h; cases h; rfl
  | cons x xs ih =>
    intro room out h
    simp only [packEach] at h
    split_ifs at h
    obtain ⟨out', hout', rfl⟩ := Option.map_eq_some_iff.mp h
    rw [ih hout', flatMap_cons]

theorem packBehind_each {α : Type} {size room : Nat} {pack : α → Bytes}
    {xs : List α} (h : packBehind header (packEach size pack room xs) ≠ []) :
    packBehind header (packEach size pack room xs) = packBehind header (some (xs.flatMap pack)) := by
  cases hpack : packEach size pack room xs with
  | none => exact absurd (by simp [packBehind, hpack]) h
  | some out => rw [packEach_eq hpack]

section Deliver

variable (hpk : pal.Packs) {buflen : Nat} {v : UInt16}

include hpk in
theorem packBroker_eq {rlp : AcnRootLayerPdu} (hbuf : 39 ≤ buflen) (data : Bytes) :
    packBehind (packBrokerHeaderWithRlp pal rlp buflen v) (some data) =
      packBrokerHeaderWithRlp pal rlp buflen v ++ data ∧
    (packBehind (packBrokerHeaderWithRlp pal rlp buflen v) (some data)).length = 44 + data.length :=
  packBehind_eq (n := 43) (by
    rw [packBrokerHeaderWithRlp, (packHeaderWithRlp_framed hpk rlp _ hbuf).1, length_packBrokerHeader hpk]
    rfl) data

include hpk in
theorem packRpt_eq {rlp : AcnRootLayerPdu} {v : UInt32} {header : RptHeader} (hbuf : 39 ≤ buflen) (data : Bytes) :
    packBehind (packRptHeaderWithRlp pal rlp buflen v header) (some data) =
      packRptHeaderWithRlp pal rlp buflen v header ++ data ∧
    (packBehind (packRptHeaderWithRlp pal rlp buflen v header) (some data)).length = 67 + data.length :=
  packBehind_eq (n := 66) (by
    rw [packRptHeaderWithRlp, (packHeaderWithRlp_framed hpk rlp _ hbuf).1, length_packRptHeader hpk]
    rfl) data

end Deliver

/-! ### The messages of the library -/

/-- A message, with the arguments of the function that packs or sends it; `buflen` is the size of
the buffer that it is packed into. -/
inductive Outgoing
  | connectReply (buflen : Nat) (data : BrokerConnectReplyMsg)
  | rptClientList (buflen : Nat) (vector : UInt16) (clientEntries : List RptClientEntry)
  | uidAssignmentList (buflen : Nat) (mappings : List RdmnetDynamicUidMapping)
  | disconnect (buflen : Nat) (reason : UInt16)
  | null (buflen : Nat)
  | request (buflen : Nat) (header : RptHeader) (cmd : RdmBuffer)
  | notification (buflen : Nat) (header : RptHeader) (cmds : List RdmBuffer)
  | status (buflen : Nat) (header : RptHeader) (status : RptStatusMsg)
  | clientConnect (data : BrokerClientConnectMsg)
  | fetchClientList
  | requestDynamicUids (manufacturerId : UInt16) (rids : List Uuid)
  | fetchUidAssignmentList (uids : List RdmUid)

/-- The bytes that the message is packed into, or that are sent; none if the function fails. -/
def Outgoing.bytes (pal : EtcPal) (localCid : Uuid) : Outgoing → Bytes
  | .connectReply buflen data => rcBrokerPackConnectReply pal buflen localCid data
  | .rptClientList buflen vector clientEntries =>
    rcBrokerPackRptClientList pal buflen localCid vector clientEntries
  | .uidAssignmentList buflen mappings => rcBrokerPackUidAssignmentList pal buflen localCid mappings
  | .disconnect buflen reason => rcBrokerPackDisconnect pal buflen localCid reason
  | .null buflen => rcBrokerPackNull pal buflen localCid
  | .request buflen header cmd => rcRptPackRequest pal buflen localCid header cmd
  | .notification buflen header cmds => rcRptPackNotification pal buflen localCid header cmds
  | .status buflen header msg => rcRptPackStatus pal buflen localCid header msg
  | .clientConnect data => (rcBrokerSendClientConnect pal localCid data).getD []
  | .fetchClientList => (rcBrokerSendFetchClientList pal localCid).getD []
  | .requestDynamicUids manufacturerId rids =>
    (rcBrokerSendRequestDynamicUids pal localCid manufacturerId rids).getD []
  | .fetchUidAssignmentList uids => (rcBrokerSendFetchUidAssignmentList pal localCid uids).getD []

/-- What the library asks of the arguments: RDM commands, manufacturer IDs of 15 bits, and status
strings without a NUL that are short enough, and none for the codes that take no string. -/
def Outgoing.Valid : Outgoing → Prop
  | .request _ _ cmd => IsRdmCmd cmd
  | .notification _ _ cmds => ∀ cmd ∈ cmds, IsRdmCmd cmd
  | .status _ _ msg =>
    ofCode msg.statusCode = .bare ∧ msg.statusString = none ∨
    ofCode msg.statusCode = .withString ∧ ∀ str, msg.statusString = some str →
      str.length ≤ rptStatusStringMaxlen ∧ 0 ∉ str
  | .requestDynamicUids manufacturerId _ => manufacturerId < 0x8000
  | _ => True

def RdmnetMessage.IsBroker (msg : RdmnetMessage) (cid : Uuid) (vector : UInt16) : Prop :=
  msg.vector = acnVectorRootBroker ∧ msg.senderCid = cid ∧ msg.broker.vector = vector

def RdmnetMessage.IsRpt (msg : RdmnetMessage) (cid : Uuid) (vector : UInt32) (header : RptHeader) :
    Prop :=
  msg.vector = acnVectorRootRpt ∧ msg.senderCid = cid ∧ msg.rpt.vector = vector ∧
    msg.rpt.header = header

def MsgList.Holds {α : Type} (l : MsgList α) (xs : List α) : Prop :=
  l.items.toList = xs ∧ l.moreComing = false

/-- The message that is delivered is the one that was packed, field for field; the type of a client
is one byte on the wire, and an empty status string is none. -/
def Outgoing.Arrives (cid : Uuid) (msg : RdmnetMessage) : Outgoing → Prop
  | .connectReply _ data =>
    msg.IsBroker cid BrokerKind.connectReply.vector ∧ msg.broker.connectReply = data
  | .rptClientList _ vector clientEntries =>
    msg.IsBroker cid vector ∧ msg.broker.clientList.clientProtocol = kClientProtocolRPT ∧
      msg.broker.clientList.rpt.Holds (clientEntries.map RptClientEntry.onWire)
  | .uidAssignmentList _ mappings =>
    msg.IsBroker cid BrokerKind.assignedDynamicUids.vector ∧
      msg.broker.dynamicUidAssignmentList.Holds mappings
  | .disconnect _ reason =>
    msg.IsBroker cid BrokerKind.disconnect.vector ∧ msg.broker.disconnect = reason
  | .null _ => msg.IsBroker cid BrokerKind.null.vector
  | .request _ header cmd =>
    msg.IsRpt cid vectorRptRequest header ∧ msg.rpt.rdm.Holds [cmd]
  | .notification _ header cmds =>
    msg.IsRpt cid vectorRptNotification header ∧ msg.rpt.rdm.Holds cmds
  | .status _ header sent =>
    msg.IsRpt cid vectorRptStatus header ∧
      msg.rpt.status = ⟨sent.statusCode, sent.statusString.filter (!·.isEmpty)⟩
  | .clientConnect data =>
    msg.IsBroker cid BrokerKind.connect.vector ∧ msg.broker.clientConnect =
      { data with clientEntry.data := data.clientEntry.data.onWire }
  | .fetchClientList => msg.IsBroker cid BrokerKind.fetchClientList.vector
  | .requestDynamicUids manufacturerId rids =>
    msg.IsBroker cid BrokerKind.requestDynamicUids.vector ∧
      msg.broker.dynamicUidRequestList.Holds (rids.map fun rid => ⟨manufacturerId, rid⟩)
  | .fetchUidAssignmentList uids =>
    msg.IsBroker cid BrokerKind.fetchDynamicUidList.vector ∧
      msg.broker.fetchUidAssignmentList.Holds uids

section Kinds

variable (hpal : pal.Lawful) (hpk : pal.Packs) {cid : Uuid}

/-- The message is delivered as it was packed, whatever is left of the message before it. -/
def Outgoing.Delivered (pal : EtcPal) (cid : Uuid) (x : Outgoing) : Prop :=
  ∀ m, ∃ m', Delivers pal (x.bytes pal cid) m m' ∧ x.Arrives cid m'

/-- It is, if it was packed and is not too long. -/
def Outgoing.Carried (pal : EtcPal) (cid : Uuid) (x : Outgoing) : Prop :=
  x.bytes pal cid ≠ [] → (x.bytes pal cid).length < acnTcpPreambleSize + 1048576 →
    x.Delivered pal cid

variable {buflen k : Nat} {v : UInt16} {data : Bytes} {x : Outgoing}

section Headers

variable (hdata : data.length = k)
  (hlen : (x.bytes pal cid).length < acnTcpPreambleSize + 1048576)

include hpal hpk hdata hlen

theorem Outgoing.delivered_pack (hbytes : x.bytes pal cid =
      packBehind (packBrokerHeaderWithRlp pal (brokerRlp cid (5 + k)) buflen v) (some data)) (hbuf : 39 ≤ buflen)
    (hread : ∀ m : RdmnetMessage, ∃ b', BrokerReads pal v k data m.broker b' ∧ x.Arrives cid
      { m with vector := acnVectorRootBroker, senderCid := cid, broker := b' }) :
    x.Delivered pal cid := by
  intro m
  obtain ⟨b', hb, harr⟩ := hread m
  rw [(packBroker_eq hpk hbuf data).1] at hbytes
  rw [hbytes] at hlen
  refine ⟨_, ?_, harr⟩
  rw [hbytes]
  exact (packHeaderWithRlp_framed hpk _ _ hbuf).deliversBroker hpal hdata hlen hpk hb

theorem Outgoing.delivered_send (hbytes : x.bytes pal cid =
      ((sendBrokerHeader pal (brokerRlp cid (5 + k)) buflen v).map (· ++ data)).getD [])
    (hne : x.bytes pal cid ≠ []) (hbuf : acnRlpHeaderSizeExtLen ≤ buflen)
    (hread : ∀ m : RdmnetMessage, ∃ b', BrokerReads pal v k data m.broker b' ∧ x.Arrives cid
      { m with vector := acnVectorRootBroker, senderCid := cid, broker := b' }) :
    x.Delivered pal cid := by
  intro m
  obtain ⟨b', hb, harr⟩ := hread m
  cases hsend : sendBrokerHeader pal (brokerRlp cid (5 + k)) buflen v with
  | none => exact absurd (by rw [hbytes, hsend]; rfl) hne
  | some head =>
    have hout : x.bytes pal cid = head ++ data := by rw [hbytes, hsend]; rfl
    rw [hout] at hlen
    refine ⟨_, ?_, harr⟩
    rw [hout]
    exact (sendHeader_framed hpk _ _ hbuf hsend).deliversBroker hpal hdata hlen hpk hb

theorem Outgoing.delivered_rpt {v : UInt32} {header : RptHeader} (hbytes : x.bytes pal cid =
      packBehind (packRptHeaderWithRlp pal (rptRlp cid (28 + k)) buflen v header) (some data))
    (hbuf : 39 ≤ buflen) (hread : ∀ m : RdmnetMessage, ∃ r', RptReads pal v header k data m.rpt r' ∧ x.Arrives cid
      { m with vector := acnVectorRootRpt, senderCid := cid, rpt := r' }) :
    x.Delivered pal cid := by
  intro m
  obtain ⟨r', hr, harr⟩ := hread m
  rw [(packRpt_eq hpk hbuf data).1] at hbytes
  rw [hbytes] at hlen
  refine ⟨_, ?_, harr⟩
  rw [hbytes]
  exact (packHeaderWithRlp_framed hpk _ _ hbuf).deliversRpt hpal hdata hlen hpk hr

end Headers

include hpal hpk in
theorem connectReply_delivered {data : BrokerConnectReplyMsg} :
    (Outgoing.connectReply buflen data).Carried pal cid := by
  intro hne hlen
  have hbuf : ¬ buflen < 44 + 16 := fun h => hne (if_pos h)
  refine Outgoing.delivered_pack hpal hpk (k := 16) rfl hlen (if_neg hbuf) (by omega) fun m =>
    ⟨{ m.broker with vector := BrokerKind.connectReply.vector, connectReply := data },
      ⟨_, _, rfl, fun e => fixedData_reads rfl ?_⟩, ⟨rfl, rfl, rfl⟩, rfl⟩
  simp only [unpackConnectReply, packUid, append_assoc, u16At_behind_u16,
    u16At_behind_u32, u32At_behind_u16, u32At_behind_u32, u16At_pack, u32At_pack]

include hpal hpk in
theorem disconnect_delivered {reason : UInt16} : (Outgoing.disconnect buflen reason).Carried pal cid := by
  intro hne hlen
  have hbuf : ¬ buflen < 44 + 2 := fun h => hne (if_pos h)
  refine Outgoing.delivered_pack hpal hpk (k := 2) rfl hlen (if_neg hbuf) (by omega) fun m =>
    ⟨{ m.broker with vector := BrokerKind.disconnect.vector, disconnect := reason },
      ⟨_, _, rfl, fun e => fixedData_reads rfl ?_⟩, ⟨rfl, rfl, rfl⟩, rfl⟩
  rw [u16At_pack]

include hpal hpk in
theorem null_delivered : (Outgoing.null buflen).Carried pal cid := by
  intro hne hlen
  have hbuf : ¬ buflen < 44 := fun h => hne (if_pos h)
  have hdata : ([] : Bytes).length = 0 := rfl
  exact Outgoing.delivered_pack hpal hpk hdata hlen
    ((if_neg hbuf).trans (packBehind_nil _).symm) (by omega) fun m =>
    ⟨{ m.broker with vector := BrokerKind.null.vector },
      ⟨_, _, rfl, fun e => fixedData_reads rfl rfl⟩, rfl, rfl, rfl⟩

include hpal hpk in
theorem fetchClientList_delivered : Outgoing.fetchClientList.Carried pal cid := by
  intro hne hlen
  have hdata : ([] : Bytes).length = 0 := rfl
  refine Outgoing.delivered_send hpal hpk hdata (v := BrokerKind.fetchClientList.vector)
    hlen ?_ hne le_rfl fun m =>
    ⟨{ m.broker with vector := BrokerKind.fetchClientList.vector },
      ⟨_, _, rfl, fun e => fixedData_reads rfl rfl⟩, rfl, rfl, rfl⟩
  simp [Outgoing.bytes, rcBrokerSendFetchClientList]

variable {α : Type} {size : Nat}

variable {γ : Type}

theorem Arr.holds_pushAll (xs : List α) : (⟨Arr.null.pushAll xs, false⟩ : MsgList α).Holds xs :=
  ⟨Arr.toList_pushAll _ _, rfl⟩

/-- A kind of message has a list that `parseGenericList` reads, into the field with `get` and `set`. -/
structure HasList (pal : EtcPal) (kind : BrokerKind) (size : Nat) (unpack : Bytes → α)
    (get : BrokerMessage → MsgList α) (set : MsgList α → BrokerMessage → BrokerMessage) : Prop where
  pos : 0 < size
  init : ∀ (m : BrokerMessage) n, n > 0 ∧ n % size = 0 →
    initializeBrokerMessage { m with vector := kind.vector } n =
      ({ (default : BrokerData) with dataList := ⟨n, 0⟩ },
        set ⟨.null, false⟩ { m with vector := kind.vector })
  parser : brokerDataParser pal kind = (parseGenericList size unpack).zoom (·.dataList)
    (fun x s => { s with dataList := x }) (fun m => (get m.1, m.2)) (fun x m => (set x.1 m.1, x.2))
  vector_set : ∀ l m, (set l m).vector = m.vector
  get_set : ∀ l m, get (set l m) = l
  set_set : ∀ l l' m, set l (set l' m) = set l m

/-- It is read if its elements are, in whatever form they are given. -/
theorem HasList.reads {kind : BrokerKind} {unpack : Bytes → α} {get : BrokerMessage → MsgList α}
    {set : MsgList α → BrokerMessage → BrokerMessage} (hl : HasList pal kind size unpack get set)
    {pack : γ → Bytes} (image : γ → α) (hpack : ∀ x, (pack x).length = size)
    (hread : ∀ x e, unpack (pack x ++ e) = image x) {xs : List γ} (h : xs ≠ []) (m : BrokerMessage) :
    BrokerReads pal kind.vector (xs.length * size) (xs.flatMap pack) m
      (set ⟨Arr.null.pushAll (xs.map image), false⟩ { m with vector := kind.vector }) := by
  refine ⟨_, _, hl.init m _ ⟨Nat.mul_pos (length_pos_iff.mpr h) hl.pos, Nat.mul_mod_left _ _⟩, fun e => ?_⟩
  rw [hl.vector_set, BrokerKind.ofVector_vector, hl.parser]
  have hlist := parseGenericList_reads hl.pos hpack hread e h
  rw [← hl.get_set ⟨.null, false⟩ { m with vector := kind.vector }] at hlist
  refine { hlist with msg := ?_ }
  have hmsg := congrArg (fun x => (set x.1 (set ⟨.null, false⟩ { m with vector := kind.vector }), x.2))
    hlist.msg
  exact hmsg.trans (by simp only [hl.set_set])

theorem length_packDynamicUidMapping (x : RdmnetDynamicUidMapping) :
    (packDynamicUidMapping x).length = dynamicUidMappingSize := by
  simp [packDynamicUidMapping, packUid]

theorem unpackDynamicUidMapping_pack (x : RdmnetDynamicUidMapping) (e : Bytes) :
    unpackDynamicUidMapping (packDynamicUidMapping x ++ e) = x := by
  have h6 : (packUid x.uid).length = 6 := rfl
  have h22 : (packUid x.uid ++ x.rid.toList).length = 22 := by simp [packUid]
  have hrid : vecAt 16 (packDynamicUidMapping x ++ e) 6 = x.rid := by
    rw [packDynamicUidMapping, append_assoc, append_assoc, vecAt_skip (le_of_eq h6), h6, Nat.sub_self, vecAt_pack]
  have hcode : u16At (packDynamicUidMapping x ++ e) 22 = x.statusCode := by
    rw [packDynamicUidMapping, append_assoc, u16At_skip (le_of_eq h22), h22, Nat.sub_self, u16At_pack]
  simp only [unpackDynamicUidMapping, hrid, hcode]
  simp only [packDynamicUidMapping, unpackUid, packUid, append_assoc, u32At_behind_u16, u16At_pack, u32At_pack]

theorem uidAssignments_hasList : HasList pal .assignedDynamicUids dynamicUidMappingSize unpackDynamicUidMapping
    (·.dynamicUidAssignmentList) (fun l m => { m with dynamicUidAssignmentList := l }) where
  pos := by decide
  init m n hn := by
    exact if_pos hn
  parser := rfl
  vector_set _ _ := rfl
  get_set _ _ := rfl
  set_set _ _ _ := rfl

include hpal hpk in
theorem uidAssignmentList_delivered {mappings : List RdmnetDynamicUidMapping} :
    (Outgoing.uidAssignmentList buflen mappings).Carried pal cid := by
  intro hne hlen
  have hguard : ¬ (buflen < 44 ∨ mappings = []) := fun h => hne (if_pos h)
  have hbytes := hne
  simp only [Outgoing.bytes, rcBrokerPackUidAssignmentList, if_neg hguard] at hbytes
  exact Outgoing.delivered_pack hpal hpk
    (length_flatMap_of_size length_packDynamicUidMapping mappings) hlen
    ((if_neg hguard).trans (packBehind_each hbytes)) (by omega) fun m =>
    ⟨_, uidAssignments_hasList.reads id length_packDynamicUidMapping unpackDynamicUidMapping_pack
      (fun h => hguard (.inr h)) m.broker, ⟨rfl, rfl, rfl⟩, by rw [map_id]; exact Arr.holds_pushAll mappings⟩

theorem length_packUid (x : RdmUid) : (packUid x).length = fetchUidSize := rfl

theorem unpackUid_pack (x : RdmUid) (e : Bytes) : unpackUid (packUid x ++ e) = x := by
  simp only [unpackUid, packUid, append_assoc, u32At_behind_u16, u16At_pack, u32At_pack]

theorem fetchUids_hasList : HasList pal .fetchDynamicUidList fetchUidSize unpackUid
    (·.fetchUidAssignmentList) (fun l m => { m with fetchUidAssignmentList := l }) where
  pos := by decide
  init m n hn := by
    exact if_pos hn
  parser := rfl
  vector_set _ _ := rfl
  get_set _ _ := rfl
  set_set _ _ _ := rfl

include hpal hpk in
theorem fetchUidAssignmentList_delivered {uids : List RdmUid} :
    (Outgoing.fetchUidAssignmentList uids).Carried pal cid := by
  intro hne hlen
  have huids : uids ≠ [] := by
    rintro rfl
    exact hne rfl
  exact Outgoing.delivered_send hpal hpk (length_flatMap_of_size length_packUid uids) hlen
    (congrArg (Option.getD · []) (if_neg huids)) hne le_rfl fun m =>
    ⟨_, fetchUids_hasList.reads id length_packUid unpackUid_pack huids m.broker, ⟨rfl, rfl, rfl⟩,
      by rw [map_id]; exact Arr.holds_pushAll uids⟩

theorem unpackDynamicUidRequest_pack {manufacturerId : UInt16} (h : manufacturerId < 0x8000)
    (rid : Uuid) (e : Bytes) : unpackDynamicUidRequest (packDynamicUidRequest manufacturerId rid ++ e) =
      ⟨manufacturerId, rid⟩ := by
  have h6 : (packU16 (manufacturerId ||| 0x8000) ++ packU32 0).length = 6 := rfl
  have hrid : vecAt 16 (packDynamicUidRequest manufacturerId rid ++ e) 6 = rid := by
    rw [packDynamicUidRequest, append_assoc, vecAt_skip (le_of_eq h6), h6, Nat.sub_self, vecAt_pack]
  have hmanu : u16At (packDynamicUidRequest manufacturerId rid ++ e) 0 = manufacturerId ||| 0x8000 := by
    simp only [packDynamicUidRequest, append_assoc, u16At_pack]
  have hmask : (manufacturerId ||| 0x8000) &&& 0x7fff = manufacturerId := by
    have hlt : manufacturerId.toNat < 2 ^ 15 := h
    apply UInt16.toNat.inj
    have hor : manufacturerId.toNat ||| 32768 = 32768 + manufacturerId.toNat := by
      rw [Nat.or_comm]
      exact (Nat.two_pow_add_eq_or_of_lt hlt 1).symm
    have hand := Nat.and_two_pow_sub_one_eq_mod (32768 + manufacturerId.toNat) 15
    show (manufacturerId.toNat ||| 32768) &&& (2 ^ 15 - 1) = _
    rw [hor, hand]
    omega
  simp only [unpackDynamicUidRequest, hrid, hmanu, hmask]

theorem length_packDynamicUidRequest (manufacturerId : UInt16) (rid : Uuid) :
    (packDynamicUidRequest manufacturerId rid).length = dynamicUidRequestPairSize := by
  simp [packDynamicUidRequest]

theorem uidRequests_hasList : HasList pal .requestDynamicUids dynamicUidRequestPairSize unpackDynamicUidRequest
    (·.dynamicUidRequestList) (fun l m => { m with dynamicUidRequestList := l }) where
  pos := by decide
  init m n hn := by
    exact if_pos hn
  parser := rfl
  vector_set _ _ := rfl
  get_set _ _ := rfl
  set_set _ _ _ := rfl

include hpal hpk in
theorem requestDynamicUids_delivered {manufacturerId : UInt16} {rids : List Uuid}
    (hvalid : manufacturerId < 0x8000) : (Outgoing.requestDynamicUids manufacturerId rids).Carried pal cid := by
  intro hne hlen
  have hrids : rids ≠ [] := by
    rintro rfl
    exact hne rfl
  exact Outgoing.delivered_send hpal hpk
    (length_flatMap_of_size (length_packDynamicUidRequest manufacturerId) rids) hlen
    (congrArg (Option.getD · []) (if_neg hrids)) hne le_rfl fun m =>
    ⟨_, uidRequests_hasList.reads (BrokerDynamicUidRequest.mk manufacturerId)
      (length_packDynamicUidRequest manufacturerId) (unpackDynamicUidRequest_pack hvalid) hrids
      m.broker, ⟨rfl, rfl, rfl⟩, Arr.holds_pushAll _⟩

def BrokerKind.ListsClients (k : BrokerKind) : Prop :=
  k = .connectedClientList ∨ k = .clientAdd ∨ k = .clientRemove ∨ k = .clientEntryChange

include hpal hpk in
theorem clients_read {kind : BrokerKind} (hkind : kind.ListsClients)
    {clientEntries : List RptClientEntry} (h : clientEntries ≠ [])
    (hshort : clientEntries.length * 46 < 1048576) (m : BrokerMessage) :
    BrokerReads pal kind.vector (clientEntries.length * 46) (clientEntries.flatMap (packRptClientEntry pal)) m
      { m with
        vector := kind.vector
        clientList := ⟨kClientProtocolRPT,
          ⟨Arr.null.pushAll (clientEntries.map RptClientEntry.onWire), false⟩⟩ } := by
  have hlist := parseClientList_reads hpal hpk clientEntries h hshort
  have hinit : initializeBrokerMessage { m with vector := kind.vector }
      (clientEntries.length * 46) =
      ({ (default : BrokerData) with clientList := .between (clientEntries.length * 46) 0 }, { m with
          vector := kind.vector
          clientList := ⟨kClientProtocolUnknown, ⟨.null, false⟩⟩ }) := by
    rcases hkind with rfl | rfl | rfl | rfl <;> rfl
  refine ⟨_, _, hinit, fun e => ?_⟩
  rw [BrokerKind.ofVector_vector]
  have hmsg := congrArg (fun x => ({ m with vector := kind.vector, clientList := x.1 }, x.2))
    (hlist e).msg
  rcases hkind with rfl | rfl | rfl | rfl <;>
    exact ⟨(hlist e).res, (hlist e).used, hmsg, (hlist e).sound⟩

include hpal hpk in
theorem rptClientList_delivered {vector : UInt16} {clientEntries : List RptClientEntry} :
    (Outgoing.rptClientList buflen vector clientEntries).Carried pal cid := by
  intro hne hlen
  have hguard : ¬ (buflen < 44 ∨ clientEntries = [] ∨
      (vector ≠ BrokerKind.connectedClientList.vector ∧ vector ≠ BrokerKind.clientAdd.vector ∧
        vector ≠ BrokerKind.clientRemove.vector ∧
        vector ≠ BrokerKind.clientEntryChange.vector)) := fun h => hne (if_pos h)
  have hentries : clientEntries ≠ [] := fun h => hguard (.inr (.inl h))
  obtain ⟨kind, rfl, hkind⟩ : ∃ k : BrokerKind, vector = k.vector ∧ k.ListsClients := by
    by_contra hno
    refine hguard (.inr (.inr ⟨fun h => hno ⟨_, h, .inl rfl⟩, fun h => hno ⟨_, h, .inr (.inl rfl)⟩,
      fun h => hno ⟨_, h, .inr (.inr (.inl rfl))⟩, fun h => hno ⟨_, h, .inr (.inr (.inr rfl))⟩⟩))
  have hbytes := hne
  simp only [Outgoing.bytes, rcBrokerPackRptClientList, if_neg hguard] at hbytes
  have hout : (Outgoing.rptClientList buflen kind.vector clientEntries).bytes pal cid = _ :=
    (if_neg hguard).trans (packBehind_each hbytes)
  have hdata : (clientEntries.flatMap (packRptClientEntry pal)).length =
      clientEntries.length * 46 :=
    length_flatMap_of_size (length_packRptClientEntry hpk) clientEntries
  have hshort : clientEntries.length * 46 < 1048576 := by
    have hlen' : 44 + (clientEntries.flatMap (packRptClientEntry pal)).length < 16 + 1048576 :=
      ((congrArg List.length hout).trans (packBroker_eq hpk (by omega) _).2) ▸ hlen
    omega
  exact Outgoing.delivered_pack hpal hpk hdata hlen hout (by omega) fun m =>
    ⟨_, clients_read hpal hpk hkind hentries hshort m.broker, ⟨rfl, rfl, rfl⟩, rfl, Arr.holds_pushAll _⟩

include hpal hpk in
theorem clientConnect_delivered {data : BrokerClientConnectMsg} :
    (Outgoing.clientConnect data).Carried pal cid := by
  intro hne hlen
  have hprot : ¬ data.clientEntry.clientProtocol ≠ kClientProtocolRPT := by
    intro h
    simp [Outgoing.bytes, rcBrokerSendClientConnect, if_pos h] at hne
  have hdata : (packClientConnectCommon data ++
      packRptClientEntry pal data.clientEntry.data).length = 343 := by
    rw [length_append, length_packClientConnectCommon, length_packRptClientEntry hpk]
    rfl
  have hbuf : acnRlpHeaderSizeExtLen ≤ clientConnectCommonFieldSize := by decide
  refine Outgoing.delivered_send hpal hpk hdata hlen (v := BrokerKind.connect.vector) ?_ hne hbuf
    fun m => ⟨{ m.broker with
      vector := BrokerKind.connect.vector
      clientConnect := { data with clientEntry := ⟨kClientProtocolRPT, data.clientEntry.data.onWire⟩ } },
      ⟨_, _, rfl, fun e => ?_⟩, ⟨rfl, rfl, rfl⟩,
      congrArg (fun p => { data with clientEntry := ⟨p, data.clientEntry.data.onWire⟩ })
        (not_not.mp hprot).symm⟩
  · refine congrArg (Option.getD · []) ((if_neg hprot).trans (congrArg (fun f => Option.map f _) ?_))
    funext header
    rw [not_not.mp hprot]
    simp only [packClientConnectCommon, packRptClientEntry, append_assoc]
    rfl
  · have hread := parseClientConnect_reads hpal hpk data m.broker.clientConnect e
    rw [append_assoc]
    exact { hread with msg := congrArg (fun x => ({ m.broker with
      vector := BrokerKind.connect.vector, clientConnect := x }, Heap.plenty)) hread.msg }

variable {cmds : List RdmBuffer}

include hpk in
theorem length_flatMap_packRdmCmdPdu (h : ∀ cmd ∈ cmds, IsRdmCmd cmd) :
    (cmds.flatMap (packRdmCmdPdu pal)).length = (cmds.map rdmCmdPduLen).sum := by
  rw [length_flatMap]
  congr 1
  exact map_congr_left fun cmd hcmd => length_packRdmCmdPdu hpk (h cmd hcmd)

include hpk in
theorem length_rdmCommands (h : ∀ cmd ∈ cmds, IsRdmCmd cmd) (w : UInt32) :
    (packRequestNotifHeader pal (calcNotificationPduSize cmds) w ++
      cmds.flatMap (packRdmCmdPdu pal)).length = calcNotificationPduSize cmds := by
  rw [length_append, length_packRequestNotifHeader hpk, length_flatMap_packRdmCmdPdu hpk h]
  rfl

def RptKind.ListsRdm (v : UInt32) : Prop :=
  v = vectorRptRequest ∨ v = vectorRptNotification

variable {header : RptHeader}

include hpal hpk in
theorem rdmCommands_read {v w : UInt32}
    (hv : RptKind.ListsRdm v) (hw : w = vectorRequestRdmCmd ∨ w = vectorNotificationRdmCmd)
    (hne : cmds ≠ []) (hcmds : ∀ cmd ∈ cmds, IsRdmCmd cmd)
    (hshort : calcNotificationPduSize cmds < 1048576) (m : RptMessage) :
    RptReads pal v header (calcNotificationPduSize cmds)
      (packRequestNotifHeader pal (calcNotificationPduSize cmds) w ++ cmds.flatMap (packRdmCmdPdu pal)) m
      { m with vector := v, header := header, rdm := ⟨Arr.null.pushAll cmds, false⟩ } := by
  have hread := fun e => parseRdmList_reads hpal hpk hne hcmds hshort hw e
  have hmin : calcNotificationPduSize cmds ≥ requestNotifPduHeaderSize := Nat.le_add_right _ _
  have hinit : initializeRptMessage { m with vector := v, header := header }
      (calcNotificationPduSize cmds) =
      ({ (default : RptData) with rdmList := ⟨false, .start (calcNotificationPduSize cmds)⟩ },
        { m with vector := v, header := header, rdm := ⟨.null, false⟩ }) := by
    rcases hv with rfl | rfl <;> exact if_pos hmin
  refine ⟨_, _, hinit, fun e => ?_⟩
  rw [append_assoc]
  have hmsg := congrArg (fun x => ({ m with
    vector := v, header := header, rdm := x.1 }, x.2)) (hread e).msg
  rcases hv with rfl | rfl <;> exact ⟨(hread e).res, (hread e).used, hmsg, (hread e).sound⟩

include hpal hpk in
theorem Outgoing.delivered_rdm {v w : UInt32} (hv : RptKind.ListsRdm v)
    (hw : w = vectorRequestRdmCmd ∨ w = vectorNotificationRdmCmd) (hbuf : 39 ≤ buflen)
    (hne : cmds ≠ []) (hcmds : ∀ cmd ∈ cmds, IsRdmCmd cmd)
    (hlen : (x.bytes pal cid).length < acnTcpPreambleSize + 1048576)
    (hbytes : x.bytes pal cid = packBehind (packRptHeaderWithRlp pal
      (rptRlp cid (28 + calcNotificationPduSize cmds)) buflen v header)
      (some (packRequestNotifHeader pal (calcNotificationPduSize cmds) w ++
        cmds.flatMap (packRdmCmdPdu pal)))) (harr : ∀ m, x.Arrives cid { (m : RdmnetMessage) with
      vector := acnVectorRootRpt
      senderCid := cid
      rpt := { m.rpt with
        vector := v, header := header, rdm := ⟨Arr.null.pushAll cmds, false⟩ } }) :
    x.Delivered pal cid := by
  have hdata := length_rdmCommands hpk hcmds w
  have hshort : calcNotificationPduSize cmds < 1048576 := by
    have hlen' : 67 + (packRequestNotifHeader pal (calcNotificationPduSize cmds) w ++
        cmds.flatMap (packRdmCmdPdu pal)).length < 16 + 1048576 :=
      ((congrArg List.length hbytes).trans (packRpt_eq hpk hbuf _).2) ▸ hlen
    omega
  exact Outgoing.delivered_rpt hpal hpk hdata hlen hbytes hbuf fun m =>
    ⟨_, rdmCommands_read hpal hpk hv hw hne hcmds hshort m.rpt, harr m⟩

include hpal hpk in
theorem notification_delivered (hvalid : ∀ cmd ∈ cmds, IsRdmCmd cmd) :
    (Outgoing.notification buflen header cmds).Carried pal cid := by
  intro hne hlen
  have hguard : ¬ (cmds = [] ∨ buflen < 67 + calcNotificationPduSize cmds) :=
    fun h => hne (if_pos h)
  exact Outgoing.delivered_rdm hpal hpk (.inr rfl) (.inr rfl) (by omega)
    (fun h => hguard (.inl h)) hvalid hlen (if_neg hguard) fun m =>
    ⟨⟨rfl, rfl, rfl, rfl⟩, Arr.holds_pushAll _⟩

include hpal hpk in
theorem request_delivered {cmd : RdmBuffer} (hvalid : IsRdmCmd cmd) :
    (Outgoing.request buflen header cmd).Carried pal cid := by
  intro hne hlen
  have hguard : ¬ buflen < 67 + calcRequestPduSize cmd := fun h => hne (if_pos h)
  have hbytes : (Outgoing.request buflen header cmd).bytes pal cid = _ := if_neg hguard
  -- a request is packed like a notification of one command
  have hsize : calcRequestPduSize cmd = calcNotificationPduSize [cmd] := by
    simp [calcRequestPduSize, calcNotificationPduSize]
  have hone : packRdmCmdPdu pal cmd = [cmd].flatMap (packRdmCmdPdu pal) := by simp
  rw [hsize, hone] at hbytes
  exact Outgoing.delivered_rdm hpal hpk (.inl rfl) (.inl rfl) (by omega)
    (cons_ne_nil _ _) (by simpa using hvalid) hlen hbytes fun m =>
    ⟨⟨rfl, rfl, rfl, rfl⟩, Arr.holds_pushAll _⟩

include hpal hpk in
theorem status_delivered {sent : RptStatusMsg} (hvalid : (Outgoing.status buflen header sent).Valid) :
    (Outgoing.status buflen header sent).Carried pal cid := by
  intro hne hlen
  have hguard : ¬ buflen < 67 + calcStatusPduSize sent := fun h => hne (if_pos h)
  -- the string ends at its first NUL, and has none
  have hchars : sent.chars = sent.statusString.getD [] := by
    rw [RptStatusMsg.chars, takeWhile_eq_self_iff]
    intro x hx
    rcases hvalid with ⟨-, hnone⟩ | ⟨-, hstr⟩
    · rw [hnone] at hx
      cases hx
    · cases hs : sent.statusString with
      | none => rw [hs] at hx; cases hx
      | some str =>
        rw [hs] at hx
        have hzero : x ≠ 0 := fun h => (hstr str hs).2 (h ▸ hx)
        simpa using hzero
  have hkind : ofCode sent.statusCode = .bare ∧ sent.chars = [] ∨
      ofCode sent.statusCode = .withString ∧
        sent.chars.length ≤ rptStatusStringMaxlen := by
    rw [hchars]
    rcases hvalid with ⟨hk, hnone⟩ | ⟨hk, hstr⟩
    · exact .inl ⟨hk, by rw [hnone]; rfl⟩
    · refine .inr ⟨hk, ?_⟩
      cases hs : sent.statusString with
      | none => exact zero_le
      | some str => exact (hstr str hs).1
  have harrives : (if sent.chars = [] then none else some sent.chars) =
      sent.statusString.filter (!·.isEmpty) := by
    rw [hchars]
    cases sent.statusString with
    | none => rfl
    | some str => cases str <;> rfl
  have hdata : (pal.acnPduPackExtLen (calcStatusPduSize sent) ++ packU16 sent.statusCode ++
      sent.chars).length = calcStatusPduSize sent := by
    rw [length_append, length_append, hpk.extLen_length]
    rfl
  have hmin : calcStatusPduSize sent ≥ rptStatusHeaderSize := Nat.le_add_right _ _
  refine Outgoing.delivered_rpt hpal hpk hdata hlen (if_neg hguard) (by omega) fun m =>
    ⟨{ m.rpt with
        vector := vectorRptStatus, header := header
        status := ⟨sent.statusCode, sent.statusString.filter (!·.isEmpty)⟩ },
      ⟨_, _, if_pos hmin, fun e => ?_⟩, ⟨rfl, rfl, rfl, rfl⟩, rfl⟩
  have hread := parseRptStatus_reads hpal hpk hkind m.rpt.status e
  rw [harrives] at hread
  rw [append_assoc, append_assoc]
  exact { hread with msg := congrArg (fun x => ({ m.rpt with
    vector := vectorRptStatus, header := header, status := x.1 }, x.2)) hread.msg }

include hpal hpk in
/-- **Every message of the library is delivered as it was packed.** -/
theorem Outgoing.delivered {x : Outgoing} (hvalid : x.Valid) (hne : x.bytes pal cid ≠ [])
    (hlen : (x.bytes pal cid).length < acnTcpPreambleSize + 1048576) : x.Delivered pal cid := by
  cases x with
  | connectReply => exact connectReply_delivered hpal hpk hne hlen
  | rptClientList => exact rptClientList_delivered hpal hpk hne hlen
  | uidAssignmentList => exact uidAssignmentList_delivered hpal hpk hne hlen
  | disconnect => exact disconnect_delivered hpal hpk hne hlen
  | null => exact null_delivered hpal hpk hne hlen
  | request => exact request_delivered hpal hpk hvalid hne hlen
  | notification => exact notification_delivered hpal hpk hvalid hne hlen
  | status => exact status_delivered hpal hpk hvalid hne hlen
  | clientConnect => exact clientConnect_delivered hpal hpk hne hlen
  | fetchClientList => exact fetchClientList_delivered hpal hpk hne hlen
  | requestDynamicUids => exact requestDynamicUids_delivered hpal hpk hvalid hne hlen
  | fetchUidAssignmentList => exact fetchUidAssignmentList_delivered hpal hpk hne hlen

end Kinds

/-! ### Streams of messages -/

theorem Event.Sound.harmless {x : Event} (h : x.Sound) : x.Harmless := by
  obtain ⟨hmeets, hcut⟩ := h
  refine ⟨?_, fun hheld => hcut ?_⟩
  · cases x <;> first | exact trivial | exact hmeets | exact fun h => (nomatch h) | skip
    case rdmHeader => exact ⟨hmeets.1, fun h => (nomatch h)⟩
  · cases x <;> exact hheld

def packAll (pal : EtcPal) (xs : List (Uuid × Outgoing)) : Bytes :=
  xs.flatMap fun x => x.2.bytes pal x.1

/-- The message was packed, and no PDU in it is too long for its length field. -/
def Packed (pal : EtcPal) (x : Uuid × Outgoing) : Prop :=
  x.2.Valid ∧ x.2.bytes pal x.1 ≠ [] ∧
    (x.2.bytes pal x.1).length < acnTcpPreambleSize + 1048576

theorem drains_packed (hpal : pal.Lawful) (hpk : pal.Packs) :
    ∀ (xs : List (Uuid × Outgoing)) (m : RdmnetMessage), (∀ x ∈ xs, Packed pal x) →
      ∃ m' os lg, BufDrains pal rcMsgBufInit (m, .plenty) (packAll pal xs) rcMsgBufInit
          (m', .plenty) [] os lg ∧ (∀ x ∈ lg, x.Harmless) ∧
        List.Forall₂ (fun x o => x.2.Arrives x.1 o) xs (os.map Prod.fst) := by
  intro xs
  induction xs with
  | nil =>
    intro m _
    exact ⟨m, [], [], Drains.wait_of (rcMsgBufParseData_nil _) rfl, by simp, List.Forall₂.nil⟩
  | cons x xs ih =>
    intro m hxs
    obtain ⟨hvalid, hne, hlen⟩ := hxs x (mem_cons_self ..)
    obtain ⟨m1, hdel, harr⟩ := Outgoing.delivered hpal hpk hvalid hne hlen m
    obtain ⟨lg1, hcall, hsound⟩ := hdel (packAll pal xs)
    obtain ⟨m', os, lg, hd, hlg, hall⟩ := ih (rcFreeMessageResources m1)
      fun y hy => hxs y (mem_cons_of_mem _ hy)
    have hbytes : packAll pal (x :: xs) = x.2.bytes pal x.1 ++ packAll pal xs := flatMap_cons
    have hdrop : (x.2.bytes pal x.1 ++ packAll pal xs).drop (x.2.bytes pal x.1).length =
        packAll pal xs := drop_left
    rw [← hdrop] at hd
    refine ⟨m', (m1, .plenty) :: os, lg1 ++ lg, ?_, ?_, List.Forall₂.cons harr hall⟩
    · rw [hbytes]
      exact .emit_of hcall (fun h => (nomatch h)) rfl hd
    · intro y hy
      exact (mem_append.mp hy).elim (fun h => (hsound y h).harmless) (hlg y)

/-- **What is packed is received**: a stream of packed messages is delivered message by message,
in whatever chunks it arrives. -/
theorem receives_packed (hpal : pal.Lawful) (hpk : pal.Packs) (m : RdmnetMessage)
    (xs : List (Uuid × Outgoing)) (hxs : ∀ x ∈ xs, Packed pal x) (cs : List Bytes)
    (hcs : cs.flatten = packAll pal xs) (hfit : ChunksFit pal m cs) :
    ∃ os, (∀ os', Receives pal m cs os' ↔ os' = os) ∧ List.Forall₂ (fun x o => x.2.Arrives x.1 o) xs os := by
  obtain ⟨m', os, lg, hd, hlg, hall⟩ := drains_packed hpal hpk xs m hxs
  exact ⟨os.map Prod.fst, BufDrains.receives hpal hd hlg hcs hfit, hall⟩

def samplePacked : List (Uuid × Outgoing) :=
  [(default, .null 44), (default, .status 76 default ⟨1, some [0x6e, 0x6f]⟩)]

theorem receives_packed_sample :
    let cs := [(packAll EtcPal.reference samplePacked).take 50,
      (packAll EtcPal.reference samplePacked).drop 50]
    ∃ os, (∀ os', Receives EtcPal.reference default cs os' ↔ os' = os) ∧
      List.Forall₂ (fun x o => x.2.Arrives x.1 o) samplePacked os := by
  intro cs
  have hcs : cs.flatten = packAll EtcPal.reference samplePacked := by decide +kernel
  refine receives_packed EtcPal.reference_lawful EtcPal.reference_packs default samplePacked ?_ cs
    hcs (chunksFit_of_short (by rw [hcs]; decide +kernel))
  intro x hx
  rcases mem_cons.mp hx with rfl | hx
  · exact ⟨trivial, by decide +kernel, by decide +kernel⟩
  · rw [mem_singleton.mp hx]
    refine ⟨.inr ⟨by decide, ?_⟩, by decide +kernel, by decide +kernel⟩
    rintro str ⟨⟩
    exact ⟨by decide, by decide⟩

def sampleEmptyString : Outgoing := .status 72 default ⟨1, some []⟩

/-- It arrives without a string. -/
theorem receives_emptyString : sampleEmptyString.Valid ∧
    Receives EtcPal.reference default [sampleEmptyString.bytes EtcPal.reference default]
      [{ (default : RdmnetMessage) with
          vector := acnVectorRootRpt
          rpt := { (default : RptMessage) with vector := vectorRptStatus, status := ⟨1, none⟩ } }] := by
  refine ⟨.inr ⟨by decide, ?_⟩, Receives.of_feed 3 (by decide +kernel)⟩
  rintro str ⟨⟩
  exact ⟨by decide, by decide⟩

end RDMnet
