import RDMnet.MsgBuf.Parse

/-!
# What is logged

The parsers of a PDU's data look for no header of a PDU, and every length that they or the layers
read from a length field has 20 bits; the size of an entry's data is computed from such a length.
-/

namespace RDMnet

open Out List Layer RDMnet.Parser

variable {pal : EtcPal}

def Event.isHeader : Event → Bool
  | .pduHeader _ _ => true
  | _ => false

/-- The size of the entry's data is computed from the length of its PDU. -/
def ClientEntryState.HasDataOf (entry : ClientEntryState) (pduLen : Nat) : Prop :=
  entry.entryData.blockSize = sizeSub pduLen clientEntryHeaderSize

def Event.Short : Event → Prop
  | .entryHeader pduLen entry => pduLen < 1048576 ∧ entry.HasDataOf pduLen
  | .listEntry pduLen _ entry => pduLen < 1048576 ∧ entry.HasDataOf pduLen
  | .rdmCmd pduLen _ _ => pduLen < 1048576
  | _ => True

def Event.FromData (x : Event) : Prop := x.isHeader = false ∧ x.Short

/-! ### The data of a PDU -/

abbrev OfData {σ μ ρ : Type} (o : Out σ μ ρ Event) : Prop := o.Clean Event.FromData

theorem fixedData_logs {σ μ : Type} (size : Nat) (read : Bytes → μ → μ) (s : σ) (m : μ)
    (d : Bytes) : OfData (fixedData size read s m d) := by
  intro x hx
  simp only [fixedData] at hx
  split_ifs at hx <;> cases hx

theorem parseGenericList_logs {α : Type} (size : Nat) (unpack : Bytes → α)
    (s : GenericListState) (m : MsgList α × Heap) (d : Bytes) : OfData (parseGenericList size unpack s m d) := by
  refine iterate_clean (fun s m d x hx => ?_) s m d
  simp only [genericListRound] at hx
  split_ifs at hx <;> simp only [mem_singleton, not_mem_nil] at hx <;>
    exact hx ▸ ⟨rfl, trivial⟩

section Entry

variable {μ : Type} {setProtocol : UInt32 → μ → μ}
  {modifyEntry : (RptClientEntry → RptClientEntry) → μ → μ}

theorem parseSingleClientEntry_logs (hpal : pal.Lawful) (s : ClientEntryState) (m : μ) (d : Bytes) :
    OfData (parseSingleClientEntry pal setProtocol modifyEntry s m d) := by
  have hh : OfData (clientEntryHeader pal modifyEntry s m d) := by
    intro x hx
    simp only [clientEntryHeader] at hx
    split_ifs at hx <;> simp only [mem_singleton, not_mem_nil] at hx <;>
      exact hx ▸ ⟨rfl, hpal.length_lt d, rfl⟩
  simp only [parseSingleClientEntry, clientEntryData]
  split_ifs <;> exact hh

theorem afterEntry_logs {s : ClientConnectState} {dataLen n : Nat}
    {c : Out ClientEntryState μ ParseRes Event} (hc : OfData c) : OfData (afterEntry s dataLen n c) := by
  have htail : ∀ x ∈ entryTail c, x.FromData := by
    intro x hx
    unfold entryTail at hx
    split at hx <;> simp only [mem_singleton, not_mem_nil] at hx <;>
      exact hx ▸ ⟨rfl, trivial⟩
  simp only [afterEntry]
  split_ifs
  · exact forall_mem_append.mpr ⟨hc, forall_mem_cons.mpr ⟨⟨rfl, trivial⟩, htail⟩⟩
  · exact forall_mem_append.mpr ⟨hc, forall_mem_singleton.mpr ⟨rfl, trivial⟩⟩

theorem parseCommonAndEntry_logs (hpal : pal.Lawful) (n : Nat) (common : Bytes → μ → μ)
    (s : ClientConnectState) (m : μ) (d : Bytes) :
    OfData (parseCommonAndEntry pal setProtocol modifyEntry n common s m d) := by
  simp only [parseCommonAndEntry]
  split_ifs
  · exact fun x hx => by cases hx
  · exact afterEntry_logs (parseSingleClientEntry_logs hpal _ _ _)
  · exact afterEntry_logs (parseSingleClientEntry_logs hpal _ _ _)

end Entry

theorem rptClientListEntry_logs (hpal : pal.Lawful) (s : ClientListState)
    (m : MsgList RptClientEntry × Heap) (d : Bytes) : OfData (rptClientListEntry pal s m d) := by
  have hc : OfData (parseLastClientEntry pal s.entry m d) :=
    parseSingleClientEntry_logs hpal _ _ _
  have hlog : ∀ b, ∀ x ∈ (parseLastClientEntry pal s.entry m d).log ++ [.check b], x.FromData :=
    fun b => forall_mem_append.mpr ⟨hc, forall_mem_singleton.mpr ⟨rfl, trivial⟩⟩
  simp only [rptClientListEntry]
  split_ifs
  · simp only [rptClientListNext]
    split <;> exact hlog true
  · exact hlog false

theorem rptClientListRound_logs (hpal : pal.Lawful) (total : Nat) (s : ClientListState)
    (m : MsgList RptClientEntry × Heap) (d : Bytes) : OfData (rptClientListRound pal total s m d) := by
  have hroom : ∀ n, Event.FromData (.listRoom n) := fun _ => ⟨rfl, trivial⟩
  have hentry : ∀ n, Event.FromData (.listEntry (pal.acnPduLength d) n
      ((ClientEntryState.start s.block.blockSize).known (u32At d 3) (pal.acnPduLength d))) :=
    fun _ => ⟨rfl, hpal.length_lt d, rfl⟩
  have hcheck : Event.FromData (.check false) := ⟨rfl, trivial⟩
  have htouch : Event.FromData .touchFreed := ⟨rfl, trivial⟩
  have hforeign : ∀ n k j, Event.FromData (.foreignEntry n k j) := fun _ _ _ => ⟨rfl, trivial⟩
  have halloc : ∀ b, Event.FromData (.alloc b) := fun _ => ⟨rfl, trivial⟩
  have hlog : ∀ x : Event, x.FromData → ∀ n n',
      ∀ y ∈ [.listRoom n, .listEntry (pal.acnPduLength d) n' ((ClientEntryState.start
        s.block.blockSize).known (u32At d 3) (pal.acnPduLength d))] ++ [x], y.FromData :=
    fun x hx n n' => forall_mem_append.mpr ⟨forall_mem_cons.mpr
      ⟨hroom n, forall_mem_singleton.mpr (hentry n')⟩, forall_mem_singleton.mpr hx⟩
  simp only [rptClientListRound]
  split_ifs
  · exact forall_mem_singleton.mpr hcheck
  · exact forall_mem_singleton.mpr htouch
  · exact rptClientListEntry_logs hpal _ _ _
  · exact forall_mem_singleton.mpr (hroom _)
  · exact forall_mem_cons.mpr ⟨hroom _, forall_mem_singleton.mpr (hforeign _ _ _)⟩
  · exact hlog _ htouch _ _
  · exact clean_since.mpr ⟨hlog _ (halloc _) _ _, rptClientListEntry_logs hpal _ _ _⟩
  · exact hlog _ (halloc _) _ _
  · exact hlog _ (halloc _) _ _
  · exact fun x hx => by cases hx

theorem parseClientList_logs (hpal : pal.Lawful) (s : ClientListState) (m : BrokerClientList × Heap)
    (d : Bytes) : OfData (parseClientList pal s m d) := by
  have hlist : ∀ s m d, OfData (parseRptClientList pal s m d) := by
    intro s m d
    simp only [parseRptClientList]
    split_ifs <;> exact iterate_clean (rptClientListRound_logs hpal d.length) s m d
  simp only [parseClientList]
  split_ifs
  all_goals first
    | refine forall_mem_append.mpr ⟨?_, hlist _ _ _⟩
    | unfold OfData Clean
  all_goals simp [Event.FromData, Event.isHeader, Event.Short]

theorem parseRdmList_logs (hpal : pal.Lawful) (s : RdmListState) (m : MsgList RdmBuffer × Heap)
    (d : Bytes) : OfData (parseRdmList pal s m d) := by
  have hround : ∀ s m d, OfData (rdmListRound pal s m d) := by
    intro s m d
    have hlen := hpal.length_lt d
    simp only [rdmListRound]
    split_ifs <;> simp [OfData, Clean, Event.FromData, Event.isHeader, Event.Short, hlen]
  have hdata : ∀ s m d, OfData (rdmListData pal s m d) := by
    intro s m d
    simp only [rdmListData]
    split_ifs
    · exact fun x hx => by cases hx
    · exact iterate_clean hround s m d
  simp only [parseRdmList]
  split_ifs
  · exact hdata _ _ _
  · exact fun x hx => by cases hx
  · exact clean_since.mpr ⟨forall_mem_singleton.mpr ⟨rfl, trivial⟩, hdata _ _ _⟩
  · exact forall_mem_singleton.mpr ⟨rfl, trivial⟩

theorem parseRptStatus_logs (s : Pdu Unit) (m : RptStatusMsg × Heap) (d : Bytes) :
    OfData (parseRptStatus pal s m d) := by
  have hstart : (statusLayer pal |>.start s m d).log = [] := by
    simp only [start, statusLayer]
    split_ifs <;> rfl
  have hdata : ∀ o : Out (Pdu Unit) (RptStatusMsg × Heap) ParseRes Event, o.log = [] →
      OfData (statusData d o) := by
    intro o ho
    simp only [statusData, ho]
    cases StatusKind.ofCode o.msg.1.statusCode <;> simp only <;> (try split_ifs) <;>
      simp [OfData, Clean, Event.FromData, Event.isHeader, Event.Short]
  simp only [parseRptStatus]
  split_ifs
  · exact hdata _ hstart
  · exact fun x hx => by rw [hstart] at hx; cases hx

theorem brokerDataParser_logs (hpal : pal.Lawful) (k : BrokerKind) (s : BrokerData)
    (m : BrokerMessage × Heap) (d : Bytes) : OfData (brokerDataParser pal k s m d) := by
  cases k
  case connect | clientEntryUpdate => exact parseCommonAndEntry_logs hpal _ _ _ _ _
  case requestDynamicUids | assignedDynamicUids | fetchDynamicUidList => exact parseGenericList_logs _ _ _ _ _
  case connectedClientList | clientAdd | clientRemove | clientEntryChange => exact parseClientList_logs hpal _ _ _
  case unknown => exact fun x hx => by cases hx
  all_goals exact fixedData_logs _ _ _ _ _

theorem rptDataParser_logs (hpal : pal.Lawful) (k : RptKind) (s : RptData) (m : RptMessage × Heap)
    (d : Bytes) : OfData (rptDataParser pal k s m d) := by
  cases k with
  | request | notification => exact parseRdmList_logs hpal _ _ _
  | status => exact parseRptStatus_logs _ _ _
  | unknown => exact fun x hx => by cases hx

/-! ### Layers -/

end RDMnet
