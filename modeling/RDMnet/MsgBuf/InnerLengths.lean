import RDMnet.MsgBuf.Commands
import RDMnet.MsgBuf.Logs

/-!
# Lengths of inner PDUs

The lengths that the parser takes from inside a message: those of RDM Command PDUs, which become the
`data_len` of an `RdmBuffer`, and those of Client Entry PDUs, from which the size of the entry's data
is computed.  Every buffer of a list that is handed out is a piece of the stream, whatever the stream
is like; `Event.Sized` is what the lengths must be like for its size to be that of an RDM packet and
for the size of an entry's data to be within its block.
-/

namespace RDMnet

open Out List Event ParseRes

variable {pal : EtcPal} {S : Bytes}

/-! ### What is asked of the lengths -/

/-- An RDM Command PDU that is not skipped has room for a packet; a Client Entry PDU has room for
its header and fits into what is left of the block around it. -/
def Event.Sized : Event → Prop
  | .rdmCmd pduLen blockSize _ =>
    blockSize < pduLen ∨ rdmCmdPduMaxSize < pduLen ∨ rdmCmdPduMinSize ≤ pduLen
  | .entryHeader pduLen entry =>
    clientEntryHeaderSize ≤ pduLen ∧ pduLen ≤ entry.enclosingBlockSize
  | .listEntry pduLen room _ => clientEntryHeaderSize ≤ pduLen ∧ pduLen ≤ room
  | _ => True

instance : DecidablePred Sized := fun e => by
  delta Sized
  rcases e with _ | _ <;> (dsimp only; infer_instance)

/-- The `block_size` that the data of the entry is given is the length of its PDU without the
header, as a number, and with the header it is within the `left` bytes of the block around the
entry. -/
def ClientEntryState.Fits (entry : ClientEntryState) (pduLen left : Nat) : Prop :=
  entry.entryData.blockSize + clientEntryHeaderSize = pduLen ∧
    entry.entryData.blockSize + clientEntryHeaderSize ≤ left

theorem ClientEntryState.HasDataOf.fits {entry : ClientEntryState} {n left : Nat}
    (hdata : entry.HasDataOf n) (hn : n < 1048576) (hmin : clientEntryHeaderSize ≤ n)
    (hle : n ≤ left) : entry.Fits n left := by
  have hsize : entry.entryData.blockSize + clientEntryHeaderSize = n := by
    rw [hdata, sizeSub_of_le hmin (by omega), Nat.sub_add_cancel hmin]
  exact ⟨hsize, hsize ▸ hle⟩

/-! ### RDM buffers -/

/-- The buffer holds an RDM Command PDU of the stream without its length field. -/
def CutFrom (pal : EtcPal) (S : Bytes) (buf : RdmBuffer) : Prop :=
  ∃ pre pdu post, S = pre ++ (pdu ++ post) ∧ pal.acnPduLength (pdu ++ post) = pdu.length ∧
    buf = pdu.drop 3 ∧ buf.length + 3 = pdu.length ∧ rdmMinBytes ≤ buf.length ∧
    buf.length ≤ rdmMaxBytes

theorem CutFrom.append (hpal : pal.Lawful) {buf : RdmBuffer} (h : CutFrom pal S buf) (c : Bytes) :
    CutFrom pal (S ++ c) buf := by
  obtain ⟨pre, pdu, post, rfl, hlen, rfl, h1, h2, h3⟩ := h
  refine ⟨pre, pdu, post ++ c, by simp, ?_, rfl, h1, h2, h3⟩
  rw [← append_assoc, hpal.length_append _ _ (by rw [length_append]; omega), hlen]

abbrev AllCut (pal : EtcPal) (S : Bytes) (l : MsgList RdmBuffer) : Prop :=
  ∀ buf ∈ l.items.toList, CutFrom pal S buf

abbrev EndOf (S d : Bytes) : Prop := d <:+ S

theorem EndOf.drop (d : Bytes) (n : Nat) (h : EndOf S d) : EndOf S (d.drop n) :=
  (drop_suffix n d).trans h

theorem cutFrom_take {d : Bytes} (hd : EndOf S d) (hle : pal.acnPduLength d ≤ d.length)
    (hmin : rdmCmdPduMinSize ≤ pal.acnPduLength d) (hmax : pal.acnPduLength d ≤ rdmCmdPduMaxSize) :
    CutFrom pal S ((d.drop 3).take (pal.acnPduLength d - 3)) := by
  obtain ⟨pre, rfl⟩ := hd
  have h29 : 29 ≤ pal.acnPduLength d := hmin
  have h260 : pal.acnPduLength d ≤ 260 := hmax
  have hlen : (d.take (pal.acnPduLength d)).length = pal.acnPduLength d := by
    rw [length_take]
    omega
  have hbuf : ((d.drop 3).take (pal.acnPduLength d - 3)).length = pal.acnPduLength d - 3 := by
    rw [length_take, length_drop]
    omega
  refine ⟨pre, d.take (pal.acnPduLength d), d.drop (pal.acnPduLength d), ?_, ?_, ?_, ?_, ?_, ?_⟩
  · rw [take_append_drop]
  · rw [take_append_drop, hlen]
  · rw [drop_take]
  · rw [hbuf, hlen]
    omega
  · rw [hbuf]
    show 26 ≤ _
    omega
  · rw [hbuf]
    show _ ≤ 257
    omega

theorem rdmListRound_cut : Keeping Sized (EndOf S) (fun r => ∃ x, r = some x ∧ x.Gives)
    (fun _ m => AllCut pal S m.1) (fun m => AllCut pal S m.1) (rdmListRound pal) := by
  intro s m d hd hm hc
  suffices h : AllCut pal S (rdmListRound pal s m d).msg.1 from ⟨h, fun _ => h⟩
  -- the rounds that take a command
  have htake : pal.acnPduLength d ≤ d.length →
      ¬ (pal.acnPduLength d > s.block.blockSize ∨ pal.acnPduLength d > rdmCmdPduMaxSize) →
      Sized (.rdmCmd (pal.acnPduLength d) s.block.blockSize s.block.room) →
      ∀ buf ∈ (m.1.items.push ((d.drop 3).take (pal.acnPduLength d - 3))).toList,
        CutFrom pal S buf := by
    intro hle hfits hsized buf hbuf
    have hmin : rdmCmdPduMinSize ≤ pal.acnPduLength d := by
      rcases hsized with h | h | h
      · omega
      · exact absurd (.inr h) hfits
      · exact h
    simp only [Arr.toList_push, mem_append, mem_singleton] at hbuf
    rcases hbuf with hbuf | rfl
    · exact hm buf hbuf
    · exact cutFrom_take hd hle hmin (by omega)
  simp only [rdmListRound] at hc ⊢
  split_ifs at hc ⊢ with h1 h2 h3 h4
  all_goals first
    | exact hm
    | exact htake (not_lt.mp h4) h3 (hc _ (by simp))

theorem rdmListData_cut : Keeping Sized (EndOf S) Gives
    (fun _ m => AllCut pal S m.1) (fun m => AllCut pal S m.1) (rdmListData pal) := by
  intro s m d hd hm hc
  simp only [rdmListData] at hc ⊢
  split_ifs at hc ⊢
  · exact ⟨hm, fun _ => hm⟩
  · exact (rdmListRound_cut.iterate EndOf.drop (by simp [Gives])) s m d hd hm hc

theorem parseRdmList_cut : Keeping Sized (EndOf S) Gives
    (fun _ m => AllCut pal S m.1) (fun m => AllCut pal S m.1) (parseRdmList pal) := by
  intro s m d hd hm hc
  simp only [parseRdmList] at hc ⊢
  split_ifs at hc ⊢
  · exact rdmListData_cut s m d hd hm hc
  · exact ⟨hm, fun _ => hm⟩
  · exact rdmListData_cut _ m _ (EndOf.drop d _ hd) hm (clean_since.mp hc).2
  · exact ⟨hm, fun _ => hm⟩

theorem listRule_cut : ListRule pal Sized (EndOf S) (AllCut pal S) (AllCut pal S) :=
  ⟨EndOf.drop, fun _ h => (nomatch h), parseRdmList_cut⟩

/-! ### Streams -/

/-- The states that are reached when the stream `S` has arrived, in chunks that each fit into the
buffer: `rc_msg_buf_parse_data` has been called any number of times, and messages that it handed out
have been released.  All events of the run are `ok`. -/
inductive ReachesBy (pal : EtcPal) (ok : Event → Prop) (heap : Heap) :
    Bytes → RCMsgBuf → RdmnetMessage × Heap → Bytes → Prop
  | init (m : RdmnetMessage) : ReachesBy pal ok heap [] rcMsgBufInit (m, heap) []
  | recv {S s m b c} : ReachesBy pal ok heap S s m b → FitsBuf b c →
      ReachesBy pal ok heap (S ++ c) s m (b ++ c)
  | parse {S s m b} : ReachesBy pal ok heap S s m b → (rcMsgBufParseData pal s m b).Clean ok →
      (rcMsgBufParseData pal s m b).res ≠ .stuck →
      ReachesBy pal ok heap S (rcMsgBufParseData pal s m b).st (rcMsgBufParseData pal s m b).msg
        (b.drop (rcMsgBufParseData pal s m b).used)
  | emit {S s m b} : ReachesBy pal ok heap S s m b → (rcMsgBufParseData pal s m b).Clean ok →
      (rcMsgBufParseData pal s m b).res = .ok →
      ReachesBy pal ok heap S (rcMsgBufParseData pal s m b).st
        (release (rcMsgBufParseData pal s m b).msg) (b.drop (rcMsgBufParseData pal s m b).used)

theorem BufHas.append_stream (hpal : pal.Lawful) {s : RCMsgBuf} {m : RdmnetMessage × Heap}
    (h : BufHas (AllCut pal S) s m) (c : Bytes) : BufHas (AllCut pal (S ++ c)) s m :=
  h.mono fun _ hcut buf hbuf => (hcut buf hbuf).append hpal c

theorem release_cut (s : RCMsgBuf) (m : RdmnetMessage × Heap) : BufHas (AllCut pal S) s (release m) := by
  refine release_commands (fun a more => ?_) s m
  cases a <;> exact fun buf hbuf => (nomatch hbuf)

/-- **The commands collected so far are cut from the stream** in every reachable state. -/
theorem ReachesBy.cut (hpal : pal.Lawful) {heap : Heap} {s : RCMsgBuf} {m : RdmnetMessage × Heap}
    {b : Bytes} (h : ReachesBy pal Sized heap S s m b) : EndOf S b ∧ BufHas (AllCut pal S) s m := by
  induction h with
  | init m => exact ⟨suffix_refl _, fun h => (nomatch h)⟩
  | recv _ _ ih =>
    obtain ⟨⟨pre, rfl⟩, hcut⟩ := ih
    exact ⟨⟨pre, by rw [append_assoc]⟩, hcut.append_stream hpal _⟩
  | parse _ hc _ ih => exact ⟨EndOf.drop _ _ ih.1, (rcMsgBufParseData_commands listRule_cut _ _ _ ih.1 ih.2 hc).1⟩
  | emit _ _ _ ih => exact ⟨EndOf.drop _ _ ih.1, release_cut _ _⟩

theorem ReachesBy.first {ok : Event → Prop} {heap : Heap} (m : RdmnetMessage) {c : Bytes}
    (h : FitsBuf [] c) : ReachesBy pal ok heap c rcMsgBufInit (m, heap) c :=
  ReachesBy.recv (S := []) (b := []) (ReachesBy.init m) h

end RDMnet
