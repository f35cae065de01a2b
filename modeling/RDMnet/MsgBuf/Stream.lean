import RDMnet.MsgBuf.BoundsBuf

/-!
# Streams in chunks

A stream arrives in chunks, each of which is appended to the buffer; then `rc_msg_buf_parse_data` is
called until it wants more data, and every message that it hands out is released.  What is handed
out does not depend on the chunks as long as the lengths in the stream are `Harmless`.
-/

namespace RDMnet

open Out List

variable {pal : EtcPal}

/-- `RC_MSG_BUF_SIZE` -/
abbrev rcMsgBufSize : Nat := 2400

/-- A chunk fits into the buffer behind what is left there. -/
abbrev FitsBuf (b c : Bytes) : Prop := b.length + c.length ≤ rcMsgBufSize

/-- What a length in the stream must be like for the parser not to care where the stream is cut.
Nothing is asked of what the parser makes sure of itself. -/
def Event.Harmless (x : Event) : Prop := x.Meets .memory ∧ (x.Held .memory → x.CutSafe)

instance : DecidablePred Event.Harmless := fun x =>
  inferInstanceAs (Decidable (x.Meets .memory ∧ (x.Held .memory → x.CutSafe)))

/-- Call `rc_msg_buf_parse_data` until it wants more data. -/
abbrev BufDrains (pal : EtcPal) := Drains bufVerdict (· = .ok) release (rcMsgBufParseData pal)

/-- Append the chunks one by one and call `rc_msg_buf_parse_data` until it wants more data. -/
abbrev BufFeeds (pal : EtcPal) := Feeds bufVerdict (· = .ok) release (rcMsgBufParseData pal)

theorem rcMsgBufParseData_cutSafe (hpal : pal.Lawful) {s : RCMsgBuf} {m : RdmnetMessage × Heap}
    {d : Bytes} (hI : BufLeft .memory s m) (hlg : ∀ x ∈ (rcMsgBufParseData pal s m d).log, x.Harmless) :
    (∀ x ∈ (rcMsgBufParseData pal s m d).log, x.Meets .memory) ∧
      ∀ x ∈ (rcMsgBufParseData pal s m d).log, x.CutSafe := by
  have hmeets : ∀ x ∈ (rcMsgBufParseData pal s m d).log, x.Meets .memory :=
    fun x hx => (hlg x hx).1
  exact ⟨hmeets, fun x hx => (hlg x hx).2 ((rcMsgBufParseData_within hpal hI hmeets).held x hx)⟩

theorem BufDrains.cutSafe (hpal : pal.Lawful) {s : RCMsgBuf} {m : RdmnetMessage × Heap} {d : Bytes}
    {s' m' d' os lg} (h : BufDrains pal s m d s' m' d' os lg) (hI : BufLeft .memory s m)
    (hlg : ∀ x ∈ lg, x.Harmless) : ∀ x ∈ lg, x.CutSafe := by
  induction h with
  | wait => exact (rcMsgBufParseData_cutSafe hpal hI hlg).2
  | emit _ hok _ ih =>
    obtain ⟨hmeets, hsafe⟩ := rcMsgBufParseData_cutSafe hpal hI
      fun x hx => hlg x (mem_append_left _ hx)
    exact clean_append hsafe (ih (rcMsgBufParseData_release hpal hI hmeets hok)
      fun x hx => hlg x (mem_append_right _ hx))
  | @again s m d _ _ _ _ _ hn hne _ _ =>
    -- no call fails
    obtain ⟨hmeets, -⟩ := rcMsgBufParseData_cutSafe hpal hI
      fun x hx => hlg x (mem_append_left _ hx)
    obtain ⟨⟨h1, h2⟩, -⟩ := (rcMsgBufParseData_within hpal hI hmeets).fair
    cases hr : (rcMsgBufParseData pal s m d).res with
    | ok => exact absurd hr hne
    | noData => exact absurd hr hn
    | errSys => exact absurd hr h1
    | stuck => exact absurd hr (h2 rfl)

theorem bufLeft_init {lv : Level} {m : RdmnetMessage × Heap} (h : Supplied lv m) :
    BufLeft lv rcMsgBufInit m := ⟨h, fun h => (nomatch h)⟩

theorem rcMsgBufParseData_nil (m : RdmnetMessage × Heap) :
    rcMsgBufParseData pal rcMsgBufInit m [] = ⟨rcMsgBufInit, m, 0, .noData, []⟩ := by
  have hround : parseDataRound pal rcMsgBufInit m [] = ⟨rcMsgBufInit, m, 0, some .noData, []⟩ :=
    parseDataRound_none rfl rfl
  rw [rcMsgBufParseData, Parser.iterate_some parseDataRound_decreases _ (congrArg Out.res hround), hround]

theorem BufDrains.nil {m : RdmnetMessage × Heap} {s' m' d' os lg}
    (h : BufDrains pal rcMsgBufInit m [] s' m' d' os lg) : os = [] := by
  have hcall : (rcMsgBufParseData pal rcMsgBufInit m []).res = .noData := by
    rw [rcMsgBufParseData_nil]
  cases h with
  | wait => rfl
  | emit hn | again hn => exact absurd hcall hn

/-! ### What is received -/

/-- The messages `os` are handed out when the chunks `cs` are received from the beginning, with
every allocation succeeding. -/
def Receives (pal : EtcPal) (m : RdmnetMessage) (cs : List Bytes) (os : List RdmnetMessage) : Prop :=
  ∃ s' m' b' os' lg, BufFeeds pal FitsBuf rcMsgBufInit (m, .plenty) [] cs s' m' b' os' lg ∧
    os = os'.map Prod.fst

/-- Each chunk fits behind what is left in the buffer when it arrives. -/
def ChunksFit (pal : EtcPal) (m : RdmnetMessage) (cs : List Bytes) : Prop :=
  ∀ cs1 c cs2, cs = cs1 ++ c :: cs2 → ∀ s1 m1 b1 os1 lg1,
    BufFeeds pal (fun _ _ => True) rcMsgBufInit (m, .plenty) [] cs1 s1 m1 b1 os1 lg1 → FitsBuf b1 c

def HarmlessStream (pal : EtcPal) (m : RdmnetMessage) (S : Bytes) : Prop :=
  ∃ s' m' d' os lg, BufDrains pal rcMsgBufInit (m, .plenty) S s' m' d' os lg ∧
    ∀ x ∈ lg, x.Harmless

variable {m : RdmnetMessage} {cs : List Bytes}

theorem Receives.unique {os os' : List RdmnetMessage}
    (h : Receives pal m cs os) (h' : Receives pal m cs os') : os = os' := by
  obtain ⟨_, _, _, _, _, hf, rfl⟩ := h
  obtain ⟨_, _, _, _, _, hf', rfl⟩ := h'
  obtain ⟨-, -, -, rfl, -⟩ := hf.unique hf'
  rfl

theorem chunksFit_of_short (h : cs.flatten.length ≤ rcMsgBufSize) : ChunksFit pal m cs := by
  rintro cs1 c cs2 rfl s1 m1 b1 os1 lg1 hf
  have hle := hf.length_le
  rw [flatten_append, flatten_cons, length_append, length_append] at h
  rw [length_nil, Nat.zero_add] at hle
  show b1.length + c.length ≤ rcMsgBufSize
  omega

theorem BufDrains.receives (hpal : pal.Lawful) {S : Bytes} {s' m' d' os lg}
    (h : BufDrains pal rcMsgBufInit (m, .plenty) S s' m' d' os lg) (hlg : ∀ x ∈ lg, x.Harmless)
    (hcs : cs.flatten = S) (hfit : ChunksFit pal m cs) :
    ∀ os', Receives pal m cs os' ↔ os' = os.map Prod.fst := by
  have hcut := BufDrains.cutSafe hpal h (bufLeft_init fun _ => rfl) hlg
  have hrec : Receives pal m cs (os.map Prod.fst) := by
    cases cs with
    | nil =>
      subst hcs
      rw [BufDrains.nil h]
      exact ⟨_, _, _, [], [], Feeds.nil, rfl⟩
    | cons c cs =>
      subst hcs
      have hI : BufInv rcMsgBufInit (m, .plenty) := fun h => by cases h
      obtain ⟨lg', hf, -⟩ := Drains.feeds (b := []) (fun _ h => h)
        (rcMsgBufParseData_resumable hpal) (rcMsgBufParseData_releases hpal) cs hI h hcut
      exact ⟨_, _, _, os, lg', hf.fit hfit, rfl⟩
  exact fun os' => ⟨fun h => h.unique hrec, fun h => h ▸ hrec⟩

/-- **What is received does not depend on the chunks.** -/
theorem receives_any_chunks (hpal : pal.Lawful) (m : RdmnetMessage) (S : Bytes)
    (hS : HarmlessStream pal m S) : ∃ os, ∀ cs : List Bytes, cs.flatten = S → ChunksFit pal m cs →
      ∀ os', Receives pal m cs os' ↔ os' = os := by
  obtain ⟨s', m', d', os, lg, h, hlg⟩ := hS
  exact ⟨os.map Prod.fst, fun cs hcs hfit => h.receives hpal hlg hcs hfit⟩

def sampleFrame (vector size : UInt8) : Bytes :=
  EtcPal.packetIdent ++ [0, 0, 0, size, 0xf0, 0, size, 0, 0, 0, vector] ++ List.replicate 16 0

def sampleNull : Bytes := sampleFrame 9 28 ++ [0xf0, 0, 5, 0, 15]

def sampleNulls : Bytes := sampleNull ++ sampleNull

theorem HarmlessStream.of_drain {S : Bytes} (n : Nat)
    (h : ((rcMsgBufParseData pal).drain bufVerdict (· = .ok) release n rcMsgBufInit (m, .plenty)
      S).any (fun r => r.2.2.2.2.all fun x => decide x.Harmless) = true) : HarmlessStream pal m S := by
  obtain ⟨⟨s', m', d', os, lg⟩, hr, hall⟩ := (Option.any_eq_true _ _).mp h
  exact ⟨s', m', d', os, lg, Parser.drain_sound hr, by simpa using hall⟩

theorem receives_any_chunks_nulls :
    ∃ os, ∀ cs : List Bytes, cs.flatten = sampleNulls → ChunksFit EtcPal.reference default cs →
      ∀ os', Receives EtcPal.reference default cs os' ↔ os' = os :=
  receives_any_chunks EtcPal.reference_lawful default sampleNulls
    (HarmlessStream.of_drain 3 (by decide +kernel))

theorem Receives.of_feed {os : List RdmnetMessage} (n : Nat)
    (h : ((rcMsgBufParseData pal).feed bufVerdict (· = .ok) release FitsBuf n rcMsgBufInit
      (m, .plenty) [] cs).map (fun r => r.2.2.2.1.map Prod.fst) = some os) : Receives pal m cs os := by
  obtain ⟨⟨s', m', b', os', lg⟩, hr, rfl⟩ := Option.map_eq_some_iff.mp h
  exact ⟨s', m', b', os', lg, Parser.feed_sound hr, rfl⟩

/-- An RPT Status PDU with the code `VECTOR_RPT_STATUS_INVALID_MESSAGE`, which takes no data, and
two bytes of data. -/
def sampleStatus : Bytes :=
  sampleFrame 5 58 ++ [0xf0, 0, 35, 0, 0, 0, 2] ++ List.replicate 21 0 ++ [0xf0, 0, 7, 0, 8, 1, 2]

/-- In one piece the PDU is dropped; if the last byte arrives alone, it is handed out. -/
theorem receives_status_cut : [sampleStatus].flatten = [sampleStatus.take 73, sampleStatus.drop 73].flatten ∧
    Receives EtcPal.reference default [sampleStatus] [] ∧
    Receives EtcPal.reference default [sampleStatus.take 73, sampleStatus.drop 73]
      [{ (default : RdmnetMessage) with
          vector := acnVectorRootRpt
          rpt := { (default : RptMessage) with
            vector := vectorRptStatus, status := ⟨8, none⟩ } }] :=
  ⟨by decide +kernel, Receives.of_feed 2 (by decide +kernel), Receives.of_feed 2 (by decide +kernel)⟩

end RDMnet
