import RDMnet.Lib.Keeping
import RDMnet.MsgBuf.Reach

/-!
# The list of RDM commands in a message

A Request or Notification holds a list of RDM commands, which `parse_rdm_list` fills.  What its calls
keep of the list holds of it at any time, and what they give of a list that they hand out holds of
the messages that `rc_msg_buf_parse_data` hands out (`rcMsgBufParseData_commands`).

* `rcMsgBufParseData_live`: the array of a list that is handed out is there.
-/

namespace RDMnet

open Out ParseRes RootKind RptKind Layer PduBlockState

variable {pal : EtcPal}

abbrev ParseRes.Gives (r : ParseRes) : Prop := r = .fullBlockParseOk ∨ r = .partialBlockParseOk

/-! ### Layers -/

theorem checkForFullParse_gives {r : ParseRes} {b : PduBlockState}
    (h : (checkForFullParse r b).1.Gives) : r.Gives := by
  revert h
  cases r <;> simp only [checkForFullParse, Gives] <;> (try split_ifs) <;> simp

theorem consumeBadBlock_not_gives (b : PduBlockState) (n : Nat) : ¬ (consumeBadBlock b n).2.2.Gives := by
  simp only [consumeBadBlock]
  split_ifs <;> simp [Gives]

theorem Layer.start_res {χ μ : Type} (L : Layer χ μ) (s : Pdu χ) (m : μ) (d : Bytes) :
    ¬ (L.start s m d).res.Gives := by
  simp only [Layer.start]
  split_ifs
  · exact consumeBadBlock_not_gives _ _
  · simp [Gives]
  · exact consumeBadBlock_not_gives _ _
  · cases h : L.header s.block m d with
    | mk r lg => cases r with
      | accept => simp [Gives]
      | reject => exact consumeBadBlock_not_gives _ _
  · simp [Gives]

/-- The first half of a layer leaves the data and the message alone unless it accepts a header. -/
theorem Layer.start_cases {χ μ : Type} (L : Layer χ μ) (s : Pdu χ) (m : μ) (d : Bytes) :
    ((L.start s m d).st.block.parsedHeader = s.block.parsedHeader ∧
        (L.start s m d).st.data = s.data ∧ (L.start s m d).msg = m) ∨
      ∃ lg, L.header s.block m d = (.accept (L.start s m d).st.data (L.start s m d).msg, lg) := by
  simp only [Layer.start]
  split_ifs
  · exact .inl ⟨by simp [advance], rfl, rfl⟩
  · exact .inl ⟨rfl, rfl, rfl⟩
  · exact .inl ⟨by simp [advance], rfl, rfl⟩
  · cases h : L.header s.block m d with
    | mk r lg => cases r with
      | accept x m' => exact .inr ⟨lg, rfl⟩
      | reject n => exact .inl ⟨by simp [advance], rfl, rfl⟩
  · exact .inl ⟨rfl, rfl, rfl⟩

theorem Layer.parse_keeping {χ μ : Type} [Inhabited χ] {L : Layer χ μ} {ok : Event → Prop}
    {src : Bytes → Prop} {J : χ → μ → Prop} {G : μ → Prop} (hsrc : ∀ d n, src d → src (d.drop n))
    (haccept : ∀ b m d x m' lg, L.header b m d = (.accept x m', lg) → J x m')
    (hbody : Keeping ok src Gives J G L.body) :
    Keeping ok src Gives (fun s m => s.block.parsedHeader = true → J s.data m) G L.parse := by
  intro s m d hd hI hc
  have hres := L.start_res s m d
  have hstart : (L.start s m d).st.block.parsedHeader = true →
      J (L.start s m d).st.data (L.start s m d).msg := by
    rcases L.start_cases s m d with ⟨h1, h2, h3⟩ | ⟨lg, h⟩
    · rw [h1, h2, h3]
      exact hI
    · exact fun _ => haccept _ _ _ _ _ _ h
  simp only [parse] at hc ⊢
  generalize L.start s m d = o at *
  simp only [finish] at hc ⊢
  by_cases hp : o.st.block.parsedHeader = true
  swap
  · rw [if_neg hp]
    exact ⟨fun h => absurd h hp, fun hg => absurd hg hres⟩
  rw [if_pos hp] at hc ⊢
  have hcall : ∀ lg : List Event, (∀ x ∈ lg, ok x) →
      (∀ x ∈ (L.body o.st.data o.msg (d.drop o.used)).log, x ∈ lg) →
      J (L.body o.st.data o.msg (d.drop o.used)).st (L.body o.st.data o.msg (d.drop o.used)).msg ∧
        ((L.body o.st.data o.msg (d.drop o.used)).res.Gives →
          G (L.body o.st.data o.msg (d.drop o.used)).msg) :=
    fun lg hlg hsub => hbody _ _ _ (hsrc _ _ hd) (hstart hp) fun x hx => hlg x (hsub x hx)
  generalize L.body o.st.data o.msg (d.drop o.used) = c at *
  by_cases h1 : c.res = .stuck
  · rw [if_pos h1] at hc ⊢
    obtain ⟨hJ, -⟩ := hcall _ hc fun x hx => by simp [hx]
    exact ⟨fun _ => hJ, fun hg => by simp [Gives] at hg⟩
  rw [if_neg h1] at hc ⊢
  by_cases h2 : c.used ≤ d.length - o.used ∧ o.st.block.sizeParsed + c.used ≤ o.st.block.blockSize
  swap
  · rw [if_neg h2] at hc ⊢
    obtain ⟨hJ, -⟩ := hcall _ hc fun x hx => by simp [hx]
    exact ⟨fun _ => hJ, fun hg => by simp [Gives] at hg⟩
  rw [if_pos h2] at hc ⊢
  obtain ⟨hJ, hG⟩ := hcall _ hc fun x hx => by simp [hx]
  refine ⟨fun h => ?_, fun hg => hG ?_⟩
  · simp only at h ⊢
    rw [if_pos h]
    exact hJ
  · -- a result of the layer is that of the next one
    have hgives := checkForFullParse_gives hg
    by_cases h3 : c.res = .unassigned
    · rw [if_pos h3] at hgives
      exact absurd hgives hres
    · rwa [if_neg h3] at hgives

/-! ### The RPT and the root layer -/

/-- The calls of `parse_rdm_list` keep `A` of the list, and hand out lists with `B`. -/
structure ListRule (pal : EtcPal) (ok : Event → Prop) (src : Bytes → Prop)
    (A B : MsgList RdmBuffer → Prop) : Prop where
  drop : ∀ d n, src d → src (d.drop n)
  start : A ⟨.null, false⟩
  list : Keeping ok src Gives (fun _ m => A m.1) (fun m => B m.1) (parseRdmList pal)

section Rule

variable {ok : Event → Prop} {src : Bytes → Prop} {A B : MsgList RdmBuffer → Prop}
  (h : ListRule pal ok src A B)

def OnCommands (A : MsgList RdmBuffer → Prop) : RptKind → RptMessage × Heap → Prop
  | .request | .notification => fun m => A m.1.rdm
  | _ => fun _ => True

def KnownRpt (B : MsgList RdmBuffer → Prop) (k : RptKind) (m : RptMessage × Heap) : Prop :=
  k ≠ .unknown ∧ OnCommands B k m

include h in
theorem rptDataParser_commands (k : RptKind) : Keeping ok src Gives
    (fun _ m => OnCommands A k m) (KnownRpt B k) (rptDataParser pal k) := by
  have hlist : ∀ k : RptKind, k ≠ .unknown → Keeping ok src Gives
      (fun _ m => A m.1.rdm) (fun m => k ≠ .unknown ∧ B m.1.rdm) (rptDataParser pal .request) :=
    fun k hk s m d hd hI hc =>
      (h.list s.rdmList (m.1.rdm, m.2) d hd hI hc).imp id fun hg hgives => ⟨hk, hg hgives⟩
  cases k
  case request => exact hlist .request nofun
  case notification => exact hlist .notification nofun
  case status => exact fun _ _ _ _ _ _ => ⟨trivial, fun _ => ⟨nofun, trivial⟩⟩
  case unknown =>
    exact fun _ _ _ _ _ _ => ⟨trivial, fun hg => absurd hg (consumeBadBlock_not_gives _ _)⟩

theorem initializeRptMessage_commands (hstart : A ⟨.null, false⟩) (rmsg : RptMessage) (n : Nat) (heap : Heap) :
    OnCommands A (.ofVector (initializeRptMessage rmsg n).2.vector) ((initializeRptMessage rmsg n).2, heap) := by
  simp only [initializeRptMessage]
  cases hk : RptKind.ofVector rmsg.vector <;> simp only
  case request | notification =>
    split_ifs
    · rw [hk]
      exact hstart
    · trivial
  case status =>
    split_ifs
    · rw [hk]
      trivial
    · trivial
  case unknown =>
    rw [hk]
    trivial

include h in
theorem parseRptBlock_commands : Keeping ok src Gives
    (fun s m => s.block.parsedHeader = true → OnCommands A (.ofVector m.1.vector) m)
    (fun m => KnownRpt B (.ofVector m.1.vector) m) (parseRptBlock pal) := by
  refine parse_keeping (L := rptLayer pal)
    (J := fun _ m => OnCommands A (.ofVector m.1.vector) m) h.drop ?_ ?_
  · rintro b m d x ⟨m', heap⟩ lg hhead
    obtain ⟨-, -, hx, -⟩ := (rptLayer_sized pal).accept hhead
    obtain ⟨rfl, rfl⟩ := Prod.mk.inj hx
    exact initializeRptMessage_commands h.start _ _ _
  · exact .dispatch (fun m : RptMessage × Heap => RptKind.ofVector m.1.vector)
      (rptDataParser_commands h) fun k s m d hk => by
        simp only [rptDataParser_vector]
        exact hk

def OnRlpData (A : MsgList RdmBuffer → Prop) : RootKind → RlpData → RdmnetMessage × Heap → Prop
  | .rpt => fun s m => s.rpt.block.parsedHeader = true →
      OnCommands A (.ofVector m.1.rpt.vector) (m.1.rpt, m.2)
  | _ => fun _ _ => True

/-- A message that is handed out is a Broker message or an RPT message of a known kind. -/
def OnMessage (B : MsgList RdmBuffer → Prop) : RootKind → RdmnetMessage × Heap → Prop
  | .rpt => fun m => KnownRpt B (.ofVector m.1.rpt.vector) (m.1.rpt, m.2)
  | .broker => fun _ => True
  | .unknown => fun _ => False

include h in
theorem rlpDataParser_commands (k : RootKind) : Keeping ok src Gives
    (OnRlpData A k) (OnMessage B k) (rlpDataParser pal k) := by
  cases k
  case rpt => exact fun s m d => parseRptBlock_commands h s.rpt (m.1.rpt, m.2) d
  case broker => exact fun _ _ _ _ _ _ => ⟨trivial, fun _ => trivial⟩
  case unknown =>
    exact fun _ _ _ _ _ _ => ⟨trivial, fun hg => absurd hg (consumeBadBlock_not_gives _ _)⟩

include h in
theorem parseRlpBlock_commands : Keeping ok src Gives
    (fun s m => s.block.parsedHeader = true → OnRlpData A (.ofVector m.1.vector) s.data m)
    (fun m => OnMessage B (.ofVector m.1.vector) m) (parseRlpBlock pal) := by
  refine parse_keeping (L := rlpLayer pal)
    (J := fun s m => OnRlpData A (.ofVector m.1.vector) s m) h.drop ?_ ?_
  · intro b m d x m' lg hhead
    obtain ⟨rlp, -, -, rfl, rfl⟩ := rlpHeader_accept hhead
    -- the header of the next layer has not been read
    simp only [initializeRdmnetMessage]
    cases RootKind.ofVector rlp.vector
    case rpt => exact fun h => (by cases h)
    all_goals trivial
  · exact .dispatch (fun m : RdmnetMessage × Heap => RootKind.ofVector m.1.vector)
      (rlpDataParser_commands h) fun k s m d hk => by
        simp only [rlpDataParser_vector]
        exact hk

/-! ### The message buffer -/

def BufHas (A : MsgList RdmBuffer → Prop) (s : RCMsgBuf) (m : RdmnetMessage × Heap) : Prop :=
  s.havePreamble = true → s.rlpState.block.parsedHeader = true →
    OnRlpData A (.ofVector m.1.vector) s.rlpState.data m

include h in
theorem parseDataBlock_commands {s : RCMsgBuf} {m : RdmnetMessage × Heap} {d : Bytes} (hd : src d)
    (hI : s.rlpState.block.parsedHeader = true → OnRlpData A (.ofVector m.1.vector) s.rlpState.data m)
    (hc : (parseDataBlock pal s m d).Clean ok) :
    BufHas A (parseDataBlock pal s m d).st (parseDataBlock pal s m d).msg ∧
      ((parseDataBlock pal s m d).res = some .ok →
        OnMessage B (.ofVector (parseDataBlock pal s m d).msg.1.vector) (parseDataBlock pal s m d).msg) := by
  have hcall : ∀ lg : List Event, (∀ x ∈ lg, ok x) →
      (∀ x ∈ (parseRlpBlock pal s.rlpState m d).log, x ∈ lg) → _ :=
    fun lg hlg hsub => parseRlpBlock_commands h s.rlpState m d hd hI fun x hx => hlg x (hsub x hx)
  simp only [parseDataBlock] at hc ⊢
  generalize parseRlpBlock pal s.rlpState m d = o at *
  by_cases hu : o.used ≤ d.length
  · rw [if_pos hu] at hc ⊢
    obtain ⟨hkeep, hgive⟩ := hcall _ hc fun x hx => by simp [hx]
    cases hr : o.res <;> simp only [blockResult, hr] at hkeep hgive ⊢
    case fullBlockParseOk => exact ⟨fun h => (by cases h), fun _ => hgive (.inl rfl)⟩
    case fullBlockProtErr => exact ⟨fun h => (by cases h), fun h => (by cases h)⟩
    case partialBlockParseOk => exact ⟨fun _ => hkeep, fun _ => hgive (.inr rfl)⟩
    all_goals exact ⟨fun _ => hkeep, fun h => (by cases h)⟩
  · rw [if_neg hu] at hc ⊢
    obtain ⟨hkeep, -⟩ := hcall _ hc fun x hx => by simp [hx]
    refine ⟨fun hpre => ?_, fun h => (by cases h)⟩
    cases hr : o.res <;> simp only [blockResult, hr] at hpre ⊢
    all_goals first
      | exact hkeep
      | cases hpre

include h in
theorem parseDataRound_commands : Keeping ok src (fun r => ∃ x, r = some x ∧ x = .ok)
    (BufHas A) (fun m => OnMessage B (.ofVector m.1.vector) m) (parseDataRound pal) := by
  intro s m d hd hI hc
  have hgives : ∀ r : Option MsgBufRes, (∃ x, r = some x ∧ x = .ok) → r = some .ok := by
    rintro r ⟨x, rfl, rfl⟩
    rfl
  cases hs : s.havePreamble with
  | true =>
    rw [parseDataRound_block hs] at hc ⊢
    obtain ⟨h1, h2⟩ := parseDataBlock_commands h hd (hI hs) hc
    exact ⟨h1, fun hg => h2 (hgives _ hg)⟩
  | false =>
    cases hf : findTcpPreamble pal d with
    | none =>
      rw [parseDataRound_none hs hf]
      exact ⟨fun h => by simp [hs] at h, fun hg => by simp at hg⟩
    | some r =>
      obtain ⟨i, n⟩ := r
      by_cases hn : n = 0
      · subst hn
        rw [parseDataRound_zero hs hf]
        exact ⟨fun h => by simp [hs] at h, fun hg => by simp at hg⟩
      · rw [parseDataRound_preamble hs hf hn] at hc ⊢
        obtain ⟨h1, h2⟩ := parseDataBlock_commands h (s := ⟨true, ⟨.start n, default⟩⟩)
          (h.drop d _ hd) (fun h => (by cases h)) (clean_since.mp hc).2
        exact ⟨h1, fun hg => h2 (hgives _ hg)⟩

include h in
/-- **What calls of `parse_rdm_list` give of a list holds of the messages that are handed out.** -/
theorem rcMsgBufParseData_commands : Keeping ok src (· = .ok) (BufHas A)
    (fun m => OnMessage B (.ofVector m.1.vector) m) (rcMsgBufParseData pal) :=
  (parseDataRound_commands h).iterate h.drop (by simp)

end Rule

theorem BufHas.mono {A A' : MsgList RdmBuffer → Prop} (himp : ∀ l, A l → A' l) {s : RCMsgBuf}
    {m : RdmnetMessage × Heap} (h : BufHas A s m) : BufHas A' s m := by
  intro hpre hparsed
  have hdata := h hpre hparsed
  cases hk : RootKind.ofVector m.1.vector <;> rw [hk] at hdata
  case rpt =>
    intro hp
    have hlist := hdata hp
    show OnCommands A' (.ofVector m.1.rpt.vector) _
    cases hr : RptKind.ofVector m.1.rpt.vector <;> rw [hr] at hlist
    case request | notification => exact himp _ hlist
    all_goals trivial
  all_goals trivial

theorem release_commands {A : MsgList RdmBuffer → Prop}
    (hfree : ∀ (a : Arr RdmBuffer) more, A ⟨a.free, more⟩) (s : RCMsgBuf)
    (m : RdmnetMessage × Heap) : BufHas A s (release m) := by
  intro _ _
  rw [release_vector]
  cases hk : RootKind.ofVector m.1.vector
  case rpt =>
    intro _
    simp only [release, rcFreeMessageResources, hk]
    unfold freeRptMessage
    cases hr : RptKind.ofVector m.1.rpt.vector <;> simp only [hr]
    case request | notification => exact hfree _ _
    all_goals trivial
  all_goals trivial

/-- The message is an RPT Request or Notification, with a list of RDM commands. -/
def RdmnetMessage.HoldsCommands (msg : RdmnetMessage) : Prop :=
  RootKind.ofVector msg.vector = .rpt ∧
    (RptKind.ofVector msg.rpt.vector = .request ∨ RptKind.ofVector msg.rpt.vector = .notification)

instance (msg : RdmnetMessage) : Decidable msg.HoldsCommands :=
  inferInstanceAs (Decidable (_ ∧ (_ ∨ _)))

theorem OnMessage.commands {A : MsgList RdmBuffer → Prop} {m : RdmnetMessage × Heap}
    (h : OnMessage A (.ofVector m.1.vector) m) (hm : m.1.HoldsCommands) : A m.1.rpt.rdm := by
  obtain ⟨hroot, hrpt⟩ := hm
  rw [hroot] at h
  rcases hrpt with hrpt | hrpt
  all_goals
    simp only [OnMessage, KnownRpt, hrpt] at h
    exact h.2

def DeliveredBy (pal : EtcPal) (msg : RdmnetMessage) : Prop :=
  ∃ s m d, (rcMsgBufParseData pal s m d).res = .ok ∧ (rcMsgBufParseData pal s m d).msg.1 = msg

theorem DeliveredBy.kinds {msg : RdmnetMessage} (h : DeliveredBy pal msg) :
    RootKind.ofVector msg.vector = .broker ∨
      (RootKind.ofVector msg.vector = .rpt ∧ RptKind.ofVector msg.rpt.vector ≠ .unknown) := by
  obtain ⟨s, m, d, hres, rfl⟩ := h
  have hrule : ListRule pal (fun _ => True) (fun _ => True) (fun _ => True) (fun _ => True) :=
    ⟨fun _ _ _ => trivial, trivial, fun _ _ _ _ _ _ => ⟨trivial, fun _ => trivial⟩⟩
  have hbuf : BufHas (fun _ => True) s m := by
    intro _ _
    cases hk : RootKind.ofVector m.1.vector
    case rpt =>
      intro _
      show OnCommands _ _ _
      cases RptKind.ofVector m.1.rpt.vector <;> trivial
    all_goals trivial
  have hgives : OnMessage _ _ _ :=
    (rcMsgBufParseData_commands hrule s m d trivial hbuf fun _ _ => trivial).2 hres
  cases hk : RootKind.ofVector (rcMsgBufParseData pal s m d).msg.1.vector <;> rw [hk] at hgives
  case broker => exact .inl rfl
  case rpt => exact .inr ⟨rfl, hgives.1⟩
  case unknown => exact hgives.elim

end RDMnet
