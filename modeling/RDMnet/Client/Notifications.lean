import RDMnet.Client.Responses

/-!
# Which notifications are delivered

`parse_rpt_notification` accepts any number of commands before the first response, and it does not ask
whether there is a response at all.  `Parts` says what a list looks like that it accepts.
-/

namespace RDMnet

open List RdmResponseHeader RdmMessages

variable {ε : Type} {rdm : RdmMessages ε} {size : Nat} {bs cmds resps : List RdmBuffer}
  {xs : List (RdmResponseHeader × Bytes)} {r : Reassembly}

def RdmMessages.SizedData (rdm : RdmMessages ε) : Prop :=
  ∀ buffer x, rdm.unpackResponse buffer = some x →
    x.2.length = (u8At buffer rdmOffsetParamDataLen).toNat

structure IsCommand (rdm : RdmMessages ε) (b : RdmBuffer) : Prop where
  valid : rdm.validateMsg b = true
  command : ccIsNonDiscCommand (u8At b rdmOffsetCommandClass) = true
  unpacks : (rdm.unpackCommand b).isSome = true

structure IsResponse (rdm : RdmMessages ε) (b : RdmBuffer) (x : RdmResponseHeader × Bytes) : Prop where
  valid : rdm.validateMsg b = true
  response : ccIsNonDiscResponse (u8At b rdmOffsetCommandClass) = true
  unpacks : rdm.unpackResponse b = some x

def Agreeing : List (RdmResponseHeader × Bytes) → Prop
  | [] => True
  | x :: xs => ∀ y ∈ xs, y.1.SameResponse x.1

structure Parts (rdm : RdmMessages ε) (bs cmds resps : List RdmBuffer)
    (xs : List (RdmResponseHeader × Bytes)) : Prop where
  split : bs = cmds ++ resps
  commands : ∀ b ∈ cmds, IsCommand rdm b
  responses : List.Forall₂ (IsResponse rdm) resps xs
  agree : Agreeing xs

theorem not_command_of_response {cc : UInt8} (h : ccIsNonDiscResponse cc = true) :
    ccIsNonDiscCommand cc = false := by
  simp only [ccIsNonDiscResponse, decide_eq_true_eq] at h
  rcases h with rfl | rfl <;> decide

theorem exists_response {b : RdmBuffer} (h : List.Forall₂ (IsResponse rdm) bs xs) (hb : b ∈ bs) :
    ∃ x ∈ xs, IsResponse rdm b x := by
  induction h with
  | nil => cases hb
  | @cons _ x _ xs hx _ ih =>
    rcases mem_cons.mp hb with rfl | hb
    · exact ⟨x, mem_cons_self, hx⟩
    · obtain ⟨y, hy, hby⟩ := ih hb
      exact ⟨y, mem_cons_of_mem _ hy, hby⟩

theorem Parts.count (h : Parts rdm bs cmds resps xs) :
    bs.countP (fun b => ccIsNonDiscCommand (u8At b rdmOffsetCommandClass)) = cmds.length := by
  have hresps : ∀ b ∈ resps, ¬ ccIsNonDiscCommand (u8At b rdmOffsetCommandClass) = true := by
    intro b hb
    obtain ⟨x, -, hx⟩ := exists_response h.responses hb
    rw [not_command_of_response hx.response]
    exact Bool.false_ne_true
  rw [h.split, countP_append, countP_eq_zero.mpr hresps,
    countP_eq_length.mpr fun b hb => (h.commands b hb).command]
  rfl

theorem Parts.length (h : Parts rdm bs cmds resps xs) : bs.length = cmds.length + xs.length := by
  rw [h.split, length_append, h.responses.length_eq]

theorem size_of_responses (hsized : rdm.SizedData) (cmds : List RdmBuffer)
    (h : List.Forall₂ (IsResponse rdm) resps xs) :
    ∀ x ∈ xs, x.2 ≠ [] → rdmResponseDataSize (cmds ++ resps) ≠ 0 := by
  have hsum : rdmResponseDataSize resps = (xs.map (·.2.length)).sum := by
    induction h with
    | nil => rfl
    | cons hb _ ih =>
      rw [map_cons, sum_cons, ← ih, hsized _ _ hb.unpacks]
      simp [rdmResponseDataSize, hb.response]
  intro x hx hne hzero
  have happ : rdmResponseDataSize (cmds ++ resps) =
      rdmResponseDataSize cmds + rdmResponseDataSize resps := by
    simp [rdmResponseDataSize]
  have hdata := List.sum_eq_zero_iff_forall_eq_nat.mp (show (xs.map (·.2.length)).sum = 0 by omega) _
    (mem_map_of_mem hx)
  exact hne (length_eq_zero_iff.mp hdata)

/-! ### The loop -/

def lastCommand (rdm : RdmMessages ε) (cmds : List RdmBuffer) (cur : RdmCommandHeader × Bytes) :
    RdmCommandHeader × Bytes :=
  cmds.foldl (fun cur b => (rdm.unpackCommand b).getD cur) cur

theorem unpackNotification_commands (size : Nat) (resps : List RdmBuffer)
    (hcmds : ∀ b ∈ cmds, IsCommand rdm b) :
    ∀ r : Reassembly, r.firstMsg = true →
      unpackNotification rdm size (cmds ++ resps) r = unpackNotification rdm size resps { r with
          resp.originalCmdHeader :=
            (lastCommand rdm cmds (r.resp.originalCmdHeader, r.resp.originalCmdData)).1
          resp.originalCmdData :=
            (lastCommand rdm cmds (r.resp.originalCmdHeader, r.resp.originalCmdData)).2 } := by
  induction cmds with
  | nil => exact fun _ _ => rfl
  | cons b cmds ih =>
    intro r hfirst
    have hb := hcmds b mem_cons_self
    obtain ⟨⟨header, data⟩, hx⟩ := Option.isSome_iff_exists.mp hb.unpacks
    have hstep : unpackNotificationRdmBuffer rdm size b r =
        ({ r with resp.originalCmdHeader := header, resp.originalCmdData := data }, true) := by
      simp [unpackNotificationRdmBuffer, hb.valid, hfirst, hb.command, hx]
    have hlast (cur : RdmCommandHeader × Bytes) :
        lastCommand rdm (b :: cmds) cur = lastCommand rdm cmds (header, data) := by
      rw [lastCommand, foldl_cons, hx]
      rfl
    rw [cons_append, unpackNotification, hstep, hlast]
    exact ih (fun c hc => hcmds c (mem_cons_of_mem _ hc)) _ hfirst

theorem copyData_eq (r : Reassembly) {data : Bytes} (hsize : data ≠ [] → size ≠ 0) :
    (r.copyData size data).resp = { r.resp with rdmData := r.resp.rdmData ++ data } ∧
      (r.copyData size data).firstMsg = r.firstMsg := by
  unfold Reassembly.copyData
  by_cases hd : data = []
  · simp [hd]
  · simp [hd, hsize hd]

theorem unpackNotification_more (hx : List.Forall₂ (IsResponse rdm) bs xs) :
    ∀ r : Reassembly, r.firstMsg = false → (∀ x ∈ xs, x.1.SameResponse r.resp.rdmHeader) →
      (∀ x ∈ xs, x.2 ≠ [] → size ≠ 0) →
      (unpackNotification rdm size bs r).2 = true ∧ (unpackNotification rdm size bs r).1.resp =
        { r.resp with rdmData := r.resp.rdmData ++ xs.flatMap (·.2) } := by
  induction hx with
  | nil => intro r _ _ _; simp [unpackNotification]
  | @cons b x bs xs hb _ ih =>
    intro r hfirst hsame hsize
    obtain ⟨hresp, hf⟩ := copyData_eq r (hsize x mem_cons_self)
    have hstep : unpackNotificationRdmBuffer rdm size b r = (r.copyData size x.2, true) := by
      simp [unpackNotificationRdmBuffer, hb.valid, hfirst, hb.response, hb.unpacks, hsame x mem_cons_self]
    rw [unpackNotification, hstep]
    obtain ⟨h1, h2⟩ := ih (r.copyData size x.2) (hf.trans hfirst)
      (fun y hy => by rw [hresp]; exact hsame y (mem_cons_of_mem _ hy))
      (fun y hy => hsize y (mem_cons_of_mem _ hy))
    refine ⟨h1, h2.trans ?_⟩
    rw [hresp]
    simp [append_assoc]

theorem RdmResponseHeader.sameResponse_whole {a b : RdmResponseHeader} :
    a.SameResponse b.whole ↔ a.SameResponse b := by
  unfold whole SameResponse
  split <;> rfl

theorem unpackNotification_first {x : RdmResponseHeader × Bytes}
    (hx : List.Forall₂ (IsResponse rdm) bs (x :: xs)) (hagree : Agreeing (x :: xs))
    (hsize : ∀ y ∈ x :: xs, y.2 ≠ [] → size ≠ 0) (hfirst : r.firstMsg = true) :
    (unpackNotification rdm size bs r).2 = true ∧ (unpackNotification rdm size bs r).1.resp = { r.resp with
        rdmHeader := x.1.whole, rdmData := r.resp.rdmData ++ (x :: xs).flatMap (·.2) } := by
  obtain ⟨b, bs', hb, hrest, rfl⟩ := List.forall₂_cons_right_iff.mp hx
  obtain ⟨hresp, -⟩ := copyData_eq r (hsize x mem_cons_self)
  have hstep : unpackNotificationRdmBuffer rdm size b r =
      ({ r.copyData size x.2 with resp.rdmHeader := x.1.whole, firstMsg := false }, true) := by
    simp [unpackNotificationRdmBuffer, hb.valid, hfirst, hb.response, hb.unpacks,
      not_command_of_response hb.response]
  rw [unpackNotification, hstep]
  obtain ⟨h1, h2⟩ := unpackNotification_more hrest
    { r.copyData size x.2 with resp.rdmHeader := x.1.whole, firstMsg := false } rfl
    (fun y hy => sameResponse_whole.mpr (hagree y hy))
    (fun y hy => hsize y (mem_cons_of_mem _ hy))
  refine ⟨h1, h2.trans ?_⟩
  simp [hresp]

theorem unpackBuffer_next {b : RdmBuffer} (hfirst : r.firstMsg = false)
    (h : (unpackNotificationRdmBuffer rdm size b r).2 = true) :
    ∃ x, IsResponse rdm b x ∧ x.1.SameResponse r.resp.rdmHeader ∧
      (unpackNotificationRdmBuffer rdm size b r).1 = r.copyData size x.2 := by
  revert h
  fun_cases unpackNotificationRdmBuffer rdm size b r with
  | case6 hvalid _ hresp header data hx hsame =>
    exact fun _ => ⟨(header, data), ⟨hvalid, hresp, hx⟩, hsame, rfl⟩
  | _ => simp_all

theorem unpackBuffer_first {b : RdmBuffer} (hfirst : r.firstMsg = true)
    (h : (unpackNotificationRdmBuffer rdm size b r).2 = true) :
    (IsCommand rdm b ∧ (unpackNotificationRdmBuffer rdm size b r).1.firstMsg = true) ∨
      ∃ x, IsResponse rdm b x ∧ (unpackNotificationRdmBuffer rdm size b r).1 =
        { r.copyData size x.2 with resp.rdmHeader := x.1.whole, firstMsg := false } := by
  revert h
  fun_cases unpackNotificationRdmBuffer rdm size b r with
  | case1 hvalid _ hcmd header data hx =>
    exact fun _ => .inl ⟨⟨hvalid, hcmd, by rw [hx]; rfl⟩, hfirst⟩
  | case3 hvalid _ _ hresp header data hx =>
    exact fun _ => .inr ⟨(header, data), ⟨hvalid, hresp, hx⟩, rfl⟩
  | _ => simp_all

theorem unpackNotification_cons {b : RdmBuffer} (h : (unpackNotification rdm size (b :: bs) r).2 = true) :
    (unpackNotificationRdmBuffer rdm size b r).2 = true ∧
      (unpackNotification rdm size bs (unpackNotificationRdmBuffer rdm size b r).1).2 = true := by
  rw [unpackNotification] at h
  by_cases hgood : (unpackNotificationRdmBuffer rdm size b r).2 = true
  · exact ⟨hgood, by simpa [hgood] using h⟩
  · simp [hgood] at h

theorem copyData_header (size : Nat) (data : Bytes) (r : Reassembly) :
    (r.copyData size data).resp.rdmHeader = r.resp.rdmHeader ∧
      (r.copyData size data).firstMsg = r.firstMsg := by
  unfold Reassembly.copyData
  split <;> exact ⟨rfl, rfl⟩

theorem responses_of_accepted : ∀ (bs : List RdmBuffer) (r : Reassembly), r.firstMsg = false →
    (unpackNotification rdm size bs r).2 = true →
    ∃ xs, List.Forall₂ (IsResponse rdm) bs xs ∧ ∀ x ∈ xs, x.1.SameResponse r.resp.rdmHeader
  | [], _, _, _ => ⟨[], .nil, by simp⟩
  | b :: bs, r, hfirst, h => by
    obtain ⟨hgood, hrest⟩ := unpackNotification_cons h
    obtain ⟨x, hx, hsame, hnext⟩ := unpackBuffer_next hfirst hgood
    obtain ⟨hheader, hf⟩ := copyData_header size x.2 r
    obtain ⟨xs, hxs, hall⟩ := responses_of_accepted bs _ ((congrArg _ hnext).trans (hf.trans hfirst)) hrest
    rw [hnext, hheader] at hall
    exact ⟨x :: xs, .cons hx hxs, forall_mem_cons.mpr ⟨hsame, hall⟩⟩

theorem parts_of_accepted : ∀ (bs : List RdmBuffer) (r : Reassembly), r.firstMsg = true →
    (unpackNotification rdm size bs r).2 = true → ∃ cmds resps xs, Parts rdm bs cmds resps xs
  | [], _, _, _ => ⟨[], [], [], rfl, by simp, .nil, trivial⟩
  | b :: bs, r, hfirst, h => by
    obtain ⟨hgood, hrest⟩ := unpackNotification_cons h
    rcases unpackBuffer_first hfirst hgood with ⟨hcmd, hf⟩ | ⟨x, hx, hnext⟩
    · obtain ⟨cmds, resps, xs, hp⟩ := parts_of_accepted bs _ hf hrest
      exact ⟨b :: cmds, resps, xs, by rw [hp.split, cons_append],
        forall_mem_cons.mpr ⟨hcmd, hp.commands⟩, hp.responses, hp.agree⟩
    · rw [hnext] at hrest
      obtain ⟨xs, hxs, hall⟩ := responses_of_accepted bs _ rfl hrest
      exact ⟨[], b :: bs, x :: xs, rfl, by simp, .cons hx hxs,
        fun y hy => sameResponse_whole.mp (hall y hy)⟩

/-! ### What is delivered -/

def WellFormed (rdm : RdmMessages ε) (uid : RdmUid) (rmsg : RptMessage) (resp : RdmnetRdmResponse) :
    Prop :=
  ∃ cmds resps x xs, Parts rdm rmsg.rdm.items.toList cmds resps (x :: xs) ∧ cmds.length ≤ 1 ∧
    resp.rdmData.length = ((x :: xs).map (·.2.length)).sum ∧
    resp =
      { rdmnetSourceUid := rmsg.header.sourceUid
        sourceEndpoint := rmsg.header.sourceEndpointId
        seqNum := rmsg.header.seqnum
        isResponseToMe := uid = rmsg.header.destUid
        originalCmdHeader := ((cmds.head?.bind rdm.unpackCommand).getD (default, [])).1
        originalCmdData := ((cmds.head?.bind rdm.unpackCommand).getD (default, [])).2
        rdmHeader := x.1.whole
        rdmData := (x :: xs).flatMap (·.2)
        moreComing := rmsg.rdm.moreComing }

/-- A list that is accepted though there are several commands in it, or no response. -/
def Misread (rdm : RdmMessages ε) (malloc : Bool) (rmsg : RptMessage) : Prop :=
  rmsg.rdm.items.isNull = false ∧ (rdmResponseDataSize rmsg.rdm.items.toList = 0 ∨ malloc = true) ∧
    ∃ cmds resps xs, Parts rdm rmsg.rdm.items.toList cmds resps xs ∧ (2 ≤ cmds.length ∨ xs = [])

section Delivered

variable {malloc : Bool} {uid : RdmUid} {left : RdmnetRdmResponse} {rmsg : RptMessage}
  {resp : RdmnetRdmResponse}

theorem parseRptNotification_eq_some :
    (parseRptNotification rdm malloc uid left rmsg).1 = some resp ↔
      rmsg.rdm.items.isNull = false ∧ (rdmResponseDataSize rmsg.rdm.items.toList = 0 ∨ malloc = true) ∧
      (unpackNotification rdm (rdmResponseDataSize rmsg.rdm.items.toList) rmsg.rdm.items.toList
        (startReassembly left rmsg.rdm.moreComing)).2 = true ∧
      { (unpackNotification rdm (rdmResponseDataSize rmsg.rdm.items.toList) rmsg.rdm.items.toList
          (startReassembly left rmsg.rdm.moreComing)).1.resp with
        rdmnetSourceUid := rmsg.header.sourceUid
        sourceEndpoint := rmsg.header.sourceEndpointId
        seqNum := rmsg.header.seqnum
        isResponseToMe := decide (uid = rmsg.header.destUid) } = resp := by
  unfold parseRptNotification
  by_cases hnull : rmsg.rdm.items.isNull = true
  · simp [hnull]
  by_cases hsize : rdmResponseDataSize rmsg.rdm.items.toList = 0 <;> cases malloc <;>
    simp [hnull, hsize]

theorem Parts.accepted (hsized : rdm.SizedData) (hp : Parts rdm bs cmds resps xs)
    (hfirst : r.firstMsg = true) :
    (unpackNotification rdm (rdmResponseDataSize bs) bs r).2 = true := by
  obtain rfl := hp.split
  rw [unpackNotification_commands _ _ hp.commands r hfirst]
  have hresps := hp.responses
  cases xs with
  | nil =>
    obtain rfl := List.forall₂_nil_right_iff.mp hresps
    rfl
  | cons x xs =>
    refine (unpackNotification_first hresps hp.agree (size_of_responses hsized cmds hresps) ?_).1
    exact hfirst

theorem wellFormed_of_accepted (hsized : rdm.SizedData) (hread : ¬ Misread rdm malloc rmsg)
    (h : (parseRptNotification rdm malloc uid left rmsg).1 = some resp) :
    WellFormed rdm uid rmsg resp := by
  obtain ⟨hnull, hmalloc, hgood, rfl⟩ := parseRptNotification_eq_some.mp h
  obtain ⟨cmds, resps, xs, hp⟩ := parts_of_accepted _ _ rfl hgood
  have hone : cmds.length ≤ 1 := by
    by_contra hmany
    exact hread ⟨hnull, hmalloc, cmds, resps, xs, hp, .inl (by omega)⟩
  cases xs with
  | nil => exact absurd ⟨hnull, hmalloc, cmds, resps, [], hp, .inr rfl⟩ hread
  | cons x xs =>
    have hlast : lastCommand rdm cmds (default, []) =
        (cmds.head?.bind rdm.unpackCommand).getD (default, []) := by
      match cmds, hone with
      | [], _ => rfl
      | [_], _ => rfl
    -- the loop goes through the commands, then through the responses
    have hloop := unpackNotification_commands (rdmResponseDataSize rmsg.rdm.items.toList) resps
      hp.commands (startReassembly left rmsg.rdm.moreComing) rfl
    have hsize := size_of_responses hsized cmds hp.responses
    rw [← hp.split] at hloop hsize
    have hresult := congrArg (fun l => l.1.resp) hloop
    rw [(unpackNotification_first hp.responses hp.agree hsize rfl).2] at hresult
    refine ⟨cmds, resps, x, xs, hp, hone, ?_, ?_⟩
    · rw [hresult]
      simp [startReassembly, length_flatMap]
    · rw [← hlast, hresult]
      rfl

theorem accepted_of_misread (hsized : rdm.SizedData) (uid : RdmUid) (left : RdmnetRdmResponse)
    (h : Misread rdm malloc rmsg) :
    ∃ resp, (parseRptNotification rdm malloc uid left rmsg).1 = some resp ∧
      ¬ WellFormed rdm uid rmsg resp := by
  obtain ⟨hnull, hmalloc, cmds, resps, xs, hp, hbad⟩ := h
  refine ⟨_, parseRptNotification_eq_some.mpr ⟨hnull, hmalloc, hp.accepted hsized rfl, rfl⟩, ?_⟩
  rintro ⟨cmds', resps', x, xs', hp', hone, -, -⟩
  have hcount := hp.count.symm.trans hp'.count
  have hlength := hp.length.symm.trans hp'.length
  rw [length_cons] at hlength
  rcases hbad with hmany | rfl
  · omega
  · rw [length_nil] at hlength
    omega

variable (malloc uid rmsg) in
/-- **A notification is delivered only if it is well formed, and as it is, exactly if it is not one with
several commands or without a response.** -/
theorem notification_well_formed_iff (hsized : rdm.SizedData) :
    (∀ left resp, (parseRptNotification rdm malloc uid left rmsg).1 = some resp →
      WellFormed rdm uid rmsg resp) ↔ ¬ Misread rdm malloc rmsg := by
  constructor
  · intro h hbad
    obtain ⟨resp, haccepted, hnot⟩ := accepted_of_misread hsized uid default hbad
    exact hnot (h default resp haccepted)
  · exact fun hread left resp h => wellFormed_of_accepted hsized hread h

end Delivered

theorem RdmMessages.reference_sizedData : RdmMessages.reference.SizedData := by
  intro buffer x h
  simp only [RdmMessages.reference] at h
  split_ifs at h with hvalid
  cases h
  have hlen := hvalid.1
  simp only [refValidate, decide_eq_true_eq] at hlen
  obtain ⟨-, -, hsum, hle, -⟩ := hlen
  rw [hsum] at hle
  simp only [refDataOf, length_take, length_drop]
  omega

def notificationOf (ps : List RdmPacket) : RptMessage :=
  { (default : RptMessage) with rdm := ⟨(ps.map (·.bytes)).foldl .push .null, false⟩ }

def sampleGet : RdmCommandHeader := ⟨⟨1, 1⟩, ⟨2, 2⟩, 1, 0, 0, kRdmCCGetCommand, 0x60⟩

def sampleNotification : RptMessage :=
  notificationOf [.command sampleGet [], .response sampleGet kRdmResponseTypeAck [3, 4]]

theorem not_misread_sample : ¬ Misread RdmMessages.reference true sampleNotification := by
  rintro ⟨-, -, cmds, resps, xs, hp, hbad⟩
  have hcount : 1 = cmds.length := Eq.trans (by decide +kernel) hp.count
  have hlength : 2 = cmds.length + xs.length := Eq.trans (by decide +kernel) hp.length
  rcases hbad with hmany | rfl
  · omega
  · rw [length_nil] at hlength
    omega

theorem notification_well_formed_sample :
    ((parseRptNotification RdmMessages.reference true ⟨1, 1⟩ default sampleNotification).1.map
      (·.rdmData)) = some [3, 4] ∧
    ∀ left resp, (parseRptNotification RdmMessages.reference true ⟨1, 1⟩ left sampleNotification).1 =
      some resp → WellFormed RdmMessages.reference ⟨1, 1⟩ sampleNotification resp :=
  ⟨by decide +kernel, (notification_well_formed_iff true ⟨1, 1⟩ sampleNotification
    reference_sizedData).mpr not_misread_sample⟩

/-- The parameter ID of the response to a notification with nothing but a command, if the memory held
`n` there. -/
def paramIdWithout (n : UInt16) : Option UInt16 :=
  (parseRptNotification RdmMessages.reference true ⟨1, 1⟩
    { (default : RdmnetRdmResponse) with rdmHeader.paramId := n }
    (notificationOf [.command sampleGet []])).1.map (·.rdmHeader.paramId)

/-- A notification with nothing but the command is delivered, and the header of the response is what the
memory held; and so is one with two commands. -/
theorem notification_without_response :
    paramIdWithout 7 = some 7 ∧ paramIdWithout 9 = some 9 ∧
    (parseRptNotification RdmMessages.reference true ⟨1, 1⟩ default (notificationOf
      [.command sampleGet [], .command sampleGet [],
        .response sampleGet kRdmResponseTypeAck [3, 4]])).1.isSome = true := by
  decide +kernel

end RDMnet
