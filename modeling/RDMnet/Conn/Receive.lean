import RDMnet.Conn.Release
import RDMnet.Prot.RoundTrip

/-!
# Messages before the end of a connection

What becomes of the messages that arrive before the socket reports a close or an error.  The bytes
that `etcpal_recv` returned are counted from the moment on in which the connection came up; `Keeps`
says how far the thread has got with the messages in them, and `Parted` that a Broker Disconnect
among them has ended the connection.
-/

namespace RDMnet

open Out List BrokerKind Outgoing

variable {pal : EtcPal}

/-! ### The bytes of a socket -/

/-- What the results of `etcpal_recv` bring into the room there is: the bytes, and the code that
stopped them, if one was read. -/
def taken : Nat → List RecvRes → Bytes × Option EtcPalErr
  | _, [] => ([], none)
  | room, .code err :: _ => ([], if room = 0 then none else some err)
  | room, .data first rest :: rs =>
    if room = 0 then ([], none) else
      let got := (first :: rest).take room
      (got ++ (taken (room - got.length) rs).1, (taken (room - got.length) rs).2)

theorem recvLoop_eq (rs : List RecvRes) : ∀ (data : Bytes) (got : Bool),
    recvLoop data got rs = (data ++ (taken (rcMsgBufSize - data.length) rs).1,
      recvResult (got || !(taken (rcMsgBufSize - data.length) rs).1.isEmpty)
        ((taken (rcMsgBufSize - data.length) rs).2.getD .wouldBlock)) := by
  induction rs with
  | nil =>
    intro data got
    simp [recvLoop, taken]
  | cons r rs ih =>
    intro data got
    by_cases hroom : rcMsgBufSize ≤ data.length
    · have hzero : rcMsgBufSize - data.length = 0 := Nat.sub_eq_zero_of_le hroom
      cases r <;> simp [recvLoop, taken, hroom, hzero]
    · have hpos : rcMsgBufSize - data.length ≠ 0 := by omega
      cases r with
      | code err => simp [recvLoop, taken, hroom, hpos]
      | data first rest =>
        obtain ⟨k, hk⟩ := Nat.exists_eq_succ_of_ne_zero hpos
        have hleft : rcMsgBufSize - (data ++ (first :: rest).take (rcMsgBufSize - data.length)).length =
            rcMsgBufSize - data.length -
              ((first :: rest).take (rcMsgBufSize - data.length)).length := by
          rw [length_append]
          omega
        simp only [recvLoop, taken, if_neg hroom, if_neg hpos, ih, hleft]
        rw [hk]
        simp

theorem rcMsgBufRecv_eq (rs : List RecvRes) (b : RecvBuf) :
    rcMsgBufRecv rs b = ({ b with data := b.data ++ (taken (rcMsgBufSize - b.data.length) rs).1 },
        recvResult (!(taken (rcMsgBufSize - b.data.length) rs).1.isEmpty)
          ((taken (rcMsgBufSize - b.data.length) rs).2.getD .wouldBlock)) := by
  rw [rcMsgBufRecv, recvLoop_eq, Bool.false_or]

/-! ### The buffer in the middle of a message -/

/-- The buffer has taken in the bytes `pre` of a message and what follows it. -/
def Reading (pal : EtcPal) (pre : Bytes) (b : RecvBuf) : Prop :=
  ∃ m, Midway bufVerdict Event.CutSafe BufInv (rcMsgBufParseData pal) rcMsgBufInit (m, .plenty) pre
    b.buf b.msg b.data

def Begins (d : Bytes) (b : RecvBuf) : Prop :=
  b.buf = rcMsgBufInit ∧ b.msg.2 = .plenty ∧ b.data = d

theorem Begins.reading {d : Bytes} {b : RecvBuf} (h : Begins d b) : Reading pal d b := by
  obtain ⟨buf, ⟨m, heap⟩, data⟩ := b
  obtain ⟨rfl, rfl, rfl⟩ := h
  exact ⟨m, Midway.start (fun h => by cases h) data⟩

theorem Reading.append {pre : Bytes} {b : RecvBuf} (h : Reading pal pre b) (c : Bytes) :
    Reading pal (pre ++ c) { b with data := b.data ++ c } := by
  obtain ⟨m, h⟩ := h
  exact ⟨m, h.append c⟩

def Finds (pal : EtcPal) (b : RecvBuf) : Prop :=
  ((msgBufEnv pal).rcMsgBufParseData b).2 = .ok

instance (b : RecvBuf) : Decidable (Finds pal b) :=
  inferInstanceAs (Decidable (((msgBufEnv pal).rcMsgBufParseData b).2 = .ok))

section Calls

variable (hpal : pal.Lawful) (hpk : pal.Packs) {x : Uuid × Outgoing}

include hpal hpk in
theorem packed_call (hx : Packed pal x) (m : RdmnetMessage) (e : Bytes) :
    ∃ m' lg, rcMsgBufParseData pal rcMsgBufInit (m, .plenty) (x.2.bytes pal x.1 ++ e) =
        ⟨rcMsgBufInit, (m', .plenty), (x.2.bytes pal x.1).length, .ok, lg⟩ ∧
      (∀ y ∈ lg, y.CutSafe) ∧ x.2.Arrives x.1 m' := by
  obtain ⟨hvalid, hne, hlen⟩ := hx
  obtain ⟨m', hdel, harr⟩ := delivered hpal hpk hvalid hne hlen m
  obtain ⟨lg, hcall, hsound⟩ := hdel e
  have hcut := (rcMsgBufParseData_cutSafe hpal (bufLeft_init fun _ => rfl)
    (d := x.2.bytes pal x.1 ++ e) (m := (m, .plenty)) (by
      rw [hcall]
      exact fun y hy => (hsound y hy).harmless)).2
  rw [hcall] at hcut
  exact ⟨m', lg, hcall, hcut, harr⟩

include hpal hpk in
theorem Reading.full (hx : Packed pal x) {d : Bytes} {b : RecvBuf} (h : Reading pal (x.2.bytes pal x.1 ++ d) b) :
    Finds pal b ∧ Begins d ((msgBufEnv pal).rcMsgBufParseData b).1 ∧
      x.2.Arrives x.1 ((msgBufEnv pal).rcMsgBufParseData b).1.msg.1 := by
  obtain ⟨m, h⟩ := h
  obtain ⟨m', lg, hcall, hcut, harr⟩ := packed_call hpal hpk hx m d
  obtain ⟨hres, hmsg, hst, hleft⟩ := h.completes (fun _ h => h) (by rw [hcall]; exact hcut)
    (by rw [hcall])
  rw [hcall] at hres hmsg hst
  refine ⟨hres, ⟨hst, ?_, hleft⟩, ?_⟩
  · show (rcMsgBufParseData pal b.buf b.msg b.data).msg.2 = _
    rw [hmsg]
  · show x.2.Arrives x.1 (rcMsgBufParseData pal b.buf b.msg b.data).msg.1
    rw [hmsg]
    exact harr

include hpal hpk in
theorem Reading.part (hx : Packed pal x) {pre e : Bytes} {b : RecvBuf} (h : Reading pal pre b)
    (hbytes : pre ++ e = x.2.bytes pal x.1) (hlong : pre.length < (x.2.bytes pal x.1).length) :
    ¬ Finds pal b ∧ Reading pal pre ((msgBufEnv pal).rcMsgBufParseData b).1 := by
  obtain ⟨m, h⟩ := h
  obtain ⟨m', lg, hcall, hcut, -⟩ := packed_call hpal hpk hx m []
  rw [append_nil, ← hbytes] at hcall
  obtain ⟨hsusp, hmid⟩ := h.suspends (rcMsgBufParseData_resumable hpal) (fun _ h => h)
    (e := e) (by rw [hcall]; exact hcut) (by rw [hcall, hbytes]; exact hlong)
  refine ⟨fun hf => ?_, m, hmid⟩
  have hok : (rcMsgBufParseData pal b.buf b.msg b.data).res = .ok := hf
  have hno : (rcMsgBufParseData pal b.buf b.msg b.data).res = .noData := hsusp
  rw [hok] at hno
  cases hno

end Calls

/-! ### What becomes of the messages -/

def RdmnetMessage.Internal (o : RdmnetMessage) : Prop :=
  o.vector = acnVectorRootBroker ∧ (ofVector o.broker.vector = .connectReply ∨
    ofVector o.broker.vector = .null ∨ ofVector o.broker.vector = .disconnect)

instance (o : RdmnetMessage) : Decidable o.Internal := inferInstanceAs (Decidable (_ ∧ _))

def Outgoing.IsDisconnect : Outgoing → Prop
  | .disconnect _ _ => True
  | _ => False

/-- What is seen of a message that `handle_message` gets: unless it is consumed internally,
`message_received` gets it next. -/
def handover (o : RdmnetMessage × MessageAction) : List (Obs (List RecvRes)) :=
  .handled o.1 :: if o.1.Internal then [] else [.messageReceived o.1 o.2]

/-- The messages `xs` have been handed over, one after another, and then `more` was seen. -/
def HandedOver (seen : List (Obs (List RecvRes))) (xs : List (Uuid × Outgoing))
    (more : List (Obs (List RecvRes))) : Prop :=
  ∃ os : List (RdmnetMessage × MessageAction),
    List.Forall₂ (fun x o => x.2.Arrives x.1 o.1) xs os ∧ (os.flatMap handover ++ more).Sublist seen

theorem HandedOver.append {seen : List (Obs (List RecvRes))} {xs : List (Uuid × Outgoing)}
    {more new : List (Obs (List RecvRes))} (h : HandedOver seen xs more)
    (l : List (Obs (List RecvRes))) (hl : new.Sublist l) : HandedOver (seen ++ l) xs (more ++ new) := by
  obtain ⟨os, hall, hsub⟩ := h
  exact ⟨os, hall, by rw [← append_assoc]; exact hsub.append hl⟩

theorem HandedOver.snoc {seen : List (Obs (List RecvRes))} {xs : List (Uuid × Outgoing)}
    {x : Uuid × Outgoing} (o : RdmnetMessage × MessageAction) (h : HandedOver seen xs (handover o))
    (harr : x.2.Arrives x.1 o.1) : HandedOver seen (xs ++ [x]) [] := by
  obtain ⟨os, hall, hsub⟩ := h
  refine ⟨os ++ [o], rel_append hall (.cons harr .nil), ?_⟩
  rwa [flatMap_append, flatMap_singleton, append_nil]

/-- Of the messages `xs`, some have been handed over, then `more` was seen of those in `flight`; the
rest of the bytes `S` that were received begin with the next message `y`, and are as `P` says. -/
def Upto (pal : EtcPal) (xs : List (Uuid × Outgoing)) (S : Bytes) (seen : List (Obs (List RecvRes)))
    (flight : List (Uuid × Outgoing)) (more : List (Obs (List RecvRes)))
    (P : Uuid × Outgoing → Bytes → Prop) : Prop :=
  ∃ done zs, xs = done ++ (flight ++ zs) ∧ HandedOver seen done more ∧
    (∀ y ∈ done, ¬ y.2.IsDisconnect) ∧
    ∀ y zs', zs = y :: zs' → ∃ pre, S = packAll pal (done ++ flight) ++ pre ∧ P y pre

/-- How far the thread has got. -/
inductive Phase
  /-- It has looked at everything that was received. -/
  | clear
  /-- It is going to look whether there is a message. -/
  | looking
  /-- It has a message for `handle_message`. -/
  | inHand
  /-- It has a message for `message_received`. -/
  | telling (o : RdmnetMessage)
  /-- It has kept a message that `message_received` asked to get again. -/
  | kept
  /-- It is going to handle a socket error. -/
  | stopped

/-- Where the flag is `retry_current_message`. -/
def Thread.phase (flag : Bool) : Thread → Phase
  | .receive _ retry => if retry then .kept else .clear
  | .parse _ _ retry => if retry then .kept else .looking
  | .process _ _ => .inHand
  | .deliver _ _ (.msgReceived o) => .telling o
  | .deliver _ _ _ => .looking
  | .socketError _ _ => .stopped
  | .errorDeliver _ _ => .stopped
  | _ => if flag then .kept else .clear

def Stage (pal : EtcPal) (xs : List (Uuid × Outgoing)) (S : Bytes)
    (seen : List (Obs (List RecvRes))) (b : RecvBuf) : Phase → Prop
  | .clear => Upto pal xs S seen [] [] fun y pre =>
      Reading pal pre b ∧ pre.length < (y.2.bytes pal y.1).length
  | .looking => Upto pal xs S seen [] [] fun _ pre => Reading pal pre b
  | .kept => Upto pal xs S seen [] [] fun _ pre => Begins pre b ∧ ¬ b.msg.1.Internal
  | .inHand =>
    (∃ y, y.2.Arrives y.1 b.msg.1 ∧ Upto pal xs S seen [y] [] fun _ pre => Begins pre b) ∨
      Upto pal xs S seen [] [] fun _ pre => Begins pre b ∧ ¬ b.msg.1.Internal
  | .telling o => o = b.msg.1 ∧ ¬ o.Internal ∧
    ((∃ y, y.2.Arrives y.1 o ∧ Upto pal xs S seen [y] [.handled o] fun _ pre => Begins pre b) ∨
      Upto pal xs S seen [] [] fun _ pre => Begins pre b)
  | .stopped => Upto pal xs S seen [] [] fun y pre => pre.length < (y.2.bytes pal y.1).length

section Stages

variable {xs : List (Uuid × Outgoing)} {S rest : Bytes} {seen new : List (Obs (List RecvRes))}
  {flight : List (Uuid × Outgoing)} {more : List (Obs (List RecvRes))}
  {P Q : Uuid × Outgoing → Bytes → Prop} {b : RecvBuf}

theorem Upto.imp (h : Upto pal xs S seen flight more P) (hPQ : ∀ y pre, P y pre → Q y pre)
    (l : List (Obs (List RecvRes))) (hl : new.Sublist l) : Upto pal xs S (seen ++ l) flight (more ++ new) Q := by
  obtain ⟨done, zs, hxs, hover, hdisc, hP⟩ := h
  refine ⟨done, zs, hxs, hover.append l hl, hdisc, fun y zs' hz => ?_⟩
  obtain ⟨pre, hS, hpre⟩ := hP y zs' hz
  exact ⟨pre, hS, hPQ y pre hpre⟩

theorem Upto.weaken (h : Upto pal xs S seen flight more P) (hPQ : ∀ y pre, P y pre → Q y pre)
    (l : List (Obs (List RecvRes))) : Upto pal xs S (seen ++ l) flight more Q := by
  have h' := h.imp hPQ l (nil_sublist l)
  rwa [append_nil] at h'

variable {y : Uuid × Outgoing}

theorem Upto.landed (o : RdmnetMessage × MessageAction)
    (h : Upto pal xs S seen [y] (handover o) P) (harr : y.2.Arrives y.1 o.1)
    (hdisc : ¬ y.2.IsDisconnect) : Upto pal xs S seen [] [] P := by
  obtain ⟨done, zs, hxs, hover, hdone, hP⟩ := h
  refine ⟨done ++ [y], zs, by rw [hxs]; simp, hover.snoc o harr, fun z hz => ?_, ?_⟩
  · rcases mem_append.mp hz with hz | hz
    · exact hdone z hz
    · exact mem_singleton.mp hz ▸ hdisc
  · rw [append_nil]
    exact hP

theorem packAll_append (l l' : List (Uuid × Outgoing)) :
    packAll pal (l ++ l') = packAll pal l ++ packAll pal l' := flatMap_append

variable {pre : Bytes}

theorem next_message {done zs' : List (Uuid × Outgoing)}
    (hS : packAll pal done ++ pre <+: packAll pal (done ++ y :: zs') ++ rest) :
    (pre.length < (y.2.bytes pal y.1).length ∧ ∃ e, pre ++ e = y.2.bytes pal y.1) ∨
      ∃ d, pre = y.2.bytes pal y.1 ++ d := by
  rw [packAll_append, append_assoc, prefix_append_right_inj] at hS
  have hcons : packAll pal (y :: zs') = y.2.bytes pal y.1 ++ packAll pal zs' := flatMap_cons
  rw [hcons, append_assoc] at hS
  have hy : y.2.bytes pal y.1 <+: y.2.bytes pal y.1 ++ (packAll pal zs' ++ rest) :=
    prefix_append ..
  by_cases hlen : pre.length < (y.2.bytes pal y.1).length
  · obtain ⟨e, he⟩ := prefix_of_prefix_length_le hS hy (le_of_lt hlen)
    exact .inl ⟨hlen, e, he⟩
  · obtain ⟨d, hd⟩ := prefix_of_prefix_length_le hy hS (Nat.le_of_not_lt hlen)
    exact .inr ⟨d, hd.symm⟩

theorem Upto.recv (h : Upto pal xs S seen [] [] P) (c : Bytes) (hS : S ++ c <+: packAll pal xs ++ rest)
    (hPQ : ∀ y ∈ xs, ∀ pre, P y pre →
      ((pre ++ c).length < (y.2.bytes pal y.1).length ∨ ∃ d, pre ++ c = y.2.bytes pal y.1 ++ d) →
      Q y (pre ++ c)) (l : List (Obs (List RecvRes))) : Upto pal xs (S ++ c) (seen ++ l) [] [] Q := by
  obtain ⟨done, zs, hxs, hover, hdisc, hP⟩ := h
  have hover' := hover.append l (nil_sublist l)
  rw [append_nil] at hover'
  refine ⟨done, zs, hxs, hover', hdisc, fun y zs' hz => ?_⟩
  obtain ⟨pre, rfl, hpre⟩ := hP y zs' hz
  refine ⟨pre ++ c, append_assoc .., hPQ y ?_ pre hpre ?_⟩
  · rw [hxs, hz]
    simp
  · rw [hxs, hz, append_nil, nil_append, append_assoc] at hS
    exact (next_message hS).imp_left And.left

variable (hpal : pal.Lawful) (hpk : pal.Packs) (hxs : ∀ x ∈ xs, Packed pal x)

include hpal hpk hxs in
theorem Stage.found (h : Stage pal xs S seen b .looking) (hS : S <+: packAll pal xs ++ rest)
    (hfinds : Finds pal b) (l : List (Obs (List RecvRes))) :
    Stage pal xs S (seen ++ l) ((msgBufEnv pal).rcMsgBufParseData b).1 .inHand := by
  obtain ⟨done, zs, rfl, hover, hdisc, hP⟩ := h
  have hover' := hover.append l (nil_sublist l)
  rw [append_nil] at hover'
  cases zs with
  | nil => exact .inr ⟨done, [], rfl, hover', hdisc, nofun⟩
  | cons y zs' =>
    obtain ⟨pre, rfl, hread⟩ := hP y zs' rfl
    have hy := hxs y (by simp)
    rw [append_nil] at hS
    rcases next_message hS with ⟨hlt, e, he⟩ | ⟨d, rfl⟩
    · exact absurd hfinds (hread.part hpal hpk hy he hlt).1
    · obtain ⟨-, hbegins, harr⟩ := hread.full hpal hpk hy
      refine .inl ⟨y, harr, done, zs', rfl, hover', hdisc, fun z zs'' hz => ⟨d, ?_, hbegins⟩⟩
      rw [append_nil, packAll_append, append_assoc]
      congr 1
      simp [packAll]

include hpal hpk hxs in
theorem Stage.notFound (h : Stage pal xs S seen b .looking) (hS : S <+: packAll pal xs ++ rest)
    (hno : ¬ Finds pal b) : Stage pal xs S seen ((msgBufEnv pal).rcMsgBufParseData b).1 .clear := by
  obtain ⟨done, zs, rfl, hover, hdisc, hP⟩ := h
  refine ⟨done, zs, rfl, hover, hdisc, fun y zs' hz => ?_⟩
  obtain ⟨pre, rfl, hread⟩ := hP y zs' hz
  have hy := hxs y (by rw [hz]; simp)
  rw [append_nil, hz] at hS
  rcases next_message hS with ⟨hlt, e, he⟩ | ⟨d, rfl⟩
  · exact ⟨pre, rfl, (hread.part hpal hpk hy he hlt).2, hlt⟩
  · exact absurd (hread.full hpal hpk hy).1 hno

include hpal hpk in
theorem reading_short (h : Reading pal pre b) (hy : Packed pal y) (hno : ¬ Finds pal b)
    (hnext : pre.length < (y.2.bytes pal y.1).length ∨ ∃ d, pre = y.2.bytes pal y.1 ++ d) :
    pre.length < (y.2.bytes pal y.1).length := by
  rcases hnext with hlt | ⟨d, rfl⟩
  · exact hlt
  · exact absurd (h.full hpal hpk hy).1 hno

include hpal hpk hxs in
theorem Stage.stop (h : Stage pal xs S seen b .clear) (c : Bytes) (hS : S ++ c <+: packAll pal xs ++ rest)
    (hno : c = [] ∨ ¬ Finds pal { b with data := b.data ++ c }) (l : List (Obs (List RecvRes))) :
    Stage pal xs (S ++ c) (seen ++ l) { b with data := b.data ++ c } .stopped := by
  refine .recv h c hS (fun y hy pre ⟨hread, hlt⟩ hnext => ?_) l
  rcases hno with rfl | hno
  · rwa [append_nil]
  · exact reading_short hpal hpk (hread.append c) (hxs y hy) hno hnext

include hpal hpk hxs in
theorem Stage.stop_kept (h : Stage pal xs S seen b .kept)
    (hS : S <+: packAll pal xs ++ rest) (hno : ¬ Finds pal b) : Stage pal xs S seen b .stopped := by
  obtain ⟨done, zs, rfl, hover, hdisc, hP⟩ := h
  refine ⟨done, zs, rfl, hover, hdisc, fun y zs' hz => ?_⟩
  obtain ⟨pre, rfl, hbegins, -⟩ := hP y zs' hz
  have hy := hxs y (by rw [hz]; simp)
  rw [append_nil, hz] at hS
  exact ⟨pre, rfl, reading_short hpal hpk hbegins.reading hy hno ((next_message hS).imp_left And.left)⟩

theorem Stage.recv_clear (h : Stage pal xs S seen b .clear) (c : Bytes)
    (hS : S ++ c <+: packAll pal xs ++ rest) (l : List (Obs (List RecvRes))) :
    Stage pal xs (S ++ c) (seen ++ l) { b with data := b.data ++ c } .looking :=
  Upto.recv h c hS (fun _ _ _ hread _ => hread.1.append c) l

theorem Stage.recv_kept (h : Stage pal xs S seen b .kept) (c : Bytes)
    (hS : S ++ c <+: packAll pal xs ++ rest) (l : List (Obs (List RecvRes))) :
    Stage pal xs (S ++ c) (seen ++ l) { b with data := b.data ++ c } .kept := by
  refine .recv h c hS (fun _ _ pre hb _ => ?_) l
  obtain ⟨⟨hbuf, hheap, hdata⟩, hint⟩ := hb
  exact ⟨⟨hbuf, hheap, by rw [← hdata]⟩, hint⟩

variable (pal) in
theorem Begins.release (h : Begins pre b) : Reading pal pre ((msgBufEnv pal).rcFreeMessageResources b) := by
  obtain ⟨hbuf, hheap, hdata⟩ := h
  exact Begins.reading ⟨hbuf, hheap, hdata⟩

variable {o : RdmnetMessage}

theorem Outgoing.Arrives.isDisconnect {x : Outgoing} {cid : Uuid} (h : x.Arrives cid o) (hx : x.IsDisconnect) :
    o.vector = acnVectorRootBroker ∧ ofVector o.broker.vector = .disconnect := by
  cases x with
  | disconnect buflen reason =>
    obtain ⟨⟨hvec, -, hkind⟩, -⟩ := h
    exact ⟨hvec, by rw [hkind]; rfl⟩
  | _ => cases hx

theorem Outgoing.Arrives.disconnect {x : Outgoing} {cid : Uuid}
    (h : x.Arrives cid o) (hne : x.bytes pal cid ≠ []) (hvec : o.vector = acnVectorRootBroker)
    (hkind : ofVector o.broker.vector = .disconnect) : ∃ buflen, x = .disconnect buflen o.broker.disconnect := by
  have hbroker : ∀ {k : BrokerKind}, o.IsBroker cid k.vector → k = .disconnect := fun hk =>
    (ofVector_vector _).symm.trans (hk.2.2 ▸ hkind)
  have hrpt : ∀ {v : UInt32} {header : RptHeader}, ¬ o.IsRpt cid v header := fun hk =>
    absurd (hvec.symm.trans hk.1) (by decide)
  cases x with
  | disconnect buflen reason => exact ⟨buflen, by rw [h.2]⟩
  | rptClientList buflen vector entries =>
    -- the packing function takes only the vectors of client lists
    have hguard : ¬ (buflen < brokerPduFullHeaderSize ∨ entries = [] ∨
        (vector ≠ connectedClientList.vector ∧ vector ≠ clientAdd.vector ∧
          vector ≠ clientRemove.vector ∧
          vector ≠ clientEntryChange.vector)) := fun hg => hne (if_pos hg)
    have hv : ofVector vector = .disconnect := h.1.2.2 ▸ hkind
    exfalso
    refine hguard (.inr (.inr ⟨?_, ?_, ?_, ?_⟩)) <;> rintro rfl <;> exact absurd hv (by decide)
  | connectReply | uidAssignmentList | clientConnect | requestDynamicUids | fetchUidAssignmentList =>
    exact absurd (hbroker h.1) nofun
  | null | fetchClientList => exact absurd (hbroker h) nofun
  | request | notification | status => exact absurd h.1 hrpt

theorem Stage.consumed (h : Stage pal xs S seen b .inHand) (hint : b.msg.1.Internal)
    (hkind : ofVector b.msg.1.broker.vector ≠ .disconnect) : Stage pal xs S (seen ++ [.handled b.msg.1, .freed])
      ((msgBufEnv pal).rcFreeMessageResources b) .looking := by
  rcases h with ⟨y, harr, hup⟩ | hup
  · have hup' := hup.imp (fun _ _ hb => hb.release pal) [.handled b.msg.1, .freed]
      (sublist_append_left [Obs.handled b.msg.1] [Obs.freed])
    refine .landed (b.msg.1, .processNext) ?_ harr fun hd => hkind (harr.isDisconnect hd).2
    simpa only [handover, if_pos hint, nil_append] using hup'
  · exact hup.weaken (fun _ _ hb => hb.1.release pal) _

theorem Stage.told (h : Stage pal xs S seen b .inHand) (hint : ¬ b.msg.1.Internal) :
    Stage pal xs S (seen ++ [.handled b.msg.1]) b (.telling b.msg.1) := by
  refine ⟨rfl, hint, ?_⟩
  rcases h with ⟨y, harr, hup⟩ | hup
  · exact .inl ⟨y, harr, hup.imp (fun _ _ hb => hb) _ (List.Sublist.refl _)⟩
  · exact .inr (hup.weaken (fun _ _ hb => hb.1) _)

theorem Stage.delivered (h : Stage pal xs S seen b (.telling o))
    (hQ : ∀ y pre, Begins pre b → Q y pre) (action : MessageAction) (l : List (Obs (List RecvRes))) :
    Upto pal xs S (seen ++ .messageReceived o action :: l) [] [] Q := by
  obtain ⟨-, hint, ⟨y, harr, hup⟩ | hup⟩ := h
  · have hup' := hup.imp hQ (.messageReceived o action :: l)
      (List.Sublist.cons_cons (.messageReceived o action) (nil_sublist l))
    refine .landed (o, action) ?_ harr fun hd => hint ?_
    · simpa only [handover, if_neg hint, singleton_append] using hup'
    · exact ⟨(harr.isDisconnect hd).1, .inr (.inr (harr.isDisconnect hd).2)⟩
  · exact hup.weaken hQ _

theorem Stage.parts (hxs : ∀ x ∈ xs, Packed pal x) (h : Stage pal xs S seen b .inHand)
    (hvec : b.msg.1.vector = acnVectorRootBroker)
    (hkind : ofVector b.msg.1.broker.vector = .disconnect) (hdisc : ∃ x ∈ xs, x.2.IsDisconnect) :
    ∃ cid buflen, (cid, Outgoing.disconnect buflen b.msg.1.broker.disconnect) ∈ xs := by
  rcases h with ⟨y, harr, done, zs, rfl, -⟩ | ⟨done, zs, rfl, -, hdone, hP⟩
  · have hy := hxs y (by simp)
    obtain ⟨buflen, hd⟩ := harr.disconnect hy.2.1 hvec hkind
    refine ⟨y.1, buflen, ?_⟩
    rw [← hd]
    simp
  · -- all messages have been handed over, so that none of them is a Disconnect
    cases zs with
    | nil =>
      obtain ⟨x, hx, hd⟩ := hdisc
      simp only [append_nil] at hx
      exact absurd hd (hdone x hx)
    | cons y zs' =>
      obtain ⟨pre, -, -, hint⟩ := hP y zs' rfl
      exact absurd ⟨hvec, .inr (.inr hkind)⟩ hint

end Stages

/-! ### Runs of a connection that is up -/

def gained (a : Action (List RecvRes)) (s : Sys RecvBuf (List RecvRes)) : Bytes :=
  match a with
  | .recv rs => (taken (rcMsgBufSize - s.conn.recvBuf.data.length) rs).1
  | _ => []

/-- A step of the connection, with all bytes that `etcpal_recv` has returned. -/
def heardStep (pal : EtcPal) (a : Action (List RecvRes)) (x : Bytes × Sys RecvBuf (List RecvRes)) :
    Option (Bytes × Sys RecvBuf (List RecvRes)) :=
  (connStep (msgBufEnv pal) a x.2).map (x.1 ++ gained a x.2, ·)

/-- The connection has just come up: the callback for it is due, and the receive buffer is behind the
Connect Reply. -/
structure CameUp (s : Sys RecvBuf (List RecvRes)) : Prop where
  state : s.conn.state = .heartbeat
  thread : ∃ caller recvRes info, s.thread = .deliver caller recvRes (.connected info)
  buf : s.conn.recvBuf.buf = rcMsgBufInit
  heap : s.conn.recvBuf.msg.2 = .plenty
  stays : s.toRemove = false

/-- A step of a connection that stays up until a message ends it: the application does not call, the
heartbeats do not fail to come, and no close or error has been handled before. -/
def StaysUp (a : Action (List RecvRes)) (s : Sys RecvBuf (List RecvRes)) : Prop :=
  match a with
  | .connect .. | .reconnect .. | .disconnect _ | .unregister _ | .pollConnect => False
  | .lock r =>
    match s.thread with
    | .tickLock => s.conn.state = .heartbeat → etcpalTimerIsExpired s.conn.hbTimer r.now = false
    | .socketError _ _ => s.conn.state ≠ .heartbeat
    | _ => True
  | _ => True

/-- No complete message waits in the buffer when a close or an error is taken notice of: neither one
that came with it, in the same call of `rc_msg_buf_recv`, nor one behind a message that is kept for
another try. -/
def LosesNothing (pal : EtcPal) (a : Action (List RecvRes)) (s : Sys RecvBuf (List RecvRes)) :
    Prop :=
  match a with
  | .recv rs =>
    let got := taken (rcMsgBufSize - s.conn.recvBuf.data.length) rs
    s.conn.state = .heartbeat → s.thread.holding s.conn.retryCurrentMessage = false →
      got.2.getD .wouldBlock = .wouldBlock ∨ got.1 = [] ∨
        ¬ Finds pal { s.conn.recvBuf with data := s.conn.recvBuf.data ++ got.1 }
  | .pollErr _ =>
    s.conn.state = .heartbeat → s.conn.retryCurrentMessage = true → ¬ Finds pal s.conn.recvBuf
  | _ => True

instance (a : Action (List RecvRes)) (s : Sys RecvBuf (List RecvRes)) : Decidable (StaysUp a s) := by
  unfold StaysUp
  repeat' split
  all_goals infer_instance

instance (a : Action (List RecvRes)) (s : Sys RecvBuf (List RecvRes)) :
    Decidable (LosesNothing pal a s) := by
  unfold LosesNothing
  split <;> infer_instance

def Thread.Quiet : Thread → Prop
  | .tcpEstablished => False
  | .errorDeliver _ _ => False
  | .tickDeliver event => event = .none
  | _ => True

/-- The connection is up, and no message has been lost since the trace had length `n`. -/
structure Keeps (pal : EtcPal) (n : Nat) (xs : List (Uuid × Outgoing)) (S : Bytes)
    (s : Sys RecvBuf (List RecvRes)) : Prop where
  state : s.conn.state = .heartbeat
  since : n ≤ s.trace.length
  stays : s.toRemove = false
  quiet : s.thread.Quiet
  stage : Stage pal xs S (s.trace.drop n) s.conn.recvBuf
    (s.thread.phase s.conn.retryCurrentMessage)

/-- A Disconnect of the broker has ended the connection. -/
structure Parted (n : Nat) (xs : List (Uuid × Outgoing)) (s : Sys RecvBuf (List RecvRes)) :
    Prop where
  state : s.conn.state = .notStarted
  since : n ≤ s.trace.length
  stays : s.toRemove = false
  thread : s.thread ≠ .tcpEstablished
  reason : (∃ x ∈ xs, x.2.IsDisconnect) → ∃ cid buflen reason,
    (cid, Outgoing.disconnect buflen reason) ∈ xs ∧
      (.disconnected ⟨.gracefulRemoteInitiated, .ok, reason⟩ ∈ s.trace.drop n ∨ ∃ caller recvRes, s.thread =
          .deliver caller recvRes (.disconnected ⟨.gracefulRemoteInitiated, .ok, reason⟩))

/-! ### One step -/

section Steps

variable {n : Nat} {xs : List (Uuid × Outgoing)} {S S' rest : Bytes}
  {s s' : Sys RecvBuf (List RecvRes)}

theorem Keeps.next (h : Keeps pal n xs S s) (hst : s'.conn.state = .heartbeat)
    (hstay : s'.toRemove = s.toRemove) (hq : s'.thread.Quiet) (l : List (Obs (List RecvRes)))
    (htr : s'.trace = s.trace ++ l) (hstage : Stage pal xs S' (s.trace.drop n ++ l) s'.conn.recvBuf
      (s'.thread.phase s'.conn.retryCurrentMessage)) : Keeps pal n xs S' s' := by
  refine ⟨hst, ?_, hstay.trans h.stays, hq, ?_⟩
  · have := h.since
    rw [htr, length_append]
    omega
  · rwa [htr, drop_append_of_le_length h.since]

theorem Keeps.still (h : Keeps pal n xs S s) (hst : s'.conn.state = .heartbeat)
    (hstay : s'.toRemove = s.toRemove) (hq : s'.thread.Quiet) (htr : s'.trace = s.trace)
    (hstage : Stage pal xs S (s.trace.drop n) s'.conn.recvBuf
      (s'.thread.phase s'.conn.retryCurrentMessage)) : Keeps pal n xs S s' :=
  h.next hst hstay hq [] (by rw [htr, append_nil]) (by rwa [append_nil])

theorem Stage.seen_append {seen : List (Obs (List RecvRes))} {b : RecvBuf} {ph : Phase}
    (h : Stage pal xs S seen b ph) (l : List (Obs (List RecvRes))) : Stage pal xs S (seen ++ l) b ph := by
  have hup : ∀ {flight more P}, Upto pal xs S seen flight more P →
      Upto pal xs S (seen ++ l) flight more P := fun h => h.weaken (fun _ _ hb => hb) l
  cases ph with
  | clear | looking | kept | stopped => exact hup h
  | inHand => exact h.imp (fun ⟨y, harr, h⟩ => ⟨y, harr, hup h⟩) hup
  | telling o =>
    exact ⟨h.1, h.2.1, h.2.2.imp (fun ⟨y, harr, h⟩ => ⟨y, harr, hup h⟩) hup⟩

theorem recvResult_wouldBlock {got : Bool} {err : EtcPalErr}
    (h : recvResult got err = .wouldBlock) : got = false := by
  cases got with
  | false => rfl
  | true => cases err <;> simp [recvResult] at h

theorem finishReceive_phase (caller : Caller) (action : MessageAction) (s : Sys RecvBuf (List RecvRes)) :
    (finishReceive caller action s).thread.phase (finishReceive caller action s).conn.retryCurrentMessage =
      if action = .retryLater then .kept else .clear := by
  cases caller <;> simp [finishReceive, Thread.phase]

theorem finishReceive_quiet (caller : Caller) (action : MessageAction)
    (s : Sys RecvBuf (List RecvRes)) : (finishReceive caller action s).thread.Quiet := by
  cases caller <;> exact trivial

variable (hpal : pal.Lawful) (hpk : pal.Packs) (hxs : ∀ x ∈ xs, Packed pal x)

variable {caller : Caller}

include hpal hpk hxs in
theorem recvStep_keeps {retry : Bool} {rs : List RecvRes}
    (h : Keeps pal n xs S s) (hth : s.thread = .receive caller retry) (hok : LosesNothing pal (.recv rs) s)
    (hS : S ++ gained (.recv rs) s <+: packAll pal xs ++ rest) :
    Keeps pal n xs (S ++ gained (.recv rs) s) (recvStep (msgBufEnv pal) caller retry rs s) := by
  have hstage := h.stage
  have hrecv := rcMsgBufRecv_eq rs s.conn.recvBuf
  simp only [LosesNothing, hth, Thread.holding] at hok
  simp only [gained] at hS ⊢
  rw [hth] at hstage
  unfold recvStep
  dsimp only [msgBufEnv]
  rw [hrecv]
  generalize taken (rcMsgBufSize - s.conn.recvBuf.data.length) rs = got at hok hS ⊢
  cases retry with
  | true =>
    rw [if_pos (.inr rfl)]
    exact h.next h.state rfl trivial [_] rfl (hstage.recv_kept got.1 hS _)
  | false =>
    simp only [Bool.false_eq_true, or_false]
    by_cases hres : recvResult (!got.1.isEmpty) (got.2.getD .wouldBlock) = .ok
    · rw [if_pos hres]
      exact h.next h.state rfl trivial [_] rfl (hstage.recv_clear got.1 hS _)
    rw [if_neg hres]
    by_cases hblock : recvResult (!got.1.isEmpty) (got.2.getD .wouldBlock) = .wouldBlock
    · -- nothing came
      rw [if_neg (not_not_intro hblock)]
      have hnil : got.1 = [] := by simpa using recvResult_wouldBlock hblock
      refine h.next h.state rfl (finishReceive_quiet ..) [.received rs _] rfl ?_
      rw [finishReceive_phase, if_neg (by rintro ⟨⟩), hnil]
      show Stage pal xs (S ++ []) _ { s.conn.recvBuf with data := s.conn.recvBuf.data ++ [] } _
      rw [append_nil, append_nil]
      exact hstage.seen_append _
    · -- a close or an error
      rw [if_pos hblock]
      refine h.next h.state rfl trivial [_] rfl (hstage.stop hpal hpk hxs got.1 hS ?_ _)
      refine (hok h.state rfl).resolve_left fun hcode => ?_
      rw [hcode] at hres hblock
      cases hgot : got.1.isEmpty
      · rw [hgot] at hres
        exact hres rfl
      · rw [hgot] at hblock
        exact hblock rfl

variable {recvRes : EtcPalErr}

include hpal hpk hxs in
theorem parseStep_keeps {retry : Bool} (h : Keeps pal n xs S s) (hth : s.thread = .parse caller recvRes retry)
    (hs : parseStep (msgBufEnv pal) caller recvRes retry s = some s')
    (hS : S <+: packAll pal xs ++ rest) : Keeps pal n xs S s' := by
  have hstage := h.stage
  rw [hth] at hstage
  rcases parseStep_cases _ hs with ⟨rfl, rfl⟩ | ⟨rfl, hfinds, rfl⟩ | ⟨rfl, hno, hend⟩
  · exact h.still h.state rfl trivial rfl (.inr hstage)
  · exact h.next h.state rfl trivial [_] rfl (hstage.found hpal hpk hxs hS hfinds _)
  · have hclear := hstage.notFound hpal hpk hxs hS hno
    rcases hend with ⟨-, rfl⟩ | ⟨-, rfl⟩
    · exact h.still h.state rfl trivial rfl hclear
    · refine h.still h.state rfl (finishReceive_quiet ..) rfl ?_
      rw [finishReceive_phase, if_neg nofun]
      exact hclear

variable (pal) in
theorem handleRdmnetMessage_cases (now : Nat) (s : Sys RecvBuf (List RecvRes)) :
    (s.conn.recvBuf.msg.1.vector = acnVectorRootBroker ∧
      ofVector s.conn.recvBuf.msg.1.broker.vector = .disconnect ∧ handleRdmnetMessage (msgBufEnv pal) now s =
        (freeMessage (msgBufEnv pal) (resetConnection (msgBufEnv pal) { s with conn.hbTimer.resetTime := now }),
        .disconnected ⟨.gracefulRemoteInitiated, .ok, s.conn.recvBuf.msg.1.broker.disconnect⟩)) ∨
    (s.conn.recvBuf.msg.1.Internal ∧ ofVector s.conn.recvBuf.msg.1.broker.vector ≠ .disconnect ∧
      handleRdmnetMessage (msgBufEnv pal) now s =
        (freeMessage (msgBufEnv pal) { s with conn.hbTimer.resetTime := now }, .none)) ∨
    (¬ s.conn.recvBuf.msg.1.Internal ∧ handleRdmnetMessage (msgBufEnv pal) now s =
        ({ s with conn.hbTimer.resetTime := now }, .msgReceived s.conn.recvBuf.msg.1)) := by
  by_cases hvec : s.conn.recvBuf.msg.1.vector = acnVectorRootBroker
  · have hbroker : getBrokerMsg s.conn.recvBuf.msg.1 = s.conn.recvBuf.msg.1.broker :=
      if_neg (by rw [hvec]; decide)
    simp only [handleRdmnetMessage, msgBufEnv, hvec, if_true, hbroker, RdmnetMessage.Internal, true_and]
    cases hk : ofVector s.conn.recvBuf.msg.1.broker.vector <;> simp
  · refine .inr (.inr ⟨fun h => hvec h.1, ?_⟩)
    unfold handleRdmnetMessage
    exact if_neg hvec

include hxs in
theorem process_keeps {now : Nat} (h : Keeps pal n xs S s) (hth : s.thread = .process caller recvRes) :
    Keeps pal n xs S { (processMessage (msgBufEnv pal) now s).1 with
        thread := .deliver caller recvRes (processMessage (msgBufEnv pal) now s).2 } ∨
      Parted n xs { (processMessage (msgBufEnv pal) now s).1 with
        thread := .deliver caller recvRes (processMessage (msgBufEnv pal) now s).2 } := by
  have hstage := h.stage
  rw [hth] at hstage
  have hmsg : processMessage (msgBufEnv pal) now s = handleRdmnetMessage (msgBufEnv pal) now
      (s.emit (.handled s.conn.recvBuf.msg.1)) := by
    simp [processMessage, handleMessage, h.state, msgBufEnv]
  rcases handleRdmnetMessage_cases pal now (s.emit (.handled s.conn.recvBuf.msg.1)) with
    ⟨hvec, hkind, hres⟩ | ⟨hint, hkind, hres⟩ | ⟨hint, hres⟩ <;> rw [hmsg, hres]
  · -- a Disconnect
    refine .inr ⟨rfl, ?_, ?_, by rintro ⟨⟩, fun hdisc => ?_⟩
    · have := h.since
      simp only [freeMessage, Sys.emit, resetConnection, clearConnection_trace, length_append]
      omega
    · have hplace : (resetConnection (msgBufEnv pal) { s.emit (.handled s.conn.recvBuf.msg.1) with
          conn.hbTimer.resetTime := now }).place = s.place := resetConnection_place ..
      exact (congrArg Prod.snd hplace).trans h.stays
    · obtain ⟨cid, buflen, hmem⟩ := Stage.parts hxs hstage hvec hkind hdisc
      exact ⟨cid, buflen, _, hmem, .inr ⟨caller, recvRes, rfl⟩⟩
  · exact .inl (h.next h.state rfl trivial [.handled s.conn.recvBuf.msg.1, .freed]
      (append_assoc ..) (hstage.consumed hint hkind))
  · exact .inl (h.next h.state rfl trivial [.handled s.conn.recvBuf.msg.1] rfl (hstage.told hint))

theorem tickLock_keeps {r : SocketRes} (h : Keeps pal n xs S s) (hth : s.thread = .tickLock)
    (htime : etcpalTimerIsExpired s.conn.hbTimer r.now = false) :
    Keeps pal n xs S { (processConnectionState (msgBufEnv pal) r s).1 with
      thread := .tickDeliver (processConnectionState (msgBufEnv pal) r s).2 } := by
  have hstage := h.stage
  have htime' : (msgBufEnv pal).timerIsExpired s.conn.hbTimer r.now = false := htime
  rw [hth] at hstage
  unfold processConnectionState
  simp only [h.state, htime', Bool.false_eq_true, if_false]
  split
  · exact h.next rfl rfl rfl [.sentNull] rfl (hstage.seen_append _)
  · exact h.still h.state rfl rfl rfl hstage

theorem deliver_keeps {action : MessageAction}
    {event : RCConnEvent} (h : Keeps pal n xs S s) (hth : s.thread = .deliver caller recvRes event)
    (hnext : (deliverEventCallback (msgBufEnv pal) event action s).2 = .processNext) :
    Keeps pal n xs S { (deliverEventCallback (msgBufEnv pal) event action s).1 with
      thread := .parse caller recvRes false } := by
  have hstage := h.stage
  rw [hth] at hstage
  cases event with
  | msgReceived o =>
    cases hnext
    exact h.next h.state rfl trivial [.messageReceived o .processNext, .freed]
      (append_assoc ..) (Stage.delivered hstage (fun _ _ hb => hb.release pal) .processNext [.freed])
  | none => exact h.still h.state rfl trivial rfl hstage
  | _ => exact h.next h.state rfl trivial [_] rfl (hstage.seen_append _)

theorem deliverRetry_keeps {action : MessageAction}
    {event : RCConnEvent} (h : Keeps pal n xs S s) (hth : s.thread = .deliver caller recvRes event)
    (hnext : (deliverEventCallback (msgBufEnv pal) event action s).2 = .retryLater) :
    Keeps pal n xs S (finishReceive caller .retryLater
      (deliverEventCallback (msgBufEnv pal) event action s).1) := by
  have hstage := h.stage
  rw [hth] at hstage
  cases event with
  | msgReceived o =>
    cases hnext
    refine h.next h.state rfl (finishReceive_quiet ..) [.messageReceived o .retryLater] rfl ?_
    rw [finishReceive_phase, if_pos rfl]
    have hint : ¬ s.conn.recvBuf.msg.1.Internal := hstage.1 ▸ hstage.2.1
    exact Stage.delivered hstage (fun _ _ hb => ⟨hb, hint⟩) .retryLater []
  | _ => cases hnext

theorem Parted.next (h : Parted n xs s) (hst : s'.conn.state = s.conn.state)
    (hplace : s'.toRemove = s.toRemove) (hth : s'.thread ≠ .tcpEstablished)
    (hadds : ∃ l, s'.trace = s.trace ++ l ∧ ∀ caller recvRes info,
      s.thread = .deliver caller recvRes (.disconnected info) → .disconnected info ∈ l) : Parted n xs s' := by
  obtain ⟨l, htr, hsaid⟩ := hadds
  have hdrop : s'.trace.drop n = s.trace.drop n ++ l := by
    rw [htr, drop_append_of_le_length h.since]
  refine ⟨hst.trans h.state, ?_, hplace.trans h.stays, hth, fun hdisc => ?_⟩
  · have := h.since
    rw [htr, length_append]
    omega
  · obtain ⟨cid, buflen, reason, hmem, hseen⟩ := h.reason hdisc
    refine ⟨cid, buflen, reason, hmem, .inl ?_⟩
    rw [hdrop, mem_append]
    exact hseen.imp_right fun ⟨caller, recvRes, hd⟩ => hsaid caller recvRes _ hd

theorem Parted.still (h : Parted n xs s) (hst : s'.conn.state = s.conn.state)
    (hplace : s'.toRemove = s.toRemove) (hth : s'.thread ≠ .tcpEstablished)
    (hadds : Adds (fun _ => True) s s') (hno : s.thread.event = .none) : Parted n xs s' := by
  obtain ⟨l, htr, -⟩ := hadds
  refine h.next hst hplace hth ⟨l, htr, fun _ _ _ hd => ?_⟩
  rw [hd] at hno
  cases hno

variable (pal) in
theorem Parted.delivers (event : RCConnEvent) (action : MessageAction) (h : Parted n xs s)
    (hst : s'.conn.state = (deliverEventCallback (msgBufEnv pal) event action s).1.conn.state)
    (hplace : s'.toRemove = (deliverEventCallback (msgBufEnv pal) event action s).1.toRemove)
    (hth : s'.thread ≠ .tcpEstablished)
    (htr : s'.trace = (deliverEventCallback (msgBufEnv pal) event action s).1.trace)
    (hev : s.thread.event = event) : Parted n xs s' := by
  rw [deliverEventCallback_state] at hst
  obtain ⟨l, hrem, hadds, hmem⟩ : ∃ l,
      (deliverEventCallback (msgBufEnv pal) event action s).1.toRemove = s.toRemove ∧
      (deliverEventCallback (msgBufEnv pal) event action s).1.trace = s.trace ++ l ∧
        ∀ info, event = .disconnected info → .disconnected info ∈ l := by
    cases event with
    | none => exact ⟨[], rfl, (append_nil _).symm, nofun⟩
    | msgReceived o =>
      cases action with
      | processNext =>
        exact ⟨[.messageReceived o .processNext, .freed], rfl, append_assoc .., nofun⟩
      | retryLater => exact ⟨[_], rfl, rfl, nofun⟩
    | disconnected info => exact ⟨[.disconnected info], rfl, rfl, by rintro info ⟨⟩; simp⟩
    | connected | connectFailed => exact ⟨[_], rfl, rfl, nofun⟩
  refine h.next hst (hplace.trans hrem) hth ⟨l, htr.trans hadds, fun _ _ info hd => hmem info ?_⟩
  rw [← hev, hd]
  rfl

theorem Moves.parted {a : Action (List RecvRes)} (hm : Moves (msgBufEnv pal) s a s')
    (hup : StaysUp a s) (h : Parted n xs s) : Parted n xs s' := by
  have hhalt : s.conn.state.Halted := .inl h.state
  cases hm with
  | connect | reconnect | disconnect | unregister | pollConnect => exact hup.elim
  | pollErr err hth hp | pollIn hth hp | tick hth hl hrem =>
    exact h.still rfl rfl nofun (.same rfl) (by rw [hth]; rfl)
  | destroy hth hl hrem => exact absurd (h.stays.symm.trans hrem) nofun
  | recv caller retry input hth =>
    have hrem : (recvStep (msgBufEnv pal) caller retry input s).toRemove = s.toRemove ∧
        (recvStep (msgBufEnv pal) caller retry input s).thread ≠ .tcpEstablished := by
      unfold recvStep
      dsimp only
      split
      · exact ⟨rfl, nofun⟩
      · split
        · exact ⟨rfl, nofun⟩
        · exact ⟨rfl, by cases caller <;> exact nofun⟩
    exact h.still (recvStep_state caller retry input s) hrem.1 hrem.2
      (recvStep_adds (fun _ _ => trivial) ..) (by rw [hth]; rfl)
  | parse caller recvRes retry s' hth hs =>
    have hrem : s'.toRemove = s.toRemove ∧ s'.thread ≠ .tcpEstablished := by
      rcases parseStep_cases _ hs with ⟨-, rfl⟩ | ⟨-, -, rfl⟩ | ⟨-, -, ⟨-, rfl⟩ | ⟨-, rfl⟩⟩
      · exact ⟨rfl, nofun⟩
      · exact ⟨rfl, nofun⟩
      · exact ⟨rfl, nofun⟩
      · exact ⟨rfl, by cases caller <;> exact nofun⟩
    exact h.still (parseStep_state hs) hrem.1 hrem.2 (parseStep_adds (fun _ => trivial) hs)
      (by rw [hth]; rfl)
  | process r caller recvRes hth =>
    rw [processMessage_halted hhalt]
    exact h.still rfl rfl nofun (.same rfl) (by rw [hth]; rfl)
  | socketError r caller err hth =>
    rw [handleSocketError_halted hhalt]
    exact h.still rfl rfl nofun (.same rfl) (by rw [hth]; rfl)
  | tcpEstablished r hth => exact absurd hth h.thread
  | tickLock r hth =>
    rcases processConnectionState_halted (msgBufEnv pal) hhalt r with ⟨-, heq⟩ | ⟨hst, -⟩
    · rw [heq]
      exact h.still rfl rfl nofun (.same rfl) (by rw [hth]; rfl)
    · rw [h.state] at hst
      cases hst
  | deliver action caller recvRes event hth hnext | pollDeliver action event hth
  | tickDeliver action event hth =>
    exact h.delivers pal event action rfl rfl nofun rfl (by rw [hth]; rfl)
  | deliverRetry action caller recvRes event hth hnext | errorDeliver action caller event hth =>
    exact h.delivers pal event action rfl rfl (by cases caller <;> exact nofun) rfl
      (by rw [hth]; rfl)

include hpal hpk hxs in
theorem Moves.keeps {a : Action (List RecvRes)} (hm : Moves (msgBufEnv pal) s a s')
    (hup : StaysUp a s) (hok : LosesNothing pal a s)
    (hS : S ++ gained a s <+: packAll pal xs ++ rest) (h : Keeps pal n xs S s) :
    Keeps pal n xs (S ++ gained a s) s' ∨ Parted n xs s' := by
  have hstage := h.stage
  have hquiet := h.quiet
  cases hm with
  | connect | reconnect | disconnect | unregister | pollConnect => exact hup.elim
  | recv caller retry input hth => exact .inl (recvStep_keeps hpal hpk hxs h hth hok hS)
  | destroy hth hl hrem => exact absurd (h.stays.symm.trans hrem) nofun
  | tcpEstablished r hth | errorDeliver action caller event hth | pollDeliver action event hth =>
    rw [hth] at hquiet
    exact hquiet.elim
  | socketError r caller err hth =>
    simp only [StaysUp, hth] at hup
    exact absurd h.state hup
  | _ => ?_
  -- the other steps get nothing from the socket
  all_goals
    simp only [gained, append_nil] at hS ⊢
  case pollErr err hth hp =>
    rw [hth] at hstage
    refine .inl (h.still h.state rfl trivial rfl ?_)
    cases hflag : s.conn.retryCurrentMessage with
    | true =>
      rw [hflag] at hstage
      exact hstage.stop_kept hpal hpk hxs hS (hok h.state hflag)
    | false =>
      rw [hflag] at hstage
      have hstop := Upto.weaken hstage (fun _ _ hb => hb.2) []
      rwa [append_nil] at hstop
  case pollIn hth hp | tick hth hl hrem =>
    rw [hth] at hstage
    exact .inl (h.still h.state rfl trivial rfl hstage)
  case parse caller recvRes retry hth hs =>
    exact .inl (parseStep_keeps hpal hpk hxs h hth hs hS)
  case process r caller recvRes hth => exact process_keeps hxs h hth
  case tickLock r hth =>
    simp only [StaysUp, hth] at hup
    exact .inl (tickLock_keeps h hth (hup h.state))
  case deliver action caller recvRes event hth hnext => exact .inl (deliver_keeps h hth hnext)
  case deliverRetry action caller recvRes event hth hnext =>
    exact .inl (deliverRetry_keeps h hth hnext)
  case tickDeliver action event hth =>
    rw [hth] at hstage hquiet
    cases hquiet
    exact .inl (h.still h.state rfl trivial rfl hstage)

end Steps

/-- **No message that arrived before the end of a connection is lost.**  Let the connection have come
up in `s0`, let `S` be the bytes that `etcpal_recv` has returned since, with those that were in the
buffer, and let the thread be about to handle a close or an error.  If the steps all meet
`LosesNothing` and the connection is still up, then all messages at the beginning of `S` have been
handed over since `s0`.  If one of them is a Disconnect, the connection is not up any more: the
application was told that the broker ended it. -/
theorem messages_before_close_handled (hpal : pal.Lawful) (hpk : pal.Packs)
    {s0 s : Sys RecvBuf (List RecvRes)} {S : Bytes} (h0 : CameUp s0)
    (h : Runs (heardStep pal) (fun a x => StaysUp a x.2 ∧ LosesNothing pal a x.2)
      (s0.conn.recvBuf.data, s0) (S, s))
    {caller : Option Caller} {err : EtcPalErr} (hth : s.thread = .socketError caller err)
    (xs : List (Uuid × Outgoing)) (hxs : ∀ x ∈ xs, Packed pal x) (rest : Bytes)
    (hS : S = packAll pal xs ++ rest) :
    (s.conn.state = .heartbeat → HandedOver (s.trace.drop s0.trace.length) xs []) ∧
      ((∃ x ∈ xs, x.2.IsDisconnect) → s.conn.state ≠ .heartbeat ∧
        ∃ cid buflen reason, (cid, Outgoing.disconnect buflen reason) ∈ xs ∧
          .disconnected ⟨.gracefulRemoteInitiated, .ok, reason⟩ ∈ s.trace.drop s0.trace.length) := by
  have hinit : Keeps pal s0.trace.length xs s0.conn.recvBuf.data s0 := by
    obtain ⟨c, r, info, hth0⟩ := h0.thread
    refine ⟨h0.state, le_refl _, h0.stays, by rw [hth0]; trivial, ?_⟩
    rw [hth0, drop_length]
    exact ⟨[], xs, rfl, ⟨[], .nil, .refl _⟩, nofun,
      fun _ _ _ => ⟨_, rfl, Begins.reading ⟨h0.buf, h0.heap, rfl⟩⟩⟩
  -- by induction on the run, for the bytes that have been received up to there
  have hrun := Runs.keeps (I := fun x => x.1 <+: packAll pal xs ++ rest →
      Keeps pal s0.trace.length xs x.1 x.2 ∨ Parted s0.trace.length xs x.2) ?_ h fun _ => .inl hinit
  · rcases hrun (hS ▸ prefix_refl _) with hk | hpart
    · have hstage := hk.stage
      rw [hth] at hstage
      obtain ⟨done, zs, rfl, hover, hdone, hP⟩ := hstage
      have hnil : zs = [] := by
        cases zs with
        | nil => rfl
        | cons y zs' =>
          obtain ⟨pre, hSpre, hlt⟩ := hP y zs' rfl
          rw [hS, append_nil, nil_append, packAll_append, append_assoc, append_cancel_left_eq] at hSpre
          have hlen := congrArg List.length hSpre
          simp only [packAll, flatMap_cons, length_append] at hlen
          omega
      subst hnil
      rw [append_nil, append_nil]
      refine ⟨fun _ => hover, fun ⟨x, hx, hd⟩ => absurd hd (hdone x hx)⟩
    · refine ⟨fun hst => absurd (hpart.state.symm.trans hst) nofun, fun hdisc => ⟨?_, ?_⟩⟩
      · rw [hpart.state]
        exact nofun
      · obtain ⟨cid, buflen, reason, hmem, hseen⟩ := hpart.reason hdisc
        refine ⟨cid, buflen, reason, hmem, hseen.resolve_right ?_⟩
        rintro ⟨c, r, hd⟩
        rw [hth] at hd
        cases hd
  · rintro a ⟨S1, t⟩ ⟨S2, t'⟩ ⟨hup, hok⟩ hI hs hpre
    obtain ⟨t'', ht, heq⟩ := Option.map_eq_some_iff.mp hs
    cases heq
    have hm := connStep_moves (msgBufEnv pal) ht
    rcases hI ((prefix_append ..).trans hpre) with hk | hpart
    · exact hm.keeps hpal hpk hxs hup hok hpre hk
    · exact .inr (hm.parted hup hpart)

def sampleUp : Sys RecvBuf (List RecvRes) :=
  played (connStep (msgBufEnv .reference)) anyStep
    (.connect default default :: quietTick (fastConnect 0) ++
      [.tick, .recv (recvBytes sampleReply), .parse, .lock (fastConnect 0)]) sampleConn
    (by decide +kernel)

theorem sampleUp_cameUp : CameUp sampleUp :=
  ⟨by decide +kernel, ⟨.tick, .ok, ⟨default, ⟨0, 1⟩, ⟨0, 2⟩, some default⟩, by decide +kernel⟩,
    by decide +kernel, by decide +kernel, by decide +kernel⟩

def sampleDisconnect : Uuid × Outgoing := (default, .disconnect 46 3)

theorem sampleDisconnect_packed : Packed .reference sampleDisconnect :=
  ⟨trivial, by decide +kernel, by decide +kernel⟩

/-- A Disconnect is received, and the close comes in the call after it. -/
theorem messages_before_close_handled_disconnect :
    ∃ s S, Runs (heardStep .reference) (fun a x => StaysUp a x.2 ∧ LosesNothing .reference a x.2)
        (sampleUp.conn.recvBuf.data, sampleUp) (S, s) ∧ s.conn.state ≠ .heartbeat ∧ ∃ cid buflen reason,
        (cid, Outgoing.disconnect buflen reason) ∈ [sampleDisconnect] ∧
          .disconnected ⟨.gracefulRemoteInitiated, .ok, reason⟩ ∈ s.trace.drop sampleUp.trace.length := by
  obtain ⟨⟨S, s⟩, hr, hx⟩ := Runs.exists_of_play (s := (sampleUp.conn.recvBuf.data, sampleUp))
    (heardStep .reference) (fun a x => StaysUp a x.2 ∧ LosesNothing .reference a x.2)
    (fun x => (x.1, x.2.thread))
    (packAll .reference [sampleDisconnect], .socketError (some .tick) .connClosed)
    [.deliver .processNext, .parse, .recv (recvBytes (packAll .reference [sampleDisconnect])), .parse,
      .lock (fastConnect 0), .deliver .processNext, .parse, .recv [.code .ok]] (by decide +kernel)
  obtain ⟨hS, hth⟩ := Prod.mk.inj hx
  refine ⟨s, S, hr, ?_⟩
  refine (messages_before_close_handled EtcPal.reference_lawful EtcPal.reference_packs sampleUp_cameUp hr
    hth [sampleDisconnect] (fun x hx => ?_) [] (hS.trans (append_nil _).symm)).2
    ⟨sampleDisconnect, mem_singleton_self _, trivial⟩
  rw [mem_singleton.mp hx]
  exact sampleDisconnect_packed

/-- A Disconnect and the close come in one call of `rc_msg_buf_recv`. -/
def sampleClosed : Bytes × Sys RecvBuf (List RecvRes) :=
  played (heardStep .reference) (fun a x => StaysUp a x.2)
    [.deliver .processNext, .parse, .recv (recvBytes (packAll .reference [sampleDisconnect]) ++ [.code .ok])]
    (sampleUp.conn.recvBuf.data, sampleUp) (by decide +kernel)

def sampleTold : Sys RecvBuf (List RecvRes) :=
  played (connStep (msgBufEnv .reference)) anyStep [.lock (fastConnect 0), .deliver .processNext]
    sampleClosed.2 (by decide +kernel)

/-- The Disconnect is never handled, and what the application is told is that the connection was
closed. -/
theorem disconnect_dropped : Packed .reference sampleDisconnect ∧
      Runs (heardStep .reference) (fun a x => StaysUp a x.2) (sampleUp.conn.recvBuf.data, sampleUp)
        sampleClosed ∧ sampleClosed.1 = packAll .reference [sampleDisconnect] ∧
      sampleClosed.2.thread = .socketError (some .tick) .connClosed ∧ sampleClosed.2.conn.state = .heartbeat ∧
      Runs (connStep (msgBufEnv .reference)) anyStep sampleClosed.2 sampleTold ∧
      (∀ o, .handled o ∉ sampleTold.trace.drop sampleUp.trace.length) ∧
      .disconnected ⟨.abruptClose, .connClosed, 0⟩ ∈ sampleTold.trace.drop sampleUp.trace.length := by
  have htrace : sampleTold.trace.drop sampleUp.trace.length =
      [.connected ⟨default, ⟨0, 1⟩, ⟨0, 2⟩, some default⟩,
        .received (recvBytes (packAll .reference [sampleDisconnect]) ++ [.code .ok]) .connClosed,
        .closed 3, .disconnected ⟨.abruptClose, .connClosed, 0⟩] := by
    decide +kernel
  rw [htrace]
  exact ⟨sampleDisconnect_packed, .played _ _, by decide +kernel, by decide +kernel,
    by decide +kernel, .played _ _, by simp, by simp⟩

end RDMnet
