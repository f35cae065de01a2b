import RDMnet.MsgBuf.Stream
import RDMnet.Prot.Pack

/-!
# Reading what was packed

Every parse function, in the state in which the header of its PDU has just been read, takes exactly
the bytes that the packing functions wrote for it and fills in the values that they were given.
-/

namespace RDMnet

open Out List PduBlockState Event ClientEntryState ClientListState CString

/-- A length that no message of the library itself lacks: the PDU is taken as a whole, wherever the
stream is cut. -/
def Event.Sound (x : Event) : Prop := x.Meets .whole ∧ (x.Held .whole → x.CutSafe)

/-- The parser takes `k` bytes of `d`, which make up the block, and the message is then `m'`. -/
structure Reads {σ μ : Type} (p : ParseFn σ μ) (s : σ) (m : μ) (d : Bytes) (k : Nat) (m' : μ) :
    Prop where
  res : (p s m d).res = .fullBlockParseOk
  used : (p s m d).used = k
  msg : (p s m d).msg = m'
  sound : (p s m d).Clean Sound

variable {σ μ : Type}

theorem fixedData_reads {n : Nat} {read : Bytes → μ → μ} {s : σ} {m m' : μ}
    {data e : Bytes} (h : data.length = n) (hread : read (data ++ e) m = m') :
    Reads (fixedData n read) s m (data ++ e) n m' := by
  have hle : n ≤ (data ++ e).length := by
    rw [length_append, h]
    exact Nat.le_add_right _ _
  have ho : fixedData n read s m (data ++ e) = ⟨s, m', n, .fullBlockParseOk, []⟩ := by
    simp only [fixedData, if_pos hle, hread]
  exact ⟨by rw [ho], by rw [ho], by rw [ho], by rw [ho]; simp [Clean]⟩

theorem Reads.iterate_next {p : Parser UInt8 σ μ (Option ParseRes) Event}
    {meas : σ → μ → Bytes → Nat} (hd : p.Decreases meas) {s s1 : σ} {m m1 m' : μ} {d : Bytes}
    {u k : Nat} {lg : List Event} (h1 : p s m d = ⟨s1, m1, u, none, lg⟩)
    (hlg : ∀ x ∈ lg, x.Sound) (h : Reads (p.iterate meas .stuck) s1 m1 (d.drop u) k m') :
    Reads (p.iterate meas .stuck) s m d (u + k) m' := by
  have ho := Parser.iterate_none hd .stuck (congrArg Out.res h1)
  simp only [h1] at ho
  refine ⟨?_, ?_, ?_, ?_⟩
  · rw [ho]; exact h.res
  · rw [ho]; exact congrArg (u + ·) h.used
  · rw [ho]; exact h.msg
  · rw [ho]; exact clean_append hlg h.sound

theorem Reads.iterate_last {p : Parser UInt8 σ μ (Option ParseRes) Event}
    {meas : σ → μ → Bytes → Nat} (hd : p.Decreases meas) {s s1 : σ} {m m1 : μ} {d : Bytes}
    {u : Nat} {lg : List Event} (h1 : p s m d = ⟨s1, m1, u, some .fullBlockParseOk, lg⟩)
    (hlg : ∀ x ∈ lg, x.Sound) : Reads (p.iterate meas .stuck) s m d u m1 := by
  have ho := Parser.iterate_some hd .stuck (congrArg Out.res h1)
  simp only [h1] at ho
  exact ⟨by rw [ho], by rw [ho], by rw [ho], by rw [ho]; exact hlg⟩

/-! ### Lists of fixed-size entries -/

def Arr.pushAll {α : Type} (a : Arr α) (xs : List α) : Arr α := xs.foldl Arr.push a

@[simp] theorem Arr.toList_pushAll {α : Type} (a : Arr α) (xs : List α) :
    (a.pushAll xs).toList = a.toList ++ xs := by
  induction xs generalizing a with
  | nil => simp [Arr.pushAll]
  | cons x xs ih =>
    have := ih (a.push x)
    simp only [Arr.pushAll, foldl_cons] at this ⊢
    rw [this, Arr.toList_push, append_assoc]
    rfl

theorem Event.sound_alloc : Sound (.alloc true) := ⟨trivial, fun _ => rfl⟩

/-- A round reads one element of a list and appends it; the round for the last element ends the list. -/
def ReadsRound {α : Type} (p : Parser UInt8 σ (MsgList α × Heap) (Option ParseRes) Event)
    (st : Nat → σ) (size : Nat) (x : Bytes) (y : α) : Prop :=
  ∀ done (a : Arr α) d, a.isFreed = false → done + x.length ≤ size → ∃ res lg,
    (∀ y ∈ lg, Sound y) ∧ (done + x.length < size → res = none) ∧
    (done + x.length = size → res = some .fullBlockParseOk) ∧
    p (st done) (⟨a, false⟩, .plenty) (x ++ d) =
      ⟨st (done + x.length), (⟨a.push y, false⟩, .plenty), x.length, res, lg⟩

theorem Reads.iterate_list {α γ : Type} {p : Parser UInt8 σ (MsgList α × Heap) (Option ParseRes) Event}
    {meas : σ → MsgList α × Heap → Bytes → Nat} (hd : p.Decreases meas) {st : Nat → σ} {size : Nat}
    {pack : γ → Bytes} {image : γ → α} (e : Bytes) :
    ∀ (xs : List γ) (done : Nat) (a : Arr α), xs ≠ [] → a.isFreed = false →
      done + (xs.flatMap pack).length = size →
      (∀ x ∈ xs, 0 < (pack x).length ∧ ReadsRound p st size (pack x) (image x)) →
      Reads (p.iterate meas .stuck) (st done) (⟨a, false⟩, .plenty) (xs.flatMap pack ++ e)
        (xs.flatMap pack).length (⟨a.pushAll (xs.map image), false⟩, .plenty) := by
  intro xs
  induction xs with
  | nil => intro _ _ h; exact absurd rfl h
  | cons x xs ih =>
    intro done a _ hfreed hdone hxs
    rw [flatMap_cons, length_append] at hdone ⊢
    obtain ⟨res, lg, hsound, hnext, hlast, hround⟩ :=
      (hxs x mem_cons_self).2 done a (xs.flatMap pack ++ e) hfreed (by omega)
    rw [append_assoc]
    by_cases hne : xs = []
    · subst hne
      rw [hlast hdone] at hround
      exact .iterate_last hd hround hsound
    · obtain ⟨x', xs', rfl⟩ := exists_cons_of_ne_nil hne
      have hpos := (hxs x' (mem_cons_of_mem _ mem_cons_self)).1
      rw [hnext (by rw [flatMap_cons, length_append] at hdone; omega)] at hround
      refine .iterate_next hd hround hsound ?_
      rw [drop_left]
      exact ih _ _ hne (Arr.isFreed_push _ _) (by omega) fun y hy => hxs y (mem_cons_of_mem _ hy)

theorem length_flatMap_of_size {γ : Type} {size : Nat} {pack : γ → Bytes}
    (h : ∀ x, (pack x).length = size) (xs : List γ) : (xs.flatMap pack).length = xs.length * size := by
  simp [length_flatMap, h]

theorem parseGenericList_reads {α γ : Type} {size : Nat} {unpack : Bytes → α} {pack : γ → Bytes}
    {image : γ → α} (hsize : 0 < size) (hpack : ∀ x, (pack x).length = size)
    (hread : ∀ x e, unpack (pack x ++ e) = image x) (e : Bytes) {xs : List γ} (h : xs ≠ []) :
    Reads (parseGenericList size unpack) ⟨xs.length * size, 0⟩ (⟨.null, false⟩, .plenty)
      (xs.flatMap pack ++ e) (xs.length * size) (⟨Arr.null.pushAll (xs.map image), false⟩, .plenty) := by
  have hround (x : γ) : ReadsRound (genericListRound size unpack) (⟨xs.length * size, ·⟩)
      (xs.length * size) (pack x) (image x) := by
    intro done a d hfreed _
    rw [hpack]
    have hlong : ¬ (pack x ++ d).length < size := by
      rw [length_append, hpack]
      omega
    refine ⟨if done + size ≥ xs.length * size then some .fullBlockParseOk else none, [.alloc true],
      by simp [sound_alloc], fun hlt => if_neg (not_le.mpr hlt),
      fun heq => if_pos (le_of_eq heq.symm), ?_⟩
    simp only [genericListRound, hlong, hfreed, hread, Heap.alloc_plenty, if_false, if_true, Bool.false_eq_true]
  have hlen := length_flatMap_of_size hpack xs
  have hlist := Reads.iterate_list (genericListRound_decreases hsize) e xs 0 .null h rfl
    ((Nat.zero_add _).trans hlen) fun x _ => ⟨by rw [hpack]; exact hsize, hround x⟩
  rwa [hlen] at hlist

/-! ### Client entries -/

section Entry

variable {pal : EtcPal} (hpal : pal.Lawful) (hpk : pal.Packs)

def RptClientEntry.onWire (entry : RptClientEntry) : RptClientEntry :=
  { entry with type := entry.type.toUInt8.toUInt32 }

def packRptClientEntry (pal : EtcPal) (entry : RptClientEntry) : Bytes :=
  packClientEntryHeader pal rptClientEntrySize kClientProtocolRPT entry.cid ++
    packRptClientEntryData entry

theorem length_packRptClientEntryData (entry : RptClientEntry) :
    (packRptClientEntryData entry).length = rptClientEntryDataSize := by
  simp [packRptClientEntryData, packUid]

include hpk in
theorem length_packClientEntryHeader (n : Nat) (v : UInt32) (cid : Uuid) :
    (packClientEntryHeader pal n v cid).length = clientEntryHeaderSize := by
  simp [packClientEntryHeader, hpk.extLen_length]

include hpk in
theorem length_packRptClientEntry (entry : RptClientEntry) :
    (packRptClientEntry pal entry).length = rptClientEntrySize := by
  rw [packRptClientEntry, length_append, length_packClientEntryHeader hpk, length_packRptClientEntryData]
  rfl

theorem unpackRptClientEntryData_pack (entry x : RptClientEntry) (e : Bytes) :
    unpackRptClientEntryData (packRptClientEntryData entry ++ e) x = { entry.onWire with cid := x.cid } := by
  have h7 : (packUid entry.uid ++ [entry.type.toUInt8]).length = 7 := rfl
  have hbind : vecAt 16 (packRptClientEntryData entry ++ e) 7 = entry.bindingCid := by
    rw [packRptClientEntryData, append_assoc, vecAt_skip (le_of_eq h7), h7, Nat.sub_self, vecAt_pack]
  have htype : u8At (packRptClientEntryData entry ++ e) 6 = entry.type.toUInt8 := rfl
  have hid : u32At (packRptClientEntryData entry ++ e) 2 = entry.uid.id := by
    simp only [packRptClientEntryData, packUid, append_assoc]
    rw [u32At_skip (le_of_eq (length_packU16 _)), length_packU16, Nat.sub_self, u32At_pack]
  have hmanu : u16At (packRptClientEntryData entry ++ e) 0 = entry.uid.manu := by
    simp only [packRptClientEntryData, packUid, append_assoc]
    rw [u16At_pack]
  simp only [unpackRptClientEntryData, unpackUid, hbind, htype, hid, hmanu, RptClientEntry.onWire]

variable {n : Nat}

include hpal hpk in
theorem packClientEntryHeader_reads (hn : n < 1048576) (v : UInt32) (cid : Uuid) (e : Bytes) :
    pal.acnPduLength (packClientEntryHeader pal n v cid ++ e) = n ∧
    u32At (packClientEntryHeader pal n v cid ++ e) 3 = v ∧
    vecAt 16 (packClientEntryHeader pal n v cid ++ e) 7 = cid := by
  have h3 := hpk.extLen_length n
  have h7 : (pal.acnPduPackExtLen n ++ packU32 v).length = 7 := by
    rw [length_append, h3, length_packU32]
  refine ⟨?_, ?_, ?_⟩
  · simp only [packClientEntryHeader, append_assoc]
    rw [hpal.length_append _ _ (le_of_eq h3.symm), hpk.extLen_read n hn]
  · simp only [packClientEntryHeader, append_assoc]
    rw [u32At_skip (le_of_eq h3), h3, Nat.sub_self, u32At_pack]
  · rw [packClientEntryHeader, append_assoc, vecAt_skip (le_of_eq h7), h7, Nat.sub_self, vecAt_pack]

abbrev ClientEntryState.headed (enclosing : Nat) : ClientEntryState :=
  (ClientEntryState.start enclosing).known kClientProtocolRPT rptClientEntrySize

def ClientEntryState.through (enclosing : Nat) : ClientEntryState :=
  ⟨enclosing, kClientProtocolRPT, ⟨rptClientEntryDataSize, rptClientEntryDataSize, false, false⟩⟩

include hpal hpk in
theorem parseSingleClientEntry_pack {μ : Type} {setProtocol : UInt32 → μ → μ}
    {modifyEntry : (RptClientEntry → RptClientEntry) → μ → μ} {enclosing : Nat}
    (henc : rptClientEntrySize ≤ enclosing) (m : μ) (entry : RptClientEntry) (e : Bytes) :
    parseSingleClientEntry pal setProtocol modifyEntry (.start enclosing) m (packRptClientEntry pal entry ++ e) =
    ⟨.through enclosing, modifyEntry (unpackRptClientEntryData (packRptClientEntryData entry ++ e))
        (setProtocol kClientProtocolRPT (modifyEntry (fun x => { x with cid := entry.cid }) m)),
      rptClientEntrySize, .fullBlockParseOk,
      [.entryHeader rptClientEntrySize (.headed enclosing)]⟩ := by
  rw [packRptClientEntry, append_assoc]
  obtain ⟨hlen, hprot, hcid⟩ := packClientEntryHeader_reads hpal hpk
    (show rptClientEntrySize < 1048576 by decide) kClientProtocolRPT entry.cid
    (packRptClientEntryData entry ++ e)
  have h23 := length_packClientEntryHeader hpk rptClientEntrySize kClientProtocolRPT entry.cid
  have hdrop : (packClientEntryHeader pal rptClientEntrySize kClientProtocolRPT entry.cid ++
      (packRptClientEntryData entry ++ e)).drop clientEntryHeaderSize =
      packRptClientEntryData entry ++ e := by
    rw [← h23, drop_left]
  rw [parseSingleClientEntry_header m rfl
    (by rw [length_append, h23]; exact Nat.le_add_right _ _) (by rw [hprot]; decide)
    (by rw [hlen]; exact henc), hprot, hlen, hcid, hdrop,
    parseSingleClientEntry_known (show kClientProtocolRPT ≠ kClientProtocolUnknown by decide),
    clientEntryData_good]
  · rw [if_pos (by rw [length_append, length_packRptClientEntryData]; exact Nat.le_add_right _ _)]
    rfl
  · simp only [Bad, known]
    decide

/-! ### Client lists -/

theorem Arr.modifyLast_push {α : Type} (f : α → α) (a : Arr α) (x : α) :
    (a.push x).modifyLast f = a.push (f x) := by
  cases a <;> rfl

def ClientListState.between (size done : Nat) : ClientListState :=
  ⟨⟨size, done, false, false⟩, default⟩

variable {size : Nat}

include hpal hpk in
theorem rptClientListRound_pack (total : Nat) {done : Nat} (hroom : done + 46 ≤ size)
    (hsize : size < 1048576) {a : Arr RptClientEntry} (hfreed : a.isFreed = false) (more : Bool)
    (entry : RptClientEntry) (e : Bytes) :
    rptClientListRound pal total (.between size done) (⟨a, more⟩, .plenty)
      (packRptClientEntry pal entry ++ e) =
    ⟨.between size (done + 46), (⟨a.push entry.onWire, more⟩, .plenty), 46,
      if done + 46 ≠ size then none else some .fullBlockParseOk,
      [.listRoom (size - done), .listEntry 46 (size - done) (.headed size), .alloc true,
        .entryHeader 46 (.headed size), .check true]⟩ := by
  obtain ⟨hlen, hprot, -⟩ := packClientEntryHeader_reads hpal hpk
    (show rptClientEntrySize < 1048576 by decide) kClientProtocolRPT entry.cid
    (packRptClientEntryData entry ++ e)
  rw [← append_assoc, ← packRptClientEntry] at hlen hprot
  have hlong : 46 ≤ (packRptClientEntry pal entry ++ e).length := by
    rw [length_append, length_packRptClientEntry hpk]
    exact Nat.le_add_right _ _
  have hsub : sizeSub size done = size - done := sizeSub_of_le (by omega) (by omega)
  have hentry : parseLastClientEntry pal (.start size) (⟨a.push default, more⟩, .plenty)
      (packRptClientEntry pal entry ++ e) =
      ⟨.through size, (⟨a.push entry.onWire, more⟩, .plenty), 46, .fullBlockParseOk,
        [.entryHeader 46 (.headed size)]⟩ := by
    unfold parseLastClientEntry
    rw [parseSingleClientEntry_pack hpal hpk (show 46 ≤ size by omega)]
    simp only [Arr.modifyLast_push, unpackRptClientEntryData_pack]
    rfl
  have hlist : rptClientListEntry pal ⟨⟨size, done, false, true⟩, .start size⟩
      (⟨a.push default, more⟩, .plenty) (packRptClientEntry pal entry ++ e) =
      ⟨.between size (done + 46), (⟨a.push entry.onWire, more⟩, .plenty), 46,
        if done + 46 ≠ size then none else some .fullBlockParseOk,
        [.entryHeader 46 (.headed size), .check true]⟩ := by
    rw [rptClientListEntry, hentry]
    simp only
    rw [if_pos ⟨hlong, hroom⟩]
    rfl
  have hlt : ¬ (packRptClientEntry pal entry ++ e).length < clientEntryHeaderSize := by
    have : ¬ (packRptClientEntry pal entry ++ e).length < 23 := by omega
    exact this
  simp only [rptClientListRound, between, show done < size by omega, hlt, hprot,
    hlen, hfreed, Heap.alloc_plenty, not_true_eq_false, if_false, if_true, Bool.false_eq_true,
    ne_eq, hlist, room, hsub]
  rfl

include hpal hpk in
theorem rptClientListRound_reads (total : Nat) (hsize : size < 1048576) (x : RptClientEntry) :
    ReadsRound (rptClientListRound pal total) (.between size) size (packRptClientEntry pal x) x.onWire := by
  intro done a d hfreed hroom
  rw [length_packRptClientEntry hpk] at hroom ⊢
  have hroom : done + 46 ≤ size := hroom
  refine ⟨_, _, ?_, fun hlt => if_pos (Nat.ne_of_lt hlt), fun heq => if_neg (not_not.mpr heq),
    rptClientListRound_pack hpal hpk total hroom hsize hfreed false x d⟩
  have h1 : 23 ≤ size - done := by omega
  have h2 : 46 ≤ size - done := by omega
  have h3 : 46 ≤ size := by omega
  have hprot : kClientProtocolRPT ≠ kClientProtocolUnknown := by decide
  simp only [mem_cons, not_mem_nil, or_false, forall_eq_or_imp, forall_eq]
  exact ⟨⟨fun _ => h1, fun _ => trivial⟩, ⟨h2, fun _ => trivial⟩, sound_alloc,
    ⟨⟨hprot, by decide, h3⟩, fun _ => ⟨hprot, h3⟩⟩, trivial, fun _ => rfl⟩

include hpal hpk in
theorem parseClientList_reads (xs : List RptClientEntry) (hxs : xs ≠ [])
    (hsize : xs.length * 46 < 1048576) (e : Bytes) : Reads (parseClientList pal) (.between (xs.length * 46) 0)
      (⟨kClientProtocolUnknown, ⟨.null, false⟩⟩, .plenty)
      (xs.flatMap (packRptClientEntry pal) ++ e) (xs.length * 46)
      (⟨kClientProtocolRPT, ⟨Arr.null.pushAll (xs.map RptClientEntry.onWire), false⟩⟩, .plenty) := by
  have hbytes := length_flatMap_of_size (length_packRptClientEntry hpk) xs
  have hlist := Reads.iterate_list
    (rptClientListRound_decreases (xs.flatMap (packRptClientEntry pal) ++ e).length) e xs 0 .null hxs rfl
    ((Nat.zero_add _).trans hbytes) fun x _ => ⟨by rw [length_packRptClientEntry hpk]; decide,
      rptClientListRound_reads hpal hpk _ hsize x⟩
  rw [hbytes] at hlist
  have hpos : 0 < xs.length := length_pos_iff.mpr hxs
  -- the protocol of the list is that of its first entry
  have hfirst : 23 ≤ (xs.flatMap (packRptClientEntry pal) ++ e).length ∧
      u32At (xs.flatMap (packRptClientEntry pal) ++ e) 3 = kClientProtocolRPT := by
    obtain ⟨x, xs', rfl⟩ := exists_cons_of_ne_nil hxs
    rw [flatMap_cons, append_assoc, packRptClientEntry, append_assoc]
    refine ⟨?_, (packClientEntryHeader_reads hpal hpk (by decide) _ _ _).2.1⟩
    rw [length_append, length_packClientEntryHeader hpk]
    exact Nat.le_add_right _ _
  obtain ⟨hlen, hprot⟩ := hfirst
  generalize xs.flatMap (packRptClientEntry pal) ++ e = d at *
  have hrpt : parseRptClientList pal (.between (xs.length * 46) 0) (⟨.null, false⟩, .plenty) d =
      (rptClientListRound pal d.length).iterate (fun _ m d => d.length + m.2.script.length) .stuck
        (.between (xs.length * 46) 0) (⟨.null, false⟩, .plenty) d := by
    rw [parseRptClientList, if_neg (by rw [hlist.res]; decide)]
  have ho : parseClientList pal (.between (xs.length * 46) 0)
      (⟨kClientProtocolUnknown, ⟨.null, false⟩⟩, .plenty) d =
      let c := (rptClientListRound pal d.length).iterate (fun _ m d => d.length + m.2.script.length)
        .stuck (.between (xs.length * 46) 0) (⟨.null, false⟩, .plenty) d
      ⟨c.st, (⟨kClientProtocolRPT, c.msg.1⟩, c.msg.2), c.used, c.res,
        .listHead (xs.length * 46) (some kClientProtocolRPT) :: c.log⟩ := by
    have hroom : sizeSub (xs.length * 46) 0 = xs.length * 46 :=
      sizeSub_of_le zero_le (by omega)
    have hne : ((rptClientListRound pal d.length).iterate
        (fun _ m d => d.length + m.2.script.length) .stuck (.between (xs.length * 46) 0)
        (⟨.null, false⟩, .plenty) d).res ≠ .unassigned := by
      rw [hlist.res]
      decide
    have hlen' : clientEntryHeaderSize ≤ d.length := hlen
    simp only [parseClientList, hprot, hlen', and_self, if_true, hrpt, hne, if_false]
    simp only [between, Bool.false_eq_true, if_false, room, hroom, cons_append, nil_append]
  refine ⟨?_, ?_, ?_, ?_⟩
  · rw [ho]; exact hlist.res
  · rw [ho]; exact hlist.used
  · rw [ho]; simp only [hlist.msg]
  · rw [ho]
    have hhead : Sound (.listHead (xs.length * 46) (some kClientProtocolRPT)) := by
      have h23 : 23 ≤ xs.length * 46 := by omega
      exact ⟨fun _ => ⟨h23, by decide⟩, fun _ => trivial⟩
    exact forall_mem_cons.mpr ⟨hhead, hlist.sound⟩

/-! ### Client Connect -/

theorem CString.length_padded {cap : Nat} (x : CString cap) : x.padded.length = cap := by
  have := x.fits
  simp only [padded, length_append, length_replicate]
  omega

theorem safeStrncpy_padded {cap : Nat} (hcap : 0 < cap) (x : CString cap) (e : Bytes) :
    safeStrncpy cap hcap (x.padded ++ e) = x := by
  have hfits := x.fits
  apply CString.ext
  have hpad : List.replicate (cap - x.chars.length) (0 : UInt8) =
      0 :: List.replicate (cap - x.chars.length - 1) 0 := by
    rw [← replicate_succ]
    congr 1
    omega
  have hall : ∀ y ∈ x.chars, (y != 0) = true := fun y hy => by
    simp only [bne_iff_ne, ne_eq]
    rintro rfl
    exact x.noNul hy
  simp only [safeStrncpy, padded, hpad, append_assoc]
  rw [take_append, take_of_length_le (by omega), takeWhile_append_of_pos hall]
  rcases cap - 1 - x.chars.length with _ | n
  · simp
  · simp

def packClientConnectCommon (data : BrokerClientConnectMsg) : Bytes :=
  data.scope.padded ++ packU16 data.e133Version ++ data.searchDomain.padded ++ [data.connectFlags]

theorem length_packClientConnectCommon (data : BrokerClientConnectMsg) :
    (packClientConnectCommon data).length = clientConnectCommonFieldSize := by
  simp only [packClientConnectCommon, length_append, length_padded, length_packU16, length_cons, length_nil]
  rfl

theorem parseClientConnectHeader_pack (data m : BrokerClientConnectMsg) (e : Bytes) :
    parseClientConnectHeader (packClientConnectCommon data ++ e) m =
      { data with clientEntry := m.clientEntry } := by
  have h63 : data.scope.padded.length = 63 := data.scope.length_padded
  have h65 : (data.scope.padded ++ packU16 data.e133Version).length = 65 := by
    rw [length_append, h63, length_packU16]
  have h296 : (data.scope.padded ++ packU16 data.e133Version ++ data.searchDomain.padded).length =
      296 := by
    rw [length_append, h65]
    exact congrArg (65 + ·) data.searchDomain.length_padded
  have hscope : safeStrncpy e133ScopeStringPaddedLength scopeString_pos
      (packClientConnectCommon data ++ e) = data.scope := by
    simp only [packClientConnectCommon, append_assoc]
    exact safeStrncpy_padded _ _ _
  have hversion : u16At (packClientConnectCommon data ++ e) 63 = data.e133Version := by
    simp only [packClientConnectCommon, append_assoc]
    rw [u16At_skip (le_of_eq h63), h63, Nat.sub_self, u16At_pack]
  have hdomain : safeStrncpy e133DomainStringPaddedLength domainString_pos
      ((packClientConnectCommon data ++ e).drop 65) = data.searchDomain := by
    rw [packClientConnectCommon, append_assoc, append_assoc, drop_left' h65]
    exact safeStrncpy_padded _ _ _
  have hflags : u8At (packClientConnectCommon data ++ e) 296 = data.connectFlags := by
    rw [packClientConnectCommon, append_assoc, u8At_skip (le_of_eq h296), h296, Nat.sub_self]
    rfl
  simp only [parseClientConnectHeader, hscope, hversion, hdomain, hflags]

include hpal hpk in
theorem parseClientConnect_reads (data m : BrokerClientConnectMsg) (e : Bytes) :
    Reads (parseClientConnect pal) ⟨343, false, default⟩ m
      (packClientConnectCommon data ++ (packRptClientEntry pal data.clientEntry.data ++ e)) 343
      { data with clientEntry := ⟨kClientProtocolRPT, data.clientEntry.data.onWire⟩ } := by
  have h297 := length_packClientConnectCommon data
  have hlen : ¬ (packClientConnectCommon data ++
      (packRptClientEntry pal data.clientEntry.data ++ e)).length < clientConnectCommonFieldSize := by
    rw [length_append, h297]
    omega
  have h46 : 46 ≤ (packClientConnectCommon data ++
      (packRptClientEntry pal data.clientEntry.data ++ e)).length - clientConnectCommonFieldSize := by
    rw [length_append, h297, Nat.add_sub_cancel_left, length_append, length_packRptClientEntry hpk]
    exact Nat.le_add_right _ _
  have ho : parseClientConnect pal ⟨343, false, default⟩ m
      (packClientConnectCommon data ++ (packRptClientEntry pal data.clientEntry.data ++ e)) =
      ⟨⟨343, true, .through 46⟩,
        { data with clientEntry := ⟨kClientProtocolRPT, data.clientEntry.data.onWire⟩ }, 343,
        .fullBlockParseOk, [.entryHeader 46 (.headed 46), .check true, .entryTail 0]⟩ := by
    rw [parseClientConnect, parseCommonAndEntry]
    rw [if_neg (fun h => hlen h.2)]
    simp only [Bool.false_eq_true, if_false]
    rw [drop_left' h297, parseClientConnectHeader_pack,
      show sizeSub 343 clientConnectCommonFieldSize = 46 from rfl,
      parseSingleClientEntry_pack hpal hpk le_rfl]
    simp only [unpackRptClientEntryData_pack, afterEntry]
    rw [if_pos h46]
    rfl
  refine ⟨by rw [ho], by rw [ho], by rw [ho], ?_⟩
  rw [ho]
  simp only [Clean, mem_cons, not_mem_nil, or_false, forall_eq_or_imp, forall_eq]
  exact ⟨⟨⟨by decide, by decide, by decide⟩, fun _ => ⟨by decide, by decide⟩⟩,
    ⟨trivial, fun _ => rfl⟩, fun _ => rfl, fun _ => trivial⟩

/-! ### RDM commands -/

/-- An RDM command as the library passes it around: the start code, and a length that RDM allows. -/
def IsRdmCmd (cmd : RdmBuffer) : Prop :=
  cmd.head? = some vectorRdmCmdRdmData ∧ 26 ≤ cmd.length ∧ cmd.length ≤ 257

variable {cmd : RdmBuffer}

include hpk in
theorem length_packRdmCmdPdu (h : IsRdmCmd cmd) : (packRdmCmdPdu pal cmd).length = cmd.length + 3 := by
  have := h.2.1
  simp only [packRdmCmdPdu, length_append, hpk.extLen_length, length_drop, length_singleton]
  omega

include hpal hpk in
theorem packRdmCmdPdu_reads (h : IsRdmCmd cmd) (e : Bytes) :
    pal.acnPduLength (packRdmCmdPdu pal cmd ++ e) = cmd.length + 3 ∧
    ((packRdmCmdPdu pal cmd ++ e).drop 3).take cmd.length = cmd := by
  obtain ⟨hhead, hmin, hmax⟩ := h
  have h3 := hpk.extLen_length (rdmCmdPduLen cmd)
  obtain ⟨tail, rfl⟩ : ∃ tail, cmd = vectorRdmCmdRdmData :: tail := head?_eq_some_iff.mp hhead
  refine ⟨?_, ?_⟩
  · simp only [packRdmCmdPdu, append_assoc]
    rw [hpal.length_append _ _ (le_of_eq h3.symm), hpk.extLen_read _ (by
      simp only [rdmCmdPduLen]
      omega)]
    rfl
  · simp only [packRdmCmdPdu, append_assoc, drop_left' h3]
    simp

include hpal hpk in
theorem rdmListRound_pack {done : Nat} (hcmd : IsRdmCmd cmd)
    (hroom : done + (cmd.length + 3) ≤ size) (hsize : size < 1048576) {a : Arr RdmBuffer}
    (hfreed : a.isFreed = false) (more : Bool) (e : Bytes) :
    rdmListRound pal ⟨true, ⟨size, done, false, false⟩⟩ (⟨a, more⟩, .plenty) (packRdmCmdPdu pal cmd ++ e) =
    ⟨⟨true, ⟨size, done + (cmd.length + 3), false, false⟩⟩, (⟨a.push cmd, more⟩, .plenty), cmd.length + 3,
      if done + (cmd.length + 3) ≥ size then some .fullBlockParseOk else none,
      [.rdmRoom (size - done), .rdmCmd (cmd.length + 3) size (size - done), .alloc true]⟩ := by
  obtain ⟨hlen, hdata⟩ := packRdmCmdPdu_reads hpal hpk hcmd e
  have hlong : cmd.length + 3 ≤ (packRdmCmdPdu pal cmd ++ e).length := by
    rw [length_append, length_packRdmCmdPdu hpk hcmd]
    exact Nat.le_add_right _ _
  obtain ⟨-, hmin, hmax⟩ := hcmd
  have hsub : sizeSub size done = size - done := sizeSub_of_le (by omega) (by omega)
  have h1 : ¬ (packRdmCmdPdu pal cmd ++ e).length < 29 := by omega
  have h2 : ¬ (cmd.length + 3 > size ∨ cmd.length + 3 > 260) := by omega
  have h3 : ¬ (packRdmCmdPdu pal cmd ++ e).length < cmd.length + 3 := by omega
  have h4 : ¬ cmd.length + 3 < 3 := by omega
  simp only [rdmListRound, show done < size by omega, h1, hlen, h2, h3, h4, hfreed, hdata,
    Heap.alloc_plenty, room, hsub, advance, not_true_eq_false, if_false,
    if_true, Bool.false_eq_true, Nat.add_sub_cancel, cons_append, nil_append]

include hpal hpk in
theorem rdmListRound_reads (hsize : size < 1048576) (hcmd : IsRdmCmd cmd) :
    ReadsRound (rdmListRound pal) (fun done => ⟨true, ⟨size, done, false, false⟩⟩) size
      (packRdmCmdPdu pal cmd) cmd := by
  intro done a d hfreed hroom
  rw [length_packRdmCmdPdu hpk hcmd] at hroom ⊢
  refine ⟨_, _, ?_, fun hlt => if_neg (not_le.mpr hlt), fun heq => if_pos (le_of_eq heq.symm),
    rdmListRound_pack hpal hpk hcmd hroom hsize hfreed false d⟩
  have h1 : 29 ≤ size - done := by have := hcmd.2.1; omega
  have h2 : cmd.length + 3 ≤ size - done := by omega
  simp only [mem_cons, not_mem_nil, or_false, forall_eq_or_imp, forall_eq]
  exact ⟨⟨fun _ => h1, fun _ => trivial⟩,
    ⟨.inr (.inr ⟨Nat.le_add_left _ _, h2⟩), fun _ => .inl (Nat.le_add_left _ _)⟩, sound_alloc⟩

include hpal hpk in
theorem packRequestNotifHeader_reads (hn : n < 1048576) (v : UInt32) (e : Bytes) :
    pal.acnPduLength (packRequestNotifHeader pal n v ++ e) = n ∧
    u32At (packRequestNotifHeader pal n v ++ e) 3 = v := by
  have h3 := hpk.extLen_length n
  simp only [packRequestNotifHeader, append_assoc]
  refine ⟨?_, ?_⟩
  · rw [hpal.length_append _ _ (le_of_eq h3.symm), hpk.extLen_read n hn]
  · rw [u32At_skip (le_of_eq h3), h3, Nat.sub_self, u32At_pack]

include hpk in
theorem length_packRequestNotifHeader (n : Nat) (v : UInt32) :
    (packRequestNotifHeader pal n v).length = requestNotifPduHeaderSize := by
  simp [packRequestNotifHeader, hpk.extLen_length]

include hpal hpk in
theorem parseRdmList_reads {cmds : List RdmBuffer} (hne : cmds ≠ [])
    (hcmds : ∀ cmd ∈ cmds, IsRdmCmd cmd) (hsize : calcNotificationPduSize cmds < 1048576)
    {v : UInt32} (hv : v = vectorRequestRdmCmd ∨ v = vectorNotificationRdmCmd) (e : Bytes) :
    Reads (parseRdmList pal) ⟨false, .start (calcNotificationPduSize cmds)⟩ (⟨.null, false⟩, .plenty)
      (packRequestNotifHeader pal (calcNotificationPduSize cmds) v ++
        (cmds.flatMap (packRdmCmdPdu pal) ++ e)) (calcNotificationPduSize cmds)
      (⟨Arr.null.pushAll cmds, false⟩, .plenty) := by
  have hsum : calcNotificationPduSize cmds = 7 + (cmds.map rdmCmdPduLen).sum := rfl
  have hbytes : (cmds.flatMap (packRdmCmdPdu pal)).length = (cmds.map rdmCmdPduLen).sum := by
    rw [length_flatMap, map_congr_left fun c hc => length_packRdmCmdPdu hpk (hcmds c hc)]
    rfl
  have hlist := Reads.iterate_list rdmListRound_decreases e cmds 0 .null hne rfl
    ((Nat.zero_add _).trans hbytes) fun c hc =>
      ⟨by rw [length_packRdmCmdPdu hpk (hcmds c hc)]; exact Nat.succ_pos _,
        rdmListRound_reads hpal hpk (show (cmds.map rdmCmdPduLen).sum < 1048576 by omega) (hcmds c hc)⟩
  rw [hbytes, map_id'] at hlist
  obtain ⟨hlen, hvec⟩ := packRequestNotifHeader_reads hpal hpk hsize v
    (cmds.flatMap (packRdmCmdPdu pal) ++ e)
  have h7 := length_packRequestNotifHeader hpk (calcNotificationPduSize cmds) v
  have hlong : ¬ (packRequestNotifHeader pal (calcNotificationPduSize cmds) v ++
      (cmds.flatMap (packRdmCmdPdu pal) ++ e)).length < requestNotifPduHeaderSize := by
    rw [length_append, h7]
    omega
  have hsub : sizeSub (calcNotificationPduSize cmds) requestNotifPduHeaderSize =
      (cmds.map rdmCmdPduLen).sum := by
    show sizeSub _ 7 = _
    rw [sizeSub_of_le (by omega) (by omega), hsum]
    exact Nat.add_sub_cancel_left _ _
  have hpos : 7 < calcNotificationPduSize cmds := by
    obtain ⟨c, cs, rfl⟩ := exists_cons_of_ne_nil hne
    simp only [hsum, map_cons, sum_cons, rdmCmdPduLen]
    omega
  have hdrop : (packRequestNotifHeader pal (calcNotificationPduSize cmds) v ++
      (cmds.flatMap (packRdmCmdPdu pal) ++ e)).drop requestNotifPduHeaderSize =
      cmds.flatMap (packRdmCmdPdu pal) ++ e := drop_left' h7
  generalize packRequestNotifHeader pal (calcNotificationPduSize cmds) v ++
    (cmds.flatMap (packRdmCmdPdu pal) ++ e) = d at *
  have ho : parseRdmList pal ⟨false, .start (calcNotificationPduSize cmds)⟩
      (⟨.null, false⟩, .plenty) d =
      ((rdmListRound pal).iterate (fun _ _ d => d.length) .stuck
        ⟨true, ⟨(cmds.map rdmCmdPduLen).sum, 0, false, false⟩⟩ (⟨.null, false⟩, .plenty)
        (cmds.flatMap (packRdmCmdPdu pal) ++ e)).since 7
          [.rdmHeader true 0 (calcNotificationPduSize cmds) d.length] := by
    have hacc : pal.acnPduLength d = calcNotificationPduSize cmds ∧
        (u32At d 3 = vectorRequestRdmCmd ∨ u32At d 3 = vectorNotificationRdmCmd) :=
      ⟨hlen, by rw [hvec]; exact hv⟩
    simp only [parseRdmList, rdmListData, PduBlockState.start, hlong, hacc, hdrop, hsub, if_false,
      Bool.false_eq_true]
    rfl
  refine ⟨?_, ?_, ?_, ?_⟩
  · rw [ho]; exact hlist.res
  · rw [ho, since_used, hlist.used, hsum]
  · rw [ho]; exact hlist.msg
  · rw [ho]
    refine clean_since.mpr ⟨?_, hlist.sound⟩
    have hle : 0 + 7 ≤ calcNotificationPduSize cmds := by omega
    simp only [mem_singleton, forall_eq]
    exact ⟨⟨fun _ => hle, fun _ => by simpa using hpos⟩, fun _ => .inl rfl⟩

/-! ### RPT Status -/

include hpal hpk in
theorem parseRptStatus_start (hn : 5 ≤ n) (hlt : n < 1048576) (code : UInt16)
    (m : RptStatusMsg × Heap) (e : Bytes) :
    (statusLayer pal).start ⟨.start n, ()⟩ m (pal.acnPduPackExtLen n ++ (packU16 code ++ e)) =
      ⟨⟨⟨n, 5, false, true⟩, ()⟩, ({ m.1 with statusCode := code }, m.2), 5, .noData, []⟩ := by
  have h3 := hpk.extLen_length n
  have hlen : pal.acnPduLength (pal.acnPduPackExtLen n ++ (packU16 code ++ e)) = n := by
    rw [hpal.length_append _ _ (le_of_eq h3.symm), hpk.extLen_read n hlt]
  have hcode : u16At (pal.acnPduPackExtLen n ++ (packU16 code ++ e)) 3 = code := by
    rw [u16At_skip (le_of_eq h3), h3, Nat.sub_self, u16At_pack]
  have hroom : ¬ (PduBlockState.start n).room < rptStatusHeaderSize := by
    show ¬ sizeSub n 0 < 5
    rw [sizeSub_of_le zero_le (by omega)]
    exact not_lt.mpr hn
  have hd : rptStatusHeaderSize ≤ (pal.acnPduPackExtLen n ++ (packU16 code ++ e)).length := by
    show 5 ≤ _
    simp only [length_append, h3, length_packU16]
    omega
  have hacc : rptStatusHeaderSize ≤ n ∧ (PduBlockState.start n).blockSize ≤ n :=
    ⟨hn, le_rfl⟩
  simp only [Layer.start, statusLayer, hroom, hd, hlen, hcode, hacc, if_false, if_true]
  rfl

include hpal hpk in
theorem parseRptStatus_reads {code : UInt16} {chars : Bytes}
    (hkind : StatusKind.ofCode code = .bare ∧ chars = [] ∨
      StatusKind.ofCode code = .withString ∧ chars.length ≤ rptStatusStringMaxlen)
    (x : RptStatusMsg) (e : Bytes) :
    Reads (parseRptStatus pal) ⟨.start (rptStatusHeaderSize + chars.length), ()⟩ (x, .plenty)
      (pal.acnPduPackExtLen (rptStatusHeaderSize + chars.length) ++
        (packU16 code ++ (chars ++ e))) (rptStatusHeaderSize + chars.length)
      (⟨code, if chars = [] then none else some chars⟩, .plenty) := by
  have hmax : chars.length ≤ 1024 := by
    rcases hkind with ⟨-, rfl⟩ | ⟨-, h⟩
    · exact zero_le
    · exact h
  have hstart := parseRptStatus_start hpal hpk
    (show 5 ≤ rptStatusHeaderSize + chars.length from Nat.le_add_right _ _)
    (show 5 + chars.length < 1048576 by omega) code (x, .plenty) (chars ++ e)
  have hroom : sizeSub (5 + chars.length) 5 = chars.length := by
    rw [sizeSub_of_le (by omega) (by omega)]
    omega
  have hdrop : (pal.acnPduPackExtLen (rptStatusHeaderSize + chars.length) ++
      (packU16 code ++ (chars ++ e))).drop 5 = chars ++ e := by
    rw [← append_assoc]
    exact drop_left' (by simp [hpk.extLen_length])
  generalize pal.acnPduPackExtLen (rptStatusHeaderSize + chars.length) ++
    (packU16 code ++ (chars ++ e)) = d at *
  have ho : parseRptStatus pal ⟨.start (rptStatusHeaderSize + chars.length), ()⟩ (x, .plenty) d =
      statusData d ⟨⟨⟨5 + chars.length, 5, false, true⟩, ()⟩, ({ x with statusCode := code }, .plenty),
        5, .noData, []⟩ := by
    rw [parseRptStatus, hstart]
    rfl
  -- the string is missing, or is as long as what is left of the PDU
  have hlog : Sound (.status code chars.length) := by
    refine ⟨trivial, fun _ => ⟨fun hb => ?_, fun hw => ?_⟩⟩
    · rcases hkind with ⟨-, rfl⟩ | ⟨h, -⟩
      · rfl
      · rw [h] at hb; cases hb
    · rcases hkind with ⟨h, -⟩ | ⟨-, h⟩
      · rw [h] at hw; cases hw
      · exact h
  have hdata : statusData d ⟨⟨⟨5 + chars.length, 5, false, true⟩, ()⟩,
      ({ x with statusCode := code }, .plenty), 5, .noData, []⟩ =
      ⟨⟨⟨5 + chars.length, 5 + chars.length, false, true⟩, ()⟩,
        (⟨code, if chars = [] then none else some chars⟩, .plenty), 5 + chars.length,
        .fullBlockParseOk, .status code chars.length :: if chars = [] then [] else [.alloc true]⟩ := by
    by_cases hne : chars = []
    · subst hne
      rcases hkind with ⟨h, -⟩ | ⟨h, -⟩ <;>
        simp [statusData, h, room, sizeSub_self]
    · obtain ⟨h, hle⟩ := hkind.resolve_left fun h => hne h.2
      have hpos : chars.length ≠ 0 := fun h => hne (length_eq_zero_iff.mp h)
      simp [statusData, h, room, hroom, hdrop, hne, hpos, not_lt.mpr hle, advance]
  refine ⟨?_, ?_, ?_, ?_⟩ <;> rw [ho, hdata]
  intro y hy
  rcases mem_cons.mp hy with rfl | hy
  · exact hlog
  · split_ifs at hy
    · cases hy
    · rw [mem_singleton.mp hy]
      exact sound_alloc

end Entry

end RDMnet
