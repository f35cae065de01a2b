import RDMnet.Llrp.Codec
import RDMnet.Prot.RdmPacket

/-!
# Transaction numbers of an LLRP manager

The two senders of `llrp_manager.c` share `transaction_number`.  A probe request advances it before it is
sent, an RDM command only when it has been sent and the caller asked for the number.
-/

namespace RDMnet

/-- `RCLlrpManager`, as far as the senders use it.  The tree `discovered_targets` is the list of the UIDs that
an iteration over it gives. -/
structure LlrpManager where
  cid : Uuid
  uid : RdmUid
  transactionNumber : UInt32
  numCleanSends : Nat
  discFilter : UInt16
  discoveredTargets : List RdmUid
  curRangeLow : RdmUid
  curRangeHigh : RdmUid
  /-- The `num_known_uids` UIDs at `known_uids`. -/
  knownUids : List RdmUid

structure LlrpDestinationAddr where
  destUid : RdmUid
  destCid : Uuid
  subdevice : UInt16

/-- What the manager stands on: EtcPal and the RDM library. -/
structure LlrpEnv where
  pal : EtcPalUdp
  rdm : RdmMessages Unit
  /-- `RDM_UID_IS_BROADCAST` -/
  uidIsBroadcast : RdmUid → Bool

def LlrpEnv.reference : LlrpEnv := ⟨.reference, .reference, fun uid => uid.id = 0xffffffff⟩

/-- A call of a sender, with what `etcpal_sendto` says to it, or anything else that leaves the
`transaction_number` alone. -/
inductive LlrpCall
  | sendNextProbe (sendOk : Bool)
  | sendRdmCommand (destination : LlrpDestinationAddr) (commandClass : UInt8) (paramId : UInt16)
      (data : Bytes) (seqNum sendOk : Bool)
  | other (manager : LlrpManager)

namespace LlrpManager

variable (env : LlrpEnv)

/-- The first half of `update_probe_range`: a range that is finished is left for the next one, none if
there is no next one. -/
def nextRange (m : LlrpManager) : Option LlrpManager :=
  if m.numCleanSends ≥ 3 then
    if env.uidIsBroadcast m.curRangeHigh then none
    else
      some { m with
        curRangeLow :=
          if m.curRangeHigh.id = 0xffffffff then ⟨m.curRangeHigh.manu + 1, 0⟩
          else ⟨m.curRangeHigh.manu, m.curRangeHigh.id + 1⟩
        curRangeHigh := kRdmBroadcastUid
        numCleanSends := 0 }
  else some m

/-- The loop of `update_probe_range` over the tree, with `cur_range_high` and the Known UIDs so far. -/
def collectKnown (low : RdmUid) : List RdmUid → RdmUid → List RdmUid → RdmUid × List RdmUid
  | [], high, known => (high, known)
  | uid :: rest, high, known =>
    if rdmUidCompare uid high ≤ 0 then
      if known.length ≠ 0 then
        if known.length + 1 ≤ llrpKnownUidSize then collectKnown low rest high (known ++ [uid])
        else
          -- put the high point of the current range in the middle of the Known UIDs
          (known.getD (llrpKnownUidSize / 2 - 1) default, known.take (llrpKnownUidSize / 2))
      else if rdmUidCompare uid low ≥ 0 then collectKnown low rest high (known ++ [uid])
      else collectKnown low rest high known
    else (high, known)

/-- `update_probe_range`; none if discovery is done. -/
def updateProbeRange (m : LlrpManager) : Option LlrpManager :=
  (nextRange env m).map fun m =>
    let known := collectKnown m.curRangeLow m.discoveredTargets m.curRangeHigh []
    { m with curRangeHigh := known.1, knownUids := known.2 }

/-- `send_next_probe`, and the message if it was sent. -/
def sendNextProbe (sendOk : Bool) (m : LlrpManager) :
    LlrpManager × Option (LlrpHeader × LlrpOutgoing) :=
  match updateProbeRange env m with
  | none => (m, none)
  | some m =>
    let header := ⟨m.cid, kLlrpBroadcastCid, m.transactionNumber⟩
    let request := ⟨m.curRangeLow, m.curRangeHigh, m.discFilter, m.knownUids⟩
    ({ m with transactionNumber := m.transactionNumber + 1 },
      if (rcSendLlrpProbeRequest env.pal header request).isSome ∧ sendOk then
        some (header, .probeRequest request) else none)

/-- `rc_llrp_manager_send_rdm_command`, and the message if it was sent; `seqNum` tells whether `seq_num` is
a pointer. -/
def rcLlrpManagerSendRdmCommand (destination : LlrpDestinationAddr) (commandClass : UInt8)
    (paramId : UInt16) (data : Bytes) (seqNum sendOk : Bool) (m : LlrpManager) :
    LlrpManager × Option (LlrpHeader × LlrpOutgoing) :=
  match env.rdm.packCommand ⟨m.uid, destination.destUid, 1, m.transactionNumber.toUInt8,
      destination.subdevice, commandClass, paramId⟩ data with
  | .error _ => (m, none)
  | .ok cmd =>
    if sendOk then
      (if seqNum then { m with transactionNumber := m.transactionNumber + 1 } else m,
        some (⟨m.cid, destination.destCid, m.transactionNumber⟩, .rdmCommand cmd))
    else (m, none)

def call (m : LlrpManager) : LlrpCall → LlrpManager × Option (LlrpHeader × LlrpOutgoing)
  | .sendNextProbe sendOk => sendNextProbe env sendOk m
  | .sendRdmCommand destination commandClass paramId data seqNum sendOk =>
    rcLlrpManagerSendRdmCommand env destination commandClass paramId data seqNum sendOk m
  | .other manager => ({ manager with transactionNumber := m.transactionNumber }, none)

/-- A probe request that is made uses up a number, sent or not; a command does if it is sent and the caller
asks for the number. -/
def uses (m : LlrpManager) : LlrpCall → Bool
  | .sendNextProbe _ => (updateProbeRange env m).isSome
  | .sendRdmCommand destination commandClass paramId data seqNum sendOk => seqNum &&
    (rcLlrpManagerSendRdmCommand env destination commandClass paramId data seqNum sendOk m).2.isSome
  | .other _ => false

def run (m : LlrpManager) (calls : List LlrpCall) : LlrpManager :=
  calls.foldl (fun m c => (call env m c).1) m

def used (m : LlrpManager) : List LlrpCall → Nat
  | [] => 0
  | c :: calls => (uses env m c).toNat + used (call env m c).1 calls

variable {env} {m m' : LlrpManager}

theorem updateProbeRange_number (h : updateProbeRange env m = some m') :
    m'.transactionNumber = m.transactionNumber := by
  obtain ⟨n, hn, rfl⟩ := Option.map_eq_some_iff.mp h
  unfold nextRange at hn
  split at hn
  · split at hn
    · cases hn
    · cases hn
      rfl
  · cases hn
    rfl

theorem call_number (m : LlrpManager) (c : LlrpCall) : (call env m c).1.transactionNumber =
        m.transactionNumber + UInt32.ofNat (uses env m c).toNat ∧
      ∀ msg ∈ (call env m c).2, msg.1.transactionNumber = m.transactionNumber := by
  cases c with
  | sendNextProbe sendOk =>
    simp only [call, sendNextProbe, uses]
    split
    · rename_i h
      simp [h]
    · rename_i h
      simp [h, updateProbeRange_number h]
  | sendRdmCommand destination commandClass paramId data seqNum sendOk =>
    simp only [call, uses, rcLlrpManagerSendRdmCommand]
    split
    · simp
    · cases sendOk <;> cases seqNum <;> simp
  | other manager => simp [call, uses]

theorem run_number (calls : List LlrpCall) : ∀ m : LlrpManager, (run env m calls).transactionNumber =
      m.transactionNumber + UInt32.ofNat (used env m calls) := by
  induction calls with
  | nil => simp [run, used]
  | cons c calls ih =>
    intro m
    have hstep : (call env m c).1.transactionNumber = _ := (call_number m c).1
    rw [show run env m (c :: calls) = run env (call env m c).1 calls from rfl, ih, hstep, used,
      UInt32.ofNat_add, UInt32.add_assoc]

/-- **Transaction numbers are not reused** between two messages exactly if the calls from the first to the
second do not use up a multiple of 2^32 numbers. -/
theorem transaction_numbers_differ_iff (env : LlrpEnv) (m : LlrpManager) (first second : LlrpCall)
    (between : List LlrpCall) {msg msg' : LlrpHeader × LlrpOutgoing} (hfirst : (call env m first).2 = some msg)
    (hsecond : (call env (run env m (first :: between)) second).2 = some msg') :
    msg.1.transactionNumber ≠ msg'.1.transactionNumber ↔ ¬ 4294967296 ∣ used env m (first :: between) := by
  rw [(call_number m first).2 msg hfirst, (call_number _ second).2 msg' hsecond, run_number]
  refine not_congr ?_
  rw [eq_comm, UInt32.add_eq_left, ← UInt32.toNat_inj, UInt32.toNat_ofNat', Nat.dvd_iff_mod_eq_zero]
  rfl

def sampleManager : LlrpManager := ⟨default, ⟨1, 2⟩, 0, 0, 0, [], ⟨0, 0⟩, kRdmBroadcastUid, []⟩

def sampleCommand (seqNum : Bool) : LlrpCall :=
  .sendRdmCommand ⟨⟨3, 4⟩, default, 0⟩ kRdmCCGetCommand 0x0060 [] seqNum true

theorem transaction_numbers_differ_probe_command :
    ∃ msg msg', (call .reference sampleManager (.sendNextProbe true)).2 = some msg ∧
      (call .reference (run .reference sampleManager [.sendNextProbe true])
        (sampleCommand false)).2 = some msg' ∧ msg.1.transactionNumber ≠ msg'.1.transactionNumber :=
  ⟨_, _, rfl, rfl, (transaction_numbers_differ_iff .reference sampleManager (.sendNextProbe true)
    (sampleCommand false) [] rfl rfl).mpr (by decide)⟩

/-- Two commands, the first sent without asking for its number. -/
theorem transaction_number_reused : ∃ msg msg',
    (call .reference sampleManager (sampleCommand false)).2 = some msg ∧
      (call .reference (run .reference sampleManager [sampleCommand false])
        (sampleCommand true)).2 = some msg' ∧ msg.1.transactionNumber = msg'.1.transactionNumber :=
  ⟨_, _, rfl, rfl, rfl⟩

end LlrpManager

end RDMnet
