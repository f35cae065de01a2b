import RDMnet.Conn.Buffer
import RDMnet.MsgBuf.Commands

/-!
# Who completes the handshake

`handle_rdmnet_connect_result` looks at the Broker vector of a message without asking whether it is a Broker
message.  The messages share their storage, so that the vector of an RPT message is read as a Broker vector:
an RPT Status is taken for a Connect Reply.
-/

namespace RDMnet

def RdmnetMessage.IsBrokerOf (msg : RdmnetMessage) (kinds : List BrokerKind) : Prop :=
  msg.vector = acnVectorRootBroker ∧ BrokerKind.ofVector msg.broker.vector ∈ kinds

def RdmnetMessage.IsRptStatus (msg : RdmnetMessage) : Prop :=
  msg.vector = acnVectorRootRpt ∧ msg.rpt.vector = vectorRptStatus

/-- Only a genuine reply has made `out` of a connection that waits for one. -/
structure OnlyGenuine {β ι : Type} (msg : RdmnetMessage) (s : Sys β ι) (out : Sys β ι × RCConnEvent) :
    Prop where
  accepted : out.1.conn.state = .heartbeat →
    msg.IsBrokerOf [.connectReply] ∧ msg.broker.connectReply.connectStatus = 0
  rejected : ∀ info, out.2 = .connectFailed info → info.event = .rejected →
    msg.IsBrokerOf [.connectReply] ∧ msg.broker.connectReply.connectStatus ≠ 0
  redirected : out.1.conn.state = .connectPending → msg.IsBrokerOf [.redirectV4, .redirectV6]
  others : ¬ msg.IsBrokerOf [.connectReply, .redirectV4, .redirectV6] →
    out.1.conn.state = s.conn.state ∧ out.1.conn.remoteAddr = s.conn.remoteAddr ∧ out.2 = .none

section Handshake

variable {pal : EtcPal} {ι : Type} {s : Sys RecvBuf (List RecvRes)} {now : Nat}

theorem RootKind.vector_of_broker {v : UInt32} (h : RootKind.ofVector v = .broker) :
    v = acnVectorRootBroker := by
  unfold RootKind.ofVector at h
  split_ifs at h with hv
  exact hv

theorem RootKind.vector_of_rpt {v : UInt32} (h : RootKind.ofVector v = .rpt) : v = acnVectorRootRpt := by
  unfold RootKind.ofVector at h
  split_ifs at h with _ hv
  exact hv

theorem processMessage_pending (hst : s.conn.state = .rdmnetConnPending) : processMessage (msgBufEnv pal) now s =
      handleRdmnetConnectResult (msgBufEnv pal) now (s.emit (.handled s.conn.recvBuf.msg.1)) := by
  rcases processMessage_cases (msgBufEnv pal) now s with ⟨-, h⟩ | ⟨h, -⟩ | ⟨-, h, -⟩
  · exact h
  · rw [hst] at h
    cases h
  · exact absurd hst h

theorem connectResult_other (hk : BrokerKind.ofVector (getBrokerMsg s.conn.recvBuf.msg.1).vector ∉
      [BrokerKind.connectReply, .redirectV4, .redirectV6]) :
    connectResult (msgBufEnv pal) now s = (s, .none) := by
  simp only [connectResult, msgBufEnv]
  cases h : BrokerKind.ofVector (getBrokerMsg s.conn.recvBuf.msg.1).vector <;> simp_all

theorem connectResult_reply
    (hk : BrokerKind.ofVector (getBrokerMsg s.conn.recvBuf.msg.1).vector = .connectReply) :
    (connectResult (msgBufEnv pal) now s).2 ≠ .none := by
  have hk' : BrokerKind.ofVector
      ((msgBufEnv pal).getBrokerMsg ((msgBufEnv pal).msg s.conn.recvBuf)).vector = .connectReply := hk
  simp only [connectResult, hk']
  split <;> exact nofun

theorem onlyGenuine_of_broker (hst : s.conn.state = .rdmnetConnPending)
    (hroot : s.conn.recvBuf.msg.1.vector = acnVectorRootBroker) :
    OnlyGenuine s.conn.recvBuf.msg.1 s (processMessage (msgBufEnv pal) now s) := by
  have hget : getBrokerMsg s.conn.recvBuf.msg.1 = s.conn.recvBuf.msg.1.broker := by
    rw [getBrokerMsg, if_neg (by rw [hroot]; decide)]
  rw [processMessage_pending hst]
  by_cases hk : BrokerKind.ofVector s.conn.recvBuf.msg.1.broker.vector ∈
      [BrokerKind.connectReply, .redirectV4, .redirectV6]
  swap
  · simp only [handleRdmnetConnectResult]
    rw [connectResult_other (by rwa [← hget] at hk)]
    refine ⟨fun h => ?_, nofun, fun h => ?_, fun _ => ⟨rfl, rfl, rfl⟩⟩ <;>
      exact absurd (hst.symm.trans h) nofun
  have hgen : s.conn.recvBuf.msg.1.IsBrokerOf [.connectReply, .redirectV4, .redirectV6] := ⟨hroot, hk⟩
  simp only [handleRdmnetConnectResult, connectResult, emit_conn, msgBufEnv, hget]
  simp only [List.mem_cons, List.not_mem_nil, or_false] at hk
  rcases hk with hk | hk | hk <;> simp only [hk]
  · split
    · rename_i hstatus
      exact ⟨fun _ => ⟨⟨hroot, by simp [hk]⟩, hstatus⟩, nofun, nofun, fun h => absurd hgen h⟩
    · rename_i hstatus
      exact ⟨nofun, fun _ _ _ => ⟨⟨hroot, by simp [hk]⟩, hstatus⟩, nofun, fun h => absurd hgen h⟩
  · exact ⟨nofun, nofun, fun _ => ⟨hroot, by simp [hk]⟩, fun h => absurd hgen h⟩
  · exact ⟨nofun, nofun, fun _ => ⟨hroot, by simp [hk]⟩, fun h => absurd hgen h⟩

/-- **Only a genuine Connect Reply completes the handshake, unless an RPT Status comes.**  While a reply is
awaited, a message that the parser delivers is acted on only if it is a Connect Reply or a redirect, exactly
if it is not an RPT Status. -/
theorem handshake_genuine_iff (hst : s.conn.state = .rdmnetConnPending)
    (hmsg : DeliveredBy pal s.conn.recvBuf.msg.1) :
    OnlyGenuine s.conn.recvBuf.msg.1 s (processMessage (msgBufEnv pal) now s) ↔
      ¬ s.conn.recvBuf.msg.1.IsRptStatus := by
  rcases hmsg.kinds with hroot | ⟨hroot, hknown⟩
  · have hv := RootKind.vector_of_broker hroot
    exact iff_of_true (onlyGenuine_of_broker hst hv) fun h => absurd (hv.symm.trans h.1) (by decide)
  have hv := RootKind.vector_of_rpt hroot
  have hnot : ∀ kinds, ¬ s.conn.recvBuf.msg.1.IsBrokerOf kinds := fun _ h =>
    absurd (hv.symm.trans h.1) (by decide)
  have hvec : (getBrokerMsg s.conn.recvBuf.msg.1).vector = s.conn.recvBuf.msg.1.rpt.vector.toUInt16 := by
    rw [getBrokerMsg, if_pos hv]
  by_cases hstatus : s.conn.recvBuf.msg.1.rpt.vector = vectorRptStatus
  · -- the vector of an RPT Status is that of a Connect Reply
    refine iff_of_false (fun h => ?_) fun h => h ⟨hv, hstatus⟩
    obtain ⟨-, -, hnone⟩ := h.others (hnot _)
    have hk : BrokerKind.ofVector (getBrokerMsg s.conn.recvBuf.msg.1).vector = .connectReply := by
      rw [hvec, hstatus]
      rfl
    rw [processMessage_pending hst] at hnone
    exact connectResult_reply (s := s.emit (.handled s.conn.recvBuf.msg.1)) hk hnone
  · refine iff_of_true ?_ fun h => hstatus h.2
    have hk : BrokerKind.ofVector (getBrokerMsg s.conn.recvBuf.msg.1).vector ∉
        [BrokerKind.connectReply, .redirectV4, .redirectV6] := by
      rw [hvec]
      unfold RptKind.ofVector at hknown
      split_ifs at hknown with h1 h3
      · rw [h1]
        decide
      · rw [h3]
        decide
      · exact absurd rfl hknown
    rw [processMessage_pending hst]
    simp only [handleRdmnetConnectResult]
    rw [connectResult_other (s := s.emit _) hk]
    refine ⟨fun h => ?_, nofun, fun h => ?_, fun _ => ⟨rfl, rfl, rfl⟩⟩ <;>
      exact absurd (hst.symm.trans h) nofun

end Handshake

def sampleRptStatus : Bytes :=
  rcRptPackStatus .reference 1000 default default ⟨1, none⟩

def pendingActions (bytes : Bytes) : List (Action (List RecvRes)) :=
  .connect default default :: quietTick (fastConnect 0) ++ [.tick, .recv (recvBytes bytes), .parse]

theorem deliveredBy_reference {bytes : Bytes} {msg : RdmnetMessage}
    (hres : (rcMsgBufParseData .reference rcMsgBufInit (default, .plenty) bytes).res = .ok)
    (h : (rcMsgBufParseData .reference rcMsgBufInit (default, .plenty) bytes).msg.1 = msg) :
    DeliveredBy .reference msg := ⟨_, _, _, hres, h⟩

/-- A Connect Reply is genuine. -/
theorem handshake_genuine_iff_reply : ∃ s : Sys RecvBuf (List RecvRes), s.conn.state = .rdmnetConnPending ∧
      (OnlyGenuine s.conn.recvBuf.msg.1 s (processMessage (msgBufEnv .reference) 0 s) ↔
        ¬ s.conn.recvBuf.msg.1.IsRptStatus) := by
  obtain ⟨s, -, hx⟩ := Runs.exists_of_play (s := sampleConn) (connStep (msgBufEnv .reference)) anyStep
    (fun s => (s.conn.state, s.conn.recvBuf.msg.1))
    (.rdmnetConnPending, (rcMsgBufParseData .reference rcMsgBufInit (default, .plenty) sampleReply).msg.1)
    (pendingActions sampleReply) (by decide +kernel)
  obtain ⟨hst, hmsg⟩ := Prod.mk.inj hx
  exact ⟨s, hst, handshake_genuine_iff hst (deliveredBy_reference (by decide +kernel) hmsg.symm)⟩

/-- An RPT Status brings the connection up. -/
theorem handshake_by_status : ∃ s, Runs (connStep (msgBufEnv .reference)) anyStep sampleConn s ∧
      s.conn.state = .rdmnetConnPending ∧ DeliveredBy .reference s.conn.recvBuf.msg.1 ∧
      (processMessage (msgBufEnv .reference) 0 s).1.conn.state = .heartbeat ∧
      s.conn.recvBuf.msg.1.vector ≠ acnVectorRootBroker := by
  obtain ⟨s, hr, hx⟩ := Runs.exists_of_play (s := sampleConn) (connStep (msgBufEnv .reference)) anyStep
    (fun s => (s.conn.state, s.conn.recvBuf.msg.1, (processMessage (msgBufEnv .reference) 0 s).1.conn.state))
    (.rdmnetConnPending,
      (rcMsgBufParseData .reference rcMsgBufInit (default, .plenty) sampleRptStatus).msg.1, .heartbeat)
    (pendingActions sampleRptStatus) (by decide +kernel)
  obtain ⟨hst, hx⟩ := Prod.mk.inj hx
  obtain ⟨hmsg, hup⟩ := Prod.mk.inj hx
  refine ⟨s, hr, hst, deliveredBy_reference (by decide +kernel) hmsg.symm, hup, ?_⟩
  rw [hmsg]
  decide +kernel

end RDMnet
