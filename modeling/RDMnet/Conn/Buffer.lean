import RDMnet.Conn.Machine
import RDMnet.MsgBuf.Stream
import RDMnet.Prot.Pack

/-!
# The receive buffer of a connection

`rc_msg_buf_recv`, and the message buffer as the environment of a connection: the parser of
`msg_buf.c`, fed by the results of `etcpal_recv`.
-/

namespace RDMnet

/-- A result of `etcpal_recv`: some bytes, or a code.  The code 0, `kEtcPalErrOk`, is the orderly
end of the stream. -/
inductive RecvRes
  | data (first : UInt8) (rest : Bytes)
  | code (err : EtcPalErr)
  deriving DecidableEq, Repr

/-- `RCMsgBuf`: the control state, the message with its heap, and the bytes of `buf` up to
`cur_data_size`. -/
structure RecvBuf where
  buf : RCMsgBuf
  msg : RdmnetMessage × Heap
  data : Bytes
  deriving DecidableEq

/-- What `rc_msg_buf_recv` makes of a code that ends its loop, where `got` says whether bytes came
before it. -/
def recvResult (got : Bool) (err : EtcPalErr) : EtcPalErr :=
  match err with
  | .ok => .connClosed
  | .wouldBlock => if got then .ok else .wouldBlock
  | err => err

/-- The loop of `rc_msg_buf_recv` over the results of `etcpal_recv`, which writes no more bytes than
there is room for.  A full buffer counts as a socket without data, as do no more results. -/
def recvLoop (data : Bytes) (got : Bool) : List RecvRes → Bytes × EtcPalErr
  | [] => (data, recvResult got .wouldBlock)
  | .code err :: _ =>
    if rcMsgBufSize ≤ data.length then (data, recvResult got .wouldBlock)
    else (data, recvResult got err)
  | .data first rest :: rs =>
    if rcMsgBufSize ≤ data.length then (data, recvResult got .wouldBlock)
    else recvLoop (data ++ (first :: rest).take (rcMsgBufSize - data.length)) true rs

/-- `rc_msg_buf_recv` -/
def rcMsgBufRecv (rs : List RecvRes) (b : RecvBuf) : RecvBuf × EtcPalErr :=
  ({ b with data := (recvLoop b.data false rs).1 }, (recvLoop b.data false rs).2)

/-- `RDMNET_GET_BROKER_MSG` of a message that may be an RPT message: the members of the union share
their bytes.  The low half of the RPT vector is read as the Broker vector, and the fields of the RPT
header as those of a Connect Reply. -/
def getBrokerMsg (msg : RdmnetMessage) : BrokerMessage :=
  if msg.vector = acnVectorRootRpt then
    { msg.broker with
      vector := msg.rpt.vector.toUInt16
      connectReply :=
        { connectStatus := if msg.rpt.header.sourceUid.id.toNat < 65536 then
            msg.rpt.header.sourceUid.id.toUInt16 else 0xffff
          e133Version := msg.rpt.header.sourceEndpointId
          brokerUid := msg.rpt.header.destUid
          clientUid := ⟨msg.rpt.header.destEndpointId, msg.rpt.header.seqnum⟩ } }
  else msg.broker

/-- `etcpal_timer_is_expired`, on a clock of milliseconds that wraps around. -/
def etcpalTimerIsExpired (timer : EtcPalTimer) (now : Nat) : Bool :=
  timer.interval = 0 ∨
    timer.interval < (now + (4294967296 - timer.resetTime % 4294967296)) % 4294967296

def msgBufEnv (pal : EtcPal) : ConnEnv RecvBuf (List RecvRes) where
  rcMsgBufInit := fun b => { b with buf := rcMsgBufInit, data := [] }
  rcMsgBufRecv := rcMsgBufRecv
  rcMsgBufParseData := fun b =>
    let o := rcMsgBufParseData pal b.buf b.msg b.data
    ({ b with buf := o.st, msg := o.msg, data := b.data.drop o.used }, o.res)
  rcFreeMessageResources := fun b => { b with msg := release b.msg }
  msg := fun b => b.msg.1
  getBrokerMsg := getBrokerMsg
  timerIsExpired := etcpalTimerIsExpired

/-! ### A connection that comes up -/

def sampleConn : Sys RecvBuf (List RecvRes) :=
  rcConnRegister (msgBufEnv .reference) ⟨rcMsgBufInit, (default, .plenty), []⟩ default 0

/-- All socket calls succeed, and the connection is there at once, at time `now`. -/
def fastConnect (now : Nat) : SocketRes := ⟨.ok 3, .ok, .ok, .ok, .ok, now, 0⟩

def slowConnect (now : Nat) : SocketRes := { fastConnect now with connect := .inProgress }

/-- The results of `etcpal_recv` for some bytes that come at once. -/
def recvBytes : Bytes → List RecvRes
  | [] => []
  | first :: rest => [.data first rest]

def quietTick (r : SocketRes) : List (Action (List RecvRes)) :=
  [.tick, .recv [], .lock r, .deliver .processNext]

/-- A tick in which the bytes of one message are received; the callback returns `action`. -/
def messageTick (bytes : Bytes) (now : Nat) : List (Action (List RecvRes)) :=
  [.tick, .recv (recvBytes bytes), .parse, .lock (fastConnect now), .deliver .processNext, .parse,
    .recv [], .lock (fastConnect now), .deliver .processNext]

def sampleReply : Bytes :=
  rcBrokerPackConnectReply .reference 1000 default ⟨0, 1, ⟨0, 1⟩, ⟨0, 2⟩⟩

def connectActions : List (Action (List RecvRes)) :=
  .connect default default :: quietTick (fastConnect 0) ++ messageTick sampleReply 0

end RDMnet
