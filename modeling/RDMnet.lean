import RDMnet.Broker.Admission
import RDMnet.Broker.Consistent
import RDMnet.Broker.Delivery
import RDMnet.Broker.Fairness
import RDMnet.Broker.Limits
import RDMnet.Client.Brokers
import RDMnet.Client.Controller
import RDMnet.Client.Destroyed
import RDMnet.Client.Notifications
import RDMnet.Client.Removal
import RDMnet.Client.Retry
import RDMnet.Conn.Handshake
import RDMnet.Conn.InOrder
import RDMnet.Conn.Receive
import RDMnet.Conn.Sockets
import RDMnet.Core.Backoff
import RDMnet.Core.Init
import RDMnet.Core.RefLists
import RDMnet.Device.Agreement
import RDMnet.Device.Announcements
import RDMnet.Device.DynamicUids
import RDMnet.Disc.Conflict
import RDMnet.Disc.Quiet
import RDMnet.Disc.Registration
import RDMnet.Disc.Reports
import RDMnet.Disc.TxtData
import RDMnet.Lib.Bounded
import RDMnet.Llrp.Discovery
import RDMnet.MsgBuf.Bounds
import RDMnet.MsgBuf.BoundsBuf
import RDMnet.MsgBuf.BoundsList
import RDMnet.MsgBuf.Exhaustion
import RDMnet.MsgBuf.InnerLengths
import RDMnet.MsgBuf.Reach
import RDMnet.MsgBuf.ResumeBuf
import RDMnet.MsgBuf.Stream
import RDMnet.Prot.Contain
import RDMnet.Prot.Frame
import RDMnet.Prot.Pack
import RDMnet.Prot.Reads
import RDMnet.Prot.RoundTrip
import RDMnet.Prot.Send
