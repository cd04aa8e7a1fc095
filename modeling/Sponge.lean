import Sponge.Bytes.Discarding
import Sponge.Bytes.IndexModel
import Sponge.Bytes.QueueModel
import Sponge.Bytes.Reordering
import Sponge.Foundation.Handlers
import Sponge.Foundation.RingSlice
import Sponge.Foundation.Runs
import Sponge.Loop.Completing
import Sponge.Loop.EventLoop
import Sponge.Loop.DamagedDatagrams
import Sponge.Network.AckRuns
import Sponge.Network.CleanEnds
import Sponge.Network.FlowControl
import Sponge.Network.PrefixSafety
import Sponge.Network.Progress
import Sponge.Network.Resets
import Sponge.Network.Segments
import Sponge.Network.SocketFaults
import Sponge.Tcp.Acceptance
import Sponge.Tcp.AckBounds
import Sponge.Tcp.AckFields
import Sponge.Tcp.AckForwarding
import Sponge.Tcp.Classifiers
import Sponge.Tcp.Collecting
import Sponge.Tcp.Departures
import Sponge.Tcp.Emissions
import Sponge.Tcp.FaithfulRuns
import Sponge.Tcp.Filling
import Sponge.Tcp.FinRuns
import Sponge.Tcp.Holding
import Sponge.Tcp.InboundDelivery
import Sponge.Tcp.Lingering
import Sponge.Tcp.OfficialRuns
import Sponge.Tcp.Probing
import Sponge.Tcp.RepeatedSyns
import Sponge.Tcp.Resting
import Sponge.Tcp.RetransmissionQueue
import Sponge.Tcp.Sender
import Sponge.Tcp.SendingWindow
import Sponge.Tcp.Shifting
import Sponge.Tcp.Silence
import Sponge.Tcp.SingleTimer
import Sponge.Tcp.WindowRuns
import Sponge.Tcp.WrappingIntegers
import Sponge.Wire.Adapter
import Sponge.Wire.Chunks
import Sponge.Wire.Decoding
import Sponge.Wire.Latching
import Sponge.Wire.PartialWrites
import Sponge.Wire.UntrustedBytes
