import Sponge.Foundation.Simulation
import Sponge.Tcp.Receiver
import Sponge.Tcp.Sender

namespace Sponge
namespace Tcp

open Foundation Bytes

/-!
# The sender and the receiver as machines

Every call an owner can make of a sender or of a receiver, in any order, and
what can be observed after it.  Two-run statements and comparisons with a
reference are about the observations.
-/

/-- The calls of a sender and of the outbound stream and queue it owns. -/
inductive SenderCall where
  | write (data : List UInt8)
  | endInput
  | setError
  | fillWindow
  | ackReceived (ackno : WrappingInt32) (windowSize : UInt16)
  | tick (msSinceLastTick : Nat)
  | sendEmptySegment
  | takeSegments (count : Nat)
deriving DecidableEq, Repr

/-- What a sender shows after a call, with the segments the call has put on
the outbound queue. -/
structure SenderView where
  sent : List TCPSegment
  bytesInFlight : Nat
  nextSeqnoAbsolute : Nat
  nextSeqno : WrappingInt32
  consecutiveRetransmissions : Nat
  rto : Nat
  state : SenderState
deriving DecidableEq, Repr

namespace TCPSender

def call (sender : TCPSender) : SenderCall -> Except Fault TCPSender
  | .write data => .ok { sender with stream := (sender.stream.write data).1 }
  | .endInput => .ok { sender with stream := sender.stream.endInput }
  | .setError => .ok { sender with stream := sender.stream.setError }
  | .fillWindow => sender.fillWindow
  | .ackReceived ackno windowSize => sender.ackReceived ackno windowSize
  | .tick msSinceLastTick => .ok (sender.tick msSinceLastTick)
  | .sendEmptySegment => .ok sender.sendEmptySegment
  | .takeSegments count => .ok { sender with segmentsOut := sender.segmentsOut.drop count }

def view (before after : TCPSender) : SenderView where
  sent := after.segmentsOut.drop before.segmentsOut.length
  bytesInFlight := after.bytesInFlight
  nextSeqnoAbsolute := after.nextSeqnoAbsolute
  nextSeqno := after.nextSeqno
  consecutiveRetransmissions := after.consecutiveRetransmissions
  rto := after.rto
  state := after.state

def perform (sender : TCPSender) (made : SenderCall) : Except Fault (TCPSender × SenderView) :=
  match sender.call made with
  | .ok next => .ok (next, sender.view next)
  | .error fault => .error fault

end TCPSender

/-- The calls of a receiver and of the inbound stream it owns. -/
inductive ReceiverCall where
  | segmentReceived (segment : TCPSegment)
  | read (length : Nat)
  | pop (length : Nat)
  | setError
deriving DecidableEq, Repr

/-- What a receiver shows after a call, with the bytes the call has returned.
The number of unassembled bytes is given for every value that a read past the
end of the counts may deliver. -/
structure ReceiverView where
  bytes : List UInt8
  streamOut : ByteStream
  windowSize : Nat
  unassembledBytes : (Nat -> Nat) -> Nat
  state : ReceiverState
  ackno : Option WrappingInt32

namespace TCPReceiver

def call (receiver : TCPReceiver) : ReceiverCall -> TCPReceiver
  | .segmentReceived segment => receiver.segmentReceived segment
  | .read length =>
      { receiver with
        reassembler :=
          { receiver.reassembler with output := (receiver.reassembler.output.read length).2 } }
  | .pop length => receiver.popOutput length
  | .setError => receiver.setError

def returns (receiver : TCPReceiver) : ReceiverCall -> List UInt8
  | .read length => (receiver.streamOut.read length).1
  | _ => []

def view (receiver : TCPReceiver) (bytes : List UInt8) : ReceiverView where
  bytes := bytes
  streamOut := receiver.streamOut
  windowSize := receiver.windowSize
  unassembledBytes := receiver.reassembler.unassembledBytes
  state := receiver.state
  ackno := receiver.ackno

/-- No call of a receiver faults. -/
def perform (receiver : TCPReceiver) (made : ReceiverCall) :
    Except Empty (TCPReceiver × ReceiverView) :=
  .ok (receiver.call made, (receiver.call made).view (receiver.returns made))

end TCPReceiver
end Tcp
end Sponge
