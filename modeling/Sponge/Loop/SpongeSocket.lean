import Sponge.Loop.Adapters
import Sponge.Loop.EventLoop
import Sponge.Tcp.Connection

namespace Sponge
namespace Loop

open Bytes Foundation Tcp Wire

/-!
# The socket that runs a connection

A `TCPSpongeSocket` connects its owner, by a pair of stream sockets, and the network, by
an adapter, with a `TCPConnection`.  Four rules of an event loop do the work, and the
connection ticks after every pass of the loop.  First the loop runs in the owner's thread
until the connection is set up, then in a thread of its own.

Beside its fields a socket keeps the bytes that the connection has accepted from the
owner and those that the kernel has taken for the owner, the segments that it has taken
out of the connection's queue, and the datagrams that it has sent.
-/

/-- What the kernel will answer to the calls. -/
structure SocketKernel (Received : Type) where
  reads : List ReadAnswer := []
  writes : List WriteAnswer := []
  calls : List CallAnswer := []
  arrivals : List (Arrival Received) := []
  sends : List CallAnswer := []
deriving DecidableEq, Repr

structure TCPSpongeSocket (Adapter Received Sent : Type) where
  threadData : FDWrapper
  datagramAdapter : Adapter
  tcp : TCPConnection
  inboundShutdown : Bool := false
  outboundShutdown : Bool := false
  fullyAcked : Bool := false
  kernel : SocketKernel Received := {}
  written : List UInt8 := []
  taken : List UInt8 := []
  collected : List TCPSegment := []
  datagrams : List Sent := []

/-- What a socket can throw. -/
inductive SocketFault where
  | descriptor (fault : DescriptorFault)
  | connection (fault : Tcp.Fault)
  | acceptedLess
  | unexpectedState
deriving DecidableEq, Repr

/-- The text of a thrown exception.  That of an unexpected state names the two states. -/
def SocketFault.what : SocketFault -> Option String
  | .descriptor fault => fault.what
  | .connection fault => fault.what
  | .acceptedLess => some "TCPConnection::write() accepted less than advertised length"
  | .unexpectedState => none

namespace TCPSpongeSocket

variable {Adapter Received Sent : Type}

/-- The method of a rule. -/
abbrev Method (Adapter Received Sent : Type) :=
  TCPSpongeSocket Adapter Received Sent ->
    Handled SocketFault (TCPSpongeSocket Adapter Received Sent)

/-- Note that all outbound bytes have been acknowledged. -/
def noteAcked (socket : TCPSpongeSocket Adapter Received Sent) :
    TCPSpongeSocket Adapter Received Sent :=
  { socket with
    fullyAcked := socket.fullyAcked || socket.threadData.eof && socket.tcp.bytesInFlight = 0 }

/-- Hand a segment to the connection. -/
def segmentReceived (seg : TCPSegment) : Method Adapter Received Sent := fun socket =>
  match socket.tcp.segmentReceived seg with
  | .error fault => .error (.connection fault, socket)
  | .ok tcp => .ok { socket with tcp := tcp }

/-- Read a datagram and hand the segment in it to the connection. -/
def readDatagram (adaptT : AdaptT Adapter Received Sent) : Method Adapter Received Sent :=
  fun socket =>
    match socket.kernel.arrivals with
    | [] => .error (.descriptor .blocked, socket)
    | arrival :: arrivals =>
        let asked := { socket with kernel := { socket.kernel with arrivals := arrivals } }
        match adaptT.read socket.datagramAdapter arrival with
        | .error fault => .error (.descriptor fault, asked)
        | .ok (none, adapter) => .ok { asked with datagramAdapter := adapter }.noteAcked
        | .ok (some seg, adapter) =>
            (segmentReceived seg { asked with datagramAdapter := adapter }).map noteAcked

/-- End the outbound stream. -/
def endOutbound : Method Adapter Received Sent := fun socket =>
  match socket.tcp.endInputStream with
  | .error fault => .error (.connection fault, socket)
  | .ok tcp => .ok { socket with tcp := tcp, outboundShutdown := true }

/-- Hand bytes of the owner to the connection. -/
def write (data : List UInt8) : Method Adapter Received Sent := fun socket =>
  match socket.tcp.write data with
  | .error fault => .error (.connection fault, socket)
  | .ok (tcp, amountWritten) =>
      let wrote := { socket with
        tcp := tcp
        written := socket.written ++ data.take amountWritten }
      if amountWritten ≠ data.length then .error (.acceptedLess, wrote)
      else if socket.threadData.eof then endOutbound wrote
      else .ok wrote

/-- Read from the owner into the outbound stream. -/
def readOwner : Method Adapter Received Sent := fun socket =>
  match socket.kernel.reads with
  | [] => .error (.descriptor .blocked, socket)
  | answer :: reads =>
      let asked := { socket with kernel := { socket.kernel with reads := reads } }
      match socket.threadData.read socket.tcp.remainingOutboundCapacity answer with
      | .error fault => .error (.descriptor fault, asked)
      | .ok (data, threadData) => write data { asked with threadData := threadData }

/-- Let the owner read the end of the inbound stream. -/
def shutInbound : Method Adapter Received Sent := fun socket =>
  match socket.kernel.calls with
  | [] => .error (.descriptor .blocked, socket)
  | answer :: calls =>
      let asked := { socket with kernel := { socket.kernel with calls := calls } }
      match socket.threadData.shutdownWrite answer with
      | .error fault => .error (.descriptor fault, asked)
      | .ok threadData => .ok { asked with threadData := threadData, inboundShutdown := true }

/-- Write from the inbound stream to the owner. -/
def writeOwner : Method Adapter Received Sent := fun socket =>
  match socket.kernel.writes with
  | [] => .error (.descriptor .blocked, socket)
  | answer :: writes =>
      let asked := { socket with kernel := { socket.kernel with writes := writes } }
      let inbound := socket.tcp.inboundStream
      let buffer := inbound.peekOutput (min 65536 inbound.bufferSize)
      match socket.threadData.write buffer answer with
      | .error fault => .error (.descriptor fault, asked)
      | .ok (bytesWritten, threadData) =>
          let wrote := { asked with
            threadData := threadData
            tcp := socket.tcp.popInbound bytesWritten.toNat
            taken := socket.taken ++ answer.taken buffer }
          if wrote.tcp.inboundStream.eof || wrote.tcp.inboundStream.error then shutInbound wrote
          else .ok wrote

/-- Send the segments of the queue, one after the other. -/
def sendSegments (adaptT : AdaptT Adapter Received Sent) :
    List TCPSegment -> Method Adapter Received Sent
  | [], socket => .ok socket
  | seg :: rest, socket =>
      match adaptT.write socket.datagramAdapter seg socket.kernel.sends with
      | .error fault => .error (.descriptor fault, socket)
      | .ok sending =>
          sendSegments adaptT rest
            { socket with
              datagramAdapter := sending.adapter
              kernel := { socket.kernel with sends := sending.answers }
              tcp := { socket.tcp with segmentsOut := rest }
              collected := socket.collected ++ [seg]
              datagrams := socket.datagrams ++ sending.sent.toList }

/-- Send all segments of the queue. -/
def writeDatagrams (adaptT : AdaptT Adapter Received Sent) : Method Adapter Received Sent :=
  fun socket => sendSegments adaptT socket.tcp.segmentsOut socket

/-! ## The rules -/

abbrev SocketRule (Adapter Received Sent : Type) :=
  Rule SocketFault (TCPSpongeSocket Adapter Received Sent)

/-- Read from the filtered packet stream and dump into the connection. -/
def inboundDatagrams (adaptT : AdaptT Adapter Received Sent) : SocketRule Adapter Received Sent where
  fd := fun socket => adaptT.fd socket.datagramAdapter
  direction := .input
  callback := readDatagram adaptT
  interest := fun socket => socket.tcp.active
  cancel := .ok

/-- Read from the pipe into the outbound buffer. -/
def outboundBytes : SocketRule Adapter Received Sent where
  fd := threadData
  direction := .input
  callback := readOwner
  interest := fun socket =>
    socket.tcp.active && !socket.outboundShutdown &&
      decide (socket.tcp.remainingOutboundCapacity > 0)
  cancel := endOutbound

/-- Read from the inbound buffer into the pipe. -/
def inboundBytes : SocketRule Adapter Received Sent where
  fd := threadData
  direction := .output
  callback := writeOwner
  interest := fun socket =>
    !socket.tcp.inboundStream.bufferEmpty ||
      (socket.tcp.inboundStream.eof || socket.tcp.inboundStream.error) && !socket.inboundShutdown
  cancel := .ok

/-- Read outbound segments from the connection and send them as datagrams. -/
def outboundSegments (adaptT : AdaptT Adapter Received Sent) : SocketRule Adapter Received Sent where
  fd := fun socket => adaptT.fd socket.datagramAdapter
  direction := .output
  callback := writeDatagrams adaptT
  interest := fun socket => !socket.tcp.segmentsOut.isEmpty
  cancel := .ok

def rules (adaptT : AdaptT Adapter Received Sent) : List (SocketRule Adapter Received Sent) :=
  [inboundDatagrams adaptT, outboundBytes, inboundBytes, outboundSegments adaptT]

end TCPSpongeSocket

/-! ## The loop -/

/-- How far the socket is.  It finishes or ends with an exception. -/
inductive Phase where
  | connecting
  | accepting
  | running
  | finished
  | thrown (fault : LoopFault SocketFault)
deriving DecidableEq, Repr

/-- Whether `_tcp_loop` goes on. -/
def Phase.condition : Phase -> TCPState -> Bool
  | .connecting, state => state = .ofState .synSent
  | .accepting, state =>
      state = .ofState .listen || state = .ofState .synRcvd || state = .ofState .synSent
  | .running, _ => true
  | .finished, _ => false
  | .thrown _, _ => false

/-- What comes after the loop of a phase. -/
def Phase.next : Phase -> Phase
  | .connecting => .running
  | .accepting => .running
  | .running => .finished
  | .finished => .finished
  | .thrown fault => .thrown fault

/-- What happens to a socket in one pass of its loop: the answers of the kernel, whether
the owner wants it to end, and the time that goes by. -/
structure Turn (Received : Type) where
  kernel : SocketKernel Received
  answer : PollAnswer
  abort : Bool := false
  elapsed : Nat := 0
deriving DecidableEq, Repr

/-- A socket with its event loop. -/
structure SocketThread (Adapter Received Sent : Type) where
  loop : EventLoop SocketFault (TCPSpongeSocket Adapter Received Sent)
  phase : Phase

namespace SocketThread

variable {Adapter Received Sent : Type}

abbrev socket (thread : SocketThread Adapter Received Sent) :
    TCPSpongeSocket Adapter Received Sent :=
  thread.loop.world

def withSocket (thread : SocketThread Adapter Received Sent)
    (socket : TCPSpongeSocket Adapter Received Sent) : SocketThread Adapter Received Sent :=
  { thread with loop := { thread.loop with world := socket } }

/-- The end of a pass: the connection ticks. -/
def tick (thread : SocketThread Adapter Received Sent) (elapsed : Nat) :
    SocketThread Adapter Received Sent :=
  if thread.socket.tcp.active then
    match thread.socket.tcp.tick elapsed with
    | .error fault => { thread with phase := .thrown (.thrown (.connection fault)) }
    | .ok tcp => thread.withSocket { thread.socket with tcp := tcp }
  else thread

/-- One pass of `_tcp_loop`, or the step to what comes behind it. -/
def pass (thread : SocketThread Adapter Received Sent) (turn : Turn Received) :
    SocketThread Adapter Received Sent :=
  if thread.phase.condition thread.socket.tcp.state then
    match (thread.withSocket { thread.socket with kernel := turn.kernel }).loop.waitNextEvent
        turn.answer with
    | .error (fault, loop) => { loop := loop, phase := .thrown fault }
    | .ok (result, loop) =>
        if result = .exit ∨ turn.abort then { loop := loop, phase := thread.phase.next }
        else tick { loop := loop, phase := thread.phase } turn.elapsed
  else { thread with phase := thread.phase.next }

end SocketThread

namespace TCPSpongeSocket

variable {Adapter Received Sent : Type}

/-- Set up the connection and the event loop. -/
def initializeTCP (adaptT : AdaptT Adapter Received Sent) (threadData : FDWrapper)
    (adapter : Adapter) (config : TCPConfig) (random : WrappingInt32) :
    EventLoop SocketFault (TCPSpongeSocket Adapter Received Sent) where
  rules := rules adaptT
  world :=
    { threadData := threadData
      datagramAdapter := adapter
      tcp := TCPConnection.new config random }

/-- Connect, up to the loop. -/
def connect (adaptT : AdaptT Adapter Received Sent) (threadData : FDWrapper) (adapter : Adapter)
    (cTcp : TCPConfig) (random : WrappingInt32) (cAd : FdAdapterConfig) :
    Except SocketFault (SocketThread Adapter Received Sent) :=
  let loop := initializeTCP adaptT threadData (adaptT.withConfig adapter cAd) cTcp random
  match loop.world.tcp.connect with
  | .error fault => .error (.connection fault)
  | .ok tcp =>
      if tcp.state ≠ .ofState .synSent then .error .unexpectedState
      else .ok { loop := { loop with world := { loop.world with tcp := tcp } }, phase := .connecting }

/-- Listen and accept, up to the loop. -/
def listenAndAccept (adaptT : AdaptT Adapter Received Sent) (threadData : FDWrapper)
    (adapter : Adapter) (cTcp : TCPConfig) (random : WrappingInt32) (cAd : FdAdapterConfig) :
    SocketThread Adapter Received Sent where
  loop := initializeTCP adaptT threadData
    (adaptT.setListening (adaptT.withConfig adapter cAd) true) cTcp random
  phase := .accepting

end TCPSpongeSocket
end Loop
end Sponge
