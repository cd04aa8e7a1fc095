import Sponge.Bytes.ByteQueue
import Sponge.Loop.Waiting

namespace Sponge
namespace Loop

open Bytes Foundation Wire

/-!
# Copying in both directions

`bidirectional_stream_copy` copies from the standard input to a socket and from the
socket to the standard output.  Each way has a byte stream, a rule that reads into it
and a rule that writes from it.  When everything has been written, the socket is shut
down for writing, or the output is closed.

Beside the byte stream a flow keeps which bytes the kernel has delivered for it and
which bytes the kernel has taken.
-/

inductive Way where
  | outbound
  | inbound
deriving DecidableEq, Repr

def Way.other : Way -> Way
  | .outbound => .inbound
  | .inbound => .outbound

structure Flow where
  stream : ByteStream
  shutdown : Bool := false
  delivered : List UInt8 := []
  taken : List UInt8 := []
deriving DecidableEq

/-- What the kernel will answer to the calls. -/
structure Kernel where
  reads : List ReadAnswer
  writes : List WriteAnswer
  calls : List CallAnswer
deriving DecidableEq, Repr

structure StreamCopy where
  input : FDWrapper
  output : FDWrapper
  socket : FDWrapper
  outbound : Flow
  inbound : Flow
  kernel : Kernel
deriving DecidableEq

abbrev CopyRule := Rule DescriptorFault StreamCopy

namespace StreamCopy

def maxCopyLength : Nat := 65536

def bufferSize : Capacity where
  value := 1048576
  bounded := by decide

/-! ## The two ways -/

def flow (copy : StreamCopy) : Way -> Flow
  | .outbound => copy.outbound
  | .inbound => copy.inbound

def source (copy : StreamCopy) : Way -> FDWrapper
  | .outbound => copy.input
  | .inbound => copy.socket

def sink (copy : StreamCopy) : Way -> FDWrapper
  | .outbound => copy.socket
  | .inbound => copy.output

def withFlow (copy : StreamCopy) (way : Way) (flow : Flow) : StreamCopy :=
  match way with
  | .outbound => { copy with outbound := flow }
  | .inbound => { copy with inbound := flow }

def withSource (copy : StreamCopy) (way : Way) (source : FDWrapper) : StreamCopy :=
  match way with
  | .outbound => { copy with input := source }
  | .inbound => { copy with socket := source }

def withSink (copy : StreamCopy) (way : Way) (sink : FDWrapper) : StreamCopy :=
  match way with
  | .outbound => { copy with socket := sink }
  | .inbound => { copy with output := sink }

def withKernel (copy : StreamCopy) (kernel : Kernel) : StreamCopy :=
  { copy with kernel := kernel }

/-! ## The rules -/

/-- Read from the source into the byte stream. -/
def readInto (way : Way) (copy : StreamCopy) : Handled DescriptorFault StreamCopy :=
  let flow := copy.flow way
  match copy.kernel.reads with
  | [] => .error (.blocked, copy)
  | answer :: reads =>
      let asked := copy.withKernel { copy.kernel with reads := reads }
      match (copy.source way).read flow.stream.remainingCapacity answer with
      | .error fault => .error (fault, asked)
      | .ok (bytes, source) =>
          let stream := (flow.stream.write bytes).1
          .ok ((asked.withSource way source).withFlow way
            { flow with
              stream := if source.eof then stream.endInput else stream
              delivered := flow.delivered ++ bytes })

/-- Shut the socket down for writing, or close the output. -/
def finish (way : Way) (copy : StreamCopy) : Handled DescriptorFault StreamCopy :=
  match copy.kernel.calls with
  | [] => .error (.blocked, copy)
  | answer :: calls =>
      let asked := copy.withKernel { copy.kernel with calls := calls }
      let finished := match way with
        | .outbound => copy.socket.shutdownWrite answer
        | .inbound => copy.output.close answer
      match finished with
      | .error fault => .error (fault, asked)
      | .ok sink =>
          .ok ((asked.withSink way sink).withFlow way { copy.flow way with shutdown := true })

/-- Write from the byte stream into the sink. -/
def writeFrom (way : Way) (copy : StreamCopy) : Handled DescriptorFault StreamCopy :=
  let flow := copy.flow way
  match copy.kernel.writes with
  | [] => .error (.blocked, copy)
  | answer :: writes =>
      let asked := copy.withKernel { copy.kernel with writes := writes }
      let bytesToWrite := min maxCopyLength flow.stream.bufferSize
      let data := flow.stream.peekOutput bytesToWrite
      match (copy.sink way).write data answer with
      | .error fault => .error (fault, asked)
      | .ok (bytesWritten, sink) =>
          let stream := flow.stream.popOutput bytesWritten.toNat
          let written := (asked.withSink way sink).withFlow way
            { flow with stream := stream, taken := flow.taken ++ answer.taken data }
          if stream.eof then finish way written else .ok written

/-- Every rule is cancelled by ending the input of its byte stream. -/
def endInput (way : Way) (copy : StreamCopy) : Handled DescriptorFault StreamCopy :=
  .ok (copy.withFlow way { copy.flow way with stream := (copy.flow way).stream.endInput })

def readRule (way : Way) : CopyRule where
  fd := fun copy => copy.source way
  direction := .input
  callback := readInto way
  interest := fun copy =>
    !(copy.flow way).stream.error && decide ((copy.flow way).stream.remainingCapacity > 0) &&
      !(copy.flow way.other).stream.error
  cancel := endInput way

def writeRule (way : Way) : CopyRule where
  fd := fun copy => copy.sink way
  direction := .output
  callback := writeFrom way
  interest := fun copy =>
    !(copy.flow way).stream.bufferEmpty ||
      (copy.flow way).stream.eof && !(copy.flow way).shutdown
  cancel := endInput way

/-- Read from stdin into the outbound byte stream. -/
def readInput : CopyRule := readRule .outbound

/-- Read from the outbound byte stream into the socket. -/
def writeSocket : CopyRule := writeRule .outbound

/-- Read from the socket into the inbound byte stream. -/
def readSocket : CopyRule := readRule .inbound

/-- Read from the inbound byte stream into stdout. -/
def writeOutput : CopyRule := writeRule .inbound

def start (socket : FDWrapper) (kernel : Kernel) : StreamCopy where
  input := { fd := 0 }
  output := { fd := 1 }
  socket := socket
  outbound := { stream := .new bufferSize }
  inbound := { stream := .new bufferSize }
  kernel := kernel

def rules : List CopyRule :=
  [readInput, writeSocket, readSocket, writeOutput]

/-- The event loop in which the copying begins. -/
def eventLoop (socket : FDWrapper) (kernel : Kernel) : EventLoop DescriptorFault StreamCopy where
  rules := rules
  world := start socket kernel

/-- Loop until completion, or as long as there are answers. -/
def loopUntilExit (loop : EventLoop DescriptorFault StreamCopy) :
    List PollAnswer -> Except (LoopFault DescriptorFault × EventLoop DescriptorFault StreamCopy)
      (WaitResult × EventLoop DescriptorFault StreamCopy)
  | [] => .ok (.success, loop)
  | answer :: answers =>
      match loop.waitNextEvent answer with
      | .error thrown => .error thrown
      | .ok (.exit, next) => .ok (.exit, next)
      | .ok (_, next) => loopUntilExit next answers

end StreamCopy
end Loop
end Sponge
