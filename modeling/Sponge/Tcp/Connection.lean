import Sponge.Tcp.State

namespace Sponge
namespace Tcp

open Bytes

/-!
# The connection

`TCPConnection` joins a sender and a receiver.  `segment_received` compares
the current state with the official ones and handles the segment case by
case; each case is a definition of its own below.  The owner of a connection
takes segments from `segments_out` without the connection noticing, so the
model keeps the whole queue.
-/

structure TCPConnection where
  cfg : TCPConfig
  receiver : TCPReceiver
  sender : TCPSender
  segmentsOut : List TCPSegment
  lingerAfterStreamsFinish : Bool
  active : Bool
  timeSinceLastSegmentReceived : Nat

namespace TCPConnection

/-- Construct a connection; `random` is the initial sequence number drawn if
the configuration fixes none. -/
def new (cfg : TCPConfig) (random : WrappingInt32) : TCPConnection where
  cfg := cfg
  receiver := TCPReceiver.new cfg.recvCapacity
  sender := TCPSender.new cfg.sendCapacity cfg.rtTimeout (cfg.fixedIsn.getD random)
  segmentsOut := []
  lingerAfterStreamsFinish := true
  active := true
  timeSinceLastSegmentReceived := 0

def state (connection : TCPConnection) : TCPState :=
  TCPState.summarize connection.sender connection.receiver connection.active
    connection.lingerAfterStreamsFinish

def remainingOutboundCapacity (connection : TCPConnection) : Nat :=
  connection.sender.stream.remainingCapacity

def bytesInFlight (connection : TCPConnection) : Nat :=
  connection.sender.bytesInFlight

def inboundStream (connection : TCPConnection) : ByteStream :=
  connection.receiver.streamOut

/-- The acknowledgment fields of a segment.  The window is cut to 16 bits. -/
def ackInfo (ackno : WrappingInt32) (windowSize : Nat) (segment : TCPSegment) : TCPSegment :=
  { segment with
    header := { segment.header with ack := true, ackno := ackno, win := .ofNat windowSize } }

def addAckInfo (connection : TCPConnection) (segment : TCPSegment) : Except Fault TCPSegment :=
  match connection.receiver.ackno with
  | none => .error .badOptionalAccess
  | some ackno => .ok (ackInfo ackno connection.receiver.windowSize segment)

/-- The segment as it leaves the connection: acknowledging, once there is
something to acknowledge. -/
def stamped (connection : TCPConnection) (segment : TCPSegment) : TCPSegment :=
  match connection.receiver.ackno with
  | none => segment
  | some ackno => ackInfo ackno connection.receiver.windowSize segment

def collectSenderSegmentsOut (connection : TCPConnection) : Except Fault TCPConnection :=
  match connection.sender.fillWindow with
  | .error fault => .error fault
  | .ok filled =>
      .ok { connection with
        sender := { filled with segmentsOut := [] }
        segmentsOut := connection.segmentsOut ++ filled.segmentsOut.map connection.stamped }

/-- Put a bare acknowledgment on the outbound queue. -/
def pushAck (connection : TCPConnection) : Except Fault TCPConnection :=
  match connection.addAckInfo {} with
  | .error fault => .error fault
  | .ok segment => .ok { connection with segmentsOut := connection.segmentsOut ++ [segment] }

/-- Put a bare acknowledgment on the sender's queue. -/
def queueAck (connection : TCPConnection) : Except Fault TCPConnection :=
  match connection.addAckInfo {} with
  | .error fault => .error fault
  | .ok segment => .ok { connection with sender := connection.sender.send segment }

def takeSegment (connection : TCPConnection) (segment : TCPSegment) : TCPConnection :=
  { connection with receiver := connection.receiver.segmentReceived segment }

/-- Hand the acknowledgment of a segment to the sender. -/
def takeAck (connection : TCPConnection) (segment : TCPSegment) : Except Fault TCPConnection :=
  match connection.sender.ackReceived segment.header.ackno segment.header.win with
  | .error fault => .error fault
  | .ok sender => .ok { connection with sender := sender }

/-- Both streams suffer an error and the connection ends. -/
def resetReceived (connection : TCPConnection) : TCPConnection :=
  { connection with
    sender := { connection.sender with stream := connection.sender.stream.setError }
    receiver := connection.receiver.setError
    active := false
    lingerAfterStreamsFinish := false }

def uncleanShutdown (connection : TCPConnection) : TCPConnection :=
  { connection.resetReceived with
    segmentsOut := connection.segmentsOut ++ [{ header := { rst := true } }] }

/-! ## Methods of the owner -/

def connect (connection : TCPConnection) : Except Fault TCPConnection :=
  connection.collectSenderSegmentsOut

/-- Write data to the outbound stream, and send it if possible.  The result
is the number of bytes accepted. -/
def write (connection : TCPConnection) (data : List UInt8) : Except Fault (TCPConnection × Nat) :=
  let wrote := connection.sender.stream.write data
  match { connection with
      sender := { connection.sender with stream := wrote.1 } }.collectSenderSegmentsOut with
  | .error fault => .error fault
  | .ok collected => .ok (collected, wrote.2)

def endInputStream (connection : TCPConnection) : Except Fault TCPConnection :=
  { connection with
    sender :=
      { connection.sender with
        stream := connection.sender.stream.endInput } }.collectSenderSegmentsOut

def popInbound (connection : TCPConnection) (length : Nat) : TCPConnection :=
  { connection with receiver := connection.receiver.popOutput length }

/-- The states in which a tick collects what the sender has to send. -/
def ticksCollect (state : TCPState) : Bool :=
  state = .ofState .established || state = .ofState .synSent || state = .ofState .synRcvd ||
    state = .ofState .finWait1 || state = .ofState .closeWait || state = .ofState .lastAck ||
    state = .ofState .closing

/-- The end of lingering, if its time has come. -/
def stopLingering (connection : TCPConnection) : TCPConnection :=
  if connection.state = .ofState .timeWait ∧ connection.lingerAfterStreamsFinish ∧
      connection.timeSinceLastSegmentReceived ≥ 10 * connection.cfg.rtTimeout.toNat then
    { connection with lingerAfterStreamsFinish := false, active := false }
  else connection

def tick (connection : TCPConnection) (msSinceLastTick : Nat) : Except Fault TCPConnection :=
  let elapsed := { connection with
    timeSinceLastSegmentReceived :=
      (connection.timeSinceLastSegmentReceived + msSinceLastTick) % 2 ^ 64 }
  let lingered := elapsed.stopLingering
  let ticked := { lingered with sender := lingered.sender.tick msSinceLastTick }
  if ticked.sender.consecutiveRetransmissions > TCPConfig.maxRetxAttempts then
    .ok ticked.uncleanShutdown
  else if ticksCollect connection.state then ticked.collectSenderSegmentsOut
  else .ok ticked

/-! ## Inbound segments, state by state -/

/-- LISTEN: a SYN opens the connection. -/
def inListen (connection : TCPConnection) (segment : TCPSegment) : Except Fault TCPConnection :=
  if segment.header.syn then do
    let connected <- (connection.takeSegment segment).connect
    return { connected with active := true }
  else return connection

/-- SYN_SENT: the peer's SYN, with or without an acknowledgment. -/
def inSynSent (connection : TCPConnection) (segment : TCPSegment) : Except Fault TCPConnection :=
  if segment.header.syn && segment.header.ack then do
    let acked <- (connection.takeSegment segment).takeAck segment
    acked.pushAck
  else if segment.header.syn then (connection.takeSegment segment).pushAck
  else return connection

def inSynRcvd (connection : TCPConnection) (segment : TCPSegment) : Except Fault TCPConnection :=
  if segment.header.ack then (connection.takeSegment segment).takeAck segment
  else return connection

/-- What ESTABLISHED and FIN_WAIT_1 do with a segment that is more than a
bare acknowledgment. -/
def takeAndReply (connection : TCPConnection) (segment : TCPSegment) :
    Except Fault TCPConnection :=
  if segment.lengthInSequenceSpace ≠ 0 ∨ ¬ segment.header.ack then do
    let queued <- (connection.takeSegment segment).queueAck
    queued.collectSenderSegmentsOut
  else return connection

/-- What they do with its acknowledgment. -/
def ackAndCollect (connection : TCPConnection) (segment : TCPSegment) :
    Except Fault TCPConnection :=
  if segment.header.ack then do
    let acked <- connection.takeAck segment
    acked.collectSenderSegmentsOut
  else return connection

/-- ESTABLISHED or FIN_WAIT_1.  A FIN in ESTABLISHED ends lingering, whether
or not the inbound stream is complete. -/
def inEstablished (connection : TCPConnection) (segment : TCPSegment) :
    Except Fault TCPConnection := do
  let noted :=
    if segment.header.fin ∧ connection.state ≠ .ofState .finWait1 then
      { connection with lingerAfterStreamsFinish := false }
    else connection
  let replied <- noted.takeAndReply segment
  replied.ackAndCollect segment

def inFinWait2 (connection : TCPConnection) (segment : TCPSegment) : Except Fault TCPConnection :=
  if segment.header.fin && segment.header.ack then do
    let acked <- (connection.takeSegment segment).takeAck segment
    acked.pushAck
  else return connection

def inLastAck (connection : TCPConnection) (segment : TCPSegment) : Except Fault TCPConnection :=
  if segment.header.ack then do
    let acked <- connection.takeAck segment
    return if acked.sender.state = .finAcked then
        { acked with lingerAfterStreamsFinish := false, active := false }
      else acked
  else return connection

def inClosing (connection : TCPConnection) (segment : TCPSegment) : Except Fault TCPConnection :=
  if segment.header.ack then do
    let acked <- (connection.takeSegment segment).takeAck segment
    acked.collectSenderSegmentsOut
  else return connection

/-- A repeated FIN is acknowledged again.  CLOSE_WAIT does not look at the
ACK flag. -/
def ackAgain (connection : TCPConnection) (segment : TCPSegment) : Except Fault TCPConnection := do
  let acked <- connection.takeAck segment
  acked.pushAck

def inCloseWait (connection : TCPConnection) (segment : TCPSegment) :
    Except Fault TCPConnection :=
  if segment.header.fin then connection.ackAgain segment else return connection

def inTimeWait (connection : TCPConnection) (segment : TCPSegment) : Except Fault TCPConnection :=
  if segment.header.fin && segment.header.ack then connection.ackAgain segment
  else return connection

/-- The chain of comparisons in `segment_received`. -/
def dispatch (connection : TCPConnection) (segment : TCPSegment) : Except Fault TCPConnection :=
  let state := connection.state
  if state = .ofState .listen then connection.inListen segment
  else if state = .ofState .synSent then connection.inSynSent segment
  else if state = .ofState .synRcvd then connection.inSynRcvd segment
  else if state = .ofState .established ∨ state = .ofState .finWait1 then
    connection.inEstablished segment
  else if state = .ofState .finWait2 then connection.inFinWait2 segment
  else if state = .ofState .lastAck then connection.inLastAck segment
  else if state = .ofState .closing then connection.inClosing segment
  else if state = .ofState .closeWait then connection.inCloseWait segment
  else if state = .ofState .timeWait then connection.inTimeWait segment
  else return connection

/-- The reply to an empty segment with the number before the next one. -/
def keepAlive (connection : TCPConnection) (segment : TCPSegment) : Except Fault TCPConnection :=
  match connection.receiver.ackno with
  | none => return connection
  | some ackno =>
      if segment.lengthInSequenceSpace = 0 ∧ segment.header.seqno = ackno - (1 : UInt32) then
        { connection with
          sender := connection.sender.sendEmptySegment }.collectSenderSegmentsOut
      else return connection

def heard (connection : TCPConnection) : TCPConnection :=
  { connection with timeSinceLastSegmentReceived := 0 }

/-- Called when a new segment has been received from the network. -/
def segmentReceived (connection : TCPConnection) (segment : TCPSegment) :
    Except Fault TCPConnection :=
  if segment.header.rst then return connection.heard.resetReceived
  else do
    let dispatched <- connection.heard.dispatch segment
    dispatched.keepAlive segment

end TCPConnection

/-- What the owner of a connection can do to it. -/
inductive OwnerOp where
  | connect
  | write (data : List UInt8)
  | endInputStream
  | tick (msSinceLastTick : Nat)
  | popInbound (length : Nat)
deriving DecidableEq, Repr

/-- What the owner or the network can do to a connection. -/
inductive ConnectionOp where
  | owner (op : OwnerOp)
  | segmentReceived (segment : TCPSegment)
deriving DecidableEq, Repr

namespace TCPConnection

def perform (connection : TCPConnection) : OwnerOp -> Except Fault TCPConnection
  | .connect => connection.connect
  | .write data => return (<- connection.write data).1
  | .endInputStream => connection.endInputStream
  | .tick msSinceLastTick => connection.tick msSinceLastTick
  | .popInbound length => return connection.popInbound length

def step (connection : TCPConnection) : ConnectionOp -> Except Fault TCPConnection
  | .owner op => connection.perform op
  | .segmentReceived segment => connection.segmentReceived segment

end TCPConnection
end Tcp
end Sponge
