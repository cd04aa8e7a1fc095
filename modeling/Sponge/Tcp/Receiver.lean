import Sponge.Bytes.Carrying
import Sponge.Tcp.Segment

namespace Sponge
namespace Tcp

open Foundation Bytes

/-!
# The receiver

`TCPReceiver` turns segments into substrings for the reassembler and keeps
the number it acknowledges, its checkpoint, apart from what the reassembler
has stored.  The subtraction that makes a stream index out of an absolute
number wraps around at zero.
-/

inductive ReceiverState where
  | listen
  | synRecv
  | finRecv
  | error
deriving DecidableEq, Repr

structure TCPReceiver where
  reassembler : StreamReassembler
  isn : UInt32
  isSet : Bool
  ended : Bool
  checkpoint : Nat
  capacity : Nat
deriving DecidableEq

namespace TCPReceiver

def new (capacity : Capacity) : TCPReceiver where
  reassembler := StreamReassembler.new capacity
  isn := 0
  isSet := false
  ended := false
  checkpoint := 0
  capacity := capacity.value

def streamOut (receiver : TCPReceiver) : ByteStream :=
  receiver.reassembler.output

/-- The ackno that should be sent to the peer, empty if no SYN has been received. -/
def ackno (receiver : TCPReceiver) : Option WrappingInt32 :=
  if receiver.isSet then some (wrap receiver.checkpoint ⟨receiver.isn⟩) else none

def windowSize (receiver : TCPReceiver) : Nat :=
  receiver.reassembler.capacityValue - receiver.streamOut.bufferSize

/-- A SYN sets the initial sequence number, also a later one. -/
def noteSyn (receiver : TCPReceiver) (segment : TCPSegment) : TCPReceiver :=
  if segment.header.syn then
    { receiver with isn := segment.header.seqno.rawValue, isSet := true, checkpoint := 0 }
  else receiver

/-- The absolute sequence number of a segment. -/
def index (receiver : TCPReceiver) (segment : TCPSegment) : Nat :=
  unwrap segment.header.seqno ⟨receiver.isn⟩ receiver.checkpoint

/-- The stream index of a segment's first byte. -/
def streamIndex (receiver : TCPReceiver) (segment : TCPSegment) : Nat :=
  let before := sub64 (receiver.index segment) 1
  if segment.header.syn then succ64 before else before

/-- The checkpoint after a segment at the checkpoint, or at number zero, has
been pushed. -/
def advanced (pushed : StreamReassembler) (ended : Bool) (reached : Nat) : Nat :=
  if reached < pushed.left + 1 then
    if ended && pushed.distance == 0 then pushed.left + 1 + 1 else pushed.left + 1
  else reached

/-- What `segment_received` does once the initial sequence number is set. -/
def pushSegment (receiver : TCPReceiver) (segment : TCPSegment) : TCPReceiver :=
  let index := receiver.index segment
  let ended := receiver.ended || segment.header.fin
  let pushed := receiver.reassembler.pushSubstring segment.payload
    (receiver.streamIndex segment) segment.header.fin
  { receiver with
    reassembler := pushed
    ended := ended
    checkpoint :=
      if index = 0 ∨ index = receiver.checkpoint then
        advanced pushed ended (index + segment.lengthInSequenceSpace)
      else receiver.checkpoint }

/-- Handle an inbound segment.  Segments are ignored until a SYN arrives. -/
def segmentReceived (receiver : TCPReceiver) (segment : TCPSegment) : TCPReceiver :=
  let noted := receiver.noteSyn segment
  if noted.isSet then noted.pushSegment segment else noted

def state (receiver : TCPReceiver) : ReceiverState :=
  if receiver.streamOut.error then .error
  else if receiver.ackno = none then .listen
  else if ¬ receiver.streamOut.inputEnded then .synRecv
  else .finRecv

/-- Reads and pops of the inbound stream. -/
def popOutput (receiver : TCPReceiver) (length : Nat) : TCPReceiver :=
  { receiver with reassembler := receiver.reassembler.popOutput length }

/-- The inbound stream suffered an error. -/
def setError (receiver : TCPReceiver) : TCPReceiver :=
  { receiver with
    reassembler :=
      { receiver.reassembler with output := receiver.reassembler.output.setError } }

/-! ## When the receiver listens -/

theorem streamIndex_lt (receiver : TCPReceiver) (segment : TCPSegment) :
    receiver.streamIndex segment < 2 ^ 64 := by
  unfold streamIndex
  dsimp only
  split
  · exact succ64_lt _
  · exact sub64_lt _ _

theorem noteSyn_reassembler (receiver : TCPReceiver) (segment : TCPSegment) :
    (receiver.noteSyn segment).reassembler = receiver.reassembler := by
  unfold noteSyn
  split
  · rfl
  · rfl

/-- Only the pushed payload changes the reassembler. -/
theorem segmentReceived_reassembler (receiver : TCPReceiver) (segment : TCPSegment) :
    (receiver.segmentReceived segment).reassembler =
      if (receiver.noteSyn segment).isSet then
        receiver.reassembler.pushSubstring segment.payload
          ((receiver.noteSyn segment).streamIndex segment) segment.header.fin
      else receiver.reassembler := by
  have same := receiver.noteSyn_reassembler segment
  unfold segmentReceived
  dsimp only
  split
  · unfold pushSegment
    dsimp only
    rw [same]
  · exact same

/-- A receiver that is not set ignores everything but a SYN. -/
theorem segmentReceived_of_unset {receiver : TCPReceiver} {segment : TCPSegment}
    (unset : receiver.isSet = false) (noSyn : segment.header.syn = false) :
    receiver.segmentReceived segment = receiver := by
  unfold segmentReceived noteSyn
  rw [noSyn]
  dsimp only
  rw [if_neg Bool.false_ne_true, unset]
  rfl

theorem isSet_segmentReceived (receiver : TCPReceiver) (segment : TCPSegment) :
    (receiver.segmentReceived segment).isSet = (receiver.isSet || segment.header.syn) := by
  unfold segmentReceived noteSyn
  cases syn : segment.header.syn with
  | true =>
      rw [Bool.or_true]
      rfl
  | false =>
      rw [Bool.or_false]
      dsimp only
      rw [if_neg Bool.false_ne_true]
      split
      · rfl
      · rfl

end TCPReceiver
end Tcp
end Sponge
