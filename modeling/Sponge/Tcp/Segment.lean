import Sponge.Bytes.ByteStream
import Sponge.Tcp.WrappingIntegers

namespace Sponge
namespace Tcp

open Bytes

/-!
# Segments, configurations and faults

The data that the sender, the receiver and the connection exchange.  A
payload is the byte string its buffer holds.
-/

/-- The header of a segment, with the defaults of a fresh one. -/
structure TCPHeader where
  sport : UInt16 := 0
  dport : UInt16 := 0
  seqno : WrappingInt32 := ⟨0⟩
  ackno : WrappingInt32 := ⟨0⟩
  doff : UInt8 := 5
  urg : Bool := false
  ack : Bool := false
  psh : Bool := false
  rst : Bool := false
  syn : Bool := false
  fin : Bool := false
  win : UInt16 := 0
  cksum : UInt16 := 0
  uptr : UInt16 := 0
deriving DecidableEq, Repr

structure TCPSegment where
  header : TCPHeader := {}
  payload : List UInt8 := []
deriving DecidableEq, Repr

/-- Payload length plus one for each of SYN and FIN. -/
def TCPSegment.lengthInSequenceSpace (segment : TCPSegment) : Nat :=
  segment.payload.length + (if segment.header.syn then 1 else 0) +
    (if segment.header.fin then 1 else 0)

/-- Config for the sender and the receiver. -/
structure TCPConfig where
  rtTimeout : UInt16 := 1000
  recvCapacity : Capacity := ⟨64000, by decide⟩
  sendCapacity : Capacity := ⟨64000, by decide⟩
  fixedIsn : Option WrappingInt32 := none

def TCPConfig.maxPayloadSize : Nat :=
  1000

def TCPConfig.maxRetxAttempts : Nat :=
  8

/-- The exceptions and undefined accesses that the modelled code can run into. -/
inductive Fault where
  | shrinkBeyondSize
  | addToFullWindow
  | outOfRange
  | badOptionalAccess
deriving DecidableEq, Repr

/-- The text of a thrown exception; an undefined access carries none. -/
def Fault.what : Fault -> Option String
  | .shrinkBeyondSize => some "Cannot shrink window by more than its size"
  | .addToFullWindow => some "Cannot add segment to full window"
  | .outOfRange => none
  | .badOptionalAccess => some "bad optional access"

/-! ## Sequence space -/

theorem TCPSegment.payload_length_le (segment : TCPSegment) :
    segment.payload.length ≤ segment.lengthInSequenceSpace := by
  unfold lengthInSequenceSpace
  omega

theorem TCPSegment.length_pos_of_fin (segment : TCPSegment) (fin : segment.header.fin = true) :
    segment.payload.length < segment.lengthInSequenceSpace := by
  unfold lengthInSequenceSpace
  rw [fin, if_pos rfl]
  omega

theorem TCPSegment.syn_of_length_zero {segment : TCPSegment}
    (empty : segment.lengthInSequenceSpace = 0) : segment.header.syn = false := by
  unfold lengthInSequenceSpace at empty
  cases syn : segment.header.syn with
  | true =>
      rw [syn, if_pos rfl] at empty
      omega
  | false => rfl

end Tcp
end Sponge
