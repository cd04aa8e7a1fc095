import Sponge.Foundation.RingSlice

namespace Sponge
namespace Bytes

open Foundation

/-!
# The in-order byte stream

`ByteStream` is a ring buffer of `capacity + 1` cells: the redundant cell
tells a full buffer from an empty one.  Its bookkeeping invariants are fields
of the structure, so that the operations below carry them and no later proof
has to re-establish them.

Sizes are naturals.  Allocating `_channel` bounds the capacity, and below
`2 ^ 63` none of the index computations leaves the range of `size_t`.
-/

/-- A capacity for which the ring buffer can be allocated. -/
structure Capacity where
  value : Nat
  bounded : value < 2 ^ 63
deriving DecidableEq

structure ByteStream where
  channel : List UInt8
  capacity : Nat
  readIndex : Nat
  writeIndex : Nat
  bytesRead : Nat
  bytesWritten : Nat
  endFlag : Bool
  error : Bool
  capacity_bounded : capacity < 2 ^ 63
  channel_length : channel.length = capacity + 1
  readIndex_lt : readIndex < capacity + 1
  writeIndex_lt : writeIndex < capacity + 1
  bytes_balance : bytesWritten =
    bytesRead + (capacity + 1 + writeIndex - readIndex) % (capacity + 1)
deriving DecidableEq

namespace ByteStream

/-- Construct a stream with room for `capacity` bytes. -/
def new (capacity : Capacity) : ByteStream where
  channel := List.replicate (capacity.value + 1) 0
  capacity := capacity.value
  readIndex := 0
  writeIndex := 0
  bytesRead := 0
  bytesWritten := 0
  endFlag := false
  error := false
  capacity_bounded := capacity.bounded
  channel_length := List.length_replicate
  readIndex_lt := Nat.succ_pos _
  writeIndex_lt := Nat.succ_pos _
  bytes_balance := by simp

def nextIndexOf (stream : ByteStream) (index step : Nat) : Nat :=
  (index + step % (stream.capacity + 1)) % (stream.capacity + 1)

def bufferFull (stream : ByteStream) : Bool :=
  stream.nextIndexOf stream.writeIndex 1 == stream.readIndex

def bufferSize (stream : ByteStream) : Nat :=
  (stream.capacity + 1 + stream.writeIndex - stream.readIndex) % (stream.capacity + 1)

def bufferEmpty (stream : ByteStream) : Bool :=
  stream.writeIndex == stream.readIndex

def inputEnded (stream : ByteStream) : Bool :=
  stream.endFlag

def eof (stream : ByteStream) : Bool :=
  stream.endFlag && stream.bufferEmpty

def remainingCapacity (stream : ByteStream) : Nat :=
  stream.capacity - stream.bufferSize

/-! ## Ring positions -/

theorem nextIndexOf_eq (stream : ByteStream) (index step : Nat) :
    stream.nextIndexOf index step = (index + step) % (stream.capacity + 1) := by
  unfold nextIndexOf
  rw [Nat.add_mod_mod]

theorem nextIndexOf_lt (stream : ByteStream) (index step : Nat) :
    stream.nextIndexOf index step < stream.capacity + 1 :=
  Nat.mod_lt _ (Nat.succ_pos _)

theorem bufferSize_lt (stream : ByteStream) : stream.bufferSize < stream.capacity + 1 :=
  Nat.mod_lt _ (Nat.succ_pos _)

theorem bufferSize_le (stream : ByteStream) : stream.bufferSize ≤ stream.capacity :=
  Nat.le_of_lt_succ stream.bufferSize_lt

theorem bytesWritten_eq (stream : ByteStream) :
    stream.bytesWritten = stream.bytesRead + stream.bufferSize :=
  stream.bytes_balance

/-- The write position is the read position moved on by the buffered bytes. -/
theorem writeIndex_eq (stream : ByteStream) :
    (stream.readIndex + stream.bufferSize) % (stream.capacity + 1) = stream.writeIndex :=
  ring_distance stream.readIndex_lt stream.writeIndex_lt

/-- The buffered distance is determined by the position it reaches. -/
theorem bufferSize_unique (stream : ByteStream) (distance : Nat)
    (bound : distance < stream.capacity + 1)
    (reaches : (stream.readIndex + distance) % (stream.capacity + 1) = stream.writeIndex) :
    stream.bufferSize = distance :=
  ring_injective stream.bufferSize_lt bound (stream.writeIndex_eq.trans reaches.symm)

theorem bufferEmpty_iff (stream : ByteStream) :
    stream.bufferEmpty = true <-> stream.bufferSize = 0 := by
  unfold bufferEmpty
  rw [beq_iff_eq]
  constructor
  · intro equal
    apply stream.bufferSize_unique 0 (Nat.succ_pos _)
    rw [equal, Nat.add_zero, Nat.mod_eq_of_lt stream.readIndex_lt]
  · intro empty
    have reached := stream.writeIndex_eq
    rw [empty, Nat.add_zero, Nat.mod_eq_of_lt stream.readIndex_lt] at reached
    exact reached.symm

theorem bufferFull_iff (stream : ByteStream) :
    stream.bufferFull = true <-> stream.bufferSize = stream.capacity := by
  have next : stream.nextIndexOf stream.writeIndex 1 =
      (stream.readIndex + (stream.bufferSize + 1)) % (stream.capacity + 1) := by
    rw [nextIndexOf_eq, ← stream.writeIndex_eq, Nat.mod_add_mod, Nat.add_assoc]
  unfold bufferFull
  rw [beq_iff_eq, next]
  constructor
  · intro equal
    by_contra partly
    have room : stream.bufferSize + 1 < stream.capacity + 1 := by
      have := stream.bufferSize_le
      omega
    have same : (stream.readIndex + (stream.bufferSize + 1)) % (stream.capacity + 1) =
        (stream.readIndex + 0) % (stream.capacity + 1) := by
      rw [equal, Nat.add_zero, Nat.mod_eq_of_lt stream.readIndex_lt]
    exact Nat.succ_ne_zero _ (ring_injective room (Nat.succ_pos _) same)
  · intro full
    rw [full, Nat.add_mod_right, Nat.mod_eq_of_lt stream.readIndex_lt]

/-! ## Writing -/

/-- Write one byte into a buffer that is not full. -/
def writeByte (stream : ByteStream) (byte : UInt8) (room : ¬ stream.bufferFull = true) :
    ByteStream :=
  { stream with
    channel := stream.channel.set stream.writeIndex byte
    writeIndex := stream.nextIndexOf stream.writeIndex 1
    bytesWritten := stream.bytesWritten + 1
    channel_length := by rw [List.length_set, stream.channel_length]
    writeIndex_lt := stream.nextIndexOf_lt _ _
    bytes_balance := by
      have partly : stream.bufferSize + 1 < stream.capacity + 1 := by
        have := stream.bufferSize_le
        have := mt stream.bufferFull_iff.mpr room
        omega
      have grown : (stream.capacity + 1 + stream.nextIndexOf stream.writeIndex 1 -
          stream.readIndex) % (stream.capacity + 1) = stream.bufferSize + 1 := by
        apply ring_injective (Nat.mod_lt _ (Nat.succ_pos _)) partly
        rw [ring_distance stream.readIndex_lt (stream.nextIndexOf_lt _ _), nextIndexOf_eq,
          ← stream.writeIndex_eq, Nat.mod_add_mod, Nat.add_assoc]
      rw [grown, stream.bytesWritten_eq, Nat.add_assoc] }

/-- The loop of `write`: byte after byte while the buffer is not full. -/
def writeLoop (stream : ByteStream) : List UInt8 -> ByteStream × Nat
  | [] => (stream, 0)
  | byte :: data =>
      if room : stream.bufferFull = true then (stream, 0)
      else
        let rest := (stream.writeByte byte room).writeLoop data
        (rest.1, rest.2 + 1)

/-- Write as many bytes as fit, and return how many were written. -/
def write (stream : ByteStream) (data : List UInt8) : ByteStream × Nat :=
  if stream.endFlag then (stream, 0) else stream.writeLoop data

/-- Signal that the stream has reached its ending. -/
def endInput (stream : ByteStream) : ByteStream :=
  { stream with endFlag := true }

/-- Indicate that the stream suffered an error. -/
def setError (stream : ByteStream) : ByteStream :=
  { stream with error := true }

/-! ## Reading -/

/-- The loop of `peek_output`, from ring position `index`. -/
def peekLoop (stream : ByteStream) : Nat -> Nat -> List UInt8
  | 0, _ => []
  | length + 1, index =>
      if index = stream.writeIndex then []
      else stream.channel.getD index 0 :: stream.peekLoop length (stream.nextIndexOf index 1)

/-- Peek at the next `length` bytes of the stream. -/
def peekOutput (stream : ByteStream) (length : Nat) : List UInt8 :=
  stream.peekLoop length stream.readIndex

/-- Remove bytes from the buffer. -/
def popOutput (stream : ByteStream) (length : Nat) : ByteStream :=
  let popLength := min length stream.bufferSize
  { stream with
    readIndex := stream.nextIndexOf stream.readIndex popLength
    bytesRead := stream.bytesRead + popLength
    readIndex_lt := stream.nextIndexOf_lt _ _
    bytes_balance := by
      have rest : (stream.capacity + 1 + stream.writeIndex -
          stream.nextIndexOf stream.readIndex popLength) % (stream.capacity + 1) =
            stream.bufferSize - popLength := by
        have popped : popLength ≤ stream.bufferSize := Nat.min_le_right _ _
        have small : stream.bufferSize - popLength < stream.capacity + 1 := by
          have := stream.bufferSize_lt
          omega
        apply ring_injective (Nat.mod_lt _ (Nat.succ_pos _)) small
        rw [ring_distance (stream.nextIndexOf_lt _ _) stream.writeIndex_lt, nextIndexOf_eq,
          Nat.mod_add_mod, Nat.add_assoc, Nat.add_sub_cancel' popped, stream.writeIndex_eq]
      have popped : popLength ≤ stream.bufferSize := Nat.min_le_right _ _
      rw [rest, stream.bytesWritten_eq]
      omega }

/-- Read (that is, copy and then pop) the next `length` bytes of the stream. -/
def read (stream : ByteStream) (length : Nat) : List UInt8 × ByteStream :=
  (stream.peekOutput length, stream.popOutput length)

end ByteStream
end Bytes
end Sponge
