import Sponge.Foundation.BoundedQueue
import Sponge.Foundation.Simulation
import Sponge.Bytes.ByteQueue

namespace Sponge
namespace Bytes

open Foundation

/-!
# The byte stream as a bounded queue

What a byte stream is for: a queue of bytes of bounded length, closed by its
writer, with a flag for errors.  The ring buffer answers every operation as
the queue does, and shows the same sizes, counters and flags after it.
-/

/-- The operations on a byte stream. -/
inductive StreamOp where
  | write (data : List UInt8)
  | peekOutput (length : Nat)
  | popOutput (length : Nat)
  | read (length : Nat)
  | endInput
  | setError
deriving DecidableEq, Repr

inductive StreamReply where
  | count (accepted : Nat)
  | bytes (data : List UInt8)
  | done
deriving DecidableEq, Repr

/-- What a byte stream shows of itself. -/
structure StreamView where
  bufferSize : Nat
  remainingCapacity : Nat
  bytesWritten : Nat
  bytesRead : Nat
  bufferEmpty : Bool
  inputEnded : Bool
  eof : Bool
  error : Bool
deriving DecidableEq, Repr

namespace ByteStream

def view (stream : ByteStream) : StreamView where
  bufferSize := stream.bufferSize
  remainingCapacity := stream.remainingCapacity
  bytesWritten := stream.bytesWritten
  bytesRead := stream.bytesRead
  bufferEmpty := stream.bufferEmpty
  inputEnded := stream.inputEnded
  eof := stream.eof
  error := stream.error

/-- One operation, with its reply and the view after it.  None faults. -/
def step (stream : ByteStream) :
    StreamOp -> Except Empty (ByteStream × StreamReply × StreamView)
  | .write data =>
      let wrote := stream.write data
      .ok (wrote.1, .count wrote.2, wrote.1.view)
  | .peekOutput length => .ok (stream, .bytes (stream.peekOutput length), stream.view)
  | .popOutput length =>
      .ok (stream.popOutput length, .done, (stream.popOutput length).view)
  | .read length =>
      let got := stream.read length
      .ok (got.2, .bytes got.1, got.2.view)
  | .endInput => .ok (stream.endInput, .done, stream.endInput.view)
  | .setError => .ok (stream.setError, .done, stream.setError.view)

end ByteStream

/-- The abstract stream: a bounded queue of bytes and an error flag. -/
structure Fifo where
  queue : BoundedQueue UInt8
  failed : Bool

namespace Fifo

def new (capacity : Nat) : Fifo :=
  ⟨.empty capacity, false⟩

def view (fifo : Fifo) : StreamView where
  bufferSize := fifo.queue.waiting.length
  remainingCapacity := fifo.queue.room
  bytesWritten := fifo.queue.accepted.length
  bytesRead := fifo.queue.removed
  bufferEmpty := fifo.queue.waiting.isEmpty
  inputEnded := fifo.queue.closed
  eof := fifo.queue.closed && fifo.queue.waiting.isEmpty
  error := fifo.failed

def step (fifo : Fifo) : StreamOp -> Except Empty (Fifo × StreamReply × StreamView)
  | .write data =>
      let next := { fifo with queue := fifo.queue.offer data }
      .ok (next, .count (fifo.queue.admits data).length, next.view)
  | .peekOutput length => .ok (fifo, .bytes (fifo.queue.waiting.take length), fifo.view)
  | .popOutput length =>
      let next := { fifo with queue := fifo.queue.remove length }
      .ok (next, .done, next.view)
  | .read length =>
      let next := { fifo with queue := fifo.queue.remove length }
      .ok (next, .bytes (fifo.queue.waiting.take length), next.view)
  | .endInput =>
      let next := { fifo with queue := fifo.queue.close }
      .ok (next, .done, next.view)
  | .setError =>
      let next := { fifo with failed := true }
      .ok (next, .done, next.view)

end Fifo

namespace ByteStream

/-- The ring buffer holds what waits in the queue. -/
structure Implements (stream : ByteStream) (fifo : Fifo) : Prop where
  capacity_eq : stream.capacity = fifo.queue.capacity
  contents_eq : stream.contents = fifo.queue.waiting
  bytesRead_eq : stream.bytesRead = fifo.queue.removed
  endFlag_eq : stream.endFlag = fifo.queue.closed
  error_eq : stream.error = fifo.failed

theorem new_implements (capacity : Capacity) :
    (new capacity).Implements (Fifo.new capacity.value) where
  capacity_eq := rfl
  contents_eq := new_contents capacity
  bytesRead_eq := rfl
  endFlag_eq := rfl
  error_eq := rfl

section

variable {stream : ByteStream} {fifo : Fifo}

theorem Implements.bufferSize_eq (implements : stream.Implements fifo) :
    stream.bufferSize = fifo.queue.waiting.length := by
  rw [← implements.contents_eq, contents_length]

theorem Implements.remainingCapacity_eq (implements : stream.Implements fifo) :
    stream.remainingCapacity = fifo.queue.room := by
  unfold remainingCapacity BoundedQueue.room
  rw [implements.capacity_eq, implements.bufferSize_eq]

theorem Implements.accepted_eq (implements : stream.Implements fifo) (data : List UInt8) :
    stream.accepted data = fifo.queue.admits data := by
  unfold accepted BoundedQueue.admits
  rw [implements.endFlag_eq, implements.remainingCapacity_eq]

theorem Implements.bufferEmpty_eq (implements : stream.Implements fifo) :
    stream.bufferEmpty = fifo.queue.waiting.isEmpty := by
  rw [Bool.eq_iff_iff, bufferEmpty_iff, implements.bufferSize_eq, List.isEmpty_iff,
    List.length_eq_zero_iff]

theorem Implements.bytesWritten_eq (implements : stream.Implements fifo) :
    stream.bytesWritten = fifo.queue.accepted.length := by
  have removed := fifo.queue.removed_le
  rw [stream.bytesWritten_eq, implements.bytesRead_eq, implements.bufferSize_eq,
    BoundedQueue.waiting_length]
  omega

theorem Implements.view_eq (implements : stream.Implements fifo) : stream.view = fifo.view := by
  unfold view Fifo.view inputEnded eof
  rw [implements.bufferSize_eq, implements.remainingCapacity_eq, implements.bytesWritten_eq,
    implements.bytesRead_eq, implements.bufferEmpty_eq, implements.endFlag_eq,
    implements.error_eq]

theorem Implements.write (implements : stream.Implements fifo) (data : List UInt8) :
    (stream.write data).1.Implements { fifo with queue := fifo.queue.offer data } where
  capacity_eq := (stream.write_capacity data).trans implements.capacity_eq
  contents_eq := by
    rw [write_contents, BoundedQueue.waiting_offer, implements.contents_eq,
      implements.accepted_eq]
  bytesRead_eq := (stream.write_bytesRead data).trans implements.bytesRead_eq
  endFlag_eq := (stream.write_endFlag data).trans implements.endFlag_eq
  error_eq := (stream.write_error data).trans implements.error_eq

theorem Implements.popOutput (implements : stream.Implements fifo) (length : Nat) :
    (stream.popOutput length).Implements { fifo with queue := fifo.queue.remove length } where
  capacity_eq := implements.capacity_eq
  contents_eq := by
    rw [popOutput_contents, BoundedQueue.waiting_remove, implements.contents_eq]
  bytesRead_eq := by
    rw [popOutput_bytesRead, implements.bytesRead_eq, implements.bufferSize_eq]
    rfl
  endFlag_eq := implements.endFlag_eq
  error_eq := implements.error_eq

theorem Implements.endInput (implements : stream.Implements fifo) :
    stream.endInput.Implements { fifo with queue := fifo.queue.close } :=
  ⟨implements.capacity_eq, implements.contents_eq, implements.bytesRead_eq, rfl,
    implements.error_eq⟩

theorem Implements.setError (implements : stream.Implements fifo) :
    stream.setError.Implements { fifo with failed := true } :=
  ⟨implements.capacity_eq, implements.contents_eq, implements.bytesRead_eq,
    implements.endFlag_eq, rfl⟩

/-- Steps with the same reply, from related states to related states. -/
theorem Implements.answersAlike {next : ByteStream} {other : Fifo} {reply otherReply : StreamReply}
    (implements : next.Implements other) (same : reply = otherReply) :
    AnswersAlike Implements id
      (.ok (next, reply, next.view) : Except Empty (ByteStream × StreamReply × StreamView))
      (.ok (other, otherReply, other.view)) := by
  rw [same, implements.view_eq]
  exact .answer _ implements

/-- Every operation is answered as the queue answers it. -/
theorem Implements.step (implements : stream.Implements fifo) (op : StreamOp) :
    AnswersAlike Implements id (stream.step op) (fifo.step op) := by
  have peeked (length : Nat) :
      stream.peekOutput length = fifo.queue.waiting.take length := by
    rw [peekOutput_eq, implements.contents_eq]
  cases op with
  | write data =>
      apply (implements.write data).answersAlike
      rw [write_count, implements.accepted_eq]
  | peekOutput length =>
      apply implements.answersAlike
      rw [peeked]
  | popOutput length => exact (implements.popOutput length).answersAlike rfl
  | read length =>
      apply (implements.popOutput length).answersAlike
      exact congrArg StreamReply.bytes (peeked length)
  | endInput => exact implements.endInput.answersAlike rfl
  | setError => exact implements.setError.answersAlike rfl

/-- A write that fits an open stream is accepted whole. -/
theorem write_whole {data : List UInt8} (opened : stream.inputEnded = false)
    (fits : data.length ≤ stream.remainingCapacity) :
    (stream.write data).2 = data.length ∧
      (stream.write data).1.contents = stream.contents ++ data := by
  rw [write_count, write_contents, stream.accepted_eq_self opened fits]
  exact ⟨rfl, rfl⟩

theorem Implements.eof_iff (implements : stream.Implements fifo) :
    stream.eof = true <->
      stream.inputEnded = true ∧ stream.bytesRead = fifo.queue.accepted.length := by
  have written := implements.bytesWritten_eq
  have balance := stream.bytesWritten_eq
  rw [ByteStream.eof_iff]
  unfold inputEnded
  constructor
  · rintro ⟨ended, emptied⟩
    exact ⟨ended, by omega⟩
  · rintro ⟨ended, allRead⟩
    exact ⟨ended, by omega⟩

end

end ByteStream

namespace Fifo

theorem step_capacity {fifo next : Fifo} {op : StreamOp} {answer : StreamReply × StreamView}
    (stepped : fifo.step op = .ok (next, answer)) :
    next.queue.capacity = fifo.queue.capacity := by
  cases op <;> cases stepped <;> rfl

theorem play_capacity {fifo last : Fifo} {ops : List StreamOp}
    (ends : (play step fifo ops).2 = .ok last) : last.queue.capacity = fifo.queue.capacity := by
  induction ops generalizing fifo with
  | nil =>
      cases ends
      rfl
  | cons op ops ih =>
      unfold play at ends
      cases stepped : fifo.step op with
      | error fault => exact fault.elim
      | ok result =>
          rw [stepped] at ends
          exact (ih ends).trans (step_capacity stepped)

end Fifo

/-- **The byte stream is a bounded queue.**  Whatever is done to a new stream,
every reply, size, counter and flag along the way is the queue's.  At the end,
the bytes read and the bytes buffered make up the bytes accepted, at most
`capacity` of them are buffered, and a write that fits is accepted whole. -/
theorem byteStream_is_bounded_fifo (capacity : Capacity) (ops : List StreamOp) :
    (play ByteStream.step (.new capacity) ops).1 =
        (play Fifo.step (.new capacity.value) ops).1 ∧
      Exists fun stream : ByteStream => Exists fun fifo : Fifo =>
        (play ByteStream.step (.new capacity) ops).2 = .ok stream ∧
        (play Fifo.step (.new capacity.value) ops).2 = .ok fifo ∧
        stream.view = fifo.view ∧
        stream.contents = fifo.queue.waiting ∧
        fifo.queue.accepted.take stream.bytesRead ++ stream.contents = fifo.queue.accepted ∧
        stream.bufferSize = stream.bytesWritten - stream.bytesRead ∧
        stream.bufferSize ≤ capacity.value ∧
        stream.remainingCapacity = capacity.value - stream.bufferSize ∧
        (stream.eof = true <->
          stream.inputEnded = true ∧ stream.bytesRead = fifo.queue.accepted.length) ∧
        forall data : List UInt8, stream.inputEnded = false ->
          data.length ≤ stream.remainingCapacity ->
            (stream.write data).2 = data.length ∧
              (stream.write data).1.contents = stream.contents ++ data := by
  rcases play_simulates ByteStream.Implements id id
    (fun _ _ op implements => ByteStream.Implements.step implements op)
    (ByteStream.new_implements capacity) ops with ⟨answers, ends⟩
  rw [List.map_id] at answers ends
  rw [List.map_id] at answers
  refine ⟨answers.symm, ?_⟩
  generalize outcome : (play ByteStream.step (.new capacity) ops).2 = result at ends
  generalize queueOutcome : (play Fifo.step (.new capacity.value) ops).2 = queueResult at ends
  cases ends with
  | fault fault => exact fault.elim
  | @state stream fifo implements =>
      have kept : stream.capacity = capacity.value :=
        implements.capacity_eq.trans (Fifo.play_capacity queueOutcome)
      have removed := fifo.queue.removed_append_waiting
      rw [← implements.bytesRead_eq, ← implements.contents_eq] at removed
      have remaining : stream.remainingCapacity = capacity.value - stream.bufferSize := by
        rw [← kept]
        rfl
      exact ⟨stream, fifo, rfl, rfl, implements.view_eq, implements.contents_eq, removed,
        stream.bufferSize_eq_sub, kept ▸ stream.bufferSize_le, remaining, implements.eof_iff,
        fun data opened fits => ByteStream.write_whole opened fits⟩

end Bytes
end Sponge
