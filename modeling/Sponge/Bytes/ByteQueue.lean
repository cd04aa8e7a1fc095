import Sponge.Bytes.ByteStream

namespace Sponge
namespace Bytes

open Foundation

/-!
# The byte stream as a bounded queue

The ring positions of a `ByteStream` matter to nobody outside it.  Its
observable content is the list of buffered bytes, oldest first.  Every
operation is characterized here by what it does to that list and to the
counters, and all later modules use only these characterizations.
-/

namespace ByteStream

/-- The buffered bytes, oldest first. -/
def contents (stream : ByteStream) : List UInt8 :=
  ringSlice (fun i => stream.channel.getD i 0) (stream.capacity + 1) stream.readIndex
    stream.bufferSize

/-- The leading bytes of `data` that `write` accepts. -/
def accepted (stream : ByteStream) (data : List UInt8) : List UInt8 :=
  if stream.endFlag then [] else data.take stream.remainingCapacity

@[simp] theorem contents_length (stream : ByteStream) :
    stream.contents.length = stream.bufferSize :=
  ringSlice_length _ _ _ _

theorem contents_eq_nil_iff (stream : ByteStream) :
    stream.contents = [] <-> stream.bufferSize = 0 := by
  rw [← stream.contents_length]
  exact List.length_eq_zero_iff.symm

theorem eof_iff (stream : ByteStream) :
    stream.eof = true <-> stream.endFlag = true ∧ stream.bufferSize = 0 := by
  unfold eof
  rw [Bool.and_eq_true, bufferEmpty_iff]

theorem bytesRead_le (stream : ByteStream) : stream.bytesRead ≤ stream.bytesWritten := by
  rw [stream.bytesWritten_eq]
  exact Nat.le_add_right _ _

theorem bufferSize_eq_sub (stream : ByteStream) :
    stream.bufferSize = stream.bytesWritten - stream.bytesRead := by
  rw [stream.bytesWritten_eq]
  omega

@[simp] theorem new_contents (capacity : Capacity) : (new capacity).contents = [] := by
  rw [contents_eq_nil_iff]
  simp [bufferSize, new]

/-! ## Writing appends the accepted bytes -/

theorem writeByte_bufferSize (stream : ByteStream) (byte : UInt8)
    (room : ¬ stream.bufferFull = true) :
    (stream.writeByte byte room).bufferSize = stream.bufferSize + 1 := by
  have after := (stream.writeByte byte room).bytesWritten_eq
  have before := stream.bytesWritten_eq
  simp only [writeByte] at after before ⊢
  omega

theorem writeByte_contents (stream : ByteStream) (byte : UInt8)
    (room : ¬ stream.bufferFull = true) :
    (stream.writeByte byte room).contents = stream.contents ++ [byte] := by
  have partly : stream.bufferSize < stream.capacity := by
    have := stream.bufferSize_le
    have := mt stream.bufferFull_iff.mpr room
    omega
  have inside : stream.writeIndex < stream.channel.length := by
    rw [stream.channel_length]
    exact stream.writeIndex_lt
  have split : (stream.writeByte byte room).contents =
      ringSlice (fun i => (stream.channel.set stream.writeIndex byte).getD i 0)
        (stream.capacity + 1) stream.readIndex (stream.bufferSize + 1) := by
    unfold contents
    rw [writeByte_bufferSize]
    rfl
  rw [split, ringSlice_add]
  congr 1
  · apply ringSlice_congr
    intro i below
    have elsewhere : stream.writeIndex ≠ (stream.readIndex + i) % (stream.capacity + 1) := by
      intro equal
      have same := stream.bufferSize_unique i (by omega) equal.symm
      omega
    simp [List.getD_eq_getElem?_getD, List.getElem?_set_ne elsewhere]
  · simp [ringSlice, stream.writeIndex_eq, List.getD_eq_getElem?_getD, inside]

/-- What the writing loop does, in terms of the queue.  The induction is on
the data; each round appends one byte and shrinks the room by one. -/
theorem writeLoop_spec (stream : ByteStream) (data : List UInt8) :
    (stream.writeLoop data).1.contents =
        stream.contents ++ data.take stream.remainingCapacity ∧
      (stream.writeLoop data).2 = (data.take stream.remainingCapacity).length ∧
      (stream.writeLoop data).1.capacity = stream.capacity ∧
      (stream.writeLoop data).1.bytesRead = stream.bytesRead ∧
      (stream.writeLoop data).1.endFlag = stream.endFlag ∧
      (stream.writeLoop data).1.error = stream.error := by
  induction data generalizing stream with
  | nil => simp [writeLoop]
  | cons byte data ih =>
      unfold writeLoop
      by_cases full : stream.bufferFull = true
      · rw [dif_pos full]
        have none : stream.remainingCapacity = 0 := by
          unfold remainingCapacity
          rw [stream.bufferFull_iff.mp full, Nat.sub_self]
        simp [none]
      · rw [dif_neg full]
        have room : stream.remainingCapacity =
            (stream.writeByte byte full).remainingCapacity + 1 := by
          have := stream.bufferSize_le
          have := mt stream.bufferFull_iff.mpr full
          unfold remainingCapacity
          rw [writeByte_bufferSize]
          simp only [writeByte]
          omega
        rcases ih (stream.writeByte byte full) with
          ⟨appended, count, capacity, bytesRead, endFlag, error⟩
        rw [room, List.take_succ_cons]
        refine ⟨?_, ?_, capacity, bytesRead, endFlag, error⟩
        · rw [appended, writeByte_contents, List.append_assoc, List.singleton_append]
        · change ((stream.writeByte byte full).writeLoop data).2 + 1 = _
          rw [count, List.length_cons]

theorem write_contents (stream : ByteStream) (data : List UInt8) :
    (stream.write data).1.contents = stream.contents ++ stream.accepted data := by
  unfold write accepted
  split
  · simp
  · exact (stream.writeLoop_spec data).1

theorem write_count (stream : ByteStream) (data : List UInt8) :
    (stream.write data).2 = (stream.accepted data).length := by
  unfold write accepted
  split
  · simp
  · exact (stream.writeLoop_spec data).2.1

@[simp] theorem write_capacity (stream : ByteStream) (data : List UInt8) :
    (stream.write data).1.capacity = stream.capacity := by
  unfold write
  split
  · rfl
  · exact (stream.writeLoop_spec data).2.2.1

@[simp] theorem write_bytesRead (stream : ByteStream) (data : List UInt8) :
    (stream.write data).1.bytesRead = stream.bytesRead := by
  unfold write
  split
  · rfl
  · exact (stream.writeLoop_spec data).2.2.2.1

@[simp] theorem write_endFlag (stream : ByteStream) (data : List UInt8) :
    (stream.write data).1.endFlag = stream.endFlag := by
  unfold write
  split
  · rfl
  · exact (stream.writeLoop_spec data).2.2.2.2.1

@[simp] theorem write_error (stream : ByteStream) (data : List UInt8) :
    (stream.write data).1.error = stream.error := by
  unfold write
  split
  · rfl
  · exact (stream.writeLoop_spec data).2.2.2.2.2

theorem write_bufferSize (stream : ByteStream) (data : List UInt8) :
    (stream.write data).1.bufferSize = stream.bufferSize + (stream.accepted data).length := by
  rw [← contents_length, write_contents, List.length_append, contents_length]

theorem write_bytesWritten (stream : ByteStream) (data : List UInt8) :
    (stream.write data).1.bytesWritten =
      stream.bytesWritten + (stream.accepted data).length := by
  rw [bytesWritten_eq, write_bytesRead, write_bufferSize, stream.bytesWritten_eq, Nat.add_assoc]

/-- The count a write returns says which bytes it has accepted. -/
theorem take_write_count (stream : ByteStream) (data : List UInt8) :
    data.take (stream.write data).2 = stream.accepted data := by
  rw [write_count]
  unfold accepted
  split
  · rfl
  · rw [List.length_take, List.take_eq_take_iff]
    omega

theorem accepted_of_ended {stream : ByteStream} (ended : stream.endFlag = true)
    (data : List UInt8) : stream.accepted data = [] := by
  unfold accepted
  exact if_pos ended

/-- Nothing is written to a stream whose input has ended. -/
theorem write_of_ended {stream : ByteStream} (ended : stream.endFlag = true)
    (data : List UInt8) : (stream.write data).1 = stream := by
  unfold write
  rw [if_pos ended]

/-- Data that fits an open stream is accepted whole. -/
theorem accepted_eq_self (stream : ByteStream) {data : List UInt8}
    (opened : stream.endFlag = false) (fits : data.length ≤ stream.remainingCapacity) :
    stream.accepted data = data := by
  unfold accepted
  rw [opened]
  exact List.take_of_length_le fits

/-! ## Reading removes the oldest bytes -/

theorem peekLoop_eq (stream : ByteStream) (length skipped : Nat)
    (bound : skipped ≤ stream.bufferSize) :
    stream.peekLoop length ((stream.readIndex + skipped) % (stream.capacity + 1)) =
      (ringSlice (fun i => stream.channel.getD i 0) (stream.capacity + 1)
        (stream.readIndex + skipped) (stream.bufferSize - skipped)).take length := by
  induction length generalizing skipped with
  | zero => simp [peekLoop]
  | succ length ih =>
      unfold peekLoop
      by_cases finished : skipped = stream.bufferSize
      · rw [finished, stream.writeIndex_eq, if_pos rfl, Nat.sub_self]
        simp
      · have onward : (stream.readIndex + skipped) % (stream.capacity + 1) ≠
            stream.writeIndex := by
          intro equal
          have := stream.bufferSize_lt
          exact finished (stream.bufferSize_unique skipped (by omega) equal).symm
        have shrink : stream.bufferSize - skipped = stream.bufferSize - (skipped + 1) + 1 := by
          omega
        rw [if_neg onward, shrink, ringSlice_succ, List.take_succ_cons, nextIndexOf_eq,
          Nat.mod_add_mod, Nat.add_assoc, ih (skipped + 1) (by omega)]

theorem peekOutput_eq (stream : ByteStream) (length : Nat) :
    stream.peekOutput length = stream.contents.take length := by
  have peeked := stream.peekLoop_eq length 0 (Nat.zero_le _)
  rw [Nat.add_zero, Nat.mod_eq_of_lt stream.readIndex_lt, Nat.sub_zero] at peeked
  exact peeked

@[simp] theorem popOutput_bytesRead (stream : ByteStream) (length : Nat) :
    (stream.popOutput length).bytesRead = stream.bytesRead + min length stream.bufferSize :=
  rfl

theorem popOutput_bufferSize (stream : ByteStream) (length : Nat) :
    (stream.popOutput length).bufferSize = stream.bufferSize - length := by
  have after := (stream.popOutput length).bytesWritten_eq
  have before := stream.bytesWritten_eq
  simp only [popOutput] at after before ⊢
  omega

theorem popOutput_contents (stream : ByteStream) (length : Nat) :
    (stream.popOutput length).contents = stream.contents.drop length := by
  have popped : min length stream.bufferSize ≤ stream.bufferSize := Nat.min_le_right _ _
  have split : stream.contents =
      ringSlice (fun i => stream.channel.getD i 0) (stream.capacity + 1) stream.readIndex
          (min length stream.bufferSize) ++
        ringSlice (fun i => stream.channel.getD i 0) (stream.capacity + 1)
          (stream.readIndex + min length stream.bufferSize)
          (stream.bufferSize - min length stream.bufferSize) := by
    rw [← ringSlice_add, Nat.add_sub_cancel' popped]
    rfl
  have rest : (stream.popOutput length).contents =
      ringSlice (fun i => stream.channel.getD i 0) (stream.capacity + 1)
        (stream.readIndex + min length stream.bufferSize)
        (stream.bufferSize - min length stream.bufferSize) := by
    unfold contents
    rw [popOutput_bufferSize]
    change ringSlice (fun i => stream.channel.getD i 0) (stream.capacity + 1)
      (stream.nextIndexOf stream.readIndex (min length stream.bufferSize)) _ = _
    rw [nextIndexOf_eq, ringSlice_mod]
    congr 1
    omega
  by_cases whole : length ≤ stream.bufferSize
  · rw [rest, split, List.drop_append]
    simp [Nat.min_eq_left whole]
  · rw [List.drop_eq_nil_of_le (by rw [contents_length]; omega), rest]
    simp [Nat.min_eq_right (Nat.le_of_not_le whole)]

@[simp] theorem read_fst (stream : ByteStream) (length : Nat) :
    (stream.read length).1 = stream.contents.take length :=
  stream.peekOutput_eq length

@[simp] theorem read_snd (stream : ByteStream) (length : Nat) :
    (stream.read length).2 = stream.popOutput length :=
  rfl

theorem popOutput_zero (stream : ByteStream) : stream.popOutput 0 = stream := by
  cases stream
  simp only [popOutput, Nat.zero_min, Nat.add_zero, nextIndexOf, Nat.zero_mod]
  congr 1
  apply Nat.mod_eq_of_lt
  assumption

/-! ## Fields an operation leaves alone -/

@[simp] theorem popOutput_capacity (stream : ByteStream) (length : Nat) :
    (stream.popOutput length).capacity = stream.capacity :=
  rfl

@[simp] theorem popOutput_bytesWritten (stream : ByteStream) (length : Nat) :
    (stream.popOutput length).bytesWritten = stream.bytesWritten :=
  rfl

@[simp] theorem popOutput_endFlag (stream : ByteStream) (length : Nat) :
    (stream.popOutput length).endFlag = stream.endFlag :=
  rfl

@[simp] theorem popOutput_error (stream : ByteStream) (length : Nat) :
    (stream.popOutput length).error = stream.error :=
  rfl

@[simp] theorem endInput_contents (stream : ByteStream) :
    stream.endInput.contents = stream.contents :=
  rfl

@[simp] theorem setError_contents (stream : ByteStream) :
    stream.setError.contents = stream.contents :=
  rfl

end ByteStream
end Bytes
end Sponge
