import Sponge.Bytes.Assembling

namespace Sponge
namespace Bytes

open Foundation

/-!
# Streams that carry a given source

A fixed list of bytes, the source, is what the writer of a stream intends to
transport.  A byte stream follows the source when everything written to it is
a prefix of the source; a reassembler carries the source when it also stores
only source bytes at their own indices.  Both relations survive every
operation, and both survive when the source grows at its end.
-/

/-- `data` are the source's bytes from `index` on. -/
def IsPiece (source data : List UInt8) (index : Nat) : Prop :=
  forall i, i < data.length -> source[index + i]? = data[i]?

theorem isPiece_nil (source : List UInt8) (index : Nat) : IsPiece source [] index :=
  fun i below => absurd below (Nat.not_lt_zero i)

theorem isPiece_extract (source : List UInt8) (start stop : Nat) :
    IsPiece source ((source.drop start).take (stop - start)) start := by
  intro i below
  rw [List.length_take] at below
  rw [List.getElem?_take_of_lt (Nat.lt_of_lt_of_le below (Nat.min_le_left _ _)),
    List.getElem?_drop]

theorem IsPiece.grow {source data : List UInt8} {index : Nat} (piece : IsPiece source data index)
    (more : List UInt8) : IsPiece (source ++ more) data index := by
  intro i below
  have found := piece i below
  have inside : index + i < source.length := by
    by_contra outside
    rw [List.getElem?_eq_none (Nat.le_of_not_lt outside), List.getElem?_eq_getElem below] at found
    cases found
  rw [List.getElem?_append_left inside, found]

theorem IsPiece.length_le {source data : List UInt8} {index : Nat}
    (piece : IsPiece source data index) (nonempty : data ≠ []) :
    index + data.length ≤ source.length := by
  have positive : 0 < data.length := List.length_pos_iff.mpr nonempty
  have last := piece (data.length - 1) (by omega)
  by_contra beyond
  rw [List.getElem?_eq_none (by omega), List.getElem?_eq_getElem (by omega)] at last
  cases last

theorem IsPiece.extract_eq {source data : List UInt8} {index : Nat}
    (piece : IsPiece source data index) : data = (source.drop index).take data.length := by
  apply List.ext_getElem?
  intro i
  by_cases below : i < data.length
  · rw [List.getElem?_take_of_lt below, List.getElem?_drop, piece i below]
  · rw [List.getElem?_eq_none (Nat.le_of_not_lt below), List.getElem?_eq_none]
    rw [List.length_take]
    omega

/-- Lists that agree between two positions have the same bytes there. -/
theorem take_drop_congr {first second : List UInt8} {start stop : Nat}
    (agree : forall k, start ≤ k -> k < stop -> first[k]? = second[k]?) :
    (first.drop start).take (stop - start) = (second.drop start).take (stop - start) := by
  apply List.ext_getElem?
  intro i
  by_cases below : i < stop - start
  · rw [List.getElem?_take_of_lt below, List.getElem?_take_of_lt below, List.getElem?_drop,
      List.getElem?_drop]
    exact agree (start + i) (by omega) (by omega)
  · rw [List.getElem?_eq_none, List.getElem?_eq_none]
    · rw [List.length_take]
      omega
    · rw [List.length_take]
      omega

theorem take_split {source : List UInt8} {start stop : Nat} (ordered : start ≤ stop) :
    source.take stop = source.take start ++ (source.drop start).take (stop - start) := by
  rw [← List.take_add, Nat.add_sub_cancel' ordered]

namespace ByteStream

/-- Everything ever written to the stream is a prefix of the source, and the
buffered bytes are the part of it not yet read. -/
structure Follows (stream : ByteStream) (source : List UInt8) : Prop where
  written_le : stream.bytesWritten ≤ source.length
  written_eq : source.take stream.bytesWritten =
    source.take stream.bytesRead ++ stream.contents

theorem new_follows (capacity : Capacity) (source : List UInt8) :
    (new capacity).Follows source :=
  ⟨Nat.zero_le _, by rw [new_contents]; rfl⟩

/-- The buffered bytes are the source's bytes from the read position on. -/
theorem Follows.contents_eq {stream : ByteStream} {source : List UInt8}
    (follows : stream.Follows source) :
    stream.contents = (source.drop stream.bytesRead).take stream.bufferSize := by
  have written := follows.written_eq
  rw [take_split stream.bytesRead_le] at written
  rw [← List.append_cancel_left written, stream.bufferSize_eq_sub]

theorem Follows.popOutput {stream : ByteStream} {source : List UInt8}
    (follows : stream.Follows source) (length : Nat) :
    (stream.popOutput length).Follows source := by
  refine ⟨follows.written_le, ?_⟩
  rw [popOutput_bytesWritten, popOutput_bytesRead, popOutput_contents, follows.written_eq,
    take_split (Nat.le_add_right stream.bytesRead (min length stream.bufferSize)),
    List.append_assoc]
  congr 1
  have front : (source.drop stream.bytesRead).take
      (stream.bytesRead + min length stream.bufferSize - stream.bytesRead) =
        stream.contents.take length := by
    rw [follows.contents_eq, List.take_take, Nat.add_sub_cancel_left]
  rw [front, List.take_append_drop]

theorem Follows.write {stream : ByteStream} {source data : List UInt8}
    (follows : stream.Follows source)
    (next : source.take (stream.bytesWritten + (stream.accepted data).length) =
      source.take stream.bytesWritten ++ stream.accepted data)
    (fits : stream.bytesWritten + (stream.accepted data).length ≤ source.length) :
    (stream.write data).1.Follows source := by
  constructor
  · rw [write_bytesWritten]
    exact fits
  · rw [write_bytesWritten, next, follows.written_eq, write_bytesRead, write_contents,
      List.append_assoc]

theorem Follows.grow {stream : ByteStream} {source : List UInt8}
    (follows : stream.Follows source) (more : List UInt8) :
    stream.Follows (source ++ more) := by
  have readLe := Nat.le_trans stream.bytesRead_le follows.written_le
  constructor
  · rw [List.length_append]
    exact Nat.le_add_right_of_le follows.written_le
  · rw [List.take_append_of_le_length follows.written_le, List.take_append_of_le_length readLe]
    exact follows.written_eq

/-- A writer whose accepted bytes form the source keeps the stream following
it: the source grows by what each write accepts. -/
theorem Follows.write_append {stream : ByteStream} {source : List UInt8}
    (follows : stream.Follows source) (whole : stream.bytesWritten = source.length)
    (data : List UInt8) :
    (stream.write data).1.Follows (source ++ stream.accepted data) := by
  apply (follows.grow (stream.accepted data)).write
  · rw [whole, List.take_append_of_le_length (Nat.le_refl _), List.take_length]
    exact List.take_of_length_le (by rw [List.length_append])
  · rw [whole, List.length_append]

end ByteStream

namespace StreamReassembler

/-- The reassembler stores source bytes at their own indices only, and its
output follows the source. -/
structure Carries (r : StreamReassembler) (source : List UInt8) : Prop where
  held : forall k, r.Stores k -> source[k]? = some (r.buffer.getD k 0)
  output : r.output.Follows source

theorem new_carries (capacity : Capacity) (source : List UInt8) :
    (new capacity).Carries source :=
  ⟨fun k held => absurd held (new_stores capacity k), ByteStream.new_follows capacity source⟩

theorem Carries.stores_lt {r : StreamReassembler} {source : List UInt8}
    (carries : r.Carries source) {k : Nat} (held : r.Stores k) : k < source.length := by
  by_contra outside
  have found := carries.held k held
  rw [List.getElem?_eq_none (Nat.le_of_not_lt outside)] at found
  cases found

theorem Carries.firstUnassembled_le {r : StreamReassembler} {source : List UInt8}
    (carries : r.Carries source) (wf : r.Wf) : r.firstUnassembled ≤ source.length := by
  by_contra beyond
  have inside := carries.stores_lt (wf.assembled source.length (by omega))
  exact Nat.lt_irrefl _ inside

theorem Carries.grow {r : StreamReassembler} {source : List UInt8} (carries : r.Carries source)
    (more : List UInt8) : r.Carries (source ++ more) := by
  refine ⟨?_, carries.output.grow more⟩
  intro k held
  rw [List.getElem?_append_left (carries.stores_lt held)]
  exact carries.held k held

theorem Carries.popOutput {r : StreamReassembler} {source : List UInt8}
    (carries : r.Carries source) (length : Nat) : (r.popOutput length).Carries source :=
  ⟨carries.held, carries.output.popOutput length⟩

/-- Once what is staged agrees with the source, assembling writes exactly
the source's next bytes. -/
theorem updateOutput_carries {r : StreamReassembler} {source : List UInt8} (staged : r.Staged)
    (carries : r.Carries source) : r.updateOutput.Carries source := by
  rcases updateOutput_spec staged with ⟨assembles, below, _⟩
  have stop := (updateOutput_wf staged).written_le
  constructor
  · intro k held
    unfold Stores at held
    rw [assembles.count_eq] at held
    rw [assembles.buffer_eq]
    exact carries.held k held
  · have agree : (source.drop r.firstUnassembled).take
        (r.updateOutput.firstUnassembled - r.firstUnassembled) =
          (r.buffer.drop r.firstUnassembled).take
            (r.updateOutput.firstUnassembled - r.firstUnassembled) := by
      apply take_drop_congr
      intro k _ less
      have held := below k less
      have inside : k < r.buffer.length := by
        have := held.lt_length
        rw [staged.count_length, ← staged.buffer_length] at this
        exact this
      rw [carries.held k held, List.getD_eq_getElem _ _ inside, List.getElem?_eq_getElem inside]
    have inSource : r.updateOutput.firstUnassembled ≤ source.length := by
      by_contra beyond
      have := carries.stores_lt (below source.length (by omega))
      exact Nat.lt_irrefl _ this
    refine ⟨Nat.le_trans stop inSource, ?_⟩
    rw [assembles.contents_eq, assembles.bytesRead_eq, ← List.append_assoc,
      ← carries.output.written_eq]
    cases opened : r.output.endFlag with
    | true => rw [if_pos rfl, List.append_nil, updateOutput_written_of_ended staged opened]
    | false =>
        rw [if_neg Bool.false_ne_true, staged.written_eq opened,
          updateOutput_written_of_open staged opened, ← agree]
        exact take_split assembles.firstUnassembled_ge

theorem Carries.staging {r : StreamReassembler} {source data : List UInt8} {index : Nat}
    (carries : r.Carries source) (wf : r.Wf) (eof : Bool) (piece : IsPiece source data index)
    (noWrap : index + data.length < 2 ^ 64) : (r.staging data index eof).Carries source := by
  have lengths : r.updateSize.count.length = r.updateSize.buffer.length := by
    simp only [updateSize, resize_length]
  have output := (storeLoop_frame (r.updateSize.markEof eof) index data).1
  constructor
  · intro k held
    unfold StreamReassembler.staging at held ⊢
    rw [storeLoop_buffer _ _ _ noWrap]
    by_cases within : index ≤ k ∧ k < index + data.length ∧
        k < (r.updateSize.markEof eof).buffer.length
    · rw [if_pos within]
      have offset : k - index < data.length := by omega
      have found := piece (k - index) offset
      rw [Nat.add_sub_cancel' within.1, List.getElem?_eq_getElem offset] at found
      rw [found, List.getD_eq_getElem _ _ offset]
    · rw [if_neg within]
      have old := (storeLoop_stores (r.updateSize.markEof eof) index data lengths (by omega) k).mp held
      have before : r.updateSize.Stores k := old.resolve_right within
      change source[k]? = some (r.updateSize.buffer.getD k 0)
      rw [wf.updateSize_buffer k]
      exact carries.held k ((wf.updateSize_stores k).mp before)
  · unfold StreamReassembler.staging
    rw [output]
    exact carries.output

/-- Pushing a piece of the source keeps the reassembler carrying it. -/
theorem Carries.pushSubstring {r : StreamReassembler} {source data : List UInt8} {index : Nat}
    (carries : r.Carries source) (wf : r.Wf) (eof : Bool) (piece : IsPiece source data index)
    (noWrap : index + data.length < 2 ^ 64) :
    (r.pushSubstring data index eof).Carries source :=
  updateOutput_carries (wf.staged data index eof) (carries.staging wf eof piece noWrap)

end StreamReassembler
end Bytes
end Sponge
