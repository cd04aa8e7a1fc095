import Sponge.Bytes.Carrying

namespace Sponge
namespace Bytes

open Foundation

/-!
# A piece at the next expected byte

What a push of the next expected bytes delivers: these bytes, and after them
whatever was held already without a gap.  Bytes held under the new ones are
replaced by them.
-/

namespace StreamReassembler

/-- The bytes held from an index on, up to the first one missing. -/
def heldFrom (r : StreamReassembler) (index : Nat) : List UInt8 :=
  (r.assembleLoop 0 (r.buffer.length + 1 - index) index).1

/-- The held bytes are those of the buffer, as far as nothing is missing. -/
theorem heldFrom_eq {r : StreamReassembler} (lengths : r.count.length = r.buffer.length)
    {index stop : Nat} (ordered : index ≤ stop)
    (held : forall k, index ≤ k -> k < stop -> r.Stores k) (missing : ¬ r.Stores stop) :
    r.heldFrom index = (r.buffer.drop index).take (stop - index) := by
  by_cases inside : index ≤ r.buffer.length
  · rcases r.assembleLoop_spec lengths (r.buffer.length + 1 - index) index inside (by omega) with
      ⟨above, _, stored, gap, bytes⟩
    have same : (r.assembleLoop 0 (r.buffer.length + 1 - index) index).2 = stop := by
      rcases Nat.lt_trichotomy (r.assembleLoop 0 (r.buffer.length + 1 - index) index).2 stop with
        less | equal | greater
      · exact absurd (held _ above less) gap
      · exact equal
      · exact absurd (stored stop ordered greater) missing
    rw [same] at bytes
    exact bytes
  · have none : r.buffer.length + 1 - index = 0 := by omega
    have nothing : r.buffer.drop index = [] := List.drop_eq_nil_of_le (by omega)
    unfold heldFrom
    rw [none, nothing, List.take_nil]
    rfl

/-- What is held is that of `r` with a piece laid over it, as far as the window
reaches. -/
structure Overlaid (r : StreamReassembler) (data : List UInt8) (start : Nat)
    (laid : StreamReassembler) : Prop where
  size : laid.buffer.length = r.edge
  stores : forall k, laid.Stores k <->
    r.Stores k ∨ (start ≤ k ∧ k < start + data.length ∧ k < r.edge)
  bytes : forall k, laid.buffer.getD k 0 =
    if start ≤ k ∧ k < start + data.length ∧ k < r.edge then data.getD (k - start) 0
    else r.buffer.getD k 0

section

variable {r laid : StreamReassembler} {data : List UInt8} {start stop : Nat}
  (overlaid : r.Overlaid data start laid)

include overlaid

theorem Overlaid.piece (fits : start + data.length ≤ r.edge) :
    IsPiece laid.buffer data start := by
  have size := overlaid.size
  intro i less
  have inside : start + i < laid.buffer.length := by omega
  have byte := overlaid.bytes (start + i)
  rw [if_pos ⟨by omega, by omega, by omega⟩, Nat.add_sub_cancel_left,
    List.getD_eq_getElem _ _ inside, List.getD_eq_getElem _ _ less] at byte
  rw [List.getElem?_eq_getElem inside, List.getElem?_eq_getElem less, byte]

/-- Behind the piece the old bytes are left. -/
theorem Overlaid.getElem?_behind {k : Nat} (behind : start + data.length ≤ k)
    (old : k < r.buffer.length) (grows : r.buffer.length ≤ r.edge) :
    laid.buffer[k]? = r.buffer[k]? := by
  have size := overlaid.size
  have new : k < laid.buffer.length := by omega
  have byte := overlaid.bytes k
  rw [if_neg (by omega), List.getD_eq_getElem _ _ new, List.getD_eq_getElem _ _ old] at byte
  rw [List.getElem?_eq_getElem new, List.getElem?_eq_getElem old, byte]

/-- From the piece on, as far as nothing is missing, there are its bytes and
those held behind it. -/
theorem Overlaid.extract_eq (wf : r.Wf) (fits : start + data.length ≤ r.edge)
    (assembled : forall k, k < start -> r.Stores k)
    (below : forall k, k < stop -> laid.Stores k) (missing : ¬ laid.Stores stop) :
    (laid.buffer.drop start).take (stop - start) =
      data ++ r.heldFrom (start + data.length) := by
  have stores := overlaid.stores
  have lengths : r.count.length = r.buffer.length :=
    wf.count_length.trans wf.buffer_length.symm
  have grows : r.buffer.length ≤ r.edge := by
    rw [wf.buffer_length]
    exact Nat.add_le_add_right wf.unread_le _
  have reaches : start + data.length ≤ stop := by
    by_contra short
    apply missing
    by_cases old : stop < start
    · exact (stores stop).mpr (Or.inl (assembled stop old))
    · exact (stores stop).mpr (Or.inr ⟨by omega, by omega, by omega⟩)
  have held (k : Nat) (above : start + data.length ≤ k) (less : k < stop) : r.Stores k := by
    rcases (stores k).mp (below k less) with old | new
    · exact old
    · omega
  have gap : ¬ r.Stores stop := fun old => missing ((stores stop).mpr (Or.inl old))
  have parts : stop - start = data.length + (stop - (start + data.length)) := by omega
  rw [parts, List.take_add, List.drop_drop, ← (overlaid.piece fits).extract_eq,
    heldFrom_eq lengths reaches held gap]
  congr 1
  apply take_drop_congr
  intro k above less
  exact overlaid.getElem?_behind above (lengths ▸ (held k above less).lt_length) grows

end

section

variable {r : StreamReassembler} (wf : r.Wf) (data : List UInt8) {index : Nat} (eof : Bool)

include wf

theorem Wf.staging_buffer (noWrap : index + data.length < 2 ^ 64) (k : Nat) :
    (r.staging data index eof).buffer.getD k 0 =
      if index ≤ k ∧ k < index + data.length ∧ k < r.edge then data.getD (k - index) 0
      else r.buffer.getD k 0 := by
  have size : r.updateSize.buffer.length = r.edge := resize_length _ _ _
  unfold staging
  rw [storeLoop_buffer _ _ _ noWrap]
  change (if index ≤ k ∧ k < index + data.length ∧ k < r.updateSize.buffer.length then _
    else r.updateSize.buffer.getD k 0) = _
  rw [size, wf.updateSize_buffer k]

/-- Storing a piece within the window lays it over what is held. -/
theorem Wf.staging_overlaid (fits : index + data.length ≤ r.edge) (bounded : r.edge < 2 ^ 64) :
    r.Overlaid data index (r.staging data index eof) where
  size := by
    have frame := storeLoop_frame (r.updateSize.markEof eof) index data
    rw [(wf.staged data index eof).buffer_length]
    unfold edge
    rw [show (r.staging data index eof).output = r.output from frame.1]
    exact congrArg _ frame.2.1
  stores := wf.staging_stores data eof (by omega)
  bytes := wf.staging_buffer data eof (by omega)

/-- Pushing the next expected bytes delivers them, and what is held behind
them. -/
theorem Wf.pushSubstring_next (opened : r.output.endFlag = false)
    (fits : r.output.bytesWritten + data.length ≤ r.edge) (bounded : r.edge < 2 ^ 64) :
    (r.pushSubstring data r.output.bytesWritten eof).output.contents =
      r.output.contents ++ data ++ r.heldFrom (r.output.bytesWritten + data.length) := by
  have frame := storeLoop_frame (r.updateSize.markEof eof) r.output.bytesWritten data
  have output : (r.staging data r.output.bytesWritten eof).output = r.output := frame.1
  have cursor : (r.staging data r.output.bytesWritten eof).firstUnassembled =
      r.output.bytesWritten :=
    frame.2.2.2.2.1.trans (wf.written_eq opened).symm
  rcases updateOutput_spec (wf.staged data r.output.bytesWritten eof) with
    ⟨assembles, below, missing⟩
  have contents := assembles.contents_eq
  rw [← pushSubstring_eq] at contents below missing
  rw [output, opened, if_neg Bool.false_ne_true, cursor] at contents
  have assembled : forall k, k < r.output.bytesWritten -> r.Stores k :=
    fun k less => wf.assembled k (wf.written_eq opened ▸ less)
  rw [contents, List.append_assoc, (wf.staging_overlaid data eof fits bounded).extract_eq wf fits
    assembled below missing]

end

end StreamReassembler
end Bytes
end Sponge
