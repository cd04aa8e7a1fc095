import Sponge.Bytes.StreamReassembler

namespace Sponge
namespace Bytes

open Foundation

/-!
# What one push does

A push resizes the vectors to the current window, stores the bytes that fall
inside it, and assembles the contiguous part.  The three phases are specified
separately and combined into the specification of `pushSubstring`: which
indices are held afterwards, what the high-water mark becomes, and that a
well-formed reassembler stays well-formed.
-/

theorem resize_length {α : Type} (cells : List α) (size : Nat) (fill : α) :
    (resize cells size fill).length = size := by
  simp [resize]
  omega

theorem resize_getD {α : Type} (cells : List α) {size : Nat} (fill : α)
    (grows : cells.length ≤ size) (index : Nat) :
    (resize cells size fill).getD index fill = cells.getD index fill := by
  unfold resize
  rw [List.take_of_length_le grows]
  by_cases inside : index < cells.length
  · rw [List.getD_append _ _ _ _ inside]
  · rw [List.getD_append_right _ _ _ _ (Nat.le_of_not_lt inside),
      List.getD_eq_default _ _ (Nat.le_of_not_lt inside)]
    by_cases filled : index - cells.length < size - cells.length
    · rw [List.getD_replicate fill filled]
    · exact List.getD_eq_default _ _ (by simpa using Nat.le_of_not_lt filled)

namespace StreamReassembler

/-- The high-water mark that offering `length` bytes at `index` leads to:
every byte inside the window and the first one outside raise it. -/
def offeredEnd (edge index length : Nat) : Nat :=
  if length = 0 then 0 else min (index + length) (max edge index + 1)

/-! ## Storing -/

theorem storeLoop_frame (r : StreamReassembler) (index : Nat) (data : List UInt8) :
    (r.storeLoop index data).output = r.output ∧
      (r.storeLoop index data).capacity = r.capacity ∧
      (r.storeLoop index data).eofed = r.eofed ∧
      (r.storeLoop index data).firstUnread = r.firstUnread ∧
      (r.storeLoop index data).firstUnassembled = r.firstUnassembled ∧
      (r.storeLoop index data).buffer.length = r.buffer.length ∧
      (r.storeLoop index data).count.length = r.count.length := by
  induction data generalizing r index with
  | nil => exact ⟨rfl, rfl, rfl, rfl, rfl, rfl, rfl⟩
  | cons byte data ih =>
      unfold storeLoop
      dsimp only
      split
      · exact ⟨rfl, rfl, rfl, rfl, rfl, rfl, rfl⟩
      · rcases ih (storeByte { r with
            firstUnacceptable := max r.firstUnacceptable (succ64 (index % 2 ^ 64)) }
            (index % 2 ^ 64) byte) (index + 1) with
          ⟨output, capacity, eofed, unread, unassembled, buffer, count⟩
        refine ⟨output, capacity, eofed, unread, unassembled, buffer.trans ?_, count.trans ?_⟩
        · simp [storeByte]
        · simp [storeByte]

theorem storeByte_stores (r : StreamReassembler) {realIndex : Nat} (byte : UInt8)
    (inside : realIndex < r.count.length) (k : Nat) :
    (r.storeByte realIndex byte).Stores k <-> r.Stores k ∨ k = realIndex := by
  unfold Stores storeByte
  simp only [List.getD_eq_getElem?_getD]
  by_cases same : k = realIndex
  · subst same
    simp [inside]
  · rw [List.getElem?_set_ne (Ne.symm same)]
    simp [same]

/-- Storing never forgets an index, wherever the data is placed. -/
theorem storeLoop_mono (r : StreamReassembler) (index : Nat) (data : List UInt8)
    (lengths : r.count.length = r.buffer.length) {k : Nat} (held : r.Stores k) :
    (r.storeLoop index data).Stores k := by
  induction data generalizing r index with
  | nil => exact held
  | cons byte data ih =>
      unfold storeLoop
      dsimp only
      split
      · exact held
      · rename_i inside
        apply ih
        · simp [storeByte, lengths]
        · apply (storeByte_stores _ byte (by simpa [lengths] using inside) k).mpr
          exact Or.inl held

/-- The loop stores exactly the bytes inside the vectors.  It stops at the
first index outside, so the index does not wrap around as long as the data or
the vectors end below `2 ^ 64`. -/
theorem storeLoop_stores (r : StreamReassembler) (index : Nat) (data : List UInt8)
    (lengths : r.count.length = r.buffer.length)
    (fits : min (index + data.length) (max index r.buffer.length) < 2 ^ 64) (k : Nat) :
    (r.storeLoop index data).Stores k <->
      r.Stores k ∨ (index ≤ k ∧ k < index + data.length ∧ k < r.buffer.length) := by
  induction data generalizing r index with
  | nil =>
      simp only [storeLoop, List.length_nil, Nat.add_zero]
      constructor
      · exact Or.inl
      · rintro (held | outside)
        · exact held
        · omega
  | cons byte data ih =>
      rw [List.length_cons] at fits
      have small : index % 2 ^ 64 = index := Nat.mod_eq_of_lt (by omega)
      unfold storeLoop
      dsimp only
      rw [small]
      split
      · rename_i outside
        change r.Stores k <-> _
        constructor
        · exact Or.inl
        · rintro (held | inside)
          · exact held
          · omega
      · rename_i inside
        have onward : min (index + 1 + data.length) (max (index + 1) r.buffer.length) < 2 ^ 64 := by
          omega
        rw [ih _ (index + 1) (by simp [storeByte, lengths])
          (by simpa only [storeByte, List.length_set] using onward)]
        rw [storeByte_stores _ byte (by simpa [lengths] using inside)]
        have same : StreamReassembler.Stores { r with
            firstUnacceptable := max r.firstUnacceptable (succ64 index) } k <-> r.Stores k :=
          Iff.rfl
        rw [same]
        simp only [storeByte, List.length_set, List.length_cons]
        constructor
        · rintro ((held | equal) | later)
          · exact Or.inl held
          · right
            omega
          · right
            omega
        · rintro (held | within)
          · exact Or.inl (Or.inl held)
          · by_cases equal : k = index
            · exact Or.inl (Or.inr equal)
            · right
              omega

theorem storeLoop_buffer (r : StreamReassembler) (index : Nat) (data : List UInt8)
    (noWrap : index + data.length < 2 ^ 64) (k : Nat) :
    (r.storeLoop index data).buffer.getD k 0 =
      if index ≤ k ∧ k < index + data.length ∧ k < r.buffer.length then
        data.getD (k - index) 0
      else r.buffer.getD k 0 := by
  induction data generalizing r index with
  | nil =>
      rw [if_neg (by simp only [List.length_nil]; omega)]
      rfl
  | cons byte data ih =>
      rw [List.length_cons] at noWrap
      have small : index % 2 ^ 64 = index := Nat.mod_eq_of_lt (by omega)
      unfold storeLoop
      dsimp only
      rw [small]
      split
      · rename_i outside
        rw [if_neg (by omega)]
      · rename_i inside
        rw [ih _ (index + 1) (by omega)]
        simp only [storeByte, List.length_set, List.length_cons]
        by_cases here : k = index
        · subst here
          rw [if_neg (by omega), if_pos (by omega), Nat.sub_self]
          simp [List.getD_eq_getElem?_getD, Nat.lt_of_not_le inside]
        · by_cases later : index + 1 ≤ k ∧ k < index + 1 + data.length ∧ k < r.buffer.length
          · rw [if_pos later, if_pos (by omega)]
            have step : k - index = k - (index + 1) + 1 := by omega
            rw [step, List.getD_cons_succ]
          · rw [if_neg later, if_neg (by omega), List.getD_eq_getElem?_getD,
              List.getElem?_set_ne (Ne.symm here), ← List.getD_eq_getElem?_getD]

theorem storeLoop_firstUnacceptable (r : StreamReassembler) (index : Nat) (data : List UInt8)
    (noWrap : index + data.length < 2 ^ 64) :
    (r.storeLoop index data).firstUnacceptable =
      max r.firstUnacceptable (offeredEnd r.buffer.length index data.length) := by
  induction data generalizing r index with
  | nil => simp [storeLoop, offeredEnd]
  | cons byte data ih =>
      rw [List.length_cons] at noWrap
      have small : index % 2 ^ 64 = index := Nat.mod_eq_of_lt (by omega)
      have next : succ64 index = index + 1 := succ64_of_lt (by omega)
      unfold storeLoop
      dsimp only
      rw [small, next]
      split
      · simp only [offeredEnd, List.length_cons, Nat.succ_ne_zero, if_false]
        omega
      · rw [ih _ (index + 1) (by omega)]
        simp only [storeByte, List.length_set, offeredEnd, List.length_cons,
          Nat.succ_ne_zero, if_false]
        split <;> omega

/-- The mark stays a 64-bit number, wherever the data is placed. -/
theorem storeLoop_mark_lt (r : StreamReassembler) (index : Nat) (data : List UInt8)
    (marked : r.firstUnacceptable < 2 ^ 64) :
    (r.storeLoop index data).firstUnacceptable < 2 ^ 64 := by
  induction data generalizing r index with
  | nil => exact marked
  | cons byte data ih =>
      have raised : max r.firstUnacceptable (succ64 (index % 2 ^ 64)) < 2 ^ 64 :=
        max_lt marked (succ64_lt _)
      unfold storeLoop
      dsimp only
      split
      · exact raised
      · exact ih _ (index + 1) raised

/-! ## Assembling -/

/-- A read one place past the end ends the assembling loop, whatever value
it delivers: zero by the loop's test, any other by the bound tested next. -/
theorem assembleLoop_stray (r : StreamReassembler) (stray : Nat)
    (lengths : r.count.length = r.buffer.length) (rounds : Nat) {cursor : Nat}
    (inside : cursor ≤ r.buffer.length) :
    r.assembleLoop stray rounds cursor = r.assembleLoop 0 rounds cursor := by
  induction rounds generalizing cursor with
  | zero => rfl
  | succ rounds ih =>
      unfold assembleLoop
      by_cases atEnd : cursor = r.buffer.length
      · have outside : r.count.length ≤ cursor := by omega
        rw [List.getD_eq_default _ _ outside, List.getD_eq_default _ _ outside, if_pos atEnd]
        simp
      · have within : cursor < r.count.length := by omega
        rw [List.getD_eq_getElem _ _ within, List.getD_eq_getElem _ _ within,
          ih (by omega)]

/-- The assembling loop stops at the first index not stored and returns the
bytes up to it. -/
theorem assembleLoop_spec (r : StreamReassembler)
    (lengths : r.count.length = r.buffer.length) (rounds cursor : Nat)
    (inside : cursor ≤ r.buffer.length) (enough : r.buffer.length + 1 ≤ rounds + cursor) :
    cursor ≤ (r.assembleLoop 0 rounds cursor).2 ∧
      (r.assembleLoop 0 rounds cursor).2 ≤ r.buffer.length ∧
      (forall k, cursor ≤ k -> k < (r.assembleLoop 0 rounds cursor).2 -> r.Stores k) ∧
      ¬ r.Stores (r.assembleLoop 0 rounds cursor).2 ∧
      (r.assembleLoop 0 rounds cursor).1 =
        (r.buffer.drop cursor).take ((r.assembleLoop 0 rounds cursor).2 - cursor) := by
  induction rounds generalizing cursor with
  | zero => omega
  | succ rounds ih =>
      unfold assembleLoop
      split
      · rename_i missing
        refine ⟨Nat.le_refl _, inside, ?_, ?_, ?_⟩
        · intro k above below
          exact absurd below (Nat.not_lt_of_ge above)
        · exact not_not_intro missing
        · simp
      · rename_i held
        have within : cursor < r.count.length := Stores.lt_length (r := r) held
        rw [if_neg (by omega)]
        dsimp only
        rcases ih (cursor + 1) (by omega) (by omega) with
          ⟨above, bounded, stored, missing, bytes⟩
        refine ⟨by omega, bounded, ?_, missing, ?_⟩
        · intro k lower upper
          by_cases first : k = cursor
          · rw [first]
            exact held
          · exact stored k (by omega) upper
        · have inBuffer : cursor < r.buffer.length := by omega
          have more : (r.assembleLoop 0 rounds (cursor + 1)).2 - cursor =
              (r.assembleLoop 0 rounds (cursor + 1)).2 - (cursor + 1) + 1 := by omega
          rw [more, List.drop_eq_getElem_cons inBuffer, List.take_succ_cons, ← bytes,
            List.getD_eq_getElem _ _ inBuffer]

/-- The state between storing and assembling: the vectors already reach the
window's edge, but the cursor has not moved. -/
structure Staged (r : StreamReassembler) : Prop where
  count_length : r.count.length = r.edge
  buffer_length : r.buffer.length = r.edge
  unread_eq : r.firstUnread = r.output.bytesRead
  output_capacity : r.output.capacity = r.capacity
  assembled : forall index, index < r.firstUnassembled -> r.Stores index
  written_le : r.output.bytesWritten ≤ r.firstUnassembled
  written_eq : r.output.endFlag = false -> r.output.bytesWritten = r.firstUnassembled

theorem Staged.firstUnassembled_le {r : StreamReassembler} (staged : r.Staged) :
    r.firstUnassembled ≤ r.buffer.length := by
  by_contra beyond
  have held := staged.assembled r.buffer.length (by omega)
  have inside := held.lt_length
  rw [staged.count_length, ← staged.buffer_length] at inside
  exact Nat.lt_irrefl _ inside

/-- The assembled bytes never exceed the room of the output stream. -/
theorem Staged.fits {r : StreamReassembler} (staged : r.Staged) {stop : Nat}
    (bounded : stop ≤ r.buffer.length) (opened : r.output.endFlag = false) :
    ((r.buffer.drop r.firstUnassembled).take (stop - r.firstUnassembled)).length ≤
      r.output.remainingCapacity := by
  have written := staged.written_eq opened
  have balance := r.output.bytesWritten_eq
  have capacity := staged.output_capacity
  have length := staged.buffer_length
  rw [List.length_take]
  unfold ByteStream.remainingCapacity
  unfold edge at length
  omega

/-- What `updateOutput` changes: the cursor, and the output stream. -/
structure Assembles (r final : StreamReassembler) : Prop where
  count_eq : final.count = r.count
  buffer_eq : final.buffer = r.buffer
  capacity_eq : final.capacity = r.capacity
  eofed_eq : final.eofed = r.eofed
  firstUnread_eq : final.firstUnread = r.firstUnread
  firstUnacceptable_eq : final.firstUnacceptable = r.firstUnacceptable
  firstUnassembled_ge : r.firstUnassembled ≤ final.firstUnassembled
  outputCapacity_eq : final.output.capacity = r.output.capacity
  bytesRead_eq : final.output.bytesRead = r.output.bytesRead
  error_eq : final.output.error = r.output.error
  endFlag_eq : final.output.endFlag =
    (r.output.endFlag || (r.eofed && r.firstUnacceptable == final.firstUnassembled))
  contents_eq : final.output.contents = r.output.contents ++
    if r.output.endFlag then []
    else (r.buffer.drop r.firstUnassembled).take (final.firstUnassembled - r.firstUnassembled)

theorem endIfComplete_frame (r : StreamReassembler) :
    r.endIfComplete = { r with output := r.endIfComplete.output } ∧
      r.endIfComplete.output.capacity = r.output.capacity ∧
      r.endIfComplete.output.bytesRead = r.output.bytesRead ∧
      r.endIfComplete.output.error = r.output.error ∧
      r.endIfComplete.output.endFlag =
        (r.output.endFlag || (r.eofed && r.firstUnacceptable == r.firstUnassembled)) ∧
      r.endIfComplete.output.contents = r.output.contents := by
  unfold endIfComplete empty
  split
  · rename_i complete
    rw [complete, Bool.or_true]
    exact ⟨rfl, rfl, rfl, rfl, rfl, rfl⟩
  · rename_i incomplete
    rw [Bool.eq_false_iff.mpr incomplete, Bool.or_false]
    exact ⟨rfl, rfl, rfl, rfl, rfl, rfl⟩

theorem updateOutput_spec {r : StreamReassembler} (staged : r.Staged) :
    Assembles r r.updateOutput ∧
      (forall index, index < r.updateOutput.firstUnassembled -> r.Stores index) ∧
      ¬ r.Stores r.updateOutput.firstUnassembled := by
  have lengths : r.count.length = r.buffer.length :=
    staged.count_length.trans staged.buffer_length.symm
  have inside := staged.firstUnassembled_le
  have loop := r.assembleLoop_spec lengths (r.buffer.length + 1 - r.firstUnassembled)
    r.firstUnassembled inside (by omega)
  unfold updateOutput
  generalize r.assembleLoop 0 (r.buffer.length + 1 - r.firstUnassembled)
    r.firstUnassembled = result at loop
  rcases loop with ⟨above, bounded, stored, missing, bytes⟩
  have taken : r.output.accepted result.1 = if r.output.endFlag then [] else
      (r.buffer.drop r.firstUnassembled).take (result.2 - r.firstUnassembled) := by
    cases opened : r.output.endFlag with
    | true => simp [ByteStream.accepted, opened]
    | false =>
        rw [bytes, ByteStream.accepted_eq_self _ opened (staged.fits bounded opened)]
        rfl
  have everything (index : Nat) (below : index < result.2) : r.Stores index := by
    by_cases old : index < r.firstUnassembled
    · exact staged.assembled index old
    · exact stored index (Nat.le_of_not_lt old) below
  have ending := endIfComplete_frame
    { r with firstUnassembled := result.2, output := (r.output.write result.1).1 }
  dsimp only at ending ⊢
  rcases ending with ⟨frame, capacity, bytesRead, error, endFlag, contents⟩
  rw [frame]
  refine ⟨⟨rfl, rfl, rfl, rfl, rfl, rfl, above, ?_, ?_, ?_, ?_, ?_⟩, everything, missing⟩
  · exact capacity.trans (r.output.write_capacity result.1)
  · exact bytesRead.trans (r.output.write_bytesRead result.1)
  · exact error.trans (r.output.write_error result.1)
  · rw [endFlag, ByteStream.write_endFlag]
  · rw [contents, ByteStream.write_contents, taken]

/-- Assembling reaches the high-water mark exactly if everything below it is
stored, and nothing at it. -/
theorem updateOutput_meets_iff {r : StreamReassembler} (staged : r.Staged) :
    r.firstUnacceptable = r.updateOutput.firstUnassembled <->
      (forall k, k < r.firstUnacceptable -> r.Stores k) ∧ ¬ r.Stores r.firstUnacceptable := by
  rcases updateOutput_spec staged with ⟨_, below, missing⟩
  constructor
  · intro equal
    rw [equal]
    exact ⟨below, missing⟩
  · rintro ⟨stored, gap⟩
    rcases Nat.lt_trichotomy r.firstUnacceptable r.updateOutput.firstUnassembled with
      less | equal | greater
    · exact absurd (below _ less) gap
    · exact equal
    · exact absurd (stored _ greater) missing

theorem updateOutput_written_of_ended {r : StreamReassembler} (staged : r.Staged)
    (ended : r.output.endFlag = true) :
    r.updateOutput.output.bytesWritten = r.output.bytesWritten := by
  have assembles := (updateOutput_spec staged).1
  have sizes := congrArg List.length assembles.contents_eq
  rw [ended, if_pos rfl, List.append_nil, ByteStream.contents_length,
    ByteStream.contents_length] at sizes
  rw [ByteStream.bytesWritten_eq, assembles.bytesRead_eq, sizes, r.output.bytesWritten_eq]

/-- An open output stream takes every assembled byte. -/
theorem updateOutput_written_of_open {r : StreamReassembler} (staged : r.Staged)
    (opened : r.output.endFlag = false) :
    r.updateOutput.output.bytesWritten = r.updateOutput.firstUnassembled := by
  rcases updateOutput_spec staged with ⟨assembles, below, _⟩
  have bounded : r.updateOutput.firstUnassembled ≤ r.buffer.length := by
    by_contra beyond
    have held := (below r.buffer.length (by omega)).lt_length
    rw [staged.count_length, ← staged.buffer_length] at held
    exact Nat.lt_irrefl _ held
  have sizes := congrArg List.length assembles.contents_eq
  rw [opened, if_neg Bool.false_ne_true, List.length_append, ByteStream.contents_length,
    ByteStream.contents_length, List.length_take, List.length_drop] at sizes
  have written := r.updateOutput.output.bytesWritten_eq
  have balance := r.output.bytesWritten_eq
  have exactly := staged.written_eq opened
  have above := assembles.firstUnassembled_ge
  have bytesRead := assembles.bytesRead_eq
  omega

theorem updateOutput_wf {r : StreamReassembler} (staged : r.Staged) : r.updateOutput.Wf := by
  rcases updateOutput_spec staged with ⟨assembles, below, missing⟩
  have unread := staged.unread_eq
  constructor
  · rw [assembles.count_eq, assembles.firstUnread_eq, assembles.capacity_eq, unread,
      staged.count_length]
    rfl
  · rw [assembles.buffer_eq, assembles.firstUnread_eq, assembles.capacity_eq, unread,
      staged.buffer_length]
    rfl
  · rw [assembles.firstUnread_eq, unread, assembles.bytesRead_eq]
  · rw [assembles.outputCapacity_eq, assembles.capacity_eq, staged.output_capacity]
  · intro index less
    unfold Stores
    rw [assembles.count_eq]
    exact below index less
  · unfold Stores
    rw [assembles.count_eq]
    exact missing
  · cases opened : r.output.endFlag with
    | true =>
        rw [updateOutput_written_of_ended staged opened]
        exact Nat.le_trans staged.written_le assembles.firstUnassembled_ge
    | false => exact Nat.le_of_eq (updateOutput_written_of_open staged opened)
  · intro stillOpen
    have flag := assembles.endFlag_eq
    rw [stillOpen] at flag
    exact updateOutput_written_of_open staged (Bool.or_eq_false_iff.mp flag.symm).1

/-! ## The whole push -/

/-- The reassembler after storing and before assembling. -/
def staging (r : StreamReassembler) (data : List UInt8) (index : Nat) (eof : Bool) :
    StreamReassembler :=
  (r.updateSize.markEof eof).storeLoop index data

theorem pushSubstring_eq (r : StreamReassembler) (data : List UInt8) (index : Nat) (eof : Bool) :
    r.pushSubstring data index eof = (r.staging data index eof).updateOutput :=
  rfl

theorem Wf.updateSize_stores {r : StreamReassembler} (wf : r.Wf) (k : Nat) :
    r.updateSize.Stores k <-> r.Stores k := by
  have grows : r.count.length ≤ r.output.bytesRead + r.capacity := by
    rw [wf.count_length]
    exact Nat.add_le_add_right wf.unread_le _
  unfold Stores updateSize
  rw [resize_getD _ _ grows]

theorem Wf.updateSize_buffer {r : StreamReassembler} (wf : r.Wf) (k : Nat) :
    r.updateSize.buffer.getD k 0 = r.buffer.getD k 0 := by
  have grows : r.buffer.length ≤ r.output.bytesRead + r.capacity := by
    rw [wf.buffer_length]
    exact Nat.add_le_add_right wf.unread_le _
  unfold updateSize
  rw [resize_getD _ _ grows]

theorem Wf.staged {r : StreamReassembler} (wf : r.Wf) (data : List UInt8) (index : Nat)
    (eof : Bool) : (r.staging data index eof).Staged := by
  have frame := storeLoop_frame (r.updateSize.markEof eof) index data
  rcases frame with ⟨output, capacity, _, unread, unassembled, buffer, count⟩
  have lengths : r.updateSize.count.length = r.updateSize.buffer.length := by
    simp only [updateSize, resize_length]
  unfold staging
  constructor
  · rw [count, edge, output, capacity]
    exact resize_length _ _ _
  · rw [buffer, edge, output, capacity]
    exact resize_length _ _ _
  · rw [unread, output]
    rfl
  · rw [output, capacity]
    exact wf.output_capacity
  · intro k below
    rw [unassembled] at below
    apply storeLoop_mono (r.updateSize.markEof eof) index data lengths
    exact (wf.updateSize_stores k).mpr (wf.assembled k below)
  · rw [output, unassembled]
    exact wf.written_le
  · rw [output, unassembled]
    exact wf.written_eq

/-- A push keeps a reassembler well-formed, whatever is pushed. -/
theorem Wf.pushSubstring {r : StreamReassembler} (wf : r.Wf) (data : List UInt8) (index : Nat)
    (eof : Bool) : (r.pushSubstring data index eof).Wf :=
  updateOutput_wf (wf.staged data index eof)

theorem Wf.popOutput {r : StreamReassembler} (wf : r.Wf) (length : Nat) :
    (r.popOutput length).Wf :=
  { wf with unread_le := Nat.le_trans wf.unread_le (Nat.le_add_right _ _) }

theorem new_stores (capacity : Capacity) (index : Nat) : ¬ (new capacity).Stores index := by
  unfold Stores new
  simp

theorem new_wf (capacity : Capacity) : (new capacity).Wf where
  count_length := by simp [new]
  buffer_length := by simp [new]
  unread_le := Nat.zero_le _
  output_capacity := rfl
  assembled := fun index below => absurd below (Nat.not_lt_zero index)
  pending := new_stores capacity 0
  written_le := Nat.le_refl _
  written_eq := fun _ => rfl

theorem pushSubstring_output_frame {r : StreamReassembler} (wf : r.Wf) (data : List UInt8)
    (index : Nat) (eof : Bool) :
    (r.pushSubstring data index eof).output.bytesRead = r.output.bytesRead ∧
      (r.pushSubstring data index eof).output.error = r.output.error ∧
      (r.pushSubstring data index eof).capacity = r.capacity ∧
      (r.pushSubstring data index eof).eofed = (r.eofed || eof) := by
  have assembles := (updateOutput_spec (wf.staged data index eof)).1
  have frame := storeLoop_frame (r.updateSize.markEof eof) index data
  rcases frame with ⟨output, capacity, eofed, _⟩
  refine ⟨?_, ?_, ?_, ?_⟩
  · exact assembles.bytesRead_eq.trans (congrArg _ output)
  · exact assembles.error_eq.trans (congrArg _ output)
  · exact assembles.capacity_eq.trans capacity
  · exact assembles.eofed_eq.trans eofed

/-- Only reading moves the window's edge. -/
theorem pushSubstring_edge (r : StreamReassembler) (data : List UInt8) (index : Nat)
    (eof : Bool) : (r.pushSubstring data index eof).edge = r.edge := by
  have stored := storeLoop_frame (r.updateSize.markEof eof) index data
  rw [pushSubstring_eq]
  unfold staging updateOutput
  dsimp only
  generalize (r.updateSize.markEof eof).storeLoop index data = staged at stored
  generalize staged.assembleLoop 0 _ _ = assembled
  rcases endIfComplete_frame { staged with
    firstUnassembled := assembled.2
    output := (staged.output.write assembled.1).1 } with ⟨frame, _, bytesRead, _⟩
  unfold edge
  rw [bytesRead, frame, ByteStream.write_bytesRead, stored.1, stored.2.1]
  rfl

/-- The cursor only moves on. -/
theorem Wf.pushSubstring_firstUnassembled_ge {r : StreamReassembler} (wf : r.Wf)
    (data : List UInt8) (index : Nat) (eof : Bool) :
    r.firstUnassembled ≤ (r.pushSubstring data index eof).firstUnassembled := by
  have assembles := (updateOutput_spec (wf.staged data index eof)).1
  have frame := storeLoop_frame (r.updateSize.markEof eof) index data
  rcases frame with ⟨_, _, _, _, unassembled, _⟩
  have onward := assembles.firstUnassembled_ge
  unfold staging at onward
  rw [unassembled] at onward
  exact onward

theorem Wf.pushSubstring_written_of_ended {r : StreamReassembler} (wf : r.Wf)
    (data : List UInt8) (index : Nat) (eof : Bool) (ended : r.output.endFlag = true) :
    (r.pushSubstring data index eof).output.bytesWritten = r.output.bytesWritten := by
  have output := (storeLoop_frame (r.updateSize.markEof eof) index data).1
  have same : (r.staging data index eof).output = r.output := output
  rw [pushSubstring_eq, updateOutput_written_of_ended (wf.staged data index eof), same]
  rw [same]
  exact ended

theorem Wf.pushSubstring_written_of_open {r : StreamReassembler} (wf : r.Wf)
    (data : List UInt8) (index : Nat) (eof : Bool) (opened : r.output.endFlag = false) :
    (r.pushSubstring data index eof).output.bytesWritten =
      (r.pushSubstring data index eof).firstUnassembled := by
  have output := (storeLoop_frame (r.updateSize.markEof eof) index data).1
  have same : (r.staging data index eof).output = r.output := output
  apply updateOutput_written_of_open (wf.staged data index eof)
  rw [same]
  exact opened

/-- Exactly the offered bytes below the window's edge are added. -/
theorem Wf.staging_stores {r : StreamReassembler} (wf : r.Wf) (data : List UInt8)
    {index : Nat} (eof : Bool) (fits : min (index + data.length) (max index r.edge) < 2 ^ 64)
    (k : Nat) :
    (r.staging data index eof).Stores k <->
      r.Stores k ∨ (index ≤ k ∧ k < index + data.length ∧ k < r.edge) := by
  have lengths : r.updateSize.count.length = r.updateSize.buffer.length := by
    simp only [updateSize, resize_length]
  have size : r.updateSize.buffer.length = r.edge := resize_length _ _ _
  have stored := storeLoop_stores (r.updateSize.markEof eof) index data lengths (size.symm ▸ fits) k
  unfold staging
  rw [stored]
  change r.updateSize.Stores k ∨ (index ≤ k ∧ k < index + data.length ∧
    k < r.updateSize.buffer.length) <-> _
  rw [wf.updateSize_stores k, size]

theorem Wf.pushSubstring_stores {r : StreamReassembler} (wf : r.Wf) (data : List UInt8)
    {index : Nat} (eof : Bool) (noWrap : index + data.length < 2 ^ 64) (k : Nat) :
    (r.pushSubstring data index eof).Stores k <->
      r.Stores k ∨ (index ≤ k ∧ k < index + data.length ∧ k < r.edge) := by
  have assembles := (updateOutput_spec (wf.staged data index eof)).1
  have same : (r.pushSubstring data index eof).Stores k <->
      (r.staging data index eof).Stores k := by
    unfold Stores
    rw [pushSubstring_eq, assembles.count_eq]
  rw [same]
  exact wf.staging_stores data eof (by omega) k

theorem Wf.pushSubstring_firstUnacceptable {r : StreamReassembler} (wf : r.Wf)
    (data : List UInt8) {index : Nat} (eof : Bool) (noWrap : index + data.length < 2 ^ 64) :
    (r.pushSubstring data index eof).firstUnacceptable =
      max r.firstUnacceptable (offeredEnd r.edge index data.length) := by
  have assembles := (updateOutput_spec (wf.staged data index eof)).1
  have size : r.updateSize.buffer.length = r.edge := resize_length _ _ _
  have raised := storeLoop_firstUnacceptable
    (r.updateSize.markEof eof) index data noWrap
  rw [pushSubstring_eq, assembles.firstUnacceptable_eq]
  unfold staging
  rw [raised]
  change max r.firstUnacceptable (offeredEnd r.updateSize.buffer.length index data.length) = _
  rw [size]

/-- The input ends at a push exactly when an end was announced and the
cursor has met the high-water mark. -/
theorem Wf.pushSubstring_endFlag {r : StreamReassembler} (wf : r.Wf) (data : List UInt8)
    (index : Nat) (eof : Bool) :
    (r.pushSubstring data index eof).output.endFlag =
      (r.output.endFlag || ((r.eofed || eof) &&
        (r.pushSubstring data index eof).firstUnacceptable ==
          (r.pushSubstring data index eof).firstUnassembled)) := by
  have assembles := (updateOutput_spec (wf.staged data index eof)).1
  have frame := storeLoop_frame (r.updateSize.markEof eof) index data
  rcases frame with ⟨output, _, eofed, _⟩
  have flag := assembles.endFlag_eq
  rw [← pushSubstring_eq] at flag
  rw [flag]
  unfold staging
  rw [output, eofed, pushSubstring_eq, assembles.firstUnacceptable_eq]
  rfl

end StreamReassembler
end Bytes
end Sponge
