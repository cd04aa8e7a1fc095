import Sponge.Bytes.Bounds

namespace Sponge
namespace Bytes

open Foundation

/-!
# Pushes outside the window

A push whose first byte lies at or beyond the window's edge stores nothing.  It
still resizes the vectors and can raise the high-water mark.  Two reassemblers
are compared under every continuation, one that received such a push and one
that did not: their output streams, `unassembled_bytes` and `empty`.
-/

theorem resize_resize {α : Type} (cells : List α) {middle size : Nat} (fill : α)
    (grows : cells.length ≤ middle) (further : middle ≤ size) :
    resize (resize cells middle fill) size fill = resize cells size fill := by
  unfold resize
  rw [List.take_of_length_le grows, List.take_of_length_le (Nat.le_trans grows further)]
  rw [List.take_of_length_le (by simp; omega), List.append_assoc, List.append_cancel_left_eq,
    List.replicate_append_replicate]
  congr 1
  simp
  omega

namespace StreamReassembler

/-- What can be seen of a reassembler.  Behind the end of `_count` it is whatever
lies there that `unassembled_bytes` sees. -/
structure Sight where
  output : ByteStream
  unassembledBytes : (Nat -> Nat) -> Nat
  empty : Bool

def sight (r : StreamReassembler) : Sight where
  output := r.output
  unassembledBytes := r.unassembledBytes
  empty := r.empty

/-! ## What such a push does -/

/-- The state behind a push that stores nothing. -/
def discarding (r : StreamReassembler) (data : List UInt8) (index : Nat) : StreamReassembler :=
  { r.updateSize with
    firstUnacceptable := max r.firstUnacceptable (if data = [] then 0 else succ64 index) }

theorem storeLoop_outside (r : StreamReassembler) {index : Nat} (data : List UInt8)
    (small : index < 2 ^ 64) (outside : r.buffer.length ≤ index) :
    r.storeLoop index data =
      { r with
        firstUnacceptable := max r.firstUnacceptable (if data = [] then 0 else succ64 index) } := by
  cases data with
  | nil => simp [storeLoop]
  | cons byte data =>
      unfold storeLoop
      dsimp only
      rw [Nat.mod_eq_of_lt small, if_pos outside, if_neg (List.cons_ne_nil byte data)]

theorem write_nil (stream : ByteStream) : (stream.write []).1 = stream := by
  unfold ByteStream.write
  split
  · rfl
  · rfl

/-- Assembling goes nowhere if the cursor stands at an index not stored. -/
theorem updateOutput_of_pending (r : StreamReassembler) (pending : ¬ r.Stores r.firstUnassembled)
    (inside : r.firstUnassembled ≤ r.buffer.length) : r.updateOutput = r.endIfComplete := by
  have rounds : r.buffer.length + 1 - r.firstUnassembled =
      r.buffer.length - r.firstUnassembled + 1 := by omega
  have stops : r.assembleLoop 0 (r.buffer.length + 1 - r.firstUnassembled) r.firstUnassembled =
      ([], r.firstUnassembled) := by
    rw [rounds]
    unfold assembleLoop
    rw [if_pos (not_not.mp pending)]
  unfold updateOutput
  dsimp only
  rw [stops, write_nil]

theorem endIfComplete_of_ended (r : StreamReassembler)
    (ended : r.eofed = true -> r.firstUnacceptable = r.firstUnassembled ->
      r.output.endFlag = true) : r.endIfComplete = r := by
  unfold endIfComplete empty
  split
  · rename_i complete
    rw [Bool.and_eq_true, beq_iff_eq] at complete
    have already := ended complete.1 complete.2
    unfold ByteStream.endInput
    rw [← already]
  · rfl

theorem Marked.push_outside {r : StreamReassembler} (marked : r.Marked) (data : List UInt8)
    (index : UInt64) (outside : r.edge ≤ index.toNat) :
    r.pushSubstring data index.toNat false = r.discarding data index.toNat := by
  have size : r.updateSize.buffer.length = r.edge := resize_length _ _ _
  have unmarked : r.updateSize.markEof false = r.updateSize := by
    unfold markEof
    rw [Bool.or_false]
  have stored := storeLoop_outside r.updateSize data index.toNat_lt (size.symm ▸ outside)
  have pending : ¬ r.updateSize.Stores r.firstUnassembled := by
    rw [marked.wf.updateSize_stores]
    exact marked.wf.pending
  have inside : r.firstUnassembled ≤ r.updateSize.buffer.length := by
    rw [size]
    exact Nat.le_trans marked.firstUnassembled_le_length marked.length_le_edge
  rw [pushSubstring_eq]
  unfold staging
  rw [unmarked, stored]
  change (r.discarding data index.toNat).updateOutput = r.discarding data index.toNat
  rw [updateOutput_of_pending (r.discarding data index.toNat) pending inside]
  apply endIfComplete_of_ended
  -- A raised mark lies above the cursor, so the input was complete before.
  intro eofed met
  have order := marked.firstUnassembled_le
  apply marked.ended eofed
  apply Nat.le_antisymm _ order
  exact Nat.le_trans (Nat.le_max_left _ _) (Nat.le_of_eq met)

/-! ## When it leaves no trace -/

/-- The mark is not raised, and the resizing does not put zeros where
`unassembled_bytes` read behind the end of `_count`. -/
def Unnoticed (r : StreamReassembler) (data : List UInt8) (index : UInt64) : Prop :=
  (data = [] ∨ succ64 index.toNat ≤ r.firstUnacceptable) ∧
    (r.firstUnacceptable ≤ r.count.length ∨ r.count.length = r.edge)

instance (r : StreamReassembler) (data : List UInt8) (index : UInt64) :
    Decidable (r.Unnoticed data index) :=
  inferInstanceAs (Decidable (_ ∧ _))

/-- The same reassembler with its vectors resized ahead of the next push. -/
structure Ahead (r other : StreamReassembler) (size : Nat) : Prop where
  same : r = { other with
    firstUnread := r.firstUnread
    buffer := resize other.buffer size 0
    count := resize other.count size 0 }
  grows : other.count.length ≤ size
  lengths : other.buffer.length = other.count.length
  within : size ≤ other.edge
  unread : other.firstUnacceptable ≤ other.count.length ∨ other.count.length = size

theorem resize_self {α : Type} (cells : List α) (fill : α) :
    resize cells cells.length fill = cells := by
  simp [resize]

theorem Ahead.sight_eq {r other : StreamReassembler} {size : Nat} (ahead : Ahead r other size) :
    r.sight = other.sight := by
  have counts : r.unassembledBytes = other.unassembledBytes := by
    funext stray
    have mark : r.firstUnacceptable = other.firstUnacceptable := by rw [ahead.same]
    have cursor : r.firstUnassembled = other.firstUnassembled := by rw [ahead.same]
    have counted : r.count = resize other.count size 0 := by rw [ahead.same]
    unfold unassembledBytes
    rw [unassembledLoop_eq_card, unassembledLoop_eq_card, mark, cursor, counted]
    congr 1
    apply Finset.filter_congr
    intro k bounds
    rw [Finset.mem_Ico] at bounds
    rcases ahead.unread with marked | full
    · have inside : k < other.count.length := by omega
      have resized : k < (resize other.count size 0).length := by
        rw [resize_length]
        exact Nat.lt_of_lt_of_le inside ahead.grows
      rw [getD_eq_of_lt _ resized (stray k) 0, resize_getD _ _ ahead.grows,
        getD_eq_of_lt _ inside (stray k) 0]
    · rw [← full, resize_self]
  have outputs : r.output = other.output := by rw [ahead.same]
  have empties : r.empty = other.empty := by
    rw [ahead.same]
    rfl
  unfold sight
  rw [counts, outputs, empties]

theorem Ahead.updateSize_eq {r other : StreamReassembler} {size : Nat}
    (ahead : Ahead r other size) : r.updateSize = other.updateSize := by
  have edge : size ≤ other.output.bytesRead + other.capacity := ahead.within
  rw [ahead.same]
  unfold StreamReassembler.updateSize
  dsimp only
  rw [resize_resize _ _ (ahead.lengths ▸ ahead.grows) edge, resize_resize _ _ ahead.grows edge]

/-- Equal, or ahead of the other. -/
def Alike (r other : StreamReassembler) : Prop :=
  r = other ∨ Exists fun size => Ahead r other size

theorem Alike.sight_eq {r other : StreamReassembler} (alike : Alike r other) :
    r.sight = other.sight := by
  rcases alike with rfl | ⟨size, ahead⟩
  · rfl
  · exact ahead.sight_eq

/-- A push makes the two equal, and a read keeps one ahead of the other. -/
theorem Ahead.call {r other : StreamReassembler} {size : Nat} (ahead : Ahead r other size)
    (made : ReassemblerCall) : Alike (r.call made) (other.call made) := by
  have pops (length : Nat) : Ahead (r.popOutput length) (other.popOutput length) size := by
    refine ⟨?_, ahead.grows, ahead.lengths, ?_, ahead.unread⟩
    · unfold popOutput
      rw [ahead.same]
    · exact Nat.le_trans ahead.within (Nat.add_le_add_right (Nat.le_add_right _ _) _)
  cases made with
  | push data index eof =>
      left
      change r.pushSubstring data index.toNat eof = other.pushSubstring data index.toNat eof
      rw [pushSubstring_eq, pushSubstring_eq]
      unfold staging
      rw [ahead.updateSize_eq]
  | read length => exact Or.inr ⟨size, pops length⟩
  | pop length => exact Or.inr ⟨size, pops length⟩

theorem Alike.step {r other : StreamReassembler} {made : ReassemblerCall}
    {next otherNext : StreamReassembler} (alike : Alike r other) (taken : r.step made = .ok next)
    (otherTaken : other.step made = .ok otherNext) : Alike next otherNext := by
  cases taken
  cases otherTaken
  rcases alike with rfl | ⟨size, ahead⟩
  · exact Or.inl rfl
  · exact ahead.call made

theorem Marked.ahead_of_unnoticed {r : StreamReassembler} (marked : r.Marked) (data : List UInt8)
    (index : UInt64) (unnoticed : r.Unnoticed data index) :
    Ahead (r.discarding data index.toNat) r r.edge where
  same := by
    have unraised : max r.firstUnacceptable (if data = [] then 0 else succ64 index.toNat) =
        r.firstUnacceptable := by
      apply Nat.max_eq_left
      split
      · exact Nat.zero_le _
      · rename_i nonempty
        exact unnoticed.1.resolve_left nonempty
    unfold discarding
    rw [unraised]
    rfl
  grows := marked.length_le_edge
  lengths := marked.wf.buffer_length.trans marked.wf.count_length.symm
  within := Nat.le_refl _
  unread := unnoticed.2

/-- The value that one place behind the end of a vector has, and no other place. -/
def markAt (place k : Nat) : Nat :=
  if k = place then 1 else 0

theorem markAt_ne {place k : Nat} (other : k ≠ place) : markAt place k = 0 :=
  if_neg other

theorem discarding_stores {r : StreamReassembler} (marked : r.Marked) (data : List UInt8)
    (index k : Nat) : (r.discarding data index).Stores k <-> r.Stores k :=
  marked.wf.updateSize_stores k

/-- A raised mark is seen: the loop now reads at the discarded byte's index. -/
theorem Marked.discarding_seen_of_raised {r : StreamReassembler} (marked : r.Marked)
    (data : List UInt8) (index : UInt64) (outside : r.edge ≤ index.toNat)
    (kept : (r.discarding data index.toNat).Marked) (nonempty : data ≠ [])
    (raised : r.firstUnacceptable < succ64 index.toNat) :
    r.unassembledBytes (markAt index.toNat) <
      (r.discarding data index.toNat).unassembledBytes (markAt index.toNat) := by
  have small := index.toNat_lt
  have next : succ64 index.toNat = index.toNat + 1 := by
    unfold succ64 at raised ⊢
    omega
  have mark : (r.discarding data index.toNat).firstUnacceptable = index.toNat + 1 := by
    unfold discarding
    rw [if_neg nonempty, Nat.max_eq_right (Nat.le_of_lt raised), next]
  have length : (r.discarding data index.toNat).count.length = r.edge := resize_length _ _ _
  rw [marked.unassembledBytes_eq_card, kept.unassembledBytes_eq_card]
  apply Finset.card_lt_card
  rw [Finset.ssubset_iff_of_subset]
  · refine ⟨index.toNat, ?_, ?_⟩
    · rw [Finset.mem_filter, Finset.mem_Ico, mark, List.getD_eq_default _ _ (length ▸ outside)]
      refine ⟨⟨?_, Nat.lt_succ_self _⟩, ?_⟩
      · exact Nat.le_trans marked.firstUnassembled_le_length
          (Nat.le_trans marked.length_le_edge outside)
      · unfold markAt
        rw [if_pos rfl]
        exact Nat.one_ne_zero
    · rw [Finset.mem_filter, Finset.mem_Ico]
      omega
  · intro k
    rw [Finset.mem_filter, Finset.mem_filter, Finset.mem_Ico, Finset.mem_Ico, mark]
    rintro ⟨⟨above, below⟩, read⟩
    have elsewhere : k ≠ index.toNat := by omega
    rw [markAt_ne elsewhere] at read ⊢
    exact ⟨⟨above, by omega⟩, (discarding_stores marked data _ k).mpr read⟩

/-- Resizing is seen if the loop read behind the end of `_count`, inside the window. -/
theorem Marked.discarding_seen_of_resized {r : StreamReassembler} (marked : r.Marked)
    (data : List UInt8) (index : Nat) (kept : (r.discarding data index).Marked)
    (mark : (r.discarding data index).firstUnacceptable = r.firstUnacceptable)
    (beyond : r.count.length < r.firstUnacceptable) (short : r.count.length < r.edge) :
    (r.discarding data index).unassembledBytes (markAt r.count.length) <
      r.unassembledBytes (markAt r.count.length) := by
  have length : (r.discarding data index).count.length = r.edge := resize_length _ _ _
  have unstored : ¬ (r.discarding data index).Stores r.count.length := by
    rw [discarding_stores marked]
    exact fun held => Nat.lt_irrefl _ held.lt_length
  have reads : (r.discarding data index).count.getD r.count.length
      (markAt r.count.length r.count.length) = 0 := by
    rw [getD_eq_of_lt _ (length.symm ▸ short) _ 0]
    exact not_not.mp unstored
  rw [marked.unassembledBytes_eq_card, kept.unassembledBytes_eq_card, mark]
  apply Finset.card_lt_card
  rw [Finset.ssubset_iff_of_subset]
  · refine ⟨r.count.length, ?_, ?_⟩
    · rw [Finset.mem_filter, Finset.mem_Ico, List.getD_eq_default _ _ (Nat.le_refl _)]
      refine ⟨⟨marked.firstUnassembled_le_length, beyond⟩, ?_⟩
      unfold markAt
      rw [if_pos rfl]
      exact Nat.one_ne_zero
    · rw [Finset.mem_filter]
      exact fun found => found.2 reads
  · intro k
    rw [Finset.mem_filter, Finset.mem_filter]
    rintro ⟨bounds, read⟩
    have elsewhere : k ≠ r.count.length := by
      rintro rfl
      exact read reads
    rw [markAt_ne elsewhere] at read ⊢
    exact ⟨bounds, (discarding_stores marked data index k).mp read⟩

theorem Marked.unnoticed_of_sight_eq {r : StreamReassembler} (marked : r.Marked)
    (allocated : r.edge < 2 ^ 64) (data : List UInt8) (index : UInt64)
    (outside : r.edge ≤ index.toNat)
    (same : (r.discarding data index.toNat).sight = r.sight) : r.Unnoticed data index := by
  have kept := marked.pushSubstring allocated data index false
  rw [marked.push_outside data index outside] at kept
  have counts : (r.discarding data index.toNat).unassembledBytes = r.unassembledBytes :=
    congrArg Sight.unassembledBytes same
  have unraised : data = [] ∨ succ64 index.toNat ≤ r.firstUnacceptable := by
    by_contra raised
    rw [not_or, Nat.not_le] at raised
    have more := marked.discarding_seen_of_raised data index outside kept raised.1 raised.2
    rw [counts] at more
    exact Nat.lt_irrefl _ more
  have mark : (r.discarding data index.toNat).firstUnacceptable = r.firstUnacceptable := by
    apply Nat.max_eq_left
    split
    · exact Nat.zero_le _
    · rename_i nonempty
      exact unraised.resolve_left nonempty
  refine ⟨unraised, ?_⟩
  by_contra resized
  rw [not_or, Nat.not_le] at resized
  have short := Nat.lt_of_le_of_ne marked.length_le_edge resized.2
  have fewer := marked.discarding_seen_of_resized data index.toNat kept mark resized.1 short
  rw [counts] at fewer
  exact Nat.lt_irrefl _ fewer

/-- A push that lies outside the window leaves no trace under any continuation,
exactly if it goes unnoticed at once. -/
theorem discarded_leaves_no_trace_iff (capacity : Capacity) (calls : List ReassemblerCall)
    (r : StreamReassembler) (done : run step (new capacity) calls = .ok r)
    (allocated : r.edge < 2 ^ 64) (data : List UInt8) (index : UInt64)
    (outside : r.edge ≤ index.toNat) :
    r.Unnoticed data index <->
      forall later reached other,
        run step (r.pushSubstring data index.toNat false) later = .ok reached ->
        run step r later = .ok other -> reached.sight = other.sight := by
  have marked := run_marked capacity calls r done allocated
  rw [marked.push_outside data index outside]
  constructor
  · intro unnoticed later reached other pushed unpushed
    have start : Alike (r.discarding data index.toNat) r :=
      Or.inr ⟨r.edge, marked.ahead_of_unnoticed data index unnoticed⟩
    refine (run_related Alike ?_ start pushed unpushed).sight_eq
    intro state stateOther made next nextOther alike taken otherTaken
    exact alike.step taken otherTaken
  · intro everywhere
    exact marked.unnoticed_of_sight_eq allocated data index outside (everywhere [] _ _ rfl rfl)

theorem discarded_below_the_mark :
    Exists fun r => run step (new ⟨1, by decide⟩) [.push [7] 5 false] = .ok r ∧
      forall later reached other, run step (r.pushSubstring [8] 3 false) later = .ok reached ->
        run step r later = .ok other -> reached.sight = other.sight := by
  have checked : endsIn step (fun r =>
      decide (r.edge < 2 ^ 64 ∧ r.edge ≤ 3 ∧ r.Unnoticed [8] 3))
      (new ⟨1, by decide⟩) [.push [7] 5 false] = true := by decide +kernel
  rcases run_of_endsIn checked with ⟨r, done, facts⟩
  rcases of_decide_eq_true facts with ⟨allocated, outside, unnoticed⟩
  exact ⟨r, done, (discarded_leaves_no_trace_iff ⟨1, by decide⟩ _ r done allocated [8] 3
    outside).mp unnoticed⟩

/-- A byte beyond a window of one place, and then the only byte of the stream: it is
assembled, but the input does not end, as it would have without the first. -/
theorem discarded_delays_the_end :
    let later : List ReassemblerCall := [.push [9] 0 true]
    Exists fun reached => Exists fun other =>
      run step ((new ⟨1, by decide⟩).pushSubstring [7] 5 false) later = .ok reached ∧
        run step (new ⟨1, by decide⟩) later = .ok other ∧
        reached.output.endFlag = false ∧ other.output.endFlag = true ∧
        reached.empty = false ∧ other.empty = true ∧ reached.sight ≠ other.sight := by
  intro later
  have pushed : endsIn step (fun reached =>
      decide (reached.output.endFlag = false ∧ reached.empty = false))
      ((new ⟨1, by decide⟩).pushSubstring [7] 5 false) later = true := by decide +kernel
  have unpushed : endsIn step (fun other =>
      decide (other.output.endFlag = true ∧ other.empty = true))
      (new ⟨1, by decide⟩) later = true := by decide +kernel
  rcases run_of_endsIn pushed with ⟨reached, done, facts⟩
  rcases run_of_endsIn unpushed with ⟨other, otherDone, otherFacts⟩
  rcases of_decide_eq_true facts with ⟨unended, offered⟩
  rcases of_decide_eq_true otherFacts with ⟨ended, none⟩
  refine ⟨reached, other, done, otherDone, unended, ended, offered, none, fun same => ?_⟩
  have empties : reached.empty = other.empty := congrArg Sight.empty same
  rw [offered, none] at empties
  cases empties

end StreamReassembler
end Bytes
end Sponge
