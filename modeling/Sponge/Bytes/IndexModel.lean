import Mathlib.Order.Interval.Finset.Nat
import Sponge.Foundation.Runs
import Sponge.Bytes.Carrying

namespace Sponge
namespace Bytes

open Foundation

/-!
# The reassembler as a set of indices

The abstract picture of the reassembler is a set of stored indices.  A piece
of the source that is pushed adds those of its indices that lie below the
window's right edge at that moment; reads and pops move the edge.  The runs
below keep this set next to the code's state, together with the bytes the
reader has taken, and the main results compare the two.
-/

/-- A piece of the source: a substring with its place. -/
structure Piece (source : List UInt8) where
  first : Nat
  last : Nat
  ordered : first ≤ last
  within : last ≤ source.length

def Piece.bytes {source : List UInt8} (piece : Piece source) : List UInt8 :=
  (source.drop piece.first).take (piece.last - piece.first)

theorem Piece.bytes_length {source : List UInt8} (piece : Piece source) :
    piece.bytes.length = piece.last - piece.first := by
  have := piece.within
  unfold Piece.bytes
  rw [List.length_take, List.length_drop]
  omega

theorem Piece.isPiece {source : List UInt8} (piece : Piece source) :
    IsPiece source piece.bytes piece.first :=
  isPiece_extract source piece.first piece.last

/-- What the owner of a reassembler and the reader of its output do. -/
inductive AssemblyOp (source : List UInt8) where
  | push (piece : Piece source) (eof : Bool)
  | read (length : Nat)
  | pop (length : Nat)

/-- A reassembler in use: the code's state, the indices stored so far
according to the abstract picture, and the bytes that left the buffer. -/
structure Assembly where
  reassembler : StreamReassembler
  stored : Finset Nat
  taken : List UInt8

namespace Assembly

def start (capacity : Capacity) : Assembly :=
  ⟨StreamReassembler.new capacity, ∅, []⟩

/-- One operation.  No operation of the reassembler faults. -/
def step {source : List UInt8} (assembly : Assembly) :
    AssemblyOp source -> Except Empty Assembly
  | .push piece eof =>
      .ok { assembly with
        reassembler := assembly.reassembler.pushSubstring piece.bytes piece.first eof
        stored := assembly.stored ∪ (Finset.Ico piece.first piece.last).filter
          (fun k => k < assembly.reassembler.output.bytesRead + assembly.reassembler.capacity) }
  | .read length =>
      .ok { assembly with
        reassembler :=
          { assembly.reassembler with output := (assembly.reassembler.output.read length).2 }
        taken := assembly.taken ++ (assembly.reassembler.output.read length).1 }
  | .pop length =>
      .ok { assembly with
        reassembler := assembly.reassembler.popOutput length
        taken := assembly.taken ++ assembly.reassembler.output.peekOutput length }

/-- The relation between the code's state and the abstract picture. -/
structure Related (source : List UInt8) (capacity : Capacity) (assembly : Assembly) : Prop where
  wf : assembly.reassembler.Wf
  carries : assembly.reassembler.Carries source
  stored_iff : forall k, k ∈ assembly.stored <-> assembly.reassembler.Stores k
  taken_eq : assembly.taken = source.take assembly.reassembler.output.bytesRead
  capacity_eq : assembly.reassembler.capacity = capacity.value

theorem start_related (source : List UInt8) (capacity : Capacity) :
    Related source capacity (start capacity) where
  wf := StreamReassembler.new_wf capacity
  carries := StreamReassembler.new_carries capacity source
  stored_iff := fun k => by
    constructor
    · intro member
      exact absurd member (Finset.notMem_empty k)
    · intro held
      exact absurd held (StreamReassembler.new_stores capacity k)
  taken_eq := rfl
  capacity_eq := rfl

/-- Taking bytes from the output moves only the read position. -/
theorem Related.pop {source : List UInt8} {capacity : Capacity} {assembly : Assembly}
    (related : Related source capacity assembly) (length : Nat) :
    Related source capacity
      { assembly with
        reassembler := assembly.reassembler.popOutput length
        taken := assembly.taken ++ assembly.reassembler.output.contents.take length } where
  wf := related.wf.popOutput length
  carries := related.carries.popOutput length
  stored_iff := related.stored_iff
  taken_eq := by
    have follows := related.carries.output
    change assembly.taken ++ _ = source.take (assembly.reassembler.output.bytesRead +
      min length assembly.reassembler.output.bufferSize)
    rw [related.taken_eq, List.take_add, follows.contents_eq, List.take_take]
  capacity_eq := related.capacity_eq

theorem Related.push {source : List UInt8} {capacity : Capacity} {assembly : Assembly}
    (related : Related source capacity assembly) (short : source.length < 2 ^ 64)
    (piece : Piece source) (eof : Bool) :
    Related source capacity
      { assembly with
        reassembler := assembly.reassembler.pushSubstring piece.bytes piece.first eof
        stored := assembly.stored ∪ (Finset.Ico piece.first piece.last).filter
          (fun k => k < assembly.reassembler.output.bytesRead +
            assembly.reassembler.capacity) } := by
  have noWrap : piece.first + piece.bytes.length < 2 ^ 64 := by
    have := piece.ordered
    have := piece.within
    rw [piece.bytes_length]
    omega
  rcases StreamReassembler.pushSubstring_output_frame related.wf piece.bytes piece.first eof with
    ⟨bytesRead, _, sameCapacity, _⟩
  refine ⟨related.wf.pushSubstring _ _ _,
    related.carries.pushSubstring related.wf eof piece.isPiece noWrap, ?_, ?_,
    sameCapacity.trans related.capacity_eq⟩
  · intro k
    rw [related.wf.pushSubstring_stores _ eof noWrap, Finset.mem_union, Finset.mem_filter,
      Finset.mem_Ico, related.stored_iff k, piece.bytes_length, and_assoc]
    have whole : piece.first + (piece.last - piece.first) = piece.last :=
      Nat.add_sub_cancel' piece.ordered
    rw [whole]
    rfl
  · rw [bytesRead]
    exact related.taken_eq

/-- Every operation keeps the relation. -/
theorem Related.step {source : List UInt8} {capacity : Capacity} {assembly next : Assembly}
    (related : Related source capacity assembly) (short : source.length < 2 ^ 64)
    (op : AssemblyOp source) (taken : assembly.step op = .ok next) :
    Related source capacity next := by
  cases op with
  | push piece eof =>
      cases taken
      exact related.push short piece eof
  | read length =>
      cases taken
      rw [ByteStream.read_fst]
      exact related.pop length
  | pop length =>
      cases taken
      rw [ByteStream.peekOutput_eq]
      exact related.pop length

/-! ## What the relation says about the code -/

theorem Related.delivered {source : List UInt8} {capacity : Capacity} {assembly : Assembly}
    (related : Related source capacity assembly) :
    assembly.taken ++ assembly.reassembler.output.contents =
      source.take assembly.reassembler.output.bytesWritten := by
  rw [related.taken_eq, ← related.carries.output.written_eq]

theorem Related.least {source : List UInt8} {capacity : Capacity} {assembly : Assembly}
    (related : Related source capacity assembly) :
    IsLeast {k | k ∉ assembly.stored} assembly.reassembler.firstUnassembled := by
  constructor
  · intro member
    exact related.wf.pending ((related.stored_iff _).mp member)
  · intro k missing
    by_contra below
    exact missing ((related.stored_iff k).mpr
      (related.wf.assembled k (Nat.lt_of_not_le below)))

/-- Buffered bytes lie below the cursor and stored ones above it, all inside
one window. -/
theorem Related.bounded {source : List UInt8} {capacity : Capacity} {assembly : Assembly}
    (related : Related source capacity assembly) :
    assembly.reassembler.output.bufferSize +
        (assembly.stored.filter
          (fun k => assembly.reassembler.firstUnassembled ≤ k)).card ≤ capacity.value := by
  have subset : assembly.stored.filter (fun k => assembly.reassembler.firstUnassembled ≤ k) ⊆
      Finset.Ico assembly.reassembler.firstUnassembled
        (assembly.reassembler.firstUnread + assembly.reassembler.capacity) := by
    intro k member
    rw [Finset.mem_filter] at member
    have inside := ((related.stored_iff k).mp member.1).lt_length
    rw [related.wf.count_length] at inside
    exact Finset.mem_Ico.mpr ⟨member.2, inside⟩
  have count := Finset.card_le_card subset
  rw [Nat.card_Ico] at count
  have buffered := assembly.reassembler.output.bytesWritten_eq
  have := related.wf.written_le
  have := related.wf.unread_le
  have := related.wf.firstUnassembled_le
  have := related.capacity_eq
  omega

end Assembly

/-- The reassembler refines the set of indices: in every state of every run
over pieces of one source, the delivered bytes are a prefix of it, the cursor
is the least index never stored and, while the input is open, the number of
bytes written, and buffered and stored bytes together fit the capacity. -/
theorem reassembler_refines_indices (source : List UInt8) (short : source.length < 2 ^ 64)
    (capacity : Capacity) (ops : List (AssemblyOp source)) (final : Assembly)
    (done : run Assembly.step (Assembly.start capacity) ops = .ok final) :
    (final.taken ++ final.reassembler.output.contents).length =
        final.reassembler.output.bytesWritten ∧
      final.taken ++ final.reassembler.output.contents <+: source ∧
      (final.reassembler.output.inputEnded = false ->
        final.reassembler.output.bytesWritten = final.reassembler.firstUnassembled) ∧
      IsLeast {k | k ∉ final.stored} final.reassembler.firstUnassembled ∧
      final.reassembler.output.bufferSize +
          (final.stored.filter (fun k => final.reassembler.firstUnassembled ≤ k)).card ≤
        capacity.value := by
  have related : Assembly.Related source capacity final :=
    run_invariant (Assembly.Related source capacity)
      (fun _ op _ before taken => before.step short op taken)
      (Assembly.start_related source capacity) done
  refine ⟨?_, ?_, related.wf.written_eq, related.least, related.bounded⟩
  · rw [related.delivered, List.length_take]
    exact Nat.min_eq_left related.carries.output.written_le
  · rw [related.delivered]
    exact List.take_prefix _ _

/-- Two bytes of room, a piece that does not fit whole, the hole filled, a
read, and the missing byte pushed again. -/
theorem reassembler_refines_indices_small :
    let ops : List (AssemblyOp [97, 98, 99]) :=
      [.push ⟨1, 3, by decide, by decide⟩ true, .push ⟨0, 1, by decide, by decide⟩ false,
        .read 1, .push ⟨2, 3, by decide, by decide⟩ true]
    Exists fun final => run Assembly.step (Assembly.start ⟨2, by decide⟩) ops = .ok final ∧
      final.taken ++ final.reassembler.output.contents <+: [97, 98, 99] := by
  intro ops
  refine ⟨_, rfl, ?_⟩
  exact (reassembler_refines_indices [97, 98, 99] (by decide) ⟨2, by decide⟩ ops _ rfl).2.1

/-! ## The end of the input -/

/-- The end of the source is announced exactly with its last piece. -/
def AssemblyOp.AnnouncesEnd {source : List UInt8} : AssemblyOp source -> Prop
  | .push piece eof => eof = true <-> piece.last = source.length
  | _ => True

/-- What keeps an announced end from being taken for the end of a shorter
stream: the high-water mark is already at the end of the source, or this push
raises it there, being non-empty with at most its last byte outside the
window. -/
def EndIsOffered {source : List UInt8} (assembly : Assembly) : AssemblyOp source -> Prop
  | .push piece true =>
      source.length ≤ assembly.reassembler.firstUnacceptable ∨
        (piece.first < piece.last ∧
          piece.last ≤ max (assembly.reassembler.output.bytesRead +
            assembly.reassembler.capacity) piece.first + 1)
  | _ => True

namespace Assembly

/-- An announced end has been offered, and an ended output is complete. -/
structure EndsWhole (source : List UInt8) (assembly : Assembly) : Prop where
  offered_le : assembly.reassembler.firstUnacceptable ≤ source.length
  offered : assembly.reassembler.eofed = true ->
    assembly.reassembler.firstUnacceptable = source.length
  whole : assembly.reassembler.output.endFlag = true ->
    assembly.reassembler.output.bytesWritten = source.length

theorem start_endsWhole (source : List UInt8) (capacity : Capacity) :
    EndsWhole source (start capacity) :=
  ⟨Nat.zero_le _, fun eofed => absurd eofed Bool.false_ne_true,
    fun ended => absurd ended Bool.false_ne_true⟩

theorem EndsWhole.push {source : List UInt8} {capacity : Capacity} {assembly next : Assembly}
    (ends : EndsWhole source assembly) (related : Related source capacity assembly)
    (short : source.length < 2 ^ 64) (piece : Piece source) (eof : Bool)
    (announces : (AssemblyOp.push piece eof).AnnouncesEnd)
    (offers : EndIsOffered assembly (.push piece eof))
    (taken : assembly.step (.push piece eof) = .ok next) : EndsWhole source next := by
  have ordered := piece.ordered
  have within := piece.within
  have noWrap : piece.first + piece.bytes.length < 2 ^ 64 := by
    rw [piece.bytes_length]
    omega
  have mark := related.wf.pushSubstring_firstUnacceptable piece.bytes eof noWrap
  rw [piece.bytes_length] at mark
  have frame := StreamReassembler.pushSubstring_output_frame related.wf piece.bytes piece.first
    eof
  have flag := related.wf.pushSubstring_endFlag piece.bytes piece.first eof
  have offeredLe := ends.offered_le
  cases taken
  have markLe : (assembly.reassembler.pushSubstring piece.bytes piece.first
      eof).firstUnacceptable ≤ source.length := by
    rw [mark]
    unfold StreamReassembler.offeredEnd
    split <;> omega
  have markEq : (assembly.reassembler.eofed || eof) = true ->
      (assembly.reassembler.pushSubstring piece.bytes piece.first eof).firstUnacceptable =
        source.length := by
    intro announced
    apply Nat.le_antisymm markLe
    rw [mark]
    rcases Bool.or_eq_true_iff.mp announced with before | now
    · rw [ends.offered before]
      exact Nat.le_max_left _ _
    · subst now
      have last : piece.last = source.length := announces.mp rfl
      rcases offers with already | ⟨nonempty, inWindow⟩
      · exact Nat.le_trans already (Nat.le_max_left _ _)
      · unfold StreamReassembler.offeredEnd StreamReassembler.edge
        rw [if_neg (by omega)]
        omega
  refine ⟨markLe, ?_, ?_⟩
  · intro eofed
    exact markEq (frame.2.2.2.symm.trans eofed)
  · intro ended
    cases before : assembly.reassembler.output.endFlag with
    | true =>
        rw [related.wf.pushSubstring_written_of_ended _ _ _ before]
        exact ends.whole before
    | false =>
        rw [before, Bool.false_or] at flag
        rcases Bool.and_eq_true_iff.mp (flag.symm.trans ended) with ⟨announced, met⟩
        rw [related.wf.pushSubstring_written_of_open _ _ _ before, ← beq_iff_eq.mp met]
        exact markEq announced

theorem EndsWhole.step {source : List UInt8} {capacity : Capacity} {assembly next : Assembly}
    (ends : EndsWhole source assembly) (related : Related source capacity assembly)
    (short : source.length < 2 ^ 64) (op : AssemblyOp source) (announces : op.AnnouncesEnd)
    (offers : EndIsOffered assembly op) (taken : assembly.step op = .ok next) :
    EndsWhole source next := by
  cases op with
  | push piece eof => exact ends.push related short piece eof announces offers taken
  | read length =>
      cases taken
      exact ⟨ends.offered_le, ends.offered, ends.whole⟩
  | pop length =>
      cases taken
      exact ⟨ends.offered_le, ends.offered, ends.whole⟩

end Assembly

/-- No premature end of stream: in every run in which the end is announced
exactly with the last piece and every announced end is offered, an ended
output has received the whole source. -/
theorem input_ended_only_when_whole (source : List UInt8) (short : source.length < 2 ^ 64)
    (capacity : Capacity) (ops : List (AssemblyOp source)) (final : Assembly)
    (meets : RunMeets Assembly.step
      (fun assembly op => op.AnnouncesEnd ∧ EndIsOffered assembly op)
      (Assembly.start capacity) ops)
    (done : run Assembly.step (Assembly.start capacity) ops = .ok final)
    (ended : final.reassembler.output.inputEnded = true) :
    final.reassembler.output.bytesWritten = source.length := by
  have both := run_invariant_of_meets
    (fun assembly =>
      Assembly.Related source capacity assembly ∧ Assembly.EndsWhole source assembly)
    (fun _ op _ before holds taken => ⟨before.1.step short op taken,
      before.2.step before.1 short op holds.1 holds.2 taken⟩)
    ⟨Assembly.start_related source capacity, Assembly.start_endsWhole source capacity⟩
    meets done
  exact both.2.whole ended

/-- The pieces of `abcd` in reverse order, the last one announcing the end. -/
theorem input_ended_only_when_whole_reversed :
    let ops : List (AssemblyOp [97, 98, 99, 100]) :=
      [.push ⟨2, 4, by decide, by decide⟩ true, .push ⟨0, 2, by decide, by decide⟩ false]
    Exists fun final => run Assembly.step (Assembly.start ⟨4, by decide⟩) ops = .ok final ∧
      final.reassembler.output.inputEnded = true ∧
      final.reassembler.output.bytesWritten = 4 := by
  intro ops
  refine ⟨_, rfl, by decide, ?_⟩
  apply input_ended_only_when_whole [97, 98, 99, 100] (by decide) ⟨4, by decide⟩ ops _ _ rfl
  · decide
  · simp [RunMeets, ops, Assembly.step, AssemblyOp.AnnouncesEnd, EndIsOffered, Assembly.start,
      StreamReassembler.new, ByteStream.new]

/-- An empty piece that announces the end of `ab` before any byte has arrived
ends the stream at once, with nothing written.  A piece reaching two bytes past
the window ends it early as well: after the byte next to the window's edge. -/
theorem input_ended_early :
    let early : List (AssemblyOp [97, 98]) := [.push ⟨2, 2, by decide, by decide⟩ true]
    let cut : List (AssemblyOp [97, 98, 99]) :=
      [.push ⟨1, 3, by decide, by decide⟩ true, .push ⟨0, 1, by decide, by decide⟩ false,
        .read 1, .push ⟨1, 2, by decide, by decide⟩ false]
    (Exists fun final => run Assembly.step (Assembly.start ⟨4, by decide⟩) early = .ok final ∧
        (forall op, op ∈ early -> op.AnnouncesEnd) ∧
        final.reassembler.output.inputEnded = true ∧
        final.reassembler.output.bytesWritten ≠ [97, 98].length) ∧
      Exists fun final => run Assembly.step (Assembly.start ⟨1, by decide⟩) cut = .ok final ∧
        (forall op, op ∈ cut -> op.AnnouncesEnd) ∧
        final.reassembler.output.inputEnded = true ∧
        final.reassembler.output.bytesWritten ≠ [97, 98, 99].length := by
  intro early cut
  refine ⟨⟨_, rfl, ?_, by decide, by decide⟩, ⟨_, rfl, ?_, by decide, by decide⟩⟩
  · simp [early, AssemblyOp.AnnouncesEnd]
  · simp [cut, AssemblyOp.AnnouncesEnd]

end Bytes
end Sponge
