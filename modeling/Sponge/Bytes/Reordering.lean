import Mathlib.Data.List.Perm.Basic
import Sponge.Bytes.IndexModel

namespace Sponge
namespace Bytes

open Foundation

/-!
# The order of arrival does not matter

Non-empty pieces that cover a source are pushed in any order, with any reads
in between.  What the reassembler then holds depends only on which pieces
have arrived: the stored indices are the union of the pieces, and the end has
been announced if a piece reaching it is among them.  Since the window is at
least as wide as the source, no byte is ever discarded.
-/

variable {source : List UInt8} {capacity : Capacity}

def Piece.Covers (piece : Piece source) (k : Nat) : Prop :=
  piece.first ≤ k ∧ k < piece.last

/-- A piece together with its end mark: set exactly if the piece reaches the
end of the source. -/
def Piece.marked (piece : Piece source) : Piece source × Bool :=
  (piece, piece.last == source.length)

def AssemblyOp.arrival : AssemblyOp source -> Option (Piece source × Bool)
  | .push piece eof => some (piece, eof)
  | .read _ => none
  | .pop _ => none

/-- The pieces that arrive in a run, with their end marks. -/
def arrivals (ops : List (AssemblyOp source)) : List (Piece source × Bool) :=
  ops.filterMap AssemblyOp.arrival

/-- A push of a non-empty piece with its own end mark, or a read. -/
def AssemblyOp.Proper (op : AssemblyOp source) : Prop :=
  forall arrived, op.arrival = some arrived ->
    arrived.1.first < arrived.1.last ∧ arrived = arrived.1.marked

theorem AssemblyOp.Proper.announcesEnd {op : AssemblyOp source} (proper : op.Proper) :
    op.AnnouncesEnd := by
  cases op with
  | push piece eof =>
      have mark : eof = (piece.last == source.length) :=
        congrArg Prod.snd (proper (piece, eof) rfl).2
      rw [mark]
      exact beq_iff_eq
  | read length => exact trivial
  | pop length => exact trivial

namespace Assembly

/-- Everything below the window's edge: the source fits the capacity. -/
theorem Related.inWindow {assembly : Assembly} (related : Related source capacity assembly)
    (roomy : source.length ≤ capacity.value) (piece : Piece source) :
    piece.last ≤ assembly.reassembler.output.bytesRead + assembly.reassembler.capacity := by
  have within := piece.within
  have same := related.capacity_eq
  omega

theorem Related.endIsOffered {assembly : Assembly} (related : Related source capacity assembly)
    (roomy : source.length ≤ capacity.value) {op : AssemblyOp source} (proper : op.Proper) :
    EndIsOffered assembly op := by
  cases op with
  | push piece eof =>
      cases eof with
      | false => exact trivial
      | true =>
          have inside := related.inWindow roomy piece
          exact Or.inr ⟨(proper _ rfl).1, by omega⟩
  | read length => exact trivial
  | pop length => exact trivial

/-- The relation to the source, with the two halves of the end decision: an
ended output is complete, and an announced end that is met has ended it. -/
structure Collecting (source : List UInt8) (capacity : Capacity) (assembly : Assembly) :
    Prop where
  related : Related source capacity assembly
  ends : EndsWhole source assembly
  settled : assembly.reassembler.eofed = true ->
    assembly.reassembler.firstUnacceptable = assembly.reassembler.firstUnassembled ->
      assembly.reassembler.output.endFlag = true

theorem start_collecting (source : List UInt8) (capacity : Capacity) :
    Collecting source capacity (start capacity) :=
  ⟨start_related source capacity, start_endsWhole source capacity,
    fun eofed => absurd eofed Bool.false_ne_true⟩

theorem Collecting.step {assembly next : Assembly}
    (collecting : Collecting source capacity assembly)
    (roomy : source.length ≤ capacity.value) (op : AssemblyOp source) (proper : op.Proper)
    (taken : assembly.step op = .ok next) : Collecting source capacity next := by
  have short : source.length < 2 ^ 64 := by
    have := capacity.bounded
    omega
  refine ⟨collecting.related.step short op taken,
    collecting.ends.step collecting.related short op proper.announcesEnd
      (collecting.related.endIsOffered roomy proper) taken, ?_⟩
  cases op with
  | push piece eof =>
      cases taken
      intro eofed met
      have frame := StreamReassembler.pushSubstring_output_frame collecting.related.wf
        piece.bytes piece.first eof
      have announced := frame.2.2.2.symm.trans eofed
      rw [collecting.related.wf.pushSubstring_endFlag, announced, beq_iff_eq.mpr met]
      exact Bool.or_true _
  | read length =>
      cases taken
      exact collecting.settled
  | pop length =>
      cases taken
      exact collecting.settled

/-! ## What has arrived decides what is held -/

/-- What a run adds to an assembly: the indices of the pieces that arrive in
it, and the end if one of them announces it. -/
structure Gathers (assembly : Assembly) (arrived : List (Piece source × Bool))
    (final : Assembly) : Prop where
  stored_iff : forall k, k ∈ final.stored <->
    k ∈ assembly.stored ∨ Exists fun piece => piece ∈ arrived ∧ piece.1.Covers k
  eofed_iff : final.reassembler.eofed = true <->
    assembly.reassembler.eofed = true ∨ Exists fun piece => piece ∈ arrived ∧ piece.2 = true

theorem gathers_nothing (assembly : Assembly) :
    Gathers assembly ([] : List (Piece source × Bool)) assembly where
  stored_iff := fun k => by simp
  eofed_iff := by simp

theorem Gathers.trans {assembly middle final : Assembly}
    {earlier later : List (Piece source × Bool)} (first : Gathers assembly earlier middle)
    (second : Gathers middle later final) : Gathers assembly (earlier ++ later) final where
  stored_iff := fun k => by
    rw [second.stored_iff, first.stored_iff, or_assoc]
    simp only [List.mem_append, or_and_right, exists_or]
  eofed_iff := by
    rw [second.eofed_iff, first.eofed_iff, or_assoc]
    simp only [List.mem_append, or_and_right, exists_or]

theorem Related.step_gathers {assembly next : Assembly}
    (related : Related source capacity assembly) (roomy : source.length ≤ capacity.value)
    (op : AssemblyOp source) (taken : assembly.step op = .ok next) :
    Gathers assembly op.arrival.toList next := by
  cases op with
  | push piece eof =>
      cases taken
      have inside := related.inWindow roomy piece
      have frame := StreamReassembler.pushSubstring_output_frame related.wf piece.bytes
        piece.first eof
      constructor
      · intro k
        rw [Finset.mem_union, Finset.mem_filter, Finset.mem_Ico]
        apply or_congr_right
        simp only [AssemblyOp.arrival, Option.toList_some, List.mem_singleton,
          exists_eq_left, Piece.Covers]
        constructor
        · exact And.left
        · rintro ⟨above, below⟩
          exact ⟨⟨above, below⟩, Nat.lt_of_lt_of_le below inside⟩
      · dsimp only
        rw [frame.2.2.2, Bool.or_eq_true]
        simp only [AssemblyOp.arrival, Option.toList_some, List.mem_singleton, exists_eq_left]
  | read length =>
      cases taken
      exact ⟨(gathers_nothing assembly).stored_iff, (gathers_nothing assembly).eofed_iff⟩
  | pop length =>
      cases taken
      exact ⟨(gathers_nothing assembly).stored_iff, (gathers_nothing assembly).eofed_iff⟩

theorem Collecting.run_gathers {assembly final : Assembly}
    (collecting : Collecting source capacity assembly)
    (roomy : source.length ≤ capacity.value) {ops : List (AssemblyOp source)}
    (proper : forall op, op ∈ ops -> op.Proper)
    (done : run Assembly.step assembly ops = .ok final) :
    Collecting source capacity final ∧ Gathers assembly (arrivals ops) final := by
  induction ops generalizing assembly with
  | nil =>
      cases done
      exact ⟨collecting, gathers_nothing final⟩
  | cons op ops ih =>
      rcases run_cons done with ⟨next, taken, rest⟩
      have here := proper op List.mem_cons_self
      have added := collecting.related.step_gathers roomy op taken
      rcases ih (collecting.step roomy op here taken)
        (fun other member => proper other (List.mem_cons_of_mem op member)) rest with
        ⟨onward, later⟩
      refine ⟨onward, ?_⟩
      have split : arrivals (op :: ops) = op.arrival.toList ++ arrivals ops := by
        unfold arrivals
        cases arrived : op.arrival with
        | none => rw [List.filterMap_cons_none arrived]; rfl
        | some piece => rw [List.filterMap_cons_some arrived]; rfl
      rw [split]
      exact added.trans later

/-! ## The end of a run in which everything arrives -/

section

variable {assembly : Assembly} (collecting : Collecting source capacity assembly)

include collecting

/-- An ended output has stored every index of the source. -/
theorem Collecting.stored_of_ended (ended : assembly.reassembler.output.inputEnded = true)
    {k : Nat} (below : k < source.length) : k ∈ assembly.stored := by
  have whole := collecting.ends.whole ended
  have written := collecting.related.wf.written_le
  apply (collecting.related.stored_iff k).mpr
  exact collecting.related.wf.assembled k (by omega)

theorem Collecting.firstUnassembled_eq
    (all : forall k, k < source.length -> k ∈ assembly.stored) :
    assembly.reassembler.firstUnassembled = source.length := by
  apply Nat.le_antisymm (collecting.related.carries.firstUnassembled_le collecting.related.wf)
  by_contra before
  have held := (collecting.related.stored_iff _).mp (all _ (Nat.lt_of_not_le before))
  exact collecting.related.wf.pending held

theorem Collecting.complete (all : forall k, k < source.length -> k ∈ assembly.stored)
    (announced : assembly.reassembler.eofed = true) :
    assembly.taken ++ assembly.reassembler.output.contents = source ∧
      assembly.reassembler.output.inputEnded = true ∧
      (forall stray, assembly.reassembler.unassembledBytes stray = 0) ∧
      assembly.reassembler.empty = true := by
  have cursor := collecting.firstUnassembled_eq all
  have met : assembly.reassembler.firstUnacceptable = assembly.reassembler.firstUnassembled :=
    (collecting.ends.offered announced).trans cursor.symm
  have ended := collecting.settled announced met
  refine ⟨?_, ended, ?_, beq_iff_eq.mpr met⟩
  · rw [collecting.related.delivered, collecting.ends.whole ended, List.take_length]
  · intro stray
    unfold StreamReassembler.unassembledBytes
    rw [met, Nat.sub_self]
    rfl

end

end Assembly

theorem run_assembly_ok (assembly : Assembly) (ops : List (AssemblyOp source)) :
    Exists fun final => run Assembly.step assembly ops = .ok final := by
  rcases run_or_stops Assembly.step assembly ops with through | ⟨_, _, _, fault, _⟩
  · exact through
  · exact fault.elim

/-- **Reassembly does not depend on the order of arrival.**  Non-empty pieces
that cover the source arrive in any order, with reads in between.  In the end
the source has been delivered, the input has ended and nothing is left over;
and whenever the input has ended, every byte has already arrived. -/
theorem reassembly_order_independent (nonempty : source ≠ [])
    (roomy : source.length ≤ capacity.value) (pieces : List (Piece source))
    (filled : forall piece, piece ∈ pieces -> piece.first < piece.last)
    (covering : forall k, k < source.length ->
      Exists fun piece => piece ∈ pieces ∧ piece.Covers k)
    (ops : List (AssemblyOp source))
    (order : (arrivals ops).Perm (pieces.map Piece.marked)) :
    (Exists fun final => run Assembly.step (Assembly.start capacity) ops = .ok final ∧
        final.taken ++ final.reassembler.output.contents = source ∧
        final.reassembler.output.inputEnded = true ∧
        (forall stray, final.reassembler.unassembledBytes stray = 0) ∧
        final.reassembler.empty = true) ∧
      forall before after middle, ops = before ++ after ->
        run Assembly.step (Assembly.start capacity) before = .ok middle ->
        middle.reassembler.output.inputEnded = true ->
        forall k, k < source.length ->
          Exists fun piece => piece ∈ arrivals before ∧ piece.1.Covers k := by
  have proper (op : AssemblyOp source) (member : op ∈ ops) : op.Proper := by
    intro arrived same
    have listed := order.mem_iff.mp (List.mem_filterMap.mpr ⟨op, member, same⟩)
    rcases List.mem_map.mp listed with ⟨piece, among, rfl⟩
    exact ⟨filled piece among, rfl⟩
  have start := Assembly.start_collecting source capacity
  constructor
  · rcases run_assembly_ok (Assembly.start capacity) ops with ⟨final, done⟩
    rcases start.run_gathers roomy proper done with ⟨collecting, gathers⟩
    have listed {piece : Piece source} (among : piece ∈ pieces) : piece.marked ∈ arrivals ops :=
      order.mem_iff.mpr (List.mem_map.mpr ⟨piece, among, rfl⟩)
    have all (k : Nat) (below : k < source.length) : k ∈ final.stored := by
      rcases covering k below with ⟨piece, among, covers⟩
      exact (gathers.stored_iff k).mpr (Or.inr ⟨piece.marked, listed among, covers⟩)
    have announced : final.reassembler.eofed = true := by
      have positive := List.length_pos_iff.mpr nonempty
      rcases covering (source.length - 1) (by omega) with ⟨piece, among, covers⟩
      have last : piece.last = source.length := by
        have := piece.within
        have := covers.2
        omega
      exact gathers.eofed_iff.mpr (Or.inr ⟨piece.marked, listed among, beq_iff_eq.mpr last⟩)
    exact ⟨final, done, collecting.complete all announced⟩
  · intro before after middle split done ended k below
    have properBefore (op : AssemblyOp source) (member : op ∈ before) : op.Proper :=
      proper op (split ▸ List.mem_append_left after member)
    rcases start.run_gathers roomy properBefore done with ⟨collecting, gathers⟩
    rcases (gathers.stored_iff k).mp (collecting.stored_of_ended ended below) with old | arrived
    · exact absurd old (Finset.notMem_empty k)
    · exact arrived

/-- The pieces of `abc`, overlapping and last piece first, with a read before
the hole is filled. -/
theorem reassembly_order_independent_overlap :
    let source : List UInt8 := [97, 98, 99]
    let front : Piece source := ⟨0, 2, by decide, by decide⟩
    let back : Piece source := ⟨1, 3, by decide, by decide⟩
    let ops : List (AssemblyOp source) := [.push back true, .read 1, .push front false]
    Exists fun final => run Assembly.step (Assembly.start ⟨3, by decide⟩) ops = .ok final ∧
      final.taken ++ final.reassembler.output.contents = source := by
  intro source front back ops
  have covering (k : Nat) (below : k < source.length) :
      Exists fun piece => piece ∈ [front, back] ∧ piece.Covers k := by
    by_cases early : k < 2
    · exact ⟨front, by simp, Nat.zero_le k, early⟩
    · exact ⟨back, by simp, Nat.le_trans (by decide) (Nat.le_of_not_lt early), below⟩
  have roomy : source.length ≤ (⟨3, by decide⟩ : Capacity).value := by decide
  rcases (reassembly_order_independent (by decide) roomy [front, back]
    (by simp [front, back]) covering ops (List.Perm.swap _ _ _)).1 with
    ⟨final, done, whole, _⟩
  exact ⟨final, done, whole⟩

end Bytes
end Sponge
