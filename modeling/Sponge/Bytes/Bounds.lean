import Mathlib.Algebra.BigOperators.Intervals
import Mathlib.Data.Finset.Card
import Sponge.Foundation.Runs
import Sponge.Bytes.Assembling

namespace Sponge
namespace Bytes

open Foundation

/-!
# The vectors and their bounds

The reassembler indexes its two vectors in two loops.  `unassembled_bytes` runs
up to the high-water mark, which every offered byte raises, also one that is
discarded.  The assembling loop tests the bound behind the access, so it reads
one place too far if the window is filled to its edge.  For both it is said
which pushes keep the accesses inside, in runs of pushes of any bytes at any
index and of reads.
-/

/-- What the owner of a reassembler and the reader of its output can call. -/
inductive ReassemblerCall where
  | push (data : List UInt8) (index : UInt64) (eof : Bool)
  | read (length : Nat)
  | pop (length : Nat)
deriving DecidableEq

/-- Inside a vector it does not matter what would be read outside. -/
theorem getD_eq_of_lt {α : Type} (cells : List α) {index : Nat} (inside : index < cells.length)
    (stray other : α) : cells.getD index stray = cells.getD index other := by
  rw [List.getD_eq_getElem _ _ inside, List.getD_eq_getElem _ _ inside]

namespace StreamReassembler

def call (r : StreamReassembler) : ReassemblerCall -> StreamReassembler
  | .push data index eof => r.pushSubstring data index.toNat eof
  | .read length => { r with output := (r.output.read length).2 }
  | .pop length => r.popOutput length

/-- No call of a reassembler faults. -/
def step (r : StreamReassembler) (made : ReassemblerCall) : Except Empty StreamReassembler :=
  .ok (r.call made)

/-! ## The high-water mark -/

/-- What bytes offered at an index raise the mark to: all those inside the window,
and the first one outside, whose successor can wrap around. -/
def raisedTo (edge index length : Nat) : Nat :=
  if length = 0 then 0
  else if index + length ≤ edge then index + length
  else if index < edge then max edge (succ64 edge)
  else succ64 index

theorem storeLoop_raises (r : StreamReassembler) {index : Nat} (data : List UInt8)
    (small : index < 2 ^ 64) (allocated : r.buffer.length < 2 ^ 64) :
    (r.storeLoop index data).firstUnacceptable =
      max r.firstUnacceptable (raisedTo r.buffer.length index data.length) := by
  induction data generalizing r index with
  | nil => simp [storeLoop, raisedTo]
  | cons byte data ih =>
      have real : index % 2 ^ 64 = index := Nat.mod_eq_of_lt small
      unfold storeLoop
      dsimp only
      rw [real]
      split
      · rename_i outside
        unfold raisedTo
        rw [List.length_cons, if_neg (Nat.succ_ne_zero _), if_neg (by omega),
          if_neg (Nat.not_lt_of_le outside)]
      · rename_i inside
        have next : succ64 index = index + 1 := succ64_of_lt (by omega)
        have length : (storeByte { r with
            firstUnacceptable := max r.firstUnacceptable (succ64 index) } index byte).buffer.length =
              r.buffer.length := List.length_set
        rw [ih _ (by omega) (by rw [length]; exact allocated), length]
        change max (max r.firstUnacceptable (succ64 index)) _ = _
        rw [next, Nat.max_assoc]
        congr 1
        unfold raisedTo
        rw [List.length_cons, if_neg (Nat.succ_ne_zero data.length)]
        have shifted : index + 1 + data.length = index + (data.length + 1) := by omega
        rw [shifted]
        split
        · rw [if_pos (by omega)]
          omega
        · split
          · omega
          · rw [if_pos (Nat.lt_of_not_le inside)]
            split
            · omega
            · have last : index + 1 = r.buffer.length := by omega
              rw [last]

/-- What holds of every reassembler between two calls, as long as its vectors can
be allocated: whatever is stored was offered, and a complete input is ended. -/
structure Marked (r : StreamReassembler) : Prop where
  wf : r.Wf
  stored_lt : forall k, r.Stores k -> k < r.firstUnacceptable
  ended : r.eofed = true -> r.firstUnacceptable = r.firstUnassembled -> r.output.endFlag = true

theorem new_marked (capacity : Capacity) : (new capacity).Marked where
  wf := new_wf capacity
  stored_lt := fun k held => absurd held (new_stores capacity k)
  ended := nofun

theorem Marked.firstUnassembled_le {r : StreamReassembler} (marked : r.Marked) :
    r.firstUnassembled ≤ r.firstUnacceptable := by
  cases cursor : r.firstUnassembled with
  | zero => exact Nat.zero_le _
  | succ before =>
      exact marked.stored_lt before (marked.wf.assembled before (by omega))

theorem Marked.firstUnassembled_le_length {r : StreamReassembler} (marked : r.Marked) :
    r.firstUnassembled ≤ r.count.length := by
  rw [marked.wf.count_length]
  exact marked.wf.firstUnassembled_le

theorem Marked.length_le_edge {r : StreamReassembler} (marked : r.Marked) :
    r.count.length ≤ r.edge := by
  rw [marked.wf.count_length]
  exact Nat.add_le_add_right marked.wf.unread_le _

theorem Marked.popOutput {r : StreamReassembler} (marked : r.Marked) (length : Nat) :
    (r.popOutput length).Marked :=
  ⟨marked.wf.popOutput length, marked.stored_lt, marked.ended⟩

section

variable {r : StreamReassembler} (marked : r.Marked) (allocated : r.edge < 2 ^ 64)
  (data : List UInt8) (index : UInt64) (eof : Bool)

include marked allocated

theorem Marked.push_firstUnacceptable :
    (r.pushSubstring data index.toNat eof).firstUnacceptable =
      max r.firstUnacceptable (raisedTo r.edge index.toNat data.length) := by
  have assembles := (updateOutput_spec (marked.wf.staged data index.toNat eof)).1
  have size : r.updateSize.buffer.length = r.edge := resize_length _ _ _
  have raised := storeLoop_raises (r.updateSize.markEof eof) data index.toNat_lt
    (size.symm ▸ allocated)
  rw [pushSubstring_eq, assembles.firstUnacceptable_eq]
  unfold staging
  rw [raised]
  change max r.firstUnacceptable (raisedTo r.updateSize.buffer.length _ _) = _
  rw [size]

theorem Marked.staging_stores (k : Nat) :
    (r.staging data index.toNat eof).Stores k <->
      r.Stores k ∨ (index.toNat ≤ k ∧ k < index.toNat + data.length ∧ k < r.edge) := by
  have small := index.toNat_lt
  exact marked.wf.staging_stores data eof (by omega) k

theorem Marked.push_stores (k : Nat) :
    (r.pushSubstring data index.toNat eof).Stores k <->
      r.Stores k ∨ (index.toNat ≤ k ∧ k < index.toNat + data.length ∧ k < r.edge) := by
  have assembles := (updateOutput_spec (marked.wf.staged data index.toNat eof)).1
  rw [← marked.staging_stores allocated data index eof k, pushSubstring_eq]
  unfold Stores
  rw [assembles.count_eq]

theorem Marked.pushSubstring : (r.pushSubstring data index.toNat eof).Marked where
  wf := marked.wf.pushSubstring data index.toNat eof
  stored_lt := by
    intro k held
    rw [marked.push_firstUnacceptable allocated]
    rcases (marked.push_stores allocated data index eof k).mp held with before | brought
    · exact Nat.lt_of_lt_of_le (marked.stored_lt k before) (Nat.le_max_left _ _)
    · apply Nat.lt_of_lt_of_le _ (Nat.le_max_right _ _)
      unfold raisedTo
      rw [if_neg (by omega)]
      split
      · exact brought.2.1
      · rw [if_pos (by omega)]
        omega
  ended := by
    intro eofed met
    have announced := (pushSubstring_output_frame marked.wf data index.toNat eof).2.2.2
    rw [marked.wf.pushSubstring_endFlag, ← announced, eofed, met, beq_self_eq_true, Bool.and_self,
      Bool.or_true]

end

theorem edge_call_le (r : StreamReassembler) (made : ReassemblerCall) :
    r.edge ≤ (r.call made).edge := by
  cases made with
  | push data index eof => exact Nat.le_of_eq (pushSubstring_edge r data _ eof).symm
  | read length => exact Nat.add_le_add_right (Nat.le_add_right _ _) _
  | pop length => exact Nat.add_le_add_right (Nat.le_add_right _ _) _

theorem edge_backward (r : StreamReassembler) (made : ReassemblerCall) (next : StreamReassembler)
    (taken : r.step made = .ok next) (allocated : next.edge < 2 ^ 64) : r.edge < 2 ^ 64 := by
  cases taken
  exact Nat.lt_of_le_of_lt (r.edge_call_le made) allocated

theorem Marked.step {r next : StreamReassembler} {made : ReassemblerCall} (marked : r.Marked)
    (taken : r.step made = .ok next) (allocated : next.edge < 2 ^ 64) : next.Marked := by
  have room := edge_backward r made next taken allocated
  cases taken
  cases made with
  | push data index eof => exact marked.pushSubstring room data index eof
  | read length => exact marked.popOutput length
  | pop length => exact marked.popOutput length

theorem run_marked (capacity : Capacity) (calls : List ReassemblerCall) (r : StreamReassembler)
    (done : run step (new capacity) calls = .ok r) (allocated : r.edge < 2 ^ 64) : r.Marked := by
  refine run_invariant (fun r => r.edge < 2 ^ 64 -> r.Marked) ?_ (fun _ => new_marked capacity)
    done allocated
  intro state made next marked taken room
  exact (marked (edge_backward state made next taken room)).step taken room

/-- A condition on the pushes of a run; reads and pops are free. -/
def OnPush (condition : StreamReassembler -> List UInt8 -> UInt64 -> Bool -> Prop)
    (r : StreamReassembler) : ReassemblerCall -> Prop
  | .push data index eof => condition r data index eof
  | .read _ => True
  | .pop _ => True

instance (condition : StreamReassembler -> List UInt8 -> UInt64 -> Bool -> Prop)
    [decision : forall r data index eof, Decidable (condition r data index eof)]
    (r : StreamReassembler) (made : ReassemblerCall) : Decidable (OnPush condition r made) := by
  cases made with
  | push data index eof => exact decision r data index eof
  | read length => exact .isTrue trivial
  | pop length => exact .isTrue trivial

/-! ## Counting what is not yet assembled -/

/-- The stored indices at or above the cursor. -/
def pendingIndices (r : StreamReassembler) : Finset Nat :=
  (Finset.Ico r.firstUnassembled r.count.length).filter r.Stores

theorem mem_pendingIndices (r : StreamReassembler) (k : Nat) :
    k ∈ r.pendingIndices <-> r.firstUnassembled ≤ k ∧ r.Stores k := by
  unfold pendingIndices
  rw [Finset.mem_filter, Finset.mem_Ico]
  constructor
  · intro found
    exact ⟨found.1.1, found.2⟩
  · intro found
    exact ⟨⟨found.1, found.2.lt_length⟩, found.2⟩

/-- `unassembled_bytes` stays inside `_count`, and returns how many indices are
stored at or above the cursor, whatever lies behind the vector. -/
structure CountsExactly (r : StreamReassembler) : Prop where
  inside : forall i, r.firstUnassembled ≤ i -> i < r.firstUnacceptable -> i < r.count.length
  counted : forall stray, r.unassembledBytes stray = r.pendingIndices.card

theorem unassembledLoop_eq_card (r : StreamReassembler) (stray : Nat -> Nat) (rounds i : Nat) :
    r.unassembledLoop stray rounds i =
      ((Finset.Ico i (i + rounds)).filter fun k => r.count.getD k (stray k) ≠ 0).card := by
  induction rounds generalizing i with
  | zero => simp [unassembledLoop]
  | succ rounds ih =>
      have shifted : i + 1 + rounds = i + (rounds + 1) := by omega
      have nonempty : i < i + (rounds + 1) := Nat.lt_add_of_pos_right (Nat.succ_pos rounds)
      unfold unassembledLoop
      rw [ih (i + 1), shifted, Finset.card_filter, Finset.card_filter,
        Finset.sum_eq_sum_Ico_succ_bot nonempty]
      congr 1
      by_cases none : r.count.getD i (stray i) = 0
      · rw [if_pos none, if_neg (not_not_intro none)]
      · rw [if_neg none, if_pos none]

theorem Marked.unassembledBytes_eq_card {r : StreamReassembler} (marked : r.Marked)
    (stray : Nat -> Nat) :
    r.unassembledBytes stray =
      ((Finset.Ico r.firstUnassembled r.firstUnacceptable).filter
        fun k => r.count.getD k (stray k) ≠ 0).card := by
  unfold unassembledBytes
  rw [unassembledLoop_eq_card, Nat.add_sub_cancel' marked.firstUnassembled_le]

theorem Marked.countsExactly_iff {r : StreamReassembler} (marked : r.Marked) :
    r.CountsExactly <-> r.firstUnacceptable ≤ r.count.length := by
  have cursor := marked.firstUnassembled_le_length
  constructor
  · intro counts
    by_contra beyond
    exact Nat.lt_irrefl _ (counts.inside r.count.length cursor (Nat.lt_of_not_le beyond))
  · intro within
    refine ⟨fun i _ below => Nat.lt_of_lt_of_le below within, fun stray => ?_⟩
    rw [marked.unassembledBytes_eq_card]
    congr 1
    ext k
    rw [mem_pendingIndices, Finset.mem_filter, Finset.mem_Ico]
    constructor
    · rintro ⟨⟨above, below⟩, read⟩
      have inside : k < r.count.length := Nat.lt_of_lt_of_le below within
      rw [getD_eq_of_lt _ inside (stray k) 0] at read
      exact ⟨above, read⟩
    · rintro ⟨above, held⟩
      refine ⟨⟨above, marked.stored_lt k held⟩, ?_⟩
      rw [getD_eq_of_lt _ held.lt_length (stray k) 0]
      exact held

/-- Nothing is offered beyond the window, unless the mark wraps around. -/
def Offered (r : StreamReassembler) (data : List UInt8) (index : UInt64) (_ : Bool) : Prop :=
  data = [] ∨ index.toNat + data.length ≤ r.edge ∨ succ64 (max r.edge index.toNat) = 0

instance (r : StreamReassembler) (data : List UInt8) (index : UInt64) (eof : Bool) :
    Decidable (r.Offered data index eof) :=
  inferInstanceAs (Decidable (_ ∨ _ ∨ _))

theorem raisedTo_le_iff {edge index : Nat} (data : List UInt8) (allocated : edge < 2 ^ 64)
    (small : index < 2 ^ 64) :
    raisedTo edge index data.length ≤ edge <->
      data = [] ∨ index + data.length ≤ edge ∨ succ64 (max edge index) = 0 := by
  have wraps (n : Nat) (fits : n < 2 ^ 64) : succ64 n ≤ n <-> succ64 n = 0 := by
    unfold succ64
    omega
  unfold raisedTo
  rw [← List.length_eq_zero_iff]
  split
  · rename_i none
    simp [none]
  · rename_i some
    split
    · rename_i within
      simp [within]
    · rename_i beyond
      split
      · rename_i starts
        rw [Nat.max_eq_left (Nat.le_of_lt starts), ← wraps edge allocated]
        omega
      · rename_i starts
        have above : edge ≤ index := Nat.le_of_not_lt starts
        rw [Nat.max_eq_right above]
        unfold succ64
        omega

theorem Marked.push_count_length {r : StreamReassembler} (marked : r.Marked) (data : List UInt8)
    (index : Nat) (eof : Bool) : (r.pushSubstring data index eof).count.length = r.edge := by
  have staged := marked.wf.staged data index eof
  have frame := storeLoop_frame (r.updateSize.markEof eof) index data
  rw [pushSubstring_eq, (updateOutput_spec staged).1.count_eq, staged.count_length]
  unfold edge staging
  rw [frame.1, frame.2.1]
  rfl

/-- Reads and pops leave the vectors and the cursors alone. -/
theorem popOutput_countsExactly (r : StreamReassembler) (marked : r.Marked) (length : Nat) :
    (r.popOutput length).CountsExactly <-> r.CountsExactly := by
  rw [marked.countsExactly_iff, (marked.popOutput length).countsExactly_iff]
  rfl

/-- What one call does to the count: only a push can spoil it, and it does exactly
if it offers a byte beyond the window. -/
theorem Marked.call_countsExactly {r : StreamReassembler} (marked : r.Marked)
    (allocated : r.edge < 2 ^ 64) (counts : r.CountsExactly) (made : ReassemblerCall) :
    OnPush Offered r made <-> (r.call made).CountsExactly := by
  cases made with
  | push data index eof =>
      have kept := marked.pushSubstring allocated data index eof
      have within := marked.countsExactly_iff.mp counts
      have length := marked.length_le_edge
      change Offered r data index eof <-> (r.pushSubstring data index.toNat eof).CountsExactly
      rw [kept.countsExactly_iff, marked.push_count_length,
        marked.push_firstUnacceptable allocated, Nat.max_le,
        raisedTo_le_iff data allocated index.toNat_lt]
      constructor
      · intro offered
        exact ⟨Nat.le_trans within length, offered⟩
      · intro both
        exact both.2
  | read length =>
      exact ⟨fun _ => (popOutput_countsExactly r marked length).mpr counts, fun _ => trivial⟩
  | pop length =>
      exact ⟨fun _ => (popOutput_countsExactly r marked length).mpr counts, fun _ => trivial⟩

/-- In every run the count is right in every state reached, exactly if no push
offers a byte beyond the window. -/
theorem unassembledBytes_exact (capacity : Capacity) (calls : List ReassemblerCall)
    (final : StreamReassembler) (done : run step (new capacity) calls = .ok final)
    (allocated : final.edge < 2 ^ 64) :
    RunMeets step (OnPush Offered) (new capacity) calls <->
      forall before reached, before <+: calls -> run step (new capacity) before = .ok reached ->
        reached.CountsExactly := by
  apply runMeets_iff (fun r => r.edge < 2 ^ 64) (fun r => r.edge < 2 ^ 64 -> r.Marked)
    CountsExactly edge_backward _ _ _ _ done allocated
  · intro r made next marked taken room
    exact (marked (edge_backward r made next taken room)).step taken room
  · intro r made next marked counts taken room
    have before := edge_backward r made next taken room
    cases taken
    exact (marked before).call_countsExactly before counts made
  · intro _
    exact new_marked capacity
  · rw [(new_marked capacity).countsExactly_iff]
    exact Nat.zero_le _

theorem unassembledBytes_exact_in_order :
    let calls : List ReassemblerCall :=
      [.push [8, 9] 1 false, .read 1, .push [7] 0 false, .read 2, .push [6] 5 true]
    (Exists fun final => run step (new ⟨4, by decide⟩) calls = .ok final ∧
      final.unassembledBytes (fun _ => 1) = 1) ∧
      forall before reached, before <+: calls ->
        run step (new ⟨4, by decide⟩) before = .ok reached -> reached.CountsExactly := by
  intro calls
  have checked : endsIn step (fun final =>
      decide (final.edge < 2 ^ 64 ∧ final.unassembledBytes (fun _ => 1) = 1))
      (new ⟨4, by decide⟩) calls = true := by decide +kernel
  rcases run_of_endsIn checked with ⟨final, done, facts⟩
  rcases of_decide_eq_true facts with ⟨allocated, one⟩
  refine ⟨⟨final, done, one⟩, ?_⟩
  exact (unassembledBytes_exact ⟨4, by decide⟩ calls final done allocated).mp (by decide +kernel)

/-- One byte far beyond a window of one place: nothing is stored, but the loop
runs on behind the end of `_count`, and counts what it finds there. -/
theorem unassembledBytes_overruns :
    Exists fun final => run step (new ⟨1, by decide⟩) [.push [7] 5 false] = .ok final ∧
      ¬ final.CountsExactly ∧ final.pendingIndices.card = 0 ∧
      final.unassembledBytes (fun _ => 1) = 5 := by
  have checked : endsIn step (fun final =>
      decide (final.firstUnassembled = 0 ∧ final.firstUnacceptable = 6 ∧ final.count.length = 1 ∧
        final.pendingIndices.card = 0 ∧ final.unassembledBytes (fun _ => 1) = 5))
      (new ⟨1, by decide⟩) [.push [7] 5 false] = true := by decide +kernel
  rcases run_of_endsIn checked with ⟨final, done, facts⟩
  rcases of_decide_eq_true facts with ⟨cursor, mark, length, none, five⟩
  refine ⟨final, done, fun counts => ?_, none, five⟩
  have inside := counts.inside 3 (by omega) (by omega)
  omega

/-! ## The accesses of the assembling loop -/

end StreamReassembler

/-- An evaluation of an element of `_count` or of `_buffer`. -/
inductive Access where
  | count (index : Nat)
  | buffer (index : Nat)
deriving DecidableEq

namespace StreamReassembler

def Holds (r : StreamReassembler) : Access -> Prop
  | .count index => index < r.count.length
  | .buffer index => index < r.buffer.length

/-- What the loop of `_update_output` evaluates, in its order.  The test of the loop
comes first, and the bound is tested behind it. -/
def assembleAccesses (r : StreamReassembler) (stray : Nat) : Nat -> Nat -> List Access
  | 0, _ => []
  | rounds + 1, cursor =>
      .count cursor ::
        if r.count.getD cursor stray = 0 then []
        else if cursor = r.buffer.length then []
        else .buffer cursor :: r.assembleAccesses stray rounds (cursor + 1)

/-- What the `_update_output` of a push evaluates. -/
def pushAccesses (r : StreamReassembler) (stray : Nat) (data : List UInt8) (index : Nat)
    (eof : Bool) : List Access :=
  let staged := r.staging data index eof
  staged.assembleAccesses stray (staged.buffer.length + 1 - staged.firstUnassembled)
    staged.firstUnassembled

/-- The loop stays inside exactly if it is stopped before the end of the vectors. -/
theorem assembleAccesses_hold_iff (r : StreamReassembler) (stray : Nat)
    (lengths : r.count.length = r.buffer.length) (rounds cursor : Nat)
    (inside : cursor ≤ r.buffer.length) (enough : r.buffer.length < rounds + cursor) :
    (forall access, access ∈ r.assembleAccesses stray rounds cursor -> r.Holds access) <->
      Exists fun k => cursor ≤ k ∧ k < r.buffer.length ∧ ¬ r.Stores k := by
  induction rounds generalizing cursor with
  | zero => omega
  | succ rounds ih =>
      unfold assembleAccesses
      rcases Nat.lt_or_eq_of_le inside with before | last
      · have counted : cursor < r.count.length := lengths.symm ▸ before
        rw [getD_eq_of_lt _ counted stray 0]
        by_cases stored : r.Stores cursor
        · rw [if_neg stored, if_neg (Nat.ne_of_lt before), List.forall_mem_cons,
            List.forall_mem_cons, ih (cursor + 1) before (by omega)]
          constructor
          · rintro ⟨_, _, k, above, below, missing⟩
            exact ⟨k, Nat.le_of_succ_le above, below, missing⟩
          · rintro ⟨k, above, below, missing⟩
            refine ⟨counted, before, k, ?_, below, missing⟩
            apply Nat.lt_of_le_of_ne above
            intro same
            exact missing (same ▸ stored)
        · rw [if_pos (not_not.mp stored), List.forall_mem_singleton]
          exact ⟨fun _ => ⟨cursor, Nat.le_refl _, before, stored⟩, fun _ => counted⟩
      · rw [List.forall_mem_cons]
        constructor
        · intro all
          have held : cursor < r.count.length := all.1
          omega
        · rintro ⟨k, above, below, _⟩
          omega

/-- The push leaves an index of the window without a byte. -/
def LeavesHole (r : StreamReassembler) (data : List UInt8) (index : UInt64) (_ : Bool) : Prop :=
  Exists fun k => k < r.edge ∧
    ¬ r.Stores k ∧ ¬ (index.toNat ≤ k ∧ k < index.toNat + data.length)

instance (r : StreamReassembler) (data : List UInt8) (index : UInt64) (eof : Bool) :
    Decidable (r.LeavesHole data index eof) :=
  inferInstanceAs (Decidable (Exists fun k => k < _ ∧ _))

theorem Marked.pushAccesses_hold_iff {r : StreamReassembler} (marked : r.Marked)
    (allocated : r.edge < 2 ^ 64) (stray : Nat) (data : List UInt8) (index : UInt64)
    (eof : Bool) :
    (forall access, access ∈ r.pushAccesses stray data index.toNat eof ->
        (r.staging data index.toNat eof).Holds access) <->
      r.LeavesHole data index eof := by
  have staged := marked.wf.staged data index.toNat eof
  have stores := marked.staging_stores allocated data index eof
  have frame := storeLoop_frame (r.updateSize.markEof eof) index.toNat data
  have size : (r.staging data index.toNat eof).buffer.length = r.edge := by
    rw [staged.buffer_length]
    unfold edge staging
    rw [frame.1, frame.2.1]
    rfl
  unfold pushAccesses
  rw [assembleAccesses_hold_iff _ stray (staged.count_length.trans staged.buffer_length.symm) _ _
    staged.firstUnassembled_le (by omega), size]
  constructor
  · rintro ⟨k, _, below, missing⟩
    rw [stores] at missing
    exact ⟨k, below, fun held => missing (Or.inl held),
      fun offered => missing (Or.inr ⟨offered.1, offered.2, below⟩)⟩
  · rintro ⟨k, below, missing, skipped⟩
    have hole : ¬ (r.staging data index.toNat eof).Stores k := by
      rw [stores]
      rintro (held | ⟨above, offered, _⟩)
      · exact missing held
      · exact skipped ⟨above, offered⟩
    refine ⟨k, ?_, below, hole⟩
    by_contra early
    exact hole (staged.assembled k (Nat.lt_of_not_le early))

/-- In every run each push evaluates elements of the vectors only, whatever lies
behind them, exactly if no push fills the window up to its edge. -/
theorem assembling_stays_inside (capacity : Capacity) (calls : List ReassemblerCall)
    (final : StreamReassembler) (done : run step (new capacity) calls = .ok final)
    (allocated : final.edge < 2 ^ 64) :
    RunMeets step (OnPush LeavesHole) (new capacity) calls <->
      forall before made reached, before ++ [made] <+: calls ->
        run step (new capacity) before = .ok reached ->
          OnPush (fun r data index eof => forall stray access,
            access ∈ r.pushAccesses stray data index.toNat eof ->
              (r.staging data index.toNat eof).Holds access) reached made := by
  apply runMeets_iff_performed (fun r => r.edge < 2 ^ 64) (fun r => r.edge < 2 ^ 64 -> r.Marked) _
    edge_backward _ _ _ done allocated
  · intro r made next marked taken room
    exact (marked (edge_backward r made next taken room)).step taken room
  · intro r made next marked taken room
    have before := edge_backward r made next taken room
    cases made with
    | push data index eof =>
        constructor
        · intro hole stray
          exact ((marked before).pushAccesses_hold_iff before stray data index eof).mpr hole
        · intro all
          exact ((marked before).pushAccesses_hold_iff before 0 data index eof).mp (all 0)
    | read length => exact Iff.rfl
    | pop length => exact Iff.rfl
  · intro _
    exact new_marked capacity

theorem assembling_stays_inside_with_room :
    let calls : List ReassemblerCall :=
      [.push [8, 9] 1 false, .push [7] 0 false, .read 2, .push [6, 5] 3 true]
    (Exists fun final => run step (new ⟨4, by decide⟩) calls = .ok final ∧
      final.firstUnassembled = 5) ∧
      forall before made reached, before ++ [made] <+: calls ->
        run step (new ⟨4, by decide⟩) before = .ok reached ->
          OnPush (fun r data index eof => forall stray access,
            access ∈ r.pushAccesses stray data index.toNat eof ->
              (r.staging data index.toNat eof).Holds access) reached made := by
  intro calls
  have checked : endsIn step (fun final =>
      decide (final.edge < 2 ^ 64 ∧ final.firstUnassembled = 5))
      (new ⟨4, by decide⟩) calls = true := by decide +kernel
  rcases run_of_endsIn checked with ⟨final, done, facts⟩
  rcases of_decide_eq_true facts with ⟨allocated, five⟩
  refine ⟨⟨final, done, five⟩, ?_⟩
  exact (assembling_stays_inside ⟨4, by decide⟩ calls final done allocated).mp (by decide +kernel)

/-- The first byte fills a window of one place, and the loop ends behind it only. -/
theorem assembling_overruns :
    ¬ forall before made reached, before ++ [made] <+: [ReassemblerCall.push [7] 0 false] ->
      run step (new ⟨1, by decide⟩) before = .ok reached ->
        OnPush (fun r data index eof => forall stray access,
          access ∈ r.pushAccesses stray data index.toNat eof ->
            (r.staging data index.toNat eof).Holds access) reached made := by
  intro all
  have first := all [] (.push [7] 0 false) (new ⟨1, by decide⟩) (List.prefix_refl _) rfl
  have held : 1 < 1 := first 0 (.count 1) (by decide +kernel)
  exact Nat.lt_irrefl 1 held

end StreamReassembler
end Bytes
end Sponge
