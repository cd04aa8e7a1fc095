import Mathlib.Data.Nat.ModEq
import Mathlib.Tactic.Common

namespace Sponge
namespace Foundation

/-!
# Consecutive blocks

A list of blocks laid out without gap or overlap between two positions.  What
it means for a block to lie at a position, and how many positions it takes,
are parameters; every block takes at least one.
-/

variable {Block Other : Type}

/-- The blocks fill the positions from `start` up to `stop`, in order. -/
def Consecutive (lies : Block -> Nat -> Prop) (size : Block -> Nat) :
    Nat -> List Block -> Nat -> Prop
  | start, [], stop => start = stop
  | start, block :: blocks, stop =>
      lies block start ∧ 0 < size block ∧
        Consecutive lies size (start + size block) blocks stop

section

variable {lies : Block -> Nat -> Prop} {size : Block -> Nat} {start stop : Nat}
  {blocks : List Block}

theorem Consecutive.le (laid : Consecutive lies size start blocks stop) : start ≤ stop := by
  induction blocks generalizing start with
  | nil => exact Nat.le_of_eq laid
  | cons block blocks ih => exact Nat.le_trans (Nat.le_add_right _ _) (ih laid.2.2)

/-- The sizes add up to the positions filled. -/
theorem Consecutive.sum_eq (laid : Consecutive lies size start blocks stop) :
    start + (blocks.map size).sum = stop := by
  induction blocks generalizing start with
  | nil => exact laid
  | cons block blocks ih =>
      rw [List.map_cons, List.sum_cons, ← Nat.add_assoc]
      exact ih laid.2.2

theorem Consecutive.append {middle : Nat} {more : List Block}
    (laid : Consecutive lies size start blocks middle)
    (onward : Consecutive lies size middle more stop) :
    Consecutive lies size start (blocks ++ more) stop := by
  induction blocks generalizing start with
  | nil =>
      cases laid
      exact onward
  | cons block blocks ih => exact ⟨laid.1, laid.2.1, ih laid.2.2⟩

/-- One more block at the end. -/
theorem Consecutive.snoc {block : Block} (laid : Consecutive lies size start blocks stop)
    (at_stop : lies block stop) (nonempty : 0 < size block) :
    Consecutive lies size start (blocks ++ [block]) (stop + size block) :=
  laid.append ⟨at_stop, nonempty, rfl⟩

theorem Consecutive.split {more : List Block}
    (laid : Consecutive lies size start (blocks ++ more) stop) :
    Exists fun middle =>
      Consecutive lies size start blocks middle ∧ Consecutive lies size middle more stop := by
  induction blocks generalizing start with
  | nil => exact ⟨start, rfl, laid⟩
  | cons block blocks ih =>
      rcases ih laid.2.2 with ⟨middle, before, after⟩
      exact ⟨middle, ⟨laid.1, laid.2.1, before⟩, after⟩

/-- Every block lies somewhere between the two ends. -/
theorem Consecutive.mem {block : Block} (laid : Consecutive lies size start blocks stop)
    (member : block ∈ blocks) :
    Exists fun place => lies block place ∧ start ≤ place ∧ 0 < size block ∧
      place + size block ≤ stop := by
  rcases List.append_of_mem member with ⟨before, after, rfl⟩
  rcases laid.split with ⟨place, front, back⟩
  exact ⟨place, back.1, front.le, back.2.1, back.2.2.le⟩

/-- The layout depends only on where blocks lie within the two ends. -/
theorem Consecutive.imp {other : Block -> Nat -> Prop}
    (laid : Consecutive lies size start blocks stop)
    (implies : forall block place, place < stop -> lies block place -> other block place) :
    Consecutive other size start blocks stop := by
  induction blocks generalizing start with
  | nil => exact laid
  | cons block blocks ih =>
      have below : start < stop := by
        have := laid.2.2.le
        have := laid.2.1
        omega
      exact ⟨implies block start below laid.1, laid.2.1, ih laid.2.2⟩

theorem consecutive_map {view : Other -> Block} {others : List Other} :
    Consecutive lies size start (others.map view) stop <->
      Consecutive (fun other => lies (view other)) (fun other => size (view other))
        start others stop := by
  induction others generalizing start with
  | nil => exact Iff.rfl
  | cons other others ih => exact and_congr Iff.rfl (and_congr Iff.rfl ih)

end

/-! ## Blocks that know their position -/

section

variable {place size : Block -> Nat} {start stop : Nat} {blocks : List Block}

/-- Of the blocks before a given one, none reaches beyond its start. -/
theorem Consecutive.before_lt
    (laid : Consecutive (fun block q => place block = q) size start blocks stop)
    {i j : Nat} {earlier later : Block} (less : i < j) (at_i : blocks[i]? = some earlier)
    (at_j : blocks[j]? = some later) : place earlier + size earlier ≤ place later := by
  induction blocks generalizing start i j with
  | nil => cases at_i
  | cons block blocks ih =>
      cases j with
      | zero => exact absurd less (Nat.not_lt_zero i)
      | succ j =>
          cases i with
          | zero =>
              cases at_i
              rcases laid.2.2.mem (List.mem_of_getElem? at_j) with ⟨q, lies, above, _⟩
              rw [laid.1, lies]
              exact above
          | succ i => exact ih laid.2.2 (Nat.lt_of_succ_lt_succ less) at_i at_j

/-- Each block ends where the next one starts. -/
theorem Consecutive.adjacent
    (laid : Consecutive (fun block q => place block = q) size start blocks stop)
    {i : Nat} {block next : Block} (at_i : blocks[i]? = some block)
    (after : blocks[i + 1]? = some next) : place block + size block = place next := by
  induction blocks generalizing start i with
  | nil => cases at_i
  | cons head blocks ih =>
      cases i with
      | succ i => exact ih laid.2.2 at_i after
      | zero =>
          cases at_i
          cases blocks with
          | nil => cases after
          | cons second blocks =>
              cases after
              rw [laid.1, laid.2.2.1]

/-- The last block ends at the stop. -/
theorem Consecutive.last_eq
    (laid : Consecutive (fun block q => place block = q) size start blocks stop)
    {block : Block} (last : blocks.getLast? = some block) : place block + size block = stop := by
  rcases List.getLast?_eq_some_iff.mp last with ⟨before, rfl⟩
  rcases laid.split with ⟨middle, _, back⟩
  rw [back.1]
  exact back.2.2

/-- Every position between the ends belongs to some block. -/
theorem Consecutive.covers
    (laid : Consecutive (fun block q => place block = q) size start blocks stop)
    {k : Nat} (above : start ≤ k) (below : k < stop) :
    Exists fun i : Nat => Exists fun block =>
      blocks[i]? = some block ∧ place block ≤ k ∧ k < place block + size block := by
  induction blocks generalizing start with
  | nil =>
      cases laid
      omega
  | cons block blocks ih =>
      by_cases here : k < start + size block
      · exact ⟨0, block, rfl, laid.1 ▸ above, laid.1 ▸ here⟩
      · rcases ih laid.2.2 (Nat.le_of_not_lt here) with ⟨i, found, at_i, inside⟩
        exact ⟨i + 1, found, at_i, inside⟩

/-- No position belongs to two blocks. -/
theorem Consecutive.covers_unique
    (laid : Consecutive (fun block q => place block = q) size start blocks stop)
    {k i j : Nat} {first second : Block} (at_i : blocks[i]? = some first)
    (at_j : blocks[j]? = some second)
    (in_first : place first ≤ k ∧ k < place first + size first)
    (in_second : place second ≤ k ∧ k < place second + size second) : i = j := by
  rcases Nat.lt_trichotomy i j with less | equal | greater
  · have := laid.before_lt less at_i at_j
    omega
  · exact equal
  · have := laid.before_lt greater at_j at_i
    omega

end

end Foundation
end Sponge
