import Mathlib.Data.Nat.ModEq
import Mathlib.Tactic.Common

namespace Sponge
namespace Foundation

/-!
# Slices of a circular array

A circular array of `size` cells stores a sequence from a start position
onwards, continuing at the first cell after the last.  The slice of a given
length reads that sequence back.  Positions are arbitrary naturals, reduced
modulo the size when a cell is read.
-/

variable {α : Type}

/-- The `length` cells from `start` onwards, wrapping around at `size`. -/
def ringSlice (cells : Nat -> α) (size start length : Nat) : List α :=
  (List.range length).map (fun i => cells ((start + i) % size))

@[simp] theorem ringSlice_length (cells : Nat -> α) (size start length : Nat) :
    (ringSlice cells size start length).length = length := by
  simp [ringSlice]

@[simp] theorem ringSlice_zero (cells : Nat -> α) (size start : Nat) :
    ringSlice cells size start 0 = [] :=
  rfl

/-- A slice is the slice of its first cells followed by the rest. -/
theorem ringSlice_add (cells : Nat -> α) (size start first second : Nat) :
    ringSlice cells size start (first + second) =
      ringSlice cells size start first ++ ringSlice cells size (start + first) second := by
  simp [ringSlice, List.range_add, Function.comp_def, Nat.add_assoc]

theorem ringSlice_succ (cells : Nat -> α) (size start length : Nat) :
    ringSlice cells size start (length + 1) =
      cells (start % size) :: ringSlice cells size (start + 1) length := by
  rw [Nat.add_comm length 1, ringSlice_add]
  simp [ringSlice]

/-- Only the position of the start cell matters. -/
theorem ringSlice_mod (cells : Nat -> α) (size start length : Nat) :
    ringSlice cells size (start % size) length = ringSlice cells size start length := by
  simp [ringSlice]

/-- Two arrays that agree on the cells read have equal slices. -/
theorem ringSlice_congr {cells others : Nat -> α} {size start length : Nat}
    (agree : forall i, i < length ->
      cells ((start + i) % size) = others ((start + i) % size)) :
    ringSlice cells size start length = ringSlice others size start length := by
  apply List.map_congr_left
  intro i member
  exact agree i (List.mem_range.mp member)

/-- The position reached from `start` by the forward distance to `finish`. -/
theorem ring_distance {size start finish : Nat} (startBound : start < size)
    (finishBound : finish < size) : (start + (size + finish - start) % size) % size = finish := by
  rw [Nat.add_mod_mod]
  have sum : start + (size + finish - start) = finish + size := by omega
  rw [sum, Nat.add_mod_right, Nat.mod_eq_of_lt finishBound]

/-- Distinct forward distances below the size reach distinct cells. -/
theorem ring_injective {size start first second : Nat} (firstBound : first < size)
    (secondBound : second < size) (equal : (start + first) % size = (start + second) % size) :
    first = second := by
  have same : first ≡ second [MOD size] := Nat.ModEq.add_left_cancel' start equal
  exact same.eq_of_lt_of_lt firstBound secondBound

end Foundation
end Sponge
