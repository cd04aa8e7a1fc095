import Sponge.Foundation.Residues

namespace Sponge
namespace Tcp

open Foundation

/-!
# Wrapping sequence numbers

TCP transmits 32-bit sequence numbers relative to an initial sequence number.
`wrap` and `unwrap` translate between them and absolute 64-bit numbers.

Absolute numbers are naturals here.  For a checkpoint below `2 ^ 64` every
intermediate value of `unwrap` stays below `2 ^ 64`: the block of the
checkpoint is kept, the upward correction is guarded against the last block
and the downward one against the low blocks.
-/

/-- A 32-bit integer, expressed relative to an arbitrary initial sequence number. -/
structure WrappingInt32 where
  rawValue : UInt32
deriving DecidableEq, Repr

namespace WrappingInt32

/-- The offset of `a` relative to `b`, as the signed difference. -/
instance : HSub WrappingInt32 WrappingInt32 Int32 where
  hSub a b := (a.rawValue - b.rawValue).toInt32

/-- The point `b` steps past `a`. -/
instance : HAdd WrappingInt32 UInt32 WrappingInt32 where
  hAdd a b := ⟨a.rawValue + b⟩

/-- The point `b` steps before `a`. -/
instance : HSub WrappingInt32 UInt32 WrappingInt32 where
  hSub a b := a + -b

/-- The number of increments from `isn` to `n`, read as an unsigned number. -/
def offset (n isn : WrappingInt32) : Nat :=
  (n - isn).toUInt32.toNat

theorem offset_lt (n isn : WrappingInt32) : n.offset isn < 2 ^ 32 :=
  UInt32.toNat_lt _

theorem offset_eq (n isn : WrappingInt32) :
    n.offset isn = (2 ^ 32 - isn.rawValue.toNat + n.rawValue.toNat) % 2 ^ 32 := by
  change (n.rawValue - isn.rawValue).toInt32.toUInt32.toNat = _
  rw [UInt32.toUInt32_toInt32, UInt32.toNat_sub]

end WrappingInt32

/-- Transform an absolute sequence number into a relative one. -/
def wrap (n : Nat) (isn : WrappingInt32) : WrappingInt32 :=
  ⟨UInt32.ofNat (n + isn.rawValue.toNat)⟩

/-- Transform a relative sequence number into an absolute one near the checkpoint. -/
def unwrap (n isn : WrappingInt32) (checkpoint : Nat) : Nat :=
  let out := n.offset isn + checkpoint >>> 32 <<< 32
  if out < checkpoint then
    if checkpoint - out > 2 ^ 31 ∧ checkpoint >>> 32 < 2 ^ 32 - 1 then out + 2 ^ 32 else out
  else
    if out - checkpoint > 2 ^ 31 ∧ checkpoint >>> 32 > 1 then out - 2 ^ 32 else out

/-! ## Residues of the transmitted numbers -/

theorem offset_wrap (value : Nat) (isn : WrappingInt32) :
    (wrap value isn).offset isn = value % 2 ^ 32 := by
  have bound := UInt32.toNat_lt isn.rawValue
  rw [WrappingInt32.offset_eq]
  simp only [wrap, UInt32.toNat_ofNat']
  omega

theorem wrap_offset (n isn : WrappingInt32) : wrap (n.offset isn) isn = n := by
  have bound := UInt32.toNat_lt isn.rawValue
  have small := UInt32.toNat_lt n.rawValue
  cases n with
  | mk raw =>
      unfold wrap
      congr 1
      apply UInt32.toNat_inj.mp
      rw [UInt32.toNat_ofNat', WrappingInt32.offset_eq]
      simp only at *
      omega

/-- Two absolute numbers are transmitted alike exactly when they agree
modulo `2 ^ 32`. -/
theorem wrap_eq_iff (value : Nat) (n isn : WrappingInt32) :
    wrap value isn = n <-> value % 2 ^ 32 = n.offset isn := by
  constructor
  · intro equal
    rw [← equal, offset_wrap]
  · intro equal
    rw [← wrap_offset n isn, ← equal]
    unfold wrap
    congr 1
    apply UInt32.toNat_inj.mp
    rw [UInt32.toNat_ofNat', UInt32.toNat_ofNat']
    omega

@[simp] theorem wrap_zero (isn : WrappingInt32) : wrap 0 isn = isn := by
  cases isn
  simp [wrap]

/-! ## Recovering absolute numbers -/

theorem unwrap_eq (n isn : WrappingInt32) (checkpoint : Nat) :
    unwrap n isn checkpoint =
      if n.offset isn + checkpoint / 2 ^ 32 * 2 ^ 32 < checkpoint then
        if checkpoint - (n.offset isn + checkpoint / 2 ^ 32 * 2 ^ 32) > 2 ^ 31 ∧
            checkpoint / 2 ^ 32 < 2 ^ 32 - 1 then
          n.offset isn + checkpoint / 2 ^ 32 * 2 ^ 32 + 2 ^ 32
        else n.offset isn + checkpoint / 2 ^ 32 * 2 ^ 32
      else
        if n.offset isn + checkpoint / 2 ^ 32 * 2 ^ 32 - checkpoint > 2 ^ 31 ∧
            checkpoint / 2 ^ 32 > 1 then
          n.offset isn + checkpoint / 2 ^ 32 * 2 ^ 32 - 2 ^ 32
        else n.offset isn + checkpoint / 2 ^ 32 * 2 ^ 32 := by
  simp only [unwrap, Nat.shiftRight_eq_div_pow, Nat.shiftLeft_eq]

theorem unwrap_mod (n isn : WrappingInt32) (checkpoint : Nat) :
    unwrap n isn checkpoint % 2 ^ 32 = n.offset isn := by
  have bound := n.offset_lt isn
  rw [unwrap_eq]
  split_ifs <;> omega

/-- Unwrapping returns a number that is transmitted as the one received. -/
theorem wrap_unwrap (n isn : WrappingInt32) (checkpoint : Nat) :
    wrap (unwrap n isn checkpoint) isn = n :=
  (wrap_eq_iff _ n isn).mpr (unwrap_mod n isn checkpoint)

theorem unwrap_lt (n isn : WrappingInt32) {checkpoint : Nat} (bounded : checkpoint < 2 ^ 64) :
    unwrap n isn checkpoint < 2 ^ 64 := by
  have bound := n.offset_lt isn
  rw [unwrap_eq]
  split_ifs <;> omega

/-- A number is recovered exactly when it is the checkpoint itself. -/
theorem unwrap_wrap_self (value : Nat) (isn : WrappingInt32) :
    unwrap (wrap value isn) isn value = value := by
  rw [unwrap_eq, offset_wrap]
  split_ifs <;> omega

/-- In the first half of the first block the checkpoint plays no role. -/
theorem unwrap_eq_offset (n isn : WrappingInt32) {checkpoint : Nat}
    (low : checkpoint ≤ 2 ^ 31) : unwrap n isn checkpoint = n.offset isn := by
  have bound := n.offset_lt isn
  rw [unwrap_eq]
  split_ifs <;> omega

theorem unwrap_wrap_of_low {value checkpoint : Nat} (isn : WrappingInt32)
    (valueLow : value < 2 ^ 32) (low : checkpoint ≤ 2 ^ 31) :
    unwrap (wrap value isn) isn checkpoint = value := by
  rw [unwrap_eq_offset _ _ low, offset_wrap]
  omega

/-! ## The nearest absolute number -/

/-- The specification of `unwrap`: among the 64-bit numbers transmitted as
`n`, none is strictly closer to the checkpoint than the one returned. -/
def UnwrapsToNearest (n isn : WrappingInt32) (checkpoint : UInt64) : Prop :=
  unwrap n isn checkpoint.toNat < 2 ^ 64 ∧
    wrap (unwrap n isn checkpoint.toNat) isn = n ∧
    forall other : UInt64, wrap other.toNat isn = n ->
      Nat.dist checkpoint.toNat (unwrap n isn checkpoint.toNat) ≤
        Nat.dist checkpoint.toNat other.toNat

/-- The inputs on which the guard `(checkpoint >> 32) > 1` keeps `unwrap`
from stepping back a block: the checkpoint lies in the second block and the
offset is more than half a block further into its own block. -/
def MissesStepBack (n isn : WrappingInt32) (checkpoint : Nat) : Prop :=
  checkpoint >>> 32 = 1 ∧ checkpoint % 2 ^ 32 + 2 ^ 31 < n.offset isn

theorem unwrapsToNearest_iff_nearest (n isn : WrappingInt32) (checkpoint : UInt64) :
    UnwrapsToNearest n isn checkpoint <->
      Nearest (2 ^ 32) (2 ^ 64) checkpoint.toNat (unwrap n isn checkpoint.toNat) := by
  have bounded : checkpoint.toNat < 2 ^ 64 := UInt64.toNat_lt checkpoint
  have residue := unwrap_mod n isn checkpoint.toNat
  constructor
  · rintro ⟨_, _, closest⟩ other otherBounded same
    have transmitted : wrap (UInt64.ofNat other).toNat isn = n := by
      rw [UInt64.toNat_ofNat_of_lt' otherBounded]
      exact (wrap_eq_iff other n isn).mpr (same.trans residue)
    have close := closest (UInt64.ofNat other) transmitted
    rwa [UInt64.toNat_ofNat_of_lt' otherBounded] at close
  · intro nearest
    refine ⟨unwrap_lt n isn bounded, wrap_unwrap n isn _, ?_⟩
    intro other transmitted
    exact nearest other.toNat (UInt64.toNat_lt other)
      (((wrap_eq_iff _ n isn).mp transmitted).trans residue.symm)

/-- Away from the missing step back, the block correction of `unwrap` leaves
a number within half a block of the checkpoint, except at the two ends of the
64-bit range where no other candidate exists on that side. -/
theorem nearest_unwrap_of_not_missesStepBack (n isn : WrappingInt32) {checkpoint : Nat}
    (regular : ¬ MissesStepBack n isn checkpoint) :
    Nearest (2 ^ 32) (2 ^ 64) checkpoint (unwrap n isn checkpoint) := by
  have bound := n.offset_lt isn
  simp only [MissesStepBack, Nat.shiftRight_eq_div_pow] at regular
  by_cases close : 2 * Nat.dist checkpoint (unwrap n isn checkpoint) ≤ 2 ^ 32
  · exact nearest_of_half close
  · unfold Nat.dist at close
    by_cases below : unwrap n isn checkpoint ≤ checkpoint
    · apply nearest_of_greatest _ below
      rw [unwrap_eq] at *
      split_ifs at * <;> omega
    · apply nearest_of_least _ (Nat.le_of_not_le below)
      rw [unwrap_eq] at *
      split_ifs at * <;> omega

theorem not_nearest_unwrap_of_missesStepBack (n isn : WrappingInt32) {checkpoint : Nat}
    (bounded : checkpoint < 2 ^ 64) (misses : MissesStepBack n isn checkpoint) :
    ¬ Nearest (2 ^ 32) (2 ^ 64) checkpoint (unwrap n isn checkpoint) := by
  have bound := n.offset_lt isn
  simp only [MissesStepBack, Nat.shiftRight_eq_div_pow] at misses
  apply not_nearest_of_far_above (unwrap_lt n isn bounded) (by decide)
  · rw [unwrap_eq]
    split_ifs <;> omega
  · rw [unwrap_eq]
    split_ifs <;> omega

/-- Unwrapping undoes wrapping near the checkpoint exactly where it returns
the nearest number: the original is a candidate within half a block. -/
theorem unwrap_wrap_eq_iff_nearest {value checkpoint : Nat} (isn : WrappingInt32)
    (valueBounded : value < 2 ^ 64) (close : Nat.dist value checkpoint < 2 ^ 31) :
    unwrap (wrap value isn) isn checkpoint = value <->
      Nearest (2 ^ 32) (2 ^ 64) checkpoint (unwrap (wrap value isn) isn checkpoint) := by
  have near : 2 * Nat.dist checkpoint value < 2 ^ 32 := by
    rw [Nat.dist_comm]
    omega
  have same : value ≡ unwrap (wrap value isn) isn checkpoint [MOD 2 ^ 32] := by
    unfold Nat.ModEq
    rw [unwrap_mod, offset_wrap]
  constructor
  · intro equal
    rw [equal]
    exact nearest_of_half (Nat.le_of_lt near)
  · intro nearest
    have closest := nearest value valueBounded same
    exact (eq_of_modEq_of_close same (by omega) near).symm

/-- `unwrap` is the nearest-representative inverse of `wrap`, and undoes it
within half a block of the checkpoint, exactly when the step back to the
first block is not the one that is missing. -/
theorem unwrap_nearest_iff (n isn : WrappingInt32) (checkpoint : UInt64) :
    (UnwrapsToNearest n isn checkpoint <-> ¬ MissesStepBack n isn checkpoint.toNat) ∧
      forall value : UInt64, Nat.dist value.toNat checkpoint.toNat < 2 ^ 31 ->
        (unwrap (wrap value.toNat isn) isn checkpoint.toNat = value.toNat <->
          ¬ MissesStepBack (wrap value.toNat isn) isn checkpoint.toNat) := by
  have bounded : checkpoint.toNat < 2 ^ 64 := UInt64.toNat_lt checkpoint
  have exactly (m : WrappingInt32) :
      Nearest (2 ^ 32) (2 ^ 64) checkpoint.toNat (unwrap m isn checkpoint.toNat) <->
        ¬ MissesStepBack m isn checkpoint.toNat := by
    constructor
    · intro nearest misses
      exact not_nearest_unwrap_of_missesStepBack m isn bounded misses nearest
    · exact nearest_unwrap_of_not_missesStepBack m isn
  constructor
  · exact (unwrapsToNearest_iff_nearest n isn checkpoint).trans (exactly n)
  · intro value close
    exact (unwrap_wrap_eq_iff_nearest isn (UInt64.toNat_lt value) close).trans (exactly _)

/-- With checkpoint `2 ^ 32`, the number just below it is recovered one
whole block too high. -/
theorem unwrap_second_block_too_high :
    ¬ UnwrapsToNearest ⟨4294967295⟩ ⟨0⟩ 4294967296 ∧
      Nat.dist (4294967295 : UInt64).toNat (4294967296 : UInt64).toNat < 2 ^ 31 ∧
      unwrap (wrap 4294967295 ⟨0⟩) ⟨0⟩ 4294967296 = 8589934591 := by
  refine ⟨?_, by decide, by decide⟩
  rintro ⟨_, _, closest⟩
  exact absurd (closest 4294967295 (by decide)) (by decide)

end Tcp
end Sponge
