import Mathlib.Data.Nat.ModEq
import Mathlib.Tactic.Common

namespace Sponge
namespace Foundation

/-!
# 64-bit arithmetic on naturals

Counters are modelled by naturals.  The few places of a program that rely on
wrap-around use the operations below, which are the unsigned 64-bit ones.
-/

/-- The successor modulo `2 ^ 64`. -/
def succ64 (value : Nat) : Nat :=
  (value + 1) % 2 ^ 64

/-- The difference modulo `2 ^ 64`. -/
def sub64 (value other : Nat) : Nat :=
  (value + (2 ^ 64 - other % 2 ^ 64)) % 2 ^ 64

theorem succ64_of_lt {value : Nat} (bound : value < 2 ^ 64 - 1) :
    succ64 value = value + 1 := by
  unfold succ64
  omega

theorem sub64_lt (value other : Nat) : sub64 value other < 2 ^ 64 :=
  Nat.mod_lt _ (by decide)

theorem sub64_of_le {value other : Nat} (ordered : other ≤ value)
    (bound : value - other < 2 ^ 64) : sub64 value other = value - other := by
  unfold sub64
  omega

theorem succ64_lt (value : Nat) : succ64 value < 2 ^ 64 :=
  Nat.mod_lt _ (by decide)

theorem sub64_eq_zero_iff {value other : Nat} (bound : value < 2 ^ 64)
    (otherBound : other < 2 ^ 64) : sub64 value other = 0 <-> value = other := by
  unfold sub64
  omega

/-- Taking away in two steps, as long as the second fits. -/
theorem sub64_add {value other more : Nat} (fits : more ≤ sub64 value other) :
    sub64 value (other + more) = sub64 value other - more := by
  unfold sub64 at *
  omega

end Foundation
end Sponge
