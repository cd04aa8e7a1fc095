import Mathlib.Data.Nat.Dist
import Mathlib.Data.Nat.ModEq
import Mathlib.Tactic.Common

namespace Sponge
namespace Foundation

/-!
# Nearest representatives of a residue class

A counter that is transmitted modulo `modulus` is recovered as the member of
its residue class closest to a known target.  Members of one class are at
least a modulus apart, so a member within half a modulus of the target is
closest.  Near the two ends of a bounded range a member can be closest
although it is further away, because its neighbour lies outside the range.
-/

/-- No member of the residue class of `value` below `limit` is strictly
closer to the target. -/
def Nearest (modulus limit target value : Nat) : Prop :=
  forall other, other < limit -> other ≡ value [MOD modulus] ->
    Nat.dist target value ≤ Nat.dist target other

theorem modEq_apart {modulus value other : Nat} (same : other ≡ value [MOD modulus])
    (different : other ≠ value) : other + modulus ≤ value ∨ value + modulus ≤ other := by
  rcases Nat.lt_or_gt_of_ne different with below | above
  · exact Or.inl (same.add_le_of_lt below)
  · exact Or.inr (same.symm.add_le_of_lt above)

theorem nearest_of_half {modulus limit target value : Nat}
    (close : 2 * Nat.dist target value ≤ modulus) : Nearest modulus limit target value := by
  intro other _ same
  by_cases equal : other = value
  · rw [equal]
  · have apart := modEq_apart same equal
    unfold Nat.dist at *
    omega

/-- The least member of a class is nearest to every target below it. -/
theorem nearest_of_least {modulus limit target value : Nat} (least : value < modulus)
    (above : target ≤ value) : Nearest modulus limit target value := by
  intro other _ same
  by_cases equal : other = value
  · rw [equal]
  · have apart := modEq_apart same equal
    unfold Nat.dist
    omega

/-- The greatest member of a class within the range is nearest to every
target above it. -/
theorem nearest_of_greatest {modulus limit target value : Nat}
    (greatest : limit ≤ value + modulus) (below : value ≤ target) :
    Nearest modulus limit target value := by
  intro other bounded same
  by_cases equal : other = value
  · rw [equal]
  · have apart := modEq_apart same equal
    unfold Nat.dist
    omega

/-- A representative more than half a modulus above its target is not
nearest once a whole modulus can be taken away. -/
theorem not_nearest_of_far_above {modulus limit target value : Nat} (bounded : value < limit)
    (positive : 0 < modulus) (room : modulus ≤ value)
    (far : modulus < 2 * (value - target)) : ¬ Nearest modulus limit target value := by
  intro nearest
  have same : value - modulus ≡ value [MOD modulus] := (Nat.mod_eq_sub_mod room).symm
  have closer := nearest (value - modulus) (by omega) same
  unfold Nat.dist at closer
  omega

/-- Two members of one class that are both closer than half a modulus to
the target are equal. -/
theorem eq_of_modEq_of_close {modulus target value other : Nat}
    (same : other ≡ value [MOD modulus]) (first : 2 * Nat.dist target value < modulus)
    (second : 2 * Nat.dist target other < modulus) : other = value := by
  by_contra different
  have apart := modEq_apart same different
  unfold Nat.dist at first second
  omega

end Foundation
end Sponge
