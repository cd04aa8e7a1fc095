import Mathlib.Data.Nat.ModEq
import Mathlib.Tactic.Common

namespace Sponge
namespace Foundation

/-!
# Numbers as bytes, most significant first

A number of a given width in bytes is written with its most significant byte
first.  Reading what was written gives the number back, modulo what the width
can hold.
-/

/-- The bytes of a number, most significant first. -/
def bigEndian : Nat -> Nat -> List UInt8
  | 0, _ => []
  | width + 1, value => UInt8.ofNat (value / 256 ^ width) :: bigEndian width value

/-- The number that bytes stand for, most significant first, behind a number
already read. -/
def fromBigEndian (total : Nat) (bytes : List UInt8) : Nat :=
  bytes.foldl (fun sum byte => sum * 256 + byte.toNat) total

@[simp] theorem bigEndian_length (width value : Nat) : (bigEndian width value).length = width := by
  induction width with
  | zero => rfl
  | succ width ih => simp [bigEndian, ih]

@[simp] theorem fromBigEndian_nil (total : Nat) : fromBigEndian total [] = total :=
  rfl

@[simp] theorem fromBigEndian_cons (total : Nat) (byte : UInt8) (bytes : List UInt8) :
    fromBigEndian total (byte :: bytes) = fromBigEndian (total * 256 + byte.toNat) bytes :=
  rfl

theorem fromBigEndian_lt {total width : Nat} (bytes : List UInt8) (small : total < 256 ^ width) :
    fromBigEndian total bytes < 256 ^ (width + bytes.length) := by
  induction bytes generalizing total width with
  | nil => exact small
  | cons byte bytes ih =>
      have bound := byte.toNat_lt
      have next : total * 256 + byte.toNat < 256 ^ (width + 1) := by
        rw [Nat.pow_succ]
        omega
      rw [fromBigEndian_cons, List.length_cons, Nat.add_comm bytes.length 1, ← Nat.add_assoc]
      exact ih next

/-- Reading a written number gives it back, behind what was read before. -/
theorem fromBigEndian_bigEndian (total width value : Nat) :
    fromBigEndian total (bigEndian width value) = total * 256 ^ width + value % 256 ^ width := by
  induction width generalizing total with
  | zero => simp [bigEndian, Nat.mod_one]
  | succ width ih =>
      have digit : (UInt8.ofNat (value / 256 ^ width)).toNat = value / 256 ^ width % 256 :=
        UInt8.toNat_ofNat'
      have split : value % 256 ^ (width + 1) =
          value / 256 ^ width % 256 * 256 ^ width + value % 256 ^ width := by
        rw [Nat.pow_succ, Nat.mod_mul, Nat.mul_comm, Nat.add_comm]
      rw [bigEndian, fromBigEndian_cons, ih, digit, split, Nat.pow_succ, Nat.add_mul,
        Nat.mul_assoc, Nat.mul_comm 256, Nat.add_assoc]

end Foundation
end Sponge
