import Sponge.Foundation.OnesComplement

namespace Sponge
namespace Foundation

/-!
# Bursts and sums of words

A burst alters one byte or two neighbouring ones.  It changes the sum of the words modulo
`2 ^ 16 - 1`, wherever it stands in them, unless it turns two zero bytes into all ones or
back.  These two words are the same number in one's complement.
-/

/-- Two neighbouring bytes are altered, but not from all zeros to all ones or back. -/
inductive Burst : List UInt8 -> List UInt8 -> Prop
  | here (bytes : List UInt8) {first second other another : UInt8}
      (differs : first ≠ other ∨ second ≠ another)
      (notFilled : ¬ (first = 0 ∧ second = 0 ∧ other = 255 ∧ another = 255))
      (notCleared : ¬ (first = 255 ∧ second = 255 ∧ other = 0 ∧ another = 0)) :
      Burst (first :: second :: bytes) (other :: another :: bytes)
  | later (byte : UInt8) {sent received : List UInt8} (burst : Burst sent received) :
      Burst (byte :: sent) (byte :: received)

/-- The words have different sums, however the bytes are paired. -/
def Apart (sent received : List UInt8) : Prop :=
  forall low : Bool, ¬ wordSum low received ≡ wordSum low sent [MOD 65535]

theorem Apart.cons {sent received : List UInt8} (apart : Apart sent received) (byte : UInt8) :
    Apart (byte :: sent) (byte :: received) :=
  fun low same => apart (!low) (Nat.ModEq.add_left_cancel' _ same)

/-- One byte is too small to make up for itself. -/
theorem byte_apart (bytes : List UInt8) {first other : UInt8} (differs : first ≠ other) :
    Apart (first :: bytes) (other :: bytes) := by
  have unequal : first.toNat ≠ other.toNat := fun same => differs (UInt8.toNat_inj.mp same)
  have bound := first.toNat_lt
  have otherBound := other.toNat_lt
  intro low same
  have kept : (if low then other.toNat else other.toNat * 256) ≡
      (if low then first.toNat else first.toNat * 256) [MOD 65535] :=
    Nat.ModEq.add_right_cancel' _ same
  unfold Nat.ModEq at kept
  cases low with
  | true =>
      simp only [if_true] at kept
      omega
  | false =>
      simp only [Bool.false_eq_true, if_false] at kept
      omega

/-- Only two words stand for the same number. -/
theorem eq_of_word_modEq {word other : Nat} (small : word ≤ 65535) (otherSmall : other ≤ 65535)
    (same : other ≡ word [MOD 65535]) :
    word = other ∨ word = 0 ∧ other = 65535 ∨ word = 65535 ∧ other = 0 := by
  unfold Nat.ModEq at same
  omega

/-- Two bytes make up a word, or the halves of two. -/
theorem pair_apart (bytes : List UInt8) {first second other another : UInt8}
    (differs : first ≠ other ∨ second ≠ another)
    (notFilled : ¬ (first = 0 ∧ second = 0 ∧ other = 255 ∧ another = 255))
    (notCleared : ¬ (first = 255 ∧ second = 255 ∧ other = 0 ∧ another = 0)) :
    Apart (first :: second :: bytes) (other :: another :: bytes) := by
  simp only [ne_eq, ← UInt8.toNat_inj] at differs notFilled notCleared
  change ¬ (_ = 0 ∧ _ = 0 ∧ _ = 255 ∧ _ = 255) at notFilled
  change ¬ (_ = 255 ∧ _ = 255 ∧ _ = 0 ∧ _ = 0) at notCleared
  have firstBound := first.toNat_lt
  have secondBound := second.toNat_lt
  have otherBound := other.toNat_lt
  have anotherBound := another.toNat_lt
  intro low same
  simp only [wordSum, ← Nat.add_assoc] at same
  have kept := Nat.ModEq.add_right_cancel' _ same
  cases low with
  | true =>
      simp only [Bool.not_true, Bool.false_eq_true, if_true, if_false] at kept
      have words := eq_of_word_modEq (by omega) (by omega) kept
      omega
  | false =>
      simp only [Bool.not_false, Bool.false_eq_true, if_true, if_false] at kept
      have words := eq_of_word_modEq (by omega) (by omega) kept
      omega

theorem Burst.apart {sent received : List UInt8} (burst : Burst sent received) :
    Apart sent received := by
  induction burst with
  | here bytes differs notFilled notCleared => exact pair_apart bytes differs notFilled notCleared
  | later byte burst ih => exact ih.cons byte

theorem Burst.length_eq {sent received : List UInt8} (burst : Burst sent received) :
    received.length = sent.length := by
  induction burst with
  | here bytes differs notFilled notCleared => rfl
  | later byte burst ih => exact congrArg (· + 1) ih

/-- Behind some place there is the burst, or the rest of it, or nothing altered. -/
theorem Burst.drop {sent received : List UInt8} (burst : Burst sent received) (place : Nat) :
    received.drop place = sent.drop place ∨ Apart (sent.drop place) (received.drop place) := by
  induction burst generalizing place with
  | @here bytes first second other another differs notFilled notCleared =>
      match place with
      | 0 => exact Or.inr (pair_apart bytes differs notFilled notCleared)
      | 1 =>
          by_cases same : second = another
          · exact Or.inl (congrArg (· :: bytes) same.symm)
          · exact Or.inr (byte_apart bytes same)
      | place + 2 => exact Or.inl rfl
  | later byte burst ih =>
      match place with
      | 0 => exact Or.inr (burst.apart.cons byte)
      | place + 1 => exact ih place

/-- A sum that is complete is a multiple of all ones. -/
theorem modEq_of_carryFold {sum : Nat} (complete : carryFold sum = 65535) :
    sum ≡ 0 [MOD 65535] := by
  unfold carryFold at complete
  unfold Nat.ModEq
  split at complete
  · omega
  · omega

end Foundation
end Sponge
