import Sponge.Foundation.BigEndian

namespace Sponge
namespace Foundation

/-!
# Sums of 16-bit words with end-around carry

Bytes are paired into 16-bit words, the first byte of a pair in the upper
half.  A sum of words is brought back to 16 bits by adding what stands above
them to what stands below.  The result depends on the sum modulo `2 ^ 16 - 1`
only, except that it keeps zero and `2 ^ 16 - 1` apart.  Filling a place that
was zero with the complement of the result makes the result all ones.
-/

/-- The sum of the words that bytes stand for.  The flag tells that the first
byte belongs in the lower half of a word. -/
def wordSum : Bool -> List UInt8 -> Nat
  | _, [] => 0
  | low, byte :: bytes => (if low then byte.toNat else byte.toNat * 256) + wordSum (!low) bytes

/-- The flag behind a number of bytes. -/
def lowAfter (low : Bool) (length : Nat) : Bool :=
  if length % 2 = 0 then low else !low

@[simp] theorem lowAfter_zero (low : Bool) : lowAfter low 0 = low :=
  rfl

theorem lowAfter_succ (low : Bool) (length : Nat) :
    lowAfter low (length + 1) = lowAfter (!low) length := by
  unfold lowAfter
  rcases Nat.mod_two_eq_zero_or_one length with even | odd
  · rw [if_neg (by omega), if_pos even]
  · rw [if_pos (by omega), if_neg (by omega), Bool.not_not]

theorem wordSum_append (low : Bool) (first second : List UInt8) :
    wordSum low (first ++ second) =
      wordSum low first + wordSum (lowAfter low first.length) second := by
  induction first generalizing low with
  | nil => simp [wordSum]
  | cons byte first ih =>
      simp only [List.cons_append, wordSum, List.length_cons, lowAfter_succ, ih]
      omega

/-- Behind whole words the pairing starts anew. -/
theorem wordSum_append_even (low : Bool) {first : List UInt8} (second : List UInt8)
    (even : first.length % 2 = 0) :
    wordSum low (first ++ second) = wordSum low first + wordSum low second := by
  rw [wordSum_append, lowAfter, if_pos even]

theorem wordSum_le (low : Bool) (bytes : List UInt8) :
    wordSum low bytes ≤ 65280 * bytes.length := by
  induction bytes generalizing low with
  | nil => exact Nat.le_refl 0
  | cons byte bytes ih =>
      have bound := byte.toNat_lt
      have rest := ih (!low)
      simp only [wordSum, List.length_cons]
      split
      · omega
      · omega

/-- A number in two bytes is one word. -/
theorem wordSum_bigEndian (value : Nat) : wordSum false (bigEndian 2 value) = value % 65536 := by
  have digits := fromBigEndian_bigEndian 0 2 value
  simpa [bigEndian, wordSum] using digits

/-! ## End-around carry -/

/-- What repeated end-around carry makes of a sum. -/
def carryFold (sum : Nat) : Nat :=
  if sum = 0 then 0 else (sum - 1) % 65535 + 1

theorem carryFold_of_le {sum : Nat} (small : sum ≤ 65535) : carryFold sum = sum := by
  unfold carryFold
  split
  · omega
  · omega

theorem carryFold_le (sum : Nat) : carryFold sum ≤ 65535 := by
  unfold carryFold
  split
  · omega
  · omega

/-- One carry changes nothing of the result. -/
theorem carryFold_carry (sum : Nat) : carryFold (sum / 65536 + sum % 65536) = carryFold sum := by
  unfold carryFold
  split
  · split
    · rfl
    · omega
  · split
    · omega
    · omega

/-- The complement of the result fills the sum up to all ones. -/
theorem carryFold_complement (sum : Nat) :
    carryFold (sum + (65535 - carryFold sum)) = 65535 := by
  by_cases zero : sum = 0
  · simp [carryFold, zero]
  · simp only [carryFold, zero, if_false]
    split
    · omega
    · omega

/-- Carrying early changes nothing of the result. -/
theorem carryFold_add (first second : Nat) :
    carryFold (first + carryFold second) = carryFold (first + second) := by
  by_cases zero : second = 0
  · rw [zero]
    rfl
  · simp only [carryFold, zero, if_false]
    rw [if_neg (by omega), if_neg (by omega)]
    omega

/-! ## One's-complement addition -/

/-- Add two words, the carry out of the upper end coming in at the lower one. -/
def onesAdd (first second : UInt16) : UInt16 :=
  if first.toNat + second.toNat < 65536 then first + second else first + second + 1

/-- The one's-complement sum of words. -/
def onesSum : List UInt16 -> UInt16
  | [] => 0
  | word :: words => onesAdd word (onesSum words)

/-- The words that bytes stand for, with a zero byte behind an odd number. -/
def paddedWords : List UInt8 -> List UInt16
  | [] => []
  | [byte] => [byte.toUInt16 <<< 8]
  | upper :: lower :: bytes => (upper.toUInt16 <<< 8 ||| lower.toUInt16) :: paddedWords bytes

theorem onesAdd_toNat (first second : UInt16) :
    (onesAdd first second).toNat = carryFold (first.toNat + second.toNat) := by
  have bound := first.toNat_lt
  have otherBound := second.toNat_lt
  unfold onesAdd
  split
  · rename_i small
    rw [UInt16.toNat_add, Nat.mod_eq_of_lt small, carryFold_of_le (by omega)]
  · rename_i large
    rw [UInt16.toNat_add, UInt16.toNat_add]
    change ((first.toNat + second.toNat) % 65536 + 1) % 65536 = _
    unfold carryFold
    rw [if_neg (by omega)]
    omega

/-- One's-complement sums are ordinary sums, carried at the end. -/
theorem onesSum_toNat (words : List UInt16) :
    (onesSum words).toNat = carryFold (words.map UInt16.toNat).sum := by
  induction words with
  | nil => rfl
  | cons word words ih =>
      unfold onesSum
      rw [onesAdd_toNat, ih, carryFold_add, List.map_cons, List.sum_cons]

theorem upperByte_toNat (byte : UInt8) : (byte.toUInt16 <<< 8).toNat = byte.toNat * 256 := by
  have bound := byte.toNat_lt
  rw [UInt16.toNat_shiftLeft, UInt8.toNat_toUInt16, Nat.shiftLeft_eq]
  change byte.toNat * 256 % 65536 = _
  omega

theorem pairWord_toNat (upper lower : UInt8) :
    (upper.toUInt16 <<< 8 ||| lower.toUInt16).toNat = upper.toNat * 256 + lower.toNat := by
  have bound := lower.toNat_lt
  rw [UInt16.toNat_or, upperByte_toNat, UInt8.toNat_toUInt16, Nat.mul_comm]
  exact (Nat.two_pow_add_eq_or_of_lt bound upper.toNat).symm

/-- The sum of the bytes' words is the sum of the padded bytes. -/
theorem paddedWords_sum (bytes : List UInt8) :
    ((paddedWords bytes).map UInt16.toNat).sum = wordSum false bytes := by
  induction bytes using paddedWords.induct with
  | case1 => rfl
  | case2 byte =>
      simp only [paddedWords, List.map_cons, List.map_nil, List.sum_cons, List.sum_nil,
        upperByte_toNat, wordSum]
      rfl
  | case3 upper lower bytes ih =>
      simp only [paddedWords, List.map_cons, List.sum_cons, pairWord_toNat, wordSum, ih]
      simp [Nat.add_assoc]

end Foundation
end Sponge
