import Sponge.Foundation.OnesComplement

namespace Sponge
namespace Wire

open Foundation

/-!
# The Internet checksum

The sum is kept in 32 bits and folded to 16 only when its value is asked for.
As long as it does not run over, it is the sum of the 16-bit words of
everything added, wherever the pieces were cut, and a message that carries its
own checksum at an even place has the value zero.
-/

/-- The Internet checksum algorithm. -/
structure InternetChecksum where
  sum : UInt32 := 0
  parity : Bool := false
deriving DecidableEq, Repr

namespace InternetChecksum

def new (initialSum : UInt32) : InternetChecksum where
  sum := initialSum

def addByte (check : InternetChecksum) (byte : UInt8) : InternetChecksum where
  sum := check.sum + (if check.parity then byte.toUInt16 else byte.toUInt16 <<< 8).toUInt32
  parity := !check.parity

def add (check : InternetChecksum) (data : List UInt8) : InternetChecksum :=
  data.foldl addByte check

/-- The folding loop of `value`, with a bound on its rounds. -/
def foldLoop : Nat -> UInt32 -> UInt32
  | 0, ret => ret
  | rounds + 1, ret =>
      if ret > 0xffff then foldLoop rounds ((ret >>> 16) + (ret &&& 0xffff)) else ret

/-- A round makes the sum smaller, so there are fewer rounds than it counts. -/
def value (check : InternetChecksum) : UInt16 :=
  (~~~ foldLoop check.sum.toNat check.sum).toUInt16

/-- Where the data is cut makes no difference. -/
theorem add_append (check : InternetChecksum) (first second : List UInt8) :
    check.add (first ++ second) = (check.add first).add second :=
  List.foldl_append

theorem addByte_term (check : InternetChecksum) (byte : UInt8) :
    (if check.parity then byte.toUInt16 else byte.toUInt16 <<< 8).toUInt32.toNat =
      if check.parity then byte.toNat else byte.toNat * 256 := by
  have bound := byte.toNat_lt
  split
  · simp
  · simp [Nat.shiftLeft_eq]
    omega

/-- The sum does not run over while the words' sum fits. -/
theorem add_sum (check : InternetChecksum) (data : List UInt8)
    (fits : check.sum.toNat + wordSum check.parity data < 2 ^ 32) :
    (check.add data).sum.toNat = check.sum.toNat + wordSum check.parity data := by
  induction data generalizing check with
  | nil => simp [add, wordSum]
  | cons byte data ih =>
      have term := check.addByte_term byte
      have here : (check.addByte byte).sum.toNat =
          check.sum.toNat + if check.parity then byte.toNat else byte.toNat * 256 := by
        unfold addByte
        rw [UInt32.toNat_add, term]
        simp only [wordSum] at fits
        apply Nat.mod_eq_of_lt
        omega
      have rest := ih (check.addByte byte)
      change ((check.addByte byte).add data).sum.toNat = _
      simp only [wordSum] at fits ⊢
      rw [rest]
      · rw [here]
        change _ + wordSum (!check.parity) data = _
        omega
      · rw [here]
        change _ + wordSum (!check.parity) data < 2 ^ 32
        omega

/-- One round of the folding: the two halves of a word, added. -/
theorem halves_toNat (word : UInt32) :
    ((word >>> 16) + (word &&& 0xffff)).toNat = word.toNat / 65536 + word.toNat % 65536 := by
  have bound := word.toNat_lt
  have upper : (word >>> 16).toNat = word.toNat / 65536 := by
    rw [UInt32.toNat_shiftRight]
    exact Nat.shiftRight_eq_div_pow _ 16
  have lower : (word &&& 0xffff).toNat = word.toNat % 65536 := by
    rw [UInt32.toNat_and]
    exact Nat.and_two_pow_sub_one_eq_mod word.toNat 16
  rw [UInt32.toNat_add, upper, lower]
  apply Nat.mod_eq_of_lt
  omega

/-- The loop ends, and folds every carry. -/
theorem foldLoop_toNat (rounds : Nat) (ret : UInt32) (enough : ret.toNat ≤ rounds + 65535) :
    (foldLoop rounds ret).toNat = carryFold ret.toNat := by
  induction rounds generalizing ret with
  | zero =>
      have below : ret.toNat ≤ 65535 := by omega
      exact (carryFold_of_le below).symm
  | succ rounds ih =>
      unfold foldLoop
      split
      · rename_i large
        have above : 65535 < ret.toNat := large
        have folded := halves_toNat ret
        rw [ih _ (by omega), folded, carryFold_carry]
      · rename_i small
        have below : ret.toNat ≤ 65535 := Nat.le_of_not_lt small
        exact (carryFold_of_le below).symm

theorem value_toNat (check : InternetChecksum) :
    check.value.toNat = 65535 - carryFold check.sum.toNat := by
  have folded := foldLoop_toNat check.sum.toNat check.sum (Nat.le_add_right _ _)
  have small := carryFold_le check.sum.toNat
  unfold value
  rw [UInt32.toNat_toUInt16, UInt32.toNat_not, folded]
  simp only [UInt32.size]
  omega

/-- A message with its own checksum at an even place has the value zero. -/
theorem value_of_sealed (initialSum : UInt32) {before : List UInt8} (after : List UInt8)
    (even : before.length % 2 = 0)
    (fits : initialSum.toNat + 65280 * (before.length + 2 + after.length) < 2 ^ 32) :
    let cksum := ((new initialSum).add (before ++ (bigEndian 2 0 ++ after))).value
    ((new initialSum).add (before ++ (bigEndian 2 cksum.toNat ++ after))).value = 0 := by
  intro cksum
  have words (number : Nat) : wordSum false (before ++ (bigEndian 2 number ++ after)) =
      wordSum false before + (number % 65536 + wordSum false after) := by
    rw [wordSum_append_even false _ even, wordSum_append_even false after
      (by rw [bigEndian_length]), wordSum_bigEndian]
  have inside (number : Nat) :
      initialSum.toNat + wordSum false (before ++ (bigEndian 2 number ++ after)) < 2 ^ 32 := by
    have bound := wordSum_le false (before ++ (bigEndian 2 number ++ after))
    simp only [List.length_append, bigEndian_length] at bound
    omega
  have sealed : cksum.toNat = 65535 -
      carryFold (initialSum.toNat + (wordSum false before + wordSum false after)) := by
    have zero := words 0
    rw [Nat.zero_mod, Nat.zero_add] at zero
    change (InternetChecksum.value _).toNat = _
    rw [value_toNat, add_sum _ _ (inside 0)]
    change 65535 - carryFold (initialSum.toNat + wordSum false _) = _
    rw [zero]
  apply UInt16.toNat_inj.mp
  rw [value_toNat, add_sum _ _ (inside cksum.toNat)]
  change 65535 - carryFold (initialSum.toNat + wordSum false _) = 0
  have filled : initialSum.toNat +
      (wordSum false before + (cksum.toNat % 65536 + wordSum false after)) =
        initialSum.toNat + (wordSum false before + wordSum false after) +
          (65535 - carryFold (initialSum.toNat + (wordSum false before + wordSum false after))) := by
    rw [← sealed, Nat.mod_eq_of_lt cksum.toNat_lt]
    omega
  rw [words, filled, carryFold_complement, Nat.sub_self]

end InternetChecksum
end Wire
end Sponge
