import Sponge.Wire.DatagramFormat

namespace Sponge
namespace Wire

open Foundation

/-!
# The checksum of data in pieces

A segment is summed up in pieces, behind the sum of the pseudo-header, and the
pieces may have odd lengths.  The value is the complement of the one's-complement
sum of all of it, the initial sum as two words and the bytes padded at their end.
Datagrams are shorter than 65536 bytes, and that keeps the 32 bits of the sum
from running over.
-/

namespace InternetChecksum

/-- Add pieces one after the other. -/
def addChunks (check : InternetChecksum) (chunks : List (List UInt8)) : InternetChecksum :=
  chunks.foldl add check

theorem addChunks_eq (check : InternetChecksum) (chunks : List (List UInt8)) :
    check.addChunks chunks = check.add chunks.flatten := by
  induction chunks generalizing check with
  | nil => rfl
  | cons chunk chunks ih =>
      rw [List.flatten_cons, add_append]
      exact ih (check.add chunk)

/-- The sum that a checksum starts with, in words. -/
def initialWords (initialSum : UInt32) : List UInt16 :=
  [(initialSum >>> 16).toUInt16, initialSum.toUInt16]

theorem initialWords_toNat (initialSum : UInt32) :
    ((initialSum >>> 16).toUInt16).toNat = initialSum.toNat / 65536 ∧
      initialSum.toUInt16.toNat = initialSum.toNat % 65536 := by
  have bound := initialSum.toNat_lt
  refine ⟨?_, UInt32.toNat_toUInt16 initialSum⟩
  rw [UInt32.toNat_toUInt16, UInt32.toNat_shiftRight]
  change initialSum.toNat >>> 16 % 65536 = _
  rw [Nat.shiftRight_eq_div_pow]
  omega

/-- Splitting the initial sum into words is one carry. -/
theorem onesSum_initialWords (initialSum : UInt32) (words : List UInt16) :
    (onesSum (initialWords initialSum ++ words)).toNat =
      carryFold (initialSum.toNat + (words.map UInt16.toNat).sum) := by
  rcases initialWords_toNat initialSum with ⟨upper, lower⟩
  have split : initialSum.toNat / 65536 + (initialSum.toNat % 65536 +
      (words.map UInt16.toNat).sum) = (words.map UInt16.toNat).sum +
        (initialSum.toNat / 65536 + initialSum.toNat % 65536) := by omega
  rw [onesSum_toNat]
  simp only [initialWords, List.cons_append, List.nil_append, List.map_cons, List.sum_cons, upper,
    lower]
  rw [split, ← carryFold_add, carryFold_carry, carryFold_add, Nat.add_comm]

/-- The value of what has not run over is the complement of the words' sum. -/
theorem value_eq_onesSum (initialSum : UInt32) (bytes : List UInt8)
    (fits : initialSum.toNat + wordSum false bytes < 2 ^ 32) :
    ((new initialSum).add bytes).value =
      ~~~ onesSum (initialWords initialSum ++ paddedWords bytes) := by
  have sum : ((new initialSum).add bytes).sum.toNat = initialSum.toNat + wordSum false bytes :=
    add_sum (new initialSum) bytes fits
  apply UInt16.toNat_inj.mp
  rw [value_toNat, sum, UInt16.toNat_not, onesSum_initialWords, paddedWords_sum]
  rfl

/-- The folding loop ends within any number of rounds that the sum does not exceed. -/
theorem foldLoop_ends (sum : UInt32) {rounds : Nat} (enough : sum.toNat ≤ rounds) :
    foldLoop rounds sum = foldLoop sum.toNat sum ∧ foldLoop rounds sum ≤ 0xffff := by
  have folded := foldLoop_toNat rounds sum (Nat.le_trans enough (Nat.le_add_right _ _))
  have bounded := foldLoop_toNat sum.toNat sum (Nat.le_add_right _ _)
  refine ⟨UInt32.toNat_inj.mp (folded.trans bounded.symm), ?_⟩
  rw [UInt32.le_iff_toNat_le, folded]
  exact carryFold_le _

/-- The sums that the callers start with: none, or that of a pseudo-header. -/
def Initial (initialSum : UInt32) : Prop :=
  initialSum = 0 ∨ Exists fun header : IPv4Header => initialSum = header.pseudoCksum

theorem Initial.toNat_le {initialSum : UInt32} (initial : Initial initialSum) :
    initialSum.toNat ≤ 6 * 65535 := by
  rcases initial with rfl | ⟨header, rfl⟩
  · exact Nat.zero_le _
  · exact header.pseudoCksum_le

theorem Initial.fits {initialSum : UInt32} (initial : Initial initialSum) {bytes : List UInt8}
    (short : bytes.length ≤ 65535) :
    initialSum.toNat + 65280 * bytes.length < 2 ^ 32 := by
  have small := initial.toNat_le
  omega

theorem Initial.sum_fits {initialSum : UInt32} (initial : Initial initialSum)
    {bytes : List UInt8} (short : bytes.length ≤ 65535) :
    initialSum.toNat + wordSum false bytes < 2 ^ 32 :=
  Nat.lt_of_le_of_lt (Nat.add_le_add_left (wordSum_le false bytes) _) (initial.fits short)

/-- However data of at most 65535 bytes is cut into pieces: the sum never runs over,
the folding ends, the value is the complement of the words' one's-complement sum,
and putting it in the place of a zero word makes the value of the whole zero. -/
theorem checksum_of_chunks (initialSum : UInt32) (initial : Initial initialSum)
    (chunks : List (List UInt8)) (short : chunks.flatten.length ≤ 65535) :
    (forall before piece rest, chunks.flatten = List.flatten before ++ (piece ++ rest) ->
      (((new initialSum).addChunks before).add piece).sum.toNat =
        initialSum.toNat + wordSum false (before.flatten ++ piece)) ∧
    (forall rounds, ((new initialSum).addChunks chunks).sum.toNat ≤ rounds ->
      foldLoop rounds ((new initialSum).addChunks chunks).sum =
          foldLoop ((new initialSum).addChunks chunks).sum.toNat
            ((new initialSum).addChunks chunks).sum ∧
        foldLoop rounds ((new initialSum).addChunks chunks).sum ≤ 0xffff) ∧
    ((new initialSum).addChunks chunks).value =
      ~~~ onesSum (initialWords initialSum ++ paddedWords chunks.flatten) ∧
    forall before after sealed, chunks.flatten = before ++ (0 :: 0 :: after) ->
      before.length % 2 = 0 ->
      List.flatten sealed = before ++
        (bigEndian 2 ((new initialSum).addChunks chunks).value.toNat ++ after) ->
      ((new initialSum).addChunks sealed).value = 0 := by
  refine ⟨?_, ?_, ?_, ?_⟩
  · intro before piece rest cut
    have part : (before.flatten ++ piece).length ≤ 65535 := by
      rw [cut, ← List.append_assoc, List.length_append] at short
      omega
    rw [addChunks_eq, ← add_append]
    exact add_sum (new initialSum) _ (initial.sum_fits part)
  · intro rounds enough
    exact foldLoop_ends _ enough
  · rw [addChunks_eq]
    exact value_eq_onesSum initialSum chunks.flatten (initial.sum_fits short)
  · intro before after sealed cut even filled
    have zeros : bigEndian 2 0 ++ after = 0 :: 0 :: after := rfl
    have fits := initial.fits short
    rw [cut] at fits
    simp only [List.length_append, List.length_cons] at fits
    rw [addChunks_eq, cut, ← zeros] at filled
    rw [addChunks_eq, filled]
    exact value_of_sealed initialSum after even (by omega)

theorem checksum_of_odd_chunks :
    ((new 0).addChunks [[0x12], [0x34, 0, 0], [0xff]]).value =
        ~~~ onesSum (initialWords 0 ++ paddedWords [0x12, 0x34, 0, 0, 0xff]) ∧
      ((new 0).addChunks [[0x12, 0x34, 0xee], [0xca], [0xff]]).value = 0 := by
  rcases checksum_of_chunks 0 (Or.inl rfl) [[0x12], [0x34, 0, 0], [0xff]] (by decide) with
    ⟨_, _, value, seals⟩
  refine ⟨value, ?_⟩
  exact seals [0x12, 0x34] [0xff] [[0x12, 0x34, 0xee], [0xca], [0xff]] (by decide) (by decide)
    (by decide +kernel)

end InternetChecksum
end Wire
end Sponge
