import Sponge.Foundation.Bursts
import Sponge.Wire.Chunks
import Sponge.Wire.Decoding
import Sponge.Wire.Latching

namespace Sponge
namespace Wire

open Foundation Tcp

/-!
# Damaged datagrams

The checksum of a segment also covers the addresses, the protocol and the length of its
datagram.  So a burst either makes it wrong, or stands where it does no harm, with one
exception.  The header length says where the segment begins, and `IPv4Datagram::parse` does
not look at the checksum of the header.
-/

/-! ## Checksums -/

theorem modEq_of_verifies {initialSum : UInt32} {bytes : List UInt8}
    (fits : initialSum.toNat + wordSum false bytes < 2 ^ 32)
    (verifies : Verifies initialSum bytes) :
    initialSum.toNat + wordSum false bytes ≡ 0 [MOD 65535] := by
  have zero := congrArg UInt16.toNat verifies
  rw [InternetChecksum.value_toNat, InternetChecksum.add_sum _ _ fits] at zero
  have small := carryFold_le (initialSum.toNat + wordSum false bytes)
  change 65535 - carryFold (initialSum.toNat + wordSum false bytes) = 0 at zero
  exact modEq_of_carryFold (by omega)

/-- Two checksums with the same initial sum do not both come out. -/
theorem not_verifies_of_apart {initialSum : UInt32}
    (initial : InternetChecksum.Initial initialSum) {sent received : List UInt8}
    (short : sent.length ≤ 65535) (otherShort : received.length ≤ 65535)
    (apart : Apart sent received) (verifies : Verifies initialSum sent) :
    ¬ Verifies initialSum received := by
  intro accepted
  have first := modEq_of_verifies (initial.sum_fits short) verifies
  have second := modEq_of_verifies (initial.sum_fits otherShort) accepted
  exact apart false (Nat.ModEq.add_left_cancel' _ (second.trans first.symm))

/-- A segment whose checksum is wrong is not taken. -/
theorem segment_parse_refused {initialSum : UInt32} {bytes : List UInt8}
    (fails : ¬ Verifies initialSum bytes) (other : TCPSegment) :
    other.parse bytes initialSum = .ok (other, .badChecksum) :=
  if_pos fails

/-! ## What a segment's checksum covers -/

/-- A number in four bytes is two words. -/
theorem wordSum_four {four : List UInt8} (length : four.length = 4) :
    fromBigEndian 0 four / 65536 + fromBigEndian 0 four % 65536 = wordSum false four := by
  match four, length with
  | [first, second, third, fourth], _ =>
      have bound := second.toNat_lt
      have thirdBound := third.toNat_lt
      have fourthBound := fourth.toNat_lt
      simp only [fromBigEndian_cons, fromBigEndian_nil, wordSum, Bool.not_false, Bool.not_true,
        Bool.false_eq_true, if_true, if_false]
      omega

theorem IPv4Header.pseudoCksum_toNat (header : IPv4Header) :
    header.pseudoCksum.toNat = (header.src.toNat / 65536 + header.src.toNat % 65536) +
      (header.dst.toNat / 65536 + header.dst.toNat % 65536) + header.proto.toNat +
        header.payloadLength.toNat := by
  have source := header.src.toNat_lt
  have destination := header.dst.toNat_lt
  have proto := header.proto.toNat_lt
  have payload := header.payloadLength.toNat_lt
  unfold pseudoCksum
  dsimp only
  rw [UInt32.toNat_add, UInt32.toNat_add, UInt32.toNat_add, InternetChecksum.halves_toNat,
    InternetChecksum.halves_toNat, UInt8.toNat_toUInt32, UInt16.toNat_toUInt32]
  omega

/-- The number in four bytes that a parser has in front. -/
theorem peek_four {bytes : List UInt8} {widths : List Nat} (enough : widths.sum + 4 ≤ bytes.length) :
    (UInt32.ofNat ((NetParser.skips ⟨bytes, .noError⟩ widths).peek 4)).toNat =
      fromBigEndian 0 ((bytes.drop widths.sum).take 4) := by
  have before := (NetParser.consumed_skips ⟨bytes, .noError⟩ widths).eq_of_le (by omega)
  have there : 4 ≤ (bytes.drop widths.sum).length := by
    rw [List.length_drop]
    omega
  rw [before, NetParser.peek_of_le there]
  exact UInt32.toNat_ofNat_of_lt' (field_lt bytes widths.sum 4)

/-- Everything from the addresses on is covered, and the protocol and the length. -/
theorem covered_sum {bytes : List UInt8} (long : 20 ≤ bytes.length) :
    (fieldsAhead ⟨bytes, .noError⟩).pseudoCksum.toNat + wordSum false (bytes.drop 20) =
      wordSum false (bytes.drop 12) + (fieldsAhead ⟨bytes, .noError⟩).proto.toNat +
        (fieldsAhead ⟨bytes, .noError⟩).payloadLength.toNat := by
  have four (place : Nat) (inside : place + 4 ≤ bytes.length) :
      ((bytes.drop place).take 4).length = 4 := by
    rw [List.length_take, List.length_drop]
    omega
  have source : (fieldsAhead ⟨bytes, .noError⟩).src.toNat =
      fromBigEndian 0 ((bytes.drop 12).take 4) :=
    @peek_four bytes [1, 1, 2, 2, 2, 1, 1, 2] (Nat.le_trans (by decide) long)
  have destination : (fieldsAhead ⟨bytes, .noError⟩).dst.toNat =
      fromBigEndian 0 ((bytes.drop 16).take 4) :=
    @peek_four bytes [1, 1, 2, 2, 2, 1, 1, 2, 4] (Nat.le_trans (by decide) long)
  have addresses : wordSum false (bytes.drop 12) = wordSum false ((bytes.drop 12).take 4) +
      (wordSum false ((bytes.drop 16).take 4) + wordSum false (bytes.drop 20)) := by
    have cut : bytes.drop 12 =
        (bytes.drop 12).take 4 ++ ((bytes.drop 16).take 4 ++ bytes.drop 20) := by
      have inner : bytes.drop 20 = (bytes.drop 16).drop 4 := by rw [List.drop_drop]
      have outer : bytes.drop 16 = (bytes.drop 12).drop 4 := by rw [List.drop_drop]
      rw [inner, List.take_append_drop, outer, List.take_append_drop]
    rw [← wordSum_append_even false _ (by rw [four 16 (by omega)]),
      ← wordSum_append_even false _ (by rw [four 12 (by omega)]), ← cut]
  rw [IPv4Header.pseudoCksum_toNat, source, destination, wordSum_four (four 12 (by omega)),
    wordSum_four (four 16 (by omega)), addresses]
  omega

/-! ## Datagrams without options -/

/-- Whatever is found in it, the header is what stands in front.  Without options its twenty
bytes are taken off. -/
theorem fieldTests_taken {bytes : List UInt8} (long : 20 ≤ bytes.length) :
    Exists fun result => Exists fun rest =>
      fieldTests bytes (fieldsAhead ⟨bytes, .noError⟩) (behindFields ⟨bytes, .noError⟩) =
          .ok (fieldsAhead ⟨bytes, .noError⟩, result, rest) ∧
        (headerLength bytes = 5 -> rest = ⟨bytes.drop 20, .noError⟩) := by
  rcases fieldsAhead_eq long with ⟨ver, hlen, len⟩
  by_cases delimited : Delimited bytes
  · rcases fieldTests_of_delimited delimited ver hlen len (behindFields_consumed bytes) with
      ⟨result, tested⟩
    refine ⟨result, _, tested, fun plain => ?_⟩
    rw [plain]
  · rcases fieldTests_of_not_delimited (p := behindFields ⟨bytes, .noError⟩) delimited ver hlen
      len with ⟨result, tested⟩
    exact ⟨result, _, tested, fun _ => (behindFields_consumed bytes).eq_of_le long⟩

/-- What a header without options is parsed to, and what is left behind it. -/
theorem datagram_parse_plain {bytes : List UInt8} (long : 20 ≤ bytes.length)
    (plain : headerLength bytes = 5) :
    IPv4Datagram.parse {} bytes =
      .ok ({ header := fieldsAhead ⟨bytes, .noError⟩, payload := .ofBuffer (bytes.drop 20) },
        if bytes.length - 20 = (fieldsAhead ⟨bytes, .noError⟩).payloadLength.toNat then .noError
        else .packetTooShort) := by
  rcases fieldTests_taken long with ⟨result, rest, taken, behind⟩
  rw [← fields_parse_eq {} (p := ⟨bytes, .noError⟩) long, behind plain] at taken
  have parsed := datagram_parse_eq {} taken
  rw [List.length_drop] at parsed
  exact parsed

/-- A datagram without options that carries a segment. -/
structure Holds (bytes : List UInt8) (segment : TCPSegment) : Prop where
  plain : headerLength bytes = 5
  short : bytes.length ≤ 65535
  carries : Exists fun datagram => IPv4Datagram.parse {} bytes = .ok (datagram, .noError) ∧
    TCPOverIPv4Adapter.Carries datagram segment

/-- What such a datagram looks like. -/
theorem Holds.parts {bytes : List UInt8} {segment : TCPSegment} (holds : Holds bytes segment) :
    20 ≤ bytes.length ∧
      (fieldsAhead ⟨bytes, .noError⟩).payloadLength.toNat = bytes.length - 20 ∧
      (fieldsAhead ⟨bytes, .noError⟩).proto = IPv4Header.protoTcp ∧
      TCPSegment.parse {} (bytes.drop 20) (fieldsAhead ⟨bytes, .noError⟩).pseudoCksum =
        .ok (segment, .noError) := by
  rcases holds.carries with ⟨datagram, parsed, proto, payload, single, inner⟩
  have long : 20 ≤ bytes.length := by
    by_contra short
    exact datagram_parse_short (Nat.lt_of_not_le short) datagram parsed
  rw [datagram_parse_plain long holds.plain] at parsed
  rcases Prod.mk.inj (Except.ok.inj parsed) with ⟨rfl, clean⟩
  cases single
  refine ⟨long, ?_, proto, inner⟩
  by_contra other
  rw [if_neg (Ne.symm other)] at clean
  cases clean

theorem Holds.sum {bytes : List UInt8} {segment : TCPSegment} (holds : Holds bytes segment) :
    wordSum false (bytes.drop 12) + IPv4Header.protoTcp.toNat + (bytes.length - 20) ≡ 0
      [MOD 65535] := by
  rcases holds.parts with ⟨long, payload, proto, inner⟩
  have short : (bytes.drop 20).length ≤ 65535 := by
    have whole := holds.short
    rw [List.length_drop]
    omega
  have initial : InternetChecksum.Initial (fieldsAhead ⟨bytes, .noError⟩).pseudoCksum :=
    Or.inr ⟨_, rfl⟩
  have covered := modEq_of_verifies (initial.sum_fits short) (verifies_of_accepted inner)
  rwa [covered_sum long, payload, proto] at covered

/-- Two datagrams of the same length that carry segments carry the same one, if the bytes from
the addresses on are the same or apart. -/
theorem Holds.same {bytes others : List UInt8} {segment taken : TCPSegment}
    (holds : Holds bytes segment) (other : Holds others taken)
    (length : others.length = bytes.length)
    (damage : others.drop 12 = bytes.drop 12 ∨ Apart (bytes.drop 12) (others.drop 12)) :
    taken = segment := by
  rcases damage with equal | apart
  · rcases holds.parts with ⟨long, payload, proto, inner⟩
    rcases other.parts with ⟨otherLong, otherPayload, otherProto, otherInner⟩
    have rest : others.drop 20 = bytes.drop 20 := by
      rw [← List.drop_drop (i := 8) (j := 12), equal, List.drop_drop]
    have sums := covered_sum long
    have otherSums := covered_sum otherLong
    rw [equal, rest, otherPayload, otherProto, length] at otherSums
    rw [payload, proto] at sums
    have pseudo : (fieldsAhead ⟨others, .noError⟩).pseudoCksum =
        (fieldsAhead ⟨bytes, .noError⟩).pseudoCksum := by
      apply UInt32.toNat_inj.mp
      omega
    rw [rest, pseudo, inner] at otherInner
    cases otherInner
    rfl
  · have sums := holds.sum
    have otherSums := other.sum
    rw [length] at otherSums
    have both := otherSums.trans sums.symm
    exact absurd (Nat.ModEq.add_right_cancel' _ (Nat.ModEq.add_right_cancel' _ both)) (apart false)

end Wire
end Sponge
