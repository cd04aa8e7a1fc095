import Sponge.Wire.DatagramFormat
import Sponge.Wire.SegmentFormat

namespace Sponge
namespace Wire

open Foundation Bytes Tcp

/-!
# What decoding undoes, and what it accepts

A serialized segment or datagram is read back as it was, but for its checksum.
The converse is not covered by the tests: what is accepted need not be
something that could have been written.  Both headers report some errors by
their result only, and neither `TCPSegment::parse` nor `IPv4Datagram::parse`
looks at it.  For each of the two the byte strings that are accepted and should
not be are named by the fields they carry.
-/

/-! ## Round trips -/

/-- **Decoding a segment undoes encoding it.**  With any pseudo-header and any
place for options, the segment that is read back is the one that was written,
with the checksum that was computed for it. -/
theorem segment_decode_encode (segment other : TCPSegment) (header : IPv4Header)
    (large : 5 ≤ segment.header.doff) (small : segment.header.doff ≤ 15)
    (fits : 4 * segment.header.doff.toNat + segment.payload.length ≤ 65535) :
    Exists fun buffers => Exists fun received =>
      segment.serialize header.pseudoCksum = .ok buffers ∧
      other.parse buffers.concatenate header.pseudoCksum = .ok (received, .noError) ∧
      received.payload = segment.payload ∧
      received.header =
        { segment.header with cksum := segment.computedChecksum header.pseudoCksum } := by
  have pseudo := header.pseudoCksum_le
  rcases segment.serialize_concatenated header.pseudoCksum large with ⟨buffers, serialized, bytes⟩
  have parsed := segment.parse_checksummed other header.pseudoCksum large small (by omega)
  rw [← bytes] at parsed
  exact ⟨buffers, segment.checksummed header.pseudoCksum, serialized, parsed, rfl, rfl⟩

/-- A segment with an option word, all flags and an odd payload. -/
theorem segment_decode_encode_options :
    let segment : TCPSegment :=
      { header :=
          { sport := 1000, dport := 80, seqno := ⟨7⟩, ackno := ⟨9⟩, doff := 6, urg := true,
            ack := true, psh := true, rst := true, syn := true, fin := true, win := 500, uptr := 3 }
        payload := [1, 2, 3] }
    let header : IPv4Header := { len := 47, src := 0x0a000001, dst := 0x0a000002 }
    Exists fun buffers => Exists fun received =>
      segment.serialize header.pseudoCksum = .ok buffers ∧
      TCPSegment.parse {} buffers.concatenate header.pseudoCksum = .ok (received, .noError) ∧
      received.payload = segment.payload ∧
      received.header =
        { segment.header with cksum := segment.computedChecksum header.pseudoCksum } := by
  intro segment header
  exact segment_decode_encode segment {} header (by decide) (by decide) (by decide)

/-- **Decoding a datagram undoes encoding it.**  The payload may be given in any
number of buffers.  The header that is read back is the one that was written,
but for the checksum, and passes the checksum test of its own parser. -/
theorem datagram_decode_encode (datagram other : IPv4Datagram) (version : datagram.header.ver = 4)
    (large : 5 ≤ datagram.header.hlen) (small : datagram.header.hlen ≤ 15)
    (offset : datagram.header.offset < 8192)
    (whole : datagram.header.len.toNat = 4 * datagram.header.hlen.toNat + datagram.payload.size) :
    Exists fun buffers => Exists fun arrived =>
      datagram.serialize = .ok buffers ∧
      other.parse buffers.concatenate = .ok (arrived, .noError) ∧
      arrived.payload.concatenate = datagram.payload.concatenate ∧
      arrived.header = { datagram.header with cksum := arrived.header.cksum } ∧
      other.header.parse ⟨buffers.concatenate, .noError⟩ =
        .ok (arrived.header, .noError, ⟨arrived.payload.concatenate, .noError⟩) := by
  have regular : datagram.Regular := ⟨⟨version, large, small, offset⟩, whole⟩
  rcases regular.serialize_concatenated with ⟨buffers, serialized, bytes⟩
  have parsed := regular.parse_checksummed other
  have header := regular.header.checksummed.parse_serialized other.header
    datagram.payload.concatenate (by rw [← BufferList.size_eq]; exact whole)
    regular.header.checksummed_verifies
  have single : (BufferList.ofBuffer datagram.payload.concatenate).concatenate =
      datagram.payload.concatenate := by
    rw [BufferList.concatenate_eq]
    exact List.flatten_singleton
  rw [← bytes] at parsed header
  refine ⟨buffers, _, serialized, parsed, single, rfl, ?_⟩
  rw [single]
  exact header

/-- A fragment with options, its payload in two buffers. -/
theorem datagram_decode_encode_fragment :
    let datagram : IPv4Datagram :=
      { header := { hlen := 7, len := 33, df := false, mf := true, offset := 100, proto := 17 }
        payload := ⟨[[1, 2, 3], [4, 5]]⟩ }
    Exists fun buffers => Exists fun arrived =>
      datagram.serialize = .ok buffers ∧
      IPv4Datagram.parse {} buffers.concatenate = .ok (arrived, .noError) ∧
      arrived.payload.concatenate = [1, 2, 3, 4, 5] ∧
      arrived.header = { datagram.header with cksum := arrived.header.cksum } := by
  intro datagram
  rcases datagram_decode_encode datagram {} rfl (by decide) (by decide) (by decide) rfl with
    ⟨buffers, arrived, serialized, parsed, payload, header, _⟩
  exact ⟨buffers, arrived, serialized, parsed, payload, header⟩

/-! ## What a segment's parser accepts -/

/-- The number in the given bytes of a buffer. -/
def field (bytes : List UInt8) (place width : Nat) : Nat :=
  fromBigEndian 0 ((bytes.drop place).take width)

/-- The data offset that a segment's bytes give, in words. -/
def dataOffset (bytes : List UInt8) : Nat :=
  field bytes 12 1 / 16

/-- The bytes, with the sum of the pseudo-header, pass the checksum test. -/
def Verifies (initialSum : UInt32) (bytes : List UInt8) : Prop :=
  ((InternetChecksum.new initialSum).add bytes).value = 0

instance (initialSum : UInt32) (bytes : List UInt8) : Decidable (Verifies initialSum bytes) :=
  inferInstanceAs (Decidable (_ = _))

theorem field_lt (bytes : List UInt8) (place width : Nat) :
    field bytes place width < 256 ^ width := by
  have bound : fromBigEndian 0 ((bytes.drop place).take width) <
      256 ^ (0 + ((bytes.drop place).take width).length) :=
    fromBigEndian_lt _ Nat.zero_lt_one
  refine Nat.lt_of_lt_of_le bound (Nat.pow_le_pow_right (Nat.succ_pos 255) ?_)
  rw [Nat.zero_add]
  exact List.length_take_le _ _

/-- The upper half of a byte that was read. -/
theorem upperHalf_toNat {byte : Nat} (small : byte < 256) :
    (UInt8.ofNat byte >>> 4).toNat = byte / 16 := by
  rw [UInt8.toNat_shiftRight, UInt8.toNat_ofNat']
  change (byte % 256) >>> 4 = _
  rw [Nat.shiftRight_eq_div_pow]
  omega

/-- The lower half of a byte that was read. -/
theorem lowerHalf_toNat (byte : Nat) :
    (UInt8.ofNat byte &&& 0x0f).toNat = byte % 16 := by
  rw [UInt8.toNat_and, UInt8.toNat_ofNat']
  change (byte % 256) &&& 15 = _
  rw [Nat.and_two_pow_sub_one_eq_mod _ 4]
  omega

/-- The header that a parser has in front. -/
def headerAhead (p : NetParser) : TCPHeader :=
  let flB := UInt8.ofNat ((p.skips [2, 2, 4, 4, 1]).peek 1)
  { sport := UInt16.ofNat (p.peek 2)
    dport := UInt16.ofNat ((p.skips [2]).peek 2)
    seqno := ⟨UInt32.ofNat ((p.skips [2, 2]).peek 4)⟩
    ackno := ⟨UInt32.ofNat ((p.skips [2, 2, 4]).peek 4)⟩
    doff := UInt8.ofNat ((p.skips [2, 2, 4, 4]).peek 1) >>> 4
    urg := flB &&& 0b00100000 != 0
    ack := flB &&& 0b00010000 != 0
    psh := flB &&& 0b00001000 != 0
    rst := flB &&& 0b00000100 != 0
    syn := flB &&& 0b00000010 != 0
    fin := flB &&& 0b00000001 != 0
    win := UInt16.ofNat ((p.skips [2, 2, 4, 4, 1, 1]).peek 2)
    cksum := UInt16.ofNat ((p.skips [2, 2, 4, 4, 1, 1, 2]).peek 2)
    uptr := UInt16.ofNat ((p.skips [2, 2, 4, 4, 1, 1, 2, 2]).peek 2) }

/-- The parser behind the fields of a header. -/
def behindHeader (p : NetParser) : NetParser :=
  p.skips [2, 2, 4, 4, 1, 1, 2, 2, 2]

theorem behindHeader_consumed (bytes : List UInt8) :
    NetParser.Consumed ⟨bytes, .noError⟩ 20 (behindHeader ⟨bytes, .noError⟩) :=
  NetParser.consumed_skips _ [2, 2, 4, 4, 1, 1, 2, 2, 2]

/-- The fields are read one after the other.  A data offset that is too small
is reported in the result only; otherwise the result is the parser's error. -/
theorem header_parse_eq (p : NetParser) :
    TCPHeader.parse p = .ok (headerAhead p,
      if (headerAhead p).doff < 5 then (.headerTooShort, behindHeader p)
      else
        let rest := (behindHeader p).skip ((headerAhead p).doff.toNat * 4 - TCPHeader.length)
        (rest.error, rest)) := by
  unfold TCPHeader.parse
  simp only [NetParser.u16_eq, NetParser.u32_eq, NetParser.u8_eq, NetParser.removePrefix_eq, bind,
    Except.bind, pure, Except.pure, headerAhead, behindHeader, NetParser.skips, List.foldl_cons,
    List.foldl_nil]
  by_cases small : UInt8.ofNat (((((p.skip 2).skip 2).skip 4).skip 4).peek 1) >>> 4 < 5
  · simp only [small, if_true]
  · simp only [small, if_false]
    split
    · rfl
    · rename_i fine
      have clean := not_not.mp (mt (NetParser.hasError_iff _).mpr fine)
      rw [clean]

/-- A buffer that is too short for a header leaves an error in the parser and
is reported. -/
theorem header_parse_short {bytes : List UInt8} (short : bytes.length < 20) :
    Exists fun header => Exists fun result => Exists fun p =>
      TCPHeader.parse ⟨bytes, .noError⟩ = .ok (header, result, p) ∧
        result ≠ .noError ∧ p.error ≠ .noError := by
  have consumed := behindHeader_consumed bytes
  rw [header_parse_eq]
  generalize behindHeader ⟨bytes, .noError⟩ = behind at consumed ⊢
  have failed : ¬ behind.error = .noError := by
    intro clean
    have enough := (consumed.error_iff.mp clean).2
    exact Nat.not_le_of_lt short enough
  have broken (n : Nat) : ¬ (behind.skip n).error = .noError := by
    intro clean
    have enough := ((consumed.skip n).error_iff.mp clean).2
    exact Nat.not_le_of_lt short (Nat.le_trans (Nat.le_add_right _ _) enough)
  split
  · exact ⟨_, _, _, rfl, nofun, failed⟩
  · exact ⟨_, _, _, rfl, broken _, broken _⟩

theorem headerAhead_doff {bytes : List UInt8} (long : 20 ≤ bytes.length) :
    (headerAhead ⟨bytes, .noError⟩).doff.toNat = dataOffset bytes := by
  have consumed := NetParser.consumed_skips ⟨bytes, .noError⟩ [2, 2, 4, 4]
  have before : NetParser.skips ⟨bytes, .noError⟩ [2, 2, 4, 4] = ⟨bytes.drop 12, .noError⟩ :=
    consumed.eq_of_le (Nat.le_trans (by decide) long)
  have there : 1 ≤ (bytes.drop 12).length := by
    rw [List.length_drop]
    omega
  unfold headerAhead dataOffset
  dsimp only
  rw [before, NetParser.peek_of_le there]
  exact upperHalf_toNat (field_lt bytes 12 1)

/-- A buffer with room for a header: what is done depends on its data offset. -/
theorem header_parse_long {bytes : List UInt8} (long : 20 ≤ bytes.length) :
    Exists fun header => Exists fun result => Exists fun p =>
      TCPHeader.parse ⟨bytes, .noError⟩ = .ok (header, result, p) ∧
        (dataOffset bytes < 5 -> result = .headerTooShort ∧ p = ⟨bytes.drop 20, .noError⟩) ∧
        (5 ≤ dataOffset bytes -> result = p.error ∧
          NetParser.Consumed ⟨bytes, .noError⟩ (4 * dataOffset bytes) p) := by
  have consumed := behindHeader_consumed bytes
  have offset := headerAhead_doff long
  have below : (headerAhead ⟨bytes, .noError⟩).doff < 5 <-> dataOffset bytes < 5 := by
    rw [← offset]
    exact UInt8.lt_iff_toNat_lt
  rw [header_parse_eq]
  split
  · rename_i small
    refine ⟨_, _, _, rfl, fun _ => ⟨rfl, consumed.eq_of_le long⟩, fun large => ?_⟩
    exact absurd (below.mp small) (Nat.not_lt_of_le large)
  · rename_i large
    refine ⟨_, _, _, rfl, fun small => absurd (below.mpr small) large, fun large => ⟨rfl, ?_⟩⟩
    have rest := consumed.skip ((headerAhead ⟨bytes, .noError⟩).doff.toNat * 4 - TCPHeader.length)
    have total : 20 + ((headerAhead ⟨bytes, .noError⟩).doff.toNat * 4 - TCPHeader.length) =
        4 * dataOffset bytes := by
      rw [offset]
      unfold TCPHeader.length
      omega
    rwa [total] at rest

/-- The bytes of a segment that should be accepted. -/
structure WellFormedSegment (datagramLayerChecksum : UInt32) (bytes : List UInt8) : Prop where
  verifies : Verifies datagramLayerChecksum bytes
  header_le : 20 ≤ bytes.length
  offset_ge : 5 ≤ dataOffset bytes
  offset_le : 4 * dataOffset bytes ≤ bytes.length

/-- If the bytes are accepted, they are well formed, the payload is what follows
the header, and the header's own parser reports no error. -/
def AcceptsSoundly (datagramLayerChecksum : UInt32) (bytes : List UInt8) : Prop :=
  forall (other segment : TCPSegment),
    other.parse bytes datagramLayerChecksum = .ok (segment, .noError) ->
      WellFormedSegment datagramLayerChecksum bytes ∧
      segment.payload = bytes.drop (4 * dataOffset bytes) ∧
      Exists fun header => Exists fun p =>
        TCPHeader.parse ⟨bytes, .noError⟩ = .ok (header, .noError, p)

/-- A segment's parser looks at the checksum and then at the parser's error. -/
theorem segment_parse_eq (other : TCPSegment) {datagramLayerChecksum : UInt32}
    {bytes : List UInt8} (verifies : Verifies datagramLayerChecksum bytes) {header : TCPHeader}
    {result : ParseResult} {p : NetParser}
    (parsed : TCPHeader.parse ⟨bytes, .noError⟩ = .ok (header, result, p)) :
    other.parse bytes datagramLayerChecksum =
      .ok ({ header := header, payload := p.buffer }, p.error) := by
  unfold Verifies at verifies
  unfold TCPSegment.parse
  rw [if_neg (not_not_intro verifies), parsed]
  rfl

theorem verifies_of_accepted {other segment : TCPSegment} {datagramLayerChecksum : UInt32}
    {bytes : List UInt8}
    (accepted : other.parse bytes datagramLayerChecksum = .ok (segment, .noError)) :
    Verifies datagramLayerChecksum bytes := by
  by_contra fails
  unfold Verifies at fails
  unfold TCPSegment.parse at accepted
  rw [if_pos fails] at accepted
  cases accepted

/-- **What a segment's parser accepts.**  Accepted bytes are well formed unless
they pass the checksum test, have room for a header and give a data offset below
five.  Such bytes are accepted, with everything behind the twentieth as payload. -/
theorem segment_parse_sound_iff (datagramLayerChecksum : UInt32) (bytes : List UInt8) :
    AcceptsSoundly datagramLayerChecksum bytes <->
      ¬ (Verifies datagramLayerChecksum bytes ∧ 20 ≤ bytes.length ∧ dataOffset bytes < 5) := by
  constructor
  · rintro sound ⟨verifies, long, small⟩
    rcases header_parse_long long with ⟨header, result, p, parsed, reports, _⟩
    have accepted := segment_parse_eq {} verifies parsed
    rw [(reports small).2] at accepted
    exact Nat.not_lt_of_le (sound {} _ accepted).1.offset_ge small
  · intro proper other segment accepted
    have verifies := verifies_of_accepted accepted
    by_cases long : 20 ≤ bytes.length
    · have large : 5 ≤ dataOffset bytes :=
        Nat.le_of_not_lt (fun small => proper ⟨verifies, long, small⟩)
      rcases header_parse_long long with ⟨header, result, p, parsed, _, reports⟩
      rcases reports large with ⟨same, consumed⟩
      rw [segment_parse_eq other verifies parsed] at accepted
      rcases Prod.mk.inj (Except.ok.inj accepted) with ⟨segment_eq, clean⟩
      refine ⟨⟨verifies, long, large, (consumed.error_iff.mp clean).2⟩, ?_, header, p, ?_⟩
      · rw [← segment_eq]
        exact consumed.buffer_eq clean
      · rw [parsed, same, clean]
    · rcases header_parse_short (Nat.lt_of_not_le long) with ⟨header, result, p, parsed, _, failed⟩
      rw [segment_parse_eq other verifies parsed] at accepted
      exact absurd (Prod.mk.inj (Except.ok.inj accepted)).2 failed

/-- A segment without any header length: the result of the header's parser is
not looked at. -/
theorem segment_parse_accepts_short_offset :
    let header : IPv4Header := { len := 40 }
    let bytes : List UInt8 := [0xff, 0xe5] ++ List.replicate 18 0
    TCPSegment.parse {} bytes header.pseudoCksum =
        .ok ({ header := { sport := 0xffe5, doff := 0 } }, .noError) ∧
      (TCPHeader.parse ⟨bytes, .noError⟩).map (fun parsed => parsed.2.1) =
        .ok .headerTooShort ∧
      ¬ AcceptsSoundly header.pseudoCksum bytes := by
  intro header bytes
  refine ⟨by decide +kernel, by decide +kernel, ?_⟩
  intro sound
  have accepted : TCPSegment.parse {} bytes header.pseudoCksum =
      .ok ({ header := { sport := 0xffe5, doff := 0 } }, .noError) := by decide +kernel
  have large := (sound {} _ accepted).1.offset_ge
  revert large
  decide +kernel

/-! ## What a datagram's parser accepts -/

/-- The version that a datagram's bytes give. -/
def version (bytes : List UInt8) : Nat :=
  field bytes 0 1 / 16

/-- The header length that a datagram's bytes give, in words. -/
def headerLength (bytes : List UInt8) : Nat :=
  field bytes 0 1 % 16

/-- The total length that a datagram's bytes give. -/
def totalLength (bytes : List UInt8) : Nat :=
  field bytes 2 2

/-- The fields of a datagram's header that a parser has in front. -/
def fieldsAhead (p : NetParser) : IPv4Header :=
  let first := UInt8.ofNat (p.peek 1)
  let fo := UInt16.ofNat ((p.skips [1, 1, 2, 2]).peek 2)
  { ver := first >>> 4
    hlen := first &&& 0x0f
    tos := UInt8.ofNat ((p.skips [1]).peek 1)
    len := UInt16.ofNat ((p.skips [1, 1]).peek 2)
    id := UInt16.ofNat ((p.skips [1, 1, 2]).peek 2)
    df := fo &&& 0x4000 != 0
    mf := fo &&& 0x2000 != 0
    offset := fo &&& 0x1fff
    ttl := UInt8.ofNat ((p.skips [1, 1, 2, 2, 2]).peek 1)
    proto := UInt8.ofNat ((p.skips [1, 1, 2, 2, 2, 1]).peek 1)
    cksum := UInt16.ofNat ((p.skips [1, 1, 2, 2, 2, 1, 1]).peek 2)
    src := UInt32.ofNat ((p.skips [1, 1, 2, 2, 2, 1, 1, 2]).peek 4)
    dst := UInt32.ofNat ((p.skips [1, 1, 2, 2, 2, 1, 1, 2, 4]).peek 4) }

/-- The parser behind the fields of a datagram's header. -/
def behindFields (p : NetParser) : NetParser :=
  p.skips [1, 1, 2, 2, 2, 1, 1, 2, 4, 4]

/-- What the header's parser tests before it takes the options off. -/
structure Delimited (bytes : List UInt8) : Prop where
  header_le : 4 * headerLength bytes ≤ bytes.length
  version_eq : version bytes = 4
  header_ge : 5 ≤ headerLength bytes
  length_eq : bytes.length = totalLength bytes

/-- The bytes of a datagram that should be accepted. -/
structure WellFormedDatagram (bytes : List UInt8) : Prop extends Delimited bytes where
  fields_le : 20 ≤ bytes.length
  verifies : Verifies 0 (bytes.take (4 * headerLength bytes))

/-- Exactly the well-formed bytes are accepted, and the payload is what follows
the header. -/
def AcceptsExactly (bytes : List UInt8) : Prop :=
  ((Exists fun datagram => IPv4Datagram.parse {} bytes = .ok (datagram, .noError)) <->
    WellFormedDatagram bytes) ∧
  forall datagram, IPv4Datagram.parse {} bytes = .ok (datagram, .noError) ->
    datagram.payload.concatenate = bytes.drop (4 * headerLength bytes)

theorem fieldsAhead_eq {bytes : List UInt8} (long : 20 ≤ bytes.length) :
    (fieldsAhead ⟨bytes, .noError⟩).ver.toNat = version bytes ∧
      (fieldsAhead ⟨bytes, .noError⟩).hlen.toNat = headerLength bytes ∧
      (fieldsAhead ⟨bytes, .noError⟩).len.toNat = totalLength bytes := by
  have first : NetParser.peek ⟨bytes, .noError⟩ 1 = field bytes 0 1 :=
    NetParser.peek_of_le (Nat.le_trans (by decide) long)
  have before : NetParser.skips ⟨bytes, .noError⟩ [1, 1] = ⟨bytes.drop 2, .noError⟩ :=
    (NetParser.consumed_skips ⟨bytes, .noError⟩ [1, 1]).eq_of_le (Nat.le_trans (by decide) long)
  have there : 2 ≤ (bytes.drop 2).length := by
    rw [List.length_drop]
    omega
  unfold fieldsAhead
  dsimp only
  rw [first, before, NetParser.peek_of_le there]
  exact ⟨upperHalf_toNat (field_lt bytes 0 1), lowerHalf_toNat _,
    UInt16.toNat_ofNat_of_lt' (field_lt bytes 2 2)⟩

theorem behindFields_consumed (bytes : List UInt8) :
    NetParser.Consumed ⟨bytes, .noError⟩ 20 (behindFields ⟨bytes, .noError⟩) :=
  NetParser.consumed_skips _ [1, 1, 2, 2, 2, 1, 1, 2, 4, 4]

/-- The payload's length is computed in sixteen bits. -/
theorem fieldsAhead_payloadLength {bytes : List UInt8} (long : 20 ≤ bytes.length) :
    (fieldsAhead ⟨bytes, .noError⟩).payloadLength.toNat =
      (totalLength bytes + 65536 - 4 * headerLength bytes) % 65536 := by
  rcases fieldsAhead_eq long with ⟨_, hlen, len⟩
  have small : headerLength bytes < 16 := Nat.mod_lt _ (by decide)
  have four : (4 * (fieldsAhead ⟨bytes, .noError⟩).hlen.toUInt16).toNat =
      4 * headerLength bytes := by
    rw [UInt16.toNat_mul, UInt8.toNat_toUInt16, hlen]
    change 4 * headerLength bytes % 65536 = _
    omega
  have order : 2 ^ 16 - 4 * headerLength bytes + totalLength bytes =
      totalLength bytes + 65536 - 4 * headerLength bytes := by
    omega
  unfold IPv4Header.payloadLength
  rw [UInt16.toNat_sub, four, len, order]

/-- What the header's parser does behind the fields. -/
def fieldTests (bytes : List UInt8) (header : IPv4Header) (p : NetParser) :
    Except WireFault (IPv4Header × ParseResult × NetParser) :=
  if bytes.length < 4 * header.hlen.toNat then .ok (header, .packetTooShort, p)
  else if header.ver ≠ 4 then .ok (header, .wrongIPVersion, p)
  else if header.hlen < 5 then .ok (header, .headerTooShort, p)
  else if bytes.length ≠ header.len.toNat then .ok (header, .truncatedPacket, p)
  else
    let p := p.skip (header.hlen.toNat * 4 - IPv4Header.length)
    if p.hasError then .ok (header, p.error, p)
    else if ((InternetChecksum.new 0).add (bytes.take (4 * header.hlen.toNat))).value ≠ 0 then
      .ok (header, .badChecksum, p)
    else .ok (header, .noError, p)

theorem fields_parse_eq (other : IPv4Header) {p : NetParser} (long : 20 ≤ p.buffer.length) :
    other.parse p = fieldTests p.buffer (fieldsAhead p) (behindFields p) := by
  have room : ¬ p.buffer.length < IPv4Header.length := Nat.not_lt_of_le long
  unfold IPv4Header.parse
  simp only [if_neg room, NetParser.u16_eq, NetParser.u32_eq, NetParser.u8_eq,
    NetParser.removePrefix_eq, bind, Except.bind, pure, Except.pure, fieldTests, fieldsAhead,
    behindFields, NetParser.skips, List.foldl_cons, List.foldl_nil]
  repeat' split
  all_goals simp only [*, ne_eq, not_false_eq_true, Bool.false_eq_true, if_true, if_false]

/-- Bytes that are delimited have their options taken off, and the parser has no
error. -/
theorem fieldTests_of_delimited {bytes : List UInt8} {header : IPv4Header} {p : NetParser}
    (delimited : Delimited bytes) (ver : header.ver.toNat = version bytes)
    (hlen : header.hlen.toNat = headerLength bytes) (len : header.len.toNat = totalLength bytes)
    (consumed : NetParser.Consumed ⟨bytes, .noError⟩ 20 p) :
    Exists fun result => fieldTests bytes header p =
      .ok (header, result, ⟨bytes.drop (4 * headerLength bytes), .noError⟩) := by
  have enough := delimited.header_ge
  have room := delimited.header_le
  have rest := consumed.skip (header.hlen.toNat * 4 - IPv4Header.length)
  have total : 20 + (header.hlen.toNat * 4 - IPv4Header.length) = 4 * headerLength bytes := by
    unfold IPv4Header.length
    omega
  rw [total] at rest
  have four : header.ver = 4 := UInt8.toNat_inj.mp (ver.trans delimited.version_eq)
  have large : ¬ header.hlen < 5 := by
    rw [UInt8.lt_iff_toNat_lt, hlen]
    exact Nat.not_lt_of_le enough
  unfold fieldTests
  rw [if_neg (by omega), if_neg (not_not_intro four), if_neg large,
    if_neg (by rw [len]; exact not_not_intro delimited.length_eq), rest.eq_of_le room]
  dsimp only
  rw [if_neg (by simp [NetParser.hasError])]
  split
  · exact ⟨_, rfl⟩
  · exact ⟨_, rfl⟩

/-- Other bytes only have their fields taken off. -/
theorem fieldTests_of_not_delimited {bytes : List UInt8} {header : IPv4Header} {p : NetParser}
    (strange : ¬ Delimited bytes) (ver : header.ver.toNat = version bytes)
    (hlen : header.hlen.toNat = headerLength bytes) (len : header.len.toNat = totalLength bytes) :
    Exists fun result => fieldTests bytes header p = .ok (header, result, p) := by
  unfold fieldTests
  split
  · exact ⟨_, rfl⟩
  · rename_i room
    split
    · exact ⟨_, rfl⟩
    · rename_i four
      split
      · exact ⟨_, rfl⟩
      · rename_i large
        split
        · exact ⟨_, rfl⟩
        · rename_i whole
          refine absurd ⟨?_, ?_, ?_, ?_⟩ strange
          · rw [← hlen]
            exact Nat.le_of_not_lt room
          · rw [← ver, not_not.mp four]
            rfl
          · rw [← hlen]
            exact UInt8.not_lt.mp large
          · rw [← len]
            exact not_not.mp whole

/-- A datagram's parser compares the length of what is left with the length of
the payload. -/
theorem datagram_parse_eq (other : IPv4Datagram) {bytes rest : List UInt8} {header : IPv4Header}
    {result : ParseResult}
    (parsed : other.header.parse ⟨bytes, .noError⟩ = .ok (header, result, ⟨rest, .noError⟩)) :
    other.parse bytes =
      .ok ({ header := header, payload := .ofBuffer rest },
        if rest.length = header.payloadLength.toNat then .noError else .packetTooShort) := by
  have size : (BufferList.ofBuffer rest).size = rest.length := by
    rw [BufferList.size_eq, BufferList.concatenate_eq]
    exact congrArg List.length List.flatten_singleton
  unfold IPv4Datagram.parse
  rw [parsed]
  change (if (BufferList.ofBuffer rest).size ≠ header.payloadLength.toNat then _ else _) = _
  rw [size]
  by_cases same : rest.length = header.payloadLength.toNat
  · rw [if_neg (not_not_intro same), if_pos same]
    rfl
  · rw [if_pos same, if_neg same]
    rfl

/-- What a parse of bytes with room for the fields results in. -/
theorem datagram_parse_long (other : IPv4Datagram) {bytes : List UInt8}
    (long : 20 ≤ bytes.length) {n : Nat}
    (taken : Exists fun result =>
      fieldTests bytes (fieldsAhead ⟨bytes, .noError⟩) (behindFields ⟨bytes, .noError⟩) =
        .ok (fieldsAhead ⟨bytes, .noError⟩, result, ⟨bytes.drop n, .noError⟩)) :
    Exists fun datagram => datagram.payload.concatenate = bytes.drop n ∧
      other.parse bytes = .ok (datagram,
        if bytes.length - n = (totalLength bytes + 65536 - 4 * headerLength bytes) % 65536
        then .noError else .packetTooShort) := by
  rcases taken with ⟨result, taken⟩
  rw [← fields_parse_eq other.header (p := ⟨bytes, .noError⟩) long] at taken
  have parsed := datagram_parse_eq other taken
  rw [List.length_drop, fieldsAhead_payloadLength long] at parsed
  refine ⟨_, ?_, parsed⟩
  rw [BufferList.concatenate_eq]
  exact List.flatten_singleton

/-- Malformed bytes that are not accepted are no exception. -/
theorem acceptsExactly_of_rejected {bytes : List UInt8} (malformed : ¬ WellFormedDatagram bytes)
    (rejected : forall datagram, IPv4Datagram.parse {} bytes ≠ .ok (datagram, .noError)) :
    AcceptsExactly bytes := by
  refine ⟨⟨?_, fun formed => absurd formed malformed⟩, ?_⟩
  · rintro ⟨datagram, accepted⟩
    exact absurd accepted (rejected datagram)
  · intro datagram accepted
    exact absurd accepted (rejected datagram)

/-- A fresh header gives a length that too few bytes cannot have. -/
theorem datagram_parse_short {bytes : List UInt8} (short : bytes.length < 20)
    (datagram : IPv4Datagram) : IPv4Datagram.parse {} bytes ≠ .ok (datagram, .noError) := by
  intro accepted
  have parsed : IPv4Header.parse {} ⟨bytes, .noError⟩ =
      .ok ({}, .packetTooShort, ⟨bytes, .noError⟩) := if_pos short
  rw [datagram_parse_eq {} parsed] at accepted
  have clean := (Prod.mk.inj (Except.ok.inj accepted)).2
  have fresh : IPv4Header.payloadLength {} = 65516 := by decide
  rw [fresh, if_neg (fun same => absurd (same ▸ short) (by decide))] at clean
  cases clean

theorem Delimited.fields_le {bytes : List UInt8} (delimited : Delimited bytes) :
    20 ≤ bytes.length := by
  have large := delimited.header_ge
  have room := delimited.header_le
  omega

/-- Delimited bytes are accepted, whatever their checksum. -/
theorem Delimited.acceptsExactly_iff {bytes : List UInt8} (delimited : Delimited bytes) :
    AcceptsExactly bytes <-> Verifies 0 (bytes.take (4 * headerLength bytes)) := by
  have long := delimited.fields_le
  rcases fieldsAhead_eq long with ⟨ver, hlen, len⟩
  rcases datagram_parse_long {} long
      (fieldTests_of_delimited delimited ver hlen len (behindFields_consumed bytes)) with
    ⟨datagram, payload, parsed⟩
  have whole := delimited.length_eq
  have room := delimited.header_le
  have small : totalLength bytes < 65536 := field_lt bytes 2 2
  have agree : bytes.length - 4 * headerLength bytes =
      (totalLength bytes + 65536 - 4 * headerLength bytes) % 65536 := by
    omega
  rw [if_pos agree] at parsed
  constructor
  · intro accepts
    exact (accepts.1.mp ⟨datagram, parsed⟩).verifies
  · intro verifies
    refine ⟨⟨fun _ => ⟨delimited, long, verifies⟩, fun _ => ⟨datagram, parsed⟩⟩, ?_⟩
    intro arrived accepted
    rw [parsed] at accepted
    rw [← (Prod.mk.inj (Except.ok.inj accepted)).1]
    exact payload

/-- Other bytes with room for the fields are accepted if the rest happens to have
the length of the payload. -/
theorem acceptsExactly_iff_of_not_delimited {bytes : List UInt8} (long : 20 ≤ bytes.length)
    (strange : ¬ Delimited bytes) :
    AcceptsExactly bytes <->
      bytes.length - 20 ≠ (totalLength bytes + 65536 - 4 * headerLength bytes) % 65536 := by
  rcases fieldsAhead_eq long with ⟨ver, hlen, len⟩
  have taken := fieldTests_of_not_delimited (p := behindFields ⟨bytes, .noError⟩) strange
    ver hlen len
  nth_rewrite 2 [(behindFields_consumed bytes).eq_of_le long] at taken
  rcases datagram_parse_long {} long taken with ⟨datagram, _, parsed⟩
  constructor
  · intro accepts agree
    rw [if_pos agree] at parsed
    exact strange (accepts.1.mp ⟨datagram, parsed⟩).toDelimited
  · intro apart
    apply acceptsExactly_of_rejected (fun formed => strange formed.toDelimited)
    intro arrived accepted
    rw [parsed, if_neg apart] at accepted
    cases accepted

/-- **What a datagram's parser accepts.**  Exactly the well-formed bytes are
accepted unless the bytes are delimited but fail the checksum test, or they are
not delimited and the lengths agree as if the options had been taken off. -/
theorem datagram_parse_exact_iff (bytes : List UInt8) :
    AcceptsExactly bytes <->
      (Delimited bytes -> Verifies 0 (bytes.take (4 * headerLength bytes))) ∧
      (20 ≤ bytes.length -> ¬ Delimited bytes ->
        bytes.length - 20 ≠ (totalLength bytes + 65536 - 4 * headerLength bytes) % 65536) := by
  by_cases delimited : Delimited bytes
  · rw [delimited.acceptsExactly_iff]
    constructor
    · intro verifies
      exact ⟨fun _ => verifies, fun _ strange => absurd delimited strange⟩
    · intro proper
      exact proper.1 delimited
  · by_cases long : 20 ≤ bytes.length
    · rw [acceptsExactly_iff_of_not_delimited long delimited]
      constructor
      · intro apart
        exact ⟨fun formed => absurd formed delimited, fun _ _ => apart⟩
      · intro proper
        exact proper.2 long delimited
    · have accepts : AcceptsExactly bytes :=
        acceptsExactly_of_rejected (fun formed => delimited formed.toDelimited)
          (datagram_parse_short (Nat.lt_of_not_le long))
      exact iff_of_true accepts
        ⟨fun formed => absurd formed delimited, fun enough => absurd enough long⟩

/-- Twenty bytes with a wrong checksum, and twenty with a wrong version: the result
of the header's parser is not looked at. -/
theorem datagram_parse_accepts_bad_checksum :
    let bytes : List UInt8 := [0x45, 0, 0, 20] ++ List.replicate 16 0
    let foreign : List UInt8 := [0x65, 0, 0, 20] ++ List.replicate 16 0
    (IPv4Datagram.parse {} bytes).map Prod.snd = .ok .noError ∧
      (IPv4Header.parse {} ⟨bytes, .noError⟩).map (fun parsed => parsed.2.1) =
        .ok .badChecksum ∧
      (IPv4Datagram.parse {} foreign).map Prod.snd = .ok .noError ∧
      (IPv4Header.parse {} ⟨foreign, .noError⟩).map (fun parsed => parsed.2.1) =
        .ok .wrongIPVersion ∧
      ¬ AcceptsExactly bytes ∧ ¬ AcceptsExactly foreign := by
  intro bytes foreign
  refine ⟨by decide +kernel, by decide +kernel, by decide +kernel, by decide +kernel, ?_, ?_⟩
  · intro accepts
    have accepted : IPv4Datagram.parse {} bytes =
        .ok ({ header := { len := 20, df := false, ttl := 0, proto := 0 }, payload := ⟨[[]]⟩ },
          .noError) := by decide +kernel
    have verifies := (accepts.1.mp ⟨_, accepted⟩).verifies
    revert verifies
    decide +kernel
  · intro accepts
    have accepted : IPv4Datagram.parse {} foreign =
        .ok ({ header := { ver := 6, len := 20, df := false, ttl := 0, proto := 0 },
               payload := ⟨[[]]⟩ }, .noError) := by decide +kernel
    have four := (accepts.1.mp ⟨_, accepted⟩).version_eq
    revert four
    decide +kernel

end Wire
end Sponge
