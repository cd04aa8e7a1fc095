import Sponge.Bytes.Assembling
import Sponge.Wire.Checksum
import Sponge.Wire.Parsing

namespace Sponge
namespace Wire

open Foundation Bytes

/-!
# IPv4 datagrams on the wire

The header of a datagram as bytes, with a checksum of its own, and the payload
as a list of buffers.  As in a segment, the place for options is filled with
zeros and skipped, and `IPv4Datagram::parse` looks at the parser's error only.
-/

/-- The header of a datagram, with the defaults of a fresh one. -/
structure IPv4Header where
  ver : UInt8 := 4
  hlen : UInt8 := 5
  tos : UInt8 := 0
  len : UInt16 := 0
  id : UInt16 := 0
  df : Bool := true
  mf : Bool := false
  offset : UInt16 := 0
  ttl : UInt8 := 128
  proto : UInt8 := 6
  cksum : UInt16 := 0
  src : UInt32 := 0
  dst : UInt32 := 0
deriving DecidableEq, Repr

namespace IPv4Header

/-- The length of a header without options. -/
def length : Nat :=
  20

/-- The protocol number of TCP. -/
def protoTcp : UInt8 :=
  6

def firstByte (header : IPv4Header) : UInt8 :=
  (header.ver <<< 4) ||| (header.hlen &&& 0xf)

/-- The flags and the fragment offset. -/
def foVal (header : IPv4Header) : UInt16 :=
  (if header.df then 0x4000 else 0) ||| (if header.mf then 0x2000 else 0) |||
    (header.offset &&& 0x1fff)

def withChecksum (header : IPv4Header) (cksum : UInt16) : IPv4Header :=
  { header with cksum := cksum }

/-- Parse the fields from a parser.  A buffer too short for a header leaves
them as they are. -/
def parse (header : IPv4Header) (p : NetParser) :
    Except WireFault (IPv4Header × ParseResult × NetParser) :=
  let original := p.buffer
  let dataSize := p.buffer.length
  if dataSize < length then
    .ok (header, .packetTooShort, p)
  else do
    let (first, p) <- p.u8
    let (tos, p) <- p.u8
    let (len, p) <- p.u16
    let (id, p) <- p.u16
    let (fo, p) <- p.u16
    let (ttl, p) <- p.u8
    let (proto, p) <- p.u8
    let (cksum, p) <- p.u16
    let (src, p) <- p.u32
    let (dst, p) <- p.u32
    let header : IPv4Header :=
      { ver := first >>> 4
        hlen := first &&& 0x0f
        tos := tos
        len := len
        id := id
        df := fo &&& 0x4000 != 0
        mf := fo &&& 0x2000 != 0
        offset := fo &&& 0x1fff
        ttl := ttl
        proto := proto
        cksum := cksum
        src := src
        dst := dst }
    if dataSize < 4 * header.hlen.toNat then
      return (header, .packetTooShort, p)
    else if header.ver ≠ 4 then
      return (header, .wrongIPVersion, p)
    else if header.hlen < 5 then
      return (header, .headerTooShort, p)
    else if dataSize ≠ header.len.toNat then
      return (header, .truncatedPacket, p)
    else
      let p <- p.removePrefix (header.hlen.toNat * 4 - length)
      if p.hasError then
        return (header, p.error, p)
      else if ((InternetChecksum.new 0).add (original.take (4 * header.hlen.toNat))).value ≠ 0 then
        return (header, .badChecksum, p)
      else
        return (header, .noError, p)

/-- Serialize the fields, without recomputing the checksum. -/
def serialize (header : IPv4Header) : Except WireFault (List UInt8) :=
  if header.ver ≠ 4 then .error .wrongIPVersion
  else if 4 * header.hlen.toNat < length then .error .ipHeaderTooShort
  else
    let ret := NetUnparser.u8 [] header.firstByte
    let ret := NetUnparser.u8 ret header.tos
    let ret := NetUnparser.u16 ret header.len
    let ret := NetUnparser.u16 ret header.id
    let ret := NetUnparser.u16 ret header.foVal
    let ret := NetUnparser.u8 ret header.ttl
    let ret := NetUnparser.u8 ret header.proto
    let ret := NetUnparser.u16 ret header.cksum
    let ret := NetUnparser.u32 ret header.src
    let ret := NetUnparser.u32 ret header.dst
    .ok (resize ret (4 * header.hlen.toNat) 0)

def payloadLength (header : IPv4Header) : UInt16 :=
  header.len - 4 * header.hlen.toUInt16

/-- The pseudo-header's contribution to the checksum of a segment. -/
def pseudoCksum (header : IPv4Header) : UInt32 :=
  let pcksum : UInt32 := (header.src >>> 16) + (header.src &&& (0xffff : UInt32))
  let pcksum := pcksum + ((header.dst >>> 16) + (header.dst &&& (0xffff : UInt32)))
  let pcksum := pcksum + header.proto.toUInt32
  pcksum + header.payloadLength.toUInt32

end IPv4Header

structure IPv4Datagram where
  header : IPv4Header := {}
  payload : BufferList := {}
deriving DecidableEq, Repr

namespace IPv4Datagram

/-- Parse the datagram from a buffer. -/
def parse (datagram : IPv4Datagram) (buffer : List UInt8) :
    Except WireFault (IPv4Datagram × ParseResult) := do
  let (header, _, p) <- datagram.header.parse ⟨buffer, .noError⟩
  let parsed : IPv4Datagram := { header := header, payload := .ofBuffer p.buffer }
  if parsed.payload.size ≠ header.payloadLength.toNat then
    return (parsed, .packetTooShort)
  else
    return (parsed, p.error)

/-- Serialize the datagram, with the checksum over its header. -/
def serialize (datagram : IPv4Datagram) : Except WireFault BufferList :=
  if datagram.payload.size ≠ datagram.header.payloadLength.toNat then .error .payloadWrongSize
  else do
    let headerOut := datagram.header.withChecksum 0
    let unsealed <- headerOut.serialize
    let check := (InternetChecksum.new 0).add unsealed
    let sealed <- (headerOut.withChecksum check.value).serialize
    return (BufferList.append {} (.ofBuffer sealed)).append datagram.payload

end IPv4Datagram

/-! ## Reading a written header -/

namespace IPv4Header

/-- The bytes before the checksum. -/
def front (header : IPv4Header) : List UInt8 :=
  bigEndian 1 header.firstByte.toNat ++ (bigEndian 1 header.tos.toNat ++
    (bigEndian 2 header.len.toNat ++ (bigEndian 2 header.id.toNat ++
      (bigEndian 2 header.foVal.toNat ++ (bigEndian 1 header.ttl.toNat ++
        bigEndian 1 header.proto.toNat)))))

/-- The bytes behind the checksum. -/
def back (header : IPv4Header) : List UInt8 :=
  bigEndian 4 header.src.toNat ++ (bigEndian 4 header.dst.toNat ++
    List.replicate (header.hlen.toNat * 4 - length) 0)

@[simp] theorem withChecksum_front (header : IPv4Header) (cksum : UInt16) :
    (header.withChecksum cksum).front = header.front :=
  rfl

@[simp] theorem withChecksum_back (header : IPv4Header) (cksum : UInt16) :
    (header.withChecksum cksum).back = header.back :=
  rfl

@[simp] theorem withChecksum_cksum (header : IPv4Header) (cksum : UInt16) :
    (header.withChecksum cksum).cksum = cksum :=
  rfl

@[simp] theorem front_length (header : IPv4Header) : header.front.length = 10 := by
  simp [front]

/-- A header that can be written and read back. -/
structure Regular (header : IPv4Header) : Prop where
  ver_eq : header.ver = 4
  hlen_ge : 5 ≤ header.hlen.toNat
  hlen_le : header.hlen.toNat ≤ 15
  offset_lt : header.offset.toNat < 2 ^ 13

theorem Regular.back_length {header : IPv4Header} (regular : header.Regular) :
    header.back.length + 12 = 4 * header.hlen.toNat := by
  have bound := regular.hlen_ge
  simp only [back, List.length_append, bigEndian_length, List.length_replicate, length]
  omega

theorem Regular.serialize_eq {header : IPv4Header} (regular : header.Regular) :
    header.serialize = .ok (header.front ++ (bigEndian 2 header.cksum.toNat ++ header.back)) := by
  have bound := regular.hlen_ge
  unfold serialize
  rw [if_neg (not_not_intro regular.ver_eq), if_neg (by simp only [length]; omega)]
  simp only [NetUnparser.u8_eq, NetUnparser.u16_eq, NetUnparser.u32_eq, List.nil_append]
  unfold resize
  rw [List.take_of_length_le]
  · simp only [front, back, length, List.append_assoc, List.length_append, bigEndian_length]
    rw [Nat.mul_comm]
  · simp only [List.length_append, bigEndian_length]
    omega

/-- The version and the header length are read back from their byte. -/
theorem Regular.firstByte_bits {header : IPv4Header} (regular : header.Regular) :
    header.firstByte >>> 4 = header.ver ∧ header.firstByte &&& 0x0f = header.hlen := by
  have bound := regular.hlen_le
  have low : header.hlen.toNat &&& 15 = header.hlen.toNat := by
    rw [Nat.and_two_pow_sub_one_eq_mod _ 4]
    omega
  have byte : header.firstByte.toNat = 64 + header.hlen.toNat := by
    unfold firstByte
    rw [regular.ver_eq, UInt8.toNat_or, UInt8.toNat_and]
    change 64 ||| (header.hlen.toNat &&& 15) = _
    rw [low]
    exact (Nat.shiftLeft_add_eq_or_of_lt (i := 4) (by omega) 4).symm
  constructor
  · rw [regular.ver_eq]
    apply UInt8.toNat_inj.mp
    rw [UInt8.toNat_shiftRight, byte]
    change (64 + header.hlen.toNat) >>> 4 = 4
    rw [Nat.shiftRight_eq_div_pow]
    omega
  · apply UInt8.toNat_inj.mp
    rw [UInt8.toNat_and, byte]
    change (64 + header.hlen.toNat) &&& 15 = _
    rw [Nat.and_two_pow_sub_one_eq_mod _ 4]
    omega

/-- A mask of the word sees the flags and the offset apart. -/
theorem foVal_and (header : IPv4Header) (mask : UInt16) :
    header.foVal &&& mask =
      (((if header.df then 0x4000 else 0) ||| (if header.mf then 0x2000 else 0)) &&& mask) |||
        (header.offset &&& (0x1fff &&& mask)) := by
  unfold foVal
  rw [← UInt16.and_assoc]
  apply UInt16.toBitVec_inj.mp
  exact BitVec.and_or_distrib_right

/-- The flags and the fragment offset are read back from their word. -/
theorem Regular.foVal_bits {header : IPv4Header} (regular : header.Regular) :
    (header.foVal &&& 0x4000 != 0) = header.df ∧ (header.foVal &&& 0x2000 != 0) = header.mf ∧
      header.foVal &&& 0x1fff = header.offset := by
  have low : header.offset &&& 0x1fff = header.offset := by
    have bound := regular.offset_lt
    apply UInt16.toNat_inj.mp
    rw [UInt16.toNat_and]
    change header.offset.toNat &&& 8191 = _
    rw [Nat.and_two_pow_sub_one_eq_mod _ 13]
    omega
  have off (mask : UInt16) (apart : 0x1fff &&& mask = 0) :
      header.offset &&& (0x1fff &&& mask) = 0 := by
    rw [apart, UInt16.and_zero]
  refine ⟨?_, ?_, ?_⟩
  · rw [foVal_and, off _ (by decide), UInt16.or_zero]
    generalize header.df = df, header.mf = mf
    revert df mf
    decide
  · rw [foVal_and, off _ (by decide), UInt16.or_zero]
    generalize header.df = df, header.mf = mf
    revert df mf
    decide
  · rw [foVal_and, UInt16.and_self, low]
    have flagless : ((if header.df then 0x4000 else 0) ||| (if header.mf then 0x2000 else 0)) &&&
        (0x1fff : UInt16) = 0 := by
      generalize header.df = df, header.mf = mf
      revert df mf
      decide
    rw [flagless, UInt16.zero_or]

/-- What a header's bytes are. -/
def bytes (header : IPv4Header) : List UInt8 :=
  header.front ++ (bigEndian 2 header.cksum.toNat ++ header.back)

theorem Regular.bytes_length {header : IPv4Header} (regular : header.Regular) :
    header.bytes.length = 4 * header.hlen.toNat := by
  have tail := regular.back_length
  simp only [bytes, List.length_append, front_length, bigEndian_length]
  omega

/-- A header is read back from its bytes in a datagram of the length it gives. -/
theorem Regular.parse_serialized {header : IPv4Header} (regular : header.Regular)
    (other : IPv4Header) (payload : List UInt8)
    (whole : header.len.toNat = 4 * header.hlen.toNat + payload.length)
    (verifies : ((InternetChecksum.new 0).add header.bytes).value = 0) :
    other.parse ⟨header.bytes ++ payload, .noError⟩ =
      .ok (header, .noError, ⟨payload, .noError⟩) := by
  have bound := regular.hlen_ge
  have enough : 5 ≤ header.hlen := bound
  have size := regular.bytes_length
  have skips := NetParser.removePrefix_append
    (List.length_replicate (n := header.hlen.toNat * 4 - length) (a := (0 : UInt8))) payload
  rcases regular.firstByte_bits with ⟨version, hlen⟩
  rcases regular.foVal_bits with ⟨df, mf, offset⟩
  have total : (header.bytes ++ payload).length = header.len.toNat := by
    rw [List.length_append, size, whole]
  have checked : (header.bytes ++ payload).take (4 * header.hlen.toNat) = header.bytes :=
    List.take_left' size
  unfold parse
  dsimp only
  rw [total, if_neg (by simp only [length]; omega)]
  simp only [bytes, front, back, List.append_assoc, NetParser.u16_bigEndian,
    NetParser.u32_bigEndian, NetParser.u8_bigEndian, bind, Except.bind, pure, Except.pure,
    version, hlen, df, mf, offset]
  simp only [bytes, front, back, List.append_assoc] at checked verifies
  rw [checked, verifies, if_neg (by omega), if_neg (not_not_intro regular.ver_eq),
    if_neg (UInt8.not_lt.mpr enough), if_neg (not_not_intro rfl), skips]
  rfl

/-- The header as it arrives: the same but for its checksum. -/
def checksummed (header : IPv4Header) : IPv4Header :=
  header.withChecksum
    ((InternetChecksum.new 0).add (header.front ++ (bigEndian 2 0 ++ header.back))).value

theorem Regular.checksummed {header : IPv4Header} (regular : header.Regular) :
    header.checksummed.Regular :=
  ⟨regular.ver_eq, regular.hlen_ge, regular.hlen_le, regular.offset_lt⟩

/-- The bytes of a checksummed header pass the checksum test. -/
theorem Regular.checksummed_verifies {header : IPv4Header} (regular : header.Regular) :
    ((InternetChecksum.new 0).add header.checksummed.bytes).value = 0 := by
  have tail := regular.back_length
  have bound := regular.hlen_le
  apply InternetChecksum.value_of_sealed 0 header.back
  · rw [front_length]
  · rw [front_length]
    change 0 + _ < _
    omega

/-- The pseudo-header leaves the checksum out. -/
theorem checksummed_pseudoCksum (header : IPv4Header) :
    header.checksummed.pseudoCksum = header.pseudoCksum := by
  have leftOut (cksum : UInt16) : (header.withChecksum cksum).pseudoCksum = header.pseudoCksum :=
    rfl
  exact leftOut _

/-- The pseudo-header adds six words at most. -/
theorem pseudoCksum_le (header : IPv4Header) : header.pseudoCksum.toNat ≤ 6 * 65535 := by
  have halves (address : UInt32) :
      ((address >>> 16) + (address &&& (0xffff : UInt32))).toNat ≤ 2 * 65535 := by
    have bound := address.toNat_lt
    rw [InternetChecksum.halves_toNat]
    omega
  have src := halves header.src
  have dst := halves header.dst
  have proto := header.proto.toNat_lt
  have payload := header.payloadLength.toNat_lt
  unfold pseudoCksum
  dsimp only
  rw [UInt32.toNat_add, UInt32.toNat_add, UInt32.toNat_add, UInt8.toNat_toUInt32,
    UInt16.toNat_toUInt32]
  omega

end IPv4Header

/-! ## Reading a written datagram -/

namespace IPv4Datagram

/-- A datagram whose header gives its length. -/
structure Regular (datagram : IPv4Datagram) : Prop where
  header : datagram.header.Regular
  len_eq : datagram.header.len.toNat = 4 * datagram.header.hlen.toNat + datagram.payload.size

theorem Regular.payloadLength_eq {datagram : IPv4Datagram} (regular : datagram.Regular) :
    datagram.header.payloadLength.toNat = datagram.payload.size := by
  have total := regular.len_eq
  have small := regular.header.hlen_le
  have bound := datagram.header.len.toNat_lt
  have hlen : (4 * datagram.header.hlen.toUInt16).toNat = 4 * datagram.header.hlen.toNat := by
    rw [UInt16.toNat_mul, UInt8.toNat_toUInt16]
    change 4 * datagram.header.hlen.toNat % 65536 = _
    omega
  unfold IPv4Header.payloadLength
  rw [UInt16.toNat_sub_of_le _ _ (UInt16.le_iff_toNat_le.mpr (by omega)), hlen]
  omega

theorem Regular.serialize_concatenated {datagram : IPv4Datagram} (regular : datagram.Regular) :
    Exists fun buffers => datagram.serialize = .ok buffers ∧
      buffers.concatenate = datagram.header.checksummed.bytes ++ datagram.payload.concatenate := by
  have sized := regular.payloadLength_eq
  have unsealed : (datagram.header.withChecksum 0).serialize =
      .ok (datagram.header.front ++ (bigEndian 2 0 ++ datagram.header.back)) :=
    IPv4Header.Regular.serialize_eq ⟨regular.header.ver_eq, regular.header.hlen_ge,
      regular.header.hlen_le, regular.header.offset_lt⟩
  have sealed : datagram.header.checksummed.serialize = .ok datagram.header.checksummed.bytes :=
    regular.header.checksummed.serialize_eq
  refine ⟨⟨datagram.header.checksummed.bytes :: datagram.payload.buffers⟩, ?_, ?_⟩
  · unfold serialize
    rw [if_neg (not_not_intro sized.symm)]
    dsimp only
    rw [unsealed]
    change (datagram.header.checksummed.serialize >>= _) = _
    rw [sealed]
    change Except.ok _ = _
    congr 1
    exact congrArg BufferList.mk (BufferList.append_buffers _ _)
  · rw [BufferList.concatenate_eq, BufferList.concatenate_eq, List.flatten_cons]

/-- A datagram is read back from its bytes, with the checksum it was sent with
and its payload in one buffer. -/
theorem Regular.parse_checksummed {datagram : IPv4Datagram} (regular : datagram.Regular)
    (other : IPv4Datagram) :
    other.parse (datagram.header.checksummed.bytes ++ datagram.payload.concatenate) =
      .ok ({ header := datagram.header.checksummed
             payload := .ofBuffer datagram.payload.concatenate }, .noError) := by
  have sized := regular.payloadLength_eq
  have whole := regular.len_eq
  rw [BufferList.size_eq] at sized whole
  have parsed := regular.header.checksummed.parse_serialized other.header
    datagram.payload.concatenate whole regular.header.checksummed_verifies
  have one : (BufferList.ofBuffer datagram.payload.concatenate).size =
      datagram.header.checksummed.payloadLength.toNat := by
    rw [BufferList.size_eq, BufferList.concatenate_eq]
    simp only [BufferList.ofBuffer, List.flatten_singleton]
    exact sized.symm
  unfold parse
  rw [parsed]
  change (if (BufferList.ofBuffer datagram.payload.concatenate).size ≠
    datagram.header.checksummed.payloadLength.toNat then _ else _) = _
  rw [if_neg (not_not_intro one)]
  rfl

end IPv4Datagram
end Wire
end Sponge
