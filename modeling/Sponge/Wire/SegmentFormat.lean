import Sponge.Bytes.Assembling
import Sponge.Tcp.Segment
import Sponge.Wire.Checksum
import Sponge.Wire.Parsing

namespace Sponge
namespace Tcp

open Foundation Bytes Wire

/-!
# Segments on the wire

The header of a segment as bytes, and the segment with its checksum.  Options
are not supported: the place that the data offset leaves for them is filled
with zeros and skipped when it is read.  `TCPSegment::parse` looks at the
parser's error only, not at the result of the header's own parse.
-/

namespace TCPHeader

/-- The length of a header without options. -/
def length : Nat :=
  20

/-- The byte with the flags. -/
def flags (header : TCPHeader) : UInt8 :=
  (if header.urg then 0b00100000 else 0) ||| (if header.ack then 0b00010000 else 0) |||
    (if header.psh then 0b00001000 else 0) ||| (if header.rst then 0b00000100 else 0) |||
    (if header.syn then 0b00000010 else 0) ||| (if header.fin then 0b00000001 else 0)

def withChecksum (header : TCPHeader) (cksum : UInt16) : TCPHeader :=
  { header with cksum := cksum }

/-- Parse the fields from a parser. -/
def parse (p : NetParser) : Except WireFault (TCPHeader × ParseResult × NetParser) := do
  let (sport, p) <- p.u16
  let (dport, p) <- p.u16
  let (seqno, p) <- p.u32
  let (ackno, p) <- p.u32
  let (offset, p) <- p.u8
  let (flB, p) <- p.u8
  let (win, p) <- p.u16
  let (cksum, p) <- p.u16
  let (uptr, p) <- p.u16
  let header : TCPHeader :=
    { sport := sport
      dport := dport
      seqno := ⟨seqno⟩
      ackno := ⟨ackno⟩
      doff := offset >>> 4
      urg := flB &&& 0b00100000 != 0
      ack := flB &&& 0b00010000 != 0
      psh := flB &&& 0b00001000 != 0
      rst := flB &&& 0b00000100 != 0
      syn := flB &&& 0b00000010 != 0
      fin := flB &&& 0b00000001 != 0
      win := win
      cksum := cksum
      uptr := uptr }
  if header.doff < 5 then
    return (header, .headerTooShort, p)
  else
    let p <- p.removePrefix (header.doff.toNat * 4 - length)
    if p.hasError then
      return (header, p.error, p)
    else
      return (header, .noError, p)

/-- Serialize the fields, without recomputing the checksum. -/
def serialize (header : TCPHeader) : Except WireFault (List UInt8) :=
  if header.doff < 5 then .error .tcpHeaderTooShort
  else
    let ret := NetUnparser.u16 [] header.sport
    let ret := NetUnparser.u16 ret header.dport
    let ret := NetUnparser.u32 ret header.seqno.rawValue
    let ret := NetUnparser.u32 ret header.ackno.rawValue
    let ret := NetUnparser.u8 ret (header.doff <<< 4)
    let ret := NetUnparser.u8 ret header.flags
    let ret := NetUnparser.u16 ret header.win
    let ret := NetUnparser.u16 ret header.cksum
    let ret := NetUnparser.u16 ret header.uptr
    .ok (resize ret (4 * header.doff.toNat) 0)

end TCPHeader

namespace TCPSegment

/-- Parse the segment from a buffer. -/
def parse (segment : TCPSegment) (buffer : List UInt8) (datagramLayerChecksum : UInt32) :
    Except WireFault (TCPSegment × ParseResult) :=
  if ((InternetChecksum.new datagramLayerChecksum).add buffer).value ≠ 0 then
    .ok (segment, .badChecksum)
  else do
    let (header, _, p) <- TCPHeader.parse ⟨buffer, .noError⟩
    return ({ header := header, payload := p.buffer }, p.error)

/-- Serialize the segment, with the checksum over all of it. -/
def serialize (segment : TCPSegment) (datagramLayerChecksum : UInt32) :
    Except WireFault BufferList := do
  let headerOut := segment.header.withChecksum 0
  let unsealed <- headerOut.serialize
  let check := ((InternetChecksum.new datagramLayerChecksum).add unsealed).add segment.payload
  let sealed <- (headerOut.withChecksum check.value).serialize
  return (BufferList.append {} (.ofBuffer sealed)).append (.ofBuffer segment.payload)

end TCPSegment

/-! ## Reading a written header -/

namespace TCPHeader

/-- The bytes before the checksum. -/
def front (header : TCPHeader) : List UInt8 :=
  bigEndian 2 header.sport.toNat ++ (bigEndian 2 header.dport.toNat ++
    (bigEndian 4 header.seqno.rawValue.toNat ++ (bigEndian 4 header.ackno.rawValue.toNat ++
      (bigEndian 1 (header.doff <<< 4).toNat ++ (bigEndian 1 header.flags.toNat ++
        bigEndian 2 header.win.toNat)))))

/-- The bytes behind the checksum. -/
def back (header : TCPHeader) : List UInt8 :=
  bigEndian 2 header.uptr.toNat ++ List.replicate (header.doff.toNat * 4 - length) 0

@[simp] theorem withChecksum_front (header : TCPHeader) (cksum : UInt16) :
    (header.withChecksum cksum).front = header.front :=
  rfl

@[simp] theorem withChecksum_back (header : TCPHeader) (cksum : UInt16) :
    (header.withChecksum cksum).back = header.back :=
  rfl

@[simp] theorem withChecksum_cksum (header : TCPHeader) (cksum : UInt16) :
    (header.withChecksum cksum).cksum = cksum :=
  rfl

@[simp] theorem front_length (header : TCPHeader) : header.front.length = 16 := by
  simp [front]

theorem back_length (header : TCPHeader) (large : 5 ≤ header.doff) :
    header.back.length + 18 = 4 * header.doff.toNat := by
  have bound : 5 ≤ header.doff.toNat := large
  simp only [back, List.length_append, bigEndian_length, List.length_replicate, length]
  omega

theorem serialize_eq (header : TCPHeader) (large : 5 ≤ header.doff) :
    header.serialize = .ok (header.front ++ (bigEndian 2 header.cksum.toNat ++ header.back)) := by
  have bound : 5 ≤ header.doff.toNat := large
  unfold serialize
  rw [if_neg (UInt8.not_lt.mpr large)]
  simp only [NetUnparser.u8_eq, NetUnparser.u16_eq, NetUnparser.u32_eq, List.nil_append]
  unfold resize
  rw [List.take_of_length_le]
  · simp only [front, back, length, List.append_assoc, List.length_append, bigEndian_length]
    rw [Nat.mul_comm]
  · simp only [List.length_append, bigEndian_length]
    omega

theorem doff_shift {doff : UInt8} (small : doff ≤ 15) : (doff <<< 4) >>> 4 = doff := by
  have bound : doff.toNat ≤ 15 := small
  apply UInt8.toNat_inj.mp
  simp [Nat.shiftLeft_eq, Nat.shiftRight_eq_div_pow]
  omega

/-- The flags are read back from their byte. -/
theorem flags_bits (header : TCPHeader) :
    (header.flags &&& 0b00100000 != 0) = header.urg ∧
      (header.flags &&& 0b00010000 != 0) = header.ack ∧
      (header.flags &&& 0b00001000 != 0) = header.psh ∧
      (header.flags &&& 0b00000100 != 0) = header.rst ∧
      (header.flags &&& 0b00000010 != 0) = header.syn ∧
      (header.flags &&& 0b00000001 != 0) = header.fin := by
  unfold flags
  generalize header.urg = urg, header.ack = ack, header.psh = psh, header.rst = rst,
    header.syn = syn, header.fin = fin
  revert urg ack psh rst syn fin
  decide

/-- A header is read back from its bytes, and what follows it is left. -/
theorem parse_serialized (header : TCPHeader) (large : 5 ≤ header.doff) (small : header.doff ≤ 15)
    (rest : List UInt8) :
    parse ⟨header.front ++ (bigEndian 2 header.cksum.toNat ++ header.back) ++ rest, .noError⟩ =
      .ok (header, .noError, ⟨rest, .noError⟩) := by
  have skips := NetParser.removePrefix_append
    (List.length_replicate (n := header.doff.toNat * 4 - length) (a := (0 : UInt8))) rest
  rcases header.flags_bits with ⟨urg, ack, psh, rst, syn, fin⟩
  unfold parse
  simp only [front, back, List.append_assoc, NetParser.u16_bigEndian, NetParser.u32_bigEndian,
    NetParser.u8_bigEndian, bind, Except.bind, pure, Except.pure, doff_shift small, urg, ack, psh,
    rst, syn, fin]
  rw [if_neg (UInt8.not_lt.mpr large), skips]
  rfl

end TCPHeader

/-! ## Reading a written segment -/

namespace TCPSegment

/-- The checksum that a segment is sent with. -/
def computedChecksum (segment : TCPSegment) (datagramLayerChecksum : UInt32) : UInt16 :=
  ((InternetChecksum.new datagramLayerChecksum).add (segment.header.front ++
    (bigEndian 2 0 ++ (segment.header.back ++ segment.payload)))).value

/-- The segment as it arrives: the same but for its checksum. -/
def checksummed (segment : TCPSegment) (datagramLayerChecksum : UInt32) : TCPSegment :=
  { segment with
    header := segment.header.withChecksum (segment.computedChecksum datagramLayerChecksum) }

/-- The bytes that a segment is sent as. -/
def bytes (segment : TCPSegment) : List UInt8 :=
  segment.header.front ++
    (bigEndian 2 segment.header.cksum.toNat ++ (segment.header.back ++ segment.payload))

theorem bytes_length (segment : TCPSegment) (large : 5 ≤ segment.header.doff) :
    segment.bytes.length = 4 * segment.header.doff.toNat + segment.payload.length := by
  have tail := segment.header.back_length large
  simp only [bytes, List.length_append, TCPHeader.front_length, bigEndian_length]
  omega

theorem serialize_concatenated (segment : TCPSegment) (datagramLayerChecksum : UInt32)
    (large : 5 ≤ segment.header.doff) :
    Exists fun buffers => segment.serialize datagramLayerChecksum = .ok buffers ∧
      buffers.concatenate = (segment.checksummed datagramLayerChecksum).bytes := by
  have unsealed : (segment.header.withChecksum 0).serialize =
      .ok (segment.header.front ++ (bigEndian 2 0 ++ segment.header.back)) :=
    (segment.header.withChecksum 0).serialize_eq large
  have check : (((InternetChecksum.new datagramLayerChecksum).add (segment.header.front ++
      (bigEndian 2 0 ++ segment.header.back))).add segment.payload).value =
        segment.computedChecksum datagramLayerChecksum := by
    unfold computedChecksum
    rw [← InternetChecksum.add_append, List.append_assoc, List.append_assoc]
  have sealed := (segment.checksummed datagramLayerChecksum).header.serialize_eq large
  refine ⟨⟨[segment.header.front ++ (bigEndian 2
    (segment.computedChecksum datagramLayerChecksum).toNat ++ segment.header.back),
    segment.payload]⟩, ?_, ?_⟩
  · unfold serialize
    dsimp only
    rw [unsealed]
    simp only [bind, Except.bind, check]
    change (TCPHeader.serialize (segment.checksummed datagramLayerChecksum).header >>= _) = _
    rw [sealed]
    rfl
  · simp [BufferList.concatenate_eq, bytes, checksummed]

/-- The bytes of a checksummed segment pass the checksum test. -/
theorem checksummed_verifies (segment : TCPSegment) (datagramLayerChecksum : UInt32)
    (large : 5 ≤ segment.header.doff)
    (fits : datagramLayerChecksum.toNat +
      65280 * (4 * segment.header.doff.toNat + segment.payload.length) < 2 ^ 32) :
    ((InternetChecksum.new datagramLayerChecksum).add
      (segment.checksummed datagramLayerChecksum).bytes).value = 0 := by
  have tail := segment.header.back_length large
  apply InternetChecksum.value_of_sealed datagramLayerChecksum
    (segment.header.back ++ segment.payload)
  · rw [TCPHeader.front_length]
  · rw [TCPHeader.front_length, List.length_append]
    omega

/-- A segment is read back from its bytes, with the checksum it was sent with. -/
theorem parse_checksummed (segment other : TCPSegment) (datagramLayerChecksum : UInt32)
    (large : 5 ≤ segment.header.doff) (small : segment.header.doff ≤ 15)
    (fits : datagramLayerChecksum.toNat +
      65280 * (4 * segment.header.doff.toNat + segment.payload.length) < 2 ^ 32) :
    other.parse (segment.checksummed datagramLayerChecksum).bytes datagramLayerChecksum =
      .ok (segment.checksummed datagramLayerChecksum, .noError) := by
  have verifies := segment.checksummed_verifies datagramLayerChecksum large fits
  have parsed := TCPHeader.parse_serialized
    (segment.checksummed datagramLayerChecksum).header large small segment.payload
  have cut : (segment.checksummed datagramLayerChecksum).bytes =
      (segment.checksummed datagramLayerChecksum).header.front ++
        (bigEndian 2 (segment.checksummed datagramLayerChecksum).header.cksum.toNat ++
          (segment.checksummed datagramLayerChecksum).header.back) ++ segment.payload := by
    simp [bytes, checksummed]
  unfold parse
  rw [if_neg (not_not_intro verifies), cut, parsed]
  rfl

end TCPSegment
end Tcp
end Sponge
