import Sponge.Wire.DatagramFormat
import Sponge.Wire.SegmentFormat

namespace Sponge
namespace Wire

open Foundation Bytes Tcp

/-!
# Segments in datagrams

The adapter sets the ports of a segment and wraps it in a datagram, and takes
segments of its own connection out of datagrams.  While it listens, the first
SYN decides who the peer is.  An address is the pair of the numeric address
and the port, so that turning a numeric address into a dotted quad and back
gives the same address.
-/

structure Address where
  ipv4Numeric : UInt32
  port : UInt16
deriving DecidableEq, Repr

/-- Config of an adapter. -/
structure FdAdapterConfig where
  source : Address := ⟨0, 0⟩
  destination : Address := ⟨0, 0⟩
deriving DecidableEq, Repr

/-- A converter from segments to datagrams. -/
structure TCPOverIPv4Adapter where
  config : FdAdapterConfig := {}
  listening : Bool := false
deriving DecidableEq, Repr

namespace TCPOverIPv4Adapter

/-- Take the sender of a datagram as the peer, and the address it was sent to
as the own one. -/
def latched (adapter : TCPOverIPv4Adapter) (ipDgram : IPv4Datagram) (tcpSeg : TCPSegment) :
    TCPOverIPv4Adapter where
  config :=
    { source := ⟨ipDgram.header.dst, adapter.config.source.port⟩
      destination := ⟨ipDgram.header.src, tcpSeg.header.sport⟩ }
  listening := false

/-- The last test: is the segment from our peer? -/
def fromPeer (adapter : TCPOverIPv4Adapter) (tcpSeg : TCPSegment) :
    Option TCPSegment × TCPOverIPv4Adapter :=
  if tcpSeg.header.sport ≠ adapter.config.destination.port then (none, adapter)
  else (some tcpSeg, adapter)

/-- The segment in a datagram, if it is valid and belongs to the connection. -/
def unwrapTcpInIp (adapter : TCPOverIPv4Adapter) (ipDgram : IPv4Datagram) :
    Except WireFault (Option TCPSegment × TCPOverIPv4Adapter) :=
  if ¬ adapter.listening ∧ ipDgram.header.dst ≠ adapter.config.source.ipv4Numeric then
    .ok (none, adapter)
  else if ¬ adapter.listening ∧ ipDgram.header.src ≠ adapter.config.destination.ipv4Numeric then
    .ok (none, adapter)
  else if ipDgram.header.proto ≠ IPv4Header.protoTcp then
    .ok (none, adapter)
  else do
    let payload <- ipDgram.payload.toBuffer
    let (tcpSeg, result) <- TCPSegment.parse {} payload ipDgram.header.pseudoCksum
    if result ≠ .noError then
      return (none, adapter)
    else if tcpSeg.header.dport ≠ adapter.config.source.port then
      return (none, adapter)
    else if adapter.listening then
      if tcpSeg.header.syn ∧ ¬ tcpSeg.header.rst then
        return (adapter.latched ipDgram tcpSeg).fromPeer tcpSeg
      else
        return (none, adapter)
    else
      return adapter.fromPeer tcpSeg

/-- The segment with the ports of the connection. -/
def withPorts (adapter : TCPOverIPv4Adapter) (seg : TCPSegment) : TCPSegment :=
  { seg with
    header := { seg.header with
      sport := adapter.config.source.port
      dport := adapter.config.destination.port } }

/-- The header of the datagram that a segment is wrapped in. -/
def datagramHeader (adapter : TCPOverIPv4Adapter) (seg : TCPSegment) : IPv4Header :=
  let fresh : IPv4Header := {}
  { fresh with
    src := adapter.config.source.ipv4Numeric
    dst := adapter.config.destination.ipv4Numeric
    len := UInt16.ofNat
      (fresh.hlen.toNat * 4 + seg.header.doff.toNat * 4 + seg.payload.length) }

/-- Set the ports of a segment and wrap it in a datagram.  The segment is
changed in place. -/
def wrapTcpInIp (adapter : TCPOverIPv4Adapter) (seg : TCPSegment) :
    Except WireFault (IPv4Datagram × TCPSegment) := do
  let payload <- (adapter.withPorts seg).serialize (adapter.datagramHeader seg).pseudoCksum
  return ({ header := adapter.datagramHeader seg, payload := payload }, adapter.withPorts seg)

/-! ## There and back -/

theorem datagramHeader_regular (adapter : TCPOverIPv4Adapter) (seg : TCPSegment) :
    (adapter.datagramHeader seg).Regular where
  ver_eq := rfl
  hlen_ge := Nat.le_refl 5
  hlen_le := by
    change 5 ≤ 15
    decide
  offset_lt := Nat.two_pow_pos 13

theorem datagramHeader_len (adapter : TCPOverIPv4Adapter) {seg : TCPSegment}
    (fits : 20 + 4 * seg.header.doff.toNat + seg.payload.length ≤ 65535) :
    (adapter.datagramHeader seg).len.toNat =
      20 + (4 * seg.header.doff.toNat + seg.payload.length) := by
  change (UInt16.ofNat (5 * 4 + seg.header.doff.toNat * 4 + seg.payload.length)).toNat = _
  rw [UInt16.toNat_ofNat']
  omega

/-- A wrapped segment is taken out again by the adapter it was sent to. -/
theorem unwrapTcpInIp_of_parsed {adapter : TCPOverIPv4Adapter} {ipDgram : IPv4Datagram}
    {payload : List UInt8} {tcpSeg : TCPSegment} (quiet : adapter.listening = false)
    (dst : ipDgram.header.dst = adapter.config.source.ipv4Numeric)
    (src : ipDgram.header.src = adapter.config.destination.ipv4Numeric)
    (proto : ipDgram.header.proto = IPv4Header.protoTcp)
    (single : ipDgram.payload = .ofBuffer payload)
    (parsed : TCPSegment.parse {} payload ipDgram.header.pseudoCksum = .ok (tcpSeg, .noError))
    (dport : tcpSeg.header.dport = adapter.config.source.port)
    (sport : tcpSeg.header.sport = adapter.config.destination.port) :
    adapter.unwrapTcpInIp ipDgram = .ok (some tcpSeg, adapter) := by
  unfold unwrapTcpInIp
  rw [if_neg (fun other => other.2 dst), if_neg (fun other => other.2 src),
    if_neg (not_not_intro proto), single]
  simp only [BufferList.toBuffer, BufferList.ofBuffer, bind, Except.bind, parsed, pure,
    Except.pure]
  rw [if_neg (not_not_intro rfl), if_neg (not_not_intro dport), quiet,
    if_neg Bool.false_ne_true]
  unfold fromPeer
  rw [if_neg (not_not_intro sport)]

end TCPOverIPv4Adapter

/-- **Full-stack segment round trip.**  A segment that an adapter wraps in a
datagram, once the datagram is serialized and its bytes are parsed, is taken
out by the adapter on the other side: the same but for the ports, which are
those of the connection, and the checksum. -/
theorem segment_round_trip (sender receiver : TCPOverIPv4Adapter)
    (source : receiver.config.source = sender.config.destination)
    (destination : receiver.config.destination = sender.config.source)
    (quiet : receiver.listening = false) (segment : TCPSegment)
    (large : 5 ≤ segment.header.doff) (small : segment.header.doff ≤ 15)
    (fits : 20 + 4 * segment.header.doff.toNat + segment.payload.length ≤ 65535) :
    Exists fun datagram => Exists fun sent => Exists fun buffers => Exists fun arrived =>
      Exists fun received =>
        sender.wrapTcpInIp segment = .ok (datagram, sent) ∧
        datagram.serialize = .ok buffers ∧
        IPv4Datagram.parse {} buffers.concatenate = .ok (arrived, .noError) ∧
        receiver.unwrapTcpInIp arrived = .ok (some received, receiver) ∧
        received.payload = segment.payload ∧
        received.header =
          { segment.header with
            sport := sender.config.source.port
            dport := sender.config.destination.port
            cksum := received.header.cksum } := by
  have pseudo := (sender.datagramHeader segment).pseudoCksum_le
  have room : (sender.datagramHeader segment).pseudoCksum.toNat + 65280 *
      (4 * segment.header.doff.toNat + segment.payload.length) < 2 ^ 32 := by omega
  rcases (sender.withPorts segment).serialize_concatenated
    (sender.datagramHeader segment).pseudoCksum large with ⟨payload, serialized, bytes⟩
  have size : payload.size = 4 * segment.header.doff.toNat + segment.payload.length := by
    rw [BufferList.size_eq, bytes]
    exact TCPSegment.bytes_length _ large
  have regular : IPv4Datagram.Regular
      { header := sender.datagramHeader segment, payload := payload } := by
    refine ⟨sender.datagramHeader_regular segment, ?_⟩
    rw [size]
    exact sender.datagramHeader_len fits
  have parsed := (sender.withPorts segment).parse_checksummed {}
    (sender.datagramHeader segment).pseudoCksum large small room
  have pseudoSame := (sender.datagramHeader segment).checksummed_pseudoCksum
  rcases regular.serialize_concatenated with ⟨buffers, sealed, whole⟩
  have arrives := regular.parse_checksummed {}
  rw [← whole] at arrives
  refine ⟨_, sender.withPorts segment, buffers, _,
    (sender.withPorts segment).checksummed (sender.datagramHeader segment).pseudoCksum, ?_, sealed,
    arrives, ?_, rfl, rfl⟩
  · unfold TCPOverIPv4Adapter.wrapTcpInIp
    rw [serialized]
    rfl
  · refine TCPOverIPv4Adapter.unwrapTcpInIp_of_parsed quiet ?_ ?_ rfl rfl ?_ ?_ ?_
    · rw [source]
      rfl
    · rw [destination]
      rfl
    · rw [pseudoSame, bytes]
      exact parsed
    · rw [source]
      rfl
    · rw [destination]
      rfl

/-- An odd payload and an option word, between two hosts. -/
theorem segment_round_trip_odd :
    let sender : TCPOverIPv4Adapter := { config := ⟨⟨0x0a000001, 1000⟩, ⟨0x0a000002, 80⟩⟩ }
    let receiver : TCPOverIPv4Adapter := { config := ⟨⟨0x0a000002, 80⟩, ⟨0x0a000001, 1000⟩⟩ }
    let segment : TCPSegment :=
      { header := { seqno := ⟨7⟩, ackno := ⟨9⟩, doff := 6, ack := true, win := 500 }
        payload := [1, 2, 3] }
    Exists fun datagram => Exists fun sent => Exists fun buffers => Exists fun arrived =>
      Exists fun received =>
        sender.wrapTcpInIp segment = .ok (datagram, sent) ∧
        datagram.serialize = .ok buffers ∧
        IPv4Datagram.parse {} buffers.concatenate = .ok (arrived, .noError) ∧
        receiver.unwrapTcpInIp arrived = .ok (some received, receiver) ∧
        received.payload = segment.payload ∧
        received.header =
          { segment.header with
            sport := sender.config.source.port
            dport := sender.config.destination.port
            cksum := received.header.cksum } := by
  intro sender receiver segment
  exact segment_round_trip sender receiver rfl rfl rfl segment (by decide) (by decide) (by decide)

end Wire
end Sponge
