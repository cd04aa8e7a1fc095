import Sponge.Loop.Faithfulness
import Sponge.Wire.Damage

namespace Sponge
namespace Loop

open Foundation Tcp Wire

/-!
# Damaged datagrams

An adapter refuses a datagram with a burst in it, or returns the segment that was sent all the
same.  So the network may damage datagrams as well as lose them.  What it must not touch is the
header length of a packet.
-/

section

variable {Adapter Received Sent : Type} {adaptT : AdaptT Adapter Received Sent}
  {carries : Sent -> Received -> Prop}

/-- More datagrams may arrive, if these do no harm either. -/
theorem Faithful.widen {others : Sent -> Received -> Prop} (faithful : Faithful adaptT carries)
    (delivers : forall {sender receiver segment answers sending sent received}, Sendable segment ->
      adaptT.write sender segment answers = .ok sending -> sending.sent = some sent ->
        others sent received -> Exists fun result => Exists fun next =>
          adaptT.read receiver (.received received) = .ok (result, next) ∧
            forall arrived, result = some arrived -> Alike arrived segment) :
    Faithful adaptT (fun sent received => carries sent received ∨ others sent received) where
  delivers := fun sendable done goes brought =>
    brought.elim (faithful.delivers sendable done goes) (delivers sendable done goes)
  writes := faithful.writes
  serves := faithful.serves
  fails := faithful.fails
  parses := faithful.parses

end

/-! ## UDP -/

/-- A datagram whose segment has a wrong checksum is refused. -/
theorem TCPOverUDPSocketAdapter.accept_refused (adapter : TCPOverUDPSocketAdapter)
    {datagram : ReceivedDatagram} (fails : ¬ Verifies 0 datagram.payload) :
    adapter.accept datagram = .ok (none, adapter) := by
  unfold accept
  split
  · rfl
  · simp only [segment_parse_refused fails, bind, Except.bind, pure, Except.pure]
    rfl

/-- The payload arrives as it was sent, or with a burst. -/
def udpBrings (sent : SentDatagram) (received : ReceivedDatagram) : Prop :=
  udpCarries sent received ∨ Burst sent.payload received.payload

theorem udp_faithful_damaged : Faithful udpAdapter udpBrings := by
  refine udp_faithful.widen ?_
  intro sender receiver segment answers sending sent received sendable done goes burst
  cases (TCPOverUDPSocketAdapter.written sendable done).symm.trans goes
  have fits := sendable.fits
  have size : ((sender.withPorts segment).checksummed 0).bytes.length =
      4 * segment.header.doff.toNat + segment.payload.length :=
    ((sender.withPorts segment).checksummed 0).bytes_length sendable.large
  have verifies := (sender.withPorts segment).checksummed_verifies 0 sendable.large (by
    change 0 + 65280 * (4 * segment.header.doff.toNat + segment.payload.length) < _
    omega)
  have altered : Burst ((sender.withPorts segment).checksummed 0).bytes received.payload := burst
  have same := altered.length_eq
  have fails : ¬ Verifies 0 received.payload :=
    not_verifies_of_apart (Or.inl rfl) (by omega) (by omega) altered.apart verifies
  change Exists fun result => Exists fun next =>
    TCPOverUDPSocketAdapter.read receiver (.received received) = _ ∧ _
  unfold TCPOverUDPSocketAdapter.read
  rw [UDPSocket.recv_received _ (by unfold UDPSocket.mtu; omega)]
  dsimp only
  rw [TCPOverUDPSocketAdapter.accept_refused _ fails]
  exact ⟨none, _, rfl, nofun⟩

/-! ## TUN devices -/

/-- Another header length can bring another segment: here the ports are cut off, the number takes
their place, and the checksum comes out all the same. -/
example :
    let sender : TCPOverIPv4Adapter :=
      { config := ⟨⟨0x0a000001, 0x8000⟩, ⟨0x0a000002, 0x7ffb⟩⟩ }
    let receiver : TCPOverIPv4OverTunFdAdapter :=
      { adapter := { config := ⟨⟨0x0a000002, 0x7ffb⟩, ⟨0x0a000001, 0x8000⟩⟩ }, tun := { fd := 3 } }
    let segment : TCPSegment :=
      { header := { seqno := ⟨0x80007ffb⟩, ack := true, win := 0x4000 }, payload := [1, 2, 3, 4] }
    (do
      let (datagram, _) <- sender.wrapTcpInIp segment
      let buffers <- datagram.serialize
      let (taken, _) <- receiver.accept (0x46 :: buffers.concatenate.tail)
      return taken.map TCPSegment.payload) = .ok (some []) := by
  decide +kernel

end Loop
end Sponge
