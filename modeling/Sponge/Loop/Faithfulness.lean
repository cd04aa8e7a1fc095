import Sponge.Loop.Adapters
import Sponge.Wire.UntrustedBytes

namespace Sponge
namespace Loop

open Tcp Wire

/-!
# What adapters do to segments

The network hands over datagrams as they were sent, or not at all.  Then an adapter
refuses the segment in a datagram that another one has written, or it returns the same
segment but for the ports and the checksum, whatever the two adapters are configured for
and whether they listen.  This is all that a connection needs: it does not look at the
ports and at the checksum.
-/

/-- The same segment but for the ports and the checksum. -/
structure Alike (arrived segment : TCPSegment) : Prop where
  payload_eq : arrived.payload = segment.payload
  header_eq : arrived.header = { segment.header with
    sport := arrived.header.sport
    dport := arrived.header.dport
    cksum := arrived.header.cksum }

/-- The header has a length that can be written, and all fits into a datagram. -/
structure Sendable (segment : TCPSegment) : Prop where
  large : 5 ≤ segment.header.doff
  small : segment.header.doff ≤ 15
  fits : 20 + 4 * segment.header.doff.toNat + segment.payload.length ≤ 65535

/-- The adapter neither changes a segment nor fails on it, and every read is counted. -/
structure Faithful {Adapter Received Sent : Type} (adaptT : AdaptT Adapter Received Sent)
    (carries : Sent -> Received -> Prop) : Prop where
  delivers : forall {sender receiver segment answers sending sent received}, Sendable segment ->
    adaptT.write sender segment answers = .ok sending -> sending.sent = some sent ->
      carries sent received -> Exists fun result => Exists fun next =>
        adaptT.read receiver (.received received) = .ok (result, next) ∧
          forall arrived, result = some arrived -> Alike arrived segment
  writes : forall {sender segment answers fault}, Sendable segment ->
    adaptT.write sender segment answers ≠ .error (.format fault)
  serves : forall {adapter arrival result next}, adaptT.read adapter arrival = .ok (result, next) ->
    (adaptT.fd next).readCount = (adaptT.fd adapter).readCount + 1
  fails : forall {adapter errno taken}, adaptT.read adapter (.failed errno) ≠ .ok taken
  parses : forall {adapter arrival fault}, adaptT.read adapter arrival ≠ .error (.format fault)

/-! ## UDP -/

namespace UDPSocket

theorem recv_received (sock : FDWrapper) {datagram : ReceivedDatagram}
    (short : datagram.payload.length ≤ mtu) :
    recv sock (.received datagram) = .ok (datagram, sock.registerRead) := by
  have bound : datagram.payload.length ≤ 65536 := short
  unfold recv
  dsimp only
  rw [FDWrapper.systemCall_zero]
  dsimp only
  have most : ¬ Int64.ofNat datagram.payload.length > .ofNat mtu := by
    rw [gt_iff_lt, Int64.lt_iff_toInt_lt, Int64.toInt_ofNat_of_lt (by decide),
      Int64.toInt_ofNat_of_lt (by omega)]
    omega
  have least : ¬ Int64.ofNat datagram.payload.length < 0 := by
    rw [Int64.lt_iff_toInt_lt, Int64.toInt_ofNat_of_lt (by omega), Int64.toInt_zero]
    omega
  rw [FDWrapper.narrowed (by omega), if_neg most, if_neg least,
    Int64.toInt_ofNat_of_lt (by omega), Int.toNat_natCast,
    List.take_of_length_le (Nat.le_refl _)]

theorem recv_counts {sock next : FDWrapper} {arrival : Arrival ReceivedDatagram}
    {datagram : ReceivedDatagram} (done : recv sock arrival = .ok (datagram, next)) :
    next = sock.registerRead := by
  unfold recv at done
  dsimp only at done
  split at done
  · cases done
  · cases done
  · split at done
    · cases done
    · split at done
      · cases done
      · cases done
        rfl

theorem recv_failed {sock : FDWrapper} {errno : Int32} {taken : ReceivedDatagram × FDWrapper} :
    recv sock (.failed errno) ≠ .ok taken := by
  intro done
  unfold recv at done
  dsimp only at done
  split at done
  · cases done
  · cases done
  · next _ same =>
      cases same

theorem recv_not_format {sock : FDWrapper} {arrival : Arrival ReceivedDatagram}
    {fault : WireFault} : recv sock arrival ≠ .error (.format fault) := by
  intro failed
  unfold recv at failed
  dsimp only at failed
  repeat' split at failed
  all_goals cases failed

theorem sendto_datagram {sock next : FDWrapper} {destination : Address} {payload : BufferList}
    {answer : CallAnswer} {datagram : SentDatagram}
    (done : sendto sock destination payload answer = .ok (datagram, next)) :
    datagram = ⟨destination, payload.concatenate⟩ := by
  unfold sendto at done
  dsimp only at done
  split at done
  · cases done
  · split at done
    · cases done
    · cases done
      rfl

theorem sendto_not_format {sock : FDWrapper} {destination : Address} {payload : BufferList}
    {answer : CallAnswer} {fault : WireFault} :
    sendto sock destination payload answer ≠ .error (.format fault) := by
  intro failed
  unfold sendto at failed
  dsimp only at failed
  split at failed
  · cases failed
  · split at failed
    · cases failed
    · cases failed

end UDPSocket

namespace TCPOverUDPSocketAdapter

variable {adapter : TCPOverUDPSocketAdapter} {seg : TCPSegment}

theorem withPorts_serialize (adapter : TCPOverUDPSocketAdapter) (sendable : Sendable seg) :
    Exists fun payload => (adapter.withPorts seg).serialize 0 = .ok payload ∧
      payload.concatenate = ((adapter.withPorts seg).checksummed 0).bytes :=
  (adapter.withPorts seg).serialize_concatenated 0 sendable.large

theorem checksummed_alike (adapter : TCPOverUDPSocketAdapter) (seg : TCPSegment) :
    Alike ((adapter.withPorts seg).checksummed 0) seg :=
  ⟨rfl, rfl⟩

/-- What an adapter makes of the bytes of a segment. -/
theorem accept_bytes (adapter : TCPOverUDPSocketAdapter) {segment : TCPSegment}
    {datagram : ReceivedDatagram} (parsed : TCPSegment.parse {} datagram.payload 0 =
      .ok (segment, .noError)) :
    adapter.accept datagram = .ok (none, adapter) ∨
      Exists fun next => adapter.accept datagram = .ok (some segment, next) := by
  unfold accept
  split
  · exact Or.inl rfl
  · simp only [parsed, bind, Except.bind, pure, Except.pure]
    split
    · exact Or.inl rfl
    · split
      · split
        · exact Or.inr ⟨_, rfl⟩
        · exact Or.inl rfl
      · exact Or.inr ⟨_, rfl⟩

theorem written (sendable : Sendable seg) {answers : List CallAnswer}
    {sending : Sending TCPOverUDPSocketAdapter SentDatagram}
    (done : adapter.write seg answers = .ok sending) :
    sending.sent = some ⟨adapter.config.destination, ((adapter.withPorts seg).checksummed 0).bytes⟩ := by
  rcases adapter.withPorts_serialize sendable with ⟨payload, serialized, bytes⟩
  unfold write at done
  rw [serialized] at done
  cases answers with
  | nil => cases done
  | cons answer answers =>
      dsimp only at done
      cases sent : UDPSocket.sendto adapter.sock adapter.config.destination payload answer with
      | error fault =>
          rw [sent] at done
          cases done
      | ok datagram =>
          rcases datagram with ⟨datagram, sock⟩
          rw [sent] at done
          cases done
          rw [UDPSocket.sendto_datagram sent, bytes]

/-- Whatever arrives, a datagram is refused or its segment is taken. -/
theorem accept_ok (adapter : TCPOverUDPSocketAdapter) (datagram : ReceivedDatagram) :
    Exists fun taken => adapter.accept datagram = .ok taken := by
  rcases segment_parse_ok {} datagram.payload 0 with ⟨segment, result, parsed⟩
  unfold accept
  simp only [parsed, bind, Except.bind, pure, Except.pure]
  repeat' split
  all_goals exact ⟨_, rfl⟩

theorem accept_sock {next : TCPOverUDPSocketAdapter} {datagram : ReceivedDatagram}
    {result : Option TCPSegment} (done : adapter.accept datagram = .ok (result, next)) :
    next.sock = adapter.sock := by
  unfold accept at done
  split at done
  · cases done
    rfl
  · cases parsed : TCPSegment.parse {} datagram.payload 0 with
    | error fault =>
        rw [parsed] at done
        cases done
    | ok read =>
        simp only [parsed, bind, Except.bind, pure, Except.pure] at done
        repeat' split at done
        all_goals
          cases done
          rfl

end TCPOverUDPSocketAdapter

/-- The payload arrives as it was sent, from any address. -/
def udpCarries (sent : SentDatagram) (received : ReceivedDatagram) : Prop :=
  received.payload = sent.payload

theorem udp_faithful : Faithful udpAdapter udpCarries where
  delivers := by
    intro sender receiver segment answers sending sent received sendable done goes carries
    cases (TCPOverUDPSocketAdapter.written sendable done).symm.trans goes
    have length := ((sender.withPorts segment).checksummed 0).bytes_length sendable.large
    have size : ((sender.withPorts segment).checksummed 0).bytes.length =
        4 * segment.header.doff.toNat + segment.payload.length := length
    have fits := sendable.fits
    have payload : received.payload = ((sender.withPorts segment).checksummed 0).bytes := carries
    have short : received.payload.length ≤ UDPSocket.mtu := by
      rw [payload, size]
      unfold UDPSocket.mtu
      omega
    have room : (0 : UInt32).toNat +
        65280 * (4 * segment.header.doff.toNat + segment.payload.length) < 2 ^ 32 := by
      rw [UInt32.toNat_zero]
      omega
    have parsed := (sender.withPorts segment).parse_checksummed {} 0 sendable.large sendable.small
      room
    rw [← payload] at parsed
    change Exists fun result => Exists fun next =>
      TCPOverUDPSocketAdapter.read receiver (.received received) = _ ∧ _
    unfold TCPOverUDPSocketAdapter.read
    rw [UDPSocket.recv_received _ short]
    dsimp only
    rcases TCPOverUDPSocketAdapter.accept_bytes { receiver with sock := receiver.sock.registerRead }
      parsed with refused | ⟨next, taken⟩
    · rw [refused]
      exact ⟨none, _, rfl, nofun⟩
    · rw [taken]
      refine ⟨some _, next, rfl, fun arrived same => ?_⟩
      cases same
      exact sender.checksummed_alike segment
  writes := by
    intro sender segment answers fault sendable failed
    rcases sender.withPorts_serialize sendable with ⟨payload, serialized, _⟩
    change sender.write segment answers = _ at failed
    unfold TCPOverUDPSocketAdapter.write at failed
    rw [serialized] at failed
    cases answers with
    | nil => cases failed
    | cons answer answers =>
        dsimp only at failed
        cases sent : UDPSocket.sendto sender.sock sender.config.destination payload answer with
        | error other =>
            rw [sent] at failed
            cases failed
            exact UDPSocket.sendto_not_format sent
        | ok datagram =>
            rw [sent] at failed
            cases failed
  serves := by
    intro adapter arrival result next done
    change adapter.read arrival = _ at done
    unfold TCPOverUDPSocketAdapter.read at done
    cases received : UDPSocket.recv adapter.sock arrival with
    | error fault =>
        rw [received] at done
        cases done
    | ok taken =>
        rcases taken with ⟨datagram, sock⟩
        rw [received] at done
        dsimp only at done
        cases accepted : TCPOverUDPSocketAdapter.accept { adapter with sock := sock } datagram with
        | error fault =>
            rw [accepted] at done
            cases done
        | ok pair =>
            rw [accepted] at done
            cases done
            change next.sock.readCount = _
            rw [TCPOverUDPSocketAdapter.accept_sock accepted, UDPSocket.recv_counts received]
            rfl
  fails := by
    intro adapter errno taken done
    change adapter.read (.failed errno) = _ at done
    unfold TCPOverUDPSocketAdapter.read at done
    split at done
    · cases done
    · next received => exact UDPSocket.recv_failed received
  parses := by
    intro adapter arrival fault failed
    change adapter.read arrival = _ at failed
    unfold TCPOverUDPSocketAdapter.read at failed
    split at failed
    · next received =>
        cases failed
        exact UDPSocket.recv_not_format received
    · next datagram sock _ =>
        rcases TCPOverUDPSocketAdapter.accept_ok { adapter with sock := sock } datagram with
          ⟨taken, accepted⟩
        rw [accepted] at failed
        cases failed

/-! ## TUN devices -/

namespace TCPOverIPv4OverTunFdAdapter

variable {adapter : TCPOverIPv4OverTunFdAdapter} {segment : TCPSegment}

/-- Whatever arrives, a packet is refused or its segment is taken. -/
theorem accept_ok (adapter : TCPOverIPv4OverTunFdAdapter) (packet : List UInt8) :
    Exists fun taken => adapter.accept packet = .ok taken := by
  rcases IPv4Datagram.parse_ok {} packet with ⟨datagram, result, payload, parsed, single, _⟩
  rcases adapter.adapter.unwrapTcpInIp_ok single with ⟨answer, unwraps⟩
  unfold accept
  simp only [parsed, unwraps, bind, Except.bind, pure, Except.pure]
  split
  · exact ⟨_, rfl⟩
  · exact ⟨_, rfl⟩

/-- The packet that a segment is sent in. -/
theorem written {datagram : IPv4Datagram} {changed : TCPSegment} {buffers : BufferList}
    (wrapped : adapter.adapter.wrapTcpInIp segment = .ok (datagram, changed))
    (sealed : datagram.serialize = .ok buffers) {answers : List CallAnswer}
    {sending : Sending TCPOverIPv4OverTunFdAdapter (List UInt8)}
    (done : adapter.write segment answers = .ok sending) :
    sending.sent = some buffers.concatenate := by
  unfold write at done
  rw [wrapped] at done
  dsimp only at done
  rw [sealed] at done
  cases answers with
  | nil => cases done
  | cons answer answers =>
      dsimp only at done
      cases sends : sendPacket adapter.tun buffers answer with
      | error fault =>
          rw [sends] at done
          cases done
      | ok tun =>
          rw [sends] at done
          cases done
          rfl

end TCPOverIPv4OverTunFdAdapter

end Loop
end Sponge
