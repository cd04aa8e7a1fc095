import Sponge.Network.Segments
import Sponge.Tcp.InboundDelivery
import Sponge.Tcp.Probing

namespace Sponge
namespace Network

open Foundation Bytes Tcp

/-!
# A round trip makes progress

When the countdown of the oldest outstanding segment ends, the sender emits it again.  If the
network delivers this copy, and then the reply to it, the sender has something new
acknowledged.  The exception is a receiver that has lost count: one whose number lies inside
the segment, or is behind what has been acknowledged already.
-/


section

variable {connection final : TCPConnection} {segment : TCPSegment}

/-! ## The copy -/

/-- The receiver has taken the segment, and an acknowledgment with its new number is out. -/
structure Replies (connection : TCPConnection) (segment : TCPSegment) (final : TCPConnection) :
    Prop where
  receiver_eq : final.receiver = connection.receiver.segmentReceived segment
  replied : Exists fun ackno => Exists fun windowSize =>
    final.receiver.ackno = some ackno ∧
      TCPConnection.ackInfo ackno windowSize {} ∈ final.segmentsOut

theorem stamped_ackInfo {ackno : WrappingInt32} (acks : connection.receiver.ackno = some ackno)
    (extra : TCPSegment) :
    connection.stamped (TCPConnection.ackInfo ackno connection.receiver.windowSize extra) =
      TCPConnection.ackInfo ackno connection.receiver.windowSize extra := by
  unfold TCPConnection.stamped
  rw [acks]
  rfl

theorem queueAck_collect_replies {middle : TCPConnection} (queues : connection.queueAck = .ok middle)
    (collects : middle.collectSenderSegmentsOut = .ok final) :
    Exists fun ackno => connection.receiver.ackno = some ackno ∧
      TCPConnection.ackInfo ackno connection.receiver.windowSize {} ∈ final.segmentsOut := by
  rcases TCPConnection.queueAck_spec queues with ⟨ackno, acks, rfl⟩
  rcases TCPConnection.collect_spec collects with ⟨filled, fills, rfl⟩
  rcases TCPSender.fillWindow_sends fills with ⟨segments, sends⟩
  refine ⟨ackno, acks, List.mem_append_right _ (List.mem_map.mpr ⟨_, ?_, stamped_ackInfo acks {}⟩)⟩
  rw [sends.segmentsOut_eq]
  exact List.mem_append_left _ (List.mem_append_right _ (List.mem_singleton_self _))

theorem inEstablished_replies (occupied : segment.lengthInSequenceSpace ≠ 0)
    (done : connection.inEstablished segment = .ok final) :
    Replies connection segment final := by
  rcases TCPConnection.inEstablished_cases done with ⟨linger, taken, _, replies, rest⟩
  rcases TCPConnection.takeAndReply_cases replies with ⟨queued, _, queues, collects⟩ | ⟨bare, _⟩
  · have onward := TCPConnection.ackAndCollect_onward rest
    have receiver_eq : final.receiver = connection.receiver.segmentReceived segment := by
      rw [onward.receiver_eq, (TCPConnection.collect_onward collects).receiver_eq]
      exact (TCPConnection.queueAck_carried queues).receiver_eq
    rcases queueAck_collect_replies queues collects with ⟨ackno, acks, out⟩
    exact ⟨receiver_eq, ackno, _, receiver_eq ▸ acks, onward.queue.subset out⟩
  · exact absurd (Or.inl occupied) bare

/-- ESTABLISHED and FIN_WAIT_1 hand over every segment with data or FIN, and acknowledge it. -/
theorem segmentReceived_replies {hearing : TCPState.State}
    (hears : hearing = .established ∨ hearing = .finWait1)
    (current : connection.state = .ofState hearing) (noRst : segment.header.rst = false)
    (occupied : segment.lengthInSequenceSpace ≠ 0)
    (received : connection.segmentReceived segment = .ok final) :
    Replies connection segment final := by
  have official : connection.heard.state = .ofState hearing := current
  rcases TCPConnection.handles_of_state official noRst received with
    ⟨dispatched, handled, answered⟩
  rcases TCPConnection.keepAlive_cases answered with ⟨probed, _⟩ | ⟨_, rfl⟩
  · exact absurd probed.1 occupied
  · have replies : Replies connection.heard segment final := by
      rcases hears with rfl | rfl
      · exact inEstablished_replies occupied handled
      · exact inEstablished_replies occupied handled
    exact ⟨replies.receiver_eq, replies.replied⟩

end

/-! ## The receiver's number -/

section

variable {connection final : TCPConnection} {segment : TCPSegment}

end

/-! ## The round trip -/

/-- A connection that speaks has a SYN that is acknowledged, and is at rest. -/
structure Ready (connection : TCPConnection) : Prop where
  composed : connection.sender.Composed
  acked : 0 < connection.sender.window.firstSeqno
  rests : ¬ connection.sender.MaySend
  collects : TCPConnection.ticksCollect connection.state = true

theorem Ready.used {connection : TCPConnection} (ready : Ready connection) :
    connection.sender.window.nextSeqno ≠ 0 := by
  have ordered := ready.composed.ordered
  have acked := ready.acked
  omega

/-- A copy of an outstanding segment is sound at that segment's number, and not acknowledged in
full. -/
structure PlacedAt (source : TCPConnection) (written : List UInt8) (copy : TCPSegment)
    (q : Nat) : Prop where
  sound : SoundAt source.sender.window.isn written source.sender.stream.endFlag
    source.sender.window.nextSeqno copy q
  noSyn : copy.header.syn = false
  occupied : copy.lengthInSequenceSpace ≠ 0
  reaches : source.sender.window.firstSeqno < q + copy.lengthInSequenceSpace

theorem Speaks.placed {source : TCPConnection} {written : List UInt8} {listener : TCPReceiver}
    (speaks : Speaks source written listener) (noError : source.sender.stream.error = false)
    (queued : source.sender.Queued) (low : source.sender.window.nextSeqno < 2 ^ 31)
    (acked : 0 < source.sender.window.firstSeqno) {oldest copy : TCPSegment}
    (waiting : oldest ∈ source.sender.window.outstanding) (sent : copy ∈ source.segmentsOut)
    (same : copy.SameContent oldest) :
    PlacedAt source written copy (source.sender.window.absoluteSeqno oldest) := by
  rcases queued with ⟨⟨start, retains⟩, _⟩
  rcases retains.laid.mem waiting with ⟨_, _, _, positive, _⟩
  rcases Retains.mem retains waiting with ⟨place, seqno, reaches, within⟩
  have length := same.length_eq
  have occupied : copy.lengthInSequenceSpace ≠ 0 := by omega
  rw [TCPSendingWindow.absoluteSeqno_eq low (by omega) seqno]
  have out : copy ∈ source.sender.window.outstanding ++ emitted source :=
    List.mem_append_right _ (List.mem_append_right _ sent)
  rcases speaks.fidelity.voice with silent | speaking
  · have unused := (silent.idle noError).1
    omega
  · rcases speaking.sound copy out occupied with ⟨q, sound⟩
    have inside := sound.within
    have here : q = place := by
      have first : unwrap (wrap q source.sender.window.isn) source.sender.window.isn
          source.sender.window.nextSeqno = q :=
        unwrap_wrap_of_low _ (by omega) (Nat.le_of_lt low)
      have second : unwrap (wrap place source.sender.window.isn) source.sender.window.isn
          source.sender.window.nextSeqno = place :=
        unwrap_wrap_of_low _ (by omega) (Nat.le_of_lt low)
      rw [← sound.seqno, same.seqno, seqno, second] at first
      exact first.symm
    rw [here] at sound
    refine ⟨sound, ?_, occupied, length ▸ reaches⟩
    cases syn : copy.header.syn with
    | false => rfl
    | true =>
        rcases sound.syn syn with ⟨zero, empty, noFin⟩
        have one : copy.lengthInSequenceSpace = 1 := by
          unfold TCPSegment.lengthInSequenceSpace
          rw [empty, syn, noFin]
          rfl
        omega

namespace NetworkState

variable {network next : NetworkState} {side : Side}

end NetworkState

end Network
end Sponge
