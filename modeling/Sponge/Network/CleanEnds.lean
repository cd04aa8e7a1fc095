import Sponge.Network.AckRuns
import Sponge.Network.Progress

namespace Sponge
namespace Network

open Foundation Bytes Tcp

/-!
# A clean end is complete

A connection lingers or is closed only after its FIN has been acknowledged and the peer's FIN has
been assembled.  If segments are taken whole, then by this time everything that either side has
written is at the other one, and the peer has closed both of its streams as well.
-/

section

variable {source sink : Endpoint}

/-- The peer of a connection that has its whole stream has received and sent a FIN too. -/
theorem Confirmed.closes (confirmed : Confirmed source sink)
    (sound : source.connection.Sound) (ended : source.connection.receiver.streamOut.endFlag = true)
    (received : sink.connection.receiver.streamOut.endFlag = true) :
    source.connection.state.receiver = .finRecv ∧
      (source.connection.state.sender = .finSent ∨ source.connection.state.sender = .finAcked) := by
  rcases confirmed.speaks.receives.ended_le (confirmed.delivers.complete received).1 with
    ⟨_, used⟩
  have follows := confirmed.speaks.fidelity.follows
  have read := source.connection.sender.stream.bytesRead_le
  have written := follows.written_le
  have acked : 0 < source.connection.sender.window.firstSeqno := by
    by_contra unacked
    have few := (confirmed.orderly.paced.unacked (Nat.eq_zero_of_not_pos unacked)).2
    omega
  have isSet : source.connection.receiver.isSet = true := by
    by_contra unset
    have := confirmed.orderly.unheard (Bool.eq_false_of_not_eq_true unset)
    omega
  refine ⟨sound.summary_of_ended isSet ended, ?_⟩
  change TCPState.senderSummary _ = _ ∨ TCPState.senderSummary _ = _
  rcases sound.composed.summary_cases with ⟨unused, _⟩ | ⟨_, unacked, _⟩ | ⟨_, unfinished, _⟩ |
    ⟨_, _, _, sender⟩ | ⟨_, _, _, sender⟩
  · omega
  · omega
  · unfold TCPSender.Unfinished at unfinished
    omega
  · exact Or.inl sender
  · exact Or.inr sender

end

end Network
end Sponge
