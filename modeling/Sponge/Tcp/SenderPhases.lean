import Sponge.Tcp.Sender

namespace Sponge
namespace Tcp

open Foundation Bytes

/-!
# Before and after the FIN

A sender in no error whose SYN is out has used one number for the SYN and one
for each byte read from its stream.  The FIN takes one more, right after the
last byte.  Once the SYN is acknowledged nothing follows the FIN.
-/

namespace TCPSender

/-- The SYN is out and the FIN is not. -/
def Unfinished (sender : TCPSender) : Prop :=
  sender.window.nextSeqno = 1 + sender.stream.bytesRead

/-- The FIN is out, right after the last byte. -/
structure Finished (sender : TCPSender) : Prop where
  eof : sender.stream.eof = true
  used : sender.window.nextSeqno = sender.stream.bytesWritten + 2

theorem Unfinished.frame {sender updated : TCPSender} (unfinished : sender.Unfinished)
    (stream_eq : updated.stream = sender.stream)
    (nextSeqno_eq : updated.window.nextSeqno = sender.window.nextSeqno) : updated.Unfinished := by
  unfold Unfinished
  rw [nextSeqno_eq, stream_eq]
  exact unfinished

theorem Finished.frame {sender updated : TCPSender} (finished : sender.Finished)
    (stream_eq : updated.stream = sender.stream)
    (nextSeqno_eq : updated.window.nextSeqno = sender.window.nextSeqno) : updated.Finished := by
  constructor
  · rw [stream_eq]
    exact finished.eof
  · rw [nextSeqno_eq, stream_eq]
    exact finished.used

theorem Unfinished.write {sender : TCPSender} (unfinished : sender.Unfinished)
    (data : List UInt8) :
    { sender with stream := (sender.stream.write data).1 }.Unfinished := by
  unfold Unfinished
  dsimp only
  rw [ByteStream.write_bytesRead]
  exact unfinished

theorem Finished.write {sender : TCPSender} (finished : sender.Finished) (data : List UInt8) :
    { sender with stream := (sender.stream.write data).1 }.Finished := by
  rw [ByteStream.write_of_ended ((ByteStream.eof_iff _).mp finished.eof).1]
  exact finished

theorem endInput_eof {stream : ByteStream} (eof : stream.eof = true) :
    stream.endInput.eof = true :=
  (ByteStream.eof_iff _).mpr ⟨rfl, ((ByteStream.eof_iff _).mp eof).2⟩

theorem Finished.endInput {sender : TCPSender} (finished : sender.Finished) :
    { sender with stream := sender.stream.endInput }.Finished :=
  ⟨endInput_eof finished.eof, finished.used⟩

/-- One round of the sending loop, with and without a FIN. -/
theorem Unfinished.afterData {sender : TCPSender} (unfinished : sender.Unfinished) :
    (sender.dataSegment.header.fin = false ->
        (sender.popPayload.afterSending sender.dataSegment).Unfinished) ∧
      (sender.dataSegment.header.fin = true ->
        (sender.popPayload.afterSending sender.dataSegment).Finished) := by
  have length := sender.dataSegment_length
  have read := sender.popPayload_bytesRead
  unfold Unfinished at unfinished
  constructor
  · intro noFin
    rw [noFin, if_neg Bool.false_ne_true] at length
    change sender.window.nextSeqno + sender.dataSegment.lengthInSequenceSpace =
      1 + sender.popPayload.stream.bytesRead
    omega
  · intro fin
    rw [if_pos fin] at length
    have eof := dataSegment_fin_eof fin
    have all : sender.popPayload.stream.bytesRead = sender.stream.bytesWritten :=
      bytesRead_of_eof eof
    refine ⟨eof, ?_⟩
    change sender.window.nextSeqno + sender.dataSegment.lengthInSequenceSpace =
      sender.stream.bytesWritten + 2
    omega

/-- With the SYN acknowledged, the input ended and the FIN sent, the sender's
state is one of the two that stop the sending loop. -/
theorem not_maySend_of_finished {sender : TCPSender} (noError : sender.stream.error = false)
    (ordered : sender.window.firstSeqno ≤ sender.window.nextSeqno)
    (eof : sender.stream.eof = true)
    (sent : sender.stream.bytesWritten + 2 ≤ sender.window.nextSeqno)
    (acked : 0 < sender.window.firstSeqno) : ¬ sender.MaySend := by
  intro may
  have notFinSent := may.notFinSent
  have notFinAcked := may.notFinAcked
  unfold state nextSeqnoAbsolute bytesInFlight TCPSendingWindow.bytesInFlight at notFinSent
  unfold state nextSeqnoAbsolute bytesInFlight TCPSendingWindow.bytesInFlight at notFinAcked
  rw [noError, eof] at notFinSent notFinAcked
  have used : sender.window.nextSeqno ≠ 0 := by omega
  have noSyn : ¬ (sender.window.nextSeqno > 0 ∧ sender.window.nextSeqno =
      sender.window.nextSeqno - sender.window.firstSeqno) := by omega
  have notShort : ¬ (True ∧ sender.window.nextSeqno < sender.stream.bytesWritten + 2) := by omega
  simp only [Bool.false_eq_true, if_false, if_neg used, if_neg noSyn, not_true_eq_false,
    and_false, if_neg notShort] at notFinSent notFinAcked
  split at notFinAcked
  · rename_i inFlight
    rw [if_pos inFlight] at notFinSent
    exact notFinSent rfl
  · exact notFinAcked rfl

/-- After the FIN, and with the SYN acknowledged, nothing is sent. -/
theorem Sends.rests_of_finished {sender final : TCPSender} {segments : List TCPSegment}
    (sends : Sends sender segments final) (noError : sender.stream.error = false)
    (ordered : sender.window.firstSeqno ≤ sender.window.nextSeqno)
    (acked : 0 < sender.window.firstSeqno) (finished : sender.Finished) : final = sender := by
  cases sends with
  | rest => rfl
  | syn closed room onward =>
      have := ((state_closed_iff _).mp closed).2
      omega
  | data may onward =>
      exact absurd may (not_maySend_of_finished noError ordered finished.eof
        (Nat.le_of_eq finished.used.symm) acked)

/-- With the SYN acknowledged, filling the window sends the FIN at most once,
and then as a number that is not acknowledged yet. -/
theorem Sends.unfinished {sender final : TCPSender} {segments : List TCPSegment}
    (sends : Sends sender segments final) (noError : sender.stream.error = false)
    (ordered : sender.window.firstSeqno ≤ sender.window.nextSeqno)
    (acked : 0 < sender.window.firstSeqno) (unfinished : sender.Unfinished) :
    final.Unfinished ∨ (final.Finished ∧ sender.window.nextSeqno < final.window.nextSeqno) := by
  induction sends with
  | rest sender => exact Or.inl unfinished
  | syn closed room onward ih =>
      have := ((state_closed_iff _).mp closed).2
      omega
  | @data sender final segments may onward ih =>
      have grown : sender.window.nextSeqno <
          (sender.popPayload.afterSending sender.dataSegment).window.nextSeqno :=
        Nat.lt_add_of_pos_right (Nat.pos_of_ne_zero may.nonempty)
      have next := unfinished.afterData
      cases fin : sender.dataSegment.header.fin with
      | false =>
          rcases ih noError (Nat.le_trans ordered (Nat.le_of_lt grown)) acked (next.1 fin) with
            still | ⟨finished, further⟩
          · exact Or.inl still
          · exact Or.inr ⟨finished, Nat.lt_trans grown further⟩
      | true =>
          right
          have finished := next.2 fin
          have ends := onward.rests_of_finished noError
            (Nat.le_trans ordered (Nat.le_of_lt grown)) acked finished
          rw [ends]
          exact ⟨finished, grown⟩

end TCPSender
end Tcp
end Sponge
