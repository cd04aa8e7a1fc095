import Sponge.Tcp.SenderPhases

namespace Sponge
namespace Tcp

open Foundation Bytes

/-!
# One number before the first acknowledgment

Until a number is acknowledged the window has size one.  If no acknowledgment
names number zero, which would change the size, a sender uses one number, for
its SYN, and waits.  Its FIN is then sent once.
-/

namespace TCPSender

/-- The numbers used are those of the SYN, the bytes read and the FIN. -/
def Placed (sender : TCPSender) : Prop :=
  sender.window.nextSeqno = 0 ∧ sender.stream.bytesRead = 0 ∨
    sender.Unfinished ∨ sender.Finished

/-- The sender uses one number until a number is acknowledged, and it sends
its FIN once. -/
structure Paced (sender : TCPSender) : Prop where
  ordered : sender.window.firstSeqno ≤ sender.window.nextSeqno
  unacked : sender.window.firstSeqno = 0 -> sender.window.windowSize = 1 ∧
    (sender.window.nextSeqno = 0 ∨
      sender.window.nextSeqno = 1 ∧ sender.window.outstanding ≠ [])
  placed : sender.stream.error = false -> sender.Placed

theorem new_paced (capacity : Capacity) (retxTimeout : UInt16) (isn : WrappingInt32) :
    (new capacity retxTimeout isn).Paced where
  ordered := Nat.le_refl 0
  unacked := fun _ => ⟨rfl, Or.inl rfl⟩
  placed := fun _ => Or.inl ⟨rfl, rfl⟩

/-- The one unacknowledged number fills the window. -/
theorem full_of_unacked {window : TCPSendingWindow} (first : window.firstSeqno = 0)
    (size : window.windowSize = 1) (next : window.nextSeqno = 1)
    (waiting : window.outstanding ≠ []) : window.full = true := by
  have busy : window.bufferEmpty = false := by
    unfold TCPSendingWindow.bufferEmpty
    cases shape : window.buffer with
    | nil =>
        unfold TCPSendingWindow.outstanding at waiting
        rw [shape] at waiting
        exact absurd rfl waiting
    | cons front rest => rfl
  unfold TCPSendingWindow.full TCPSendingWindow.windowClosed TCPSendingWindow.space
    TCPSendingWindow.bytesInFlight
  rw [busy, first, size, next]
  rfl

/-- A sender with room and nothing acknowledged has used no number. -/
theorem Paced.unused {sender : TCPSender} (paced : sender.Paced)
    (unacked : sender.window.firstSeqno = 0) (room : sender.window.full = false) :
    sender.window.nextSeqno = 0 := by
  rcases paced.unacked unacked with ⟨size, zero | ⟨one, waiting⟩⟩
  · exact zero
  · rw [full_of_unacked unacked size one waiting] at room
    cases room

theorem Paced.afterSyn {sender : TCPSender} (paced : sender.Paced)
    (closed : sender.state = .closed) : (sender.afterSending sender.synSegment).Paced := by
  rcases (state_closed_iff sender).mp closed with ⟨noError, zero⟩
  have ordered := paced.ordered
  have used : (sender.afterSending sender.synSegment).window.nextSeqno = 1 := by
    change sender.window.nextSeqno + 1 = 1
    rw [zero]
  refine ⟨?_, ?_, ?_⟩
  · exact Nat.le_trans ordered (Nat.le_add_right _ _)
  · intro unacked
    refine ⟨(paced.unacked unacked).1, Or.inr ⟨used, ?_⟩⟩
    change (TCPSendingWindow.appended _ _ _).outstanding ≠ []
    rw [TCPSendingWindow.appended_outstanding]
    exact List.append_ne_nil_of_right_ne_nil _ (List.cons_ne_nil _ _)
  · intro _
    right
    left
    unfold Unfinished
    rw [used]
    change 1 = 1 + sender.stream.bytesRead
    rcases paced.placed noError with unused | unfinished | finished
    · rw [unused.2]
    · unfold Unfinished at unfinished
      omega
    · have := finished.used
      omega

theorem Paced.afterData {sender : TCPSender} (paced : sender.Paced) (may : sender.MaySend) :
    (sender.popPayload.afterSending sender.dataSegment).Paced := by
  have ordered := paced.ordered
  refine ⟨Nat.le_trans ordered (Nat.le_add_right _ _), ?_, ?_⟩
  · intro unacked
    have zero := paced.unused unacked may.room
    have size := (paced.unacked unacked).1
    have fits := sender.dataSegment_length_le
    have nonempty := may.nonempty
    unfold TCPSendingWindow.space TCPSendingWindow.bytesInFlight at fits
    rw [size, zero, Nat.zero_sub, sub64_of_le (Nat.zero_le _) (by omega)] at fits
    refine ⟨size, Or.inr ⟨?_, ?_⟩⟩
    · change sender.window.nextSeqno + sender.dataSegment.lengthInSequenceSpace = 1
      omega
    · change (TCPSendingWindow.appended _ _ _).outstanding ≠ []
      rw [TCPSendingWindow.appended_outstanding]
      exact List.append_ne_nil_of_right_ne_nil _ (List.cons_ne_nil _ _)
  · intro noError
    right
    rcases paced.placed noError with unused | unfinished | finished
    · exact absurd ((state_closed_iff sender).mpr ⟨noError, unused.1⟩) may.notClosed
    · cases fin : sender.dataSegment.header.fin with
      | false => exact Or.inl (unfinished.afterData.1 fin)
      | true => exact Or.inr (unfinished.afterData.2 fin)
    · by_cases unacked : sender.window.firstSeqno = 0
      · have := paced.unused unacked may.room
        have := finished.used
        omega
      · exact absurd may (not_maySend_of_finished noError ordered finished.eof
          (Nat.le_of_eq finished.used.symm) (Nat.pos_of_ne_zero unacked))

theorem Paced.sends {sender final : TCPSender} {segments : List TCPSegment}
    (paced : sender.Paced) (sends : Sends sender segments final) : final.Paced := by
  induction sends with
  | rest sender => exact paced
  | syn closed room onward ih => exact ih (paced.afterSyn closed)
  | data may onward ih => exact ih (paced.afterData may)

/-! ## What else can happen to a sender -/

theorem Placed.frame {sender updated : TCPSender} (placed : sender.Placed)
    (stream_eq : updated.stream = sender.stream)
    (nextSeqno_eq : updated.window.nextSeqno = sender.window.nextSeqno) : updated.Placed := by
  rcases placed with unused | unfinished | finished
  · left
    rw [nextSeqno_eq, stream_eq]
    exact unused
  · exact Or.inr (Or.inl (unfinished.frame stream_eq nextSeqno_eq))
  · exact Or.inr (Or.inr (finished.frame stream_eq nextSeqno_eq))

/-- Pacing is a matter of the stream and the window. -/
theorem Paced.carryOver {sender updated : TCPSender} (paced : sender.Paced)
    (stream_eq : updated.stream = sender.stream) (window_eq : updated.window = sender.window) :
    updated.Paced := by
  refine ⟨?_, ?_, ?_⟩
  · rw [window_eq]
    exact paced.ordered
  · rw [window_eq]
    exact paced.unacked
  · rw [stream_eq]
    exact fun noError => (paced.placed noError).frame stream_eq (by rw [window_eq])

theorem Placed.write {sender : TCPSender} (placed : sender.Placed) (data : List UInt8) :
    { sender with stream := (sender.stream.write data).1 }.Placed := by
  rcases placed with unused | unfinished | finished
  · left
    dsimp only
    rw [ByteStream.write_bytesRead]
    exact unused
  · exact Or.inr (Or.inl (unfinished.write data))
  · exact Or.inr (Or.inr (finished.write data))

theorem Placed.endInput {sender : TCPSender} (placed : sender.Placed) :
    { sender with stream := sender.stream.endInput }.Placed := by
  rcases placed with unused | unfinished | finished
  · exact Or.inl unused
  · exact Or.inr (Or.inl unfinished)
  · exact Or.inr (Or.inr finished.endInput)

theorem Paced.write {sender : TCPSender} (paced : sender.Paced) (data : List UInt8) :
    { sender with stream := (sender.stream.write data).1 }.Paced := by
  refine ⟨paced.ordered, paced.unacked, ?_⟩
  intro noError
  dsimp only at noError
  rw [ByteStream.write_error] at noError
  exact (paced.placed noError).write data

theorem Paced.endInput {sender : TCPSender} (paced : sender.Paced) :
    { sender with stream := sender.stream.endInput }.Paced :=
  ⟨paced.ordered, paced.unacked, fun noError => (paced.placed noError).endInput⟩

theorem Paced.setError {sender : TCPSender} (paced : sender.Paced) :
    { sender with stream := sender.stream.setError }.Paced :=
  ⟨paced.ordered, paced.unacked, fun noError => nomatch noError⟩

theorem Paced.ticked {sender updated : TCPSender} (paced : sender.Paced)
    (ticked : sender.Ticked updated) : updated.Paced := by
  refine ⟨?_, ?_, ?_⟩
  · rw [ticked.firstSeqno_eq, ticked.nextSeqno_eq]
    exact paced.ordered
  · rw [ticked.firstSeqno_eq, ticked.nextSeqno_eq, ticked.windowSize_eq, ticked.outstanding_eq]
    exact paced.unacked
  · rw [ticked.stream_eq]
    exact fun noError => (paced.placed noError).frame ticked.stream_eq ticked.nextSeqno_eq

/-- An acknowledgment of a number other than zero. -/
theorem Paced.tookAck {sender updated : TCPSender} {ackno : WrappingInt32} {windowSize : UInt16}
    (paced : sender.Paced) (took : sender.TookAck ackno windowSize updated)
    (positive : 1 ≤ unwrap ackno sender.window.isn sender.window.nextSeqno) :
    updated.Paced := by
  have placed : updated.stream.error = false -> updated.Placed := by
    rw [took.stream_eq]
    exact fun noError => (paced.placed noError).frame took.stream_eq took.nextSeqno_eq
  have first := took.firstSeqno_eq
  have size := took.windowSize_eq
  by_cases accepts : sender.window.Accepts ackno
  · rw [if_pos accepts] at first
    refine ⟨?_, ?_, placed⟩
    · rw [first, took.nextSeqno_eq]
      exact accepts.2
    · intro unacked
      omega
  · rw [if_neg accepts] at first size
    have queue : updated.window.outstanding = sender.window.outstanding := by
      rcases took.outstanding_eq with ⟨_, same⟩ | ⟨accepted, _⟩
      · exact same
      · exact absurd accepted accepts
    refine ⟨?_, ?_, placed⟩
    · rw [first, took.nextSeqno_eq]
      exact paced.ordered
    · rw [first, took.nextSeqno_eq, size, queue]
      exact paced.unacked

/-- FIN_ACKED: everything up to the FIN is acknowledged. -/
theorem Paced.acked_of_finAcked {sender : TCPSender} (paced : sender.Paced)
    (finAcked : sender.state = .finAcked) :
    sender.window.firstSeqno = sender.stream.bytesWritten + 2 := by
  have ordered := paced.ordered
  unfold state nextSeqnoAbsolute bytesInFlight TCPSendingWindow.bytesInFlight at finAcked
  split at finAcked
  · cases finAcked
  · rename_i noError
    split at finAcked
    · cases finAcked
    · rename_i used
      split at finAcked
      · cases finAcked
      · rename_i notSyn
        split at finAcked
        · cases finAcked
        · rename_i notOpen
          split at finAcked
          · cases finAcked
          · rename_i notShort
            split at finAcked
            · cases finAcked
            · rename_i notFin
              have eof : sender.stream.eof = true := by
                by_contra more
                exact notOpen ⟨by omega, more⟩
              have all := bytesRead_of_eof eof
              rcases paced.placed (Bool.eq_false_of_not_eq_true noError) with
                unused | unfinished | finished
              · exact absurd unused.1 used
              · unfold Unfinished at unfinished
                exact absurd ⟨eof, by omega⟩ notShort
              · have last := finished.used
                by_contra inFlight
                exact notFin ⟨eof, last, by omega⟩

end TCPSender
end Tcp
end Sponge
