import Sponge.Tcp.SenderPhases
import Sponge.Tcp.State

namespace Sponge
namespace Tcp

open Foundation Bytes

/-!
# The sender's part of a connection's state

A sender in no error, whatever it was sent, has one of five summaries.  Which
one is decided by what has been acknowledged and by whether the FIN is out.
-/

namespace TCPSender

/-- The FIN is out, once or more often. -/
structure FinOut (sender : TCPSender) : Prop where
  eof : sender.stream.eof = true
  used : sender.stream.bytesWritten + 2 ≤ sender.window.nextSeqno

/-- A sender in no error, with its numbers in order. -/
structure Composed (sender : TCPSender) : Prop where
  noError : sender.stream.error = false
  ordered : sender.window.firstSeqno ≤ sender.window.nextSeqno
  placed : sender.window.nextSeqno = 0 ∧ sender.stream.bytesRead = 0 ∨
    sender.Unfinished ∨ sender.FinOut

/-- The FIN is still to come, or is out and waits for its acknowledgment. -/
def Awaits (sender : TCPSender) : Prop :=
  sender.Unfinished ∨ sender.Finished ∧ sender.window.firstSeqno < sender.window.nextSeqno

theorem Finished.finOut {sender : TCPSender} (finished : sender.Finished) : sender.FinOut :=
  ⟨finished.eof, Nat.le_of_eq finished.used.symm⟩

theorem new_composed (capacity : Capacity) (retxTimeout : UInt16) (isn : WrappingInt32) :
    (new capacity retxTimeout isn).Composed :=
  ⟨rfl, Nat.le_refl 0, Or.inl ⟨rfl, rfl⟩⟩

/-! ## The summary -/

/-- The five summaries of a sender in no error. -/
theorem Composed.summary_cases {sender : TCPSender} (composed : sender.Composed) :
    (sender.window.nextSeqno = 0 ∧ TCPState.senderSummary sender = .closed) ∨
    (sender.window.nextSeqno ≠ 0 ∧ sender.window.firstSeqno = 0 ∧
      TCPState.senderSummary sender = .synSent) ∨
    (0 < sender.window.firstSeqno ∧ sender.Unfinished ∧
      TCPState.senderSummary sender = .synAcked) ∨
    (0 < sender.window.firstSeqno ∧ sender.FinOut ∧
      sender.window.firstSeqno < sender.window.nextSeqno ∧
      TCPState.senderSummary sender = .finSent) ∨
    (0 < sender.window.firstSeqno ∧ sender.FinOut ∧
      sender.window.firstSeqno = sender.window.nextSeqno ∧
      TCPState.senderSummary sender = .finAcked) := by
  have ordered := composed.ordered
  unfold TCPState.senderSummary nextSeqnoAbsolute bytesInFlight TCPSendingWindow.bytesInFlight
  rw [composed.noError, if_neg Bool.false_ne_true]
  by_cases zero : sender.window.nextSeqno = 0
  · rw [if_pos zero]
    exact Or.inl ⟨zero, rfl⟩
  · rw [if_neg zero]
    right
    by_cases unacked : sender.window.firstSeqno = 0
    · rw [if_pos (by omega)]
      exact Or.inl ⟨zero, unacked, rfl⟩
    · rw [if_neg (by omega)]
      have acked := Nat.pos_of_ne_zero unacked
      right
      rcases composed.placed with unused | unfinished | finOut
      · exact absurd unused.1 zero
      · left
        refine ⟨acked, unfinished, ?_⟩
        by_cases eof : sender.stream.eof = true
        · have all := bytesRead_of_eof eof
          unfold Unfinished at unfinished
          rw [if_neg (not_not.mpr eof), if_pos (by omega)]
        · exact if_pos eof
      · right
        have used := finOut.used
        rw [if_neg (not_not.mpr finOut.eof), if_neg (by omega)]
        by_cases all : sender.window.firstSeqno = sender.window.nextSeqno
        · right
          refine ⟨acked, finOut, all, ?_⟩
          rw [if_neg (by omega)]
        · left
          refine ⟨acked, finOut, by omega, ?_⟩
          rw [if_pos (by omega)]

/-! ## Filling the window -/

theorem popPayload_eof {sender : TCPSender} (eof : sender.stream.eof = true) :
    sender.popPayload.stream.eof = true := by
  rcases (ByteStream.eof_iff _).mp eof with ⟨ended, empty⟩
  unfold popPayload
  rw [ByteStream.read_snd, ByteStream.eof_iff, ByteStream.popOutput_bufferSize, empty]
  exact ⟨ended, Nat.zero_sub _⟩

theorem FinOut.sends {sender final : TCPSender} {segments : List TCPSegment}
    (finOut : sender.FinOut) (sends : Sends sender segments final) : final.FinOut := by
  induction sends with
  | rest sender => exact finOut
  | syn closed room onward ih =>
      exact ih ⟨finOut.eof, Nat.le_trans finOut.used (Nat.le_add_right _ _)⟩
  | data may onward ih =>
      exact ih ⟨popPayload_eof finOut.eof, Nat.le_trans finOut.used (Nat.le_add_right _ _)⟩

theorem Composed.sends {sender final : TCPSender} {segments : List TCPSegment}
    (composed : sender.Composed) (sends : Sends sender segments final) : final.Composed := by
  induction sends with
  | rest sender => exact composed
  | @syn sender final segments closed room onward ih =>
      apply ih
      have zero := ((state_closed_iff _).mp closed).2
      refine ⟨composed.noError, Nat.le_trans composed.ordered (Nat.le_add_right _ _), ?_⟩
      right
      left
      change sender.window.nextSeqno + 1 = 1 + sender.stream.bytesRead
      rcases composed.placed with unused | unfinished | finOut
      · omega
      · unfold Unfinished at unfinished
        omega
      · have := finOut.used
        omega
  | @data sender final segments may onward ih =>
      apply ih
      refine ⟨composed.noError, Nat.le_trans composed.ordered (Nat.le_add_right _ _), ?_⟩
      right
      rcases composed.placed with unused | unfinished | finOut
      · exact absurd ((state_closed_iff sender).mpr ⟨composed.noError, unused.1⟩) may.notClosed
      · cases fin : sender.dataSegment.header.fin with
        | false => exact Or.inl (unfinished.afterData.1 fin)
        | true => exact Or.inr (unfinished.afterData.2 fin).finOut
      · right
        exact ⟨popPayload_eof finOut.eof, Nat.le_trans finOut.used (Nat.le_add_right _ _)⟩

theorem Awaits.sends {sender final : TCPSender} {segments : List TCPSegment}
    (awaits : sender.Awaits) (composed : sender.Composed) (acked : 0 < sender.window.firstSeqno)
    (sends : Sends sender segments final) : final.Awaits := by
  rcases awaits with unfinished | ⟨finished, waiting⟩
  · rcases sends.unfinished composed.noError composed.ordered acked unfinished with
      still | ⟨finished, further⟩
    · exact Or.inl still
    · right
      refine ⟨finished, ?_⟩
      rw [sends.frame.firstSeqno_eq]
      exact Nat.lt_of_le_of_lt composed.ordered further
  · rw [sends.rests_of_finished composed.noError composed.ordered acked finished]
    exact Or.inr ⟨finished, waiting⟩

/-- Filling the window of a sender in no error opens it. -/
theorem fillWindow_opens {sender final : TCPSender} (noError : sender.stream.error = false)
    (filled : sender.fillWindow = .ok final) : final.window.nextSeqno ≠ 0 := by
  rcases fillWindow_cases filled with ⟨_, _, loops⟩ | ⟨notClosed, _⟩
  · rcases fillLoop_sends ((sender.afterSending sender.synSegment).window.space + 1) _
      sender.afterSyn_not_closed with ⟨last, segments, looped, sends⟩
    cases looped.symm.trans loops
    have onward : sender.window.nextSeqno + 1 ≤ _ := sends.frame.nextSeqno_le
    omega
  · rcases fillWindow_sends filled with ⟨segments, sends⟩
    have onward := sends.frame.nextSeqno_le
    intro zero
    apply notClosed
    exact (state_closed_iff sender).mpr ⟨noError, by omega⟩

/-- A sender at rest, once opened, has nothing to send. -/
theorem Sends.eq_of_resting {sender final : TCPSender} {segments : List TCPSegment}
    (sends : Sends sender segments final) (opened : sender.window.nextSeqno ≠ 0)
    (rests : ¬ sender.MaySend) : final = sender := by
  cases sends with
  | rest => rfl
  | syn closed room onward => exact absurd ((state_closed_iff _).mp closed).2 opened
  | data may onward => exact absurd may rests

/-! ## Reaching the FIN -/

/-- With the given first unacknowledged number and window size: the input has
ended, and the FIN is out or the free space holds what is still to be sent,
FIN included. -/
def ReachesFin (sender : TCPSender) (first windowSize : Nat) : Prop :=
  sender.stream.endFlag = true ∧
    (sender.stream.bytesWritten + 2 ≤ sender.window.nextSeqno ∨
      sender.stream.bytesWritten - sender.stream.bytesRead <
        sub64 windowSize (sender.window.nextSeqno - first))

instance (sender : TCPSender) (first windowSize : Nat) :
    Decidable (sender.ReachesFin first windowSize) :=
  inferInstanceAs (Decidable (_ ∧ _))

/-- Before the FIN, and with the SYN acknowledged, neither state that stops
the sending loop holds. -/
theorem Unfinished.state_eq {sender : TCPSender} (unfinished : sender.Unfinished)
    (noError : sender.stream.error = false) (acked : 0 < sender.window.firstSeqno) :
    sender.state = .synAcked := by
  unfold Unfinished at unfinished
  unfold state nextSeqnoAbsolute bytesInFlight TCPSendingWindow.bytesInFlight
  rw [noError, if_neg Bool.false_ne_true, if_neg (by omega), if_neg (by omega)]
  by_cases eof : sender.stream.eof = true
  · have all := bytesRead_of_eof eof
    rw [if_neg (fun short => short.2 eof), if_pos ⟨eof, by omega⟩]
  · rw [if_pos ⟨by omega, eof⟩]

/-- A sender whose free space holds everything up to the FIN goes on. -/
theorem Unfinished.maySend {sender : TCPSender} (unfinished : sender.Unfinished)
    (noError : sender.stream.error = false) (acked : 0 < sender.window.firstSeqno)
    (ended : sender.stream.endFlag = true) (size : sender.window.windowSize ≠ 0)
    (room : sender.stream.bufferSize < sender.window.space) : sender.MaySend := by
  have state := unfinished.state_eq noError acked
  have notFull : sender.window.full = false := by
    unfold TCPSendingWindow.full TCPSendingWindow.windowClosed
    rw [beq_false_of_ne size, if_neg Bool.false_ne_true]
    split
    · rfl
    · exact beq_false_of_ne (by omega)
  have pending : (!sender.stream.bufferEmpty || sender.stream.eof) = true := by
    unfold ByteStream.eof
    rw [ended, Bool.true_and]
    exact Bool.not_or_self _
  refine ⟨?_, ?_, ?_, ?_, ?_⟩
  · rw [state]
    exact nofun
  · unfold wantsToSend
    rw [pending, notFull]
    rfl
  · rw [state]
    exact nofun
  · rw [state]
    exact nofun
  · intro empty
    have none := popPayload_of_empty empty
    have length := sender.dataSegment_length
    have payload := sender.dataSegment_payload_length
    have nothing : sender.payloadSize = 0 := by omega
    have drained : sender.stream.bufferSize = 0 := by
      unfold payloadSize TCPConfig.maxPayloadSize at nothing
      omega
    have fin : sender.dataSegment.header.fin = true := by
      change (sender.popPayload.stream.eof &&
        decide (sender.dataSegment.payload.length < sender.window.space)) = true
      rw [none, (ByteStream.eof_iff _).mpr ⟨ended, drained⟩, Bool.true_and, payload]
      exact decide_eq_true (by omega)
    rw [fin, if_pos rfl] at length
    omega

/-- If the free space holds everything up to the FIN, filling the window
sends the FIN. -/
theorem Sends.finOut {sender final : TCPSender} {segments : List TCPSegment}
    (sends : Sends sender segments final) (rests : ¬ final.MaySend)
    (composed : sender.Composed) (unfinished : sender.Unfinished)
    (acked : 0 < sender.window.firstSeqno) (ended : sender.stream.endFlag = true)
    (size : sender.window.windowSize ≠ 0)
    (room : sender.stream.bufferSize < sender.window.space) : final.FinOut := by
  induction sends with
  | rest sender => exact absurd (unfinished.maySend composed.noError acked ended size room) rests
  | syn closed _ onward ih =>
      have := ((state_closed_iff _).mp closed).2
      have := composed.ordered
      omega
  | @data sender final segments may onward ih =>
      cases fin : sender.dataSegment.header.fin with
      | true => exact (unfinished.afterData.2 fin).finOut.sends onward
      | false =>
          have fits := sender.dataSegment_length_le
          have length := sender.dataSegment_length
          have payload := sender.dataSegment_payload_length
          have space : (sender.popPayload.afterSending sender.dataSegment).window.space =
              sender.window.space - sender.dataSegment.lengthInSequenceSpace :=
            afterSending_space composed.ordered fits
          have drained : (sender.popPayload.afterSending
              sender.dataSegment).stream.bufferSize =
                sender.stream.bufferSize - sender.payloadSize :=
            ByteStream.popOutput_bufferSize _ _
          rw [fin, if_neg Bool.false_ne_true] at length
          have next := composed.sends (.data may (.rest _))
          refine ih rests next (unfinished.afterData.1 fin) acked ended size ?_
          have small : sender.payloadSize ≤ sender.stream.bufferSize := by
            unfold payloadSize
            omega
          omega

/-! ## What else can happen to a sender -/

theorem FinOut.frame {sender updated : TCPSender} (finOut : sender.FinOut)
    (stream_eq : updated.stream = sender.stream)
    (nextSeqno_eq : updated.window.nextSeqno = sender.window.nextSeqno) : updated.FinOut := by
  constructor
  · rw [stream_eq]
    exact finOut.eof
  · rw [nextSeqno_eq, stream_eq]
    exact finOut.used

theorem FinOut.write {sender : TCPSender} (finOut : sender.FinOut) (data : List UInt8) :
    { sender with stream := (sender.stream.write data).1 }.FinOut := by
  rw [ByteStream.write_of_ended ((ByteStream.eof_iff _).mp finOut.eof).1]
  exact finOut

theorem FinOut.endInput {sender : TCPSender} (finOut : sender.FinOut) :
    { sender with stream := sender.stream.endInput }.FinOut :=
  ⟨endInput_eof finOut.eof, finOut.used⟩

theorem Awaits.frame {sender updated : TCPSender} (awaits : sender.Awaits)
    (stream_eq : updated.stream = sender.stream)
    (nextSeqno_eq : updated.window.nextSeqno = sender.window.nextSeqno)
    (firstSeqno_eq : updated.window.firstSeqno = sender.window.firstSeqno) : updated.Awaits := by
  rcases awaits with unfinished | ⟨finished, waiting⟩
  · exact Or.inl (unfinished.frame stream_eq nextSeqno_eq)
  · right
    refine ⟨finished.frame stream_eq nextSeqno_eq, ?_⟩
    rw [nextSeqno_eq, firstSeqno_eq]
    exact waiting

theorem Awaits.write {sender : TCPSender} (awaits : sender.Awaits) (data : List UInt8) :
    { sender with stream := (sender.stream.write data).1 }.Awaits := by
  rcases awaits with unfinished | ⟨finished, waiting⟩
  · exact Or.inl (unfinished.write data)
  · exact Or.inr ⟨finished.write data, waiting⟩

theorem Awaits.endInput {sender : TCPSender} (awaits : sender.Awaits) :
    { sender with stream := sender.stream.endInput }.Awaits := by
  rcases awaits with unfinished | ⟨finished, waiting⟩
  · exact Or.inl unfinished
  · exact Or.inr ⟨finished.endInput, waiting⟩

theorem Composed.frame {sender updated : TCPSender} (composed : sender.Composed)
    (stream_eq : updated.stream = sender.stream)
    (nextSeqno_eq : updated.window.nextSeqno = sender.window.nextSeqno)
    (ordered : updated.window.firstSeqno ≤ updated.window.nextSeqno) : updated.Composed := by
  refine ⟨?_, ordered, ?_⟩
  · rw [stream_eq]
    exact composed.noError
  · rcases composed.placed with unused | unfinished | finOut
    · left
      rw [nextSeqno_eq, stream_eq]
      exact unused
    · exact Or.inr (Or.inl (unfinished.frame stream_eq nextSeqno_eq))
    · exact Or.inr (Or.inr (finOut.frame stream_eq nextSeqno_eq))

theorem Composed.write {sender : TCPSender} (composed : sender.Composed) (data : List UInt8) :
    { sender with stream := (sender.stream.write data).1 }.Composed := by
  refine ⟨(ByteStream.write_error _ _).trans composed.noError, composed.ordered, ?_⟩
  rcases composed.placed with unused | unfinished | finOut
  · left
    dsimp only
    rw [ByteStream.write_bytesRead]
    exact unused
  · exact Or.inr (Or.inl (unfinished.write data))
  · exact Or.inr (Or.inr (finOut.write data))

theorem Composed.endInput {sender : TCPSender} (composed : sender.Composed) :
    { sender with stream := sender.stream.endInput }.Composed := by
  refine ⟨composed.noError, composed.ordered, ?_⟩
  rcases composed.placed with unused | unfinished | finOut
  · exact Or.inl unused
  · exact Or.inr (Or.inl unfinished)
  · exact Or.inr (Or.inr finOut.endInput)

theorem TookAck.ordered {sender updated : TCPSender} {ackno : WrappingInt32}
    {windowSize : UInt16} (took : sender.TookAck ackno windowSize updated)
    (ordered : sender.window.firstSeqno ≤ sender.window.nextSeqno) :
    sender.window.firstSeqno ≤ updated.window.firstSeqno ∧
      updated.window.firstSeqno ≤ updated.window.nextSeqno := by
  rw [took.firstSeqno_eq, took.nextSeqno_eq]
  split
  · rename_i accepts
    exact accepts
  · exact ⟨Nat.le_refl _, ordered⟩

theorem Composed.tookAck {sender updated : TCPSender} {ackno : WrappingInt32}
    {windowSize : UInt16} (composed : sender.Composed)
    (took : sender.TookAck ackno windowSize updated) : updated.Composed :=
  composed.frame took.stream_eq took.nextSeqno_eq (took.ordered composed.ordered).2

/-- Senders that differ in their queues and timers only. -/
structure Alike (sender updated : TCPSender) : Prop where
  stream_eq : updated.stream = sender.stream
  isn_eq : updated.window.isn = sender.window.isn
  firstSeqno_eq : updated.window.firstSeqno = sender.window.firstSeqno
  nextSeqno_eq : updated.window.nextSeqno = sender.window.nextSeqno
  windowSize_eq : updated.window.windowSize = sender.window.windowSize
  outstanding_eq : updated.window.outstanding = sender.window.outstanding

theorem alike_of_window {sender updated : TCPSender}
    (stream_eq : updated.stream = sender.stream) (window_eq : updated.window = sender.window) :
    Alike sender updated := by
  refine ⟨stream_eq, ?_, ?_, ?_, ?_, ?_⟩
  · rw [window_eq]
  · rw [window_eq]
  · rw [window_eq]
  · rw [window_eq]
  · rw [window_eq]

theorem Ticked.alike {sender updated : TCPSender} (ticked : sender.Ticked updated) :
    Alike sender updated :=
  ⟨ticked.stream_eq, ticked.isn_eq, ticked.firstSeqno_eq, ticked.nextSeqno_eq,
    ticked.windowSize_eq, ticked.outstanding_eq⟩

theorem Alike.trans {sender middle updated : TCPSender} (first : Alike sender middle)
    (second : Alike middle updated) : Alike sender updated :=
  ⟨second.stream_eq.trans first.stream_eq, second.isn_eq.trans first.isn_eq,
    second.firstSeqno_eq.trans first.firstSeqno_eq, second.nextSeqno_eq.trans first.nextSeqno_eq,
    second.windowSize_eq.trans first.windowSize_eq,
    second.outstanding_eq.trans first.outstanding_eq⟩

theorem Composed.alike {sender updated : TCPSender} (composed : sender.Composed)
    (alike : Alike sender updated) : updated.Composed := by
  apply composed.frame alike.stream_eq alike.nextSeqno_eq
  rw [alike.firstSeqno_eq, alike.nextSeqno_eq]
  exact composed.ordered

/-- Whether the sending loop goes on depends on neither. -/
theorem MaySend.alike {sender updated : TCPSender} (may : updated.MaySend)
    (alike : Alike sender updated) : sender.MaySend := by
  rcases alike with ⟨stream_eq, _, firstSeqno_eq, nextSeqno_eq, windowSize_eq, outstanding_eq⟩
  have state_eq : updated.state = sender.state := by
    unfold state nextSeqnoAbsolute bytesInFlight TCPSendingWindow.bytesInFlight
    rw [stream_eq, firstSeqno_eq, nextSeqno_eq]
  have space_eq : updated.window.space = sender.window.space := by
    unfold TCPSendingWindow.space TCPSendingWindow.bytesInFlight
    rw [windowSize_eq, firstSeqno_eq, nextSeqno_eq]
  have empty_eq : updated.window.bufferEmpty = sender.window.bufferEmpty := by
    have same := congrArg List.isEmpty outstanding_eq
    unfold TCPSendingWindow.outstanding at same
    rwa [List.isEmpty_map, List.isEmpty_map] at same
  have full_eq : updated.window.full = sender.window.full := by
    unfold TCPSendingWindow.full TCPSendingWindow.windowClosed
    rw [windowSize_eq, empty_eq, space_eq]
  have size_eq : updated.payloadSize = sender.payloadSize := by
    unfold payloadSize
    rw [space_eq, stream_eq]
  have length_eq : updated.dataSegment.lengthInSequenceSpace =
      sender.dataSegment.lengthInSequenceSpace := by
    rw [dataSegment_length, dataSegment_length]
    unfold dataSegment popPayload
    rw [size_eq, stream_eq, space_eq]
  refine ⟨?_, ?_, ?_, ?_, ?_⟩
  · rw [← state_eq]
    exact may.notClosed
  · have wants := may.wants
    unfold wantsToSend at wants ⊢
    rwa [stream_eq, full_eq] at wants
  · rw [← state_eq]
    exact may.notFinSent
  · rw [← state_eq]
    exact may.notFinAcked
  · rw [← length_eq]
    exact may.nonempty

/-- An acknowledgment after which the FIN can be reached. -/
theorem TookAck.finOut {sender updated final : TCPSender} {ackno : WrappingInt32}
    {windowSize : UInt16} {segments : List TCPSegment} (composed : sender.Composed)
    (took : sender.TookAck ackno windowSize updated) (sends : Sends updated segments final)
    (rests : ¬ final.MaySend) (accepts : sender.window.Accepts ackno)
    (positive : 1 ≤ unwrap ackno sender.window.isn sender.window.nextSeqno)
    (reaches : sender.ReachesFin (unwrap ackno sender.window.isn sender.window.nextSeqno)
      (max 1 windowSize.toNat)) :
    final.FinOut ∧ 0 < final.window.firstSeqno := by
  have first := took.firstSeqno_eq
  have size := took.windowSize_eq
  rw [if_pos accepts] at first size
  have acked : 0 < updated.window.firstSeqno := by omega
  refine ⟨?_, sends.frame.firstSeqno_eq ▸ acked⟩
  have used := accepts.2
  rcases composed.placed with unused | unfinished | finOut
  · omega
  · have before := unfinished
    unfold Unfinished at before
    have read := sender.stream.bytesRead_le
    rcases reaches with ⟨ended, out | room⟩
    · omega
    · apply sends.finOut rests (composed.tookAck took)
        (unfinished.frame took.stream_eq took.nextSeqno_eq) acked
      · rw [took.stream_eq]
        exact ended
      · rw [size]
        omega
      · unfold TCPSendingWindow.space TCPSendingWindow.bytesInFlight
        rw [took.stream_eq, size, took.nextSeqno_eq, first, ByteStream.bufferSize_eq_sub]
        exact room
  · exact (finOut.frame took.stream_eq took.nextSeqno_eq).sends sends

end TCPSender
end Tcp
end Sponge
