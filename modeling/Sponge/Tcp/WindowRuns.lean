import Sponge.Tcp.SenderPhases
import Sponge.Tcp.SenderRuns

namespace Sponge
namespace Tcp

open Foundation Bytes

/-!
# The advertised window

The free space of the window is an unsigned difference.  It says how much may
be sent only while no more is in flight than the window allows, and an
acknowledgment that shrinks the window can break that.  The result below
therefore comes with the condition under which each filling of the window
behaves.
-/

namespace TCPSender

/-! ## The window an acknowledgment leaves -/

/-- The first unacknowledged number once an acknowledgment is taken in. -/
def firstAfter (sender : TCPSender) (ackno : WrappingInt32) : Nat :=
  if sender.window.Accepts ackno then unwrap ackno sender.window.isn sender.window.nextSeqno
  else sender.window.firstSeqno

/-- The window size once an acknowledgment is taken in. -/
def windowAfter (sender : TCPSender) (ackno : WrappingInt32) (windowSize : UInt16) : Nat :=
  if sender.window.Accepts ackno then max 1 windowSize.toNat else sender.window.windowSize

/-- With the given first unacknowledged number and window size, no more is in
flight than the window allows, or there is nothing to send: no buffered byte,
and no FIN that is still to come. -/
def MayFill (sender : TCPSender) (first windowSize : Nat) : Prop :=
  sender.window.nextSeqno - first ≤ windowSize ∨
    (sender.stream.bufferEmpty = true ∧
      (sender.stream.endFlag = false ∨
        (sender.stream.bytesWritten + 2 ≤ sender.window.nextSeqno ∧ 0 < first)))

instance (sender : TCPSender) (first windowSize : Nat) :
    Decidable (sender.MayFill first windowSize) :=
  inferInstanceAs (Decidable (_ ∨ _))

end TCPSender

namespace SenderRun

/-! ## What every run keeps -/

/-- The window size is the last one advertised, read as at least one. -/
structure Windowed (run : SenderRun) : Prop where
  noError : run.sender.stream.error = false
  ordered : run.sender.window.firstSeqno ≤ run.sender.window.nextSeqno
  sized : run.sender.window.windowSize = max 1 run.window
  small : run.window < 2 ^ 16

theorem new_windowed (capacity : Capacity) (retxTimeout : UInt16) (isn : WrappingInt32) :
    (new capacity retxTimeout isn).Windowed :=
  ⟨rfl, Nat.le_refl _, rfl, Nat.one_lt_two_pow (by decide)⟩

theorem Windowed.sendOne {run : SenderRun} (windowed : run.Windowed) (segment sent : TCPSegment)
    (sender : TCPSender) (window_eq : sender.window = run.sender.window)
    (error_eq : sender.stream.error = run.sender.stream.error) :
    (run.sendOne segment (sender.afterSending sent)).Windowed := by
  refine ⟨error_eq.trans windowed.noError, ?_, ?_, windowed.small⟩
  · change sender.window.firstSeqno ≤ sender.window.nextSeqno + _
    rw [window_eq]
    exact Nat.le_trans windowed.ordered (Nat.le_add_right _ _)
  · change sender.window.windowSize = _
    rw [window_eq]
    exact windowed.sized

theorem Windowed.withAck {run : SenderRun} {ackno : WrappingInt32} {windowSize : UInt16}
    {updated : TCPSender} (windowed : run.Windowed)
    (took : run.sender.TookAck ackno windowSize updated) :
    (run.withAck ackno windowSize updated).Windowed := by
  unfold SenderRun.withAck noteAck
  constructor
  · dsimp only
    rw [took.stream_eq]
    exact windowed.noError
  · dsimp only
    rw [took.firstSeqno_eq, took.nextSeqno_eq]
    split
    · rename_i accepts
      exact accepts.2
    · exact windowed.ordered
  · dsimp only
    rw [took.windowSize_eq]
    split
    · rfl
    · exact windowed.sized
  · split
    · exact windowSize.toNat_lt
    · exact windowed.small

/-- Steps that neither fill the window nor take an acknowledgment. -/
theorem Windowed.frame {run next : SenderRun} (windowed : run.Windowed)
    (error_eq : next.sender.stream.error = run.sender.stream.error)
    (first_eq : next.sender.window.firstSeqno = run.sender.window.firstSeqno)
    (next_eq : next.sender.window.nextSeqno = run.sender.window.nextSeqno)
    (size_eq : next.sender.window.windowSize = run.sender.window.windowSize)
    (window_eq : next.window = run.window) : next.Windowed := by
  refine ⟨error_eq.trans windowed.noError, ?_, ?_, ?_⟩
  · rw [first_eq, next_eq]
    exact windowed.ordered
  · rw [size_eq, window_eq]
    exact windowed.sized
  · rw [window_eq]
    exact windowed.small

/-! ## Nothing is sent beyond the advertised window -/

/-- The condition on a step that fills the window. -/
def SpaceKnown (run : SenderRun) : SenderOp -> Prop
  | .fillWindow =>
      run.sender.MayFill run.sender.window.firstSeqno run.sender.window.windowSize
  | .ackReceived ackno windowSize =>
      run.sender.MayFill (run.sender.firstAfter ackno) (run.sender.windowAfter ackno windowSize)
  | _ => True

instance (run : SenderRun) (op : SenderOp) : Decidable (run.SpaceKnown op) :=
  match op with
  | .fillWindow => inferInstanceAs (Decidable (TCPSender.MayFill _ _ _))
  | .ackReceived _ _ => inferInstanceAs (Decidable (TCPSender.MayFill _ _ _))
  | .write _ | .endInput | .tick _ | .sendEmptySegment => .isTrue trivial

/-- Every first transmission after the SYN ends within the window that was
advertised when it was sent. -/
def WithinWindow (run : SenderRun) : Prop :=
  forall sent, sent ∈ run.transmitted -> sent.segment.header.syn = false ->
    sent.start + sent.segment.lengthInSequenceSpace ≤ sent.limit

instance (run : SenderRun) : Decidable run.WithinWindow :=
  inferInstanceAs (Decidable (forall sent, sent ∈ run.transmitted -> _))

theorem WithinWindow.sendOne {run : SenderRun} (within : run.WithinWindow) {segment : TCPSegment}
    (after : TCPSender)
    (fits : segment.header.syn = false ->
      run.sender.window.nextSeqno + segment.lengthInSequenceSpace ≤ run.limit) :
    (run.sendOne segment after).WithinWindow := by
  intro sent member noSyn
  rcases List.mem_append.mp member with old | new
  · exact within sent old noSyn
  · cases List.mem_singleton.mp new
    exact fits noSyn

/-- The state in the middle of filling the window. -/
structure FillingWithin (run : SenderRun) : Prop where
  windowed : run.Windowed
  within : run.WithinWindow
  may : run.sender.MayFill run.sender.window.firstSeqno run.sender.window.windowSize

/-- While the condition holds and a segment is to be sent, the free space is
the true difference. -/
theorem FillingWithin.space_eq {run : SenderRun} (filling : run.FillingWithin)
    (maySend : run.sender.MaySend) :
    run.sender.window.space + run.sender.bytesInFlight = run.sender.window.windowSize := by
  have sized := filling.windowed.sized
  have small := filling.windowed.small
  rcases filling.may with fits | ⟨empty, idle⟩
  · unfold TCPSendingWindow.space TCPSender.bytesInFlight TCPSendingWindow.bytesInFlight
    rw [sub64_of_le fits (by omega)]
    omega
  · exfalso
    have wants := (Bool.and_eq_true_iff.mp maySend.wants).1
    rw [empty, Bool.not_true, Bool.false_or] at wants
    rcases idle with opened | ⟨sent, acked⟩
    · rw [((ByteStream.eof_iff _).mp wants).1] at opened
      cases opened
    · exact TCPSender.not_maySend_of_finished filling.windowed.noError
        filling.windowed.ordered wants sent acked maySend

theorem FillingWithin.record {run : SenderRun} {segments : List TCPSegment} {filled : TCPSender}
    (filling : run.FillingWithin) (sends : TCPSender.Sends run.sender segments filled) :
    (run.record filled).FillingWithin := by
  apply record_invariant FillingWithin _ _ sends filling
  · intro run closed _ filling
    have unused := ((TCPSender.state_closed_iff _).mp closed).2
    have sized := filling.windowed.sized
    refine ⟨filling.windowed.sendOne _ _ run.sender rfl rfl, filling.within.sendOne _ ?_,
      Or.inl ?_⟩
    · intro noSyn
      cases noSyn
    · change run.sender.window.nextSeqno + 1 - run.sender.window.firstSeqno ≤
        run.sender.window.windowSize
      omega
  · intro run may filling
    have space := filling.space_eq may
    have length := run.sender.dataSegment_length_le
    have sized := filling.windowed.sized
    unfold TCPSender.bytesInFlight TCPSendingWindow.bytesInFlight at space
    refine ⟨filling.windowed.sendOne _ _ run.sender.popPayload rfl rfl,
      filling.within.sendOne _ ?_, Or.inl ?_⟩
    · intro _
      unfold limit
      omega
    · change run.sender.window.nextSeqno + run.sender.dataSegment.lengthInSequenceSpace -
        run.sender.window.firstSeqno ≤ run.sender.window.windowSize
      omega

theorem windowed_within_step {run next : SenderRun} {op : SenderOp} (windowed : run.Windowed)
    (within : run.WithinWindow) (known : run.SpaceKnown op) (taken : run.step op = .ok next) :
    next.Windowed ∧ next.WithinWindow := by
  cases op with
  | write data =>
      cases taken
      exact ⟨windowed.frame (ByteStream.write_error _ _) rfl rfl rfl rfl, within⟩
  | endInput =>
      cases taken
      exact ⟨windowed.frame rfl rfl rfl rfl rfl, within⟩
  | fillWindow =>
      rcases step_fillWindow taken with ⟨filled, segments, sends, rfl⟩
      have filling : run.FillingWithin := ⟨windowed, within, known⟩
      exact ⟨(filling.record sends).windowed, (filling.record sends).within⟩
  | ackReceived ackno windowSize =>
      rcases step_ackReceived taken with ⟨updated, filled, segments, took, sends, rfl⟩
      have filling : (run.withAck ackno windowSize updated).FillingWithin := by
        refine ⟨windowed.withAck took, ?_, ?_⟩
        · unfold withAck WithinWindow
          rw [noteAck_transmitted]
          exact within
        · change updated.MayFill updated.window.firstSeqno updated.window.windowSize
          unfold TCPSender.MayFill
          rw [took.firstSeqno_eq, took.windowSize_eq, took.nextSeqno_eq, took.stream_eq]
          exact known
      exact ⟨(filling.record sends).windowed, (filling.record sends).within⟩
  | tick msSinceLastTick =>
      cases taken
      have ticked := run.sender.tick_spec msSinceLastTick
      refine ⟨windowed.frame ?_ ticked.firstSeqno_eq ticked.nextSeqno_eq ticked.windowSize_eq rfl,
        within⟩
      rw [ticked.stream_eq]
  | sendEmptySegment =>
      cases taken
      exact ⟨windowed.frame rfl rfl rfl rfl rfl, within⟩

end SenderRun

/-- If every filling of the window starts with no more in flight than the
window allows, or with nothing to send, then nothing is sent beyond the
advertised window. -/
theorem advertised_window_respected (capacity : Capacity) (retxTimeout : UInt16)
    (isn : WrappingInt32) (ops : List SenderOp) (final : SenderRun)
    (known : RunMeets SenderRun.step SenderRun.SpaceKnown
      (SenderRun.new capacity retxTimeout isn) ops)
    (done : run SenderRun.step (SenderRun.new capacity retxTimeout isn) ops = .ok final) :
    final.WithinWindow := by
  have both : final.Windowed ∧ final.WithinWindow := by
    apply run_invariant_of_meets (fun run : SenderRun => run.Windowed ∧ run.WithinWindow) _ _
      known done
    · intro run op next invariant condition taken
      exact SenderRun.windowed_within_step invariant.1 invariant.2 condition taken
    · refine ⟨SenderRun.new_windowed capacity retxTimeout isn, ?_⟩
      intro sent member
      cases member
  exact both.2

/-- A window that opens, fills up and shrinks again once it has drained. -/
theorem advertised_window_respected_shrinking :
    let start := SenderRun.new ⟨8, by decide⟩ 1000 ⟨0⟩
    let ops : List SenderOp :=
      [.fillWindow, .ackReceived ⟨1⟩ 4, .write [1, 2, 3, 4, 5, 6], .fillWindow,
        .ackReceived ⟨4⟩ 2, .endInput, .fillWindow, .ackReceived ⟨6⟩ 0, .ackReceived ⟨7⟩ 3]
    Exists fun final => run SenderRun.step start ops = .ok final ∧
      final.transmitted.length = 5 ∧ final.WithinWindow := by
  intro start ops
  have checked : endsIn SenderRun.step (fun final =>
      decide (final.transmitted.length = 5)) start ops = true := by decide +kernel
  rcases run_of_endsIn checked with ⟨final, done, facts⟩
  refine ⟨final, done, of_decide_eq_true facts, ?_⟩
  exact advertised_window_respected _ _ _ ops final (by decide +kernel) done

/-- Four bytes are in flight when a duplicate acknowledgment shrinks the
window to two: the free space wraps around and two more bytes are sent. -/
theorem advertised_window_exceeded :
    let start := SenderRun.new ⟨8, by decide⟩ 1000 ⟨0⟩
    let ops : List SenderOp :=
      [.fillWindow, .ackReceived ⟨1⟩ 4, .write [1, 2, 3, 4, 5, 6], .fillWindow,
        .ackReceived ⟨1⟩ 2]
    Exists fun final => run SenderRun.step start ops = .ok final ∧ ¬ final.WithinWindow := by
  intro start ops
  have checked : endsIn SenderRun.step (fun final =>
      decide (¬ final.WithinWindow)) start ops = true := by decide +kernel
  rcases run_of_endsIn checked with ⟨final, done, facts⟩
  exact ⟨final, done, of_decide_eq_true facts⟩

end Tcp
end Sponge
