import Sponge.Tcp.WindowRuns

namespace Sponge
namespace Tcp

open Foundation Bytes

/-!
# The FIN is sent once and last

The only guard against a second FIN is the state of the sender, and as long as
the SYN is unacknowledged that state does not show that a FIN is out.  A
second FIN then follows whenever the free space reaches beyond the first one.
-/

namespace TCPSender

/-- With the given first unacknowledged number and window size: while the SYN
is unacknowledged and the input has ended, the free space holds no more than
what is still to be sent, FIN included. -/
def FinFits (sender : TCPSender) (first windowSize : Nat) : Prop :=
  first = 0 -> sender.stream.endFlag = true ->
    sub64 windowSize (sender.window.nextSeqno - first) ≤
      sender.stream.bytesWritten + 2 - sender.window.nextSeqno

instance (sender : TCPSender) (first windowSize : Nat) :
    Decidable (sender.FinFits first windowSize) :=
  inferInstanceAs (Decidable (_ -> _))

end TCPSender

namespace SenderRun

/-- The condition on a step that fills the window. -/
def FinRoom (run : SenderRun) : SenderOp -> Prop
  | .fillWindow =>
      run.sender.FinFits run.sender.window.firstSeqno run.sender.window.windowSize
  | .ackReceived ackno windowSize =>
      run.sender.FinFits (run.sender.firstAfter ackno) (run.sender.windowAfter ackno windowSize)
  | _ => True

instance (run : SenderRun) (op : SenderOp) : Decidable (run.FinRoom op) :=
  match op with
  | .fillWindow => inferInstanceAs (Decidable (TCPSender.FinFits _ _ _))
  | .ackReceived _ _ => inferInstanceAs (Decidable (TCPSender.FinFits _ _ _))
  | .write _ | .endInput | .tick _ | .sendEmptySegment => .isTrue trivial

/-- No FIN is out, and the numbers used are those of the SYN and the bytes
read. -/
structure BeforeFin (run : SenderRun) : Prop where
  used : run.sender.window.nextSeqno = 0 ∧ run.sender.stream.bytesRead = 0 ∨
    run.sender.window.nextSeqno = 1 + run.sender.stream.bytesRead
  noFin : forall sent, sent ∈ run.transmitted -> sent.segment.header.fin = false

/-- The FIN is out: the last transmission carries it, right after the last
written byte. -/
structure AfterFin (run : SenderRun) : Prop where
  ended : run.sender.stream.endFlag = true
  read : run.sender.stream.bytesRead = run.sender.stream.bytesWritten
  used : run.sender.window.nextSeqno = run.sender.stream.bytesWritten + 2
  last : Exists fun before => Exists fun sent =>
    run.transmitted = before ++ [sent] ∧
      sent.segment.header.fin = true ∧
      sent.start + sent.segment.payload.length = 1 + run.sender.stream.bytesWritten ∧
      sent.start + sent.segment.lengthInSequenceSpace = run.sender.window.nextSeqno ∧
      forall other, other ∈ before -> other.segment.header.fin = false

def FinPhase (run : SenderRun) : Prop :=
  run.BeforeFin ∨ run.AfterFin

/-- The state in the middle of filling the window. -/
structure FillingFin (run : SenderRun) : Prop where
  windowed : run.Windowed
  phase : run.FinPhase
  room : run.sender.FinFits run.sender.window.firstSeqno run.sender.window.windowSize

theorem FillingFin.afterSyn {run : SenderRun} (filling : run.FillingFin)
    (closed : run.sender.state = .closed) :
    (run.sendOne run.sender.synSegment
      (run.sender.afterSending run.sender.synSegment)).FillingFin := by
  have unused := ((TCPSender.state_closed_iff _).mp closed).2
  have sized := filling.windowed.sized
  have small := filling.windowed.small
  have ordered := filling.windowed.ordered
  refine ⟨filling.windowed.sendOne _ _ run.sender rfl rfl, Or.inl ?_, ?_⟩
  · rcases filling.phase with before | after
    · constructor
      · right
        change run.sender.window.nextSeqno + 1 = 1 + run.sender.stream.bytesRead
        have := before.used
        omega
      · intro sent member
        rcases List.mem_append.mp member with old | new
        · exact before.noFin sent old
        · cases List.mem_singleton.mp new
          rfl
    · have := after.used
      omega
  · intro _ ended
    have room := filling.room (by omega) ended
    change sub64 run.sender.window.windowSize (run.sender.window.nextSeqno + 1 -
      run.sender.window.firstSeqno) ≤
        run.sender.stream.bytesWritten + 2 - (run.sender.window.nextSeqno + 1)
    rw [sub64_of_le (by omega) (by omega)] at room ⊢
    omega

/-- A data segment with a FIN is the last; one without leaves the phase. -/
theorem BeforeFin.afterData {run : SenderRun} (before : run.BeforeFin)
    (noError : run.sender.stream.error = false) (may : run.sender.MaySend) :
    (run.sendOne run.sender.dataSegment
      (run.sender.popPayload.afterSending run.sender.dataSegment)).FinPhase := by
  have length := run.sender.dataSegment_length
  have read := run.sender.popPayload_bytesRead
  have used : run.sender.window.nextSeqno = 1 + run.sender.stream.bytesRead := by
    rcases before.used with unused | used
    · exact absurd ((TCPSender.state_closed_iff _).mpr ⟨noError, unused.1⟩) may.notClosed
    · exact used
  have next := TCPSender.Unfinished.afterData used
  cases fin : run.sender.dataSegment.header.fin with
  | true =>
      right
      have finished := next.2 fin
      have all := TCPSender.bytesRead_of_eof finished.eof
      rw [if_pos fin] at length
      refine ⟨((ByteStream.eof_iff _).mp finished.eof).1, all, finished.used, run.transmitted,
        _, rfl, fin, ?_, rfl, before.noFin⟩
      change run.sender.popPayload.stream.bytesRead = run.sender.stream.bytesWritten at all
      change run.sender.window.nextSeqno + run.sender.dataSegment.payload.length =
        1 + run.sender.stream.bytesWritten
      omega
  | false =>
      left
      refine ⟨Or.inr (next.1 fin), ?_⟩
      intro sent member
      rcases List.mem_append.mp member with old | new
      · exact before.noFin sent old
      · cases List.mem_singleton.mp new
        exact fin

/-- After the FIN the loop stops: either its state says so, or no space is
left. -/
theorem FillingFin.not_maySend_of_afterFin {run : SenderRun} (filling : run.FillingFin)
    (after : run.AfterFin) : ¬ run.sender.MaySend := by
  intro may
  have fits := run.sender.dataSegment_length_le
  have positive := may.nonempty
  by_cases unacked : run.sender.window.firstSeqno = 0
  · have room := filling.room unacked after.ended
    have used := after.used
    change run.sender.window.space ≤ _ at room
    omega
  · have eof : run.sender.stream.eof = true := by
      rw [ByteStream.eof_iff, ByteStream.bufferSize_eq_sub, after.read, Nat.sub_self]
      exact ⟨after.ended, rfl⟩
    exact TCPSender.not_maySend_of_finished filling.windowed.noError filling.windowed.ordered eof
      (Nat.le_of_eq after.used.symm) (Nat.pos_of_ne_zero unacked) may

theorem FillingFin.afterData {run : SenderRun} (filling : run.FillingFin)
    (may : run.sender.MaySend) :
    (run.sendOne run.sender.dataSegment
      (run.sender.popPayload.afterSending run.sender.dataSegment)).FillingFin := by
  have space : (run.sender.popPayload.afterSending run.sender.dataSegment).window.space =
      run.sender.window.space - run.sender.dataSegment.lengthInSequenceSpace :=
    TCPSender.afterSending_space filling.windowed.ordered run.sender.dataSegment_length_le
  refine ⟨filling.windowed.sendOne _ _ run.sender.popPayload rfl rfl, ?_, ?_⟩
  · rcases filling.phase with before | after
    · exact before.afterData filling.windowed.noError may
    · exact absurd may (filling.not_maySend_of_afterFin after)
  · intro unacked ended
    have room := filling.room unacked ended
    change run.sender.window.space ≤ _ at room
    change (run.sender.popPayload.afterSending run.sender.dataSegment).window.space ≤
      run.sender.stream.bytesWritten + 2 -
        (run.sender.window.nextSeqno + run.sender.dataSegment.lengthInSequenceSpace)
    rw [space]
    omega

theorem FillingFin.record {run : SenderRun} {segments : List TCPSegment} {filled : TCPSender}
    (filling : run.FillingFin) (sends : TCPSender.Sends run.sender segments filled) :
    (run.record filled).FillingFin :=
  record_invariant FillingFin (fun _ closed _ filling => filling.afterSyn closed)
    (fun _ may filling => filling.afterData may) sends filling

/-- The phase depends only on the stream, the next number and the
transmissions. -/
theorem FinPhase.frame {run next : SenderRun} (phase : run.FinPhase)
    (stream_eq : next.sender.stream = run.sender.stream)
    (next_eq : next.sender.window.nextSeqno = run.sender.window.nextSeqno)
    (transmitted_eq : next.transmitted = run.transmitted) : next.FinPhase := by
  rcases phase with before | after
  · left
    constructor
    · rw [stream_eq, next_eq]
      exact before.used
    · rw [transmitted_eq]
      exact before.noFin
  · right
    refine ⟨?_, ?_, ?_, ?_⟩
    · rw [stream_eq]
      exact after.ended
    · rw [stream_eq]
      exact after.read
    · rw [stream_eq, next_eq]
      exact after.used
    · rw [stream_eq, next_eq, transmitted_eq]
      exact after.last

theorem FinPhase.write {run : SenderRun} (phase : run.FinPhase) (data written : List UInt8) :
    FinPhase { run with
      sender := { run.sender with stream := (run.sender.stream.write data).1 }
      written := written } := by
  rcases phase with before | after
  · left
    refine ⟨?_, before.noFin⟩
    dsimp only
    rw [ByteStream.write_bytesRead]
    exact before.used
  · right
    have same := ByteStream.write_of_ended after.ended data
    rw [same]
    exact ⟨after.ended, after.read, after.used, after.last⟩

theorem FinPhase.endInput {run : SenderRun} (phase : run.FinPhase) :
    FinPhase { run with
      sender := { run.sender with stream := run.sender.stream.endInput } } := by
  rcases phase with before | after
  · exact Or.inl ⟨before.used, before.noFin⟩
  · exact Or.inr ⟨rfl, after.read, after.used, after.last⟩

theorem windowed_phase_step {run next : SenderRun} {op : SenderOp} (windowed : run.Windowed)
    (phase : run.FinPhase) (room : run.FinRoom op) (taken : run.step op = .ok next) :
    next.Windowed ∧ next.FinPhase := by
  cases op with
  | write data =>
      cases taken
      exact ⟨windowed.frame (ByteStream.write_error _ _) rfl rfl rfl rfl, phase.write data _⟩
  | endInput =>
      cases taken
      exact ⟨windowed.frame rfl rfl rfl rfl rfl, phase.endInput⟩
  | fillWindow =>
      rcases step_fillWindow taken with ⟨filled, segments, sends, rfl⟩
      have filling : run.FillingFin := ⟨windowed, phase, room⟩
      exact ⟨(filling.record sends).windowed, (filling.record sends).phase⟩
  | ackReceived ackno windowSize =>
      rcases step_ackReceived taken with ⟨updated, filled, segments, took, sends, rfl⟩
      have filling : (run.withAck ackno windowSize updated).FillingFin := by
        refine ⟨windowed.withAck took, ?_, ?_⟩
        · exact phase.frame took.stream_eq took.nextSeqno_eq
            (run.noteAck_transmitted ackno windowSize)
        · change updated.FinFits updated.window.firstSeqno updated.window.windowSize
          unfold TCPSender.FinFits
          rw [took.firstSeqno_eq, took.windowSize_eq, took.nextSeqno_eq, took.stream_eq]
          exact room
      exact ⟨(filling.record sends).windowed, (filling.record sends).phase⟩
  | tick msSinceLastTick =>
      cases taken
      have ticked := run.sender.tick_spec msSinceLastTick
      refine ⟨windowed.frame ?_ ticked.firstSeqno_eq ticked.nextSeqno_eq ticked.windowSize_eq rfl,
        phase.frame ticked.stream_eq ticked.nextSeqno_eq rfl⟩
      rw [ticked.stream_eq]
  | sendEmptySegment =>
      cases taken
      exact ⟨windowed.frame rfl rfl rfl rfl rfl, phase.frame rfl rfl rfl⟩

/-- At most one first transmission carries a FIN.  The input has then ended
with every byte sent, the FIN stands right after the last byte, and it is the
last number used. -/
structure FinOnceAndLast (run : SenderRun) : Prop where
  once : (run.transmitted.filter (fun sent => sent.segment.header.fin)).length ≤ 1
  last : forall sent, sent ∈ run.transmitted -> sent.segment.header.fin = true ->
    run.sender.stream.inputEnded = true ∧
      run.sender.stream.bytesRead = run.sender.stream.bytesWritten ∧
      sent.start + sent.segment.payload.length = 1 + run.sender.stream.bytesWritten ∧
      sent.start + sent.segment.lengthInSequenceSpace = run.sender.nextSeqnoAbsolute ∧
      run.transmitted.getLast? = some sent
  bounded : run.sender.nextSeqnoAbsolute ≤ run.sender.stream.bytesWritten + 2

theorem FinPhase.finOnceAndLast {run : SenderRun} (phase : run.FinPhase) :
    run.FinOnceAndLast := by
  rcases phase with before | after
  · refine ⟨?_, ?_, ?_⟩
    · have none : run.transmitted.filter (fun sent => sent.segment.header.fin) = [] := by
        apply List.filter_eq_nil_iff.mpr
        intro sent member
        rw [before.noFin sent member]
        exact Bool.false_ne_true
      rw [none]
      exact Nat.zero_le _
    · intro sent member fin
      rw [before.noFin sent member] at fin
      cases fin
    · have read := run.sender.stream.bytesRead_le
      unfold TCPSender.nextSeqnoAbsolute
      rcases before.used with unused | used
      · omega
      · omega
  · rcases after.last with ⟨front, final, shape, fin, place, reach, others⟩
    have none : front.filter (fun sent => sent.segment.header.fin) = [] := by
      apply List.filter_eq_nil_iff.mpr
      intro sent member
      rw [others sent member]
      exact Bool.false_ne_true
    refine ⟨?_, ?_, Nat.le_of_eq after.used⟩
    · rw [shape, List.filter_append, none, List.nil_append]
      exact List.length_filter_le _ _
    · intro sent member isFin
      rw [shape] at member
      rcases List.mem_append.mp member with old | new
      · rw [others sent old] at isFin
        cases isFin
      · cases List.mem_singleton.mp new
        refine ⟨after.ended, after.read, place, reach, ?_⟩
        rw [shape, List.getLast?_append]
        rfl

end SenderRun

/-- If the free space never reaches beyond the FIN while the SYN is
unacknowledged and the input has ended, the FIN is sent once and last. -/
theorem fin_once_and_last (capacity : Capacity) (retxTimeout : UInt16) (isn : WrappingInt32)
    (ops : List SenderOp) (final : SenderRun)
    (room : RunMeets SenderRun.step SenderRun.FinRoom
      (SenderRun.new capacity retxTimeout isn) ops)
    (done : run SenderRun.step (SenderRun.new capacity retxTimeout isn) ops = .ok final) :
    final.FinOnceAndLast := by
  have both : final.Windowed ∧ final.FinPhase := by
    apply run_invariant_of_meets (fun run : SenderRun => run.Windowed ∧ run.FinPhase) _ _
      room done
    · intro run op next invariant condition taken
      exact SenderRun.windowed_phase_step invariant.1 invariant.2 condition taken
    · refine ⟨SenderRun.new_windowed capacity retxTimeout isn, Or.inl ⟨Or.inl ⟨rfl, rfl⟩, ?_⟩⟩
      intro sent member
      cases member
  exact both.2.finOnceAndLast

/-- An ordinary close, with the input ended twice. -/
theorem fin_once_and_last_close :
    let start := SenderRun.new ⟨8, by decide⟩ 1000 ⟨0⟩
    let ops : List SenderOp :=
      [.fillWindow, .ackReceived ⟨1⟩ 9, .write [1, 2], .endInput, .fillWindow, .endInput,
        .fillWindow, .tick 1000, .ackReceived ⟨3⟩ 9, .ackReceived ⟨4⟩ 9]
    Exists fun final => run SenderRun.step start ops = .ok final ∧
      final.sender.nextSeqnoAbsolute = 4 ∧ final.FinOnceAndLast := by
  intro start ops
  have checked : endsIn SenderRun.step (fun final =>
      decide (final.sender.nextSeqnoAbsolute = 4)) start ops = true := by decide +kernel
  rcases run_of_endsIn checked with ⟨final, done, facts⟩
  refine ⟨final, done, of_decide_eq_true facts, ?_⟩
  exact fin_once_and_last _ _ _ ops final (by decide +kernel) done

/-- An acknowledgment of nothing opens the window while the SYN is
unacknowledged: ended input then sends one FIN after the other. -/
theorem fin_sent_repeatedly :
    let start := SenderRun.new ⟨8, by decide⟩ 1000 ⟨0⟩
    let ops : List SenderOp := [.fillWindow, .endInput, .ackReceived ⟨0⟩ 4]
    Exists fun final => run SenderRun.step start ops = .ok final ∧
      (final.transmitted.filter (fun sent => sent.segment.header.fin)).length = 3 ∧
      ¬ final.FinOnceAndLast := by
  intro start ops
  have checked : endsIn SenderRun.step (fun final => decide
      ((final.transmitted.filter (fun sent => sent.segment.header.fin)).length = 3))
      start ops = true := by decide +kernel
  rcases run_of_endsIn checked with ⟨final, done, facts⟩
  have three := of_decide_eq_true facts
  refine ⟨final, done, three, ?_⟩
  intro proper
  have := proper.once
  omega

end Tcp
end Sponge
