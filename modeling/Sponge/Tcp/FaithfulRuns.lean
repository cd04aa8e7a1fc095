import Sponge.Tcp.ByteFidelity

namespace Sponge
namespace Tcp

open Foundation Bytes

/-!
# First transmissions and their bytes

Along a run the first transmissions fill the sequence numbers from zero up to
the next one without gap or overlap, and each of them carries the bytes that
belong there.  Together this puts every byte taken from the stream into
exactly one first transmission.
-/

namespace Transmission

/-- The transmission's payload covers the stream's byte `k`. -/
def Carries (transmission : Transmission) (k : Nat) : Prop :=
  transmission.start ≤ 1 + k ∧ 1 + k < transmission.start + transmission.segment.payload.length

end Transmission

namespace SenderRun

structure FidelityRun (isn : WrappingInt32) (run : SenderRun) : Prop where
  isn_eq : run.sender.window.isn = isn
  noError : run.sender.stream.error = false
  fidelity : run.sender.Fidelity run.written run.sender.segmentsOut
  laid : Consecutive (fun (sent : Transmission) q => sent.start = q)
    (fun sent => sent.segment.lengthInSequenceSpace) 0 run.transmitted
    run.sender.window.nextSeqno
  recorded : forall sent, sent ∈ run.transmitted ->
    sent.segment ∈ run.sender.segmentsOut ∧ sent.segment.header.seqno = wrap sent.start isn
  opens : forall sent, run.transmitted.head? = some sent ->
    sent.segment = { header := { syn := true, seqno := isn } }

theorem new_fidelityRun (capacity : Capacity) (retxTimeout : UInt16) (isn : WrappingInt32) :
    (new capacity retxTimeout isn).FidelityRun isn where
  isn_eq := rfl
  noError := rfl
  fidelity := TCPSender.new_fidelity capacity retxTimeout isn
  laid := rfl
  recorded := fun _ member => nomatch member
  opens := fun _ found => nomatch found

/-- The bookkeeping of one more transmission, with the next number. -/
theorem FidelityRun.sendOne {isn : WrappingInt32} {run : SenderRun} (faithful : run.FidelityRun isn)
    (segment : TCPSegment) (after : TCPSender) (isn_eq : after.window.isn = isn)
    (noError : after.stream.error = false)
    (fidelity : after.Fidelity run.written (run.sender.segmentsOut ++ [segment]))
    (queue : after.segmentsOut = run.sender.segmentsOut ++ [segment])
    (next : after.window.nextSeqno =
      run.sender.window.nextSeqno + segment.lengthInSequenceSpace)
    (seqno : segment.header.seqno = run.sender.nextSeqno)
    (nonempty : segment.lengthInSequenceSpace ≠ 0)
    (opens : run.transmitted = [] -> segment = { header := { syn := true, seqno := isn } }) :
    (run.sendOne segment after).FidelityRun isn where
  isn_eq := isn_eq
  noError := noError
  fidelity := by
    change after.Fidelity run.written after.segmentsOut
    rw [queue]
    exact fidelity
  laid := by
    change Consecutive _ _ 0 (run.transmitted ++ _) after.window.nextSeqno
    rw [next]
    exact faithful.laid.snoc rfl (Nat.pos_of_ne_zero nonempty)
  recorded := by
    intro sent member
    change _ ∈ after.segmentsOut ∧ _
    rw [queue]
    rcases List.mem_append.mp member with old | new
    · rcases faithful.recorded sent old with ⟨out, seqno⟩
      exact ⟨List.mem_append_left _ out, seqno⟩
    · cases List.mem_singleton.mp new
      refine ⟨List.mem_append_right _ List.mem_cons_self, ?_⟩
      rw [seqno, ← faithful.isn_eq]
      rfl
  opens := by
    intro sent found
    change (run.transmitted ++ _).head? = some sent at found
    cases shape : run.transmitted with
    | nil =>
        rw [shape] at found
        cases found
        exact opens shape
    | cons first rest =>
        rw [shape] at found
        apply faithful.opens sent
        rw [shape]
        exact found

theorem FidelityRun.record {isn : WrappingInt32} {run : SenderRun} {segments : List TCPSegment}
    {filled : TCPSender} (faithful : run.FidelityRun isn)
    (sends : TCPSender.Sends run.sender segments filled) :
    (run.record filled).FidelityRun isn := by
  apply record_invariant (FidelityRun isn) _ _ sends faithful
  · intro run closed _ faithful
    refine faithful.sendOne run.sender.synSegment _ faithful.isn_eq faithful.noError
      (faithful.fidelity.afterSyn closed) rfl rfl rfl Nat.one_ne_zero ?_
    intro _
    unfold TCPSender.synSegment TCPSender.nextSeqno
    rw [((TCPSender.state_closed_iff _).mp closed).2, wrap_zero, faithful.isn_eq]
  · intro run may faithful
    refine faithful.sendOne run.sender.dataSegment _ faithful.isn_eq faithful.noError
      (faithful.fidelity.afterData may) rfl rfl rfl may.nonempty ?_
    intro none
    -- with nothing transmitted the sender is still closed
    have laid := faithful.laid
    rw [none] at laid
    have unused : 0 = run.sender.window.nextSeqno := laid
    exact absurd ((TCPSender.state_closed_iff _).mpr ⟨faithful.noError, unused.symm⟩)
      may.notClosed

theorem FidelityRun.withAck {isn ackno : WrappingInt32} {run : SenderRun} {windowSize : UInt16}
    {updated : TCPSender} (faithful : run.FidelityRun isn)
    (took : run.sender.TookAck ackno windowSize updated) :
    (run.withAck ackno windowSize updated).FidelityRun isn := by
  unfold SenderRun.withAck
  constructor
  · exact took.isn_eq.trans faithful.isn_eq
  · dsimp only
    rw [took.stream_eq]
    exact faithful.noError
  · dsimp only
    rw [noteAck_written, took.segmentsOut_eq]
    exact faithful.fidelity.tookAck took
  · dsimp only
    rw [noteAck_transmitted, took.nextSeqno_eq]
    exact faithful.laid
  · dsimp only
    rw [noteAck_transmitted, took.segmentsOut_eq]
    exact faithful.recorded
  · dsimp only
    rw [noteAck_transmitted]
    exact faithful.opens

theorem FidelityRun.ticked {isn : WrappingInt32} {run : SenderRun} {updated : TCPSender}
    (faithful : run.FidelityRun isn) (ticked : run.sender.Ticked updated) :
    FidelityRun isn { run with sender := updated } := by
  rcases ticked.segmentsOut_eq with ⟨again, queue, old⟩
  constructor
  · exact ticked.isn_eq.trans faithful.isn_eq
  · dsimp only
    rw [ticked.stream_eq]
    exact faithful.noError
  · dsimp only
    rw [queue]
    exact faithful.fidelity.ticked ticked old
  · dsimp only
    rw [ticked.nextSeqno_eq]
    exact faithful.laid
  · dsimp only
    rw [queue]
    intro sent member
    rcases faithful.recorded sent member with ⟨out, seqno⟩
    exact ⟨List.mem_append_left _ out, seqno⟩
  · exact faithful.opens

theorem FidelityRun.step {isn : WrappingInt32} {run next : SenderRun} {op : SenderOp}
    (faithful : run.FidelityRun isn) (taken : run.step op = .ok next) :
    next.FidelityRun isn := by
  cases op with
  | write data =>
      cases taken
      refine ⟨faithful.isn_eq, ?_, ?_, faithful.laid, faithful.recorded, faithful.opens⟩
      · exact (ByteStream.write_error _ _).trans faithful.noError
      · dsimp only
        rw [ByteStream.take_write_count]
        exact faithful.fidelity.write data
  | endInput =>
      cases taken
      exact ⟨faithful.isn_eq, faithful.noError, faithful.fidelity.endInput, faithful.laid,
        faithful.recorded, faithful.opens⟩
  | fillWindow =>
      rcases step_fillWindow taken with ⟨filled, segments, sends, rfl⟩
      exact faithful.record sends
  | ackReceived ackno windowSize =>
      rcases step_ackReceived taken with ⟨updated, filled, segments, took, sends, rfl⟩
      exact (faithful.withAck took).record sends
  | tick msSinceLastTick =>
      cases taken
      exact faithful.ticked (run.sender.tick_spec msSinceLastTick)
  | sendEmptySegment =>
      cases taken
      refine ⟨faithful.isn_eq, faithful.noError, faithful.fidelity.sendEmptySegment,
        faithful.laid, ?_, faithful.opens⟩
      intro sent member
      rcases faithful.recorded sent member with ⟨out, seqno⟩
      exact ⟨List.mem_append_left _ out, seqno⟩

theorem fidelityRun_of_run {capacity : Capacity} {retxTimeout : UInt16} {isn : WrappingInt32}
    {ops : List SenderOp} {final : SenderRun}
    (done : Foundation.run SenderRun.step (SenderRun.new capacity retxTimeout isn) ops =
      .ok final) : final.FidelityRun isn :=
  run_invariant (FidelityRun isn) (fun _ _ _ faithful taken => faithful.step taken)
    (new_fidelityRun capacity retxTimeout isn) done

/-- A segment with a payload carries the written bytes from its own number
on, whether it is sent for the first time or again. -/
theorem FidelityRun.payload_eq {isn : WrappingInt32} {run : SenderRun}
    (faithful : run.FidelityRun isn) (low : run.sender.window.nextSeqno < 2 ^ 31)
    {segment : TCPSegment} (out : segment ∈ run.sender.segmentsOut)
    (nonempty : segment.payload ≠ []) :
    1 ≤ run.sender.window.absoluteSeqno segment ∧
      run.sender.window.absoluteSeqno segment - 1 + segment.payload.length ≤
        run.written.length ∧
      segment.payload = (run.written.drop (run.sender.window.absoluteSeqno segment - 1)).take
        segment.payload.length := by
  have member : segment ∈ run.sender.window.outstanding ++ run.sender.segmentsOut :=
    List.mem_append_right _ out
  have positive : segment.lengthInSequenceSpace ≠ 0 := by
    have := segment.payload_length_le
    have := List.length_pos_iff.mpr nonempty
    omega
  rcases faithful.fidelity.voice with silent | speaking
  · exact absurd ((silent.idle faithful.noError).2.2 segment member) positive
  · rcases speaking.sound segment member positive with ⟨q, sound⟩
    have within := sound.within
    have noSyn : segment.header.syn = false := by
      by_contra syn
      exact nonempty (sound.syn (Bool.eq_true_of_not_eq_false syn)).2.1
    rw [TCPSendingWindow.absoluteSeqno_eq low (by omega) sound.seqno]
    rcases sound.data noSyn with ⟨above, piece⟩
    exact ⟨above, piece.length_le nonempty, piece.extract_eq⟩

/-- The recorded place of a transmission is the one its number stands for. -/
theorem FidelityRun.absoluteSeqno_eq {isn : WrappingInt32} {run : SenderRun}
    (faithful : run.FidelityRun isn) (low : run.sender.window.nextSeqno < 2 ^ 31)
    {sent : Transmission} (member : sent ∈ run.transmitted) :
    run.sender.window.absoluteSeqno sent.segment = sent.start := by
  rcases faithful.laid.mem member with ⟨q, rfl, _, _, within⟩
  apply TCPSendingWindow.absoluteSeqno_eq low (by omega)
  rw [faithful.isn_eq]
  exact (faithful.recorded sent member).2

/-- The number after a popped byte's index belongs to a payload, not to the
SYN or the FIN. -/
theorem FidelityRun.in_payload {isn : WrappingInt32} {run : SenderRun}
    (faithful : run.FidelityRun isn) (low : run.sender.window.nextSeqno < 2 ^ 31)
    {sent : Transmission} (member : sent ∈ run.transmitted) {k : Nat}
    (popped : k < run.sender.stream.bytesRead) (above : sent.start ≤ 1 + k)
    (below : 1 + k < sent.start + sent.segment.lengthInSequenceSpace) :
    sent.Carries k ∧ sent.segment.payload[1 + k - sent.start]? = run.written[k]? := by
  have out := (faithful.recorded sent member).1
  have place := faithful.absoluteSeqno_eq low member
  rcases faithful.fidelity.voice with silent | speaking
  · have := (silent.idle faithful.noError).2.1
    omega
  · rcases speaking.sound sent.segment (List.mem_append_right _ out) (by omega) with ⟨q, sound⟩
    have within := sound.within
    rw [TCPSendingWindow.absoluteSeqno_eq low (by omega) sound.seqno] at place
    cases syn : sent.segment.header.syn with
    | true =>
        rcases sound.syn syn with ⟨zero, empty, noFin⟩
        unfold TCPSegment.lengthInSequenceSpace at below
        rw [empty, noFin, syn] at below
        simp only [List.length_nil, if_true, Bool.false_eq_true, if_false] at below
        omega
    | false =>
        rcases sound.data syn with ⟨started, piece⟩
        have inside : 1 + k < sent.start + sent.segment.payload.length := by
          cases fin : sent.segment.header.fin with
          | true =>
              have last := (sound.fin fin).2
              have read := run.sender.stream.bytesRead_le
              have whole := faithful.fidelity.whole
              omega
          | false =>
              unfold TCPSegment.lengthInSequenceSpace at below
              rw [syn, fin] at below
              exact below
        refine ⟨⟨above, inside⟩, ?_⟩
        rw [← piece (1 + k - sent.start) (by omega)]
        congr 1
        omega

/-- Every popped byte is carried by exactly one first transmission. -/
theorem FidelityRun.carried_once {isn : WrappingInt32} {run : SenderRun}
    (faithful : run.FidelityRun isn) (low : run.sender.window.nextSeqno < 2 ^ 31) {k : Nat}
    (popped : k < run.sender.stream.bytesRead) :
    ExistsUnique fun i : Nat => Exists fun sent =>
      run.transmitted[i]? = some sent ∧ sent.Carries k ∧
        sent.segment.payload[1 + k - sent.start]? = run.written[k]? := by
  have reached : 1 + k < run.sender.window.nextSeqno := by
    rcases faithful.fidelity.voice with silent | speaking
    · have := (silent.idle faithful.noError).2.1
      omega
    · have := speaking.read_lt
      omega
  rcases faithful.laid.covers (Nat.zero_le _) reached with ⟨i, sent, found, above, below⟩
  refine ⟨i, ⟨sent, found, faithful.in_payload low (List.mem_of_getElem? found) popped above
    below⟩, ?_⟩
  rintro j ⟨other, at_j, carries, _⟩
  apply faithful.laid.covers_unique at_j found ⟨carries.1, _⟩ ⟨above, below⟩
  exact Nat.lt_of_lt_of_le carries.2
    (Nat.add_le_add_left other.segment.payload_length_le other.start)

end SenderRun

/-- In every run below `2^31` the first segment is the SYN, every payload is
the written bytes at the segment's own number, every popped byte is in exactly
one first transmission, and no operation faults. -/
theorem sender_byte_fidelity (capacity : Capacity) (retxTimeout : UInt16) (isn : WrappingInt32)
    (ops : List SenderOp) (final : SenderRun)
    (done : run SenderRun.step (SenderRun.new capacity retxTimeout isn) ops = .ok final)
    (low : final.sender.nextSeqnoAbsolute < 2 ^ 31) :
    (forall first, final.transmitted.head? = some first ->
        first.segment = { header := { syn := true, seqno := isn } }) ∧
      (forall sent, sent ∈ final.transmitted ->
        final.sender.window.absoluteSeqno sent.segment = sent.start) ∧
      (forall segment, segment ∈ final.sender.segmentsOut -> segment.payload ≠ [] ->
        let q := final.sender.window.absoluteSeqno segment
        1 ≤ q ∧ q - 1 + segment.payload.length ≤ final.written.length ∧
          segment.payload = (final.written.drop (q - 1)).take segment.payload.length) ∧
      (forall k, k < final.sender.stream.bytesRead ->
        ExistsUnique fun i : Nat => Exists fun sent =>
          final.transmitted[i]? = some sent ∧ sent.Carries k ∧
            sent.segment.payload[1 + k - sent.start]? = final.written[k]?) ∧
      forall op, Exists fun next => final.step op = .ok next := by
  have faithful := SenderRun.fidelityRun_of_run done
  have queue := SenderRun.queueRun_of_run done low
  refine ⟨faithful.opens, ?_, ?_, ?_, queue.step_ok low⟩
  · intro sent member
    exact faithful.absoluteSeqno_eq low member
  · intro segment out nonempty
    exact faithful.payload_eq low out nonempty
  · intro k popped
    exact faithful.carried_once low popped

/-- Three bytes in two segments, the first of which is sent again. -/
theorem sender_byte_fidelity_resent :
    let start := SenderRun.new ⟨8, by decide⟩ 1000 ⟨4294967295⟩
    let ops : List SenderOp :=
      [.fillWindow, .ackReceived ⟨0⟩ 2, .write [7, 8, 9], .fillWindow, .ackReceived ⟨0⟩ 4,
        .tick 2000]
    Exists fun final => run SenderRun.step start ops = .ok final ∧
      final.sender.stream.bytesRead = 3 ∧ final.sender.segmentsOut.length = 4 ∧
      ExistsUnique fun i : Nat => Exists fun sent =>
        final.transmitted[i]? = some sent ∧ sent.Carries 2 ∧
          sent.segment.payload[1 + 2 - sent.start]? = final.written[2]? := by
  intro start ops
  have checked : endsIn SenderRun.step (fun final =>
      decide (final.sender.stream.bytesRead = 3 ∧ final.sender.segmentsOut.length = 4 ∧
        final.sender.nextSeqnoAbsolute < 2 ^ 31)) start ops = true := by decide +kernel
  rcases run_of_endsIn checked with ⟨final, done, facts⟩
  rcases of_decide_eq_true facts with ⟨popped, out, low⟩
  refine ⟨final, done, popped, out, ?_⟩
  exact (sender_byte_fidelity _ _ _ ops final done low).2.2.2.1 2 (by omega)

end Tcp
end Sponge
