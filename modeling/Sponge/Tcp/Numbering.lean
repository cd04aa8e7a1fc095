import Sponge.Foundation.Countdowns
import Sponge.Tcp.SenderStages
import Sponge.Tcp.SingleTimer

namespace Sponge
namespace Tcp

open Foundation Bytes

/-!
# Current sequence numbers

A sender numbers what it builds with its next sequence number, and what a tick sends
again is the oldest outstanding segment.  What waits in its queue to be collected stays
current while the window is filled and while time passes.  Only an acknowledgment can
overtake it, if it acknowledges what has not been collected.
-/

/-- The same segment but for the acknowledgment. -/
structure TCPSegment.Retransmits (segment oldest : TCPSegment) : Prop where
  seqno_eq : segment.header.seqno = oldest.header.seqno
  syn_eq : segment.header.syn = oldest.header.syn
  fin_eq : segment.header.fin = oldest.header.fin
  payload_eq : segment.payload = oldest.payload

namespace TCPSender

/-- The number lies between the first unacknowledged one and the next, or the segment
is the oldest outstanding one. -/
def Current (sender : TCPSender) (segment : TCPSegment) : Prop :=
  (Exists fun place => sender.window.firstSeqno ≤ place ∧ place ≤ sender.window.nextSeqno ∧
    segment.header.seqno = wrap place sender.window.isn) ∨
  Exists fun oldest => sender.window.outstanding.head? = some oldest ∧
    segment.Retransmits oldest

/-- A current number, and the next one if the segment takes up none. -/
def InSequence (sender : TCPSender) (segment : TCPSegment) : Prop :=
  sender.Current segment ∧
    (segment.lengthInSequenceSpace = 0 -> segment.header.seqno = sender.nextSeqno)

/-- The countdowns are in step, and nothing outstanding is empty. -/
structure Timely (sender : TCPSender) : Prop where
  ordered : sender.window.firstSeqno ≤ sender.window.nextSeqno
  inStep : InStep (fun entry => entry.remainingRto) (sender.rto % 2 ^ 32) sender.window.buffer
  outstanding : forall segment, segment ∈ sender.window.outstanding ->
    segment.lengthInSequenceSpace ≠ 0

/-- What waits to be collected is current, and not empty. -/
def NoneOvertaken (sender : TCPSender) : Prop :=
  forall segment, segment ∈ sender.segmentsOut ->
    segment.lengthInSequenceSpace ≠ 0 ∧ sender.Current segment

structure Punctual (sender : TCPSender) : Prop extends Timely sender where
  kept : sender.NoneOvertaken

theorem Timely.frame {sender updated : TCPSender} (timely : sender.Timely)
    (window_eq : updated.window = sender.window) (rto_eq : updated.rto = sender.rto) :
    updated.Timely := by
  refine ⟨?_, ?_, ?_⟩
  · rw [window_eq]
    exact timely.ordered
  · rw [window_eq, rto_eq]
    exact timely.inStep
  · rw [window_eq]
    exact timely.outstanding

theorem new_timely (capacity : Capacity) (retxTimeout : UInt16) (isn : WrappingInt32) :
    (new capacity retxTimeout isn).Timely :=
  ⟨Nat.le_refl 0, .nil _, nofun⟩

theorem Current.inSequence {sender : TCPSender} {segment : TCPSegment}
    (current : sender.Current segment) (nonempty : segment.lengthInSequenceSpace ≠ 0) :
    sender.InSequence segment :=
  ⟨current, fun none => absurd none nonempty⟩

theorem Punctual.emptySegment {sender : TCPSender} (punctual : sender.Punctual) :
    sender.InSequence sender.emptySegment :=
  ⟨Or.inl ⟨sender.window.nextSeqno, punctual.ordered, Nat.le_refl _, rfl⟩, fun _ => rfl⟩

/-! ## Filling the window -/

theorem Sends.places {sender final : TCPSender} {segments : List TCPSegment}
    (sends : Sends sender segments final) :
    forall segment, segment ∈ segments -> segment.lengthInSequenceSpace ≠ 0 ∧
      Exists fun place => sender.window.nextSeqno ≤ place ∧ place ≤ final.window.nextSeqno ∧
        segment.header.seqno = wrap place final.window.isn := by
  induction sends with
  | rest sender => exact nofun
  | @syn sender final segments closed room onward ih =>
      intro segment member
      have frame := onward.frame
      have grown : sender.window.nextSeqno + 1 ≤ final.window.nextSeqno := frame.nextSeqno_le
      rcases List.mem_cons.mp member with rfl | later
      · refine ⟨Nat.one_ne_zero, sender.window.nextSeqno, Nat.le_refl _, by omega, ?_⟩
        rw [frame.isn_eq]
        rfl
      · rcases ih segment later with ⟨nonempty, place, least, most, seqno⟩
        have above : sender.window.nextSeqno + 1 ≤ place := least
        exact ⟨nonempty, place, by omega, most, seqno⟩
  | @data sender final segments may onward ih =>
      intro segment member
      have frame := onward.frame
      have grown : sender.window.nextSeqno + sender.dataSegment.lengthInSequenceSpace ≤
          final.window.nextSeqno := frame.nextSeqno_le
      rcases List.mem_cons.mp member with rfl | later
      · refine ⟨may.nonempty, sender.window.nextSeqno, Nat.le_refl _, by omega, ?_⟩
        rw [frame.isn_eq]
        rfl
      · rcases ih segment later with ⟨nonempty, place, least, most, seqno⟩
        have above : sender.window.nextSeqno + sender.dataSegment.lengthInSequenceSpace ≤
            place := least
        exact ⟨nonempty, place, by omega, most, seqno⟩

theorem Current.sends {sender final : TCPSender} {segments : List TCPSegment}
    {segment : TCPSegment} (current : sender.Current segment)
    (sends : Sends sender segments final) : final.Current segment := by
  have frame := sends.frame
  rcases current with ⟨place, least, most, seqno⟩ | ⟨oldest, found, again⟩
  · left
    refine ⟨place, ?_, Nat.le_trans most frame.nextSeqno_le, ?_⟩
    · rw [frame.firstSeqno_eq]
      exact least
    · rw [frame.isn_eq]
      exact seqno
  · right
    refine ⟨oldest, ?_, again⟩
    rw [sends.outstanding_eq]
    cases shape : sender.window.outstanding with
    | nil =>
        rw [shape] at found
        cases found
    | cons head rest =>
        rw [shape] at found
        exact found

theorem Timely.sends {sender final : TCPSender} {segments : List TCPSegment}
    (timely : sender.Timely) (sends : Sends sender segments final) : final.Timely := by
  have frame := sends.frame
  rcases sends.buffer_eq with ⟨buffer_eq, rto_eq, _⟩
  refine ⟨?_, ?_, ?_⟩
  · rw [frame.firstSeqno_eq]
    exact Nat.le_trans timely.ordered frame.nextSeqno_le
  · rw [buffer_eq, rto_eq]
    apply timely.inStep.append
    intro entry member
    rcases List.mem_map.mp member with ⟨segment, _, rfl⟩
    rfl
  · rw [sends.outstanding_eq]
    intro segment member
    rcases List.mem_append.mp member with old | new
    · exact timely.outstanding segment old
    · exact (sends.places segment new).1

theorem Punctual.sends {sender final : TCPSender} {segments : List TCPSegment}
    (punctual : sender.Punctual) (sends : Sends sender segments final) : final.Punctual := by
  refine ⟨punctual.toTimely.sends sends, ?_⟩
  intro segment member
  rw [sends.segmentsOut_eq] at member
  rcases List.mem_append.mp member with old | new
  · rcases punctual.kept segment old with ⟨nonempty, current⟩
    exact ⟨nonempty, current.sends sends⟩
  · rcases sends.places segment new with ⟨nonempty, place, least, most, seqno⟩
    refine ⟨nonempty, Or.inl ⟨place, ?_, most, seqno⟩⟩
    rw [sends.frame.firstSeqno_eq]
    exact Nat.le_trans punctual.ordered least

/-! ## The passage of time -/

theorem Current.alike {sender updated : TCPSender} {segment : TCPSegment}
    (current : sender.Current segment) (alike : Alike sender updated) :
    updated.Current segment := by
  unfold Current
  rw [alike.firstSeqno_eq, alike.nextSeqno_eq, alike.isn_eq, alike.outstanding_eq]
  exact current

theorem InSequence.alike {sender updated : TCPSender} {segment : TCPSegment}
    (inSequence : sender.InSequence segment) (alike : Alike sender updated) :
    updated.InSequence segment := by
  refine ⟨inSequence.1.alike alike, fun none => ?_⟩
  unfold nextSeqno
  rw [alike.nextSeqno_eq, alike.isn_eq]
  exact inSequence.2 none

/-- A tick keeps the countdowns in step, and what it sends again is the oldest
outstanding segment. -/
theorem Timely.tick {sender : TCPSender} (timely : sender.Timely) (msSinceLastTick : Nat) :
    (sender.tick msSinceLastTick).Timely ∧
      (sender.NoneOvertaken -> (sender.tick msSinceLastTick).NoneOvertaken) := by
  have alike := (sender.tick_spec msSinceLastTick).alike
  have ordered : (sender.tick msSinceLastTick).window.firstSeqno ≤
      (sender.tick msSinceLastTick).window.nextSeqno := by
    rw [alike.firstSeqno_eq, alike.nextSeqno_eq]
    exact timely.ordered
  have outstanding : forall segment,
      segment ∈ (sender.tick msSinceLastTick).window.outstanding ->
        segment.lengthInSequenceSpace ≠ 0 := by
    rw [alike.outstanding_eq]
    exact timely.outstanding
  have kept (current : sender.NoneOvertaken) (segment : TCPSegment)
      (member : segment ∈ sender.segmentsOut) :
      segment.lengthInSequenceSpace ≠ 0 ∧ (sender.tick msSinceLastTick).Current segment :=
    ⟨(current segment member).1, (current segment member).2.alike alike⟩
  cases buffer : sender.window.buffer with
  | nil =>
      rw [tick_of_buffer_nil buffer]
      exact ⟨timely, id⟩
  | cons front rest =>
      by_cases running : front.remainingRto > msSinceLastTick
      · have same := SingleTimerSender.tick_of_running timely.inStep buffer running
        have inStep := SingleTimerSender.tick_inStep timely.inStep buffer running
        rw [same] at ordered outstanding kept ⊢
        exact ⟨⟨ordered, inStep, outstanding⟩, kept⟩
      · have again := tick_of_front buffer running
        have head : sender.window.outstanding.head? = some front.segment := by
          unfold TCPSendingWindow.outstanding
          rw [buffer]
          rfl
        rw [← alike.outstanding_eq] at head
        rw [again] at ordered outstanding kept head ⊢
        refine ⟨⟨ordered, ?_, outstanding⟩, fun current segment member => ?_⟩
        · exact InStep.of_uniform fun _ member => SingleTimerSender.resetTimer_uniform member
        rcases List.mem_append.mp member with old | new
        · exact kept current segment old
        · rw [List.mem_singleton.mp new]
          exact ⟨outstanding _ (List.mem_of_head? head),
            Or.inr ⟨front.segment, head, rfl, rfl, rfl, rfl⟩⟩

theorem Punctual.tick {sender : TCPSender} (punctual : sender.Punctual) (msSinceLastTick : Nat) :
    (sender.tick msSinceLastTick).Punctual :=
  ⟨(punctual.toTimely.tick msSinceLastTick).1,
    (punctual.toTimely.tick msSinceLastTick).2 punctual.kept⟩

/-! ## Acknowledgments -/

/-- What waits to be collected is not overtaken by the acknowledgment. -/
def KeepsUp (sender : TCPSender) (ackno : WrappingInt32) : Prop :=
  sender.window.Accepts ackno ->
    sender.window.firstSeqno < unwrap ackno sender.window.isn sender.window.nextSeqno ->
      forall segment, segment ∈ sender.segmentsOut ->
        Exists fun place => place ≤ sender.window.nextSeqno ∧
          unwrap ackno sender.window.isn sender.window.nextSeqno ≤ place ∧
          segment.header.seqno = wrap place sender.window.isn

instance (sender : TCPSender) (ackno : WrappingInt32) : Decidable (sender.KeepsUp ackno) :=
  inferInstanceAs (Decidable (_ -> _ -> forall segment, segment ∈ sender.segmentsOut ->
    Exists fun place => place ≤ sender.window.nextSeqno ∧ _))

theorem Timely.takeAck {sender updated : TCPSender} {ackno : WrappingInt32}
    {windowSize : UInt16} (timely : sender.Timely)
    (taken : sender.takeAck ackno windowSize = .ok updated) : updated.Timely := by
  have took := takeAck_spec taken
  refine ⟨(took.ordered timely.ordered).2, ?_,
    fun segment member => timely.outstanding segment (took.mem_outstanding member)⟩
  rcases takeAck_cases taken with ⟨_, rfl⟩ | ⟨_, _, rfl⟩ | ⟨_, _, buffer, _, rfl⟩
  · exact timely.inStep
  · exact timely.inStep
  · exact InStep.of_uniform fun _ member => SingleTimerSender.resetTimer_uniform member

theorem Punctual.takeAck {sender updated : TCPSender} {ackno : WrappingInt32}
    {windowSize : UInt16} (punctual : sender.Punctual) (keepsUp : sender.KeepsUp ackno)
    (taken : sender.takeAck ackno windowSize = .ok updated) : updated.Punctual := by
  have took := takeAck_spec taken
  refine ⟨punctual.toTimely.takeAck taken, ?_⟩
  intro segment member
  rw [took.segmentsOut_eq] at member
  rcases punctual.kept segment member with ⟨nonempty, current⟩
  refine ⟨nonempty, ?_⟩
  unfold Current
  rw [took.isn_eq, took.nextSeqno_eq]
  rcases took.outstanding_eq with ⟨first_eq, same⟩ | ⟨accepts, fresh, _⟩
  · rw [first_eq, same]
    exact current
  · rcases keepsUp accepts fresh segment member with ⟨place, most, least, seqno⟩
    left
    rw [took.firstSeqno_eq, if_pos accepts]
    exact ⟨place, least, most, seqno⟩

theorem Timely.ackReceived {sender filled : TCPSender} {ackno : WrappingInt32}
    {windowSize : UInt16} (timely : sender.Timely)
    (received : sender.ackReceived ackno windowSize = .ok filled) : filled.Timely := by
  rcases ackReceived_parts received with ⟨updated, segments, taken, sends⟩
  exact (timely.takeAck taken).sends sends

theorem Punctual.ackReceived {sender filled : TCPSender} {ackno : WrappingInt32}
    {windowSize : UInt16} (punctual : sender.Punctual) (keepsUp : sender.KeepsUp ackno)
    (received : sender.ackReceived ackno windowSize = .ok filled) : filled.Punctual := by
  rcases ackReceived_parts received with ⟨updated, segments, taken, sends⟩
  exact (punctual.takeAck keepsUp taken).sends sends

end TCPSender
end Tcp
end Sponge
