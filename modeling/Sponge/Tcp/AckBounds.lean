import Sponge.Foundation.Runs
import Sponge.Tcp.Acknowledging

namespace Sponge
namespace Tcp

open Foundation Bytes

/-!
# The acknowledged number and what has been assembled

A receiver should acknowledge what it has assembled, not more and not less:
the SYN, the bytes written to the inbound stream, and the FIN once the stream
has ended.  The checkpoint misses this on both sides.  For each side the
segments that take it astray are named by the state before them, and a run
stays on that side exactly if it has none of them.
-/

namespace TCPReceiver

def step (receiver : TCPReceiver) (made : ReceiverCall) : Except Empty TCPReceiver :=
  .ok (receiver.call made)

/-- The number behind everything assembled: the SYN, the bytes and the FIN. -/
def assembledEnd (receiver : TCPReceiver) : Nat :=
  1 + receiver.streamOut.bytesWritten + if receiver.streamOut.inputEnded then 1 else 0

/-- Nothing is acknowledged that has not been assembled. -/
def AckSound (receiver : TCPReceiver) : Prop :=
  receiver.isSet = true -> receiver.checkpoint ≤ receiver.assembledEnd

/-- Everything that has been assembled is acknowledged. -/
def AckComplete (receiver : TCPReceiver) : Prop :=
  receiver.isSet = true -> receiver.assembledEnd ≤ receiver.checkpoint

instance (receiver : TCPReceiver) : Decidable receiver.AckSound :=
  inferInstanceAs (Decidable (_ -> _))

instance (receiver : TCPReceiver) : Decidable receiver.AckComplete :=
  inferInstanceAs (Decidable (_ -> _))

/-- Every number a counted segment takes the checkpoint over is kept.  The FIN
needs the stream to be complete.  Once the stream has ended, the segment
reaches at most over the FIN, and of bytes behind the end at most one is
stored, which must not make the stream look complete again. -/
def Backs (receiver : TCPReceiver) (segment : TCPSegment) : Prop :=
  (receiver.streamOut.inputEnded = false ->
    forall k, k < receiver.segmentEnd segment - (if receiver.Completes segment then 2 else 1) ->
      receiver.Keeps segment k) ∧
  (receiver.streamOut.inputEnded = true ->
    receiver.segmentEnd segment ≤ receiver.streamOut.bytesWritten + 2 ∧
      (receiver.Keeps segment receiver.streamOut.bytesWritten ->
        ¬ receiver.Keeps segment (receiver.streamOut.bytesWritten + 1) ∧
          (receiver.Completes segment ->
            receiver.streamOut.bytesWritten + 2 ≤ receiver.segmentEnd segment)))

instance (receiver : TCPReceiver) (segment : TCPSegment) : Decidable (receiver.Backs segment) :=
  inferInstanceAs (Decidable ((_ -> forall k, k < _ -> _) ∧ (_ -> _)))

/-- A segment that is counted backs the numbers it is counted for. -/
def BacksCount (receiver : TCPReceiver) : ReceiverCall -> Prop
  | .segmentReceived segment => (receiver.noteSyn segment).isSet = true ->
      receiver.Counts segment -> receiver.Backs segment
  | _ => True

instance (receiver : TCPReceiver) : (made : ReceiverCall) -> Decidable (receiver.BacksCount made)
  | .segmentReceived _ => inferInstanceAs (Decidable (_ -> _ -> _))
  | .read _ => .isTrue trivial
  | .pop _ => .isTrue trivial
  | .setError => .isTrue trivial

/-- What a segment adds is counted.  A segment that is not counted must leave
a byte below the checkpoint missing, and one earlier if it completes the stream.
With one that is counted and completes the stream, the assembled part must not
end at the segment's own end, where the FIN would be left out.  Once the stream
has ended, a segment at number zero must come back to the number behind the
FIN. -/
def Catches (receiver : TCPReceiver) (segment : TCPSegment) : Prop :=
  (receiver.streamOut.inputEnded = false -> ¬ receiver.Counts segment ->
    ¬ forall k, k < receiver.checkpoint - (if receiver.Completes segment then 1 else 0) ->
      receiver.Keeps segment k) ∧
  (receiver.streamOut.inputEnded = false -> receiver.Counts segment ->
    ¬ (receiver.Completes segment ∧ 0 < receiver.segmentEnd segment ∧
      (forall k, k < receiver.segmentEnd segment - 1 -> receiver.Keeps segment k) ∧
      ¬ receiver.Keeps segment (receiver.segmentEnd segment - 1))) ∧
  (receiver.streamOut.inputEnded = true -> (receiver.noteSyn segment).index segment = 0 ->
    receiver.Keeps segment receiver.streamOut.bytesWritten ∨
      receiver.streamOut.bytesWritten + 2 ≤ receiver.segmentEnd segment ∨
      receiver.segmentEnd segment ≤ receiver.streamOut.bytesWritten ∧
        receiver.Completes segment)

instance (receiver : TCPReceiver) (segment : TCPSegment) : Decidable (receiver.Catches segment) :=
  inferInstanceAs (Decidable ((_ -> _ -> ¬ forall k, k < _ -> _) ∧ (_ -> _ -> _) ∧ (_ -> _ -> _)))

/-- Nothing is assembled behind the checkpoint's back. -/
def CatchesUp (receiver : TCPReceiver) : ReceiverCall -> Prop
  | .segmentReceived segment => (receiver.noteSyn segment).isSet = true ->
      receiver.Catches segment
  | _ => True

instance (receiver : TCPReceiver) : (made : ReceiverCall) -> Decidable (receiver.CatchesUp made)
  | .segmentReceived _ => inferInstanceAs (Decidable (_ -> _))
  | .read _ => .isTrue trivial
  | .pop _ => .isTrue trivial
  | .setError => .isTrue trivial

/-! ## One segment -/

theorem index_of_syn (receiver : TCPReceiver) {segment : TCPSegment}
    (syn : segment.header.syn = true) : (receiver.noteSyn segment).index segment = 0 := by
  unfold noteSyn index
  rw [if_pos syn]
  have same := unwrap_wrap_self 0 segment.header.seqno
  rwa [wrap_zero] at same

/-- A segment that does not start at number zero leaves the checkpoint and the
initial sequence number alone. -/
theorem noteSyn_of_index {receiver : TCPReceiver} {segment : TCPSegment}
    (later : (receiver.noteSyn segment).index segment ≠ 0) :
    receiver.noteSyn segment = receiver := by
  unfold noteSyn
  split
  · rename_i syn
    exact absurd (receiver.index_of_syn syn) later
  · rfl

theorem isSet_of_noted {receiver : TCPReceiver} {segment : TCPSegment}
    (isSet : (receiver.noteSyn segment).isSet = true) :
    (receiver.segmentReceived segment).isSet = true := by
  unfold segmentReceived
  dsimp only
  rw [if_pos isSet]
  exact isSet

theorem segmentReceived_of_unnoted {receiver : TCPReceiver} {segment : TCPSegment}
    (unset : ¬ (receiver.noteSyn segment).isSet = true) :
    (receiver.segmentReceived segment).isSet = false := by
  unfold segmentReceived
  dsimp only
  rw [if_neg unset]
  exact Bool.eq_false_iff.mpr unset

section

variable {receiver : TCPReceiver} (ordinary : receiver.Ordinary) {segment : TCPSegment}
  (isSet : (receiver.noteSyn segment).isSet = true)

include ordinary isSet

/-- What is assembled after a segment on an open stream. -/
theorem Ordinary.assembledEnd_of_open (opened : receiver.streamOut.inputEnded = false) :
    (receiver.segmentReceived segment).assembledEnd =
      (receiver.segmentReceived segment).reassembler.firstUnassembled +
        if receiver.Completes segment then 2 else 1 := by
  have ends := segmentReceived_endFlag ordinary.wf segment
  have flag : (receiver.segmentReceived segment).streamOut.inputEnded = true <->
      receiver.Completes segment := by
    refine ends.trans ⟨?_, Or.inr⟩
    rintro (ended | completes)
    · cases ended.symm.trans opened
    · exact completes
  unfold assembledEnd
  rw [ordinary.written_of_open isSet opened]
  by_cases completes : receiver.Completes segment
  · rw [if_pos (flag.mpr completes), if_pos completes]
    omega
  · rw [if_neg (fun ended => completes (flag.mp ended)), if_neg completes]
    omega

/-- Nothing is assembled any more once the stream has ended. -/
theorem Ordinary.assembledEnd_of_ended (ended : receiver.streamOut.inputEnded = true) :
    (receiver.segmentReceived segment).assembledEnd = receiver.streamOut.bytesWritten + 2 := by
  have still : (receiver.segmentReceived segment).streamOut.inputEnded = true :=
    (segmentReceived_endFlag ordinary.wf segment).mpr (Or.inl ended)
  unfold assembledEnd
  rw [ordinary.written_of_ended isSet ended, if_pos still]
  omega

/-- What is assembled only grows. -/
theorem Ordinary.assembledEnd_le :
    receiver.assembledEnd ≤ (receiver.segmentReceived segment).assembledEnd := by
  cases opened : receiver.streamOut.inputEnded with
  | true =>
      rw [ordinary.assembledEnd_of_ended isSet opened]
      unfold assembledEnd
      rw [if_pos opened]
      omega
  | false =>
      have onward := ordinary.firstUnassembled_ge isSet
      have written := ordinary.wf.written_le
      rw [ordinary.assembledEnd_of_open isSet opened]
      unfold assembledEnd
      rw [if_neg (Bool.eq_false_iff.mp opened)]
      unfold streamOut
      split
      · omega
      · omega

/-- The bytes written before are kept. -/
theorem Ordinary.written_le :
    receiver.streamOut.bytesWritten ≤
      (receiver.segmentReceived segment).reassembler.firstUnassembled :=
  Nat.le_trans ordinary.wf.written_le (ordinary.firstUnassembled_ge isSet)

variable (allocated : receiver.reassembler.edge < 2 ^ 64)

include allocated

/-- On an open stream a counted segment is answered soundly exactly if it
backs what it is counted for. -/
theorem Ordinary.backs_iff_of_open (counts : receiver.Counts segment)
    (opened : receiver.streamOut.inputEnded = false) :
    receiver.Backs segment <-> (receiver.segmentReceived segment).checkpoint ≤
      (receiver.segmentReceived segment).assembledEnd := by
  have kept := ordinary.allKept_iff isSet allocated
    (receiver.segmentEnd segment - if receiver.Completes segment then 2 else 1)
  have backs : receiver.Backs segment <-> receiver.segmentEnd segment -
      (if receiver.Completes segment then 2 else 1) ≤
        (receiver.segmentReceived segment).reassembler.firstUnassembled := by
    rw [← kept]
    constructor
    · intro both
      exact both.1 opened
    · intro all
      exact ⟨fun _ => all, fun ended => nomatch ended.symm.trans opened⟩
  rw [backs, ordinary.checkpoint_eq isSet allocated, if_pos counts,
    ordinary.assembledEnd_of_open isSet opened]
  by_cases completes : receiver.Completes segment
  · rw [if_pos completes]
    split
    · omega
    · omega
  · rw [if_neg completes]
    split
    · omega
    · omega

/-- Once the stream has ended, a counted segment is answered soundly exactly
if it reaches at most over the FIN. -/
theorem Ordinary.backs_iff_of_ended (counts : receiver.Counts segment)
    (ended : receiver.streamOut.inputEnded = true) :
    receiver.Backs segment <-> (receiver.segmentReceived segment).checkpoint ≤
      (receiver.segmentReceived segment).assembledEnd := by
  have written := ordinary.written_le isSet
  have first := ordinary.keeps_next_iff isSet allocated written
  have backs : receiver.Backs segment <->
      receiver.segmentEnd segment ≤ receiver.streamOut.bytesWritten + 2 ∧
        (receiver.streamOut.bytesWritten <
            (receiver.segmentReceived segment).reassembler.firstUnassembled ->
          (receiver.segmentReceived segment).reassembler.firstUnassembled ≤
              receiver.streamOut.bytesWritten + 1 ∧
            (receiver.Completes segment ->
              receiver.streamOut.bytesWritten + 2 ≤ receiver.segmentEnd segment)) := by
    constructor
    · intro both
      rcases both.2 ended with ⟨reaches, behind⟩
      refine ⟨reaches, fun beyond => ?_⟩
      rcases behind (first.mpr beyond) with ⟨missing, looks⟩
      rw [ordinary.keeps_next_iff isSet allocated beyond] at missing
      exact ⟨Nat.le_of_not_lt missing, looks⟩
    · rintro ⟨reaches, behind⟩
      refine ⟨fun opened => (nomatch opened.symm.trans ended), fun _ => ⟨reaches, ?_⟩⟩
      intro keeps
      rcases behind (first.mp keeps) with ⟨short, looks⟩
      rw [ordinary.keeps_next_iff isSet allocated (first.mp keeps)]
      exact ⟨Nat.not_lt_of_le short, looks⟩
  rw [backs, ordinary.checkpoint_eq isSet allocated, if_pos counts,
    ordinary.assembledEnd_of_ended isSet ended]
  by_cases completes : receiver.Completes segment
  · rw [if_pos completes]
    simp only [completes, true_implies]
    split
    · omega
    · omega
  · rw [if_neg completes]
    simp only [completes, false_implies, and_true]
    split
    · omega
    · omega

theorem Ordinary.segmentReceived_sound_iff (sound : receiver.AckSound) :
    (receiver.Counts segment -> receiver.Backs segment) <->
      (receiver.segmentReceived segment).AckSound := by
  have nowSet := isSet_of_noted isSet
  by_cases counts : receiver.Counts segment
  · have backs : receiver.Backs segment <-> (receiver.segmentReceived segment).checkpoint ≤
        (receiver.segmentReceived segment).assembledEnd := by
      cases opened : receiver.streamOut.inputEnded with
      | false => exact ordinary.backs_iff_of_open isSet allocated counts opened
      | true => exact ordinary.backs_iff_of_ended isSet allocated counts opened
    constructor
    · intro backed _
      exact backs.mp (backed counts)
    · intro still _
      exact backs.mpr (still nowSet)
  · have same := noteSyn_of_index (fun zero => counts (Or.inl zero))
    refine ⟨fun _ _ => ?_, fun _ counted => absurd counted counts⟩
    rw [ordinary.checkpoint_eq isSet allocated, if_neg counts, same]
    exact Nat.le_trans (sound (same ▸ isSet)) (ordinary.assembledEnd_le isSet)

/-- The first missing byte, told by what is kept below a number and at it. -/
theorem Ordinary.firstMissing_iff (k : Nat) :
    ((forall j, j < k -> receiver.Keeps segment j) ∧ ¬ receiver.Keeps segment k) <->
      k = (receiver.segmentReceived segment).reassembler.firstUnassembled := by
  rw [ordinary.allKept_iff isSet allocated k]
  constructor
  · rintro ⟨reaches, missing⟩
    rw [ordinary.keeps_next_iff isSet allocated reaches] at missing
    omega
  · intro equal
    refine ⟨Nat.le_of_eq equal, ?_⟩
    rw [ordinary.keeps_next_iff isSet allocated (Nat.le_of_eq equal)]
    omega

/-- On an open stream a counted segment must not end where the assembled part
does if it completes the stream. -/
theorem Ordinary.catches_iff_of_counted (opened : receiver.streamOut.inputEnded = false)
    (counts : receiver.Counts segment) :
    receiver.Catches segment <-> (receiver.segmentReceived segment).assembledEnd ≤
      (receiver.segmentReceived segment).checkpoint := by
  have catches : receiver.Catches segment <->
      ¬ (receiver.Completes segment ∧ 0 < receiver.segmentEnd segment ∧
        receiver.segmentEnd segment - 1 =
          (receiver.segmentReceived segment).reassembler.firstUnassembled) := by
    rw [← ordinary.firstMissing_iff isSet allocated]
    constructor
    · intro all
      exact all.2.1 opened counts
    · intro here
      exact ⟨fun _ other => absurd counts other, fun _ _ => here,
        fun ended => (nomatch ended.symm.trans opened)⟩
  rw [catches, ordinary.checkpoint_eq isSet allocated, if_pos counts,
    ordinary.assembledEnd_of_open isSet opened]
  by_cases completes : receiver.Completes segment
  · rw [if_pos completes]
    simp only [completes, true_and]
    split
    · omega
    · omega
  · rw [if_neg completes]
    simp only [completes, false_and, not_false_eq_true, true_iff]
    split
    · omega
    · omega

/-- On an open stream a segment that is not counted must leave something below
the checkpoint missing. -/
theorem Ordinary.catches_iff_of_uncounted (opened : receiver.streamOut.inputEnded = false)
    (uncounted : ¬ receiver.Counts segment) :
    receiver.Catches segment <-> (receiver.segmentReceived segment).assembledEnd ≤
      (receiver.segmentReceived segment).checkpoint := by
  have same := noteSyn_of_index (fun zero => uncounted (Or.inl zero))
  have catches : receiver.Catches segment <->
      ¬ receiver.checkpoint - (if receiver.Completes segment then 1 else 0) ≤
        (receiver.segmentReceived segment).reassembler.firstUnassembled := by
    rw [← ordinary.allKept_iff isSet allocated]
    constructor
    · intro all
      exact all.1 opened uncounted
    · intro here
      exact ⟨fun _ _ => here, fun _ counts => absurd counts uncounted,
        fun ended => (nomatch ended.symm.trans opened)⟩
  rw [catches, ordinary.checkpoint_eq isSet allocated, if_neg uncounted, same,
    ordinary.assembledEnd_of_open isSet opened]
  by_cases completes : receiver.Completes segment
  · rw [if_pos completes, if_pos completes]
    omega
  · rw [if_neg completes, if_neg completes]
    omega

/-- Away from number zero the checkpoint only moves on. -/
theorem Ordinary.checkpoint_le_of_index
    (later : (receiver.noteSyn segment).index segment ≠ 0) :
    receiver.checkpoint ≤ (receiver.segmentReceived segment).checkpoint := by
  have same := noteSyn_of_index later
  rw [ordinary.checkpoint_eq isSet allocated]
  split
  · rename_i counts
    have start : receiver.index segment = receiver.checkpoint := by
      unfold Counts at counts
      rw [same] at counts later
      exact counts.resolve_left later
    have reaches : receiver.checkpoint ≤ receiver.segmentEnd segment := by
      unfold segmentEnd
      rw [same, start]
      exact Nat.le_add_right _ _
    split
    · split
      · omega
      · omega
    · exact reaches
  · rw [same]

/-- Once the stream has ended, only a segment at number zero can take the
checkpoint back. -/
theorem Ordinary.catches_iff_of_ended (complete : receiver.AckComplete)
    (ended : receiver.streamOut.inputEnded = true) :
    receiver.Catches segment <-> (receiver.segmentReceived segment).assembledEnd ≤
      (receiver.segmentReceived segment).checkpoint := by
  have written := ordinary.written_le isSet
  have first := ordinary.keeps_next_iff isSet allocated written
  have catches : receiver.Catches segment <->
      ((receiver.noteSyn segment).index segment = 0 ->
        receiver.streamOut.bytesWritten <
            (receiver.segmentReceived segment).reassembler.firstUnassembled ∨
          receiver.streamOut.bytesWritten + 2 ≤ receiver.segmentEnd segment ∨
          receiver.segmentEnd segment ≤ receiver.streamOut.bytesWritten ∧
            receiver.Completes segment) := by
    rw [← first]
    constructor
    · intro all
      exact all.2.2 ended
    · intro here
      exact ⟨fun opened => (nomatch opened.symm.trans ended),
        fun opened => (nomatch opened.symm.trans ended), fun _ => here⟩
  rw [catches, ordinary.assembledEnd_of_ended isSet ended]
  by_cases zero : (receiver.noteSyn segment).index segment = 0
  · have counts : receiver.Counts segment := Or.inl zero
    rw [ordinary.checkpoint_eq isSet allocated, if_pos counts]
    by_cases completes : receiver.Completes segment
    · rw [if_pos completes]
      simp only [zero, completes, and_true, true_implies]
      split
      · omega
      · omega
    · rw [if_neg completes]
      simp only [zero, completes, and_false, or_false, true_implies]
      split
      · omega
      · omega
  · have onward := ordinary.checkpoint_le_of_index isSet allocated zero
    have same := noteSyn_of_index zero
    have before := complete (same ▸ isSet)
    unfold assembledEnd at before
    rw [if_pos ended] at before
    exact iff_of_true (fun atZero => absurd atZero zero) (by omega)

theorem Ordinary.segmentReceived_complete_iff (complete : receiver.AckComplete) :
    receiver.Catches segment <-> (receiver.segmentReceived segment).AckComplete := by
  have catches : receiver.Catches segment <->
      (receiver.segmentReceived segment).assembledEnd ≤
        (receiver.segmentReceived segment).checkpoint := by
    cases opened : receiver.streamOut.inputEnded with
    | false =>
        by_cases counts : receiver.Counts segment
        · exact ordinary.catches_iff_of_counted isSet allocated opened counts
        · exact ordinary.catches_iff_of_uncounted isSet allocated opened counts
    | true => exact ordinary.catches_iff_of_ended isSet allocated complete opened
  exact catches.trans ⟨fun bound _ => bound, fun bound => bound (isSet_of_noted isSet)⟩

end

/-! ## Whole runs -/

theorem Ordinary.call {receiver : TCPReceiver} (ordinary : receiver.Ordinary)
    (made : ReceiverCall) : (receiver.call made).Ordinary := by
  cases made with
  | segmentReceived segment => exact ordinary.segmentReceived segment
  | read length => exact ⟨ordinary.wf.popOutput length, ordinary.marked, ordinary.ended_eq⟩
  | pop length => exact ⟨ordinary.wf.popOutput length, ordinary.marked, ordinary.ended_eq⟩
  | setError => exact ⟨{ ordinary.wf with }, ordinary.marked, ordinary.ended_eq⟩

/-- The window's edge never moves back. -/
theorem edge_call_le (receiver : TCPReceiver) (made : ReceiverCall) :
    receiver.reassembler.edge ≤ (receiver.call made).reassembler.edge := by
  cases made with
  | segmentReceived segment =>
      change _ ≤ (receiver.segmentReceived segment).reassembler.edge
      rw [segmentReceived_reassembler]
      split
      · rw [StreamReassembler.pushSubstring_edge]
      · exact Nat.le_refl _
  | read length => exact Nat.add_le_add_right (Nat.le_add_right _ _) _
  | pop length => exact Nat.add_le_add_right (Nat.le_add_right _ _) _
  | setError => exact Nat.le_refl _

theorem edge_backward (receiver : TCPReceiver) (made : ReceiverCall) (next : TCPReceiver)
    (taken : receiver.step made = .ok next) (allocated : next.reassembler.edge < 2 ^ 64) :
    receiver.reassembler.edge < 2 ^ 64 := by
  cases taken
  exact Nat.lt_of_le_of_lt (receiver.edge_call_le made) allocated

theorem Ordinary.step {receiver next : TCPReceiver} {made : ReceiverCall}
    (ordinary : receiver.Ordinary) (taken : receiver.step made = .ok next) : next.Ordinary := by
  cases taken
  exact ordinary.call made

/-- A call is answered soundly exactly if it backs what it is counted for. -/
theorem Ordinary.step_sound_iff {receiver next : TCPReceiver} {made : ReceiverCall}
    (ordinary : receiver.Ordinary) (sound : receiver.AckSound)
    (taken : receiver.step made = .ok next) (allocated : next.reassembler.edge < 2 ^ 64) :
    receiver.BacksCount made <-> next.AckSound := by
  have room := edge_backward receiver made next taken allocated
  cases taken
  cases made with
  | segmentReceived segment =>
      by_cases isSet : (receiver.noteSyn segment).isSet = true
      · have exactly := ordinary.segmentReceived_sound_iff isSet room sound
        exact ⟨fun backs => exactly.mp (backs isSet), fun still _ => exactly.mpr still⟩
      · have unset := segmentReceived_of_unnoted isSet
        exact ⟨fun _ set => (nomatch unset.symm.trans set), fun _ set => absurd set isSet⟩
  | read length => exact ⟨fun _ => sound, fun _ => trivial⟩
  | pop length => exact ⟨fun _ => sound, fun _ => trivial⟩
  | setError => exact ⟨fun _ => sound, fun _ => trivial⟩

/-- After a call the checkpoint keeps up exactly if the call catches what it
adds. -/
theorem Ordinary.step_complete_iff {receiver next : TCPReceiver} {made : ReceiverCall}
    (ordinary : receiver.Ordinary) (complete : receiver.AckComplete)
    (taken : receiver.step made = .ok next) (allocated : next.reassembler.edge < 2 ^ 64) :
    receiver.CatchesUp made <-> next.AckComplete := by
  have room := edge_backward receiver made next taken allocated
  cases taken
  cases made with
  | segmentReceived segment =>
      by_cases isSet : (receiver.noteSyn segment).isSet = true
      · have exactly := ordinary.segmentReceived_complete_iff isSet room complete
        exact ⟨fun catches => exactly.mp (catches isSet), fun still _ => exactly.mpr still⟩
      · have unset := segmentReceived_of_unnoted isSet
        exact ⟨fun _ set => (nomatch unset.symm.trans set), fun _ set => absurd set isSet⟩
  | read length => exact ⟨fun _ => complete, fun _ => trivial⟩
  | pop length => exact ⟨fun _ => complete, fun _ => trivial⟩
  | setError => exact ⟨fun _ => complete, fun _ => trivial⟩

end TCPReceiver

/-- **Acknowledgment soundness, and exactly when it holds.**  Whatever segments
arrive at a receiver and whatever is read in between, the acknowledged number
stays within what has been assembled in every state of a run exactly if every
segment that the checkpoint counts backs the numbers it is counted for. -/
theorem receiver_ack_sound_iff (capacity : Capacity) (calls : List ReceiverCall)
    (final : TCPReceiver) (done : run TCPReceiver.step (.new capacity) calls = .ok final)
    (allocated : final.reassembler.edge < 2 ^ 64) :
    RunMeets TCPReceiver.step TCPReceiver.BacksCount (.new capacity) calls <->
      forall before reached, before <+: calls ->
        run TCPReceiver.step (.new capacity) before = .ok reached -> reached.AckSound :=
  runMeets_iff (fun receiver => receiver.reassembler.edge < 2 ^ 64) TCPReceiver.Ordinary
    TCPReceiver.AckSound TCPReceiver.edge_backward
    (fun _ _ _ ordinary taken => ordinary.step taken)
    (fun _ _ _ ordinary sound taken within => ordinary.step_sound_iff sound taken within)
    (TCPReceiver.new_ordinary capacity) nofun done allocated

/-- A run with a read and a FIN that stays sound. -/
theorem receiver_ack_sound_with_read :
    let calls : List ReceiverCall :=
      [.segmentReceived { header := { seqno := ⟨100⟩, syn := true } },
        .segmentReceived { header := { seqno := ⟨101⟩ }, payload := [1, 2] }, .read 1,
        .segmentReceived { header := { seqno := ⟨103⟩, fin := true }, payload := [3] }]
    RunMeets TCPReceiver.step TCPReceiver.BacksCount (.new ⟨2, by decide⟩) calls ∧
      forall before reached, before <+: calls ->
        run TCPReceiver.step (.new ⟨2, by decide⟩) before = .ok reached -> reached.AckSound := by
  intro calls
  have meets : RunMeets TCPReceiver.step TCPReceiver.BacksCount
      (.new ⟨2, by decide⟩) calls := by decide +kernel
  have checked : endsIn TCPReceiver.step (fun receiver =>
      decide (receiver.reassembler.edge < 2 ^ 64)) (.new ⟨2, by decide⟩) calls = true := by
    decide +kernel
  rcases run_of_endsIn checked with ⟨final, done, allocated⟩
  exact ⟨meets, (receiver_ack_sound_iff ⟨2, by decide⟩ calls final done
    (of_decide_eq_true allocated)).mp meets⟩

/-- A segment at the checkpoint is acknowledged as a whole, also where the
window has room for two of its three bytes only. -/
theorem receiver_ack_unsound_beyond_window :
    let calls : List ReceiverCall :=
      [.segmentReceived { header := { seqno := ⟨100⟩, syn := true } },
        .segmentReceived { header := { seqno := ⟨101⟩ }, payload := [1, 2, 3] }]
    Exists fun final => run TCPReceiver.step (.new ⟨2, by decide⟩) calls = .ok final ∧
      final.isSet = true ∧ final.streamOut.bytesWritten = 2 ∧
      final.streamOut.inputEnded = false ∧ final.checkpoint = 4 ∧ ¬ final.AckSound := by
  intro calls
  have checked : endsIn TCPReceiver.step (fun receiver =>
      decide (receiver.isSet = true ∧ receiver.streamOut.bytesWritten = 2 ∧
        receiver.streamOut.inputEnded = false ∧ receiver.checkpoint = 4 ∧ ¬ receiver.AckSound))
      (.new ⟨2, by decide⟩) calls = true := by decide +kernel
  rcases run_of_endsIn checked with ⟨final, done, facts⟩
  exact ⟨final, done, of_decide_eq_true facts⟩

/-- **Acknowledgment progress, and exactly when it holds.**  Everything that has
been assembled is acknowledged in every state of a run exactly if no segment
adds to what is assembled without the checkpoint following it. -/
theorem receiver_ack_complete_iff (capacity : Capacity) (calls : List ReceiverCall)
    (final : TCPReceiver) (done : run TCPReceiver.step (.new capacity) calls = .ok final)
    (allocated : final.reassembler.edge < 2 ^ 64) :
    RunMeets TCPReceiver.step TCPReceiver.CatchesUp (.new capacity) calls <->
      forall before reached, before <+: calls ->
        run TCPReceiver.step (.new capacity) before = .ok reached -> reached.AckComplete :=
  runMeets_iff (fun receiver => receiver.reassembler.edge < 2 ^ 64) TCPReceiver.Ordinary
    TCPReceiver.AckComplete TCPReceiver.edge_backward
    (fun _ _ _ ordinary taken => ordinary.step taken)
    (fun _ _ _ ordinary complete taken within => ordinary.step_complete_iff complete taken within)
    (TCPReceiver.new_ordinary capacity) nofun done allocated

/-- A run in which a hole is filled and the stream ends behind it, and all of
it is acknowledged. -/
theorem receiver_ack_complete_reordered :
    let calls : List ReceiverCall :=
      [.segmentReceived { header := { seqno := ⟨100⟩, syn := true } },
        .segmentReceived { header := { seqno := ⟨102⟩, fin := true }, payload := [2] },
        .segmentReceived { header := { seqno := ⟨101⟩ }, payload := [1] }]
    RunMeets TCPReceiver.step TCPReceiver.CatchesUp (.new ⟨4, by decide⟩) calls ∧
      forall before reached, before <+: calls ->
        run TCPReceiver.step (.new ⟨4, by decide⟩) before = .ok reached ->
          reached.AckComplete := by
  intro calls
  have meets : RunMeets TCPReceiver.step TCPReceiver.CatchesUp
      (.new ⟨4, by decide⟩) calls := by decide +kernel
  have checked : endsIn TCPReceiver.step (fun receiver =>
      decide (receiver.reassembler.edge < 2 ^ 64)) (.new ⟨4, by decide⟩) calls = true := by
    decide +kernel
  rcases run_of_endsIn checked with ⟨final, done, allocated⟩
  exact ⟨meets, (receiver_ack_complete_iff ⟨4, by decide⟩ calls final done
    (of_decide_eq_true allocated)).mp meets⟩

/-- A retransmission with a byte more starts before the checkpoint: the byte is
assembled and not acknowledged. -/
theorem receiver_ack_incomplete_after_overlap :
    let calls : List ReceiverCall :=
      [.segmentReceived { header := { seqno := ⟨100⟩, syn := true } },
        .segmentReceived { header := { seqno := ⟨101⟩ }, payload := [1, 2] },
        .segmentReceived { header := { seqno := ⟨101⟩ }, payload := [1, 2, 3] }]
    Exists fun final => run TCPReceiver.step (.new ⟨4, by decide⟩) calls = .ok final ∧
      final.isSet = true ∧ final.streamOut.bytesWritten = 3 ∧
      final.streamOut.inputEnded = false ∧ final.checkpoint = 3 ∧ ¬ final.AckComplete := by
  intro calls
  have checked : endsIn TCPReceiver.step (fun receiver =>
      decide (receiver.isSet = true ∧ receiver.streamOut.bytesWritten = 3 ∧
        receiver.streamOut.inputEnded = false ∧ receiver.checkpoint = 3 ∧
        ¬ receiver.AckComplete)) (.new ⟨4, by decide⟩) calls = true := by decide +kernel
  rcases run_of_endsIn checked with ⟨final, done, facts⟩
  exact ⟨final, done, of_decide_eq_true facts⟩

end Tcp
end Sponge
