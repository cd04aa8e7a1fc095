import Sponge.Tcp.Machines
import Sponge.Tcp.Stages

namespace Sponge
namespace Tcp

open Foundation Bytes

/-!
# What one segment does to the acknowledged number

The checkpoint is counted apart from what the reassembler has stored.  The
numbers after a segment are described here by the state before it: which
bytes are held then, where the assembled part ends, whether the stream has
ended, and which of these the checkpoint follows.
-/

namespace TCPReceiver

/-- The byte at an index is held once the segment is stored: it is held
before, or the segment brings it and it lies inside the window. -/
def Keeps (receiver : TCPReceiver) (segment : TCPSegment) (k : Nat) : Prop :=
  receiver.reassembler.Stores k ∨
    ((receiver.noteSyn segment).streamIndex segment ≤ k ∧
      k < (receiver.noteSyn segment).streamIndex segment + segment.payload.length ∧
      k < receiver.reassembler.edge)

instance (receiver : TCPReceiver) (segment : TCPSegment) (k : Nat) :
    Decidable (receiver.Keeps segment k) :=
  inferInstanceAs (Decidable (_ ∨ _ ∧ _ ∧ _))

/-- The segment starts at the checkpoint or at number zero. -/
def Counts (receiver : TCPReceiver) (segment : TCPSegment) : Prop :=
  (receiver.noteSyn segment).index segment = 0 ∨
    (receiver.noteSyn segment).index segment = (receiver.noteSyn segment).checkpoint

instance (receiver : TCPReceiver) (segment : TCPSegment) :
    Decidable (receiver.Counts segment) :=
  inferInstanceAs (Decidable (_ ∨ _))

/-- The number behind the last one of the segment. -/
def segmentEnd (receiver : TCPReceiver) (segment : TCPSegment) : Nat :=
  (receiver.noteSyn segment).index segment + segment.lengthInSequenceSpace

/-- What holds of every receiver between two calls. -/
structure Ordinary (receiver : TCPReceiver) : Prop where
  wf : receiver.reassembler.Wf
  marked : receiver.reassembler.firstUnacceptable < 2 ^ 64
  ended_eq : receiver.ended = receiver.reassembler.eofed

theorem new_ordinary (capacity : Capacity) : (new capacity).Ordinary :=
  ⟨StreamReassembler.new_wf capacity, Nat.two_pow_pos 64, rfl⟩

theorem Ordinary.staged {receiver : TCPReceiver} (ordinary : receiver.Ordinary)
    (segment : TCPSegment) : (receiver.staged segment).Staged := by
  unfold TCPReceiver.staged
  rw [noteSyn_reassembler]
  exact ordinary.wf.staged _ _ _

theorem Ordinary.keeps_iff {receiver : TCPReceiver} (ordinary : receiver.Ordinary)
    (segment : TCPSegment) (allocated : receiver.reassembler.edge < 2 ^ 64) (k : Nat) :
    receiver.Keeps segment k <-> (receiver.staged segment).Stores k := by
  have inside := (receiver.noteSyn segment).streamIndex_lt segment
  have fits : min ((receiver.noteSyn segment).streamIndex segment + segment.payload.length)
      (max ((receiver.noteSyn segment).streamIndex segment) receiver.reassembler.edge) <
        2 ^ 64 := by
    omega
  unfold TCPReceiver.staged Keeps
  rw [noteSyn_reassembler]
  exact (ordinary.wf.staging_stores segment.payload segment.header.fin fits k).symm

theorem segmentReceived_assembled {receiver : TCPReceiver} {segment : TCPSegment}
    (isSet : (receiver.noteSyn segment).isSet = true) :
    (receiver.segmentReceived segment).reassembler =
      (receiver.staged segment).updateOutput := by
  unfold staged
  rw [segmentReceived_reassembler, if_pos isSet, noteSyn_reassembler]
  rfl

theorem staged_eofed {receiver : TCPReceiver} (segment : TCPSegment) :
    (receiver.staged segment).eofed = (receiver.reassembler.eofed || segment.header.fin) := by
  unfold staged
  rw [noteSyn_reassembler]
  exact (StreamReassembler.storeLoop_frame _ _ _).2.2.1

/-- Both ways of noting the end of the stream agree. -/
theorem segmentReceived_ended {receiver : TCPReceiver} (segment : TCPSegment)
    (isSet : (receiver.noteSyn segment).isSet = true) :
    (receiver.segmentReceived segment).ended = (receiver.ended || segment.header.fin) := by
  have same : (receiver.noteSyn segment).ended = receiver.ended := by
    unfold noteSyn
    split
    · rfl
    · rfl
  unfold segmentReceived
  dsimp only
  rw [if_pos isSet, ← same]
  rfl

theorem Ordinary.segmentReceived {receiver : TCPReceiver} (ordinary : receiver.Ordinary)
    (segment : TCPSegment) : (receiver.segmentReceived segment).Ordinary := by
  by_cases isSet : (receiver.noteSyn segment).isSet = true
  · have assembles := (StreamReassembler.updateOutput_spec (ordinary.staged segment)).1
    refine ⟨segmentReceived_wf ordinary.wf segment, ?_, ?_⟩
    · rw [segmentReceived_assembled isSet, assembles.firstUnacceptable_eq]
      unfold TCPReceiver.staged
      rw [noteSyn_reassembler]
      exact StreamReassembler.storeLoop_mark_lt _ _ _ ordinary.marked
    · rw [segmentReceived_assembled isSet, assembles.eofed_eq, staged_eofed,
        segmentReceived_ended segment isSet, ordinary.ended_eq]
  · have same : receiver.segmentReceived segment = receiver.noteSyn segment := by
      unfold TCPReceiver.segmentReceived
      exact if_neg isSet
    have unset : receiver.noteSyn segment = receiver := by
      unfold noteSyn at isSet ⊢
      split
      · rename_i syn
        rw [if_pos syn] at isSet
        exact absurd rfl isSet
      · rfl
    rw [same, unset]
    exact ordinary

section

variable {receiver : TCPReceiver} (ordinary : receiver.Ordinary) {segment : TCPSegment}
  (isSet : (receiver.noteSyn segment).isSet = true)

include ordinary isSet

theorem Ordinary.firstUnassembled_ge :
    receiver.reassembler.firstUnassembled ≤
      (receiver.segmentReceived segment).reassembler.firstUnassembled := by
  rw [segmentReceived_reassembler, if_pos isSet]
  exact ordinary.wf.pushSubstring_firstUnassembled_ge _ _ _

theorem Ordinary.written_of_open (opened : receiver.streamOut.endFlag = false) :
    (receiver.segmentReceived segment).streamOut.bytesWritten =
      (receiver.segmentReceived segment).reassembler.firstUnassembled := by
  unfold streamOut
  rw [segmentReceived_reassembler, if_pos isSet]
  exact ordinary.wf.pushSubstring_written_of_open _ _ _ opened

theorem Ordinary.written_of_ended (ended : receiver.streamOut.endFlag = true) :
    (receiver.segmentReceived segment).streamOut.bytesWritten =
      receiver.streamOut.bytesWritten := by
  unfold streamOut
  rw [segmentReceived_reassembler, if_pos isSet]
  exact ordinary.wf.pushSubstring_written_of_ended _ _ _ ended

/-- The segment completes the stream exactly if an end was announced and the
assembled part reaches the high-water mark. -/
theorem Ordinary.completes_iff :
    receiver.Completes segment <->
      (receiver.ended || segment.header.fin) = true ∧
        (receiver.segmentReceived segment).reassembler.firstUnacceptable =
          (receiver.segmentReceived segment).reassembler.firstUnassembled := by
  have staged := ordinary.staged segment
  have assembles := (StreamReassembler.updateOutput_spec staged).1
  rw [segmentReceived_assembled isSet, assembles.firstUnacceptable_eq,
    StreamReassembler.updateOutput_meets_iff staged, ordinary.ended_eq, ← staged_eofed]
  constructor
  · rintro ⟨_, completes⟩
    exact completes
  · intro completes
    exact ⟨isSet, completes⟩

variable (allocated : receiver.reassembler.edge < 2 ^ 64)

include allocated

/-- The assembled part is below the window's edge. -/
theorem Ordinary.firstUnassembled_lt :
    (receiver.segmentReceived segment).reassembler.firstUnassembled < 2 ^ 64 := by
  have wf := segmentReceived_wf ordinary.wf segment
  have reaches := wf.firstUnassembled_le
  have unread := wf.unread_le
  have frame := StreamReassembler.pushSubstring_output_frame ordinary.wf segment.payload
    ((receiver.noteSyn segment).streamIndex segment) segment.header.fin
  rw [segmentReceived_reassembler, if_pos isSet] at reaches unread ⊢
  rw [frame.1] at unread
  rw [frame.2.2.1] at reaches
  unfold StreamReassembler.edge at allocated
  omega

/-- After the segment the assembled part ends at the first byte not kept. -/
theorem Ordinary.allKept_iff (n : Nat) :
    (forall k, k < n -> receiver.Keeps segment k) <->
      n ≤ (receiver.segmentReceived segment).reassembler.firstUnassembled := by
  rcases StreamReassembler.updateOutput_spec (ordinary.staged segment) with ⟨_, below, missing⟩
  rw [segmentReceived_assembled isSet]
  constructor
  · intro kept
    by_contra beyond
    exact missing ((ordinary.keeps_iff segment allocated _).mp (kept _ (Nat.lt_of_not_le beyond)))
  · intro reaches k less
    exact (ordinary.keeps_iff segment allocated k).mpr (below k (Nat.lt_of_lt_of_le less reaches))

/-- The byte behind a kept part is kept exactly if the assembled part reaches
over it. -/
theorem Ordinary.keeps_next_iff {n : Nat}
    (reaches : n ≤ (receiver.segmentReceived segment).reassembler.firstUnassembled) :
    receiver.Keeps segment n <->
      n < (receiver.segmentReceived segment).reassembler.firstUnassembled := by
  have kept := (ordinary.allKept_iff isSet allocated n).mpr reaches
  rw [← Nat.succ_le_iff, ← ordinary.allKept_iff isSet allocated]
  constructor
  · intro next k less
    rcases Nat.lt_or_eq_of_le (Nat.le_of_lt_succ less) with before | rfl
    · exact kept k before
    · exact next
  · intro all
    exact all n (Nat.lt_succ_self n)

/-- The number acknowledged after a segment. -/
theorem Ordinary.checkpoint_eq :
    (receiver.segmentReceived segment).checkpoint =
      if receiver.Counts segment then
        if receiver.segmentEnd segment <
            (receiver.segmentReceived segment).reassembler.firstUnassembled + 1 then
          (receiver.segmentReceived segment).reassembler.firstUnassembled +
            if receiver.Completes segment then 2 else 1
        else receiver.segmentEnd segment
      else (receiver.noteSyn segment).checkpoint := by
  have low := ordinary.firstUnassembled_lt isSet allocated
  have marked := (ordinary.segmentReceived segment).marked
  have completes := ordinary.completes_iff isSet
  have ended : ((receiver.noteSyn segment).ended || segment.header.fin) =
      (receiver.ended || segment.header.fin) := by
    unfold noteSyn
    split
    · rfl
    · rfl
  have pushed : (receiver.noteSyn segment).reassembler.pushSubstring segment.payload
      ((receiver.noteSyn segment).streamIndex segment) segment.header.fin =
        (receiver.segmentReceived segment).reassembler := by
    rw [segmentReceived_reassembler, if_pos isSet, noteSyn_reassembler]
  have step : (receiver.segmentReceived segment).checkpoint =
      ((receiver.noteSyn segment).pushSegment segment).checkpoint := by
    unfold TCPReceiver.segmentReceived
    dsimp only
    rw [if_pos isSet]
  rw [step]
  unfold pushSegment
  dsimp only
  rw [pushed, ended]
  unfold advanced StreamReassembler.left StreamReassembler.distance
  have whole : ((receiver.ended || segment.header.fin) &&
      sub64 (receiver.segmentReceived segment).reassembler.firstUnacceptable
        (receiver.segmentReceived segment).reassembler.firstUnassembled == 0) =
        decide (receiver.Completes segment) := by
    rw [Bool.eq_iff_iff, Bool.and_eq_true, beq_iff_eq, sub64_eq_zero_iff marked low,
      decide_eq_true_iff, completes]
  rw [whole]
  change (if receiver.Counts segment then _ else _) = _
  by_cases finishes : receiver.Completes segment
  · rw [decide_eq_true finishes, if_pos rfl, if_pos finishes]
    rfl
  · rw [decide_eq_false finishes, if_neg Bool.false_ne_true, if_neg finishes]
    rfl

end

end TCPReceiver
end Tcp
end Sponge
