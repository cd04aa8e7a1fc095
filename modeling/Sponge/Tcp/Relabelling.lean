import Sponge.Tcp.SendingWindow

namespace Sponge
namespace Tcp

open Foundation

/-!
# Windows that differ in their labels

The sending window looks at an outstanding segment only through its absolute
number and its length.  A relabelling that keeps these two, such as moving all
sequence numbers together with the initial one, or forgetting the timers,
commutes with taking an acknowledgment in.
-/

/-- Another initial sequence number and other entries, with the same absolute
numbers and lengths. -/
structure Relabelling (isn : WrappingInt32) where
  newIsn : WrappingInt32
  entry : TCPSegmentForSender -> TCPSegmentForSender
  seqno_eq : forall old checkpoint,
    unwrap (entry old).segment.header.seqno newIsn checkpoint =
      unwrap old.segment.header.seqno isn checkpoint
  length_eq : forall old,
    (entry old).segment.lengthInSequenceSpace = old.segment.lengthInSequenceSpace

namespace TCPSendingWindow

def relabel (window : TCPSendingWindow) (labels : Relabelling window.isn) : TCPSendingWindow :=
  { window with isn := labels.newIsn, buffer := window.buffer.map labels.entry }

variable (window : TCPSendingWindow) (labels : Relabelling window.isn)

theorem relabel_absoluteSeqno (entry : TCPSegmentForSender) :
    (window.relabel labels).absoluteSeqno (labels.entry entry).segment =
      window.absoluteSeqno entry.segment :=
  labels.seqno_eq entry window.nextSeqno

theorem relabel_full : (window.relabel labels).full = window.full := by
  unfold full bufferEmpty relabel
  rw [List.isEmpty_map]
  rfl

theorem relabel_scanBack (ackSeqno i : Nat) :
    (window.relabel labels).scanBack ackSeqno i = window.scanBack ackSeqno i := by
  induction i with
  | zero => rfl
  | succ i ih =>
      have found : (window.relabel labels).buffer[i]? = window.buffer[i]?.map labels.entry :=
        List.getElem?_map
      unfold scanBack
      rw [found, ih]
      cases window.buffer[i]? with
      | none => rfl
      | some entry =>
          dsimp only [Option.map]
          rw [relabel_absoluteSeqno]

theorem relabel_eraseAcked (ackSeqno : Nat) :
    (window.relabel labels).eraseAcked ackSeqno =
      (window.eraseAcked ackSeqno).map (List.map labels.entry) := by
  have length : (window.relabel labels).buffer.length = window.buffer.length :=
    List.length_map _
  unfold eraseAcked
  rw [relabel_scanBack, length]
  cases window.scanBack ackSeqno window.buffer.length with
  | none => rfl
  | some i =>
      have dropped : (window.relabel labels).buffer.drop i =
          (window.buffer.drop i).map labels.entry :=
        List.map_drop.symm
      dsimp only
      rw [dropped]
      cases window.buffer.drop i with
      | nil => rfl
      | cons front rest =>
          rw [List.map_cons]
          dsimp only
          rw [relabel_absoluteSeqno, labels.length_eq]
          split
          · rfl
          · rfl

/-- Taking an acknowledgment in commutes with a relabelling, if the
acknowledged number stays the same. -/
theorem relabel_ackReceived {ackno newAckno : WrappingInt32}
    (same : unwrap newAckno labels.newIsn window.nextSeqno =
      unwrap ackno window.isn window.nextSeqno) (windowSize : UInt16) :
    (window.relabel labels).ackReceived newAckno windowSize =
      (window.ackReceived ackno windowSize).map (fun result =>
        ({ result.1 with
            isn := labels.newIsn, buffer := result.1.buffer.map labels.entry }, result.2)) := by
  have number : unwrap newAckno (window.relabel labels).isn (window.relabel labels).nextSeqno =
      unwrap ackno window.isn window.nextSeqno := same
  unfold ackReceived
  rw [number]
  dsimp only
  rw [relabel_eraseAcked]
  generalize unwrap ackno window.isn window.nextSeqno = ackSeqno
  change (if ackSeqno > window.nextSeqno ∨ ackSeqno < window.firstSeqno then _
    else if ackSeqno = window.firstSeqno then _ else _) = _
  split
  · rfl
  · split
    · rfl
    · cases window.eraseAcked ackSeqno with
      | error fault => rfl
      | ok buffer =>
          simp only [Except.map, advance_ok]
          rfl

theorem ackReceived_isn {window : TCPSendingWindow} {ackno : WrappingInt32} {windowSize : UInt16}
    {result : TCPSendingWindow × Bool}
    (received : window.ackReceived ackno windowSize = .ok result) :
    result.1.isn = window.isn := by
  rcases ackReceived_cases received with
    ⟨_, same, _⟩ | ⟨_, _, same, _⟩ | ⟨_, _, buffer, _, same, _⟩
  · rw [same]
  · rw [same]
  · rw [same]

end TCPSendingWindow
end Tcp
end Sponge
