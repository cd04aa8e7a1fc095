import Sponge.Tcp.Machines
import Sponge.Tcp.RetransmissionQueue
import Sponge.Tcp.SenderStages

namespace Sponge
namespace Tcp

open Foundation Bytes

/-!
# Filling the window

What `fill_window` promises to its callers, in every state that the calls of a
sender can lead to: it comes to an end, it sends all it may, and a second call
has nothing left to do.  The last point matters since `ack_received` fills the
window as well.  An acknowledgment that the window does not accept should then
do nothing at all, but the flag for a window of zero is written before the
acknowledgment is looked at.
-/

namespace TCPSender

/-! ## Calls and the window -/

/-- The rule for facts about the window: the calls change it by sending, by
taking an acknowledgment in and by letting time pass. -/
theorem call_invariant {sender next : TCPSender} {made : SenderCall} (invariant : TCPSender -> Prop)
    (aside : forall updated : TCPSender, updated.window = sender.window -> invariant updated)
    (fills : forall updated segments, invariant updated -> Sends updated segments next ->
      invariant next)
    (takes : forall ackno windowSize updated, sender.TookAck ackno windowSize updated ->
      invariant updated)
    (ticks : forall updated, sender.Ticked updated -> invariant updated)
    (done : sender.call made = .ok next) : invariant next := by
  cases made with
  | write data =>
      cases done
      exact aside _ rfl
  | endInput =>
      cases done
      exact aside _ rfl
  | setError =>
      cases done
      exact aside _ rfl
  | fillWindow =>
      rcases fillWindow_sends done with ⟨segments, sends⟩
      exact fills sender segments (aside sender rfl) sends
  | ackReceived ackno windowSize =>
      rcases ackReceived_spec done with ⟨updated, segments, took, sends⟩
      exact fills updated segments (takes ackno windowSize updated took) sends
  | tick msSinceLastTick =>
      cases done
      exact ticks _ (sender.tick_spec msSinceLastTick)
  | sendEmptySegment =>
      cases done
      exact aside _ rfl
  | takeSegments count =>
      cases done
      exact aside _ rfl

/-- What is acknowledged has been sent. -/
theorem call_ordered {sender next : TCPSender} {made : SenderCall}
    (ordered : sender.window.firstSeqno ≤ sender.window.nextSeqno)
    (done : sender.call made = .ok next) : next.window.firstSeqno ≤ next.window.nextSeqno := by
  apply call_invariant (fun updated => updated.window.firstSeqno ≤ updated.window.nextSeqno) _ _ _ _
    done
  · intro updated same
    rw [same]
    exact ordered
  · intro updated segments before sends
    rw [sends.frame.firstSeqno_eq]
    exact Nat.le_trans before sends.frame.nextSeqno_le
  · intro ackno windowSize updated took
    exact (took.ordered ordered).2
  · intro updated ticked
    rw [ticked.firstSeqno_eq, ticked.nextSeqno_eq]
    exact ordered

theorem run_ordered {capacity : Capacity} {retxTimeout : UInt16} {isn : WrappingInt32}
    {calls : List SenderCall} {sender : TCPSender}
    (done : run call (new capacity retxTimeout isn) calls = .ok sender) :
    sender.window.firstSeqno ≤ sender.window.nextSeqno :=
  run_invariant (fun sender => sender.window.firstSeqno ≤ sender.window.nextSeqno)
    (fun _ _ _ ordered taken => call_ordered ordered taken) (Nat.le_refl 0) done

/-- A queue of outstanding segments, and a window as large as a header can give. -/
structure Sized (sender : TCPSender) : Prop where
  queued : sender.Queued
  windowSize_lt : sender.window.windowSize < 2 ^ 16

theorem Sized.call {sender next : TCPSender} {made : SenderCall} (sized : sender.Sized)
    (low : sender.window.nextSeqno < 2 ^ 31) (done : sender.call made = .ok next) :
    next.Sized := by
  rcases sized with ⟨queued, small⟩
  apply call_invariant Sized _ _ _ _ done
  · intro updated same
    refine ⟨?_, same ▸ small⟩
    unfold Queued
    rw [same]
    exact queued
  · intro updated segments before sends
    exact ⟨before.queued.sends sends, sends.frame.windowSize_eq ▸ before.windowSize_lt⟩
  · intro ackno windowSize updated took
    refine ⟨queued.tookAck took low, ?_⟩
    rw [took.windowSize_eq]
    split
    · exact Nat.max_lt.mpr ⟨by decide, windowSize.toNat_lt⟩
    · exact small
  · intro updated ticked
    exact ⟨queued.ticked ticked, ticked.windowSize_eq ▸ small⟩

/-- A round of the loop sends a segment. -/
structure GoesOn (sender : TCPSender) : Prop where
  wants : sender.wantsToSend = true
  unfinished : ¬ (sender.state = .finSent ∨ sender.state = .finAcked)
  nonempty : sender.dataSegment.lengthInSequenceSpace ≠ 0

theorem GoesOn.maySend {sender : TCPSender} (on : sender.GoesOn)
    (notClosed : sender.state ≠ .closed) : sender.MaySend :=
  ⟨notClosed, on.wants, fun sent => on.unfinished (Or.inl sent),
    fun acked => on.unfinished (Or.inr acked), on.nonempty⟩

/-- A round that goes on is followed by the remaining ones. -/
theorem fillLoop_succ {sender : TCPSender} (on : sender.GoesOn) (rounds : Nat) :
    fillLoop (rounds + 1) sender =
      fillLoop rounds (sender.popPayload.afterSending sender.dataSegment) := by
  rw [fillLoop, if_pos on.wants, if_neg on.unfinished, if_pos on.nonempty,
    transmit_dataSegment (wantsToSend_room on.wants)]

/-- The other exits of the loop leave the sender as it is. -/
theorem fillLoop_of_not {sender : TCPSender} (off : ¬ sender.GoesOn) (rounds : Nat) :
    fillLoop rounds sender = .ok sender := by
  cases rounds with
  | zero => rfl
  | succ rounds =>
      unfold fillLoop
      split
      · rename_i wants
        split
        · rfl
        · rename_i unfinished
          split
          · rename_i nonempty
            exact absurd ⟨wants, unfinished, nonempty⟩ off
          · rename_i empty
            rw [popPayload_of_empty (not_not.mp empty)]
      · rfl

/-- The segments that a loop has sent, each of them built in the state that an
earlier number of rounds leads to. -/
structure BuiltInTurn (sender final : TCPSender) (segments : List TCPSegment) : Prop where
  segmentsOut_eq : final.segmentsOut = sender.segmentsOut ++ segments
  built : forall front segment back, segments = front ++ segment :: back ->
    Exists fun earlier => Exists fun middle =>
      fillLoop earlier sender = .ok middle ∧
      middle.segmentsOut = sender.segmentsOut ++ front ∧ segment = middle.dataSegment

theorem builtInTurn_nil {sender final : TCPSender}
    (same : final.segmentsOut = sender.segmentsOut) : BuiltInTurn sender final [] where
  segmentsOut_eq := same.trans (List.append_nil _).symm
  built := by
    intro front segment back nothing
    cases front <;> cases nothing

/-- One more round in front. -/
theorem BuiltInTurn.cons {sender sent final : TCPSender} {segments : List TCPSegment}
    (onward : BuiltInTurn sent final segments)
    (sent_eq : sent.segmentsOut = sender.segmentsOut ++ [sender.dataSegment])
    (round : forall earlier, fillLoop (earlier + 1) sender = fillLoop earlier sent) :
    BuiltInTurn sender final (sender.dataSegment :: segments) where
  segmentsOut_eq := by
    rw [onward.segmentsOut_eq, sent_eq, List.append_assoc]
    rfl
  built := by
    intro front segment back split
    cases front with
    | nil =>
        cases split
        exact ⟨0, sender, rfl, (List.append_nil _).symm, rfl⟩
    | cons other front =>
        injection split with same rest
        rcases onward.built front segment back rest with ⟨earlier, middle, looped, out, data⟩
        refine ⟨earlier + 1, middle, (round earlier).trans looped, ?_, data⟩
        rw [out, sent_eq, List.append_assoc, same]
        rfl

theorem fillLoop_built {rounds : Nat} {sender final : TCPSender}
    (looped : fillLoop rounds sender = .ok final) :
    Exists fun segments => BuiltInTurn sender final segments := by
  induction rounds generalizing sender with
  | zero =>
      cases looped
      exact ⟨[], builtInTurn_nil rfl⟩
  | succ rounds ih =>
      by_cases on : sender.GoesOn
      · rw [fillLoop_succ on] at looped
        rcases ih looped with ⟨segments, onward⟩
        exact ⟨_, onward.cons rfl (fillLoop_succ on)⟩
      · rw [fillLoop_of_not on] at looped
        cases looped
        exact ⟨[], builtInTurn_nil rfl⟩

/-! ## Nothing is left to send -/

/-- With free space, a sender that has something to send builds a segment. -/
theorem dataSegment_nonempty {sender : TCPSender} (wants : sender.wantsToSend = true)
    (room : sender.window.space ≠ 0) : sender.dataSegment.lengthInSequenceSpace ≠ 0 := by
  have payload := sender.dataSegment_payload_length
  rw [dataSegment_length, payload]
  by_cases empty : sender.stream.bufferSize = 0
  · have eof : sender.stream.eof = true := by
      unfold wantsToSend at wants
      rw [(ByteStream.bufferEmpty_iff _).mpr empty, Bool.not_true, Bool.false_or] at wants
      exact (Bool.and_eq_true_iff.mp wants).1
    have none : sender.payloadSize = 0 := by
      unfold payloadSize
      omega
    have fin : sender.dataSegment.header.fin = true := by
      apply Bool.and_eq_true_iff.mpr
      refine ⟨popPayload_eof eof, decide_eq_true ?_⟩
      change sender.dataSegment.payload.length < _
      omega
    rw [if_pos fin]
    exact Nat.succ_ne_zero _
  · unfold payloadSize TCPConfig.maxPayloadSize
    omega

/-- After a successful filling nothing goes on, and the sender is not closed. -/
theorem fillWindow_off {sender final : TCPSender}
    (ordered : sender.window.firstSeqno ≤ sender.window.nextSeqno)
    (filled : sender.fillWindow = .ok final) : final.state ≠ .closed ∧ ¬ final.GoesOn := by
  have opened : final.state ≠ .closed := by
    intro closed
    rcases (state_closed_iff final).mp closed with ⟨noError, unused⟩
    rcases fillWindow_sends filled with ⟨segments, sends⟩
    exact fillWindow_opens (sends.frame.error_eq.symm.trans noError) filled unused
  exact ⟨opened, fun on => fillWindow_rests ordered filled (on.maySend opened)⟩

/-- A second filling does nothing. -/
theorem fillWindow_of_off {sender : TCPSender} (opened : sender.state ≠ .closed)
    (off : ¬ sender.GoesOn) : sender.fillWindow = .ok sender := by
  unfold fillWindow openIfClosed
  rw [if_neg opened]
  exact fillLoop_of_not off _

theorem Queued.ordered {sender : TCPSender} (queued : sender.Queued) :
    sender.window.firstSeqno ≤ sender.window.nextSeqno := by
  rcases queued with ⟨⟨start, retains⟩, _⟩
  exact retains.ordered

/-- Of an acknowledgment that the window does not accept only the flag for a
window of zero is taken. -/
theorem takeAck_of_rejected {sender : TCPSender} {ackno : WrappingInt32}
    (rejected : ¬ sender.window.Accepts ackno) (windowSize : UInt16) :
    sender.takeAck ackno windowSize =
      .ok { sender with windowSizeIsZero := windowSize == 0 } := by
  have outside : unwrap ackno sender.window.isn sender.window.nextSeqno > sender.window.nextSeqno ∨
      unwrap ackno sender.window.isn sender.window.nextSeqno < sender.window.firstSeqno := by
    unfold TCPSendingWindow.Accepts at rejected
    omega
  have ignored : sender.window.ackReceived ackno (max windowSize 1) = .ok (sender.window, false) :=
    if_pos outside
  unfold takeAck
  rw [ignored]
  rfl

/-- The flag has no part in filling the window. -/
theorem goesOn_flag (sender : TCPSender) (flag : Bool) :
    { sender with windowSizeIsZero := flag }.GoesOn <-> sender.GoesOn :=
  ⟨fun on => ⟨on.wants, on.unfinished, on.nonempty⟩,
    fun on => ⟨on.wants, on.unfinished, on.nonempty⟩⟩

theorem ackReceived_of_rejected {sender : TCPSender} {ackno : WrappingInt32}
    (opened : sender.state ≠ .closed) (off : ¬ sender.GoesOn)
    (rejected : ¬ sender.window.Accepts ackno) (windowSize : UInt16) :
    sender.ackReceived ackno windowSize =
      .ok { sender with windowSizeIsZero := windowSize == 0 } := by
  unfold ackReceived
  rw [takeAck_of_rejected rejected]
  exact fillWindow_of_off opened (mt (goesOn_flag sender _).mp off)

/-- **Unacceptable acknowledgments.**  After its window has been filled, a sender
is left as it is by an acknowledgment from outside of what is in flight exactly
when the flag for a window of zero does not change. -/
theorem unacceptable_ack_harmless_iff (capacity : Capacity) (retxTimeout : UInt16)
    (isn : WrappingInt32) (calls : List SenderCall) (before sender : TCPSender)
    (done : run call (new capacity retxTimeout isn) calls = .ok before)
    (filled : before.fillWindow = .ok sender) (ackno : WrappingInt32) (windowSize : UInt16)
    (outside : unwrap ackno sender.window.isn sender.nextSeqnoAbsolute < sender.window.firstSeqno ∨
      sender.nextSeqnoAbsolute < unwrap ackno sender.window.isn sender.nextSeqnoAbsolute) :
    sender.ackReceived ackno windowSize = .ok sender <->
      sender.windowSizeIsZero = (windowSize == 0) := by
  have rejected : ¬ sender.window.Accepts ackno := by
    unfold TCPSendingWindow.Accepts
    unfold nextSeqnoAbsolute at outside
    omega
  rcases fillWindow_off (run_ordered done) filled with ⟨opened, off⟩
  rw [ackReceived_of_rejected opened off rejected]
  constructor
  · intro same
    injection same with same
    rw [← same]
  · intro same
    rw [← same]

/-- An acknowledgment of what was never sent, with an open window. -/
theorem unacceptable_ack_harmless_beyond :
    let fresh := new ⟨8, by decide⟩ 1000 ⟨0⟩
    let sender := fresh.afterSending fresh.synSegment
    fresh.fillWindow = .ok sender ∧ sender.ackReceived ⟨5⟩ 3 = .ok sender := by
  intro fresh sender
  have filled : fresh.fillWindow = .ok sender := by decide +kernel
  refine ⟨filled, ?_⟩
  exact (unacceptable_ack_harmless_iff ⟨8, by decide⟩ 1000 ⟨0⟩ [] fresh sender rfl filled ⟨5⟩ 3
    (by decide)).mpr (by decide)

/-- The same with a window of zero: the back-off stops until the next
acknowledgment. -/
theorem unacceptable_ack_stops_back_off :
    let fresh := new ⟨8, by decide⟩ 1000 ⟨0⟩
    let sender := fresh.afterSending fresh.synSegment
    fresh.fillWindow = .ok sender ∧
      sender.nextSeqnoAbsolute < unwrap ⟨5⟩ sender.window.isn sender.nextSeqnoAbsolute ∧
      sender.ackReceived ⟨5⟩ 0 ≠ .ok sender ∧
      (sender.tick 1000).rto = 2000 ∧
      (sender.ackReceived ⟨5⟩ 0).map (fun updated => (updated.tick 1000).rto) = .ok 1000 := by
  intro fresh sender
  exact ⟨by decide +kernel, by decide, by decide +kernel, by decide, by decide +kernel⟩

end TCPSender
end Tcp
end Sponge
