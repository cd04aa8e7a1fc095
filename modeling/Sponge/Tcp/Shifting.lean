import Sponge.Tcp.Machines
import Sponge.Tcp.Relabelling

namespace Sponge
namespace Tcp

open Foundation Bytes

/-!
# Where the numbers wrap around is of no consequence

Sequence numbers are compared only after subtracting the initial one.  So if
every received number and the initial one are moved by the same amount, a
sender and a receiver behave as before, up to that amount in the numbers they
transmit.  Each operation commutes with the shift, and the rule for
simulations carries this over to whole runs.
-/

theorem WrappingInt32.offset_shift (n isn : WrappingInt32) (k : UInt32) :
    (n + k).offset (isn + k) = n.offset isn := by
  have number := UInt32.toNat_lt n.rawValue
  have initial := UInt32.toNat_lt isn.rawValue
  have moved (point : WrappingInt32) :
      (point + k).rawValue.toNat = (point.rawValue.toNat + k.toNat) % 2 ^ 32 :=
    UInt32.toNat_add point.rawValue k
  rw [WrappingInt32.offset_eq, WrappingInt32.offset_eq, moved, moved]
  omega

@[simp] theorem unwrap_shift (n isn : WrappingInt32) (k : UInt32) (checkpoint : Nat) :
    unwrap (n + k) (isn + k) checkpoint = unwrap n isn checkpoint := by
  unfold unwrap
  rw [WrappingInt32.offset_shift]

@[simp] theorem wrap_shift (value : Nat) (isn : WrappingInt32) (k : UInt32) :
    wrap value (isn + k) = wrap value isn + k := by
  rw [wrap_eq_iff, WrappingInt32.offset_shift, offset_wrap]

/-- The segment with its sequence number moved. -/
def TCPSegment.shift (segment : TCPSegment) (k : UInt32) : TCPSegment :=
  { segment with header := { segment.header with seqno := segment.header.seqno + k } }

@[simp] theorem TCPSegment.shift_length (segment : TCPSegment) (k : UInt32) :
    (segment.shift k).lengthInSequenceSpace = segment.lengthInSequenceSpace :=
  rfl

/-! ## The receiver -/

namespace TCPReceiver

/-- The receiver with its initial sequence number moved, once it has one. -/
def shift (receiver : TCPReceiver) (k : UInt32) : TCPReceiver :=
  { receiver with isn := if receiver.isSet then receiver.isn + k else receiver.isn }

theorem noteSyn_shift (receiver : TCPReceiver) (segment : TCPSegment) (k : UInt32) :
    (receiver.shift k).noteSyn (segment.shift k) = (receiver.noteSyn segment).shift k := by
  unfold noteSyn
  change (if segment.header.syn then _ else _) = _
  cases segment.header.syn with
  | true => rfl
  | false => rfl

theorem index_shift {receiver : TCPReceiver} (isSet : receiver.isSet = true)
    (segment : TCPSegment) (k : UInt32) :
    (receiver.shift k).index (segment.shift k) = receiver.index segment := by
  unfold index shift
  rw [isSet]
  exact unwrap_shift segment.header.seqno ⟨receiver.isn⟩ k receiver.checkpoint

theorem streamIndex_shift {receiver : TCPReceiver} (isSet : receiver.isSet = true)
    (segment : TCPSegment) (k : UInt32) :
    (receiver.shift k).streamIndex (segment.shift k) = receiver.streamIndex segment := by
  unfold streamIndex
  rw [index_shift isSet]
  rfl

theorem pushSegment_shift {receiver : TCPReceiver} (isSet : receiver.isSet = true)
    (segment : TCPSegment) (k : UInt32) :
    (receiver.shift k).pushSegment (segment.shift k) = (receiver.pushSegment segment).shift k := by
  unfold pushSegment
  rw [index_shift isSet, streamIndex_shift isSet]
  rfl

theorem segmentReceived_shift (receiver : TCPReceiver) (segment : TCPSegment) (k : UInt32) :
    (receiver.shift k).segmentReceived (segment.shift k) =
      (receiver.segmentReceived segment).shift k := by
  unfold segmentReceived
  rw [noteSyn_shift]
  dsimp only
  cases isSet : (receiver.noteSyn segment).isSet with
  | true => exact (if_pos isSet).trans (pushSegment_shift isSet segment k)
  | false => exact if_neg (Bool.eq_false_iff.mp isSet)

@[simp] theorem ackno_shift (receiver : TCPReceiver) (k : UInt32) :
    (receiver.shift k).ackno = receiver.ackno.map (fun number : WrappingInt32 => number + k) := by
  unfold ackno shift
  cases receiver.isSet with
  | true => exact congrArg some (wrap_shift receiver.checkpoint ⟨receiver.isn⟩ k)
  | false => rfl

@[simp] theorem state_shift (receiver : TCPReceiver) (k : UInt32) :
    (receiver.shift k).state = receiver.state := by
  unfold state
  simp only [ackno_shift, Option.map_eq_none_iff]
  rfl

end TCPReceiver

def ReceiverCall.shift (k : UInt32) : ReceiverCall -> ReceiverCall
  | .segmentReceived segment => .segmentReceived (segment.shift k)
  | .read length => .read length
  | .pop length => .pop length
  | .setError => .setError

/-- The same view, up to the number acknowledged. -/
def ReceiverView.shift (k : UInt32) (view : ReceiverView) : ReceiverView :=
  { view with ackno := view.ackno.map (fun number : WrappingInt32 => number + k) }

namespace TCPReceiver

theorem call_shift (receiver : TCPReceiver) (made : ReceiverCall) (k : UInt32) :
    (receiver.shift k).call (made.shift k) = (receiver.call made).shift k := by
  cases made with
  | segmentReceived segment => exact receiver.segmentReceived_shift segment k
  | read length => rfl
  | pop length => rfl
  | setError => rfl

theorem view_shift (receiver : TCPReceiver) (bytes : List UInt8) (k : UInt32) :
    (receiver.shift k).view bytes = (receiver.view bytes).shift k := by
  unfold view ReceiverView.shift
  rw [ackno_shift, state_shift]
  rfl

theorem perform_shift (receiver : TCPReceiver) (made : ReceiverCall) (k : UInt32) :
    AnswersAlike (fun before after => after = before.shift k) (ReceiverView.shift k)
      (receiver.perform made) ((receiver.shift k).perform (made.shift k)) := by
  have returned : (receiver.shift k).returns (made.shift k) = receiver.returns made := by
    cases made <;> rfl
  unfold perform
  rw [call_shift, returned, view_shift]
  exact .answer _ rfl

end TCPReceiver

/-! ## The sending window -/

def TCPSegmentForSender.shift (entry : TCPSegmentForSender) (k : UInt32) : TCPSegmentForSender :=
  { entry with segment := entry.segment.shift k }

namespace TCPSendingWindow

def shift (window : TCPSendingWindow) (k : UInt32) : TCPSendingWindow :=
  { window with
    isn := window.isn + k
    buffer := window.buffer.map (fun entry => entry.shift k) }

variable (window : TCPSendingWindow) (k : UInt32)

/-- The shift as a relabelling of the window. -/
def shifting : Relabelling window.isn where
  newIsn := window.isn + k
  entry := fun entry => entry.shift k
  seqno_eq := fun old checkpoint => unwrap_shift old.segment.header.seqno window.isn k checkpoint
  length_eq := fun _ => rfl

theorem shift_eq_relabel : window.shift k = window.relabel (window.shifting k) :=
  rfl

@[simp] theorem full_shift : (window.shift k).full = window.full :=
  window.relabel_full (window.shifting k)

theorem addSegment_shift (segment : TCPSegment) (rto : Nat) :
    (window.shift k).addSegment (segment.shift k) rto =
      (window.addSegment segment rto).map (fun added => added.shift k) := by
  unfold addSegment
  have number : (window.shift k).absoluteSeqno (segment.shift k) = window.absoluteSeqno segment :=
    unwrap_shift segment.header.seqno window.isn k window.nextSeqno
  rw [full_shift, number]
  split
  · rfl
  · simp only [Except.map, shift, List.map_append, List.map_cons, List.map_nil]
    rfl

theorem ackReceived_shift (ackno : WrappingInt32) (windowSize : UInt16) :
    (window.shift k).ackReceived (ackno + k) windowSize =
      (window.ackReceived ackno windowSize).map
        (fun result => (result.1.shift k, result.2)) := by
  have unwrapped := unwrap_shift ackno window.isn k window.nextSeqno
  rw [shift_eq_relabel, window.relabel_ackReceived (window.shifting k) unwrapped]
  cases received : window.ackReceived ackno windowSize with
  | error fault => rfl
  | ok result =>
      have kept : result.1.isn = window.isn := ackReceived_isn received
      dsimp only [Except.map, shift]
      rw [kept]
      rfl

theorem resetTimer_shift (rto : Nat) :
    (window.shift k).resetTimer rto = (window.resetTimer rto).shift k := by
  unfold resetTimer shift
  simp only [List.map_map]
  rfl

theorem tick_shift (msElapsed : Nat) :
    (window.shift k).tick msElapsed =
      ((window.tick msElapsed).1.shift k,
        (window.tick msElapsed).2.map (fun segment => segment.shift k)) := by
  unfold tick shift
  simp only [List.map_map, List.filter_map, Prod.mk.injEq, TCPSendingWindow.mk.injEq, and_true]
  constructor
  · apply List.map_congr_left
    intro entry _
    dsimp only [Function.comp, TCPSegmentForSender.shift]
    split <;> rfl
  · rfl

end TCPSendingWindow

/-! ## The sender -/

namespace TCPSender

def shift (sender : TCPSender) (k : UInt32) : TCPSender :=
  { sender with
    window := sender.window.shift k
    segmentsOut := sender.segmentsOut.map (fun segment => segment.shift k) }

variable (sender : TCPSender) (k : UInt32)

@[simp] theorem nextSeqno_shift : (sender.shift k).nextSeqno = sender.nextSeqno + k :=
  wrap_shift sender.window.nextSeqno sender.window.isn k

@[simp] theorem senderState_shift : (sender.shift k).state = sender.state :=
  rfl

theorem send_shift (segment : TCPSegment) :
    (sender.shift k).send (segment.shift k) = (sender.send segment).shift k := by
  unfold send shift
  simp only [List.map_append, List.map_cons, List.map_nil]

theorem transmit_shift (segment : TCPSegment) :
    (sender.shift k).transmit (segment.shift k) =
      (sender.transmit segment).map (fun sent => sent.shift k) := by
  have added : (sender.shift k).window.addSegment (segment.shift k) (sender.shift k).rto =
      (sender.window.addSegment segment sender.rto).map (fun window => window.shift k) :=
    sender.window.addSegment_shift k segment sender.rto
  unfold transmit
  rw [added]
  cases sender.window.addSegment segment sender.rto with
  | error fault => rfl
  | ok window => exact congrArg Except.ok (send_shift { sender with window := window } k segment)

theorem openIfClosed_shift :
    (sender.shift k).openIfClosed =
      sender.openIfClosed.map (fun opened => opened.shift k) := by
  have syn : (sender.shift k).synSegment = sender.synSegment.shift k := by
    unfold synSegment
    rw [nextSeqno_shift]
    rfl
  unfold openIfClosed
  rw [senderState_shift, syn, transmit_shift]
  split
  · rfl
  · rfl

theorem dataSegment_shift : (sender.shift k).dataSegment = sender.dataSegment.shift k := by
  unfold dataSegment
  rw [nextSeqno_shift]
  rfl

theorem wantsToSend_shift : (sender.shift k).wantsToSend = sender.wantsToSend := by
  unfold wantsToSend
  change ((!sender.stream.bufferEmpty || sender.stream.eof) &&
    !(sender.window.shift k).full) = _
  rw [TCPSendingWindow.full_shift]

theorem fillLoop_shift (rounds : Nat) :
    fillLoop rounds (sender.shift k) =
      (fillLoop rounds sender).map (fun filled => filled.shift k) := by
  induction rounds generalizing sender with
  | zero => rfl
  | succ rounds ih =>
      have sent := sender.popPayload.transmit_shift k sender.dataSegment
      have popped : (sender.shift k).popPayload = sender.popPayload.shift k := rfl
      unfold fillLoop
      rw [wantsToSend_shift, senderState_shift, dataSegment_shift, popped, sent,
        TCPSegment.shift_length]
      split
      · split
        · rfl
        · split
          · cases sender.popPayload.transmit sender.dataSegment with
            | error fault => rfl
            | ok transmitted => exact ih transmitted
          · rfl
      · rfl

theorem fillWindow_shift :
    (sender.shift k).fillWindow = sender.fillWindow.map (fun filled => filled.shift k) := by
  unfold fillWindow
  rw [openIfClosed_shift]
  cases sender.openIfClosed with
  | error fault => rfl
  | ok opened => exact opened.fillLoop_shift k (opened.window.space + 1)

theorem takeAck_shift (ackno : WrappingInt32) (windowSize : UInt16) :
    (sender.shift k).takeAck (ackno + k) windowSize =
      (sender.takeAck ackno windowSize).map (fun updated => updated.shift k) := by
  have received : (sender.shift k).window.ackReceived (ackno + k) (max windowSize 1) =
      (sender.window.ackReceived ackno (max windowSize 1)).map
        (fun result => (result.1.shift k, result.2)) :=
    sender.window.ackReceived_shift k ackno (max windowSize 1)
  unfold takeAck
  rw [received]
  cases sender.window.ackReceived ackno (max windowSize 1) with
  | error fault => rfl
  | ok result =>
      rcases result with ⟨window, fresh⟩
      cases fresh with
      | false => rfl
      | true =>
          have reset := window.resetTimer_shift k sender.initialRetransmissionTimeout
          simp only [Except.map, restartTimers, if_true]
          unfold shift
          dsimp only
          rw [reset]

theorem ackReceived_shift (ackno : WrappingInt32) (windowSize : UInt16) :
    (sender.shift k).ackReceived (ackno + k) windowSize =
      (sender.ackReceived ackno windowSize).map (fun updated => updated.shift k) := by
  unfold ackReceived
  rw [takeAck_shift]
  cases sender.takeAck ackno windowSize with
  | error fault => rfl
  | ok updated => exact updated.fillWindow_shift k

theorem tick_shift (msSinceLastTick : Nat) :
    (sender.shift k).tick msSinceLastTick = (sender.tick msSinceLastTick).shift k := by
  have ticked : (sender.shift k).window.tick msSinceLastTick = _ :=
    sender.window.tick_shift k msSinceLastTick
  unfold tick
  rw [ticked]
  dsimp only
  cases (sender.window.tick msSinceLastTick).2 with
  | nil => rfl
  | cons oldest rest =>
      rw [List.map_cons]
      dsimp only
      rw [TCPSendingWindow.resetTimer_shift, ← send_shift]
      rfl

theorem sendEmptySegment_shift :
    (sender.shift k).sendEmptySegment = sender.sendEmptySegment.shift k := by
  have same : (sender.shift k).emptySegment = sender.emptySegment.shift k := by
    unfold emptySegment
    rw [nextSeqno_shift]
    rfl
  unfold sendEmptySegment
  rw [same, send_shift]

end TCPSender

def SenderCall.shift (k : UInt32) : SenderCall -> SenderCall
  | .ackReceived ackno windowSize => .ackReceived (ackno + k) windowSize
  | made => made

/-- The same view, up to the numbers transmitted. -/
def SenderView.shift (k : UInt32) (view : SenderView) : SenderView :=
  { view with
    sent := view.sent.map (fun segment => segment.shift k)
    nextSeqno := view.nextSeqno + k }

namespace TCPSender

theorem call_shift (sender : TCPSender) (made : SenderCall) (k : UInt32) :
    (sender.shift k).call (made.shift k) =
      (sender.call made).map (fun next => next.shift k) := by
  cases made with
  | write data => rfl
  | endInput => rfl
  | setError => rfl
  | fillWindow => exact sender.fillWindow_shift k
  | ackReceived ackno windowSize => exact sender.ackReceived_shift k ackno windowSize
  | tick msSinceLastTick => exact congrArg Except.ok (sender.tick_shift k msSinceLastTick)
  | sendEmptySegment => exact congrArg Except.ok (sender.sendEmptySegment_shift k)
  | takeSegments count =>
      apply congrArg Except.ok
      unfold shift
      dsimp only
      rw [List.map_drop]

theorem view_shift (before after : TCPSender) (k : UInt32) :
    (before.shift k).view (after.shift k) = (before.view after).shift k := by
  have sent : (after.shift k).segmentsOut.drop (before.shift k).segmentsOut.length =
      (after.segmentsOut.drop before.segmentsOut.length).map (fun segment => segment.shift k) := by
    unfold shift
    rw [List.length_map, List.map_drop]
  unfold view SenderView.shift
  rw [sent, nextSeqno_shift]
  rfl

theorem perform_shift (sender : TCPSender) (made : SenderCall) (k : UInt32) :
    AnswersAlike (fun before after => after = before.shift k) (SenderView.shift k)
      (sender.perform made) ((sender.shift k).perform (made.shift k)) := by
  unfold perform
  rw [call_shift]
  cases sender.call made with
  | error fault => exact .fault fault
  | ok next =>
      dsimp only [Except.map]
      rw [view_shift]
      exact .answer _ rfl

end TCPSender

/-- **No behaviour depends on where the numbers wrap around.**  With every
received sequence number moved by `k`, a receiver shows the same at every
step, up to `k` in what it acknowledges.  With its initial sequence number and
every acknowledgment moved by `k`, a sender shows the same and sends the same
segments at every step, up to `k` in their sequence numbers, and stops at the
same fault if at any. -/
theorem shift_equivariant (k : UInt32) :
    (forall (capacity : Capacity) (calls : List ReceiverCall),
        (play TCPReceiver.perform (.new capacity) (calls.map (ReceiverCall.shift k))).1 =
          (play TCPReceiver.perform (.new capacity) calls).1.map (ReceiverView.shift k)) ∧
      forall (capacity : Capacity) (retxTimeout : UInt16) (isn : WrappingInt32)
        (calls : List SenderCall),
        (play TCPSender.perform (.new capacity retxTimeout (isn + k))
            (calls.map (SenderCall.shift k))).1 =
          (play TCPSender.perform (.new capacity retxTimeout isn) calls).1.map
            (SenderView.shift k) ∧
        EndsAlike (fun final shifted => shifted = final.shift k)
          (play TCPSender.perform (.new capacity retxTimeout isn) calls).2
          (play TCPSender.perform (.new capacity retxTimeout (isn + k))
            (calls.map (SenderCall.shift k))).2 := by
  constructor
  · intro capacity calls
    have start : TCPReceiver.new capacity = (TCPReceiver.new capacity).shift k := rfl
    exact (play_simulates (fun before after : TCPReceiver => after = before.shift k)
      (ReceiverCall.shift k) (ReceiverView.shift k)
      (fun receiver _ made related => related ▸ receiver.perform_shift made k) start calls).1
  · intro capacity retxTimeout isn calls
    have start : TCPSender.new capacity retxTimeout (isn + k) =
        (TCPSender.new capacity retxTimeout isn).shift k := rfl
    exact play_simulates (fun before after : TCPSender => after = before.shift k)
      (SenderCall.shift k)
      (SenderView.shift k)
      (fun sender _ made related => related ▸ sender.perform_shift made k) start calls

end Tcp
end Sponge
