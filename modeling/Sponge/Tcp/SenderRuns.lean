import Sponge.Foundation.Runs
import Sponge.Tcp.Sender

namespace Sponge
namespace Tcp

open Foundation Bytes

/-!
# Runs of a sender

An owner drives the sender by writing to its stream, filling its window,
handing in acknowledgments, ticks and requests for empty segments, in any
order.  Next to the sender a run keeps what the results speak about: the
bytes accepted for writing, the acknowledgments accepted, the last window
advertised, and every first transmission with the place it was given.
-/

inductive SenderOp where
  | write (data : List UInt8)
  | endInput
  | fillWindow
  | ackReceived (ackno : WrappingInt32) (windowSize : UInt16)
  | tick (msSinceLastTick : Nat)
  | sendEmptySegment
deriving DecidableEq, Repr

/-- A segment sent for the first time: the absolute number of its first
sequence number, and the end of the advertised window at that moment. -/
structure Transmission where
  start : Nat
  segment : TCPSegment
  limit : Nat
deriving DecidableEq, Repr

/-- Segments sent one after the other occupy consecutive numbers. -/
def placed (limit : Nat) : Nat -> List TCPSegment -> List Transmission
  | _, [] => []
  | start, segment :: segments =>
      ⟨start, segment, limit⟩ :: placed limit (start + segment.lengthInSequenceSpace) segments

/-- A sender with the record of its run.  `window` is the window carried by
the last accepted acknowledgment, and one before there is any. -/
structure SenderRun where
  sender : TCPSender
  written : List UInt8
  acknos : List Nat
  window : Nat
  transmitted : List Transmission
deriving DecidableEq

namespace SenderRun

def new (capacity : Capacity) (retxTimeout : UInt16) (isn : WrappingInt32) : SenderRun where
  sender := TCPSender.new capacity retxTimeout isn
  written := []
  acknos := []
  window := 1
  transmitted := []

/-- The first sequence number beyond the advertised window. -/
def limit (run : SenderRun) : Nat :=
  run.sender.window.firstSeqno + max 1 run.window

/-- Note an acknowledgment, if the sender is going to accept it. -/
def noteAck (run : SenderRun) (ackno : WrappingInt32) (windowSize : UInt16) : SenderRun :=
  if run.sender.window.Accepts ackno then
    { run with
      acknos := run.acknos ++
        [unwrap ackno run.sender.window.isn run.sender.window.nextSeqno]
      window := windowSize.toNat }
  else run

@[simp] theorem noteAck_sender (run : SenderRun) (ackno : WrappingInt32) (windowSize : UInt16) :
    (run.noteAck ackno windowSize).sender = run.sender := by
  unfold noteAck
  split <;> rfl

@[simp] theorem noteAck_written (run : SenderRun) (ackno : WrappingInt32) (windowSize : UInt16) :
    (run.noteAck ackno windowSize).written = run.written := by
  unfold noteAck
  split <;> rfl

@[simp] theorem noteAck_transmitted (run : SenderRun) (ackno : WrappingInt32)
    (windowSize : UInt16) : (run.noteAck ackno windowSize).transmitted = run.transmitted := by
  unfold noteAck
  split <;> rfl

/-- Record the segments that filling the window has added to the queue. -/
def record (run : SenderRun) (filled : TCPSender) : SenderRun :=
  { run with
    sender := filled
    transmitted := run.transmitted ++
      placed (filled.window.firstSeqno + max 1 run.window) run.sender.nextSeqnoAbsolute
        (filled.segmentsOut.drop run.sender.segmentsOut.length) }

def step (run : SenderRun) : SenderOp -> Except Fault SenderRun
  | .write data =>
      let wrote := run.sender.stream.write data
      .ok { run with
        sender := { run.sender with stream := wrote.1 }
        written := run.written ++ data.take wrote.2 }
  | .endInput =>
      .ok { run with sender := { run.sender with stream := run.sender.stream.endInput } }
  | .fillWindow =>
      match run.sender.fillWindow with
      | .ok filled => .ok (run.record filled)
      | .error fault => .error fault
  | .ackReceived ackno windowSize =>
      match run.sender.ackReceived ackno windowSize with
      | .ok filled => .ok ((run.noteAck ackno windowSize).record filled)
      | .error fault => .error fault
  | .tick msSinceLastTick =>
      .ok { run with sender := run.sender.tick msSinceLastTick }
  | .sendEmptySegment =>
      .ok { run with sender := run.sender.sendEmptySegment }

/-! ## One segment at a time -/

/-- The run after one first transmission. -/
def sendOne (run : SenderRun) (segment : TCPSegment) (after : TCPSender) : SenderRun :=
  { run with
    sender := after
    transmitted := run.transmitted ++
      [⟨run.sender.window.nextSeqno, segment, run.limit⟩] }

/-- The state between taking an acknowledgment in and filling the window. -/
def withAck (run : SenderRun) (ackno : WrappingInt32) (windowSize : UInt16)
    (updated : TCPSender) : SenderRun :=
  { run.noteAck ackno windowSize with sender := updated }

theorem record_of_sends {run : SenderRun} {segments : List TCPSegment} {filled : TCPSender}
    (sends : TCPSender.Sends run.sender segments filled) :
    run.record filled =
      { run with
        sender := filled
        transmitted := run.transmitted ++
          placed run.limit run.sender.window.nextSeqno segments } := by
  unfold record TCPSender.nextSeqnoAbsolute limit
  rw [sends.segmentsOut_eq, List.drop_left, sends.frame.firstSeqno_eq]

/-- The rule for filling the window: what each single transmission
preserves, recording the whole filling preserves. -/
theorem record_invariant (invariant : SenderRun -> Prop)
    (syn : forall run : SenderRun, run.sender.state = .closed ->
      run.sender.window.full = false -> invariant run ->
      invariant (run.sendOne run.sender.synSegment
        (run.sender.afterSending run.sender.synSegment)))
    (data : forall run : SenderRun, run.sender.MaySend -> invariant run ->
      invariant (run.sendOne run.sender.dataSegment
        (run.sender.popPayload.afterSending run.sender.dataSegment)))
    {run : SenderRun} {segments : List TCPSegment} {filled : TCPSender}
    (sends : TCPSender.Sends run.sender segments filled) (start : invariant run) :
    invariant (run.record filled) := by
  rw [record_of_sends sends]
  generalize before : run.sender = sender at sends
  induction sends generalizing run with
  | rest sender =>
      cases before
      rw [placed, List.append_nil]
      exact start
  | syn closed room onward ih =>
      cases before
      rw [placed, List.append_cons]
      exact ih (syn run closed room start) rfl
  | data may onward ih =>
      cases before
      rw [placed, List.append_cons]
      exact ih (data run may start) rfl

/-! ## What a step can do -/

theorem step_fillWindow {run next : SenderRun} (taken : run.step .fillWindow = .ok next) :
    Exists fun filled => Exists fun segments =>
      TCPSender.Sends run.sender segments filled ∧ next = run.record filled := by
  unfold step at taken
  dsimp only at taken
  cases filled : run.sender.fillWindow with
  | error fault =>
      rw [filled] at taken
      cases taken
  | ok final =>
      rw [filled] at taken
      cases taken
      rcases TCPSender.fillWindow_sends filled with ⟨segments, sends⟩
      exact ⟨final, segments, sends, rfl⟩

theorem step_ackReceived {run next : SenderRun} {ackno : WrappingInt32} {windowSize : UInt16}
    (taken : run.step (.ackReceived ackno windowSize) = .ok next) :
    Exists fun updated => Exists fun filled => Exists fun segments =>
      run.sender.TookAck ackno windowSize updated ∧
        TCPSender.Sends updated segments filled ∧
        next = (run.withAck ackno windowSize updated).record filled := by
  unfold step at taken
  dsimp only at taken
  cases received : run.sender.ackReceived ackno windowSize with
  | error fault =>
      rw [received] at taken
      cases taken
  | ok filled =>
      rw [received] at taken
      cases taken
      rcases TCPSender.ackReceived_spec received with ⟨updated, segments, took, sends⟩
      refine ⟨updated, filled, segments, took, sends, ?_⟩
      unfold record withAck TCPSender.nextSeqnoAbsolute
      rw [noteAck_sender, took.nextSeqno_eq, took.segmentsOut_eq]

/-- Sequence numbers are never given back. -/
theorem step_nextSeqno_le {run next : SenderRun} {op : SenderOp} (taken : run.step op = .ok next) :
    run.sender.window.nextSeqno ≤ next.sender.window.nextSeqno := by
  cases op with
  | write data =>
      cases taken
      exact Nat.le_refl _
  | endInput =>
      cases taken
      exact Nat.le_refl _
  | fillWindow =>
      rcases step_fillWindow taken with ⟨filled, segments, sends, rfl⟩
      exact sends.frame.nextSeqno_le
  | ackReceived ackno windowSize =>
      rcases step_ackReceived taken with ⟨updated, filled, segments, took, sends, rfl⟩
      exact took.nextSeqno_eq ▸ sends.frame.nextSeqno_le
  | tick msSinceLastTick =>
      cases taken
      exact Nat.le_of_eq (run.sender.tick_spec msSinceLastTick).nextSeqno_eq.symm
  | sendEmptySegment =>
      cases taken
      exact Nat.le_refl _

end SenderRun
end Tcp
end Sponge
