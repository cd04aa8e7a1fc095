import Sponge.Foundation.Words
import Sponge.Tcp.Segment

namespace Sponge
namespace Tcp

open Foundation

/-!
# The sending window

`TCPSendingWindow` keeps the outstanding segments, each with its own timer,
and three counters: the first unacknowledged sequence number, the next one to
be sent and the size of the window.  Absolute numbers are naturals.  The one
subtraction whose wrap-around the code runs into is the free space of a
window smaller than what is in flight.
-/

structure TCPSegmentForSender where
  segment : TCPSegment := {}
  remainingRto : Nat := 0
deriving DecidableEq, Repr

structure TCPSendingWindow where
  buffer : List TCPSegmentForSender
  isn : WrappingInt32
  firstSeqno : Nat
  windowSize : Nat
  nextSeqno : Nat
deriving DecidableEq, Repr

namespace TCPSendingWindow

def new (isn : WrappingInt32) (windowSize : Nat) : TCPSendingWindow where
  buffer := []
  isn := isn
  firstSeqno := 0
  windowSize := windowSize
  nextSeqno := 0

def shrinkFront (window : TCPSendingWindow) (size : Nat) : Except Fault TCPSendingWindow :=
  if window.windowSize < size then .error .shrinkBeyondSize
  else
    .ok { window with
      windowSize := window.windowSize - size
      firstSeqno := window.firstSeqno + size }

def expandBack (window : TCPSendingWindow) (size : Nat) : TCPSendingWindow :=
  { window with windowSize := window.windowSize + size }

def advance (window : TCPSendingWindow) (size : Nat) : Except Fault TCPSendingWindow :=
  (window.expandBack size).shrinkFront size

def setWindowSize (window : TCPSendingWindow) (windowSize : Nat) : TCPSendingWindow :=
  { window with windowSize := windowSize }

def bufferEmpty (window : TCPSendingWindow) : Bool :=
  window.buffer.isEmpty

def windowClosed (window : TCPSendingWindow) : Bool :=
  window.windowSize == 0

def bytesInFlight (window : TCPSendingWindow) : Nat :=
  window.nextSeqno - window.firstSeqno

def space (window : TCPSendingWindow) : Nat :=
  sub64 window.windowSize window.bytesInFlight

def full (window : TCPSendingWindow) : Bool :=
  if window.windowClosed then true
  else if window.bufferEmpty then false
  else window.space == 0

/-- The absolute sequence number of a segment, as the window unwraps it. -/
def absoluteSeqno (window : TCPSendingWindow) (segment : TCPSegment) : Nat :=
  unwrap segment.header.seqno window.isn window.nextSeqno

def addSegment (window : TCPSendingWindow) (segment : TCPSegment) (rto : Nat) :
    Except Fault TCPSendingWindow :=
  if window.full then .error .addToFullWindow
  else
    .ok { window with
      buffer := window.buffer ++ [⟨segment, rto % 2 ^ 32⟩]
      nextSeqno := window.absoluteSeqno segment + segment.lengthInSequenceSpace }

/-- The backward scan of `ack_received`: the last of the first `i` segments
that starts below the ackno.  Running past the front leaves `size_t(-1)`,
here `none`. -/
def scanBack (window : TCPSendingWindow) (ackSeqno : Nat) : Nat -> Option Nat
  | 0 => none
  | i + 1 =>
      match window.buffer[i]? with
      | none => none
      | some entry =>
          if ackSeqno > window.absoluteSeqno entry.segment then some i
          else window.scanBack ackSeqno i

/-- The outstanding segments after an acknowledgment of new data.  Erasing up
to an iterator before the front, or reading the front of an empty queue, is
out of range. -/
def eraseAcked (window : TCPSendingWindow) (ackSeqno : Nat) :
    Except Fault (List TCPSegmentForSender) :=
  match window.scanBack ackSeqno window.buffer.length with
  | none => .error .outOfRange
  | some i =>
      match window.buffer.drop i with
      | [] => .error .outOfRange
      | front :: rest =>
          if ackSeqno ≥ window.absoluteSeqno front.segment +
              front.segment.lengthInSequenceSpace then .ok rest
          else .ok (front :: rest)

theorem mem_of_eraseAcked {window : TCPSendingWindow} {ackSeqno : Nat}
    {buffer : List TCPSegmentForSender} (erased : window.eraseAcked ackSeqno = .ok buffer)
    {entry : TCPSegmentForSender} (member : entry ∈ buffer) : entry ∈ window.buffer := by
  unfold eraseAcked at erased
  split at erased
  · cases erased
  · rename_i i _
    split at erased
    · cases erased
    · rename_i front rest dropped
      apply List.mem_of_mem_drop (i := i)
      rw [dropped]
      split at erased
      · cases erased
        exact List.mem_cons_of_mem front member
      · cases erased
        exact member

/-- Take an acknowledgment in.  The result says whether it covers new data. -/
def ackReceived (window : TCPSendingWindow) (ackno : WrappingInt32) (windowSize : UInt16) :
    Except Fault (TCPSendingWindow × Bool) :=
  let ackSeqno := unwrap ackno window.isn window.nextSeqno
  if ackSeqno > window.nextSeqno ∨ ackSeqno < window.firstSeqno then .ok (window, false)
  else if ackSeqno = window.firstSeqno then
    .ok (window.setWindowSize windowSize.toNat, false)
  else
    match window.eraseAcked ackSeqno with
    | .error fault => .error fault
    | .ok buffer =>
        match { window with buffer := buffer }.advance (ackSeqno - window.firstSeqno) with
        | .error fault => .error fault
        | .ok advanced => .ok (advanced.setWindowSize windowSize.toNat, true)

/-- Let the timers run.  Expired segments are returned, their timers kept. -/
def tick (window : TCPSendingWindow) (msElapsed : Nat) : TCPSendingWindow × List TCPSegment :=
  ({ window with
      buffer := window.buffer.map (fun entry =>
        if entry.remainingRto > msElapsed then
          { entry with remainingRto := entry.remainingRto - msElapsed }
        else entry) },
    (window.buffer.filter (fun entry => ¬ entry.remainingRto > msElapsed)).map
      (fun entry => entry.segment))

def resetTimer (window : TCPSendingWindow) (rto : Nat) : TCPSendingWindow :=
  { window with
    buffer := window.buffer.map (fun entry => { entry with remainingRto := rto % 2 ^ 32 }) }

/-! ## What the operations can do -/

/-- The outstanding segments, without their timers. -/
def outstanding (window : TCPSendingWindow) : List TCPSegment :=
  window.buffer.map (fun entry => entry.segment)

/-- An ACK is accepted when its absolute number lies between the first
unacknowledged and the next sequence number. -/
def Accepts (window : TCPSendingWindow) (ackno : WrappingInt32) : Prop :=
  window.firstSeqno ≤ unwrap ackno window.isn window.nextSeqno ∧
    unwrap ackno window.isn window.nextSeqno ≤ window.nextSeqno

instance (window : TCPSendingWindow) (ackno : WrappingInt32) :
    Decidable (window.Accepts ackno) :=
  inferInstanceAs (Decidable (_ ∧ _))

theorem advance_ok (window : TCPSendingWindow) (size : Nat) :
    window.advance size = .ok { window with firstSeqno := window.firstSeqno + size } := by
  unfold advance shrinkFront expandBack
  dsimp only
  rw [if_neg (Nat.not_lt_of_ge (Nat.le_add_left _ _)), Nat.add_sub_cancel]

/-- Every way in which an acknowledgment can be processed: ignored, taken as
a window update, or taken as an acknowledgment of new data. -/
theorem ackReceived_cases {window final : TCPSendingWindow} {ackno : WrappingInt32}
    {windowSize : UInt16} {fresh : Bool}
    (taken : window.ackReceived ackno windowSize = .ok (final, fresh)) :
    (¬ window.Accepts ackno ∧ final = window ∧ fresh = false) ∨
      (window.Accepts ackno ∧
        unwrap ackno window.isn window.nextSeqno = window.firstSeqno ∧
        final = { window with windowSize := windowSize.toNat } ∧ fresh = false) ∨
      (window.Accepts ackno ∧
        window.firstSeqno < unwrap ackno window.isn window.nextSeqno ∧
        Exists fun buffer =>
          window.eraseAcked (unwrap ackno window.isn window.nextSeqno) = .ok buffer ∧
          final = { window with
            buffer := buffer
            firstSeqno := unwrap ackno window.isn window.nextSeqno
            windowSize := windowSize.toNat } ∧ fresh = true) := by
  unfold ackReceived at taken
  dsimp only at taken
  unfold Accepts
  generalize unwrap ackno window.isn window.nextSeqno = ackSeqno at taken ⊢
  split at taken
  · cases taken
    left
    refine ⟨?_, rfl, rfl⟩
    omega
  · split at taken
    · rename_i outside equal
      cases taken
      right
      left
      refine ⟨?_, equal, rfl, rfl⟩
      omega
    · rename_i outside different
      right
      right
      refine ⟨by omega, by omega, ?_⟩
      cases erased : window.eraseAcked ackSeqno with
      | error fault =>
          rw [erased] at taken
          cases taken
      | ok buffer =>
          rw [erased] at taken
          simp only [advance_ok, setWindowSize] at taken
          cases taken
          refine ⟨buffer, rfl, ?_, rfl⟩
          congr 1
          omega

/-- When an acknowledgment is accepted and the scan finds its place, it is
processed without a fault. -/
theorem ackReceived_ok (window : TCPSendingWindow) (ackno : WrappingInt32)
    (windowSize : UInt16)
    (erases : window.firstSeqno < unwrap ackno window.isn window.nextSeqno ->
      unwrap ackno window.isn window.nextSeqno ≤ window.nextSeqno ->
      Exists fun buffer =>
        window.eraseAcked (unwrap ackno window.isn window.nextSeqno) = .ok buffer) :
    Exists fun result => window.ackReceived ackno windowSize = .ok result := by
  unfold ackReceived
  dsimp only
  generalize unwrap ackno window.isn window.nextSeqno = ackSeqno at erases ⊢
  split
  · exact ⟨_, rfl⟩
  · split
    · exact ⟨_, rfl⟩
    · rcases erases (by omega) (by omega) with ⟨buffer, erased⟩
      rw [erased]
      simp only [advance_ok]
      exact ⟨_, rfl⟩

/-- The buffer after adding a segment that carries the next sequence number. -/
def appended (window : TCPSendingWindow) (segment : TCPSegment) (rto : Nat) :
    TCPSendingWindow :=
  { window with
    buffer := window.buffer ++ [⟨segment, rto % 2 ^ 32⟩]
    nextSeqno := window.nextSeqno + segment.lengthInSequenceSpace }

theorem addSegment_ok {window : TCPSendingWindow} {segment : TCPSegment} (rto : Nat)
    (room : window.full = false)
    (next : segment.header.seqno = wrap window.nextSeqno window.isn) :
    window.addSegment segment rto = .ok (window.appended segment rto) := by
  unfold addSegment appended absoluteSeqno
  rw [room, next, unwrap_wrap_self]
  rfl

theorem addSegment_full {window : TCPSendingWindow} (segment : TCPSegment) (rto : Nat)
    (full : window.full = true) :
    window.addSegment segment rto = .error .addToFullWindow := by
  unfold addSegment
  rw [full]
  rfl

@[simp] theorem tick_outstanding (window : TCPSendingWindow) (msElapsed : Nat) :
    (window.tick msElapsed).1.outstanding = window.outstanding := by
  unfold tick outstanding
  rw [List.map_map]
  apply List.map_congr_left
  intro entry _
  dsimp only [Function.comp]
  split <;> rfl

@[simp] theorem resetTimer_outstanding (window : TCPSendingWindow) (rto : Nat) :
    (window.resetTimer rto).outstanding = window.outstanding := by
  unfold resetTimer outstanding
  rw [List.map_map]
  rfl

/-- Only outstanding segments expire. -/
theorem mem_outstanding_of_expired {window : TCPSendingWindow} {msElapsed : Nat}
    {segment : TCPSegment} (expired : segment ∈ (window.tick msElapsed).2) :
    segment ∈ window.outstanding := by
  rcases List.mem_map.mp expired with ⟨entry, member, rfl⟩
  exact List.mem_map_of_mem (List.mem_filter.mp member).1

@[simp] theorem appended_outstanding (window : TCPSendingWindow) (segment : TCPSegment)
    (rto : Nat) :
    (window.appended segment rto).outstanding = window.outstanding ++ [segment] :=
  List.map_append

end TCPSendingWindow
end Tcp
end Sponge
