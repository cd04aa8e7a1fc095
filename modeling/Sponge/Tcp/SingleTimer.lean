import Sponge.Foundation.Countdowns
import Sponge.Tcp.Machines
import Sponge.Tcp.Relabelling

namespace Sponge
namespace Tcp

open Foundation Bytes

/-!
# One retransmission timer

The reference keeps a single timer for all outstanding segments.  It starts
when a segment is sent with none outstanding, is not restarted by further
sends, restarts on an acknowledgment of new data or stops if nothing is left,
and on expiry sends the oldest outstanding segment again, backs off and
restarts.  The code keeps a countdown in every outstanding segment instead.
These countdowns are in step, the oldest segment's is the reference's timer,
and nothing else tells the two apart.
-/

/-- A sender with a single timer.  The countdowns that its base keeps in the
outstanding segments are never looked at. -/
structure SingleTimerSender where
  base : TCPSender
  timer : Option Nat

namespace SingleTimerSender

def new (capacity : Capacity) (retxTimeout : UInt16) (isn : WrappingInt32) :
    SingleTimerSender :=
  ⟨TCPSender.new capacity retxTimeout isn, none⟩

/-- Segments have been sent: the timer starts if none was outstanding. -/
def afterSends (reference : SingleTimerSender) (filled : TCPSender) : SingleTimerSender where
  base := filled
  timer :=
    if reference.base.window.bufferEmpty && !filled.window.bufferEmpty then some filled.rto
    else reference.timer

def fillWindow (reference : SingleTimerSender) : Except Fault SingleTimerSender :=
  match reference.base.fillWindow with
  | .ok filled => .ok (reference.afterSends filled)
  | .error fault => .error fault

/-- New data was acknowledged: the timer restarts, or stops if nothing is
outstanding. -/
def restart (updated : TCPSender) : SingleTimerSender where
  base :=
    { updated with
      rto := updated.initialRetransmissionTimeout
      consecutiveRetransmissionCount := 0 }
  timer :=
    if updated.window.bufferEmpty then none else some updated.initialRetransmissionTimeout

def takeAck (reference : SingleTimerSender) (ackno : WrappingInt32) (windowSize : UInt16) :
    Except Fault SingleTimerSender :=
  match reference.base.window.ackReceived ackno (max windowSize 1) with
  | .ok (window, fresh) =>
      let updated :=
        { reference.base with window := window, windowSizeIsZero := windowSize == 0 }
      .ok (if fresh then restart updated else { reference with base := updated })
  | .error fault => .error fault

def ackReceived (reference : SingleTimerSender) (ackno : WrappingInt32) (windowSize : UInt16) :
    Except Fault SingleTimerSender :=
  match reference.takeAck ackno windowSize with
  | .ok updated => updated.fillWindow
  | .error fault => .error fault

/-- The timer has expired: the oldest outstanding segment is sent again. -/
def expire (reference : SingleTimerSender) : SingleTimerSender :=
  match reference.base.window.outstanding with
  | [] => reference
  | oldest :: _ =>
      let rto :=
        if reference.base.windowSizeIsZero then reference.base.rto else 2 * reference.base.rto
      { base :=
          { reference.base with
            rto := rto
            consecutiveRetransmissionCount :=
              reference.base.consecutiveRetransmissionCount + 1 }.send oldest
        timer := some rto }

def tick (reference : SingleTimerSender) (msSinceLastTick : Nat) : SingleTimerSender :=
  match reference.timer with
  | none => reference
  | some remaining =>
      if remaining > msSinceLastTick then
        { reference with timer := some (remaining - msSinceLastTick) }
      else reference.expire

/-- Calls that send nothing new and let no time pass go to the base. -/
def call (reference : SingleTimerSender) : SenderCall -> Except Fault SingleTimerSender
  | .fillWindow => reference.fillWindow
  | .ackReceived ackno windowSize => reference.ackReceived ackno windowSize
  | .tick msSinceLastTick => .ok (reference.tick msSinceLastTick)
  | made =>
      match reference.base.call made with
      | .ok base => .ok { reference with base := base }
      | .error fault => .error fault

def perform (reference : SingleTimerSender) (made : SenderCall) :
    Except Fault (SingleTimerSender × SenderView) :=
  match reference.call made with
  | .ok next => .ok (next, reference.base.view next.base)
  | .error fault => .error fault

end SingleTimerSender

/-! ## Senders that differ in their countdowns only -/

def TCPSegmentForSender.untimed (entry : TCPSegmentForSender) : TCPSegmentForSender :=
  { entry with remainingRto := 0 }

namespace TCPSendingWindow

/-- The window without its countdowns. -/
def untimed (window : TCPSendingWindow) : TCPSendingWindow :=
  { window with buffer := window.buffer.map TCPSegmentForSender.untimed }

variable (window : TCPSendingWindow)

/-- Forgetting the countdowns as a relabelling of the window. -/
def untiming : Relabelling window.isn where
  newIsn := window.isn
  entry := TCPSegmentForSender.untimed
  seqno_eq := fun _ _ => rfl
  length_eq := fun _ => rfl

theorem untimed_eq_relabel : window.untimed = window.relabel window.untiming :=
  rfl

@[simp] theorem untimed_full : window.untimed.full = window.full :=
  window.relabel_full window.untiming

@[simp] theorem untimed_bufferEmpty : window.untimed.bufferEmpty = window.bufferEmpty :=
  List.isEmpty_map

@[simp] theorem untimed_outstanding : window.untimed.outstanding = window.outstanding := by
  unfold outstanding untimed
  rw [List.map_map]
  rfl

theorem untimed_appended (segment : TCPSegment) (rto : Nat) :
    (window.untimed.appended segment rto).untimed = (window.appended segment rto).untimed := by
  unfold appended untimed
  simp only [List.map_append, List.map_map]
  rfl

theorem ackReceived_untimed (ackno : WrappingInt32) (windowSize : UInt16) :
    window.untimed.ackReceived ackno windowSize =
      (window.ackReceived ackno windowSize).map (fun result => (result.1.untimed, result.2)) := by
  rw [untimed_eq_relabel, window.relabel_ackReceived window.untiming rfl]
  cases received : window.ackReceived ackno windowSize with
  | error fault => rfl
  | ok result =>
      have kept : result.1.isn = window.isn := ackReceived_isn received
      dsimp only [Except.map, untimed]
      rw [kept]
      rfl

end TCPSendingWindow

namespace TCPSender

def untimed (sender : TCPSender) : TCPSender :=
  { sender with window := sender.window.untimed }

theorem untimed_afterSending (sender : TCPSender) (segment : TCPSegment) :
    (sender.untimed.afterSending segment).untimed = (sender.afterSending segment).untimed := by
  have window := sender.window.untimed_appended segment sender.rto
  unfold afterSending untimed
  dsimp only
  rw [window]

theorem untimed_wantsToSend (sender : TCPSender) :
    sender.untimed.wantsToSend = sender.wantsToSend := by
  unfold wantsToSend untimed
  dsimp only
  rw [TCPSendingWindow.untimed_full]

@[simp] theorem untimed_untimed (sender : TCPSender) : sender.untimed.untimed = sender.untimed := by
  unfold untimed TCPSendingWindow.untimed
  dsimp only
  rw [List.map_map]
  rfl

theorem map_ok_untimed (sender : TCPSender) :
    (Except.ok sender.untimed : Except Fault TCPSender).map untimed =
      (Except.ok sender).map untimed :=
  congrArg Except.ok sender.untimed_untimed

theorem transmit_full {sender : TCPSender} (segment : TCPSegment)
    (full : sender.window.full = true) : sender.transmit segment = .error .addToFullWindow := by
  unfold transmit
  rw [TCPSendingWindow.addSegment_full _ _ full]

theorem fillLoop_untimed (rounds : Nat) (sender : TCPSender) :
    (fillLoop rounds sender.untimed).map untimed = (fillLoop rounds sender).map untimed := by
  induction rounds generalizing sender with
  | zero => exact sender.map_ok_untimed
  | succ rounds ih =>
      have sameSegment : sender.untimed.dataSegment = sender.dataSegment := rfl
      have sameState : sender.untimed.state = sender.state := rfl
      have popped : sender.untimed.popPayload = sender.popPayload.untimed := rfl
      unfold fillLoop
      rw [untimed_wantsToSend, sameSegment, sameState]
      split
      · rename_i wants
        have room := wantsToSend_room wants
        have untimedRoom : sender.untimed.window.full = false :=
          (TCPSendingWindow.untimed_full _).trans room
        split
        · exact sender.map_ok_untimed
        · split
          · rw [transmit_dataSegment room, ← sameSegment, transmit_dataSegment untimedRoom,
              popped]
            have sent := sender.popPayload.untimed_afterSending sender.dataSegment
            dsimp only
            rw [← ih (sender.popPayload.untimed.afterSending _), ← ih (sender.popPayload.afterSending _)]
            exact congrArg (fun after => (fillLoop rounds after).map untimed) sent
          · exact sender.popPayload.map_ok_untimed
      · exact sender.map_ok_untimed

theorem fillWindow_untimed (sender : TCPSender) :
    sender.untimed.fillWindow.map untimed = sender.fillWindow.map untimed := by
  have sameState : sender.untimed.state = sender.state := rfl
  unfold fillWindow openIfClosed
  rw [sameState]
  by_cases closed : sender.state = .closed
  · rw [if_pos closed, if_pos closed]
    cases full : sender.window.full with
    | true =>
        have untimedFull : sender.untimed.window.full = true :=
          (TCPSendingWindow.untimed_full sender.window).trans full
        rw [transmit_full _ full, transmit_full _ untimedFull]
    | false =>
        have untimedRoom : sender.untimed.window.full = false :=
          (TCPSendingWindow.untimed_full sender.window).trans full
        have sent := sender.untimed_afterSending sender.synSegment
        rw [transmit_ok full rfl, transmit_ok untimedRoom rfl]
        dsimp only
        rw [← fillLoop_untimed _ (sender.untimed.afterSending _),
          ← fillLoop_untimed _ (sender.afterSending _)]
        exact congrArg (fun after : TCPSender =>
          (fillLoop (after.window.space + 1) after).map untimed) sent
  · rw [if_neg closed, if_neg closed]
    exact fillLoop_untimed _ sender

theorem tick_untimed (window : TCPSendingWindow) (msElapsed : Nat) :
    (window.tick msElapsed).1.untimed = window.untimed := by
  unfold TCPSendingWindow.tick TCPSendingWindow.untimed
  dsimp only
  rw [List.map_map]
  congr 1
  apply List.map_congr_left
  intro entry _
  dsimp only [Function.comp]
  split <;> rfl

theorem resetTimer_untimed (window : TCPSendingWindow) (rto : Nat) :
    (window.resetTimer rto).untimed = window.untimed := by
  unfold TCPSendingWindow.resetTimer TCPSendingWindow.untimed
  dsimp only
  rw [List.map_map]
  rfl

/-- The segments that filling the window sends are queued with a full timer. -/
theorem Sends.buffer_eq {sender final : TCPSender} {segments : List TCPSegment}
    (sends : Sends sender segments final) :
    final.window.buffer =
        sender.window.buffer ++ segments.map (fun segment => ⟨segment, sender.rto % 2 ^ 32⟩) ∧
      final.rto = sender.rto ∧
      final.initialRetransmissionTimeout = sender.initialRetransmissionTimeout := by
  induction sends with
  | rest sender => exact ⟨(List.append_nil _).symm, rfl, rfl⟩
  | syn closed room onward ih =>
      refine ⟨ih.1.trans ?_, ih.2⟩
      exact List.append_assoc _ _ _
  | data may onward ih =>
      refine ⟨ih.1.trans ?_, ih.2⟩
      exact List.append_assoc _ _ _

end TCPSender

/-! ## The oldest segment's countdown is the timer -/

def TCPSendingWindow.oldestTimer (window : TCPSendingWindow) : Option Nat :=
  window.buffer.head?.map (fun entry => entry.remainingRto)

/-- The countdowns are in step, and no timeout is cut off at 32 bits. -/
structure TCPSender.Timed (sender : TCPSender) : Prop where
  inStep : InStep (fun entry => entry.remainingRto) sender.rto sender.window.buffer
  rto_lt : sender.rto < 2 ^ 32
  initial_lt : sender.initialRetransmissionTimeout < 2 ^ 32

/-- The reference has the sender's data, and its timer is the countdown of the
oldest outstanding segment. -/
structure SingleTimerSender.Tracks (sender : TCPSender) (reference : SingleTimerSender) :
    Prop where
  base_eq : reference.base.untimed = sender.untimed
  timer_eq : reference.timer = sender.window.oldestTimer
  timed : sender.Timed

/-- What the back-off has to keep: the next timeout fits 32 bits. -/
def TCPSender.KeepsRtoLow (sender : TCPSender) (made : SenderCall) : Prop :=
  forall next, sender.call made = .ok next -> next.rto < 2 ^ 32

instance (sender : TCPSender) (made : SenderCall) : Decidable (sender.KeepsRtoLow made) :=
  match outcome : sender.call made with
  | .error _ => .isTrue (fun next done => by rw [outcome] at done; cases done)
  | .ok next =>
      if low : next.rto < 2 ^ 32 then
        .isTrue (fun other done => by rw [outcome] at done; cases done; exact low)
      else .isFalse (fun keeps => low (keeps next outcome))

namespace SingleTimerSender

theorem new_tracks (capacity : Capacity) (retxTimeout : UInt16) (isn : WrappingInt32) :
    Tracks (TCPSender.new capacity retxTimeout isn) (new capacity retxTimeout isn) where
  base_eq := rfl
  timer_eq := rfl
  timed :=
    { inStep := .nil _
      rto_lt := Nat.lt_trans (UInt16.toNat_lt retxTimeout) (by decide)
      initial_lt := Nat.lt_trans (UInt16.toNat_lt retxTimeout) (by decide) }

variable {sender : TCPSender} {reference : SingleTimerSender}

theorem Tracks.bufferEmpty_eq (tracks : Tracks sender reference) :
    reference.base.window.bufferEmpty = sender.window.bufferEmpty := by
  have windows : reference.base.window.untimed = sender.window.untimed :=
    congrArg TCPSender.window tracks.base_eq
  rw [← TCPSendingWindow.untimed_bufferEmpty, windows, TCPSendingWindow.untimed_bufferEmpty]

theorem Tracks.outstanding_eq (tracks : Tracks sender reference) :
    reference.base.window.outstanding = sender.window.outstanding := by
  have windows : reference.base.window.untimed = sender.window.untimed :=
    congrArg TCPSender.window tracks.base_eq
  rw [← TCPSendingWindow.untimed_outstanding, windows, TCPSendingWindow.untimed_outstanding]

/-- Outcomes that agree once the countdowns are forgotten. -/
theorem outcomes_of_untimed {first second : Except Fault TCPSender}
    (same : first.map TCPSender.untimed = second.map TCPSender.untimed) :
    EndsAlike (fun one other => one.untimed = other.untimed) first second := by
  cases first with
  | error fault =>
      cases second with
      | error other =>
          cases same
          exact .fault fault
      | ok other => cases same
  | ok one =>
      cases second with
      | error other => cases same
      | ok other => exact .state (Except.ok.inj same)

/-- Filling the window starts the timer exactly as the reference does. -/
theorem Tracks.afterSends (tracks : Tracks sender reference) {filled other : TCPSender}
    (done : sender.fillWindow = .ok filled) (same : other.untimed = filled.untimed) :
    Tracks filled (reference.afterSends other) := by
  rcases TCPSender.fillWindow_sends done with ⟨segments, sends⟩
  rcases sends.buffer_eq with ⟨buffer_eq, rto_eq, initial_eq⟩
  have full : sender.rto % 2 ^ 32 = sender.rto := Nat.mod_eq_of_lt tracks.timed.rto_lt
  rw [full] at buffer_eq
  have otherRto : other.rto = filled.rto :=
    (congrArg TCPSender.rto same : other.untimed.rto = filled.untimed.rto)
  have otherEmpty : other.window.bufferEmpty = filled.window.bufferEmpty := by
    have windows : other.window.untimed = filled.window.untimed := congrArg TCPSender.window same
    rw [← TCPSendingWindow.untimed_bufferEmpty, windows, TCPSendingWindow.untimed_bufferEmpty]
  refine ⟨same, ?_, ?_, ?_, ?_⟩
  · unfold SingleTimerSender.afterSends
    dsimp only
    rw [tracks.bufferEmpty_eq, otherEmpty, otherRto, tracks.timer_eq, rto_eq]
    unfold TCPSendingWindow.bufferEmpty TCPSendingWindow.oldestTimer
    rw [buffer_eq]
    cases sender.window.buffer with
    | nil =>
        cases segments with
        | nil => rfl
        | cons segment rest => rfl
    | cons first rest => rfl
  · rw [buffer_eq, rto_eq]
    apply tracks.timed.inStep.append
    intro entry member
    rcases List.mem_map.mp member with ⟨segment, _, rfl⟩
    rfl
  · rw [rto_eq]
    exact tracks.timed.rto_lt
  · rw [initial_eq]
    exact tracks.timed.initial_lt

theorem Tracks.fillWindow (tracks : Tracks sender reference) :
    EndsAlike Tracks sender.fillWindow reference.fillWindow := by
  have alike : EndsAlike (fun one other => one.untimed = other.untimed)
      reference.base.fillWindow sender.fillWindow := by
    apply outcomes_of_untimed
    rw [← TCPSender.fillWindow_untimed, tracks.base_eq, TCPSender.fillWindow_untimed]
  unfold SingleTimerSender.fillWindow
  generalize done : sender.fillWindow = outcome at alike
  generalize reference.base.fillWindow = otherOutcome at alike
  cases alike with
  | fault fault => exact .fault fault
  | state same => exact .state (tracks.afterSends done same)

/-- An acknowledgment of nothing new leaves the timer alone. -/
theorem Tracks.keepsTimer (tracks : Tracks sender reference) {window other : TCPSendingWindow}
    (buffer_eq : window.buffer = sender.window.buffer) (same : other.untimed = window.untimed)
    (isZero : Bool) :
    Tracks { sender with window := window, windowSizeIsZero := isZero }
      { reference with
        base := { reference.base with window := other, windowSizeIsZero := isZero } } where
  base_eq := by
    change { reference.base.untimed with
      window := other.untimed, windowSizeIsZero := isZero } = _
    rw [tracks.base_eq, same]
    rfl
  timer_eq := by
    rw [tracks.timer_eq]
    unfold TCPSendingWindow.oldestTimer
    rw [buffer_eq]
  timed :=
    { inStep := buffer_eq ▸ tracks.timed.inStep
      rto_lt := tracks.timed.rto_lt
      initial_lt := tracks.timed.initial_lt }

theorem resetTimer_uniform {window : TCPSendingWindow} {rto : Nat}
    {entry : TCPSegmentForSender} (member : entry ∈ (window.resetTimer rto).buffer) :
    entry.remainingRto = rto % 2 ^ 32 := by
  rcases List.mem_map.mp member with ⟨old, _, rfl⟩
  rfl

theorem resetTimer_oldestTimer (window : TCPSendingWindow) {rto : Nat} (low : rto < 2 ^ 32) :
    (window.resetTimer rto).oldestTimer = if window.bufferEmpty then none else some rto := by
  unfold TCPSendingWindow.oldestTimer TCPSendingWindow.resetTimer TCPSendingWindow.bufferEmpty
  dsimp only
  rw [Nat.mod_eq_of_lt low]
  cases window.buffer with
  | nil => rfl
  | cons first rest => rfl

/-- Resetting all countdowns is restarting the timer. -/
theorem Tracks.restarted {other : TCPSender} (same : other.untimed = sender.untimed)
    (initial_lt : sender.initialRetransmissionTimeout < 2 ^ 32) :
    Tracks sender.restartTimers (restart other) where
  base_eq := by
    change { other.untimed with
      rto := other.untimed.initialRetransmissionTimeout
      consecutiveRetransmissionCount := 0 } = _
    rw [same]
    unfold TCPSender.restartTimers TCPSender.untimed
    dsimp only
    rw [TCPSender.resetTimer_untimed]
  timer_eq := by
    have initial : other.initialRetransmissionTimeout = sender.initialRetransmissionTimeout :=
      (congrArg TCPSender.initialRetransmissionTimeout same :
        other.untimed.initialRetransmissionTimeout = sender.untimed.initialRetransmissionTimeout)
    have empty : other.window.bufferEmpty = sender.window.bufferEmpty := by
      have windows : other.window.untimed = sender.window.untimed :=
        congrArg TCPSender.window same
      rw [← TCPSendingWindow.untimed_bufferEmpty, windows, TCPSendingWindow.untimed_bufferEmpty]
    unfold restart TCPSender.restartTimers
    dsimp only
    rw [resetTimer_oldestTimer _ initial_lt, initial, empty]
  timed :=
    { inStep := InStep.of_uniform fun _ member =>
        (resetTimer_uniform member).trans (Nat.mod_eq_of_lt initial_lt)
      rto_lt := initial_lt
      initial_lt := initial_lt }

theorem Tracks.takeAck (tracks : Tracks sender reference) (ackno : WrappingInt32)
    (windowSize : UInt16) :
    EndsAlike Tracks (sender.takeAck ackno windowSize) (reference.takeAck ackno windowSize) := by
  have windows : reference.base.window.untimed = sender.window.untimed :=
    congrArg TCPSender.window tracks.base_eq
  have alike : (reference.base.window.ackReceived ackno (max windowSize 1)).map
        (fun result => (result.1.untimed, result.2)) =
      (sender.window.ackReceived ackno (max windowSize 1)).map
        (fun result => (result.1.untimed, result.2)) := by
    rw [← TCPSendingWindow.ackReceived_untimed, windows, TCPSendingWindow.ackReceived_untimed]
  unfold SingleTimerSender.takeAck TCPSender.takeAck
  generalize received : sender.window.ackReceived ackno (max windowSize 1) = outcome at alike
  generalize reference.base.window.ackReceived ackno (max windowSize 1) = otherOutcome at alike
  cases outcome with
  | error fault =>
      cases otherOutcome with
      | ok result => cases alike
      | error otherFault =>
          cases alike
          exact .fault _
  | ok result =>
      cases otherOutcome with
      | error otherFault => cases alike
      | ok otherResult =>
          rcases result with ⟨window, fresh⟩
          rcases otherResult with ⟨otherWindow, otherFresh⟩
          have pairs := Except.ok.inj alike
          have sameWindow : otherWindow.untimed = window.untimed := congrArg Prod.fst pairs
          have sameFresh : otherFresh = fresh := congrArg Prod.snd pairs
          subst sameFresh
          apply EndsAlike.state
          cases otherFresh with
          | false =>
              apply tracks.keepsTimer _ sameWindow
              rcases TCPSendingWindow.ackReceived_cases received with
                ⟨_, same, _⟩ | ⟨_, _, same, _⟩ | ⟨_, _, _, _, _, fresh⟩
              · rw [same]
              · rw [same]
              · cases fresh
          | true =>
              rw [if_pos rfl, if_pos rfl]
              refine Tracks.restarted ?_ tracks.timed.initial_lt
              change { reference.base.untimed with
                window := otherWindow.untimed, windowSizeIsZero := windowSize == 0 } = _
              rw [tracks.base_eq, sameWindow]
              rfl

theorem Tracks.ackReceived (tracks : Tracks sender reference) (ackno : WrappingInt32)
    (windowSize : UInt16) :
    EndsAlike Tracks (sender.ackReceived ackno windowSize)
      (reference.ackReceived ackno windowSize) := by
  have alike := tracks.takeAck ackno windowSize
  unfold SingleTimerSender.ackReceived TCPSender.ackReceived
  generalize sender.takeAck ackno windowSize = outcome at alike
  generalize reference.takeAck ackno windowSize = otherOutcome at alike
  cases alike with
  | fault fault => exact .fault fault
  | state updated => exact updated.fillWindow

/-! ## The passage of time -/

/-- A tick on which the oldest countdown goes on. -/
theorem tick_of_running {first : TCPSegmentForSender} {rest : List TCPSegmentForSender}
    {period msSinceLastTick : Nat}
    (inStep : InStep (fun entry => entry.remainingRto) period sender.window.buffer)
    (buffer : sender.window.buffer = first :: rest)
    (running : first.remainingRto > msSinceLastTick) :
    sender.tick msSinceLastTick =
      { sender with window := (sender.window.tick msSinceLastTick).1 } := by
  rw [buffer] at inStep
  have none_expired : (sender.window.tick msSinceLastTick).2 = [] := by
    unfold TCPSendingWindow.tick
    dsimp only
    rw [buffer, List.map_eq_nil_iff, List.filter_eq_nil_iff]
    intro entry member
    simpa using inStep.none_expired running member
  unfold TCPSender.tick
  dsimp only
  rw [none_expired]

/-- While the first countdown goes on, all do. -/
theorem tick_inStep {first : TCPSegmentForSender} {rest : List TCPSegmentForSender}
    {period msSinceLastTick : Nat}
    (inStep : InStep (fun entry => entry.remainingRto) period sender.window.buffer)
    (buffer : sender.window.buffer = first :: rest)
    (running : first.remainingRto > msSinceLastTick) :
    InStep (fun entry => entry.remainingRto) period
      (sender.window.tick msSinceLastTick).1.buffer := by
  apply inStep.map
  intro entry member
  have still : entry.remainingRto > msSinceLastTick := by
    rw [buffer] at inStep member
    exact inStep.none_expired running member
  rw [if_pos still]

/-- A tick on which the oldest countdown expires sends the oldest segment. -/
theorem tick_of_expired {first : TCPSegmentForSender} {rest : List TCPSegmentForSender}
    {msSinceLastTick : Nat} (timed : sender.Timed)
    (buffer : sender.window.buffer = first :: rest)
    (expired : ¬ first.remainingRto > msSinceLastTick) :
    sender.tick msSinceLastTick =
      { sender with
        rto := if sender.windowSizeIsZero then sender.rto else 2 * sender.rto
        window := (sender.window.tick msSinceLastTick).1.resetTimer
          (if sender.windowSizeIsZero then sender.rto else 2 * sender.rto)
        consecutiveRetransmissionCount :=
          sender.consecutiveRetransmissionCount + 1 }.send first.segment := by
  have low := timed.rto_lt
  have exact_double : sender.rto * 2 % 2 ^ 64 = 2 * sender.rto := by omega
  rw [TCPSender.tick_of_front buffer expired]
  unfold TCPSender.backedOff
  rw [exact_double]

theorem Tracks.runsOn (tracks : Tracks sender reference) {first : TCPSegmentForSender}
    {rest : List TCPSegmentForSender} {msSinceLastTick : Nat}
    (buffer : sender.window.buffer = first :: rest)
    (running : first.remainingRto > msSinceLastTick) :
    Tracks { sender with window := (sender.window.tick msSinceLastTick).1 }
      { reference with timer := some (first.remainingRto - msSinceLastTick) } where
  base_eq := by
    unfold TCPSender.untimed
    rw [TCPSender.tick_untimed]
    exact tracks.base_eq
  timer_eq := by
    unfold TCPSendingWindow.oldestTimer TCPSendingWindow.tick
    dsimp only
    rw [buffer, List.map_cons, if_pos running]
    rfl
  timed :=
    { inStep := tick_inStep tracks.timed.inStep buffer running
      rto_lt := tracks.timed.rto_lt
      initial_lt := tracks.timed.initial_lt }

theorem Tracks.expires (tracks : Tracks sender reference) {first : TCPSegmentForSender}
    {rest : List TCPSegmentForSender} {msSinceLastTick rto : Nat}
    (buffer : sender.window.buffer = first :: rest) (low : rto < 2 ^ 32) :
    Tracks
      ({ sender with
        rto := rto
        window := (sender.window.tick msSinceLastTick).1.resetTimer rto
        consecutiveRetransmissionCount :=
          sender.consecutiveRetransmissionCount + 1 }.send first.segment)
      { base :=
          { reference.base with
            rto := rto
            consecutiveRetransmissionCount :=
              reference.base.consecutiveRetransmissionCount + 1 }.send first.segment
        timer := some rto } where
  base_eq := by
    unfold TCPSender.untimed TCPSender.send
    dsimp only
    rw [TCPSender.resetTimer_untimed, TCPSender.tick_untimed]
    change { reference.base.untimed with
      rto := rto
      consecutiveRetransmissionCount := reference.base.untimed.consecutiveRetransmissionCount + 1
      segmentsOut := reference.base.untimed.segmentsOut ++ [first.segment] } = _
    rw [tracks.base_eq]
    rfl
  timer_eq := by
    have outstanding : (sender.window.tick msSinceLastTick).1.bufferEmpty = false := by
      unfold TCPSendingWindow.tick TCPSendingWindow.bufferEmpty
      rw [buffer]
      rfl
    unfold TCPSender.send
    dsimp only
    rw [resetTimer_oldestTimer _ low, outstanding]
    rfl
  timed :=
    { inStep := InStep.of_uniform fun _ member =>
        (resetTimer_uniform member).trans (Nat.mod_eq_of_lt low)
      rto_lt := low
      initial_lt := tracks.timed.initial_lt }

theorem Tracks.tick (tracks : Tracks sender reference) {msSinceLastTick : Nat}
    (low : (sender.tick msSinceLastTick).rto < 2 ^ 32) :
    Tracks (sender.tick msSinceLastTick) (reference.tick msSinceLastTick) := by
  have timer := tracks.timer_eq
  unfold TCPSendingWindow.oldestTimer at timer
  unfold SingleTimerSender.tick
  cases buffer : sender.window.buffer with
  | nil =>
      rw [buffer] at timer
      rw [TCPSender.tick_of_buffer_nil buffer, timer]
      exact tracks
  | cons first rest =>
      rw [buffer] at timer
      rw [timer]
      dsimp only [List.head?, Option.map]
      by_cases running : first.remainingRto > msSinceLastTick
      · rw [if_pos running, tick_of_running tracks.timed.inStep buffer running]
        exact tracks.runsOn buffer running
      · have outstanding : reference.base.window.outstanding =
            first.segment :: rest.map (fun entry => entry.segment) := by
          rw [tracks.outstanding_eq]
          unfold TCPSendingWindow.outstanding
          rw [buffer, List.map_cons]
        have sameRto : reference.base.rto = sender.rto :=
          (congrArg TCPSender.rto tracks.base_eq :
            reference.base.untimed.rto = sender.untimed.rto)
        have sameZero : reference.base.windowSizeIsZero = sender.windowSizeIsZero :=
          (congrArg TCPSender.windowSizeIsZero tracks.base_eq :
            reference.base.untimed.windowSizeIsZero = sender.untimed.windowSizeIsZero)
        have backedOff : (if reference.base.windowSizeIsZero then reference.base.rto
            else 2 * reference.base.rto) =
              if sender.windowSizeIsZero then sender.rto else 2 * sender.rto := by
          rw [sameRto, sameZero]
        rw [tick_of_expired tracks.timed buffer running] at low ⊢
        change (if sender.windowSizeIsZero then sender.rto else 2 * sender.rto) < 2 ^ 32 at low
        rw [if_neg running]
        unfold expire
        rw [outstanding]
        dsimp only
        rw [backedOff]
        exact tracks.expires buffer low

/-! ## Every call -/

/-- A call that leaves the window and the timeouts alone. -/
theorem Tracks.aside (tracks : Tracks sender reference) (change : TCPSender -> TCPSender)
    (commutes : forall other, (change other).untimed = change other.untimed)
    (window_eq : (change sender).window = sender.window)
    (rto_eq : (change sender).rto = sender.rto)
    (initial_eq : (change sender).initialRetransmissionTimeout =
      sender.initialRetransmissionTimeout) :
    Tracks (change sender) { reference with base := change reference.base } where
  base_eq := by rw [commutes, commutes, tracks.base_eq]
  timer_eq := by
    rw [window_eq]
    exact tracks.timer_eq
  timed :=
    { inStep := by
        rw [window_eq, rto_eq]
        exact tracks.timed.inStep
      rto_lt := rto_eq ▸ tracks.timed.rto_lt
      initial_lt := initial_eq ▸ tracks.timed.initial_lt }

theorem Tracks.call (tracks : Tracks sender reference) (made : SenderCall)
    (low : sender.KeepsRtoLow made) :
    EndsAlike Tracks (sender.call made) (reference.call made) := by
  cases made with
  | write data =>
      exact .state (tracks.aside
        (fun other => { other with stream := (other.stream.write data).1 })
        (fun _ => rfl) rfl rfl rfl)
  | endInput =>
      exact .state (tracks.aside (fun other => { other with stream := other.stream.endInput })
        (fun _ => rfl) rfl rfl rfl)
  | setError =>
      exact .state (tracks.aside (fun other => { other with stream := other.stream.setError })
        (fun _ => rfl) rfl rfl rfl)
  | fillWindow => exact tracks.fillWindow
  | ackReceived ackno windowSize => exact tracks.ackReceived ackno windowSize
  | tick msSinceLastTick => exact .state (tracks.tick (low _ rfl))
  | sendEmptySegment =>
      exact .state (tracks.aside TCPSender.sendEmptySegment (fun _ => rfl) rfl rfl rfl)
  | takeSegments count =>
      exact .state (tracks.aside
        (fun other => { other with segmentsOut := other.segmentsOut.drop count })
        (fun _ => rfl) rfl rfl rfl)

/-- A sender and its reference show the same. -/
theorem view_eq {before after : TCPSender} {reference next : SingleTimerSender}
    (start : Tracks before reference) (onward : Tracks after next) :
    reference.base.view next.base = before.view after := by
  change reference.base.untimed.view next.base.untimed = before.untimed.view after.untimed
  rw [start.base_eq, onward.base_eq]

theorem Tracks.perform (tracks : Tracks sender reference) (made : SenderCall)
    (low : sender.KeepsRtoLow made) :
    AnswersAlike Tracks id (sender.perform made) (reference.perform made) := by
  have alike := tracks.call made low
  unfold SingleTimerSender.perform TCPSender.perform
  generalize sender.call made = outcome at alike
  generalize reference.call made = otherOutcome at alike
  cases alike with
  | fault fault => exact .fault fault
  | state onward =>
      dsimp only
      rw [view_eq tracks onward]
      exact .answer _ onward

end SingleTimerSender

/-- A sender whose countdowns are in step sends at most its oldest outstanding
segment on a tick. -/
theorem TCPSender.Timed.tick_sends {sender : TCPSender} (timed : sender.Timed)
    (msSinceLastTick : Nat) :
    (sender.tick msSinceLastTick).segmentsOut = sender.segmentsOut ∨
      Exists fun oldest => sender.window.buffer[0]? = some oldest ∧
        (sender.tick msSinceLastTick).segmentsOut = sender.segmentsOut ++ [oldest.segment] := by
  cases buffer : sender.window.buffer with
  | nil =>
      left
      rw [TCPSender.tick_of_buffer_nil buffer]
  | cons first rest =>
      by_cases running : first.remainingRto > msSinceLastTick
      · left
        rw [SingleTimerSender.tick_of_running timed.inStep buffer running]
      · right
        refine ⟨first, rfl, ?_⟩
        rw [SingleTimerSender.tick_of_expired timed buffer running]
        rfl

/-- **The countdowns of the outstanding segments are one timer.**  In every
play of a sender in which the backed-off timeout stays below `2 ^ 32`, it
shows and sends exactly what the reference with a single timer does, call by
call, and stops at the same fault if at any.  In every state it reaches, a
tick sends at most one segment, the oldest outstanding one. -/
theorem countdowns_refine_single_timer (capacity : Capacity) (retxTimeout : UInt16)
    (isn : WrappingInt32) (calls : List SenderCall)
    (low : PlayMeets TCPSender.perform TCPSender.KeepsRtoLow
      (TCPSender.new capacity retxTimeout isn) calls) :
    (play TCPSender.perform (TCPSender.new capacity retxTimeout isn) calls).1 =
        (play SingleTimerSender.perform (SingleTimerSender.new capacity retxTimeout isn)
          calls).1 ∧
      EndsAlike SingleTimerSender.Tracks
        (play TCPSender.perform (TCPSender.new capacity retxTimeout isn) calls).2
        (play SingleTimerSender.perform (SingleTimerSender.new capacity retxTimeout isn)
          calls).2 ∧
      forall sender,
        (play TCPSender.perform (TCPSender.new capacity retxTimeout isn) calls).2 = .ok sender ->
        forall msSinceLastTick,
          (sender.tick msSinceLastTick).segmentsOut = sender.segmentsOut ∨
            Exists fun oldest => sender.window.buffer[0]? = some oldest ∧
              (sender.tick msSinceLastTick).segmentsOut =
                sender.segmentsOut ++ [oldest.segment] := by
  rcases play_simulates_of_meets SingleTimerSender.Tracks id id
    (fun _ _ made tracks keeps => tracks.perform made keeps)
    (SingleTimerSender.new_tracks capacity retxTimeout isn) low with ⟨answers, ends⟩
  rw [List.map_id] at answers ends
  rw [List.map_id] at answers
  refine ⟨answers.symm, ends, ?_⟩
  intro sender reached msSinceLastTick
  rw [reached] at ends
  generalize (play SingleTimerSender.perform _ calls).2 = other at ends
  cases ends with
  | state tracks => exact tracks.timed.tick_sends msSinceLastTick

/-- A SYN whose timer runs out twice, then the acknowledgment of it. -/
theorem countdowns_refine_single_timer_syn :
    let calls : List SenderCall :=
      [.fillWindow, .tick 999, .tick 1, .tick 2000, .ackReceived ⟨1⟩ 0, .write [97], .fillWindow,
        .tick 1000]
    (play TCPSender.perform (TCPSender.new ⟨4, by decide⟩ 1000 ⟨0⟩) calls).1 =
        (play SingleTimerSender.perform (SingleTimerSender.new ⟨4, by decide⟩ 1000 ⟨0⟩)
          calls).1 ∧
      (play TCPSender.perform (TCPSender.new ⟨4, by decide⟩ 1000 ⟨0⟩) calls).1.map
          (fun view => view.rto) = [1000, 1000, 2000, 4000, 1000, 1000, 1000, 1000] := by
  intro calls
  have low : PlayMeets TCPSender.perform TCPSender.KeepsRtoLow
      (TCPSender.new ⟨4, by decide⟩ 1000 ⟨0⟩) calls := by
    decide
  exact ⟨(countdowns_refine_single_timer ⟨4, by decide⟩ 1000 ⟨0⟩ calls low).1, by decide⟩

end Tcp
end Sponge
