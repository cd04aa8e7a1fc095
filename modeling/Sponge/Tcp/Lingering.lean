import Sponge.Tcp.AckForwarding
import Sponge.Tcp.Departures
import Sponge.Tcp.Filling

namespace Sponge
namespace Tcp

open Foundation Bytes

/-!
# How long TIME_WAIT lasts

A connection in TIME_WAIT has a sender with nothing left to do: everything up to
its FIN is acknowledged, so that nothing is outstanding, no countdown runs and no
retransmission is counted.  None of the operations changes that, and the receiver
is not asked any more.  What remains is the clock, which a tick moves on and every
segment sets back.  It counts in a word, so the wait is over once the milliseconds
since the last segment reach ten timeouts modulo `2 ^ 64`.
-/

/-- What an operation makes of the time since a segment was received. -/
def waited (time : Nat) : ConnectionOp -> Nat
  | .owner (.tick msSinceLastTick) => time + msSinceLastTick
  | .owner _ => time
  | .segmentReceived _ => 0

/-- The milliseconds ticked since a segment was received last. -/
def sinceHeard (ops : List ConnectionOp) : Nat :=
  ops.foldl waited 0

namespace TCPSender

/-! ## Retransmissions are counted while something is outstanding -/

/-- With everything acknowledged no retransmission is counted. -/
def Unhurried (sender : TCPSender) : Prop :=
  sender.window.firstSeqno = sender.window.nextSeqno -> sender.consecutiveRetransmissionCount = 0

theorem Sends.consecutiveRetransmissionCount_eq {sender final : TCPSender}
    {segments : List TCPSegment} (sends : Sends sender segments final) :
    final.consecutiveRetransmissionCount = sender.consecutiveRetransmissionCount := by
  induction sends with
  | rest sender => rfl
  | syn closed room onward ih => exact ih
  | data may onward ih => exact ih

/-- An acknowledgment of new data sets the counter back, any other leaves it. -/
theorem takeAck_consecutiveRetransmissionCount {sender updated : TCPSender}
    {ackno : WrappingInt32} {windowSize : UInt16}
    (taken : sender.takeAck ackno windowSize = .ok updated) :
    updated.consecutiveRetransmissionCount = 0 ∨
      updated.consecutiveRetransmissionCount = sender.consecutiveRetransmissionCount ∧
        updated.window.firstSeqno = sender.window.firstSeqno := by
  rcases takeAck_cases taken with ⟨_, rfl⟩ | ⟨_, _, rfl⟩ | ⟨_, _, buffer, _, rfl⟩
  · exact Or.inr ⟨rfl, rfl⟩
  · exact Or.inr ⟨rfl, rfl⟩
  · exact Or.inl rfl

/-- With everything acknowledged nothing is outstanding. -/
theorem Queued.buffer_nil {sender : TCPSender} (queued : sender.Queued)
    (all : sender.window.firstSeqno = sender.window.nextSeqno) : sender.window.buffer = [] := by
  rcases queued with ⟨⟨start, retains⟩, _⟩
  cases shape : sender.window.buffer with
  | nil => rfl
  | cons entry rest =>
      have member : entry.segment ∈ sender.window.outstanding := by
        unfold TCPSendingWindow.outstanding
        rw [shape]
        exact List.mem_cons_self
      rcases Retains.mem retains member with ⟨place, _, above, within⟩
      omega

theorem Unhurried.sends {sender final : TCPSender} {segments : List TCPSegment}
    (unhurried : sender.Unhurried) (queued : sender.Queued)
    (sends : Sends sender segments final) : final.Unhurried := by
  have ordered := queued.ordered
  have onward := sends.frame.nextSeqno_le
  intro all
  rw [sends.frame.firstSeqno_eq] at all
  rw [sends.consecutiveRetransmissionCount_eq]
  exact unhurried (by omega)

theorem Unhurried.tick {sender : TCPSender} (unhurried : sender.Unhurried)
    (queued : sender.Queued) (msSinceLastTick : Nat) :
    (sender.tick msSinceLastTick).Unhurried := by
  have ticked := sender.tick_spec msSinceLastTick
  intro all
  rw [ticked.firstSeqno_eq, ticked.nextSeqno_eq] at all
  rw [tick_of_buffer_nil (queued.buffer_nil all)]
  exact unhurried all

theorem Unhurried.takeAck {sender updated : TCPSender} {ackno : WrappingInt32}
    {windowSize : UInt16} (unhurried : sender.Unhurried)
    (taken : sender.takeAck ackno windowSize = .ok updated) : updated.Unhurried := by
  intro all
  rcases takeAck_consecutiveRetransmissionCount taken with none | ⟨same, first_eq⟩
  · exact none
  · rw [first_eq, (takeAck_spec taken).nextSeqno_eq] at all
    exact same.trans (unhurried all)

/-! ## A sender with nothing left to do -/

/-- Everything up to the FIN is acknowledged. -/
structure Drained (sender : TCPSender) : Prop where
  composed : sender.Composed
  queued : sender.Queued
  acked : 0 < sender.window.firstSeqno
  finOut : sender.FinOut
  all : sender.window.firstSeqno = sender.window.nextSeqno
  unhurried : sender.consecutiveRetransmissionCount = 0

theorem Drained.frame {sender updated : TCPSender} (drained : sender.Drained)
    (stream_eq : updated.stream = sender.stream) (window_eq : updated.window = sender.window)
    (count_eq : updated.consecutiveRetransmissionCount = sender.consecutiveRetransmissionCount) :
    updated.Drained where
  composed := drained.composed.alike (alike_of_window stream_eq window_eq)
  queued := by
    unfold Queued
    rw [window_eq]
    exact drained.queued
  acked := window_eq ▸ drained.acked
  finOut := drained.finOut.frame stream_eq (congrArg TCPSendingWindow.nextSeqno window_eq)
  all := window_eq ▸ drained.all
  unhurried := count_eq.trans drained.unhurried

theorem Drained.write {sender : TCPSender} (drained : sender.Drained) (data : List UInt8) :
    { sender with stream := (sender.stream.write data).1 }.Drained where
  composed := drained.composed.write data
  queued := drained.queued
  acked := drained.acked
  finOut := drained.finOut.write data
  all := drained.all
  unhurried := drained.unhurried

theorem Drained.endInput {sender : TCPSender} (drained : sender.Drained) :
    { sender with stream := sender.stream.endInput }.Drained where
  composed := drained.composed.endInput
  queued := drained.queued
  acked := drained.acked
  finOut := drained.finOut.endInput
  all := drained.all
  unhurried := drained.unhurried

/-- Filling the window does nothing. -/
theorem Drained.fillWindow_eq {sender : TCPSender} (drained : sender.Drained) :
    sender.fillWindow = .ok sender := by
  have opened : sender.state ≠ .closed := by
    intro closed
    have unused := ((state_closed_iff sender).mp closed).2
    have acked := drained.acked
    have all := drained.all
    omega
  refine fillWindow_of_off opened fun on => ?_
  exact not_maySend_of_finished drained.composed.noError drained.composed.ordered
    drained.finOut.eof drained.finOut.used drained.acked (on.maySend opened)

/-- No acknowledgment finds anything to do. -/
theorem Drained.ackReceived {sender : TCPSender} (drained : sender.Drained)
    (low : sender.window.nextSeqno < 2 ^ 31) (ackno : WrappingInt32) (windowSize : UInt16) :
    Exists fun updated => sender.ackReceived ackno windowSize = .ok updated ∧ updated.Drained ∧
      updated.window.nextSeqno = sender.window.nextSeqno := by
  rcases drained.queued.takeAck_ok ackno windowSize low with ⟨updated, taken⟩
  have took := takeAck_spec taken
  have order := took.ordered drained.composed.ordered
  have all := drained.all
  have next_eq := took.nextSeqno_eq
  have still : updated.Drained := by
    refine ⟨drained.composed.tookAck took, drained.queued.tookAck took low,
      Nat.lt_of_lt_of_le drained.acked order.1, drained.finOut.frame took.stream_eq next_eq, ?_, ?_⟩
    · have := order.2
      omega
    · rcases takeAck_consecutiveRetransmissionCount taken with none | ⟨same, _⟩
      · exact none
      · exact same.trans drained.unhurried
  refine ⟨updated, ?_, still, next_eq⟩
  unfold TCPSender.ackReceived
  rw [taken]
  exact still.fillWindow_eq

theorem Drained.tick_eq {sender : TCPSender} (drained : sender.Drained) (msSinceLastTick : Nat) :
    sender.tick msSinceLastTick = sender :=
  tick_of_buffer_nil (drained.queued.buffer_nil drained.all) msSinceLastTick

end TCPSender

namespace TCPConnection

section

variable {connection final : TCPConnection} {segment : TCPSegment} {number : Nat}

/-! ## The clock -/

theorem clock_keptUntimed (cfg : TCPConfig) (time : Nat) :
    KeptUntimed (fun connection =>
      connection.cfg = cfg ∧ connection.timeSinceLastSegmentReceived = time) where
  flags := fun _ _ _ kept => kept
  collect := by
    intro connection final kept done
    rcases collect_spec done with ⟨filled, _, rfl⟩
    exact kept
  push := by
    intro connection final kept done
    rcases pushAck_spec done with ⟨ackno, _, rfl⟩
    exact kept
  queue := by
    intro connection final kept done
    rcases queueAck_spec done with ⟨ackno, _, rfl⟩
    exact kept
  empty := fun _ kept => kept
  reset := fun _ kept => kept
  tickSender := fun _ _ kept => kept
  pushRst := fun _ kept => kept

/-- The clock counts the time since a segment was received, in a word. -/
theorem step_clock {op : ConnectionOp} {time : Nat}
    (clock : connection.timeSinceLastSegmentReceived = time % 2 ^ 64)
    (taken : connection.step op = .ok final) :
    final.cfg = connection.cfg ∧ final.timeSinceLastSegmentReceived = waited time op % 2 ^ 64 := by
  have parts := clock_keptUntimed connection.cfg
  cases op with
  | segmentReceived segment =>
      refine segmentReceived_keeps_untimed (parts 0) (fun _ _ _ kept => kept) ?_ ⟨rfl, rfl⟩ taken
      intro other acked _ kept takes
      rcases takeAck_spec takes with ⟨sender, _, rfl⟩
      exact kept
  | owner op =>
      cases op with
      | connect => exact (parts _).collect connection final ⟨rfl, clock⟩ taken
      | write data =>
          rcases bind_ok taken with ⟨⟨collected, count⟩, writes, rest⟩
          cases rest
          exact (parts _).collect (connection.wrote data) _ ⟨rfl, clock⟩ (write_spec writes).2
      | endInputStream => exact (parts _).collect connection.ended final ⟨rfl, clock⟩ taken
      | tick msSinceLastTick =>
          refine tick_keeps_untimed (parts _) ⟨rfl, ?_⟩ taken
          dsimp only
          rw [clock, Nat.mod_add_mod]
          rfl
      | popInbound length =>
          cases taken
          exact ⟨rfl, clock⟩

theorem sinceHeard_snoc (ops : List ConnectionOp) (op : ConnectionOp) :
    sinceHeard (ops ++ [op]) = waited (sinceHeard ops) op := by
  unfold sinceHeard
  rw [List.foldl_append]
  rfl

/-- Over a run the clock goes on from what was counted before. -/
theorem run_clock {earlier later : List ConnectionOp}
    (clock : connection.timeSinceLastSegmentReceived = sinceHeard earlier % 2 ^ 64)
    (done : run step connection later = .ok final) :
    final.cfg = connection.cfg ∧
      final.timeSinceLastSegmentReceived = sinceHeard (earlier ++ later) % 2 ^ 64 := by
  induction later generalizing connection earlier with
  | nil =>
      cases done
      rw [List.append_nil]
      exact ⟨rfl, clock⟩
  | cons op later ih =>
      rcases run_cons done with ⟨next, taken, rest⟩
      rcases step_clock clock taken with ⟨cfg_eq, moved⟩
      rw [← sinceHeard_snoc] at moved
      rcases ih moved rest with ⟨kept, reached⟩
      rw [List.append_assoc] at reached
      exact ⟨kept.trans cfg_eq, reached⟩

/-! ## The counter over a run -/

theorem unhurried_keptByParts :
    KeptByParts (fun connection => connection.sender.Queued ∧ connection.sender.Unhurried) where
  flags := fun _ _ _ kept => kept
  clock := fun _ _ kept => kept
  collect := by
    intro connection final kept done
    refine ⟨queued_keptByParts.collect connection final kept.1 done, ?_⟩
    rcases collect_spec done with ⟨filled, fills, rfl⟩
    rcases TCPSender.fillWindow_sends fills with ⟨segments, sends⟩
    have still : filled.Unhurried := kept.2.sends kept.1 sends
    exact still
  push := by
    intro connection final kept done
    rcases pushAck_spec done with ⟨ackno, _, rfl⟩
    exact kept
  queue := by
    intro connection final kept done
    rcases queueAck_spec done with ⟨ackno, _, rfl⟩
    exact kept
  empty := fun _ kept => kept
  reset := fun _ kept => kept
  tickSender := fun connection msSinceLastTick kept =>
    ⟨queued_keptByParts.tickSender connection msSinceLastTick kept.1,
      kept.2.tick kept.1 msSinceLastTick⟩
  pushRst := fun _ kept => kept

theorem takeAck_unhurried
    (kept : connection.sender.Queued ∧ connection.sender.Unhurried)
    (low : connection.sender.window.nextSeqno < 2 ^ 31)
    (taken : connection.takeAck segment = .ok final) :
    final.sender.Queued ∧ final.sender.Unhurried := by
  refine ⟨takeAck_queued kept.1 low taken, ?_⟩
  rcases takeAck_spec taken with ⟨filled, received, rfl⟩
  rcases TCPSender.ackReceived_parts received with ⟨updated, segments, took, sends⟩
  exact (kept.2.takeAck took).sends (kept.1.tookAck (TCPSender.takeAck_spec took) low) sends

theorem step_unhurried {op : ConnectionOp}
    (kept : connection.sender.Queued ∧ connection.sender.Unhurried)
    (taken : connection.step op = .ok final) (low : final.sender.window.nextSeqno < 2 ^ 31) :
    final.sender.Queued ∧ final.sender.Unhurried := by
  cases op with
  | owner op =>
      exact perform_keeps unhurried_keptByParts (fun _ => kept) kept (fun _ => kept) kept taken
  | segmentReceived segment =>
      refine segmentReceived_keeps (below_keptByParts unhurried_keptByParts (2 ^ 31)) ?_ ?_
        (fun _ => kept) taken low
      · intro other _ _ still
        exact still
      · intro other acked _ still takes below
        have before := Nat.lt_of_le_of_lt (takeAck_nextSeqno_le takes) below
        exact takeAck_unhurried (still before) before takes

/-! ## A connection in TIME_WAIT -/

/-- A connection that waits, with the next sequence number given. -/
structure Lingering (number : Nat) (connection : TCPConnection) : Prop where
  wf : connection.receiver.reassembler.Wf
  noError : connection.receiver.streamOut.error = false
  isSet : connection.receiver.isSet = true
  ended : connection.receiver.streamOut.endFlag = true
  active : connection.active = true
  lingers : connection.lingerAfterStreamsFinish = true
  drained : connection.sender.Drained
  number_eq : connection.sender.window.nextSeqno = number
  low : number < 2 ^ 31

theorem Lingering.frame (lingering : connection.Lingering number)
    (receiver_eq : final.receiver = connection.receiver)
    (active_eq : final.active = connection.active)
    (linger_eq : final.lingerAfterStreamsFinish = connection.lingerAfterStreamsFinish)
    (drained : final.sender.Drained)
    (next_eq : final.sender.window.nextSeqno = connection.sender.window.nextSeqno) :
    final.Lingering number := by
  refine ⟨?_, ?_, ?_, ?_, active_eq.trans lingering.active, linger_eq.trans lingering.lingers,
    drained, next_eq.trans lingering.number_eq, lingering.low⟩
  · rw [receiver_eq]
    exact lingering.wf
  · rw [receiver_eq]
    exact lingering.noError
  · rw [receiver_eq]
    exact lingering.isSet
  · rw [receiver_eq]
    exact lingering.ended

theorem Lingering.sound (lingering : connection.Lingering number) : connection.Sound :=
  ⟨lingering.wf, lingering.noError, lingering.drained.composed⟩

theorem Lingering.state_eq (lingering : connection.Lingering number) :
    connection.state = .ofState .timeWait := by
  have drained := lingering.drained
  rcases lingering.sound.closing_state lingering.isSet lingering.ended lingering.active
    lingering.lingers drained.acked drained.finOut with closing | ⟨waits, _⟩
  · have summary : TCPState.senderSummary connection.sender = .finSent :=
      congrArg TCPState.sender closing
    have all := drained.all
    rcases drained.composed.summary_cases with ⟨_, other⟩ | ⟨_, _, other⟩ | ⟨_, _, other⟩ |
      ⟨_, _, waiting, _⟩ | ⟨_, _, _, other⟩
    · cases other.symm.trans summary
    · cases other.symm.trans summary
    · cases other.symm.trans summary
    · omega
    · cases other.symm.trans summary
  · exact waits

/-- A part of a method succeeds and the connection goes on waiting. -/
def GoesOnWaiting (number : Nat) (outcome : Except Fault TCPConnection) : Prop :=
  Exists fun final => outcome = .ok final ∧ final.Lingering number

theorem Lingering.collect (lingering : connection.Lingering number) :
    GoesOnWaiting number connection.collectSenderSegmentsOut := by
  have drained := lingering.drained
  have done : connection.collectSenderSegmentsOut = .ok { connection with
      sender := { connection.sender with segmentsOut := [] }
      segmentsOut := connection.segmentsOut ++
        connection.sender.segmentsOut.map connection.stamped } :=
    collect_of_fills drained.fillWindow_eq
  exact ⟨_, done, lingering.frame rfl rfl rfl (drained.frame rfl rfl rfl) rfl⟩

theorem Lingering.ackAgain (lingering : connection.Lingering number) (segment : TCPSegment) :
    GoesOnWaiting number (connection.ackAgain segment) := by
  have low := lingering.number_eq ▸ lingering.low
  rcases lingering.drained.ackReceived low segment.header.ackno segment.header.win with
    ⟨updated, received, drained, next_eq⟩
  have taken : connection.takeAck segment = .ok { connection with sender := updated } := by
    unfold takeAck
    rw [received]
  have still : { connection with sender := updated }.Lingering number :=
    lingering.frame rfl rfl rfl drained next_eq
  rcases pushAck_goesThrough still.drained.queued still.isSet with ⟨pushed, pushes, _⟩
  refine ⟨pushed, ?_, ?_⟩
  · unfold TCPConnection.ackAgain
    rw [taken]
    exact pushes
  · rcases pushAck_spec pushes with ⟨ackno, _, rfl⟩
    exact still.frame rfl rfl rfl drained rfl

theorem Lingering.inTimeWait (lingering : connection.Lingering number) (segment : TCPSegment) :
    GoesOnWaiting number (connection.inTimeWait segment) := by
  unfold TCPConnection.inTimeWait
  split
  · exact lingering.ackAgain segment
  · exact ⟨connection, rfl, lingering⟩

theorem Lingering.keepAlive (lingering : connection.Lingering number) (segment : TCPSegment) :
    GoesOnWaiting number (connection.keepAlive segment) := by
  unfold TCPConnection.keepAlive
  split
  · exact ⟨connection, rfl, lingering⟩
  · split
    · have sent : { connection with sender := connection.sender.sendEmptySegment }.Lingering
          number :=
        lingering.frame rfl rfl rfl (lingering.drained.frame rfl rfl rfl) rfl
      exact sent.collect
    · exact ⟨connection, rfl, lingering⟩

/-- Whatever is received, unless it is a reset, the connection goes on waiting. -/
theorem Lingering.segmentReceived (lingering : connection.Lingering number)
    (noRst : segment.header.rst = false) :
    GoesOnWaiting number (connection.segmentReceived segment) := by
  have heard : connection.heard.Lingering number :=
    lingering.frame rfl rfl rfl lingering.drained rfl
  rcases heard.inTimeWait segment with ⟨middle, handled, still⟩
  rcases still.keepAlive segment with ⟨final, answered, waits⟩
  refine ⟨final, ?_, waits⟩
  unfold TCPConnection.segmentReceived
  rw [noRst, if_neg Bool.false_ne_true, dispatch_eq segment heard.state_eq]
  unfold handle
  dsimp only
  rw [handled]
  exact answered

theorem Lingering.wrote (lingering : connection.Lingering number) (data : List UInt8) :
    (connection.wrote data).Lingering number :=
  lingering.frame rfl rfl rfl (lingering.drained.write data) rfl

theorem Lingering.inputEnded (lingering : connection.Lingering number) :
    connection.ended.Lingering number :=
  lingering.frame rfl rfl rfl lingering.drained.endInput rfl

theorem Lingering.popInbound (lingering : connection.Lingering number) (length : Nat) :
    (connection.popInbound length).Lingering number where
  wf := lingering.wf.popOutput length
  noError := lingering.noError
  isSet := lingering.isSet
  ended := lingering.ended
  active := lingering.active
  lingers := lingering.lingers
  drained := lingering.drained
  number_eq := lingering.number_eq
  low := lingering.low

/-! ## The end of the wait -/

theorem Lingering.elapsed (lingering : connection.Lingering number) (msSinceLastTick : Nat) :
    (connection.elapsed msSinceLastTick).Lingering number :=
  lingering.frame rfl rfl rfl lingering.drained rfl

/-- A tick moves the clock and then looks at it. -/
theorem Lingering.tick_eq (lingering : connection.Lingering number) (msSinceLastTick : Nat) :
    connection.tick msSinceLastTick = .ok (connection.elapsed msSinceLastTick).stopLingering := by
  have drained := lingering.drained
  unfold TCPConnection.tick
  dsimp only
  generalize stopped : TCPConnection.stopLingering _ = lingered
  have same : lingered.sender = connection.sender := by
    rw [← stopped, stopLingering_sender]
  have idle : lingered.sender.tick msSinceLastTick = lingered.sender := by
    rw [same, drained.tick_eq]
  have few : ¬ lingered.sender.consecutiveRetransmissions > TCPConfig.maxRetxAttempts := by
    unfold TCPSender.consecutiveRetransmissions
    rw [same, drained.unhurried]
    decide
  have passes : ticksCollect connection.state = false := by
    rw [lingering.state_eq]
    rfl
  rw [idle, if_neg few, passes, if_neg Bool.false_ne_true, ← stopped]
  rfl

/-- Before its time has come, the connection goes on waiting. -/
theorem Lingering.tick_early (lingering : connection.Lingering number) {msSinceLastTick : Nat}
    (early : (connection.timeSinceLastSegmentReceived + msSinceLastTick) % 2 ^ 64 <
      10 * connection.cfg.rtTimeout.toNat) :
    GoesOnWaiting number (connection.tick msSinceLastTick) := by
  refine ⟨connection.elapsed msSinceLastTick, ?_, lingering.elapsed msSinceLastTick⟩
  rw [lingering.tick_eq]
  unfold TCPConnection.stopLingering
  exact congrArg Except.ok (if_neg fun stops => Nat.not_lt_of_ge stops.2.2 early)

/-- When its time has come, the connection is closed. -/
theorem Lingering.tick_late (lingering : connection.Lingering number) {msSinceLastTick : Nat}
    (late : 10 * connection.cfg.rtTimeout.toNat ≤
      (connection.timeSinceLastSegmentReceived + msSinceLastTick) % 2 ^ 64) :
    Exists fun final => connection.tick msSinceLastTick = .ok final ∧
      final.state = .ofState .closed ∧ final.active = false ∧
      final.sender.window.nextSeqno = number := by
  have waits := lingering.elapsed msSinceLastTick
  have stops : (connection.elapsed msSinceLastTick).stopLingering =
      { connection.elapsed msSinceLastTick with
        lingerAfterStreamsFinish := false
        active := false } := by
    unfold TCPConnection.stopLingering
    exact if_pos ⟨waits.state_eq, waits.lingers, late⟩
  refine ⟨_, lingering.tick_eq msSinceLastTick, ?_⟩
  rw [stops]
  have drained := lingering.drained
  have sound : { connection.elapsed msSinceLastTick with
      lingerAfterStreamsFinish := false
      active := false }.Sound := ⟨waits.wf, waits.noError, drained.composed⟩
  exact ⟨sound.closed_state waits.isSet waits.ended rfl drained.acked drained.finOut drained.all,
    rfl, lingering.number_eq⟩

/-! ## Runs -/

theorem Lingering.step {op : ConnectionOp} (lingering : connection.Lingering number)
    (noRst : forall segment, op = .segmentReceived segment -> segment.header.rst = false)
    (early : forall msSinceLastTick, op = .owner (.tick msSinceLastTick) ->
      (connection.timeSinceLastSegmentReceived + msSinceLastTick) % 2 ^ 64 <
        10 * connection.cfg.rtTimeout.toNat) :
    GoesOnWaiting number (connection.step op) := by
  cases op with
  | segmentReceived segment => exact lingering.segmentReceived (noRst segment rfl)
  | owner op =>
      cases op with
      | connect => exact lingering.collect
      | write data =>
          rcases (lingering.wrote data).collect with ⟨collected, done, still⟩
          have writes : connection.write data =
              .ok (collected, (connection.sender.stream.write data).2) := by
            unfold write
            dsimp only
            unfold TCPConnection.wrote at done
            rw [done]
          refine ⟨collected, ?_, still⟩
          unfold TCPConnection.step perform
          dsimp only
          rw [writes]
          rfl
      | endInputStream => exact lingering.inputEnded.collect
      | tick msSinceLastTick => exact lingering.tick_early (early msSinceLastTick rfl)
      | popInbound length => exact ⟨_, rfl, lingering.popInbound length⟩

/-- The operation does not end a wait that has lasted for the time given. -/
def InTime (limit time : Nat) : ConnectionOp -> Prop
  | .owner (.tick msSinceLastTick) => (time + msSinceLastTick) % 2 ^ 64 < limit
  | _ => True

instance (limit time : Nat) (op : ConnectionOp) : Decidable (InTime limit time op) :=
  match op with
  | .owner (.tick _) => inferInstanceAs (Decidable (_ < _))
  | .owner .connect | .owner (.write _) | .owner .endInputStream | .owner (.popInbound _)
  | .segmentReceived _ => .isTrue trivial

/-- None of the later operations ends the wait. -/
def Early (limit : Nat) (earlier later : List ConnectionOp) : Prop :=
  forall before op, before ++ [op] <+: later -> InTime limit (sinceHeard (earlier ++ before)) op

theorem early_nil (limit : Nat) (earlier : List ConnectionOp) : Early limit earlier [] := by
  intro before op inside
  exact absurd (List.prefix_nil.mp inside) (by simp)

theorem early_cons_iff {limit : Nat} {earlier later : List ConnectionOp} {op : ConnectionOp} :
    Early limit earlier (op :: later) <->
      InTime limit (sinceHeard earlier) op ∧ Early limit (earlier ++ [op]) later := by
  constructor
  · intro early
    constructor
    · have here := early [] op (List.prefix_append [op] later)
      rwa [List.append_nil] at here
    · intro before other inside
      rw [List.append_assoc]
      exact early (op :: before) other (List.cons_prefix_cons.mpr ⟨rfl, inside⟩)
  · rintro ⟨here, onward⟩ before other inside
    cases before with
    | nil =>
        rcases List.cons_prefix_cons.mp inside with ⟨rfl, _⟩
        rwa [List.append_nil]
    | cons first before =>
        rcases List.cons_prefix_cons.mp inside with ⟨rfl, inner⟩
        have later := onward before other inner
        rwa [List.append_assoc] at later

instance decidableEarly (limit : Nat) :
    forall earlier later, Decidable (Early limit earlier later)
  | earlier, [] => .isTrue (early_nil limit earlier)
  | earlier, op :: later =>
      have := decidableEarly limit (earlier ++ [op]) later
      decidable_of_iff _ early_cons_iff.symm

/-- As long as no tick ends the wait, the connection goes on waiting. -/
theorem Lingering.run {earlier later : List ConnectionOp} (lingering : connection.Lingering number)
    (clock : connection.timeSinceLastSegmentReceived = sinceHeard earlier % 2 ^ 64)
    (noRst : forall segment, .segmentReceived segment ∈ later -> segment.header.rst = false)
    (early : Early (10 * connection.cfg.rtTimeout.toNat) earlier later) :
    GoesOnWaiting number (Foundation.run TCPConnection.step connection later) := by
  induction later generalizing connection earlier with
  | nil => exact ⟨connection, rfl, lingering⟩
  | cons op later ih =>
      have goesOn : GoesOnWaiting number (connection.step op) := by
        apply lingering.step
        · intro segment same
          exact noRst segment (same ▸ List.mem_cons_self)
        · intro msSinceLastTick same
          rw [same] at early
          rw [clock, Nat.mod_add_mod]
          exact (early_cons_iff.mp early).1
      rcases goesOn with ⟨next, taken, still⟩
      rcases step_clock clock taken with ⟨cfg_eq, moved⟩
      rw [← sinceHeard_snoc] at moved
      have onward := (early_cons_iff.mp early).2
      rw [← cfg_eq] at onward
      rw [run_after taken]
      exact ih still moved (fun segment member => noRst segment (List.mem_cons_of_mem op member))
        onward

/-- A sound connection in TIME_WAIT waits. -/
theorem Alive.lingering (alive : connection.Alive) (waits : connection.state = .ofState .timeWait)
    (kept : connection.sender.Queued ∧ connection.sender.Unhurried)
    (low : connection.sender.window.nextSeqno < 2 ^ 31) :
    connection.Lingering connection.sender.window.nextSeqno := by
  have summary : TCPState.senderSummary connection.sender = .finAcked :=
    congrArg TCPState.sender waits
  have isSet := isSet_of_state waits nofun nofun nofun
  have ended := alive.sound.ended_of_summary isSet (congrArg TCPState.receiver waits)
  have lingers : (if connection.active then connection.lingerAfterStreamsFinish else false) = true :=
    congrArg TCPState.lingerAfterStreamsFinish waits
  rw [alive.active, if_pos rfl] at lingers
  rcases alive.sound.composed.summary_cases with ⟨_, other⟩ | ⟨_, _, other⟩ | ⟨_, _, other⟩ |
    ⟨_, _, _, other⟩ | ⟨acked, finOut, all, _⟩
  · cases other.symm.trans summary
  · cases other.symm.trans summary
  · cases other.symm.trans summary
  · cases other.symm.trans summary
  · exact ⟨alive.sound.wf, alive.sound.noError, isSet, ended, alive.active, lingers,
      ⟨alive.sound.composed, kept.1, acked, finOut, all, kept.2 all⟩, rfl, low⟩

theorem run_unhurried {cfg : TCPConfig} {random : WrappingInt32} {ops : List ConnectionOp}
    (done : Foundation.run TCPConnection.step (new cfg random) ops = .ok connection)
    (low : connection.sender.window.nextSeqno < 2 ^ 31) :
    connection.sender.Queued ∧ connection.sender.Unhurried := by
  apply run_invariant_within
    (fun other : TCPConnection => other.sender.window.nextSeqno < 2 ^ 31)
    (fun other => other.sender.Queued ∧ other.sender.Unhurried)
    _ _ ⟨new_queued cfg random, fun _ => rfl⟩ (runMeets_of_forall (fun _ _ => trivial) _ _) done low
  · intro state label next taken below
    exact Nat.lt_of_le_of_lt (step_nextSeqno_le taken) below
  · intro state label next kept _ taken below
    exact step_unhurried kept taken below

end

/-- **How long TIME_WAIT lasts.**  A connection in TIME_WAIT, below `2 ^ 31` and with
whatever follows but a reset, stays in TIME_WAIT and active as long as no tick ends
the wait.  The first tick behind which the milliseconds since the last segment, modulo
`2 ^ 64`, reach ten timeouts closes it.  No sequence number is used in between. -/
theorem time_wait_lasts (cfg : TCPConfig) (random : WrappingInt32)
    (ops later : List ConnectionOp) (connection : TCPConnection)
    (done : run step (new cfg random) ops = .ok connection)
    (waits : connection.state = .ofState .timeWait)
    (low : connection.sender.nextSeqnoAbsolute < 2 ^ 31)
    (noRst : forall segment, .segmentReceived segment ∈ later -> segment.header.rst = false)
    (early : Early (10 * cfg.rtTimeout.toNat) ops later) :
    (Exists fun final => run step connection later = .ok final ∧
      final.state = .ofState .timeWait ∧ final.active = true ∧
      final.sender.nextSeqnoAbsolute = connection.sender.nextSeqnoAbsolute) ∧
    forall msSinceLastTick,
      10 * cfg.rtTimeout.toNat ≤
          sinceHeard (ops ++ later ++ [.owner (.tick msSinceLastTick)]) % 2 ^ 64 ->
        Exists fun final =>
          run step connection (later ++ [.owner (.tick msSinceLastTick)]) = .ok final ∧
            final.state = .ofState .closed ∧ final.active = false ∧
            final.sender.nextSeqnoAbsolute = connection.sender.nextSeqnoAbsolute := by
  have standing : connection.Standing :=
    run_invariant Standing (fun _ _ _ standing taken => standing.step taken)
      (new_standing cfg random) done
  have alive : connection.Alive := by
    cases standing with
    | failed failed => cases failed.state_eq.symm.trans waits
    | alive alive => exact alive
    | settled settled => cases settled.state_eq.symm.trans waits
  have lingering := alive.lingering waits (run_unhurried done low) low
  have start : (new cfg random).timeSinceLastSegmentReceived = sinceHeard [] % 2 ^ 64 := rfl
  rcases run_clock start done with ⟨cfg_eq, clock⟩
  change connection.cfg = cfg at cfg_eq
  have within := early
  rw [← cfg_eq] at within
  rcases lingering.run clock noRst within with ⟨final, ran, still⟩
  refine ⟨⟨final, ran, still.state_eq, still.active, still.number_eq⟩, ?_⟩
  intro msSinceLastTick late
  rcases run_clock clock ran with ⟨kept, reached⟩
  have due : 10 * final.cfg.rtTimeout.toNat ≤
      (final.timeSinceLastSegmentReceived + msSinceLastTick) % 2 ^ 64 := by
    rw [kept, cfg_eq, reached, Nat.mod_add_mod]
    rw [sinceHeard_snoc] at late
    exact late
  rcases still.tick_late due with ⟨closed, ticks, state_eq, inactive, next_eq⟩
  refine ⟨closed, ?_, state_eq, inactive, next_eq⟩
  rw [run_append ran]
  exact run_after ticks []

end TCPConnection

/-- A connection that closes first.  A repeated FIN in its TIME_WAIT, one
millisecond before the end, makes it wait from the beginning. -/
theorem time_wait_lasts_again :
    let cfg : TCPConfig := { recvCapacity := ⟨8, by decide⟩, sendCapacity := ⟨8, by decide⟩ }
    let fin : TCPSegment :=
      { header := { seqno := ⟨101⟩, ackno := ⟨2⟩, win := 10, fin := true, ack := true } }
    let ops : List ConnectionOp :=
      [.owner .connect,
        .segmentReceived
          { header := { seqno := ⟨100⟩, ackno := ⟨1⟩, win := 10, syn := true, ack := true } },
        .owner .endInputStream,
        .segmentReceived { header := { seqno := ⟨101⟩, ackno := ⟨2⟩, win := 10, ack := true } },
        .segmentReceived fin]
    let later : List ConnectionOp :=
      [.owner (.tick 9999), .owner (.write [5]), .segmentReceived fin, .owner (.tick 9999)]
    Exists fun connection =>
      run TCPConnection.step (TCPConnection.new cfg ⟨0⟩) ops = .ok connection ∧
        connection.state = .ofState .timeWait ∧
        (Exists fun final => run TCPConnection.step connection later = .ok final ∧
          final.state = .ofState .timeWait ∧ final.active = true) ∧
        Exists fun final =>
          run TCPConnection.step connection (later ++ [.owner (.tick 1)]) = .ok final ∧
            final.state = .ofState .closed ∧ final.active = false := by
  intro cfg fin ops later
  have checked : endsIn TCPConnection.step (fun connection => decide
      (connection.state = .ofState .timeWait ∧
        connection.sender.nextSeqnoAbsolute < 2 ^ 31))
      (TCPConnection.new cfg ⟨0⟩) ops = true := by
    decide +kernel
  rcases run_of_endsIn checked with ⟨connection, done, facts⟩
  rcases of_decide_eq_true facts with ⟨waits, low⟩
  have noRst : forall segment, .segmentReceived segment ∈ later -> segment.header.rst = false := by
    intro segment member
    simp [later] at member
    rw [member]
  have early : TCPConnection.Early (10 * cfg.rtTimeout.toNat) ops later := by decide +kernel
  rcases TCPConnection.time_wait_lasts cfg ⟨0⟩ ops later connection done waits low noRst early with
    ⟨⟨final, ran, state_eq, active, _⟩, closes⟩
  rcases closes 1 (by decide +kernel) with ⟨closed, ended, closed_eq, inactive, _⟩
  exact ⟨connection, done, waits, ⟨final, ran, state_eq, active⟩, closed, ended, closed_eq,
    inactive⟩

/-- The clock counts in a word: behind two ticks of together more than `2 ^ 64`
milliseconds a connection still waits. -/
theorem time_wait_outlasts :
    let cfg : TCPConfig := { recvCapacity := ⟨8, by decide⟩, sendCapacity := ⟨8, by decide⟩ }
    let ops : List ConnectionOp :=
      [.owner .connect,
        .segmentReceived
          { header := { seqno := ⟨100⟩, ackno := ⟨1⟩, win := 10, syn := true, ack := true } },
        .owner .endInputStream,
        .segmentReceived { header := { seqno := ⟨101⟩, ackno := ⟨2⟩, win := 10, ack := true } },
        .segmentReceived
          { header := { seqno := ⟨101⟩, ackno := ⟨2⟩, win := 10, fin := true, ack := true } }]
    let later : List ConnectionOp := [.owner (.tick 5), .owner (.tick (2 ^ 64 - 1))]
    Exists fun connection => Exists fun final =>
      run TCPConnection.step (TCPConnection.new cfg ⟨0⟩) ops = .ok connection ∧
        connection.state = .ofState .timeWait ∧
        10 * cfg.rtTimeout.toNat ≤ sinceHeard (ops ++ later) ∧
        run TCPConnection.step connection later = .ok final ∧
        final.state = .ofState .timeWait ∧ final.active = true := by
  intro cfg ops later
  have checked : endsIn TCPConnection.step (fun connection => decide
      (connection.state = .ofState .timeWait ∧
        endsIn TCPConnection.step (fun final => decide
          (final.state = .ofState .timeWait ∧ final.active = true)) connection later = true))
      (TCPConnection.new cfg ⟨0⟩) ops = true := by
    decide +kernel
  rcases run_of_endsIn checked with ⟨connection, done, facts⟩
  rcases of_decide_eq_true facts with ⟨waits, onward⟩
  rcases run_of_endsIn onward with ⟨final, ran, still⟩
  rcases of_decide_eq_true still with ⟨state_eq, active⟩
  exact ⟨connection, final, done, waits, by decide +kernel, ran, state_eq, active⟩

end Tcp
end Sponge
