import Sponge.Tcp.OfficialRuns

namespace Sponge
namespace Tcp

open Foundation Bytes

/-!
# How a connection ends

A connection is alive, failed or over.  It is over when the inbound stream has
ended and the outbound one has been acknowledged up to its FIN.  Of an alive
connection this much is known whatever it has received: once it does not
linger any more, its SYN is acknowledged and its FIN is out at most once.  So
when LAST_ACK takes the sender's word that the FIN is acknowledged, nothing is
in flight.
-/

namespace TCPSender

/-- The SYN is acknowledged, and the FIN is out at most once. -/
def Departs (sender : TCPSender) : Prop :=
  0 < sender.window.firstSeqno ∧ (sender.Unfinished ∨ sender.Finished)

theorem Departs.frame {sender updated : TCPSender} (departs : sender.Departs)
    (stream_eq : updated.stream = sender.stream)
    (nextSeqno_eq : updated.window.nextSeqno = sender.window.nextSeqno)
    (firstSeqno_le : sender.window.firstSeqno ≤ updated.window.firstSeqno) : updated.Departs := by
  refine ⟨Nat.lt_of_lt_of_le departs.1 firstSeqno_le, ?_⟩
  rcases departs.2 with unfinished | finished
  · exact Or.inl (unfinished.frame stream_eq nextSeqno_eq)
  · exact Or.inr (finished.frame stream_eq nextSeqno_eq)

theorem Departs.write {sender : TCPSender} (departs : sender.Departs) (data : List UInt8) :
    { sender with stream := (sender.stream.write data).1 }.Departs := by
  refine ⟨departs.1, ?_⟩
  rcases departs.2 with unfinished | finished
  · exact Or.inl (unfinished.write data)
  · exact Or.inr (finished.write data)

theorem Departs.endInput {sender : TCPSender} (departs : sender.Departs) :
    { sender with stream := sender.stream.endInput }.Departs := by
  refine ⟨departs.1, ?_⟩
  rcases departs.2 with unfinished | finished
  · exact Or.inl unfinished
  · exact Or.inr finished.endInput

theorem Departs.sends {sender final : TCPSender} {segments : List TCPSegment}
    (departs : sender.Departs) (composed : sender.Composed)
    (sends : Sends sender segments final) : final.Departs := by
  rcases departs with ⟨acked, unfinished | finished⟩
  · refine ⟨sends.frame.firstSeqno_eq ▸ acked, ?_⟩
    rcases sends.unfinished composed.noError composed.ordered acked unfinished with
      still | ⟨finished, _⟩
    · exact Or.inl still
    · exact Or.inr finished
  · rw [sends.rests_of_finished composed.noError composed.ordered acked finished]
    exact ⟨acked, Or.inr finished⟩

/-- If such a sender says that its FIN is acknowledged, then everything is. -/
theorem Departs.all_acked {sender : TCPSender} (departs : sender.Departs)
    (composed : sender.Composed) (state : sender.state = .finAcked) :
    sender.FinOut ∧ sender.window.firstSeqno = sender.window.nextSeqno := by
  rcases departs with ⟨acked, unfinished | finished⟩
  · rw [unfinished.state_eq composed.noError acked] at state
    cases state
  · exact ⟨finished.finOut, (TCPConnection.finAcked_iff composed acked finished).mp state⟩

end TCPSender

namespace TCPConnection

/-- An active connection with sound parts. -/
structure Alive (connection : TCPConnection) : Prop where
  sound : connection.Sound
  active : connection.active = true
  departs : connection.lingerAfterStreamsFinish = false -> connection.sender.Departs

/-- A connection that has ended cleanly. -/
structure Over (connection : TCPConnection) : Prop where
  sound : connection.Sound
  isSet : connection.receiver.isSet = true
  ended : connection.receiver.streamOut.endFlag = true
  inactive : connection.active = false
  acked : 0 < connection.sender.window.firstSeqno
  finOut : connection.sender.FinOut
  all : connection.sender.window.firstSeqno = connection.sender.window.nextSeqno

inductive Standing (connection : TCPConnection) : Prop where
  | failed (failed : connection.Failed)
  | alive (alive : connection.Alive)
  | settled (settled : connection.Over)

section

variable {connection final : TCPConnection} {segment : TCPSegment}

/-! ## A clean end is for good -/

theorem Over.carried (settled : connection.Over) (carried : Carried connection final) :
    final.Over := by
  have next_eq := carried.sender_alike.nextSeqno_eq
  have first_eq := carried.sender_alike.firstSeqno_eq
  refine ⟨settled.sound.carried carried, ?_, ?_, carried.active_eq.trans settled.inactive,
    first_eq ▸ settled.acked, settled.finOut.frame carried.sender_alike.stream_eq next_eq,
    first_eq.trans (settled.all.trans next_eq.symm)⟩
  · rw [carried.receiver_eq]
    exact settled.isSet
  · rw [carried.receiver_eq]
    exact settled.ended

theorem Over.collect (settled : connection.Over)
    (done : connection.collectSenderSegmentsOut = .ok final) : final.Over := by
  have composed := settled.sound.composed
  have rests := TCPSender.not_maySend_of_finished composed.noError composed.ordered
    settled.finOut.eof settled.finOut.used settled.acked
  have used : connection.sender.window.nextSeqno ≠ 0 := by
    have := settled.finOut.used
    omega
  exact settled.carried ((collects composed done).quiet used rests)

theorem Over.state_eq (settled : connection.Over) : connection.state = .ofState .closed :=
  settled.sound.closed_state settled.isSet settled.ended settled.inactive settled.acked settled.finOut settled.all

/-! ## Alive -/

theorem Alive.collect (alive : connection.Alive)
    (done : connection.collectSenderSegmentsOut = .ok final) : final.Alive := by
  have fills := (collects alive.sound.composed done).toFills
  refine ⟨fills.sound alive.sound, fills.active_eq.trans alive.active, ?_⟩
  intro leaves
  have departs := alive.departs (fills.linger_eq.symm.trans leaves)
  rcases collect_spec done with ⟨filled, filledWindow, rfl⟩
  rcases TCPSender.fillWindow_sends filledWindow with ⟨segments, sends⟩
  exact (departs.sends alive.sound.composed sends).frame rfl rfl (Nat.le_refl _)

theorem Alive.takeAck (alive : connection.Alive) (done : connection.takeAck segment = .ok final) :
    final.Alive := by
  have fills := (acks alive.sound.composed done).toFills
  refine ⟨fills.sound alive.sound, fills.active_eq.trans alive.active, ?_⟩
  intro leaves
  have departs := alive.departs (fills.linger_eq.symm.trans leaves)
  rcases takeAck_spec done with ⟨sender, received, rfl⟩
  rcases TCPSender.ackReceived_spec received with ⟨updated, segments, took, sends⟩
  have order := took.ordered alive.sound.composed.ordered
  exact (departs.frame took.stream_eq took.nextSeqno_eq order.1).sends
    (alive.sound.composed.tookAck took) sends

theorem Alive.carried (alive : connection.Alive) (carried : Carried connection final) :
    final.Alive := by
  refine ⟨alive.sound.carried carried, carried.active_eq.trans alive.active, ?_⟩
  intro leaves
  have alike := carried.sender_alike
  exact (alive.departs (carried.linger_eq.symm.trans leaves)).frame alike.stream_eq
    alike.nextSeqno_eq (Nat.le_of_eq alike.firstSeqno_eq.symm)

theorem Alive.takeSegment (alive : connection.Alive) (segment : TCPSegment) :
    (connection.takeSegment segment).Alive :=
  ⟨alive.sound.takeSegment segment, alive.active, alive.departs⟩

/-! ## Receiving a segment -/

theorem Alive.takeAndReply (alive : connection.Alive)
    (done : connection.takeAndReply segment = .ok final) : final.Alive := by
  unfold TCPConnection.takeAndReply at done
  split at done
  · rcases bind_ok done with ⟨queued, queues, collects⟩
    exact ((alive.takeSegment segment).carried (queueAck_carried queues)).collect collects
  · cases done
    exact alive

theorem Alive.ackAndCollect (alive : connection.Alive)
    (done : connection.ackAndCollect segment = .ok final) : final.Alive := by
  unfold TCPConnection.ackAndCollect at done
  split at done
  · rcases bind_ok done with ⟨acked, taken, collects⟩
    exact (alive.takeAck taken).collect collects
  · cases done
    exact alive

theorem Alive.ackAgain (alive : connection.Alive)
    (done : connection.ackAgain segment = .ok final) : final.Alive := by
  rcases bind_ok done with ⟨acked, taken, pushes⟩
  exact (alive.takeAck taken).carried (pushAck_carried pushes)

/-- In ESTABLISHED the SYN is acknowledged and the FIN is not out, so that the
connection may stop lingering. -/
theorem Alive.departs_of_established (alive : connection.Alive)
    (current : connection.state = .ofState .established) : connection.sender.Departs := by
  have summary : TCPState.senderSummary connection.sender = .synAcked :=
    congrArg TCPState.sender current
  rcases alive.sound.composed.summary_cases with ⟨_, other⟩ | ⟨_, _, other⟩ |
    ⟨acked, unfinished, _⟩ | ⟨_, _, _, other⟩ | ⟨_, _, _, other⟩
  · cases other.symm.trans summary
  · cases other.symm.trans summary
  · exact ⟨acked, Or.inl unfinished⟩
  · cases other.symm.trans summary
  · cases other.symm.trans summary

theorem Alive.inEstablished (alive : connection.Alive)
    (current : connection.state = .ofState .established ∨
      connection.state = .ofState .finWait1)
    (done : connection.inEstablished segment = .ok final) : final.Alive := by
  rcases inEstablished_cases done with ⟨linger, replied, noted, replies, rest⟩
  refine Alive.ackAndCollect (Alive.takeAndReply ?_ replies) rest
  refine ⟨⟨alive.sound.wf, alive.sound.noError, alive.sound.composed⟩, alive.active, ?_⟩
  intro leaves
  split at noted
  · rename_i fin
    exact alive.departs_of_established (current.resolve_right fin.2)
  · exact alive.departs (noted.symm.trans leaves)

/-- LAST_ACK gives up the connection only if nothing is left to acknowledge. -/
theorem Alive.inLastAck (alive : connection.Alive)
    (current : connection.state = .ofState .lastAck)
    (done : connection.inLastAck segment = .ok final) : final.Alive ∨ final.Over := by
  have leaves : connection.lingerAfterStreamsFinish = false := by
    have linger : (if connection.active then connection.lingerAfterStreamsFinish else false) =
        false :=
      congrArg TCPState.lingerAfterStreamsFinish current
    rwa [alive.active, if_pos rfl] at linger
  have isSet := isSet_of_state current nofun nofun nofun
  have ended := alive.sound.ended_of_summary isSet (congrArg TCPState.receiver current)
  unfold TCPConnection.inLastAck at done
  split at done
  · rcases bind_ok done with ⟨acked, taken, rest⟩
    have still := alive.takeAck taken
    have fills := (acks alive.sound.composed taken).toFills
    have departs := still.departs (fills.linger_eq.trans leaves)
    have receiver_eq := fills.receiver_eq
    cases rest
    split
    · rename_i finAcked
      rcases departs.all_acked still.sound.composed finAcked with ⟨finOut, all⟩
      refine Or.inr ⟨⟨still.sound.wf, still.sound.noError, still.sound.composed⟩, ?_, ?_, rfl,
        departs.1, finOut, all⟩
      · dsimp only
        rw [receiver_eq]
        exact isSet
      · dsimp only
        rw [receiver_eq]
        exact ended
    · exact Or.inl still
  · cases done
    exact Or.inl alive

theorem Alive.inListen (alive : connection.Alive)
    (done : connection.inListen segment = .ok final) : final.Alive := by
  unfold TCPConnection.inListen at done
  split at done
  · rcases bind_ok done with ⟨connected, collects, rest⟩
    cases rest
    have still := (alive.takeSegment segment).collect collects
    exact ⟨⟨still.sound.wf, still.sound.noError, still.sound.composed⟩, rfl, still.departs⟩
  · cases done
    exact alive

theorem Alive.inSynSent (alive : connection.Alive)
    (done : connection.inSynSent segment = .ok final) : final.Alive := by
  unfold TCPConnection.inSynSent at done
  split at done
  · exact (alive.takeSegment segment).ackAgain done
  · split at done
    · exact (alive.takeSegment segment).carried (pushAck_carried done)
    · cases done
      exact alive

theorem Alive.inSynRcvd (alive : connection.Alive)
    (done : connection.inSynRcvd segment = .ok final) : final.Alive := by
  unfold TCPConnection.inSynRcvd at done
  split at done
  · exact (alive.takeSegment segment).takeAck done
  · cases done
    exact alive

theorem Alive.inFinWait2 (alive : connection.Alive)
    (done : connection.inFinWait2 segment = .ok final) : final.Alive := by
  unfold TCPConnection.inFinWait2 at done
  split at done
  · exact (alive.takeSegment segment).ackAgain done
  · cases done
    exact alive

theorem Alive.inClosing (alive : connection.Alive)
    (done : connection.inClosing segment = .ok final) : final.Alive := by
  unfold TCPConnection.inClosing at done
  split at done
  · rcases bind_ok done with ⟨acked, taken, collects⟩
    exact ((alive.takeSegment segment).takeAck taken).collect collects
  · cases done
    exact alive

theorem Alive.inCloseWait (alive : connection.Alive)
    (done : connection.inCloseWait segment = .ok final) : final.Alive := by
  unfold TCPConnection.inCloseWait at done
  split at done
  · exact alive.ackAgain done
  · cases done
    exact alive

theorem Alive.inTimeWait (alive : connection.Alive)
    (done : connection.inTimeWait segment = .ok final) : final.Alive := by
  unfold TCPConnection.inTimeWait at done
  split at done
  · exact alive.ackAgain done
  · cases done
    exact alive

theorem Alive.dispatch (alive : connection.Alive)
    (done : connection.dispatch segment = .ok final) : final.Alive ∨ final.Over := by
  rcases dispatch_cases done with ⟨state, current, done⟩ | rfl
  · cases state with
    | listen => exact Or.inl (alive.inListen done)
    | synSent => exact Or.inl (alive.inSynSent done)
    | synRcvd => exact Or.inl (alive.inSynRcvd done)
    | established => exact Or.inl (alive.inEstablished (Or.inl current) done)
    | finWait1 => exact Or.inl (alive.inEstablished (Or.inr current) done)
    | finWait2 => exact Or.inl (alive.inFinWait2 done)
    | lastAck => exact alive.inLastAck current done
    | closing => exact Or.inl (alive.inClosing done)
    | closeWait => exact Or.inl (alive.inCloseWait done)
    | timeWait => exact Or.inl (alive.inTimeWait done)
    | closed =>
        cases done
        exact Or.inl alive
    | reset =>
        cases done
        exact Or.inl alive
  · exact Or.inl alive

theorem Standing.carried (standing : connection.Standing) (carried : Carried connection final) :
    final.Standing := by
  cases standing with
  | failed failed =>
      have error_eq := congrArg ByteStream.error carried.sender_alike.stream_eq
      refine .failed ⟨error_eq.trans failed.sender, ?_, carried.active_eq.trans failed.inactive⟩
      rw [carried.receiver_eq]
      exact failed.receiver
  | alive alive => exact .alive (alive.carried carried)
  | settled settled => exact .settled (settled.carried carried)

theorem Standing.collect (standing : connection.Standing)
    (done : connection.collectSenderSegmentsOut = .ok final) : final.Standing := by
  cases standing with
  | failed failed => exact .failed (failed.collect done)
  | alive alive => exact .alive (alive.collect done)
  | settled settled => exact .settled (settled.collect done)

theorem Standing.keepAlive (standing : connection.Standing)
    (done : connection.keepAlive segment = .ok final) : final.Standing := by
  rcases keepAlive_cases done with ⟨_, collected⟩ | ⟨_, rfl⟩
  · exact (standing.carried connection.sendEmptySegment_carried).collect collected
  · exact standing

theorem Standing.segmentReceived (standing : connection.Standing)
    (done : connection.segmentReceived segment = .ok final) : final.Standing := by
  rcases segmentReceived_cases done with ⟨_, rfl⟩ | ⟨_, dispatched, handled, answered⟩
  · exact .failed (resetReceived_failed _)
  · refine Standing.keepAlive ?_ answered
    cases standing.carried connection.heard_carried with
    | failed failed =>
        rw [dispatch_eq segment failed.state_eq] at handled
        cases handled
        exact .failed failed
    | alive alive =>
        rcases alive.dispatch handled with still | settled
        · exact .alive still
        · exact .settled settled
    | settled settled =>
        rw [dispatch_eq segment settled.state_eq] at handled
        cases handled
        exact .settled settled

/-! ## The owner's methods -/

/-- The end of lingering is a clean end. -/
theorem Standing.stopLingering (standing : connection.Standing) :
    connection.stopLingering.Standing := by
  unfold TCPConnection.stopLingering
  split
  · rename_i stops
    have waits := stops.1
    cases standing with
    | failed failed => cases failed.state_eq.symm.trans waits
    | settled settled => cases settled.state_eq.symm.trans waits
    | alive alive =>
        have summary : TCPState.senderSummary connection.sender = .finAcked :=
          congrArg TCPState.sender waits
        have isSet := isSet_of_state waits nofun nofun nofun
        have ended := alive.sound.ended_of_summary isSet (congrArg TCPState.receiver waits)
        rcases alive.sound.composed.summary_cases with ⟨_, other⟩ | ⟨_, _, other⟩ |
          ⟨_, _, other⟩ | ⟨_, _, _, other⟩ | ⟨acked, finOut, all, _⟩
        · cases other.symm.trans summary
        · cases other.symm.trans summary
        · cases other.symm.trans summary
        · cases other.symm.trans summary
        · exact .settled ⟨⟨alive.sound.wf, alive.sound.noError, alive.sound.composed⟩, isSet, ended,
            rfl, acked, finOut, all⟩
  · exact standing

theorem Standing.tick (standing : connection.Standing) {msSinceLastTick : Nat}
    (done : connection.tick msSinceLastTick = .ok final) : final.Standing := by
  have lingered := (standing.carried (connection.elapsed_carried msSinceLastTick)).stopLingering
  have aged : Carried (connection.elapsed msSinceLastTick).stopLingering
      { (connection.elapsed msSinceLastTick).stopLingering with
        sender := connection.sender.tick msSinceLastTick } := by
    refine ⟨rfl, ?_, rfl, rfl⟩
    rw [stopLingering_sender]
    exact (connection.sender.tick_spec msSinceLastTick).alike
  rcases tick_cases done with ⟨ticked, rfl, ⟨_, rfl⟩ | ⟨_, ⟨_, collected⟩ | ⟨_, rfl⟩⟩⟩
  · exact .failed ⟨rfl, rfl, rfl⟩
  · exact (lingered.carried aged).collect collected
  · exact lingered.carried aged

theorem Standing.wrote (standing : connection.Standing) (data : List UInt8) :
    (connection.wrote data).Standing := by
  cases standing with
  | failed failed =>
      exact .failed ⟨(ByteStream.write_error _ _).trans failed.sender, failed.receiver,
        failed.inactive⟩
  | alive alive =>
      exact .alive ⟨alive.sound.wrote data, alive.active,
        fun leaves => (alive.departs leaves).write data⟩
  | settled settled =>
      exact .settled ⟨settled.sound.wrote data, settled.isSet, settled.ended, settled.inactive, settled.acked,
        settled.finOut.write data, settled.all⟩

theorem Standing.ended (standing : connection.Standing) : connection.ended.Standing := by
  cases standing with
  | failed failed => exact .failed ⟨failed.sender, failed.receiver, failed.inactive⟩
  | alive alive =>
      exact .alive ⟨alive.sound.ended, alive.active, fun leaves => (alive.departs leaves).endInput⟩
  | settled settled =>
      exact .settled ⟨settled.sound.ended, settled.isSet, settled.ended, settled.inactive, settled.acked,
        settled.finOut.endInput, settled.all⟩

theorem Standing.popInbound (standing : connection.Standing) (length : Nat) :
    (connection.popInbound length).Standing := by
  cases standing with
  | failed failed => exact .failed ⟨failed.sender, failed.receiver, failed.inactive⟩
  | alive alive =>
      exact .alive ⟨⟨alive.sound.wf.popOutput length, alive.sound.noError, alive.sound.composed⟩,
        alive.active, alive.departs⟩
  | settled settled =>
      exact .settled ⟨⟨settled.sound.wf.popOutput length, settled.sound.noError, settled.sound.composed⟩,
        settled.isSet, settled.ended, settled.inactive, settled.acked, settled.finOut, settled.all⟩

theorem Standing.perform (standing : connection.Standing) {op : OwnerOp}
    (done : connection.perform op = .ok final) : final.Standing := by
  cases op with
  | connect => exact standing.collect done
  | write data =>
      rcases bind_ok done with ⟨⟨collected, count⟩, writes, rest⟩
      cases rest
      exact (standing.wrote data).collect (write_spec writes).2
  | endInputStream => exact standing.ended.collect done
  | tick msSinceLastTick => exact standing.tick done
  | popInbound length =>
      cases done
      exact standing.popInbound length

theorem new_standing (cfg : TCPConfig) (random : WrappingInt32) : (new cfg random).Standing :=
  .alive ⟨⟨StreamReassembler.new_wf _, rfl, TCPSender.new_composed _ _ _⟩, rfl, nofun⟩

theorem Standing.step (standing : connection.Standing) {op : ConnectionOp}
    (taken : connection.step op = .ok final) : final.Standing := by
  cases op with
  | owner op => exact standing.perform taken
  | segmentReceived segment => exact standing.segmentReceived taken

end

end TCPConnection

/-- **A connection dies cleanly or by reset.**  In every state of every run,
a connection that is not active has either failed on both streams, or is
closed: the inbound stream has ended, the FIN has been sent and nothing is in
flight. -/
theorem inactive_is_closed_or_reset (cfg : TCPConfig) (random : WrappingInt32)
    (ops : List ConnectionOp) (final : TCPConnection)
    (done : run TCPConnection.step (TCPConnection.new cfg random) ops = .ok final)
    (inactive : final.active = false) :
    (final.state = .ofState .reset ∧ final.sender.stream.error = true ∧
        final.inboundStream.error = true) ∨
      (final.state = .ofState .closed ∧ final.inboundStream.inputEnded = true ∧
        final.sender.stream.eof = true ∧
        final.sender.stream.bytesWritten + 2 ≤ final.sender.nextSeqnoAbsolute ∧
        final.bytesInFlight = 0) := by
  have standing : final.Standing :=
    run_invariant TCPConnection.Standing (fun _ _ _ standing taken => standing.step taken)
      (TCPConnection.new_standing cfg random) done
  cases standing with
  | failed failed => exact Or.inl ⟨failed.state_eq, failed.sender, failed.receiver⟩
  | alive alive =>
      rw [alive.active] at inactive
      cases inactive
  | settled settled =>
      refine Or.inr ⟨settled.state_eq, settled.ended, settled.finOut.eof, settled.finOut.used, ?_⟩
      unfold TCPConnection.bytesInFlight TCPSender.bytesInFlight TCPSendingWindow.bytesInFlight
      rw [settled.all, Nat.sub_self]

/-- A connection that closes after the peer, with a byte of its own. -/
theorem inactive_is_closed_or_reset_passive :
    let cfg : TCPConfig := { recvCapacity := ⟨8, by decide⟩, sendCapacity := ⟨8, by decide⟩ }
    let start := TCPConnection.new cfg ⟨0⟩
    let ops : List ConnectionOp :=
      [.owner .connect,
        .segmentReceived
          { header := { seqno := ⟨100⟩, ackno := ⟨1⟩, win := 10, syn := true, ack := true } },
        .segmentReceived
          { header := { seqno := ⟨101⟩, ackno := ⟨1⟩, win := 10, fin := true, ack := true } },
        .owner (.write [5]), .owner .endInputStream,
        .segmentReceived { header := { seqno := ⟨102⟩, ackno := ⟨3⟩, win := 10, ack := true } }]
    Exists fun final => run TCPConnection.step start ops = .ok final ∧
      final.active = false ∧ final.state = .ofState .closed ∧ final.bytesInFlight = 0 := by
  intro cfg start ops
  have checked : endsIn TCPConnection.step (fun final =>
      decide (final.active = false ∧ final.sender.stream.error = false)) start ops = true := by
    decide +kernel
  rcases run_of_endsIn checked with ⟨final, done, facts⟩
  rcases of_decide_eq_true facts with ⟨inactive, noError⟩
  rcases inactive_is_closed_or_reset cfg ⟨0⟩ ops final done inactive with
    ⟨_, failed, _⟩ | ⟨closed, _, _, _, landed⟩
  · rw [noError] at failed
    cases failed
  · exact ⟨final, done, inactive, closed, landed⟩

end Tcp
end Sponge
