import Sponge.Tcp.ConnectionParts

namespace Sponge
namespace Tcp

/-!
# Segments that have been taken out

The owner of a connection takes segments from the front of its queue.  The connection
never looks at them: with or without the earlier segments its methods do the same, fault
in the same cases, and add the same segments at the end.
-/

namespace TCPConnection

/-- The connection with earlier segments still in the queue. -/
def withEarlier (connection : TCPConnection) (earlier : List TCPSegment) : TCPConnection :=
  { connection with segmentsOut := earlier ++ connection.segmentsOut }

variable {connection : TCPConnection} {segment : TCPSegment} {earlier : List TCPSegment}

/-- Two outcomes that differ in the earlier segments only. -/
def HoldsEarlier (earlier : List TCPSegment) (outcome held : Except Fault TCPConnection) : Prop :=
  held = outcome.map fun connection => connection.withEarlier earlier

theorem HoldsEarlier.bind {outcome held : Except Fault TCPConnection}
    {rest : TCPConnection -> Except Fault TCPConnection} (first : HoldsEarlier earlier outcome held)
    (onward : forall connection,
      HoldsEarlier earlier (rest connection) (rest (connection.withEarlier earlier))) :
    HoldsEarlier earlier (outcome >>= rest) (held >>= rest) := by
  rw [first]
  cases outcome with
  | error fault => rfl
  | ok connection => exact onward connection

theorem HoldsEarlier.ite {condition : Prop} [Decidable condition]
    {first second firstHeld secondHeld : Except Fault TCPConnection}
    (holds : HoldsEarlier earlier first firstHeld) (fails : HoldsEarlier earlier second secondHeld) :
    HoldsEarlier earlier (if condition then first else second)
      (if condition then firstHeld else secondHeld) := by
  split
  · exact holds
  · exact fails

theorem holdsEarlier_return (connection : TCPConnection) :
    HoldsEarlier earlier (.ok connection) (.ok (connection.withEarlier earlier)) :=
  rfl

theorem collect_withEarlier (connection : TCPConnection) :
    HoldsEarlier earlier connection.collectSenderSegmentsOut
      (connection.withEarlier earlier).collectSenderSegmentsOut := by
  have sender : (connection.withEarlier earlier).sender = connection.sender := rfl
  unfold HoldsEarlier collectSenderSegmentsOut
  rw [sender]
  cases connection.sender.fillWindow with
  | error fault => rfl
  | ok filled =>
      dsimp only [Except.map]
      unfold withEarlier
      rw [← List.append_assoc]
      rfl

theorem pushAck_withEarlier (connection : TCPConnection) :
    HoldsEarlier earlier connection.pushAck (connection.withEarlier earlier).pushAck := by
  have info : (connection.withEarlier earlier).addAckInfo {} = connection.addAckInfo {} := rfl
  unfold HoldsEarlier pushAck
  rw [info]
  cases connection.addAckInfo {} with
  | error fault => rfl
  | ok segment =>
      dsimp only [Except.map]
      unfold withEarlier
      rw [← List.append_assoc]

theorem queueAck_withEarlier (connection : TCPConnection) :
    HoldsEarlier earlier connection.queueAck (connection.withEarlier earlier).queueAck := by
  have info : (connection.withEarlier earlier).addAckInfo {} = connection.addAckInfo {} := rfl
  unfold HoldsEarlier queueAck
  rw [info]
  cases connection.addAckInfo {} with
  | error fault => rfl
  | ok segment => rfl

theorem takeAck_withEarlier (connection : TCPConnection) (segment : TCPSegment) :
    HoldsEarlier earlier (connection.takeAck segment)
      ((connection.withEarlier earlier).takeAck segment) := by
  have sender : (connection.withEarlier earlier).sender = connection.sender := rfl
  unfold HoldsEarlier takeAck
  rw [sender]
  cases connection.sender.ackReceived segment.header.ackno segment.header.win with
  | error fault => rfl
  | ok sender => rfl

theorem write_withEarlier (connection : TCPConnection) (earlier : List TCPSegment)
    (data : List UInt8) :
    (connection.withEarlier earlier).write data =
      (connection.write data).map fun wrote => (wrote.1.withEarlier earlier, wrote.2) := by
  have collects : HoldsEarlier earlier _ _ := collect_withEarlier (connection.wrote data)
  have held : { connection.withEarlier earlier with
      sender := { connection.sender with stream := (connection.sender.stream.write data).1 } } =
      (connection.wrote data).withEarlier earlier := rfl
  have sender : (connection.withEarlier earlier).sender = connection.sender := rfl
  unfold write
  dsimp only
  rw [sender, held, collects]
  unfold wrote
  cases collectSenderSegmentsOut _ with
  | error fault => rfl
  | ok collected => rfl

theorem stopLingering_withEarlier (connection : TCPConnection) :
    (connection.withEarlier earlier).stopLingering =
      connection.stopLingering.withEarlier earlier := by
  unfold stopLingering
  change (if connection.state = .ofState .timeWait ∧ connection.lingerAfterStreamsFinish ∧
    connection.timeSinceLastSegmentReceived ≥ 10 * connection.cfg.rtTimeout.toNat then _ else _) = _
  split
  · rfl
  · rfl

theorem uncleanShutdown_withEarlier (connection : TCPConnection) :
    (connection.withEarlier earlier).uncleanShutdown =
      connection.uncleanShutdown.withEarlier earlier := by
  unfold uncleanShutdown withEarlier
  dsimp only
  rw [← List.append_assoc]
  rfl

/-- The connection in a tick, when its sender has ticked. -/
def ticked (connection : TCPConnection) (msSinceLastTick : Nat) : TCPConnection :=
  { (connection.elapsed msSinceLastTick).stopLingering with
    sender := (connection.elapsed msSinceLastTick).stopLingering.sender.tick msSinceLastTick }

theorem tick_eq (connection : TCPConnection) (msSinceLastTick : Nat) :
    connection.tick msSinceLastTick =
      if (connection.ticked msSinceLastTick).sender.consecutiveRetransmissions >
          TCPConfig.maxRetxAttempts then
        .ok (connection.ticked msSinceLastTick).uncleanShutdown
      else if ticksCollect connection.state then
        (connection.ticked msSinceLastTick).collectSenderSegmentsOut
      else .ok (connection.ticked msSinceLastTick) :=
  rfl

theorem tick_withEarlier (connection : TCPConnection) (msSinceLastTick : Nat) :
    HoldsEarlier earlier (connection.tick msSinceLastTick)
      ((connection.withEarlier earlier).tick msSinceLastTick) := by
  have same : (connection.withEarlier earlier).ticked msSinceLastTick =
      (connection.ticked msSinceLastTick).withEarlier earlier := by
    have lingers : ((connection.withEarlier earlier).elapsed msSinceLastTick).stopLingering =
        (connection.elapsed msSinceLastTick).stopLingering.withEarlier earlier :=
      stopLingering_withEarlier (connection.elapsed msSinceLastTick)
    unfold ticked
    rw [lingers]
    rfl
  rw [tick_eq, tick_eq, same, uncleanShutdown_withEarlier]
  refine HoldsEarlier.ite (holdsEarlier_return _) (HoldsEarlier.ite ?_ (holdsEarlier_return _))
  exact collect_withEarlier _

theorem perform_withEarlier (connection : TCPConnection) (op : OwnerOp) :
    HoldsEarlier earlier (connection.perform op)
      ((connection.withEarlier earlier).perform op) := by
  cases op with
  | connect => exact collect_withEarlier connection
  | write data =>
      unfold HoldsEarlier perform
      dsimp only
      rw [write_withEarlier]
      cases connection.write data with
      | error fault => rfl
      | ok wrote => rfl
  | endInputStream => exact collect_withEarlier connection.ended
  | tick msSinceLastTick => exact tick_withEarlier connection msSinceLastTick
  | popInbound length => exact holdsEarlier_return (connection.popInbound length)

/-! ## Inbound segments -/

theorem takeAck_pushAck_withEarlier (connection : TCPConnection) (segment : TCPSegment) :
    HoldsEarlier earlier (connection.takeAck segment >>= pushAck)
      ((connection.withEarlier earlier).takeAck segment >>= pushAck) :=
  (takeAck_withEarlier connection segment).bind pushAck_withEarlier

theorem inListen_withEarlier (connection : TCPConnection) (segment : TCPSegment) :
    HoldsEarlier earlier (connection.inListen segment)
      ((connection.withEarlier earlier).inListen segment) := by
  refine HoldsEarlier.ite ?_ (holdsEarlier_return _)
  exact HoldsEarlier.bind (collect_withEarlier (connection.takeSegment segment))
    fun connected => holdsEarlier_return { connected with active := true }

theorem inSynSent_withEarlier (connection : TCPConnection) (segment : TCPSegment) :
    HoldsEarlier earlier (connection.inSynSent segment)
      ((connection.withEarlier earlier).inSynSent segment) := by
  refine HoldsEarlier.ite ?_ (HoldsEarlier.ite ?_ (holdsEarlier_return _))
  · exact takeAck_pushAck_withEarlier (connection.takeSegment segment) segment
  · exact pushAck_withEarlier (connection.takeSegment segment)

theorem inSynRcvd_withEarlier (connection : TCPConnection) (segment : TCPSegment) :
    HoldsEarlier earlier (connection.inSynRcvd segment)
      ((connection.withEarlier earlier).inSynRcvd segment) :=
  HoldsEarlier.ite (takeAck_withEarlier (connection.takeSegment segment) segment)
    (holdsEarlier_return _)

theorem takeAndReply_withEarlier (connection : TCPConnection) (segment : TCPSegment) :
    HoldsEarlier earlier (connection.takeAndReply segment)
      ((connection.withEarlier earlier).takeAndReply segment) :=
  HoldsEarlier.ite
    ((queueAck_withEarlier (connection.takeSegment segment)).bind collect_withEarlier)
    (holdsEarlier_return _)

theorem ackAndCollect_withEarlier (connection : TCPConnection) (segment : TCPSegment) :
    HoldsEarlier earlier (connection.ackAndCollect segment)
      ((connection.withEarlier earlier).ackAndCollect segment) :=
  HoldsEarlier.ite ((takeAck_withEarlier connection segment).bind collect_withEarlier)
    (holdsEarlier_return _)

/-- What ESTABLISHED notes of a FIN. -/
def noted (connection : TCPConnection) (segment : TCPSegment) : TCPConnection :=
  if segment.header.fin ∧ connection.state ≠ .ofState .finWait1 then
    { connection with lingerAfterStreamsFinish := false }
  else connection

theorem noted_withEarlier (connection : TCPConnection) (segment : TCPSegment) :
    (connection.withEarlier earlier).noted segment =
      (connection.noted segment).withEarlier earlier := by
  unfold noted
  by_cases notes : segment.header.fin ∧ connection.state ≠ .ofState .finWait1
  · rw [if_pos notes]
    exact if_pos notes
  · rw [if_neg notes]
    exact if_neg notes

theorem inEstablished_withEarlier (connection : TCPConnection) (segment : TCPSegment) :
    HoldsEarlier earlier (connection.inEstablished segment)
      ((connection.withEarlier earlier).inEstablished segment) := by
  have replies (other : TCPConnection) : other.inEstablished segment =
      (other.noted segment).takeAndReply segment >>= fun replied =>
        replied.ackAndCollect segment := rfl
  rw [replies, replies, noted_withEarlier]
  exact (takeAndReply_withEarlier _ segment).bind fun replied =>
    ackAndCollect_withEarlier replied segment

theorem inFinWait2_withEarlier (connection : TCPConnection) (segment : TCPSegment) :
    HoldsEarlier earlier (connection.inFinWait2 segment)
      ((connection.withEarlier earlier).inFinWait2 segment) :=
  HoldsEarlier.ite (takeAck_pushAck_withEarlier (connection.takeSegment segment) segment)
    (holdsEarlier_return _)

theorem inLastAck_withEarlier (connection : TCPConnection) (segment : TCPSegment) :
    HoldsEarlier earlier (connection.inLastAck segment)
      ((connection.withEarlier earlier).inLastAck segment) := by
  refine HoldsEarlier.ite ((takeAck_withEarlier connection segment).bind fun acked => ?_)
    (holdsEarlier_return _)
  change HoldsEarlier earlier _ (.ok (if acked.sender.state = .finAcked then _ else _))
  by_cases acknowledged : acked.sender.state = .finAcked
  · rw [if_pos acknowledged, if_pos acknowledged]
    exact holdsEarlier_return { acked with lingerAfterStreamsFinish := false, active := false }
  · rw [if_neg acknowledged, if_neg acknowledged]
    exact holdsEarlier_return acked

theorem inClosing_withEarlier (connection : TCPConnection) (segment : TCPSegment) :
    HoldsEarlier earlier (connection.inClosing segment)
      ((connection.withEarlier earlier).inClosing segment) :=
  HoldsEarlier.ite
    ((takeAck_withEarlier (connection.takeSegment segment) segment).bind collect_withEarlier)
    (holdsEarlier_return _)

theorem inCloseWait_withEarlier (connection : TCPConnection) (segment : TCPSegment) :
    HoldsEarlier earlier (connection.inCloseWait segment)
      ((connection.withEarlier earlier).inCloseWait segment) :=
  HoldsEarlier.ite (takeAck_pushAck_withEarlier connection segment) (holdsEarlier_return _)

theorem inTimeWait_withEarlier (connection : TCPConnection) (segment : TCPSegment) :
    HoldsEarlier earlier (connection.inTimeWait segment)
      ((connection.withEarlier earlier).inTimeWait segment) :=
  HoldsEarlier.ite (takeAck_pushAck_withEarlier connection segment) (holdsEarlier_return _)

theorem dispatch_withEarlier (connection : TCPConnection) (segment : TCPSegment) :
    HoldsEarlier earlier (connection.dispatch segment)
      ((connection.withEarlier earlier).dispatch segment) := by
  refine HoldsEarlier.ite (inListen_withEarlier connection segment) ?_
  refine HoldsEarlier.ite (inSynSent_withEarlier connection segment) ?_
  refine HoldsEarlier.ite (inSynRcvd_withEarlier connection segment) ?_
  refine HoldsEarlier.ite (inEstablished_withEarlier connection segment) ?_
  refine HoldsEarlier.ite (inFinWait2_withEarlier connection segment) ?_
  refine HoldsEarlier.ite (inLastAck_withEarlier connection segment) ?_
  refine HoldsEarlier.ite (inClosing_withEarlier connection segment) ?_
  refine HoldsEarlier.ite (inCloseWait_withEarlier connection segment) ?_
  exact HoldsEarlier.ite (inTimeWait_withEarlier connection segment) (holdsEarlier_return _)

theorem keepAlive_withEarlier (connection : TCPConnection) (segment : TCPSegment) :
    HoldsEarlier earlier (connection.keepAlive segment)
      ((connection.withEarlier earlier).keepAlive segment) := by
  have receiver : (connection.withEarlier earlier).receiver = connection.receiver := rfl
  unfold keepAlive
  rw [receiver]
  cases connection.receiver.ackno with
  | none => exact holdsEarlier_return connection
  | some ackno =>
      refine HoldsEarlier.ite ?_ (holdsEarlier_return connection)
      exact collect_withEarlier { connection with sender := connection.sender.sendEmptySegment }

theorem segmentReceived_withEarlier (connection : TCPConnection) (segment : TCPSegment) :
    HoldsEarlier earlier (connection.segmentReceived segment)
      ((connection.withEarlier earlier).segmentReceived segment) := by
  refine HoldsEarlier.ite (holdsEarlier_return connection.heard.resetReceived) ?_
  exact (dispatch_withEarlier connection.heard segment).bind fun dispatched =>
    keepAlive_withEarlier dispatched segment

/-- **A connection does not look at what it has sent.**  Whatever has been taken out of its
queue before, every method and every segment leads to the same, with the same new segments
at the end of the queue, and faults in the same cases. -/
theorem step_withEarlier (connection : TCPConnection) (op : ConnectionOp) :
    (connection.withEarlier earlier).step op =
      (connection.step op).map fun next => next.withEarlier earlier := by
  cases op with
  | owner op => exact perform_withEarlier connection op
  | segmentReceived segment => exact segmentReceived_withEarlier connection segment

end TCPConnection
end Tcp
end Sponge
