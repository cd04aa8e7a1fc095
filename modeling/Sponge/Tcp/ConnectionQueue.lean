import Sponge.Tcp.ConnectionParts
import Sponge.Tcp.RetransmissionQueue

namespace Sponge
namespace Tcp

/-!
# Methods of a connection go through

A method of a connection can fail where the sender meets a segment it has not
queued in order, or where an acknowledgment is asked for before there is one.
The first does not happen to a sender that has used fewer than `2^31` sequence
numbers, the second does not happen at all.

ESTABLISHED and FIN_WAIT_1 fill the window twice, before and after they look
at the acknowledgment.  The bound has to hold in between too.
-/

namespace TCPSender

theorem Queued.ackReceived {sender filled : TCPSender} {ackno : WrappingInt32}
    {windowSize : UInt16} (queued : sender.Queued) (low : sender.window.nextSeqno < 2 ^ 31)
    (received : sender.ackReceived ackno windowSize = .ok filled) : filled.Queued := by
  rcases ackReceived_spec received with ⟨updated, segments, took, sends⟩
  exact (queued.tookAck took low).sends sends

end TCPSender

namespace TCPConnection

/-! ## Sequence numbers only move on -/

theorem atLeast_keptByParts (bound : Nat) :
    KeptByParts (fun connection => bound ≤ connection.sender.window.nextSeqno) where
  flags := fun _ _ _ least => least
  clock := fun _ _ least => least
  collect := by
    intro connection final least done
    rcases collect_spec done with ⟨filled, fills, rfl⟩
    rcases TCPSender.fillWindow_sends fills with ⟨segments, sends⟩
    exact Nat.le_trans least sends.frame.nextSeqno_le
  push := by
    intro connection final least done
    rcases pushAck_spec done with ⟨ackno, _, rfl⟩
    exact least
  queue := by
    intro connection final least done
    rcases queueAck_spec done with ⟨ackno, _, rfl⟩
    exact least
  empty := fun _ least => least
  reset := fun _ least => least
  tickSender := fun connection msSinceLastTick least =>
    Nat.le_trans least (Nat.le_of_eq (connection.sender.tick_spec msSinceLastTick).nextSeqno_eq.symm)
  pushRst := fun _ least => least

section

variable {connection final : TCPConnection} {segment : TCPSegment}

theorem takeAck_nextSeqno_le (taken : connection.takeAck segment = .ok final) :
    connection.sender.window.nextSeqno ≤ final.sender.window.nextSeqno := by
  rcases takeAck_spec taken with ⟨sender, received, rfl⟩
  rcases TCPSender.ackReceived_spec received with ⟨updated, segments, took, sends⟩
  exact took.nextSeqno_eq ▸ sends.frame.nextSeqno_le

theorem perform_nextSeqno_le {op : OwnerOp} (performed : connection.perform op = .ok final) :
    connection.sender.window.nextSeqno ≤ final.sender.window.nextSeqno :=
  perform_keeps (atLeast_keptByParts _) (fun _ => Nat.le_refl _) (Nat.le_refl _)
    (fun _ => Nat.le_refl _) (Nat.le_refl _) performed

theorem segmentReceived_nextSeqno_le (received : connection.segmentReceived segment = .ok final) :
    connection.sender.window.nextSeqno ≤ final.sender.window.nextSeqno := by
  refine segmentReceived_keeps (atLeast_keptByParts connection.sender.window.nextSeqno) ?_ ?_
    (Nat.le_refl _) received
  · intro other _ _ least
    exact least
  · intro other acked _ least taken
    exact Nat.le_trans least (takeAck_nextSeqno_le taken)

end

/-- What the parts keep, they keep below a bound on the sequence numbers. -/
theorem below_keptByParts {invariant : TCPConnection -> Prop} (parts : KeptByParts invariant)
    (bound : Nat) :
    KeptByParts (fun connection =>
      connection.sender.window.nextSeqno < bound -> invariant connection) where
  flags := fun connection _ _ kept below => parts.flags connection _ _ (kept below)
  clock := fun connection time kept below => parts.clock connection time (kept below)
  collect := by
    intro connection final kept done below
    have onward := (atLeast_keptByParts _).collect connection final (Nat.le_refl _) done
    exact parts.collect connection final (kept (Nat.lt_of_le_of_lt onward below)) done
  push := by
    intro connection final kept done below
    have onward := (atLeast_keptByParts _).push connection final (Nat.le_refl _) done
    exact parts.push connection final (kept (Nat.lt_of_le_of_lt onward below)) done
  queue := by
    intro connection final kept done below
    have onward := (atLeast_keptByParts _).queue connection final (Nat.le_refl _) done
    exact parts.queue connection final (kept (Nat.lt_of_le_of_lt onward below)) done
  empty := fun connection kept below => parts.empty connection (kept below)
  reset := fun connection kept below => parts.reset connection (kept below)
  tickSender := by
    intro connection msSinceLastTick kept below
    have onward := (atLeast_keptByParts _).tickSender connection msSinceLastTick (Nat.le_refl _)
    exact parts.tickSender connection msSinceLastTick (kept (Nat.lt_of_le_of_lt onward below))
  pushRst := fun connection kept below => parts.pushRst connection (kept below)

/-! ## The queue of a connection's sender -/

theorem queued_keptByParts : KeptByParts (fun connection => connection.sender.Queued) where
  flags := fun _ _ _ queued => queued
  clock := fun _ _ queued => queued
  collect := by
    intro connection final queued done
    rcases collect_spec done with ⟨filled, fills, rfl⟩
    rcases TCPSender.fillWindow_sends fills with ⟨segments, sends⟩
    have still : filled.Queued := queued.sends sends
    exact still
  push := by
    intro connection final queued done
    rcases pushAck_spec done with ⟨ackno, _, rfl⟩
    exact queued
  queue := by
    intro connection final queued done
    rcases queueAck_spec done with ⟨ackno, _, rfl⟩
    exact queued
  empty := fun _ queued => queued
  reset := fun _ queued => queued
  tickSender := fun connection msSinceLastTick queued =>
    queued.ticked (connection.sender.tick_spec msSinceLastTick)
  pushRst := fun _ queued => queued

theorem new_queued (cfg : TCPConfig) (random : WrappingInt32) : (new cfg random).sender.Queued :=
  TCPSender.new_queued _ _ _

section

variable {connection final : TCPConnection} {segment : TCPSegment}

theorem perform_queued {op : OwnerOp} (queued : connection.sender.Queued)
    (performed : connection.perform op = .ok final) : final.sender.Queued :=
  perform_keeps queued_keptByParts (fun _ => queued) queued (fun _ => queued) queued performed

theorem takeAck_queued (queued : connection.sender.Queued)
    (low : connection.sender.window.nextSeqno < 2 ^ 31)
    (taken : connection.takeAck segment = .ok final) : final.sender.Queued := by
  rcases takeAck_spec taken with ⟨sender, received, rfl⟩
  exact queued.ackReceived low received

theorem segmentReceived_queued (queued : connection.sender.Queued)
    (received : connection.segmentReceived segment = .ok final)
    (low : final.sender.window.nextSeqno < 2 ^ 31) : final.sender.Queued := by
  refine segmentReceived_keeps (below_keptByParts queued_keptByParts (2 ^ 31)) ?_ ?_
    (fun _ => queued) received low
  · intro other _ _ kept
    exact kept
  · intro other acked _ kept taken below
    have before := Nat.lt_of_le_of_lt (takeAck_nextSeqno_le taken) below
    exact takeAck_queued (kept before) before taken

/-! ## Going through -/

/-- A method, or a part of one, succeeds and leaves the queue in order. -/
def GoesThrough (outcome : Except Fault TCPConnection) : Prop :=
  Exists fun final => outcome = .ok final ∧ final.sender.Queued

theorem goesThrough_return (queued : connection.sender.Queued) :
    GoesThrough (return connection) :=
  ⟨connection, rfl, queued⟩

/-- A branch that is taken only under a condition. -/
theorem goesThrough_if {condition : Prop} [Decidable condition]
    {branch : Except Fault TCPConnection} (queued : connection.sender.Queued)
    (taken : condition -> GoesThrough branch) :
    GoesThrough (if condition then branch else return connection) := by
  split
  · rename_i holds
    exact taken holds
  · exact goesThrough_return queued

theorem GoesThrough.bind {outcome : Except Fault TCPConnection}
    {rest : TCPConnection -> Except Fault TCPConnection} (first : GoesThrough outcome)
    (onward : forall middle, outcome = .ok middle -> middle.sender.Queued ->
      GoesThrough (rest middle)) : GoesThrough (outcome >>= rest) := by
  rcases first with ⟨middle, done, queued⟩
  rw [done]
  exact onward middle done queued

theorem collect_goesThrough (queued : connection.sender.Queued) :
    GoesThrough connection.collectSenderSegmentsOut := by
  rcases queued.fillWindow_ok with ⟨filled, fills⟩
  have done := collect_of_fills fills
  exact ⟨_, done, queued_keptByParts.collect connection _ queued done⟩

theorem ackno_of_isSet {receiver : TCPReceiver} (isSet : receiver.isSet = true) :
    Exists fun ackno => receiver.ackno = some ackno := by
  unfold TCPReceiver.ackno
  rw [if_pos isSet]
  exact ⟨_, rfl⟩

theorem pushAck_goesThrough (queued : connection.sender.Queued)
    (isSet : connection.receiver.isSet = true) : GoesThrough connection.pushAck := by
  rcases ackno_of_isSet isSet with ⟨ackno, acks⟩
  unfold pushAck addAckInfo
  rw [acks]
  exact ⟨_, rfl, queued⟩

theorem queueAck_goesThrough (queued : connection.sender.Queued)
    (isSet : connection.receiver.isSet = true) : GoesThrough connection.queueAck := by
  rcases ackno_of_isSet isSet with ⟨ackno, acks⟩
  unfold queueAck addAckInfo
  rw [acks]
  exact ⟨_, rfl, queued⟩

theorem takeAck_goesThrough (segment : TCPSegment) (queued : connection.sender.Queued)
    (low : connection.sender.window.nextSeqno < 2 ^ 31) :
    GoesThrough (connection.takeAck segment) := by
  rcases queued.ackReceived_ok segment.header.ackno segment.header.win low with ⟨sender, received⟩
  have done : connection.takeAck segment = .ok { connection with sender := sender } := by
    unfold takeAck
    rw [received]
  exact ⟨_, done, takeAck_queued queued low done⟩

/-- Taking an acknowledgment and answering it. -/
theorem ackAgain_goesThrough (segment : TCPSegment) (queued : connection.sender.Queued)
    (low : connection.sender.window.nextSeqno < 2 ^ 31)
    (isSet : connection.receiver.isSet = true) : GoesThrough (connection.ackAgain segment) := by
  apply (takeAck_goesThrough segment queued low).bind
  intro acked taken still
  apply pushAck_goesThrough still
  rcases takeAck_spec taken with ⟨sender, _, rfl⟩
  exact isSet

/-- The methods of the owner go through at any number. -/
theorem perform_goesThrough (queued : connection.sender.Queued) (op : OwnerOp) :
    GoesThrough (connection.perform op) := by
  cases op with
  | connect => exact collect_goesThrough queued
  | write data =>
      have wrote : (connection.wrote data).sender.Queued := queued
      rcases collect_goesThrough wrote with ⟨collected, done, still⟩
      have writes : connection.write data =
          .ok (collected, (connection.sender.stream.write data).2) := by
        unfold write
        dsimp only
        unfold TCPConnection.wrote at done
        rw [done]
      unfold perform
      dsimp only
      rw [writes]
      exact ⟨collected, rfl, still⟩
  | endInputStream =>
      have ended : connection.ended.sender.Queued := queued
      exact collect_goesThrough ended
  | tick msSinceLastTick =>
      unfold perform tick
      dsimp only
      generalize lingers : stopLingering _ = lingered
      have same : lingered.sender = connection.sender := by
        rw [← lingers, stopLingering_sender]
      have ticked := queued.ticked (connection.sender.tick_spec msSinceLastTick)
      rw [← same] at ticked
      split
      · exact ⟨_, rfl, ticked⟩
      · split
        · exact collect_goesThrough ticked
        · exact ⟨_, rfl, ticked⟩
  | popInbound length => exact goesThrough_return queued

/-! ## Receiving a segment -/

/-- The reply that ESTABLISHED and FIN_WAIT_1 send before they look at the
acknowledgment takes the sender to `2^31` numbers. -/
def Overruns (connection : TCPConnection) (segment : TCPSegment) : Prop :=
  Exists fun noted : TCPConnection => Exists fun replied =>
    noted.sender = connection.sender ∧ noted.receiver = connection.receiver ∧
      noted.takeAndReply segment = .ok replied ∧ 2 ^ 31 ≤ replied.sender.window.nextSeqno

theorem inListen_goesThrough (segment : TCPSegment) (queued : connection.sender.Queued) :
    GoesThrough (connection.inListen segment) := by
  have taken : (connection.takeSegment segment).sender.Queued := queued
  refine goesThrough_if queued fun _ => (collect_goesThrough taken).bind ?_
  intro connected _ still
  exact ⟨_, rfl, still⟩

theorem inSynSent_goesThrough (segment : TCPSegment) (queued : connection.sender.Queued)
    (low : connection.sender.window.nextSeqno < 2 ^ 31) :
    GoesThrough (connection.inSynSent segment) := by
  have taken : (connection.takeSegment segment).sender.Queued := queued
  have nowSet (syn : segment.header.syn = true) :
      (connection.takeSegment segment).receiver.isSet = true := by
    rw [takeSegment_isSet, syn, Bool.or_true]
  unfold inSynSent
  split
  · rename_i both
    exact ackAgain_goesThrough segment taken low (nowSet (Bool.and_eq_true_iff.mp both).1)
  · exact goesThrough_if queued fun syn => pushAck_goesThrough taken (nowSet syn)

theorem takeAndReply_goesThrough (segment : TCPSegment) (queued : connection.sender.Queued)
    (isSet : connection.receiver.isSet = true) :
    GoesThrough (connection.takeAndReply segment) := by
  have taken : (connection.takeSegment segment).sender.Queued := queued
  have stillSet : (connection.takeSegment segment).receiver.isSet = true := by
    rw [takeSegment_isSet, isSet, Bool.true_or]
  refine goesThrough_if queued fun _ => (queueAck_goesThrough taken stillSet).bind ?_
  intro replied _ still
  exact collect_goesThrough still

theorem inEstablished_goesThrough (queued : connection.sender.Queued)
    (isSet : connection.receiver.isSet = true) (fits : ¬ connection.Overruns segment) :
    GoesThrough (connection.inEstablished segment) := by
  unfold inEstablished
  dsimp only
  generalize notes : (if segment.header.fin ∧ connection.state ≠ .ofState .finWait1 then
    { connection with lingerAfterStreamsFinish := false } else connection) = noted
  have same : noted.sender = connection.sender ∧ noted.receiver = connection.receiver := by
    rw [← notes]
    split
    · exact ⟨rfl, rfl⟩
    · exact ⟨rfl, rfl⟩
  apply (takeAndReply_goesThrough segment (same.1 ▸ queued) (same.2 ▸ isSet)).bind
  intro replied replies still
  have low : replied.sender.window.nextSeqno < 2 ^ 31 := by
    by_contra high
    exact fits ⟨noted, replied, same.1, same.2, replies, Nat.le_of_not_lt high⟩
  refine goesThrough_if still fun _ => (takeAck_goesThrough segment still low).bind ?_
  intro acked _ again
  exact collect_goesThrough again

theorem handle_goesThrough {state : TCPState.State} (queued : connection.sender.Queued)
    (low : connection.sender.window.nextSeqno < 2 ^ 31)
    (current : connection.state = .ofState state) (fits : ¬ connection.Overruns segment) :
    GoesThrough (connection.handle segment state) := by
  have isSet := isSet_of_state current
  have taken : (connection.takeSegment segment).sender.Queued := queued
  have stillSet : connection.receiver.isSet = true ->
      (connection.takeSegment segment).receiver.isSet = true := by
    intro before
    rw [takeSegment_isSet, before, Bool.true_or]
  cases state with
  | listen => exact inListen_goesThrough segment queued
  | synSent => exact inSynSent_goesThrough segment queued low
  | synRcvd => exact goesThrough_if queued fun _ => takeAck_goesThrough segment taken low
  | established => exact inEstablished_goesThrough queued (isSet nofun nofun nofun) fits
  | finWait1 => exact inEstablished_goesThrough queued (isSet nofun nofun nofun) fits
  | finWait2 =>
      refine goesThrough_if queued fun _ => ?_
      exact ackAgain_goesThrough segment taken low (stillSet (isSet nofun nofun nofun))
  | lastAck =>
      refine goesThrough_if queued fun _ => (takeAck_goesThrough segment queued low).bind ?_
      intro acked _ still
      split
      · exact ⟨_, rfl, still⟩
      · exact ⟨_, rfl, still⟩
  | closing =>
      refine goesThrough_if queued fun _ => (takeAck_goesThrough segment taken low).bind ?_
      intro acked _ still
      exact collect_goesThrough still
  | closeWait =>
      refine goesThrough_if queued fun _ => ?_
      exact ackAgain_goesThrough segment queued low (isSet nofun nofun nofun)
  | timeWait =>
      refine goesThrough_if queued fun _ => ?_
      exact ackAgain_goesThrough segment queued low (isSet nofun nofun nofun)
  | closed => exact goesThrough_return queued
  | reset => exact goesThrough_return queued

theorem keepAlive_goesThrough (segment : TCPSegment) (queued : connection.sender.Queued) :
    GoesThrough (connection.keepAlive segment) := by
  unfold keepAlive
  split
  · exact goesThrough_return queued
  · have sent : connection.sender.sendEmptySegment.Queued := queued
    exact goesThrough_if queued fun _ => collect_goesThrough sent

/-- Below `2^31` every segment is received without a fault. -/
theorem segmentReceived_goesThrough (queued : connection.sender.Queued)
    (low : connection.sender.window.nextSeqno < 2 ^ 31) (fits : ¬ connection.Overruns segment) :
    GoesThrough (connection.segmentReceived segment) := by
  unfold segmentReceived
  have heard : connection.heard.sender.Queued := queued
  split
  · exact ⟨_, rfl, queued⟩
  · apply GoesThrough.bind
    · by_cases official : Exists fun state => connection.heard.state = .ofState state
      · rcases official with ⟨state, current⟩
        rw [dispatch_eq segment current]
        exact handle_goesThrough heard low current fits
      · rw [dispatch_of_unofficial segment fun state current => official ⟨state, current⟩]
        exact ⟨_, rfl, heard⟩
    · intro dispatched _ still
      exact keepAlive_goesThrough segment still

end

end TCPConnection
end Tcp
end Sponge
