import Sponge.Tcp.ConnectionQueue

namespace Sponge
namespace Tcp

open Foundation Bytes

/-!
# Which acknowledgments reach the sender

Every synchronized state has its own case of `segment_received`, and each case
decides whether it hands the acknowledgment to the sender.  Where it does, the
acknowledged number becomes the first unacknowledged one, and no later tick
sends a segment below it again.  CLOSE_WAIT does so only for a segment with a
FIN.
-/

/-- The states in which both initial sequence numbers are known and the
outbound stream is not acknowledged in full. -/
def synchronizedStates : List TCPState.State :=
  [.established, .finWait1, .finWait2, .closeWait, .closing, .lastAck]

/-- Every retained segment reaches beyond the first unacknowledged number. -/
theorem Retains.mem {isn : WrappingInt32} {first next start : Nat} {segments : List TCPSegment}
    (retains : Retains isn first next start segments) {segment : TCPSegment}
    (member : segment ∈ segments) :
    Exists fun place => segment.header.seqno = wrap place isn ∧
      first < place + segment.lengthInSequenceSpace ∧
      place + segment.lengthInSequenceSpace ≤ next := by
  cases segments with
  | nil => cases member
  | cons head rest =>
      have reaches := retains.reaches head rfl
      rcases List.mem_cons.mp member with rfl | later
      · exact ⟨start, retains.laid.1, reaches, retains.laid.2.2.le⟩
      · rcases retains.laid.2.2.mem later with ⟨place, seqno, after, positive, within⟩
        exact ⟨place, seqno, by omega, within⟩

namespace TCPSender

/-- What a tick puts on the outbound queue. -/
def resends (sender : TCPSender) (msSinceLastTick : Nat) : List TCPSegment :=
  (sender.tick msSinceLastTick).segmentsOut.drop sender.segmentsOut.length

theorem resends_outstanding {sender : TCPSender} {msSinceLastTick : Nat} {segment : TCPSegment}
    (member : segment ∈ sender.resends msSinceLastTick) :
    segment ∈ sender.window.outstanding := by
  rcases (sender.tick_spec msSinceLastTick).segmentsOut_eq with ⟨again, sent, inside⟩
  unfold resends at member
  rw [sent, List.drop_left] at member
  exact inside segment member

/-- A segment that is sent again is not acknowledged in full. -/
theorem Queued.resends_above {sender : TCPSender} (queued : sender.Queued)
    (low : sender.window.nextSeqno < 2 ^ 31) {msSinceLastTick : Nat} {segment : TCPSegment}
    (member : segment ∈ sender.resends msSinceLastTick) :
    sender.window.firstSeqno <
      sender.window.absoluteSeqno segment + segment.lengthInSequenceSpace := by
  rcases queued with ⟨⟨start, retains⟩, _⟩
  rcases Retains.mem retains (resends_outstanding member) with ⟨place, seqno, above, within⟩
  rw [TCPSendingWindow.absoluteSeqno_eq low (by omega) seqno]
  exact above

/-- An accepted acknowledgment moves the first unacknowledged number. -/
theorem ackReceived_firstSeqno {sender filled : TCPSender} {ackno : WrappingInt32}
    {windowSize : UInt16} (received : sender.ackReceived ackno windowSize = .ok filled) :
    filled.window.firstSeqno =
      if sender.window.Accepts ackno then unwrap ackno sender.window.isn sender.window.nextSeqno
      else sender.window.firstSeqno := by
  rcases ackReceived_spec received with ⟨updated, segments, took, sends⟩
  rw [sends.frame.firstSeqno_eq, took.firstSeqno_eq]

theorem ackReceived_firstSeqno_le {sender filled : TCPSender} {ackno : WrappingInt32}
    {windowSize : UInt16} (received : sender.ackReceived ackno windowSize = .ok filled) :
    sender.window.firstSeqno ≤ filled.window.firstSeqno := by
  rw [ackReceived_firstSeqno received]
  split
  · rename_i accepts
    exact accepts.1
  · exact Nat.le_refl _

end TCPSender

namespace TCPConnection

/-- The parts of a method move neither the initial nor the first
unacknowledged number. -/
theorem firstSeqno_keptByParts (property : WrappingInt32 -> Nat -> Prop) :
    KeptByParts (fun connection =>
      property connection.sender.window.isn connection.sender.window.firstSeqno) where
  flags := fun _ _ _ kept => kept
  clock := fun _ _ kept => kept
  collect := by
    intro connection final kept done
    rcases collect_spec done with ⟨filled, fills, rfl⟩
    rcases TCPSender.fillWindow_sends fills with ⟨segments, sends⟩
    change property filled.window.isn filled.window.firstSeqno
    rw [sends.frame.isn_eq, sends.frame.firstSeqno_eq]
    exact kept
  push := by
    intro connection final kept done
    rcases pushAck_spec done with ⟨ackno, _, rfl⟩
    exact kept
  queue := by
    intro connection final kept done
    rcases queueAck_spec done with ⟨ackno, _, rfl⟩
    exact kept
  empty := fun _ kept => kept
  reset := fun _ kept => kept
  tickSender := by
    intro connection msSinceLastTick kept
    have ticked := connection.sender.tick_spec msSinceLastTick
    dsimp only
    rw [ticked.isn_eq, ticked.firstSeqno_eq]
    exact kept
  pushRst := fun _ kept => kept

/-- The absolute number a segment acknowledges, as the sender unwraps it. -/
def acknowledged (connection : TCPConnection) (segment : TCPSegment) : Nat :=
  unwrap segment.header.ackno connection.sender.window.isn connection.sender.window.nextSeqno

/-- The segment acknowledges new data. -/
structure Fresh (connection : TCPConnection) (segment : TCPSegment) : Prop where
  above : connection.sender.window.firstSeqno < connection.acknowledged segment
  within : connection.acknowledged segment ≤ connection.sender.window.nextSeqno

instance (connection : TCPConnection) (segment : TCPSegment) :
    Decidable (connection.Fresh segment) :=
  decidable_of_iff
    (connection.sender.window.firstSeqno < connection.acknowledged segment ∧
      connection.acknowledged segment ≤ connection.sender.window.nextSeqno)
    ⟨fun both => ⟨both.1, both.2⟩, fun fresh => ⟨fresh.above, fresh.within⟩⟩

/-- Another stage of the same method: nothing has been acknowledged, and
sequence numbers have only moved on. -/
structure Awaits (connection other : TCPConnection) : Prop where
  isn_eq : other.sender.window.isn = connection.sender.window.isn
  firstSeqno_eq : other.sender.window.firstSeqno = connection.sender.window.firstSeqno
  nextSeqno_le : connection.sender.window.nextSeqno ≤ other.sender.window.nextSeqno

theorem awaits_keptByParts (connection : TCPConnection) :
    KeptByParts (fun other => connection.Awaits other) := by
  have parts := (firstSeqno_keptByParts (fun isn first =>
    isn = connection.sender.window.isn ∧ first = connection.sender.window.firstSeqno)).and
    (atLeast_keptByParts connection.sender.window.nextSeqno)
  have same (other : TCPConnection) : connection.Awaits other <->
      (other.sender.window.isn = connection.sender.window.isn ∧
        other.sender.window.firstSeqno = connection.sender.window.firstSeqno) ∧
      connection.sender.window.nextSeqno ≤ other.sender.window.nextSeqno :=
    ⟨fun awaits => ⟨⟨awaits.isn_eq, awaits.firstSeqno_eq⟩, awaits.nextSeqno_le⟩,
      fun both => ⟨both.1.1, both.1.2, both.2⟩⟩
  simp only [same]
  exact parts

section

variable {connection other acked final : TCPConnection} {segment : TCPSegment}

/-- Wherever in the method the sender is handed the acknowledgment, it takes
it. -/
theorem Awaits.takeAck (awaits : connection.Awaits other) (fresh : connection.Fresh segment)
    (low : other.sender.window.nextSeqno < 2 ^ 31)
    (taken : other.takeAck segment = .ok acked) :
    acked.sender.window.firstSeqno = connection.acknowledged segment := by
  have onward := awaits.nextSeqno_le
  have above := fresh.above
  have within := fresh.within
  have number : unwrap segment.header.ackno other.sender.window.isn
      other.sender.window.nextSeqno = connection.acknowledged segment := by
    unfold acknowledged
    rw [awaits.isn_eq, unwrap_eq_offset _ _ (by omega), unwrap_eq_offset _ _ (by omega)]
  rcases takeAck_spec taken with ⟨sender, received, rfl⟩
  have moved := TCPSender.ackReceived_firstSeqno received
  have accepts : other.sender.window.Accepts segment.header.ackno := by
    unfold TCPSendingWindow.Accepts
    rw [number, awaits.firstSeqno_eq]
    omega
  rw [if_pos accepts, number] at moved
  exact moved

theorem takeAndReply_awaits (awaits : connection.Awaits other)
    (done : other.takeAndReply segment = .ok final) : connection.Awaits final := by
  have parts := awaits_keptByParts connection
  rcases takeAndReply_cases done with ⟨queued, _, queues, collects⟩ | ⟨_, rfl⟩
  · have taken : connection.Awaits (other.takeSegment segment) :=
      ⟨awaits.isn_eq, awaits.firstSeqno_eq, awaits.nextSeqno_le⟩
    exact parts.collect _ _ (parts.queue _ _ taken queues) collects
  · exact awaits

/-- The first unacknowledged number is the one asked about. -/
def AckedAt (number : Nat) (connection : TCPConnection) : Prop :=
  connection.sender.window.firstSeqno = number

theorem ackedAt_keptByParts (number : Nat) : KeptByParts (AckedAt number) :=
  firstSeqno_keptByParts (fun _ first => first = number)

theorem inEstablished_acks (fresh : connection.Fresh segment) (ack : segment.header.ack = true)
    (fits : ¬ connection.Overruns segment) (done : connection.inEstablished segment = .ok final) :
    AckedAt (connection.acknowledged segment) final := by
  rcases inEstablished_cases done with ⟨linger, replied, _, replies, rest⟩
  have low : replied.sender.window.nextSeqno < 2 ^ 31 := by
    by_contra high
    exact fits ⟨{ connection with lingerAfterStreamsFinish := linger }, replied, rfl, rfl, replies,
      Nat.le_of_not_lt high⟩
  have start : connection.Awaits { connection with lingerAfterStreamsFinish := linger } :=
    ⟨rfl, rfl, Nat.le_refl _⟩
  have awaits := takeAndReply_awaits start replies
  rcases ackAndCollect_cases rest with ⟨acked, _, taken, collects⟩ | ⟨unset, _⟩
  · exact (ackedAt_keptByParts _).collect _ _ (awaits.takeAck fresh low taken) collects
  · cases ack.symm.trans unset

/-- In FIN_WAIT_2 nothing is left to acknowledge. -/
theorem not_fresh_of_finWait2 (current : connection.state = .ofState .finWait2) :
    ¬ connection.Fresh segment := by
  intro fresh
  have summary : TCPState.senderSummary connection.sender = .finAcked :=
    congrArg TCPState.sender current
  have above := fresh.above
  have within := fresh.within
  have landed : connection.sender.bytesInFlight = 0 := by
    unfold TCPState.senderSummary at summary
    split_ifs at summary with failed unused unacked unfinished early flying
    exact not_not.mp flying
  unfold TCPSender.bytesInFlight TCPSendingWindow.bytesInFlight at landed
  omega

/-- A bare acknowledgment makes no state fill the window before looking at it. -/
theorem not_overruns_of_bare (low : connection.sender.window.nextSeqno < 2 ^ 31)
    (empty : segment.lengthInSequenceSpace = 0) (ack : segment.header.ack = true) :
    ¬ connection.Overruns segment := by
  rintro ⟨noted, replied, sender_eq, _, replies, high⟩
  rcases takeAndReply_cases replies with ⟨queued, nonempty | unflagged, _⟩ | ⟨_, rfl⟩
  · exact nonempty empty
  · exact unflagged ack
  · rw [sender_eq] at high
    omega

/-- Every synchronized state hands a fresh acknowledgment to the sender,
except CLOSE_WAIT if there is no FIN. -/
theorem handle_acks {state : TCPState.State} (member : state ∈ synchronizedStates)
    (current : connection.state = .ofState state) (fresh : connection.Fresh segment)
    (ack : segment.header.ack = true) (low : connection.sender.window.nextSeqno < 2 ^ 31)
    (fits : ¬ connection.Overruns segment)
    (forwards : state ≠ .closeWait ∨ segment.header.fin = true)
    (done : connection.handle segment state = .ok final) :
    AckedAt (connection.acknowledged segment) final := by
  have parts := ackedAt_keptByParts (connection.acknowledged segment)
  have here : connection.Awaits connection := ⟨rfl, rfl, Nat.le_refl _⟩
  have taken : connection.Awaits (connection.takeSegment segment) := ⟨rfl, rfl, Nat.le_refl _⟩
  cases state with
  | established => exact inEstablished_acks fresh ack fits done
  | finWait1 => exact inEstablished_acks fresh ack fits done
  | finWait2 => exact absurd fresh (not_fresh_of_finWait2 current)
  | lastAck =>
      have done := (if_pos ack).symm.trans done
      rcases bind_ok done with ⟨acked, takes, rest⟩
      have kept := here.takeAck fresh low takes
      cases rest
      split
      · exact parts.flags acked _ _ kept
      · exact kept
  | closing =>
      have done := (if_pos ack).symm.trans done
      rcases bind_ok done with ⟨acked, takes, collects⟩
      exact parts.collect _ _ (taken.takeAck fresh low takes) collects
  | closeWait =>
      have fin : segment.header.fin = true := forwards.resolve_left (fun other => other rfl)
      have done := (if_pos fin).symm.trans done
      rcases bind_ok done with ⟨acked, takes, pushes⟩
      exact parts.push _ _ (here.takeAck fresh low takes) pushes
  | listen => exact absurd member (by decide)
  | synRcvd => exact absurd member (by decide)
  | synSent => exact absurd member (by decide)
  | timeWait => exact absurd member (by decide)
  | closed => exact absurd member (by decide)
  | reset => exact absurd member (by decide)

/-- Without a FIN, CLOSE_WAIT leaves the sender's queue as it is. -/
theorem segmentReceived_of_closeWait (current : connection.state = .ofState .closeWait)
    (noRst : segment.header.rst = false) (noFin : segment.header.fin = false)
    (received : connection.segmentReceived segment = .ok final) :
    AckedAt connection.sender.window.firstSeqno final := by
  have official : connection.heard.state = .ofState .closeWait := current
  rcases handles_of_state official noRst received with ⟨dispatched, handled, answered⟩
  have same : dispatched = connection.heard := by
    unfold handle inCloseWait at handled
    rw [noFin] at handled
    cases handled
    rfl
  have start : AckedAt connection.sender.window.firstSeqno dispatched := by
    rw [same]
    rfl
  exact keepAlive_keeps (ackedAt_keptByParts _).toKeptUntimed start answered

theorem segmentReceived_acks {state : TCPState.State} (member : state ∈ synchronizedStates)
    (current : connection.state = .ofState state) (fresh : connection.Fresh segment)
    (noRst : segment.header.rst = false) (ack : segment.header.ack = true)
    (low : connection.sender.window.nextSeqno < 2 ^ 31) (fits : ¬ connection.Overruns segment)
    (forwards : state ≠ .closeWait ∨ segment.header.fin = true)
    (received : connection.segmentReceived segment = .ok final) :
    AckedAt (connection.acknowledged segment) final := by
  have official : connection.heard.state = .ofState state := current
  rcases handles_of_state official noRst received with ⟨dispatched, handled, answered⟩
  have heardFresh : connection.heard.Fresh segment := ⟨fresh.above, fresh.within⟩
  have heardLow : connection.heard.sender.window.nextSeqno < 2 ^ 31 := low
  have heardFits : ¬ connection.heard.Overruns segment := fits
  have acked : AckedAt (connection.heard.acknowledged segment) dispatched :=
    handle_acks member official heardFresh ack heardLow heardFits forwards handled
  exact keepAlive_keeps (ackedAt_keptByParts _).toKeptUntimed acked answered

/-! ## Later ticks -/

/-- What is acknowledged stays acknowledged. -/
theorem perform_firstSeqno_eq {op : OwnerOp} (performed : connection.perform op = .ok final) :
    AckedAt connection.sender.window.firstSeqno final :=
  perform_keeps (ackedAt_keptByParts _) (fun _ => rfl) rfl (fun _ => rfl) rfl performed

theorem segmentReceived_firstSeqno_le (received : connection.segmentReceived segment = .ok final) :
    connection.sender.window.firstSeqno ≤ final.sender.window.firstSeqno := by
  refine segmentReceived_keeps
    (firstSeqno_keptByParts (fun _ first => connection.sender.window.firstSeqno ≤ first)) ?_ ?_
    (Nat.le_refl _) received
  · intro other _ _ least
    exact least
  · intro other acked _ least taken
    rcases takeAck_spec taken with ⟨sender, acknowledged, rfl⟩
    exact Nat.le_trans least (TCPSender.ackReceived_firstSeqno_le acknowledged)

theorem step_nextSeqno_le {op : ConnectionOp} (taken : connection.step op = .ok final) :
    connection.sender.window.nextSeqno ≤ final.sender.window.nextSeqno := by
  cases op with
  | owner op => exact perform_nextSeqno_le taken
  | segmentReceived segment => exact segmentReceived_nextSeqno_le taken

theorem step_firstSeqno_le {op : ConnectionOp} (taken : connection.step op = .ok final) :
    connection.sender.window.firstSeqno ≤ final.sender.window.firstSeqno := by
  cases op with
  | owner op => exact Nat.le_of_eq (perform_firstSeqno_eq taken).symm
  | segmentReceived segment => exact segmentReceived_firstSeqno_le taken

theorem step_queued {op : ConnectionOp} (queued : connection.sender.Queued)
    (taken : connection.step op = .ok final) (low : final.sender.window.nextSeqno < 2 ^ 31) :
    final.sender.Queued := by
  cases op with
  | owner op => exact perform_queued queued taken
  | segmentReceived segment => exact segmentReceived_queued queued taken low

end

/-- The acknowledgment has been honoured: the number is the first
unacknowledged one, and no later tick sends a segment wholly below it. -/
structure Acknowledged (final : TCPConnection) (number : Nat) : Prop where
  first : final.sender.window.firstSeqno = number
  resent : forall ops later, run step final ops = .ok later ->
    later.sender.window.nextSeqno < 2 ^ 31 -> forall msSinceLastTick segment,
      segment ∈ later.sender.resends msSinceLastTick ->
        number < later.sender.window.absoluteSeqno segment + segment.lengthInSequenceSpace

/-- The segment is received without a fault and its acknowledgment honoured. -/
def Honours (connection : TCPConnection) (segment : TCPSegment) : Prop :=
  Exists fun final => connection.segmentReceived segment = .ok final ∧
    final.Acknowledged (connection.acknowledged segment)

theorem run_queued {connection later : TCPConnection} {ops : List ConnectionOp}
    (queued : connection.sender.Queued) (done : run step connection ops = .ok later)
    (low : later.sender.window.nextSeqno < 2 ^ 31) :
    later.sender.Queued ∧
      connection.sender.window.firstSeqno ≤ later.sender.window.firstSeqno := by
  apply run_invariant_within
    (fun other : TCPConnection => other.sender.window.nextSeqno < 2 ^ 31)
    (fun other => other.sender.Queued ∧
      connection.sender.window.firstSeqno ≤ other.sender.window.firstSeqno)
    _ _ ⟨queued, Nat.le_refl _⟩ (runMeets_of_forall (fun _ _ => trivial) _ _) done low
  · intro state label next taken below
    exact Nat.lt_of_le_of_lt (step_nextSeqno_le taken) below
  · intro state label next kept _ taken below
    exact ⟨step_queued kept.1 taken below, Nat.le_trans kept.2 (step_firstSeqno_le taken)⟩

theorem acknowledged_of_queued {final : TCPConnection} (queued : final.sender.Queued) :
    final.Acknowledged final.sender.window.firstSeqno where
  first := rfl
  resent := by
    intro ops later done low msSinceLastTick segment member
    rcases run_queued queued done low with ⟨still, onward⟩
    exact Nat.lt_of_le_of_lt onward (still.resends_above low member)

end TCPConnection

/-- **Which valid acknowledgments are honoured.**  In a synchronized state of
any run below `2 ^ 31`, a segment with a fresh acknowledgment is received and
the acknowledgment honoured exactly if the state is not CLOSE_WAIT or the
segment carries a FIN. -/
theorem acknowledgment_honoured_iff (cfg : TCPConfig) (random : WrappingInt32)
    (ops : List ConnectionOp) (connection : TCPConnection)
    (reached : run TCPConnection.step (TCPConnection.new cfg random) ops = .ok connection)
    (low : connection.sender.window.nextSeqno < 2 ^ 31) (state : TCPState.State)
    (synchronized : state ∈ synchronizedStates) (current : connection.state = .ofState state)
    (segment : TCPSegment) (noRst : segment.header.rst = false)
    (ack : segment.header.ack = true) (fresh : connection.Fresh segment)
    (fits : ¬ connection.Overruns segment) :
    connection.Honours segment <-> state ≠ .closeWait ∨ segment.header.fin = true := by
  have queued := (TCPConnection.run_queued (TCPConnection.new_queued cfg random) reached low).1
  constructor
  · rintro ⟨final, received, honoured⟩
    by_contra neither
    rcases not_or.mp neither with ⟨closeWait, noFin⟩
    have stays := TCPConnection.segmentReceived_of_closeWait
      (not_not.mp closeWait ▸ current) noRst (Bool.eq_false_iff.mpr noFin) received
    have above := fresh.above
    have moved := honoured.first
    unfold TCPConnection.AckedAt at stays
    omega
  · intro forwards
    rcases TCPConnection.segmentReceived_goesThrough queued low fits with
      ⟨final, received, still⟩
    have acked := TCPConnection.segmentReceived_acks synchronized current fresh noRst ack low fits
      forwards received
    exact ⟨final, received, acked ▸ TCPConnection.acknowledged_of_queued still⟩

/-- In LAST_ACK the acknowledgment of the byte before the FIN is honoured. -/
theorem acknowledgment_honoured_lastAck :
    let cfg : TCPConfig := { recvCapacity := ⟨8, by decide⟩, sendCapacity := ⟨8, by decide⟩ }
    let start := TCPConnection.new cfg ⟨0⟩
    let ops : List ConnectionOp :=
      [.owner .connect,
        .segmentReceived
          { header := { seqno := ⟨100⟩, ackno := ⟨1⟩, win := 10, syn := true, ack := true } },
        .segmentReceived
          { header := { seqno := ⟨101⟩, ackno := ⟨1⟩, win := 10, fin := true, ack := true } },
        .owner (.write [5]), .owner .endInputStream]
    let segment : TCPSegment :=
      { header := { seqno := ⟨102⟩, ackno := ⟨2⟩, win := 10, ack := true } }
    Exists fun connection => run TCPConnection.step start ops = .ok connection ∧
      connection.state = .ofState .lastAck ∧ connection.Honours segment := by
  intro cfg start ops segment
  have checked : endsIn TCPConnection.step (fun connection =>
      decide (connection.state = .ofState .lastAck ∧ connection.Fresh segment ∧
        connection.sender.window.nextSeqno < 2 ^ 31)) start ops = true := by decide +kernel
  rcases run_of_endsIn checked with ⟨connection, reached, facts⟩
  rcases of_decide_eq_true facts with ⟨current, fresh, low⟩
  have fits : ¬ connection.Overruns segment :=
    TCPConnection.not_overruns_of_bare low rfl rfl
  exact ⟨connection, reached, current,
    (acknowledgment_honoured_iff cfg ⟨0⟩ ops connection reached low .lastAck (by decide) current
      segment rfl rfl fresh fits).mpr (Or.inl nofun)⟩

/-- In CLOSE_WAIT the plain acknowledgment of an outstanding byte is ignored. -/
theorem acknowledgment_ignored_in_closeWait :
    let cfg : TCPConfig := { recvCapacity := ⟨8, by decide⟩, sendCapacity := ⟨8, by decide⟩ }
    let start := TCPConnection.new cfg ⟨0⟩
    let ops : List ConnectionOp :=
      [.owner .connect,
        .segmentReceived
          { header := { seqno := ⟨100⟩, ackno := ⟨1⟩, win := 10, syn := true, ack := true } },
        .segmentReceived
          { header := { seqno := ⟨101⟩, ackno := ⟨1⟩, win := 10, fin := true, ack := true } },
        .owner (.write [5])]
    let segment : TCPSegment :=
      { header := { seqno := ⟨102⟩, ackno := ⟨2⟩, win := 10, ack := true } }
    Exists fun connection => run TCPConnection.step start ops = .ok connection ∧
      connection.sender.window.nextSeqno < 2 ^ 31 ∧ connection.state = .ofState .closeWait ∧
      connection.Fresh segment ∧
      (forall final, connection.segmentReceived segment = .ok final ->
        final.sender.window.nextSeqno < 2 ^ 31) ∧
      ¬ connection.Honours segment := by
  intro cfg start ops segment
  have checked : endsIn TCPConnection.step (fun connection =>
      decide (connection.state = .ofState .closeWait ∧ connection.Fresh segment ∧
        connection.sender.window.nextSeqno < 2 ^ 31) &&
      match connection.segmentReceived segment with
      | .ok final => decide (final.sender.window.nextSeqno < 2 ^ 31 ∧
          final.sender.window.firstSeqno ≠ connection.acknowledged segment)
      | .error _ => false) start ops = true := by decide +kernel
  rcases run_of_endsIn checked with ⟨connection, reached, facts⟩
  rcases Bool.and_eq_true_iff.mp facts with ⟨before, after⟩
  rcases of_decide_eq_true before with ⟨current, fresh, low⟩
  cases received : connection.segmentReceived segment with
  | error fault =>
      rw [received] at after
      cases after
  | ok final =>
      rw [received] at after
      rcases of_decide_eq_true after with ⟨stillLow, unmoved⟩
      refine ⟨connection, reached, low, current, fresh, ?_, ?_⟩
      · intro other done
        cases received.symm.trans done
        exact stillLow
      · rintro ⟨other, done, honoured⟩
        cases received.symm.trans done
        exact unmoved honoured.first

end Tcp
end Sponge
