import Sponge.Tcp.Connection

namespace Sponge
namespace Tcp

/-!
# The parts a connection's methods are made of

Every method of a connection is a sequence of a few parts: handing a segment
to the receiver, an acknowledgment to the sender, a bare acknowledgment or an
empty segment to a queue, collecting what the sender has to send, and setting
bits.  What all parts keep, all methods keep.
-/

theorem bind_ok {Value Result : Type} {first : Except Fault Value}
    {rest : Value -> Except Fault Result} {result : Result}
    (done : first >>= rest = .ok result) :
    Exists fun value => first = .ok value ∧ rest value = .ok result := by
  cases first with
  | error fault => cases done
  | ok value => exact ⟨value, rfl, done⟩

namespace TCPConnection

/-- Whether an official state hands a segment to the receiver. -/
def takesIn (segment : TCPSegment) : TCPState.State -> Bool
  | .listen | .synSent => segment.header.syn
  | .synRcvd | .closing => segment.header.ack
  | .established | .finWait1 =>
      decide (segment.lengthInSequenceSpace ≠ 0) || !segment.header.ack
  | .finWait2 => segment.header.fin && segment.header.ack
  | .closeWait | .lastAck | .timeWait | .closed | .reset => false

/-- The states in which segments can reach the receiver. -/
def takingStates : List TCPState.State :=
  [.listen, .synSent, .synRcvd, .closing, .established, .finWait1, .finWait2]

/-- Whether a segment is handed to the receiver. -/
def takes (connection : TCPConnection) (segment : TCPSegment) : Bool :=
  !segment.header.rst &&
    takingStates.any (fun state => connection.state = .ofState state && takesIn segment state)

theorem takes_intro {connection : TCPConnection} {segment : TCPSegment} {state : TCPState.State}
    (noRst : segment.header.rst = false) (current : connection.state = .ofState state)
    (taking : takesIn segment state = true) : connection.takes segment = true := by
  unfold takes
  rw [noRst, current]
  cases state with
  | closeWait => cases taking
  | lastAck => cases taking
  | timeWait => cases taking
  | closed => cases taking
  | reset => cases taking
  | _ => simp [takingStates, TCPState.ofState, taking]

/-- The branch of `segment_received` for an official state. -/
def handle (connection : TCPConnection) (segment : TCPSegment) :
    TCPState.State -> Except Fault TCPConnection
  | .listen => connection.inListen segment
  | .synSent => connection.inSynSent segment
  | .synRcvd => connection.inSynRcvd segment
  | .established | .finWait1 => connection.inEstablished segment
  | .finWait2 => connection.inFinWait2 segment
  | .lastAck => connection.inLastAck segment
  | .closing => connection.inClosing segment
  | .closeWait => connection.inCloseWait segment
  | .timeWait => connection.inTimeWait segment
  | .closed | .reset => return connection

/-- In an official state the chain of comparisons ends in that state's branch. -/
theorem dispatch_eq {connection : TCPConnection} {state : TCPState.State}
    (segment : TCPSegment) (current : connection.state = .ofState state) :
    connection.dispatch segment = connection.handle segment state := by
  unfold dispatch
  rw [current]
  cases state <;> simp [TCPState.ofState, handle]

/-- Outside the official states a segment is passed over. -/
theorem dispatch_of_unofficial {connection : TCPConnection} (segment : TCPSegment)
    (unofficial : forall state, connection.state ≠ .ofState state) :
    connection.dispatch segment = .ok connection := by
  unfold dispatch
  simp only [unofficial, if_false, or_self]
  rfl

/-- The comparisons end in the branch of the current state, or none of them holds. -/
theorem dispatch_cases {connection final : TCPConnection} {segment : TCPSegment}
    (done : connection.dispatch segment = .ok final) :
    (Exists fun state => connection.state = .ofState state ∧
        connection.handle segment state = .ok final) ∨ final = connection := by
  by_cases official : Exists fun state => connection.state = .ofState state
  · rcases official with ⟨state, current⟩
    rw [dispatch_eq segment current] at done
    exact Or.inl ⟨state, current, done⟩
  · rw [dispatch_of_unofficial segment fun state current => official ⟨state, current⟩] at done
    cases done
    exact Or.inr rfl

/-! ## What each part does -/

theorem collect_spec {connection final : TCPConnection}
    (done : connection.collectSenderSegmentsOut = .ok final) :
    Exists fun filled => connection.sender.fillWindow = .ok filled ∧
      final = { connection with
        sender := { filled with segmentsOut := [] }
        segmentsOut := connection.segmentsOut ++ filled.segmentsOut.map connection.stamped } := by
  unfold collectSenderSegmentsOut at done
  cases filled : connection.sender.fillWindow with
  | error fault =>
      rw [filled] at done
      cases done
  | ok sender =>
      rw [filled] at done
      cases done
      exact ⟨sender, rfl, rfl⟩

/-- A filled window is collected. -/
theorem collect_of_fills {connection : TCPConnection} {filled : TCPSender}
    (fills : connection.sender.fillWindow = .ok filled) :
    connection.collectSenderSegmentsOut = .ok { connection with
      sender := { filled with segmentsOut := [] }
      segmentsOut := connection.segmentsOut ++ filled.segmentsOut.map connection.stamped } := by
  unfold collectSenderSegmentsOut
  rw [fills]

theorem addAckInfo_spec {connection : TCPConnection} {segment stamped : TCPSegment}
    (done : connection.addAckInfo segment = .ok stamped) :
    Exists fun ackno => connection.receiver.ackno = some ackno ∧
      stamped = ackInfo ackno connection.receiver.windowSize segment := by
  unfold addAckInfo at done
  cases acks : connection.receiver.ackno with
  | none =>
      rw [acks] at done
      cases done
  | some ackno =>
      rw [acks] at done
      cases done
      exact ⟨ackno, rfl, rfl⟩

theorem pushAck_spec {connection final : TCPConnection} (done : connection.pushAck = .ok final) :
    Exists fun ackno => connection.receiver.ackno = some ackno ∧
      final = { connection with
        segmentsOut := connection.segmentsOut ++
          [ackInfo ackno connection.receiver.windowSize {}] } := by
  unfold pushAck at done
  cases added : connection.addAckInfo {} with
  | error fault =>
      rw [added] at done
      cases done
  | ok segment =>
      rw [added] at done
      cases done
      rcases addAckInfo_spec added with ⟨ackno, acks, rfl⟩
      exact ⟨ackno, acks, rfl⟩

theorem queueAck_spec {connection final : TCPConnection} (done : connection.queueAck = .ok final) :
    Exists fun ackno => connection.receiver.ackno = some ackno ∧
      final = { connection with
        sender := connection.sender.send
          (ackInfo ackno connection.receiver.windowSize {}) } := by
  unfold queueAck at done
  cases added : connection.addAckInfo {} with
  | error fault =>
      rw [added] at done
      cases done
  | ok segment =>
      rw [added] at done
      cases done
      rcases addAckInfo_spec added with ⟨ackno, acks, rfl⟩
      exact ⟨ackno, acks, rfl⟩

theorem takeAck_spec {connection final : TCPConnection} {segment : TCPSegment}
    (done : connection.takeAck segment = .ok final) :
    Exists fun sender =>
      connection.sender.ackReceived segment.header.ackno segment.header.win = .ok sender ∧
        final = { connection with sender := sender } := by
  unfold takeAck at done
  cases acked : connection.sender.ackReceived segment.header.ackno segment.header.win with
  | error fault =>
      rw [acked] at done
      cases done
  | ok sender =>
      rw [acked] at done
      cases done
      exact ⟨sender, rfl, rfl⟩

/-- The connection after bytes have been written to its outbound stream. -/
def wrote (connection : TCPConnection) (data : List UInt8) : TCPConnection :=
  { connection with
    sender := { connection.sender with stream := (connection.sender.stream.write data).1 } }

/-- The connection after its outbound stream has been ended. -/
def ended (connection : TCPConnection) : TCPConnection :=
  { connection with
    sender := { connection.sender with stream := connection.sender.stream.endInput } }

theorem write_spec {connection final : TCPConnection} {data : List UInt8} {count : Nat}
    (done : connection.write data = .ok (final, count)) :
    count = (connection.sender.stream.write data).2 ∧
      (connection.wrote data).collectSenderSegmentsOut = .ok final := by
  unfold write at done
  dsimp only at done
  split at done
  · cases done
  · rename_i collected collects
    cases done
    exact ⟨rfl, collects⟩

/-! ## What each method does -/

/-- The connection once a tick has moved its clock. -/
def elapsed (connection : TCPConnection) (msSinceLastTick : Nat) : TCPConnection :=
  { connection with
    timeSinceLastSegmentReceived :=
      (connection.timeSinceLastSegmentReceived + msSinceLastTick) % 2 ^ 64 }

theorem stopLingering_sender (connection : TCPConnection) :
    connection.stopLingering.sender = connection.sender := by
  unfold stopLingering
  split
  · rfl
  · rfl

theorem stopLingering_segmentsOut (connection : TCPConnection) :
    connection.stopLingering.segmentsOut = connection.segmentsOut := by
  unfold stopLingering
  split
  · rfl
  · rfl

/-- A tick gives the connection up, or it collects, or it does neither. -/
theorem tick_cases {connection final : TCPConnection} {msSinceLastTick : Nat}
    (done : connection.tick msSinceLastTick = .ok final) :
    Exists fun ticked : TCPConnection =>
      ticked = { (connection.elapsed msSinceLastTick).stopLingering with
        sender := connection.sender.tick msSinceLastTick } ∧
        ((TCPConfig.maxRetxAttempts < ticked.sender.consecutiveRetransmissions ∧
            final = ticked.uncleanShutdown) ∨
          (ticked.sender.consecutiveRetransmissions ≤ TCPConfig.maxRetxAttempts ∧
            (ticksCollect connection.state = true ∧
                ticked.collectSenderSegmentsOut = .ok final ∨
              ticksCollect connection.state = false ∧ final = ticked))) := by
  refine ⟨_, rfl, ?_⟩
  have same : (connection.elapsed msSinceLastTick).stopLingering.sender = connection.sender :=
    stopLingering_sender _
  rw [← same]
  unfold tick at done
  dsimp only at done
  split at done
  · rename_i many
    cases done
    exact Or.inl ⟨many, rfl⟩
  · rename_i few
    refine Or.inr ⟨Nat.le_of_not_lt few, ?_⟩
    split at done
    · rename_i collects
      exact Or.inl ⟨collects, done⟩
    · rename_i passes
      cases done
      exact Or.inr ⟨Bool.eq_false_of_not_eq_true passes, rfl⟩

/-- The segment looks like a keep-alive: empty, with the number before the next. -/
def Probed (connection : TCPConnection) (segment : TCPSegment) : Prop :=
  segment.lengthInSequenceSpace = 0 ∧
    connection.receiver.ackno.map (fun ackno : WrappingInt32 => ackno - (1 : UInt32)) =
      some segment.header.seqno

instance (connection : TCPConnection) (segment : TCPSegment) :
    Decidable (connection.Probed segment) :=
  inferInstanceAs (Decidable (_ ∧ _))

theorem keepAlive_cases {connection final : TCPConnection} {segment : TCPSegment}
    (done : connection.keepAlive segment = .ok final) :
    (connection.Probed segment ∧
        { connection with
          sender := connection.sender.sendEmptySegment }.collectSenderSegmentsOut = .ok final) ∨
      (¬ connection.Probed segment ∧ final = connection) := by
  unfold keepAlive at done
  unfold Probed
  cases acks : connection.receiver.ackno with
  | none =>
      rw [acks] at done
      cases done
      exact Or.inr ⟨(fun probed => nomatch probed.2), rfl⟩
  | some ackno =>
      rw [acks] at done
      dsimp only at done
      split at done
      · rename_i probed
        refine Or.inl ⟨⟨probed.1, ?_⟩, done⟩
        rw [probed.2]
        rfl
      · rename_i other
        cases done
        refine Or.inr ⟨fun probed => other ⟨probed.1, ?_⟩, rfl⟩
        exact (Option.some.inj probed.2).symm

/-- A reset ends the connection.  Anything else goes through the comparisons, and then
is looked at as a keep-alive. -/
theorem segmentReceived_cases {connection final : TCPConnection} {segment : TCPSegment}
    (done : connection.segmentReceived segment = .ok final) :
    (segment.header.rst = true ∧ final = connection.heard.resetReceived) ∨
      (segment.header.rst = false ∧ Exists fun dispatched =>
        connection.heard.dispatch segment = .ok dispatched ∧
          dispatched.keepAlive segment = .ok final) := by
  unfold segmentReceived at done
  split at done
  · rename_i rst
    cases done
    exact Or.inl ⟨rst, rfl⟩
  · rename_i noRst
    exact Or.inr ⟨Bool.eq_false_of_not_eq_true noRst, bind_ok done⟩

theorem handles_of_state {connection final : TCPConnection} {segment : TCPSegment}
    {state : TCPState.State} (official : connection.heard.state = .ofState state)
    (noRst : segment.header.rst = false)
    (done : connection.segmentReceived segment = .ok final) :
    Exists fun dispatched => connection.heard.handle segment state = .ok dispatched ∧
      dispatched.keepAlive segment = .ok final := by
  rcases segmentReceived_cases done with ⟨rst, _⟩ | ⟨_, dispatched, handled, answered⟩
  · cases noRst.symm.trans rst
  · rw [dispatch_eq segment official] at handled
    exact ⟨dispatched, handled, answered⟩

/-- ESTABLISHED and FIN_WAIT_1 note a FIN, reply, and then take the acknowledgment. -/
theorem inEstablished_cases {connection final : TCPConnection} {segment : TCPSegment}
    (done : connection.inEstablished segment = .ok final) :
    Exists fun linger => Exists fun replied =>
      linger = (if segment.header.fin ∧ connection.state ≠ .ofState .finWait1 then false
        else connection.lingerAfterStreamsFinish) ∧
        { connection with lingerAfterStreamsFinish := linger }.takeAndReply segment =
          .ok replied ∧
        replied.ackAndCollect segment = .ok final := by
  rcases bind_ok done with ⟨replied, replies, acks⟩
  refine ⟨_, replied, rfl, ?_, acks⟩
  split at replies
  · rename_i leaves
    rw [if_pos leaves]
    exact replies
  · rename_i stays
    rw [if_neg stays]
    exact replies

/-- A branch that looks at flags of the segment, and passes it over without them. -/
theorem guarded_cases {connection final : TCPConnection} {flags : Bool}
    {handled : Except Fault TCPConnection}
    (done : (if flags then handled else .ok connection) = .ok final) :
    flags = true ∧ handled = .ok final ∨ flags = false ∧ final = connection := by
  cases flags with
  | true => exact Or.inl ⟨rfl, done⟩
  | false =>
      cases done
      exact Or.inr ⟨rfl, rfl⟩

/-- LISTEN connects on a SYN. -/
theorem inListen_cases {connection final : TCPConnection} {segment : TCPSegment}
    (done : connection.inListen segment = .ok final) :
    (Exists fun connected => segment.header.syn = true ∧
        (connection.takeSegment segment).collectSenderSegmentsOut = .ok connected ∧
        final = { connected with active := true }) ∨ final = connection := by
  rcases guarded_cases done with ⟨syn, handled⟩ | ⟨_, same⟩
  · rcases bind_ok handled with ⟨connected, collected, rest⟩
    cases rest
    exact Or.inl ⟨connected, syn, collected, rfl⟩
  · exact Or.inr same

theorem takeAndReply_cases {connection final : TCPConnection} {segment : TCPSegment}
    (done : connection.takeAndReply segment = .ok final) :
    (Exists fun queued => (segment.lengthInSequenceSpace ≠ 0 ∨ ¬ segment.header.ack) ∧
        (connection.takeSegment segment).queueAck = .ok queued ∧
        queued.collectSenderSegmentsOut = .ok final) ∨
      ¬ (segment.lengthInSequenceSpace ≠ 0 ∨ ¬ segment.header.ack) ∧ final = connection := by
  unfold takeAndReply at done
  split at done
  · rename_i more
    rcases bind_ok done with ⟨queued, queues, collected⟩
    exact Or.inl ⟨queued, more, queues, collected⟩
  · rename_i bare
    cases done
    exact Or.inr ⟨bare, rfl⟩

theorem ackAndCollect_cases {connection final : TCPConnection} {segment : TCPSegment}
    (done : connection.ackAndCollect segment = .ok final) :
    (Exists fun acked => segment.header.ack = true ∧ connection.takeAck segment = .ok acked ∧
        acked.collectSenderSegmentsOut = .ok final) ∨
      segment.header.ack = false ∧ final = connection := by
  rcases guarded_cases done with ⟨flagged, handled⟩ | passed
  · rcases bind_ok handled with ⟨acked, taken, collected⟩
    exact Or.inl ⟨acked, flagged, taken, collected⟩
  · exact Or.inr passed

/-- LAST_ACK takes an acknowledgment, which may clear the flags. -/
theorem inLastAck_cases {connection final : TCPConnection} {segment : TCPSegment}
    (done : connection.inLastAck segment = .ok final) :
    (Exists fun acked => Exists fun linger => Exists fun active => segment.header.ack = true ∧
        connection.takeAck segment = .ok acked ∧
        final = { acked with lingerAfterStreamsFinish := linger, active := active }) ∨
      final = connection := by
  rcases guarded_cases done with ⟨flagged, handled⟩ | ⟨_, same⟩
  · rcases bind_ok handled with ⟨acked, taken, rest⟩
    cases rest
    refine Or.inl ?_
    split
    · exact ⟨acked, _, _, flagged, taken, rfl⟩
    · exact ⟨acked, _, _, flagged, taken, rfl⟩
  · exact Or.inr same

/-! ## The rule for all methods -/

/-- An invariant that the parts common to all methods keep, but for the clock. -/
structure KeptUntimed (invariant : TCPConnection -> Prop) : Prop where
  flags : forall connection linger active, invariant connection ->
    invariant { connection with
      lingerAfterStreamsFinish := linger
      active := active }
  collect : forall connection final, invariant connection ->
    connection.collectSenderSegmentsOut = .ok final -> invariant final
  push : forall connection final, invariant connection -> connection.pushAck = .ok final ->
    invariant final
  queue : forall connection final, invariant connection -> connection.queueAck = .ok final ->
    invariant final
  empty : forall connection, invariant connection ->
    invariant { connection with sender := connection.sender.sendEmptySegment }
  reset : forall connection, invariant connection -> invariant connection.resetReceived
  tickSender : forall connection msSinceLastTick, invariant connection ->
    invariant { connection with sender := connection.sender.tick msSinceLastTick }
  pushRst : forall connection, invariant connection ->
    invariant { connection with
      segmentsOut := connection.segmentsOut ++ [{ header := { rst := true } }] }

/-- An invariant that the parts common to all methods keep. -/
structure KeptByParts (invariant : TCPConnection -> Prop) : Prop
    extends KeptUntimed invariant where
  clock : forall connection time, invariant connection ->
    invariant { connection with timeSinceLastSegmentReceived := time }

section

variable {invariant : TCPConnection -> Prop} {connection final : TCPConnection}
  {segment : TCPSegment}

/-- An acknowledgment is handed over only once the receiver is set, from a
segment with the ACK flag or from a FIN. -/
def Acknowledges (connection : TCPConnection) (segment : TCPSegment) : Prop :=
  connection.receiver.isSet = true ∧
    (segment.header.ack = true ∨ segment.header.fin = true)

/-- A receiver that neither listens nor failed is set. -/
theorem isSet_of_summary {receiver : TCPReceiver}
    (noListen : TCPState.receiverSummary receiver ≠ .listen)
    (noError : TCPState.receiverSummary receiver ≠ .error) : receiver.isSet = true := by
  unfold TCPState.receiverSummary TCPReceiver.ackno at noListen noError
  by_contra unset
  rw [if_neg unset] at noListen noError
  simp only [if_true] at noListen noError
  split at noListen
  · rename_i failed
    exact noError (if_pos failed)
  · exact noListen rfl

/-- Outside LISTEN, SYN_SENT and RESET the receiver is set. -/
theorem isSet_of_state {state : TCPState.State} (current : connection.state = .ofState state)
    (noListen : state ≠ .listen) (noSynSent : state ≠ .synSent) (noReset : state ≠ .reset) :
    connection.receiver.isSet = true := by
  have summary : TCPState.receiverSummary connection.receiver = (TCPState.ofState state).receiver :=
    congrArg TCPState.receiver current
  apply isSet_of_summary
  · rw [summary]
    cases state <;> simp [TCPState.ofState] at noListen noSynSent noReset ⊢
  · rw [summary]
    cases state <;> simp [TCPState.ofState] at noListen noSynSent noReset ⊢

theorem KeptUntimed.and {other : TCPConnection -> Prop} (parts : KeptUntimed invariant)
    (others : KeptUntimed other) :
    KeptUntimed (fun connection => invariant connection ∧ other connection) where
  flags := fun connection _ _ kept =>
    ⟨parts.flags connection _ _ kept.1, others.flags connection _ _ kept.2⟩
  collect := fun connection final kept done =>
    ⟨parts.collect connection final kept.1 done, others.collect connection final kept.2 done⟩
  push := fun connection final kept done =>
    ⟨parts.push connection final kept.1 done, others.push connection final kept.2 done⟩
  queue := fun connection final kept done =>
    ⟨parts.queue connection final kept.1 done, others.queue connection final kept.2 done⟩
  empty := fun connection kept => ⟨parts.empty connection kept.1, others.empty connection kept.2⟩
  reset := fun connection kept => ⟨parts.reset connection kept.1, others.reset connection kept.2⟩
  tickSender := fun connection _ kept =>
    ⟨parts.tickSender connection _ kept.1, others.tickSender connection _ kept.2⟩
  pushRst := fun connection kept =>
    ⟨parts.pushRst connection kept.1, others.pushRst connection kept.2⟩

theorem KeptByParts.and {other : TCPConnection -> Prop} (parts : KeptByParts invariant)
    (others : KeptByParts other) :
    KeptByParts (fun connection => invariant connection ∧ other connection) where
  toKeptUntimed := parts.toKeptUntimed.and others.toKeptUntimed
  clock := fun connection time kept =>
    ⟨parts.clock connection time kept.1, others.clock connection time kept.2⟩

/-- None of the parts changes whether the receiver is set. -/
theorem isSet_keptByParts (property : Bool -> Prop) :
    KeptByParts (fun connection => property connection.receiver.isSet) where
  flags := fun _ _ _ kept => kept
  clock := fun _ _ kept => kept
  collect := by
    intro connection final kept done
    rcases collect_spec done with ⟨filled, _, rfl⟩
    exact kept
  push := by
    intro connection final kept done
    rcases pushAck_spec done with ⟨ackno, _, rfl⟩
    exact kept
  queue := by
    intro connection final kept done
    rcases queueAck_spec done with ⟨ackno, _, rfl⟩
    exact kept
  empty := fun _ kept => kept
  reset := fun _ kept => kept
  tickSender := fun _ _ kept => kept
  pushRst := fun _ kept => kept

theorem takeSegment_isSet (connection : TCPConnection) (segment : TCPSegment) :
    (connection.takeSegment segment).receiver.isSet =
      (connection.receiver.isSet || segment.header.syn) :=
  connection.receiver.isSet_segmentReceived segment

/-- A tick, once its time has been added. -/
theorem tick_keeps_untimed (parts : KeptUntimed invariant) {msSinceLastTick : Nat}
    (elapsed : invariant { connection with
      timeSinceLastSegmentReceived :=
        (connection.timeSinceLastSegmentReceived + msSinceLastTick) % 2 ^ 64 })
    (done : connection.tick msSinceLastTick = .ok final) : invariant final := by
  have lingered : invariant (connection.elapsed msSinceLastTick).stopLingering := by
    unfold stopLingering
    split
    · exact parts.flags _ _ _ elapsed
    · exact elapsed
  have kept := parts.tickSender _ msSinceLastTick lingered
  rw [stopLingering_sender] at kept
  rcases tick_cases done with ⟨ticked, rfl, ⟨_, rfl⟩ | ⟨_, ⟨_, collected⟩ | ⟨_, rfl⟩⟩⟩
  · exact parts.pushRst _ (parts.reset _ kept)
  · exact parts.collect _ final kept collected
  · exact kept

theorem tick_keeps (parts : KeptByParts invariant) {msSinceLastTick : Nat}
    (start : invariant connection) (done : connection.tick msSinceLastTick = .ok final) :
    invariant final :=
  tick_keeps_untimed parts.toKeptUntimed (parts.clock connection _ start) done

/-- The rule for the owner's methods. -/
theorem perform_keeps {op : OwnerOp} (parts : KeptByParts invariant)
    (wrote : forall data, invariant (connection.wrote data)) (ended : invariant connection.ended)
    (popped : forall length, invariant (connection.popInbound length))
    (start : invariant connection) (done : connection.perform op = .ok final) :
    invariant final := by
  cases op with
  | connect => exact parts.collect _ final start done
  | write data =>
      rcases bind_ok done with ⟨⟨collected, count⟩, writes, rest⟩
      cases rest
      exact parts.collect _ _ (wrote data) (write_spec writes).2
  | endInputStream => exact parts.collect _ final ended done
  | tick msSinceLastTick => exact tick_keeps parts start done
  | popInbound length =>
      cases done
      exact popped length

/-- The same connection but for its flags and its clock. -/
structure Reflagged (connection other : TCPConnection) : Prop where
  sender_eq : other.sender = connection.sender
  receiver_eq : other.receiver = connection.receiver
  segmentsOut_eq : other.segmentsOut = connection.segmentsOut

theorem reflagged_refl (connection : TCPConnection) : connection.Reflagged connection :=
  ⟨rfl, rfl, rfl⟩

theorem takeAck_pushAck_keeps (parts : KeptUntimed invariant)
    (ack : forall acked, connection.takeAck segment = .ok acked -> invariant acked)
    (done : (do let acked <- connection.takeAck segment; acked.pushAck) = .ok final) :
    invariant final := by
  rcases bind_ok done with ⟨acked, taken, pushed⟩
  exact parts.push acked final (ack acked taken) pushed

theorem inEstablished_keeps (parts : KeptUntimed invariant)
    (take : forall other : TCPConnection,
      (decide (segment.lengthInSequenceSpace ≠ 0) || !segment.header.ack) = true ->
        connection.Reflagged other -> invariant other ->
        invariant (other.takeSegment segment))
    (ack : forall other acked : TCPConnection, segment.header.ack = true -> invariant other ->
      other.takeAck segment = .ok acked -> invariant acked)
    (start : invariant connection) (done : connection.inEstablished segment = .ok final) :
    invariant final := by
  rcases inEstablished_cases done with ⟨linger, replied, _, took, rest⟩
  have noted := parts.flags connection linger connection.active start
  have middle : invariant replied := by
    rcases takeAndReply_cases took with ⟨queued, more, wasQueued, collected⟩ | ⟨_, rfl⟩
    · have same : connection.Reflagged { connection with lingerAfterStreamsFinish := linger } :=
        ⟨rfl, rfl, rfl⟩
      have taken := take _ (by simpa using more) same noted
      exact parts.collect queued replied (parts.queue _ queued taken wasQueued) collected
    · exact noted
  rcases ackAndCollect_cases rest with ⟨acked, flagged, wasAcked, collected⟩ | ⟨_, rfl⟩
  · exact parts.collect acked final (ack replied acked flagged middle wasAcked) collected
  · exact middle

/-! ## The branches -/

theorem inListen_keeps (parts : KeptUntimed invariant)
    (taken : segment.header.syn = true -> invariant (connection.takeSegment segment))
    (start : invariant connection) (done : connection.inListen segment = .ok final) :
    invariant final := by
  rcases inListen_cases done with ⟨connected, syn, collected, rfl⟩ | rfl
  · exact parts.flags connected _ _ (parts.collect _ _ (taken syn) collected)
  · exact start

theorem inSynSent_keeps (parts : KeptUntimed invariant)
    (taken : segment.header.syn = true -> invariant (connection.takeSegment segment))
    (acked : segment.header.syn = true -> segment.header.ack = true ->
      forall acked, (connection.takeSegment segment).takeAck segment = .ok acked ->
        invariant acked)
    (start : invariant connection) (done : connection.inSynSent segment = .ok final) :
    invariant final := by
  unfold inSynSent at done
  split at done
  · rename_i both
    rcases Bool.and_eq_true_iff.mp both with ⟨syn, flagged⟩
    exact takeAck_pushAck_keeps parts (acked syn flagged) done
  · rcases guarded_cases done with ⟨syn, pushed⟩ | ⟨_, rfl⟩
    · exact parts.push _ final (taken syn) pushed
    · exact start

theorem inSynRcvd_keeps
    (acked : segment.header.ack = true ->
      forall acked, (connection.takeSegment segment).takeAck segment = .ok acked ->
        invariant acked)
    (start : invariant connection) (done : connection.inSynRcvd segment = .ok final) :
    invariant final := by
  rcases guarded_cases done with ⟨flagged, taken⟩ | ⟨_, rfl⟩
  · exact acked flagged final taken
  · exact start

theorem inFinWait2_keeps (parts : KeptUntimed invariant)
    (acked : (segment.header.fin && segment.header.ack) = true ->
      forall acked, (connection.takeSegment segment).takeAck segment = .ok acked ->
        invariant acked)
    (start : invariant connection) (done : connection.inFinWait2 segment = .ok final) :
    invariant final := by
  rcases guarded_cases done with ⟨both, handled⟩ | ⟨_, rfl⟩
  · exact takeAck_pushAck_keeps parts (acked both) handled
  · exact start

theorem inClosing_keeps (parts : KeptUntimed invariant)
    (acked : segment.header.ack = true ->
      forall acked, (connection.takeSegment segment).takeAck segment = .ok acked ->
        invariant acked)
    (start : invariant connection) (done : connection.inClosing segment = .ok final) :
    invariant final := by
  rcases guarded_cases done with ⟨flagged, handled⟩ | ⟨_, rfl⟩
  · rcases bind_ok handled with ⟨middle, taken, collected⟩
    exact parts.collect middle final (acked flagged middle taken) collected
  · exact start

theorem inLastAck_keeps (parts : KeptUntimed invariant)
    (acked : segment.header.ack = true ->
      forall acked, connection.takeAck segment = .ok acked -> invariant acked)
    (start : invariant connection) (done : connection.inLastAck segment = .ok final) :
    invariant final := by
  rcases inLastAck_cases done with ⟨middle, linger, active, flagged, taken, rfl⟩ | rfl
  · exact parts.flags middle linger active (acked flagged middle taken)
  · exact start

theorem inCloseWait_keeps (parts : KeptUntimed invariant)
    (acked : segment.header.fin = true ->
      forall acked, connection.takeAck segment = .ok acked -> invariant acked)
    (start : invariant connection) (done : connection.inCloseWait segment = .ok final) :
    invariant final := by
  rcases guarded_cases done with ⟨fin, handled⟩ | ⟨_, rfl⟩
  · exact takeAck_pushAck_keeps parts (acked fin) handled
  · exact start

theorem inTimeWait_keeps (parts : KeptUntimed invariant)
    (acked : segment.header.ack = true ->
      forall acked, connection.takeAck segment = .ok acked -> invariant acked)
    (start : invariant connection) (done : connection.inTimeWait segment = .ok final) :
    invariant final := by
  rcases guarded_cases done with ⟨both, handled⟩ | ⟨_, rfl⟩
  · exact takeAck_pushAck_keeps parts (acked (Bool.and_eq_true_iff.mp both).2) handled
  · exact start

/-- In ESTABLISHED and FIN_WAIT_1 the receiver is set and stays so. -/
theorem inEstablished_keeps_set (parts : KeptUntimed invariant)
    (isSet : connection.receiver.isSet = true)
    (take : forall other : TCPConnection,
      (decide (segment.lengthInSequenceSpace ≠ 0) || !segment.header.ack) = true ->
        connection.Reflagged other -> invariant other ->
        invariant (other.takeSegment segment))
    (ack : forall other acked : TCPConnection, other.Acknowledges segment -> invariant other ->
      other.takeAck segment = .ok acked -> invariant acked)
    (start : invariant connection) (done : connection.inEstablished segment = .ok final) :
    invariant final := by
  refine (inEstablished_keeps (parts.and (isSet_keptByParts (fun isSet => isSet = true)).toKeptUntimed)
    ?_ ?_ ⟨start, isSet⟩ done).1
  · intro other more same kept
    refine ⟨take other more same kept.1, ?_⟩
    rw [takeSegment_isSet, kept.2, Bool.true_or]
  · intro other acked flagged kept taken
    refine ⟨ack other acked ⟨kept.2, Or.inl flagged⟩ kept.1 taken, ?_⟩
    rcases takeAck_spec taken with ⟨sender, _, rfl⟩
    exact kept.2

theorem handle_keeps (parts : KeptUntimed invariant) {state : TCPState.State}
    (take : forall other : TCPConnection, takesIn segment state = true ->
      connection.Reflagged other -> invariant other ->
      invariant (other.takeSegment segment))
    (ack : forall other acked : TCPConnection, other.Acknowledges segment -> invariant other ->
      other.takeAck segment = .ok acked -> invariant acked)
    (current : connection.state = .ofState state) (start : invariant connection)
    (done : connection.handle segment state = .ok final) : invariant final := by
  have isSet := isSet_of_state current
  have stillSet : connection.receiver.isSet = true ->
      (connection.takeSegment segment).receiver.isSet = true := by
    intro before
    rw [takeSegment_isSet, before, Bool.true_or]
  have ackTaken : (connection.takeSegment segment).receiver.isSet = true ->
      segment.header.ack = true -> takesIn segment state = true ->
      forall acked, (connection.takeSegment segment).takeAck segment = .ok acked ->
        invariant acked := fun taken flagged taking acked =>
    ack _ acked ⟨taken, Or.inl flagged⟩ (take connection taking connection.reflagged_refl start)
  cases state with
  | listen => exact inListen_keeps parts (fun syn => take connection syn connection.reflagged_refl start) start done
  | synSent =>
      refine inSynSent_keeps parts (fun syn => take connection syn connection.reflagged_refl start) ?_ start done
      intro syn flagged
      apply ackTaken _ flagged syn
      rw [takeSegment_isSet, syn, Bool.or_true]
  | synRcvd =>
      refine inSynRcvd_keeps (fun flagged => ?_) start done
      exact ackTaken (stillSet (isSet nofun nofun nofun)) flagged flagged
  | established =>
      exact inEstablished_keeps_set parts (isSet nofun nofun nofun) take ack start done
  | finWait1 =>
      exact inEstablished_keeps_set parts (isSet nofun nofun nofun) take ack start done
  | finWait2 =>
      refine inFinWait2_keeps parts (fun both => ?_) start done
      exact ackTaken (stillSet (isSet nofun nofun nofun)) (Bool.and_eq_true_iff.mp both).2 both
  | lastAck =>
      refine inLastAck_keeps parts (fun flagged acked => ?_) start done
      exact ack connection acked ⟨isSet nofun nofun nofun, Or.inl flagged⟩ start
  | closing =>
      refine inClosing_keeps parts (fun flagged => ?_) start done
      exact ackTaken (stillSet (isSet nofun nofun nofun)) flagged flagged
  | closeWait =>
      refine inCloseWait_keeps parts (fun fin acked => ?_) start done
      exact ack connection acked ⟨isSet nofun nofun nofun, Or.inr fin⟩ start
  | timeWait =>
      refine inTimeWait_keeps parts (fun flagged acked => ?_) start done
      exact ack connection acked ⟨isSet nofun nofun nofun, Or.inl flagged⟩ start
  | closed =>
      cases done
      exact start
  | reset =>
      cases done
      exact start

theorem keepAlive_keeps (parts : KeptUntimed invariant) (start : invariant connection)
    (done : connection.keepAlive segment = .ok final) : invariant final := by
  rcases keepAlive_cases done with ⟨_, collected⟩ | ⟨_, rfl⟩
  · exact parts.collect _ final (parts.empty connection start) collected
  · exact start

/-- The rule for the chain of comparisons. -/
theorem dispatch_keeps (parts : KeptUntimed invariant)
    (take : forall (other : TCPConnection) state, connection.state = .ofState state ->
      takesIn segment state = true -> connection.Reflagged other -> invariant other ->
      invariant (other.takeSegment segment))
    (ack : forall other acked : TCPConnection, other.Acknowledges segment -> invariant other ->
      other.takeAck segment = .ok acked -> invariant acked)
    (start : invariant connection) (done : connection.dispatch segment = .ok final) :
    invariant final := by
  rcases dispatch_cases done with ⟨state, current, handled⟩ | rfl
  · exact handle_keeps parts (fun other taking => take other state current taking) ack current
      start handled
  · exact start

/-- The rule for `segment_received` once the clock is set back: besides the common
parts, an invariant has to survive handing over this segment and its
acknowledgment. -/
theorem segmentReceived_keeps_untimed (parts : KeptUntimed invariant)
    (take : forall other, connection.takes segment = true -> connection.Reflagged other ->
      invariant other -> invariant (other.takeSegment segment))
    (ack : forall other acked, other.Acknowledges segment -> invariant other ->
      other.takeAck segment = .ok acked -> invariant acked)
    (heard : invariant connection.heard) (done : connection.segmentReceived segment = .ok final) :
    invariant final := by
  rcases segmentReceived_cases done with ⟨_, rfl⟩ | ⟨noRst, dispatched, handled, kept⟩
  · exact parts.reset _ heard
  · refine keepAlive_keeps parts (dispatch_keeps parts ?_ ack heard handled) kept
    intro other state current taking same
    exact take other (takes_intro noRst current taking)
      ⟨same.sender_eq, same.receiver_eq, same.segmentsOut_eq⟩

/-- The rule for `segment_received`. -/
theorem segmentReceived_keeps (parts : KeptByParts invariant)
    (take : forall other, connection.takes segment = true -> connection.Reflagged other ->
      invariant other -> invariant (other.takeSegment segment))
    (ack : forall other acked, other.Acknowledges segment -> invariant other ->
      other.takeAck segment = .ok acked -> invariant acked)
    (start : invariant connection) (done : connection.segmentReceived segment = .ok final) :
    invariant final :=
  segmentReceived_keeps_untimed parts.toKeptUntimed take ack (parts.clock connection 0 start) done

end

end TCPConnection
end Tcp
end Sponge
