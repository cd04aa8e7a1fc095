import Sponge.Tcp.Numbering
import Sponge.Tcp.Probing

namespace Sponge
namespace Tcp

open Foundation Bytes

/-!
# The sequence numbers of what is sent

What the connection collects from its sender is current, unless an acknowledgment has
overtaken it.  The connection adds segments of its own: bare acknowledgments and resets,
whose number it leaves at zero.  Without these, every segment has a current number when
it leaves.
-/

namespace TCPConnection

section

variable {connection final : TCPConnection} {segment : TCPSegment} {before : List TCPSegment}

/-! ## Behind the peer's SYN the own SYN is out -/

/-- The outbound stream has failed, or the SYN is out. -/
def Started (connection : TCPConnection) : Prop :=
  connection.sender.stream.error = true ∨ connection.sender.window.nextSeqno ≠ 0

theorem started_of_summary
    (opened : TCPState.senderSummary connection.sender ≠ .closed) : connection.Started := by
  unfold Started
  by_contra neither
  rw [not_or, not_not] at neither
  apply opened
  unfold TCPState.senderSummary
  rw [if_neg neither.1]
  exact if_pos neither.2

theorem started_of_sends {sender final : TCPSender} {segments : List TCPSegment}
    (started : sender.stream.error = true ∨ sender.window.nextSeqno ≠ 0)
    (sends : TCPSender.Sends sender segments final) :
    final.stream.error = true ∨ final.window.nextSeqno ≠ 0 := by
  have onward := sends.frame.nextSeqno_le
  rcases started with failed | used
  · exact Or.inl (sends.frame.error_eq.trans failed)
  · exact Or.inr (by omega)

/-- Collecting sends the SYN, if it is not out. -/
theorem collect_started (done : connection.collectSenderSegmentsOut = .ok final) :
    final.Started := by
  rcases collect_spec done with ⟨filled, fills, rfl⟩
  cases failed : connection.sender.stream.error with
  | true =>
      rcases TCPSender.fillWindow_sends fills with ⟨segments, sends⟩
      exact Or.inl (sends.frame.error_eq.trans failed)
  | false =>
      have used := TCPSender.fillWindow_opens failed fills
      exact Or.inr used

theorem Started.takeAck (started : connection.Started)
    (done : connection.takeAck segment = .ok final) : final.Started := by
  rcases takeAck_spec done with ⟨sender, received, rfl⟩
  rcases TCPSender.ackReceived_spec received with ⟨updated, segments, took, sends⟩
  have still : updated.stream.error = true ∨ updated.window.nextSeqno ≠ 0 := by
    rw [took.stream_eq, took.nextSeqno_eq]
    exact started
  exact started_of_sends still sends

/-- A receiver that is set belongs to a connection that has started. -/
def Opened (connection : TCPConnection) : Prop :=
  connection.receiver.isSet = true -> connection.Started

theorem opened_keptByParts : KeptByParts Opened where
  flags := fun _ _ _ opened => opened
  clock := fun _ _ opened => opened
  collect := fun _ _ _ done _ => collect_started done
  push := by
    intro connection final opened done
    rcases pushAck_spec done with ⟨ackno, _, rfl⟩
    exact opened
  queue := by
    intro connection final opened done
    rcases queueAck_spec done with ⟨ackno, _, rfl⟩
    exact opened
  empty := fun _ opened => opened
  reset := fun _ _ _ => Or.inl rfl
  tickSender := by
    intro connection msSinceLastTick opened isSet
    have ticked := connection.sender.tick_spec msSinceLastTick
    have started : connection.Started := opened isSet
    unfold Started at started ⊢
    dsimp only
    rw [ticked.stream_eq, ticked.nextSeqno_eq]
    exact started
  pushRst := fun _ opened => opened

theorem Opened.takeAck (opened : connection.Opened)
    (done : connection.takeAck segment = .ok final) : final.Opened := by
  intro isSet
  have same : final.receiver = connection.receiver := by
    rcases takeAck_spec done with ⟨sender, _, rfl⟩
    rfl
  exact (opened (same ▸ isSet)).takeAck done

theorem Opened.inListen (opened : connection.Opened)
    (done : connection.inListen segment = .ok final) : final.Opened := by
  unfold TCPConnection.inListen at done
  split at done
  · rcases bind_ok done with ⟨connected, collected, rest⟩
    cases rest
    have started : connected.Started := collect_started collected
    exact fun _ => started
  · cases done
    exact opened

theorem Opened.dispatch (opened : connection.Opened)
    (done : connection.dispatch segment = .ok final) : final.Opened := by
  rcases dispatch_cases done with ⟨state, current, done⟩ | rfl
  · by_cases listens : state = .listen
    · rw [listens] at done
      exact opened.inListen done
    · refine handle_keeps opened_keptByParts.toKeptUntimed ?_
        (fun _ _ _ kept takes => kept.takeAck takes) current opened done
      intro other taking same _ _
      have summary : TCPState.senderSummary connection.sender ≠ .closed := by
        have here : TCPState.senderSummary connection.sender = (TCPState.ofState state).sender :=
          congrArg TCPState.sender current
        rw [here]
        cases state with
        | listen => exact absurd rfl listens
        | _ => exact nofun
      have started := started_of_summary summary
      unfold Started at started ⊢
      change other.sender.stream.error = true ∨ other.sender.window.nextSeqno ≠ 0
      rw [same.sender_eq]
      exact started
  · exact opened

theorem Opened.step (opened : connection.Opened) {op : ConnectionOp}
    (taken : connection.step op = .ok final) : final.Opened := by
  cases op with
  | owner op =>
      refine perform_keeps opened_keptByParts ?_ opened (fun _ => opened) opened taken
      intro data isSet
      rcases opened isSet with failed | used
      · exact Or.inl ((ByteStream.write_error _ _).trans failed)
      · exact Or.inr used
  | segmentReceived segment =>
      rcases segmentReceived_cases taken with ⟨_, rfl⟩ | ⟨_, dispatched, handled, answered⟩
      · exact fun _ => Or.inl rfl
      · have heard : connection.heard.Opened := opened
        exact keepAlive_keeps opened_keptByParts.toKeptUntimed (heard.dispatch handled) answered

/-! ## What an operation sends -/

theorem stamped_retransmits (connection : TCPConnection) (segment : TCPSegment) :
    (connection.stamped segment).Retransmits segment := by
  unfold stamped
  split
  · exact ⟨rfl, rfl, rfl, rfl⟩
  · exact ⟨rfl, rfl, rfl, rfl⟩

theorem stamped_length (connection : TCPConnection) (segment : TCPSegment) :
    (connection.stamped segment).lengthInSequenceSpace = segment.lengthInSequenceSpace := by
  have same := connection.stamped_retransmits segment
  unfold TCPSegment.lengthInSequenceSpace
  rw [same.syn_eq, same.fin_eq, same.payload_eq]

theorem stamped_current (connection : TCPConnection) {sender : TCPSender}
    (current : sender.Current segment) : sender.Current (connection.stamped segment) := by
  have same := connection.stamped_retransmits segment
  rcases current with ⟨place, least, most, seqno⟩ | ⟨oldest, found, again⟩
  · exact Or.inl ⟨place, least, most, same.seqno_eq.trans seqno⟩
  · exact Or.inr ⟨oldest, found, same.seqno_eq.trans again.seqno_eq,
      same.syn_eq.trans again.syn_eq, same.fin_eq.trans again.fin_eq,
      same.payload_eq.trans again.payload_eq⟩

theorem stamped_inSequence (connection : TCPConnection) {sender : TCPSender}
    (inSequence : sender.InSequence segment) : sender.InSequence (connection.stamped segment) := by
  refine ⟨connection.stamped_current inSequence.1, fun none => ?_⟩
  rw [stamped_length] at none
  exact (connection.stamped_retransmits segment).seqno_eq.trans (inSequence.2 none)

/-- The sender is punctual, and what has been sent since the queue was the one given is
current and not empty. -/
structure Emits (before : List TCPSegment) (connection : TCPConnection) : Prop where
  punctual : connection.sender.Punctual
  sent : Exists fun added => connection.segmentsOut = before ++ added ∧
    forall segment, segment ∈ added ->
      segment.lengthInSequenceSpace ≠ 0 ∧ connection.sender.Current segment

/-- At the end of an operation: what is empty carries the next number. -/
def Emitted (before : List TCPSegment) (connection : TCPConnection) : Prop :=
  Exists fun added => connection.segmentsOut = before ++ added ∧
    forall segment, segment ∈ added -> connection.sender.InSequence segment

theorem Emits.emitted (emits : connection.Emits before) : connection.Emitted before := by
  rcases emits.sent with ⟨added, queue, all⟩
  refine ⟨added, queue, fun segment member => ?_⟩
  exact (all segment member).2.inSequence (all segment member).1

theorem emits_nothing (punctual : connection.sender.Punctual)
    (same : connection.segmentsOut = before) : connection.Emits before :=
  ⟨punctual, [], same.trans (List.append_nil _).symm, nofun⟩

theorem Emits.collect (emits : connection.Emits before)
    (done : connection.collectSenderSegmentsOut = .ok final) : final.Emits before := by
  rcases collect_spec done with ⟨filled, fills, rfl⟩
  rcases TCPSender.fillWindow_sends fills with ⟨segments, sends⟩
  rcases emits.sent with ⟨added, queue, all⟩
  have punctual := emits.punctual.sends sends
  have alike : TCPSender.Alike filled { filled with segmentsOut := [] } :=
    TCPSender.alike_of_window rfl rfl
  refine ⟨⟨punctual.toTimely.frame rfl rfl, nofun⟩,
    added ++ filled.segmentsOut.map connection.stamped, ?_, ?_⟩
  · dsimp only
    rw [queue, List.append_assoc]
  · intro segment member
    rcases List.mem_append.mp member with old | new
    · rcases all segment old with ⟨nonempty, current⟩
      exact ⟨nonempty, (current.sends sends).alike alike⟩
    · rcases List.mem_map.mp new with ⟨original, inside, rfl⟩
      rcases punctual.kept original inside with ⟨nonempty, current⟩
      rw [stamped_length]
      exact ⟨nonempty, connection.stamped_current (current.alike alike)⟩

/-- Taking an acknowledgment, as long as nothing has been sent in the operation. -/
theorem takeAck_emits (punctual : connection.sender.Punctual)
    (keepsUp : connection.sender.KeepsUp segment.header.ackno)
    (same : connection.segmentsOut = before) (done : connection.takeAck segment = .ok final) :
    final.Emits before := by
  rcases takeAck_spec done with ⟨sender, received, rfl⟩
  exact emits_nothing (punctual.ackReceived keepsUp received) same

/-! ## The answer to a keep-alive -/

/-- A sender that has nothing to send answers with its next number. -/
theorem Emits.keepAlive (emits : connection.Emits before)
    (ready : connection.Probed segment ->
      connection.sender.state ≠ .closed ∧ ¬ connection.sender.HasToSend)
    (done : connection.keepAlive segment = .ok final) : final.Emitted before := by
  rcases keepAlive_cases done with ⟨probed, collects⟩ | ⟨_, rfl⟩
  · rcases ready probed with ⟨opened, idle⟩
    have off : ¬ connection.sender.sendEmptySegment.GoesOn := by
      rw [TCPSender.goesOn_iff]
      exact idle
    have fills : connection.sender.sendEmptySegment.fillWindow =
        .ok connection.sender.sendEmptySegment := TCPSender.fillWindow_of_off opened off
    rcases emits.sent with ⟨added, queue, all⟩
    have collected : { connection with
        sender := connection.sender.sendEmptySegment }.collectSenderSegmentsOut = .ok _ :=
      collect_of_fills fills
    rw [collected] at collects
    cases collects
    have alike : TCPSender.Alike connection.sender
        { connection.sender.sendEmptySegment with segmentsOut := [] } :=
      TCPSender.alike_of_window rfl rfl
    have punctual := emits.punctual
    refine ⟨added ++ (connection.sender.segmentsOut ++
      [connection.sender.emptySegment]).map connection.stamped, ?_, ?_⟩
    · dsimp only
      rw [queue, List.append_assoc]
      rfl
    · intro segment member
      apply TCPSender.InSequence.alike _ alike
      rcases List.mem_append.mp member with old | new
      · exact (all segment old).2.inSequence (all segment old).1
      · rcases List.mem_map.mp new with ⟨original, inside, rfl⟩
        rcases List.mem_append.mp inside with kept | last
        · rcases punctual.kept original kept with ⟨nonempty, current⟩
          apply (connection.stamped_current current).inSequence
          rw [stamped_length]
          exact nonempty
        · rw [List.mem_singleton.mp last]
          exact connection.stamped_inSequence punctual.emptySegment
  · exact emits.emitted

/-! ## Receiving a segment -/

/-- The official states. -/
def officialStates : List TCPState.State :=
  [.listen, .synRcvd, .synSent, .established, .closeWait, .lastAck, .finWait1, .finWait2,
    .closing, .timeWait, .closed, .reset]

/-- The branch of the comparisons that the connection takes is one of those given. -/
def InBranch (connection : TCPConnection) (branches : TCPState.State -> Bool) : Prop :=
  Exists fun state => connection.state = .ofState state ∧ branches state = true

instance (connection : TCPConnection) (branches : TCPState.State -> Bool) :
    Decidable (connection.InBranch branches) :=
  decidable_of_iff
    (Exists fun state => state ∈ officialStates ∧
      connection.state = .ofState state ∧ branches state = true) (by
    constructor
    · rintro ⟨state, _, current, taken⟩
      exact ⟨state, current, taken⟩
    · rintro ⟨state, current, taken⟩
      exact ⟨state, by cases state <;> simp [officialStates], current, taken⟩)

theorem not_inBranch {branches : TCPState.State -> Bool} {state : TCPState.State}
    (other : ¬ connection.InBranch branches) (current : connection.state = .ofState state) :
    branches state = false := by
  by_contra taken
  exact other ⟨state, current, Bool.eq_true_of_not_eq_false taken⟩

/-- The branches that answer the segment with a bare acknowledgment of their own. -/
def bareReply (segment : TCPSegment) : TCPState.State -> Bool
  | .synSent => segment.header.syn
  | .established | .finWait1 =>
      decide (segment.lengthInSequenceSpace ≠ 0) || !segment.header.ack
  | .finWait2 | .timeWait => segment.header.fin && segment.header.ack
  | .closeWait => segment.header.fin
  | .listen | .synRcvd | .lastAck | .closing | .closed | .reset => false

/-- The branches that hand the acknowledgment to the sender before they collect. -/
def handsAck (segment : TCPSegment) : TCPState.State -> Bool
  | .synSent => segment.header.syn && segment.header.ack
  | .synRcvd | .lastAck | .closing => segment.header.ack
  | .established | .finWait1 =>
      segment.header.ack && decide (segment.lengthInSequenceSpace = 0)
  | .finWait2 | .timeWait => segment.header.fin && segment.header.ack
  | .closeWait => segment.header.fin
  | .listen | .closed | .reset => false

theorem inListen_emits (punctual : connection.sender.Punctual)
    (same : connection.segmentsOut = before) (done : connection.inListen segment = .ok final) :
    final.Emits before := by
  rcases inListen_cases done with ⟨connected, _, collected, rfl⟩ | rfl
  · have taken : (connection.takeSegment segment).Emits before := emits_nothing punctual same
    have connects := taken.collect collected
    exact ⟨connects.punctual, connects.sent⟩
  · exact emits_nothing punctual same

/-- Taking an acknowledgment and collecting. -/
theorem takeAck_collect_emits (punctual : connection.sender.Punctual)
    (keepsUp : connection.sender.KeepsUp segment.header.ackno)
    (same : connection.segmentsOut = before)
    (done : (do
      let acked <- connection.takeAck segment
      acked.collectSenderSegmentsOut) = .ok final) : final.Emits before := by
  rcases bind_ok done with ⟨acked, taken, collected⟩
  exact (takeAck_emits punctual keepsUp same taken).collect collected

theorem inEstablished_emits (punctual : connection.sender.Punctual)
    (same : connection.segmentsOut = before)
    (plain : (decide (segment.lengthInSequenceSpace ≠ 0) || !segment.header.ack) = false)
    (keepsUp : (segment.header.ack && decide (segment.lengthInSequenceSpace = 0)) = true ->
      connection.sender.KeepsUp segment.header.ackno)
    (done : connection.inEstablished segment = .ok final) : final.Emits before := by
  have empty : segment.lengthInSequenceSpace = 0 ∧ segment.header.ack = true := by
    simpa using plain
  have up : connection.sender.KeepsUp segment.header.ackno := keepsUp (by simp [empty])
  rcases inEstablished_cases done with ⟨linger, replied, _, replies, rest⟩
  have noted : { connection with
      lingerAfterStreamsFinish := linger }.sender.Punctual := punctual
  rcases takeAndReply_cases replies with ⟨queued, nonempty | unflagged, _⟩ | ⟨_, rfl⟩
  · exact absurd empty.1 nonempty
  · exact absurd empty.2 unflagged
  · rcases ackAndCollect_cases rest with ⟨acked, _, taken, collected⟩ | ⟨unset, _⟩
    · have emits : acked.Emits before := takeAck_emits noted up same taken
      exact emits.collect collected
    · cases empty.2.symm.trans unset

theorem dispatch_emits (punctual : connection.sender.Punctual)
    (same : connection.segmentsOut = before)
    (plain : ¬ connection.InBranch (bareReply segment))
    (keepsUp : connection.InBranch (handsAck segment) ->
      connection.sender.KeepsUp segment.header.ackno)
    (done : connection.dispatch segment = .ok final) : final.Emits before := by
  have idle : connection.Emits before := emits_nothing punctual same
  rcases dispatch_cases done with ⟨state, current, done⟩ | rfl
  · have bare := not_inBranch plain current
    have heard : (connection.takeSegment segment).sender.Punctual := punctual
    have handed (hands : handsAck segment state = true) :
        connection.sender.KeepsUp segment.header.ackno := keepsUp ⟨state, current, hands⟩
    cases state with
    | listen => exact inListen_emits punctual same done
    | synSent =>
        change segment.header.syn = false at bare
        have passed : connection.inSynSent segment = .ok final := done
        unfold inSynSent at passed
        rw [bare] at passed
        cases passed
        exact idle
    | synRcvd =>
        rcases guarded_cases done with ⟨ack, taken⟩ | ⟨_, rfl⟩
        · exact takeAck_emits heard (handed ack) same taken
        · exact idle
    | established => exact inEstablished_emits punctual same bare handed done
    | finWait1 => exact inEstablished_emits punctual same bare handed done
    | finWait2 =>
        rcases guarded_cases done with ⟨both, _⟩ | ⟨_, rfl⟩
        · cases bare.symm.trans both
        · exact idle
    | lastAck =>
        rcases inLastAck_cases done with ⟨acked, linger, active, ack, taken, rfl⟩ | rfl
        · have emits := takeAck_emits punctual (handed ack) same taken
          exact ⟨emits.punctual, emits.sent⟩
        · exact idle
    | closing =>
        rcases guarded_cases done with ⟨ack, handled⟩ | ⟨_, rfl⟩
        · exact takeAck_collect_emits heard (handed ack) same handled
        · exact idle
    | closeWait =>
        rcases guarded_cases done with ⟨fin, _⟩ | ⟨_, rfl⟩
        · cases bare.symm.trans fin
        · exact idle
    | timeWait =>
        rcases guarded_cases done with ⟨both, _⟩ | ⟨_, rfl⟩
        · cases bare.symm.trans both
        · exact idle
    | closed =>
        cases done
        exact idle
    | reset =>
        cases done
        exact idle
  · exact idle

/-! ## The countdowns in every run -/

theorem timely_keptByParts : KeptByParts (fun connection => connection.sender.Timely) where
  flags := fun _ _ _ timely => timely
  clock := fun _ _ timely => timely
  collect := by
    intro connection final timely done
    rcases collect_spec done with ⟨filled, fills, rfl⟩
    rcases TCPSender.fillWindow_sends fills with ⟨segments, sends⟩
    exact (timely.sends sends).frame rfl rfl
  push := by
    intro connection final timely done
    rcases pushAck_spec done with ⟨ackno, _, rfl⟩
    exact timely
  queue := by
    intro connection final timely done
    rcases queueAck_spec done with ⟨ackno, _, rfl⟩
    exact timely.frame rfl rfl
  empty := fun _ timely => timely.frame rfl rfl
  reset := fun _ timely => timely.frame rfl rfl
  tickSender := fun _ msSinceLastTick timely => (timely.tick msSinceLastTick).1
  pushRst := fun _ timely => timely

/-! ## What waits in every run -/

/-- Behind a collection nothing waits. -/
theorem collect_punctual (timely : connection.sender.Timely)
    (done : connection.collectSenderSegmentsOut = .ok final) : final.sender.Punctual := by
  have kept := timely_keptByParts.collect connection final timely done
  rcases collect_spec done with ⟨filled, _, rfl⟩
  exact ⟨kept, nofun⟩

theorem takeAck_punctual (punctual : connection.sender.Punctual)
    (keepsUp : connection.sender.KeepsUp segment.header.ackno)
    (done : connection.takeAck segment = .ok final) : final.sender.Punctual := by
  rcases takeAck_spec done with ⟨sender, received, rfl⟩
  exact punctual.ackReceived keepsUp received

/-- What a bare reply stands behind, it leaves as it is. -/
theorem ackAgain_punctual (punctual : connection.sender.Punctual)
    (keepsUp : connection.sender.KeepsUp segment.header.ackno)
    (done : connection.ackAgain segment = .ok final) : final.sender.Punctual := by
  rcases bind_ok done with ⟨acked, taken, pushed⟩
  have kept := takeAck_punctual punctual keepsUp taken
  rcases pushAck_spec pushed with ⟨ackno, _, rfl⟩
  exact kept

theorem timely_of_takeAck (timely : connection.sender.Timely)
    (done : connection.takeAck segment = .ok final) : final.sender.Timely := by
  rcases takeAck_spec done with ⟨sender, received, rfl⟩
  exact timely.ackReceived received

/-- ESTABLISHED and FIN_WAIT_1 collect, whatever they have received. -/
theorem inEstablished_punctual (timely : connection.sender.Timely)
    (done : connection.inEstablished segment = .ok final) : final.sender.Punctual := by
  rcases inEstablished_cases done with ⟨linger, replied, _, replies, acks⟩
  have noted : { connection with
      lingerAfterStreamsFinish := linger }.sender.Timely := timely
  have taken : ({ connection with
      lingerAfterStreamsFinish := linger }.takeSegment segment).sender.Timely := timely
  rcases takeAndReply_cases replies with ⟨queued, _, queues, collected⟩ | ⟨bare, rfl⟩
  · have kept := timely_keptByParts.queue _ _ taken queues
    have punctual := collect_punctual kept collected
    rcases ackAndCollect_cases acks with ⟨acked, _, takes, again⟩ | ⟨_, rfl⟩
    · exact collect_punctual (timely_of_takeAck punctual.toTimely takes) again
    · exact punctual
  · have ack : segment.header.ack = true := not_not.mp fun no => bare (Or.inr no)
    rcases ackAndCollect_cases acks with ⟨acked, _, takes, collected⟩ | ⟨unset, _⟩
    · exact collect_punctual (timely_of_takeAck noted takes) collected
    · cases ack.symm.trans unset

/-- What waits is not overtaken, whatever is answered. -/
theorem dispatch_punctual (punctual : connection.sender.Punctual)
    (keepsUp : connection.InBranch (handsAck segment) ->
      connection.sender.KeepsUp segment.header.ackno)
    (done : connection.dispatch segment = .ok final) : final.sender.Punctual := by
  rcases dispatch_cases done with ⟨state, current, done⟩ | rfl
  · have handed (hands : handsAck segment state = true) :
        connection.sender.KeepsUp segment.header.ackno := keepsUp ⟨state, current, hands⟩
    have taken : (connection.takeSegment segment).sender.Punctual := punctual
    cases state with
    | listen =>
        rcases inListen_cases done with ⟨connected, _, collected, rfl⟩ | rfl
        · have connects : connected.sender.Punctual := collect_punctual taken.toTimely collected
          exact connects
        · exact punctual
    | synSent =>
        have passed : connection.inSynSent segment = .ok final := done
        unfold inSynSent at passed
        split at passed
        · rename_i both
          exact ackAgain_punctual taken (handed both) passed
        · rcases guarded_cases passed with ⟨_, pushed⟩ | ⟨_, rfl⟩
          · rcases pushAck_spec pushed with ⟨ackno, _, rfl⟩
            exact punctual
          · exact punctual
    | synRcvd =>
        rcases guarded_cases done with ⟨ack, takes⟩ | ⟨_, rfl⟩
        · exact takeAck_punctual taken (handed ack) takes
        · exact punctual
    | established => exact inEstablished_punctual punctual.toTimely done
    | finWait1 => exact inEstablished_punctual punctual.toTimely done
    | finWait2 =>
        rcases guarded_cases done with ⟨both, again⟩ | ⟨_, rfl⟩
        · exact ackAgain_punctual taken (handed both) again
        · exact punctual
    | lastAck =>
        rcases inLastAck_cases done with ⟨acked, linger, active, ack, takes, rfl⟩ | rfl
        · have kept : acked.sender.Punctual := takeAck_punctual punctual (handed ack) takes
          exact kept
        · exact punctual
    | closing =>
        rcases guarded_cases done with ⟨_, handled⟩ | ⟨_, rfl⟩
        · rcases bind_ok handled with ⟨acked, takes, collected⟩
          exact collect_punctual (timely_of_takeAck taken.toTimely takes) collected
        · exact punctual
    | closeWait =>
        rcases guarded_cases done with ⟨fin, again⟩ | ⟨_, rfl⟩
        · exact ackAgain_punctual punctual (handed fin) again
        · exact punctual
    | timeWait =>
        rcases guarded_cases done with ⟨both, again⟩ | ⟨_, rfl⟩
        · exact ackAgain_punctual punctual (handed both) again
        · exact punctual
    | closed =>
        cases done
        exact punctual
    | reset =>
        cases done
        exact punctual
  · exact punctual

theorem keepAlive_punctual (punctual : connection.sender.Punctual)
    (done : connection.keepAlive segment = .ok final) : final.sender.Punctual := by
  rcases keepAlive_cases done with ⟨_, collected⟩ | ⟨_, rfl⟩
  · exact collect_punctual (timely_keptByParts.empty connection punctual.toTimely) collected
  · exact punctual

theorem tick_punctual (punctual : connection.sender.Punctual) {msSinceLastTick : Nat}
    (done : connection.tick msSinceLastTick = .ok final) : final.sender.Punctual := by
  have aged := punctual.tick msSinceLastTick
  rcases tick_cases done with ⟨ticked, rfl, ⟨_, rfl⟩ | ⟨_, ⟨_, collected⟩ | ⟨_, rfl⟩⟩⟩
  · exact ⟨aged.toTimely.frame rfl rfl, aged.kept⟩
  · refine collect_punctual ?_ collected
    exact aged.toTimely
  · exact aged

theorem perform_punctual (punctual : connection.sender.Punctual) {op : OwnerOp}
    (done : connection.perform op = .ok final) : final.sender.Punctual := by
  have timely := punctual.toTimely
  cases op with
  | connect => exact collect_punctual timely done
  | write data =>
      rcases bind_ok done with ⟨⟨collected, count⟩, writes, rest⟩
      cases rest
      have wrote : (connection.wrote data).sender.Timely := timely.frame rfl rfl
      exact collect_punctual wrote (write_spec writes).2
  | endInputStream =>
      have ended : connection.ended.sender.Timely := timely.frame rfl rfl
      exact collect_punctual ended done
  | tick msSinceLastTick => exact tick_punctual punctual done
  | popInbound length =>
      cases done
      exact punctual

/-- The acknowledgment of a segment does not overtake what waits. -/
def OvertakesNothing (connection : TCPConnection) : ConnectionOp -> Prop
  | .owner _ => True
  | .segmentReceived segment =>
      segment.header.rst = false -> connection.InBranch (handsAck segment) ->
        connection.sender.KeepsUp segment.header.ackno

instance (connection : TCPConnection) (op : ConnectionOp) :
    Decidable (connection.OvertakesNothing op) :=
  match op with
  | .owner _ => .isTrue trivial
  | .segmentReceived _ => inferInstanceAs (Decidable (_ -> InBranch _ _ -> TCPSender.KeepsUp _ _))

theorem step_punctual (punctual : connection.sender.Punctual) {op : ConnectionOp}
    (behind : connection.OvertakesNothing op) (taken : connection.step op = .ok final) :
    final.sender.Punctual := by
  cases op with
  | owner op => exact perform_punctual punctual taken
  | segmentReceived segment =>
      rcases segmentReceived_cases taken with ⟨_, rfl⟩ | ⟨noRst, dispatched, handled, answered⟩
      · exact ⟨punctual.toTimely.frame rfl rfl, punctual.kept⟩
      · have heard : connection.heard.sender.Punctual := punctual
        exact keepAlive_punctual (dispatch_punctual heard (behind noRst) handled) answered

/-- A connection as runs leave it between two operations. -/
structure Regular (connection : TCPConnection) : Prop where
  punctual : connection.sender.Punctual
  standing : connection.Standing
  rested : connection.Rested
  opened : connection.Opened

theorem new_regular (cfg : TCPConfig) (random : WrappingInt32) : (new cfg random).Regular :=
  ⟨⟨TCPSender.new_timely _ _ _, nofun⟩, new_standing cfg random, new_rested cfg random, nofun⟩

theorem Regular.step (regular : connection.Regular) {op : ConnectionOp}
    (behind : connection.OvertakesNothing op) (taken : connection.step op = .ok final) :
    final.Regular :=
  ⟨step_punctual regular.punctual behind taken, regular.standing.step taken, regular.rested.step taken,
    regular.opened.step taken⟩

/-! ## Every operation -/

/-- An operation that sends nothing of the connection's own: a tick does not give the
connection up, and a segment is not answered with a bare acknowledgment and does not set
off a failed sender. -/
def SendsNoOwn (connection : TCPConnection) : ConnectionOp -> Prop
  | .owner op => connection.FewRetransmissions (.owner op)
  | .segmentReceived segment =>
      segment.header.rst = true ∨
        ¬ connection.InBranch (bareReply segment) ∧
          (connection.sender.stream.error = true -> connection.Probed segment ->
            ¬ connection.sender.HasToSend)

theorem tick_emits (punctual : connection.sender.Punctual) {msSinceLastTick : Nat}
    (few : connection.FewRetransmissions (.owner (.tick msSinceLastTick)))
    (done : connection.tick msSinceLastTick = .ok final) :
    final.Emits connection.segmentsOut := by
  unfold FewRetransmissions at few
  dsimp only at few
  rw [← TCPSender.tick_consecutiveRetransmissions] at few
  have queue_eq := (connection.elapsed msSinceLastTick).stopLingering_segmentsOut
  have aged := punctual.tick msSinceLastTick
  rcases tick_cases done with ⟨ticked, rfl, ⟨many, _⟩ | ⟨_, ⟨_, collected⟩ | ⟨_, rfl⟩⟩⟩
  · exact absurd many (Nat.not_lt_of_ge few)
  · refine Emits.collect ?_ collected
    exact emits_nothing aged queue_eq
  · exact emits_nothing aged queue_eq

theorem perform_emits (punctual : connection.sender.Punctual) {op : OwnerOp}
    (few : connection.FewRetransmissions (.owner op)) (done : connection.perform op = .ok final) :
    final.Emits connection.segmentsOut := by
  have start : connection.Emits connection.segmentsOut := emits_nothing punctual rfl
  cases op with
  | connect => exact start.collect done
  | write data =>
      rcases bind_ok done with ⟨⟨collected, count⟩, writes, rest⟩
      cases rest
      have wrote : (connection.wrote data).sender.Punctual :=
        ⟨punctual.toTimely.frame rfl rfl, punctual.kept⟩
      have written : (connection.wrote data).Emits connection.segmentsOut :=
        emits_nothing wrote rfl
      exact written.collect (write_spec writes).2
  | endInputStream =>
      have still : connection.ended.sender.Punctual :=
        ⟨punctual.toTimely.frame rfl rfl, punctual.kept⟩
      have ended : connection.ended.Emits connection.segmentsOut := emits_nothing still rfl
      exact ended.collect done
  | tick msSinceLastTick => exact tick_emits punctual few done
  | popInbound length =>
      cases done
      exact ⟨punctual, start.sent⟩

/-- Behind the comparisons a keep-alive finds a sender with nothing to send. -/
theorem Regular.ready (regular : connection.Regular)
    (quiet : connection.sender.stream.error = true -> connection.Probed segment ->
      ¬ connection.sender.HasToSend)
    (done : connection.dispatch segment = .ok final) (probed : final.Probed segment) :
    final.sender.state ≠ .closed ∧ ¬ final.sender.HasToSend := by
  have isSet : final.receiver.isSet = true := by
    by_contra unset
    have acks := probed.2
    unfold TCPReceiver.ackno at acks
    rw [if_neg unset] at acks
    cases acks
  have sound : connection.sender.stream.error = false -> final.Sound := by
    intro noError
    cases regular.standing with
    | failed failed => cases noError.symm.trans failed.sender
    | alive alive =>
        rcases alive.dispatch done with still | settled
        · exact still.sound
        · exact settled.sound
    | settled settled =>
        rw [dispatch_eq segment settled.state_eq] at done
        cases done
        exact settled.sound
  cases failed : connection.sender.stream.error with
  | true =>
      have passed : final = connection := by
        cases regular.standing with
        | failed failed =>
            rw [dispatch_eq segment failed.state_eq] at done
            cases done
            rfl
        | alive alive => cases alive.sound.composed.noError.symm.trans failed
        | settled settled => cases settled.sound.composed.noError.symm.trans failed
      rw [passed] at probed ⊢
      refine ⟨fun closed => ?_, quiet failed probed⟩
      cases ((TCPSender.state_closed_iff _).mp closed).1.symm.trans failed
  | false =>
      have noError := (sound failed).composed.noError
      have used : final.sender.window.nextSeqno ≠ 0 := by
        rcases regular.opened.dispatch done isSet with broken | used
        · cases noError.symm.trans broken
        · exact used
      have rests : ¬ final.sender.MaySend := by
        rcases regular.rested.dispatch done with broken | ⟨_, rests⟩
        · cases noError.symm.trans broken
        · exact rests
      have opened : final.sender.state ≠ .closed := by
        intro closed
        exact used ((TCPSender.state_closed_iff _).mp closed).2
      refine ⟨opened, fun has => ?_⟩
      exact rests (((TCPSender.goesOn_iff _).mpr has).maySend opened)

theorem Regular.segmentReceived_emits (regular : connection.Regular)
    (behind : connection.OvertakesNothing (.segmentReceived segment))
    (plain : connection.SendsNoOwn (.segmentReceived segment))
    (done : connection.segmentReceived segment = .ok final) :
    final.Emitted connection.segmentsOut := by
  have heard : connection.heard.Regular :=
    ⟨regular.punctual,
      regular.standing.carried connection.heard_carried,
      regular.rested, regular.opened⟩
  rcases segmentReceived_cases done with ⟨_, rfl⟩ | ⟨noRst, dispatched, handled, answered⟩
  · exact ⟨[], (List.append_nil _).symm, nofun⟩
  · rcases plain.resolve_left (ne_true_of_eq_false noRst) with ⟨noReply, quiet⟩
    have emits := dispatch_emits heard.punctual rfl noReply (behind noRst) handled
    exact emits.keepAlive (heard.ready quiet handled) answered

theorem Regular.emits (regular : connection.Regular) {op : ConnectionOp}
    (behind : connection.OvertakesNothing op) (plain : connection.SendsNoOwn op)
    (taken : connection.step op = .ok final) : final.Emitted connection.segmentsOut := by
  cases op with
  | owner op => exact (perform_emits regular.punctual plain taken).emitted
  | segmentReceived segment => exact regular.segmentReceived_emits behind plain taken

end

/-- **Emitted segments carry a current sequence number**, in every run whose
acknowledgments overtake nothing that waits, and behind each of its operations that
sends nothing of the connection's own: each segment that it puts on the outbound queue
has a number between the first unacknowledged and the next one, or is the oldest
outstanding segment again, and has the next number if it is empty. -/
theorem emitted_in_sequence (cfg : TCPConfig) (random : WrappingInt32) (ops : List ConnectionOp)
    (behind : RunMeets step OvertakesNothing (new cfg random) ops) :
    forall before op reached next, before ++ [op] <+: ops ->
      run step (new cfg random) before = .ok reached -> reached.step op = .ok next ->
        reached.SendsNoOwn op ->
          forall segment, segment ∈ next.segmentsOut.drop reached.segmentsOut.length ->
            next.sender.InSequence segment := by
  intro before op reached next inside done taken plain segment member
  have emitted := performed_of_meets Regular
    (fun connection op final => connection.SendsNoOwn op -> final.Emitted connection.segmentsOut)
    (fun connection op final regular behind taken =>
      ⟨regular.step behind taken, fun plain => regular.emits behind plain taken⟩)
    (new_regular cfg random) behind before op reached next inside done taken plain
  rcases emitted with ⟨added, queue, all⟩
  rw [queue, List.drop_left] at member
  exact all segment member

/-- Behind the handshake a byte is written, and sent with the next number. -/
theorem emitted_in_sequence_of_write :
    let cfg : TCPConfig := { recvCapacity := ⟨8, by decide⟩, sendCapacity := ⟨8, by decide⟩ }
    let before : List ConnectionOp :=
      [.owner .connect,
        .segmentReceived
          { header := { seqno := ⟨100⟩, ackno := ⟨1001⟩, win := 10, syn := true, ack := true } }]
    let write : ConnectionOp := .owner (.write [5])
    Exists fun reached => Exists fun next =>
      run step (new cfg ⟨1000⟩) before = .ok reached ∧ reached.step write = .ok next ∧
        (next.segmentsOut.drop reached.segmentsOut.length).length = 1 ∧
        forall segment, segment ∈ next.segmentsOut.drop reached.segmentsOut.length ->
          next.sender.InSequence segment := by
  intro cfg before write
  have behind : RunMeets step OvertakesNothing (new cfg ⟨1000⟩) (before ++ [write]) := by
    decide +kernel
  have checked : endsIn step (fun reached => endsIn step (fun next => decide
      ((next.segmentsOut.drop reached.segmentsOut.length).length = 1)) reached [write])
      (new cfg ⟨1000⟩) before = true := by
    decide +kernel
  rcases run_of_endsIn checked with ⟨reached, done, onward⟩
  rcases run_of_endsIn onward with ⟨next, last, one⟩
  rcases run_cons last with ⟨_, taken, rest⟩
  cases rest
  refine ⟨reached, next, done, taken, of_decide_eq_true one, ?_⟩
  exact emitted_in_sequence cfg ⟨1000⟩ (before ++ [write]) behind before write reached next
    (List.prefix_refl _) done taken trivial

/-- The answer to the peer's SYN carries the number zero, far from the initial one. -/
theorem emitted_out_of_sequence :
    let cfg : TCPConfig := { recvCapacity := ⟨8, by decide⟩, sendCapacity := ⟨8, by decide⟩ }
    let answer : ConnectionOp := .segmentReceived
      { header := { seqno := ⟨100⟩, ackno := ⟨1001⟩, win := 10, syn := true, ack := true } }
    Exists fun reached => Exists fun next => Exists fun segment =>
      run step (new cfg ⟨1000⟩) [.owner .connect] = .ok reached ∧
        reached.step answer = .ok next ∧
        next.segmentsOut.drop reached.segmentsOut.length = [segment] ∧
        segment.header.seqno = ⟨0⟩ ∧ next.sender.nextSeqno = ⟨1001⟩ ∧
        ¬ next.sender.Current segment := by
  intro cfg answer
  have checked : endsIn step (fun reached => endsIn step (fun next => decide
      (next.segmentsOut.drop reached.segmentsOut.length =
          [{ header := { seqno := ⟨0⟩, ackno := ⟨101⟩, win := 8, ack := true } }] ∧
        next.sender.window.isn = ⟨1000⟩ ∧ next.sender.window.firstSeqno = 1 ∧
        next.sender.window.nextSeqno = 1 ∧ next.sender.window.outstanding = [])) reached [answer])
      (new cfg ⟨1000⟩) [.owner .connect] = true := by
    decide +kernel
  rcases run_of_endsIn checked with ⟨reached, done, onward⟩
  rcases run_of_endsIn onward with ⟨next, last, facts⟩
  rcases run_cons last with ⟨_, taken, rest⟩
  cases rest
  rcases of_decide_eq_true facts with ⟨sent, isn, first, following, none⟩
  refine ⟨reached, next, _, done, taken, sent, rfl, ?_, ?_⟩
  · unfold TCPSender.nextSeqno
    rw [isn, following]
    rfl
  · rintro (⟨place, least, most, seqno⟩ | ⟨oldest, found, _⟩)
    · rw [first] at least
      rw [following] at most
      rw [isn, Nat.le_antisymm most least] at seqno
      exact absurd seqno (by decide)
    · rw [none] at found
      cases found

end TCPConnection
end Tcp
end Sponge
