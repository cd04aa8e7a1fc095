import Sponge.Bytes.NextPiece
import Sponge.Tcp.AckForwarding
import Sponge.Tcp.Departures

namespace Sponge
namespace Tcp

open Foundation Bytes

/-!
# Inbound data is taken and acknowledged

While the inbound stream is open, a segment with the next expected bytes
extends it by these bytes and by what was held behind them, and an
acknowledgment of all of it leaves the connection.  In FIN_WAIT_2 only a
segment with a FIN is looked at.
-/

namespace TCPConnection

section

variable {connection middle final : TCPConnection} {segment : TCPSegment}

/-- The receiver is the same, and the outbound queue has only grown. -/
structure Onward (connection final : TCPConnection) : Prop where
  receiver_eq : final.receiver = connection.receiver
  queue : connection.segmentsOut <+: final.segmentsOut

theorem Onward.trans (first : Onward connection middle) (second : Onward middle final) :
    Onward connection final :=
  ⟨second.receiver_eq.trans first.receiver_eq, first.queue.trans second.queue⟩

theorem collect_onward (done : connection.collectSenderSegmentsOut = .ok final) :
    Onward connection final := by
  rcases collect_spec done with ⟨filled, _, rfl⟩
  exact ⟨rfl, List.prefix_append _ _⟩

theorem takeAck_onward (done : connection.takeAck segment = .ok final) :
    Onward connection final := by
  rcases takeAck_spec done with ⟨sender, _, rfl⟩
  exact ⟨rfl, List.prefix_rfl⟩

theorem ackAndCollect_onward (done : connection.ackAndCollect segment = .ok final) :
    Onward connection final := by
  rcases ackAndCollect_cases done with ⟨acked, _, taken, collects⟩ | ⟨_, rfl⟩
  · exact (takeAck_onward taken).trans (collect_onward collects)
  · exact ⟨rfl, List.prefix_rfl⟩

/-- An acknowledgment of everything the receiver has taken stands on the
outbound queue behind the given segments. -/
def Replied (before : List TCPSegment) (connection : TCPConnection) : Prop :=
  Exists fun added => connection.segmentsOut = before ++ added ∧
    Exists fun reply => reply ∈ added ∧ reply.header.ack = true ∧
      connection.receiver.ackno = some reply.header.ackno

theorem Replied.onward {before : List TCPSegment} (replied : Replied before connection)
    (onward : Onward connection final) : Replied before final := by
  rcases replied with ⟨added, queue, reply, member, flag, acks⟩
  rcases onward.queue with ⟨more, grown⟩
  refine ⟨added ++ more, ?_, reply, List.mem_append_left more member, flag, ?_⟩
  · rw [← grown, queue, List.append_assoc]
  · rw [onward.receiver_eq]
    exact acks

theorem pushAck_replied (done : connection.pushAck = .ok final) :
    Replied connection.segmentsOut final := by
  rcases pushAck_spec done with ⟨ackno, acks, rfl⟩
  exact ⟨_, rfl, _, List.mem_singleton_self _, rfl, acks⟩

/-- An acknowledgment on the sender's queue leaves with the next collection. -/
theorem queueAck_collect_replied (queues : connection.queueAck = .ok middle)
    (collects : middle.collectSenderSegmentsOut = .ok final) :
    Replied connection.segmentsOut final := by
  rcases queueAck_spec queues with ⟨ackno, acks, rfl⟩
  rcases collect_spec collects with ⟨filled, fills, rfl⟩
  rcases TCPSender.fillWindow_sends fills with ⟨segments, sends⟩
  have queued : ackInfo ackno connection.receiver.windowSize {} ∈ filled.segmentsOut := by
    rw [sends.segmentsOut_eq]
    exact List.mem_append_left _ (List.mem_append_right _ (List.mem_singleton_self _))
  refine ⟨_, rfl, _, List.mem_map_of_mem queued, ?_, ?_⟩
  · unfold stamped
    rw [acks]
    rfl
  · unfold stamped
    rw [acks]
    rfl

/-! ## Each state -/

/-- The receiver has taken the segment, and an acknowledgment has left. -/
structure TakesAndReplies (connection : TCPConnection) (segment : TCPSegment)
    (final : TCPConnection) : Prop where
  receiver_eq : final.receiver = connection.receiver.segmentReceived segment
  replied : Replied connection.segmentsOut final

theorem inEstablished_replies (nonempty : segment.lengthInSequenceSpace ≠ 0)
    (done : connection.inEstablished segment = .ok final) :
    connection.TakesAndReplies segment final := by
  rcases inEstablished_cases done with ⟨linger, taken, _, replies, rest⟩
  rcases takeAndReply_cases replies with ⟨queued, _, queues, collects⟩ | ⟨bare, _⟩
  · have onward := ackAndCollect_onward rest
    constructor
    · rw [onward.receiver_eq, (collect_onward collects).receiver_eq]
      rcases queueAck_spec queues with ⟨ackno, _, rfl⟩
      rfl
    · exact (queueAck_collect_replied queues collects).onward onward
  · exact absurd (Or.inl nonempty) bare

theorem inFinWait2_replies (fin : segment.header.fin = true) (ack : segment.header.ack = true)
    (done : connection.inFinWait2 segment = .ok final) :
    connection.TakesAndReplies segment final := by
  unfold inFinWait2 at done
  rw [fin, ack] at done
  rcases bind_ok done with ⟨acked, taken, pushes⟩
  rcases takeAck_spec taken with ⟨sender, _, rfl⟩
  have replied := pushAck_replied pushes
  rcases pushAck_spec pushes with ⟨ackno, _, rfl⟩
  exact ⟨rfl, replied⟩

/-- The states that take a segment while the inbound stream is open. -/
def TakesData (segment : TCPSegment) (state : TCPState.State) : Prop :=
  state = .established ∨ state = .finWait1 ∨ state = .finWait2 ∧ segment.header.fin = true

instance (segment : TCPSegment) (state : TCPState.State) : Decidable (TakesData segment state) :=
  inferInstanceAs (Decidable (_ ∨ _ ∨ _ ∧ _))

/-- These states are active, and their receiver has the SYN and not the FIN. -/
theorem TakesData.open_and_active {state : TCPState.State} (takes : TakesData segment state)
    (current : connection.state = .ofState state) :
    TCPState.receiverSummary connection.receiver = .synRecv ∧ connection.active = true := by
  have receiver := congrArg TCPState.receiver current
  have active := congrArg TCPState.active current
  rcases takes with rfl | rfl | ⟨rfl, _⟩
  · exact ⟨receiver, active⟩
  · exact ⟨receiver, active⟩
  · exact ⟨receiver, active⟩

theorem segmentReceived_replies {state : TCPState.State} (takes : TakesData segment state)
    (current : connection.state = .ofState state) (noRst : segment.header.rst = false)
    (ack : segment.header.ack = true) (nonempty : segment.lengthInSequenceSpace ≠ 0)
    (received : connection.segmentReceived segment = .ok final) :
    connection.TakesAndReplies segment final := by
  have official : connection.heard.state = .ofState state := current
  rcases handles_of_state official noRst received with ⟨dispatched, handled, answered⟩
  have quiet : final = dispatched := by
    rcases keepAlive_cases answered with ⟨probed, _⟩ | ⟨_, same⟩
    · exact absurd probed.1 nonempty
    · exact same
  have replies : connection.heard.TakesAndReplies segment dispatched := by
    rcases takes with rfl | rfl | ⟨rfl, fin⟩
    · exact inEstablished_replies nonempty handled
    · exact inEstablished_replies nonempty handled
    · exact inFinWait2_replies fin ack handled
  rw [quiet]
  exact ⟨replies.receiver_eq, replies.replied⟩

end

/-- The inbound stream has been extended by the payload and the bytes held
behind it, and an acknowledgment of them has left. -/
structure Delivers (connection : TCPConnection) (segment : TCPSegment)
    (final : TCPConnection) : Prop where
  contents_eq : final.inboundStream.contents =
    connection.inboundStream.contents ++ segment.payload ++
      connection.receiver.reassembler.heldFrom
        (connection.inboundStream.bytesWritten + segment.payload.length)
  replied : Replied connection.segmentsOut final

end TCPConnection

/-- The next expected bytes reach the inbound stream. -/
theorem TCPReceiver.segmentReceived_next {receiver : TCPReceiver} {segment : TCPSegment}
    (wf : receiver.reassembler.Wf) (isSet : receiver.isSet = true)
    (opened : receiver.streamOut.endFlag = false) (noSyn : segment.header.syn = false)
    (next : receiver.streamIndex segment = receiver.streamOut.bytesWritten)
    (fits : segment.payload.length ≤ receiver.windowSize)
    (bounded : receiver.reassembler.edge < 2 ^ 64) :
    (receiver.segmentReceived segment).streamOut.contents =
      receiver.streamOut.contents ++ segment.payload ++
        receiver.reassembler.heldFrom
          (receiver.streamOut.bytesWritten + segment.payload.length) := by
  have same : receiver.noteSyn segment = receiver := by
    unfold TCPReceiver.noteSyn
    rw [noSyn]
    rfl
  have inWindow : receiver.reassembler.output.bytesWritten + segment.payload.length ≤
      receiver.reassembler.edge := by
    have balance := receiver.reassembler.output.bytesWritten_eq
    have small := receiver.reassembler.output.bufferSize_le
    have capacity := wf.output_capacity
    unfold TCPReceiver.windowSize StreamReassembler.capacityValue TCPReceiver.streamOut at fits
    unfold StreamReassembler.edge
    omega
  unfold TCPReceiver.streamOut at next ⊢
  rw [TCPReceiver.segmentReceived_reassembler, same, if_pos isSet, next]
  exact wf.pushSubstring_next segment.payload segment.header.fin opened inWindow bounded

/-- **Inbound data is taken and acknowledged while the inbound stream is
open.**  In ESTABLISHED and FIN_WAIT_1, and in FIN_WAIT_2 with a FIN, a
segment that occupies sequence numbers and whose payload starts at the next
expected byte and fits the window extends the inbound stream by the payload and
by the bytes held behind it, and an acknowledgment with the receiver's new
number joins the outbound queue.
Below `2 ^ 31` the segment is received without a fault. -/
theorem inbound_data_delivered (cfg : TCPConfig) (random : WrappingInt32)
    (ops : List ConnectionOp) (connection : TCPConnection)
    (reached : run TCPConnection.step (TCPConnection.new cfg random) ops = .ok connection)
    (segment : TCPSegment) (state : TCPState.State)
    (takes : TCPConnection.TakesData segment state)
    (current : connection.state = .ofState state) (ack : segment.header.ack = true)
    (noSyn : segment.header.syn = false) (noRst : segment.header.rst = false)
    (occupied : segment.lengthInSequenceSpace ≠ 0)
    (next : connection.receiver.streamIndex segment = connection.inboundStream.bytesWritten)
    (fits : segment.payload.length ≤ connection.receiver.windowSize)
    (allocated : connection.receiver.reassembler.edge < 2 ^ 64) :
    (forall final, connection.segmentReceived segment = .ok final ->
        connection.Delivers segment final) ∧
      (connection.sender.window.nextSeqno < 2 ^ 31 -> ¬ connection.Overruns segment ->
        Exists fun final => connection.segmentReceived segment = .ok final) := by
  constructor
  · intro final received
    have replies := TCPConnection.segmentReceived_replies takes current noRst ack occupied received
    rcases takes.open_and_active current with ⟨receiver, active⟩
    have standing : connection.Standing :=
      run_invariant TCPConnection.Standing (fun _ _ _ standing taken => standing.step taken)
        (TCPConnection.new_standing cfg random) reached
    have sound : connection.Sound := by
      cases standing with
      | failed failed => cases active.symm.trans failed.inactive
      | alive alive => exact alive.sound
      | settled settled => exact settled.sound
    have isSet : connection.receiver.isSet = true := by
      apply TCPConnection.isSet_of_summary
      · rw [receiver]
        exact nofun
      · rw [receiver]
        exact nofun
    have opened : connection.receiver.streamOut.endFlag = false := by
      cases ended : connection.receiver.streamOut.endFlag with
      | false => rfl
      | true => cases (sound.summary_of_ended isSet ended).symm.trans receiver
    refine ⟨?_, replies.replied⟩
    unfold TCPConnection.inboundStream
    rw [replies.receiver_eq]
    exact TCPReceiver.segmentReceived_next sound.wf isSet opened noSyn next fits allocated
  · intro low noOverrun
    have queued :=
      (TCPConnection.run_queued (TCPConnection.new_queued cfg random) reached low).1
    rcases TCPConnection.segmentReceived_goesThrough queued low noOverrun with
      ⟨final, received, _⟩
    exact ⟨final, received⟩

/-- In ESTABLISHED a byte that fills a hole is delivered with the byte held
behind it. -/
theorem inbound_data_delivered_hole :
    let cfg : TCPConfig := { recvCapacity := ⟨8, by decide⟩, sendCapacity := ⟨8, by decide⟩ }
    let ops : List ConnectionOp :=
      [.owner .connect,
        .segmentReceived
          { header := { seqno := ⟨100⟩, ackno := ⟨1⟩, win := 10, syn := true, ack := true } },
        .segmentReceived
          { header := { seqno := ⟨102⟩, ackno := ⟨1⟩, win := 10, ack := true }, payload := [6] }]
    let segment : TCPSegment :=
      { header := { seqno := ⟨101⟩, ackno := ⟨1⟩, win := 10, ack := true }, payload := [5] }
    Exists fun connection => Exists fun final =>
      run TCPConnection.step (TCPConnection.new cfg ⟨0⟩) ops = .ok connection ∧
        connection.segmentReceived segment = .ok final ∧
        connection.receiver.reassembler.heldFrom 1 = [6] ∧
        connection.Delivers segment final := by
  intro cfg ops segment
  have checked : endsIn TCPConnection.step (fun connection =>
      decide (connection.state = .ofState .established ∧
        connection.receiver.streamIndex segment = connection.inboundStream.bytesWritten ∧
        segment.payload.length ≤ connection.receiver.windowSize ∧
        connection.receiver.reassembler.edge < 2 ^ 64 ∧
        connection.receiver.reassembler.heldFrom 1 = [6]) &&
      (connection.segmentReceived segment).isOk) (TCPConnection.new cfg ⟨0⟩) ops = true := by
    decide +kernel
  rcases run_of_endsIn checked with ⟨connection, reached, facts⟩
  rcases Bool.and_eq_true_iff.mp facts with ⟨before, after⟩
  rcases of_decide_eq_true before with ⟨current, next, fits, allocated, held⟩
  cases received : connection.segmentReceived segment with
  | error fault =>
      rw [received] at after
      cases after
  | ok final =>
      refine ⟨connection, final, reached, received, held, ?_⟩
      exact (inbound_data_delivered cfg ⟨0⟩ ops connection reached segment .established (by decide)
        current rfl rfl rfl (by decide) next fits allocated).1 final received

/-- After these operations the connection is in the state, a segment at the
next expected byte arrives, and the outcome is as given. -/
def TCPConnection.Arrives (cfg : TCPConfig) (ops : List ConnectionOp) (state : TCPState.State)
    (segment : TCPSegment) (outcome : TCPConnection -> TCPConnection -> Bool) : Prop :=
  Exists fun connection => Exists fun final =>
    run TCPConnection.step (TCPConnection.new cfg ⟨0⟩) ops = .ok connection ∧
      connection.state = .ofState state ∧
      connection.receiver.streamIndex segment = connection.inboundStream.bytesWritten ∧
      segment.payload.length ≤ connection.receiver.windowSize ∧
      connection.segmentReceived segment = .ok final ∧ outcome connection final = true

theorem TCPConnection.arrives_of_endsIn {cfg : TCPConfig} {ops : List ConnectionOp}
    {state : TCPState.State} {segment : TCPSegment}
    {outcome : TCPConnection -> TCPConnection -> Bool}
    (checked : endsIn TCPConnection.step (fun connection =>
      decide (connection.state = .ofState state ∧
        connection.receiver.streamIndex segment = connection.inboundStream.bytesWritten ∧
        segment.payload.length ≤ connection.receiver.windowSize) &&
      match connection.segmentReceived segment with
      | .ok final => outcome connection final
      | .error _ => false) (TCPConnection.new cfg ⟨0⟩) ops = true) :
    TCPConnection.Arrives cfg ops state segment outcome := by
  rcases run_of_endsIn checked with ⟨connection, reached, facts⟩
  rcases Bool.and_eq_true_iff.mp facts with ⟨before, after⟩
  rcases of_decide_eq_true before with ⟨current, next, fits⟩
  cases received : connection.segmentReceived segment with
  | error fault =>
      rw [received] at after
      cases after
  | ok final =>
      rw [received] at after
      exact ⟨connection, final, reached, current, next, fits, received, after⟩

/-- A byte that fills a hole brings more than itself, an empty segment is not
answered, and FIN_WAIT_2 drops a byte that comes without a FIN. -/
theorem inbound_data_not_exact :
    let cfg : TCPConfig := { recvCapacity := ⟨8, by decide⟩, sendCapacity := ⟨8, by decide⟩ }
    let synAck : TCPSegment :=
      { header := { seqno := ⟨100⟩, ackno := ⟨1⟩, win := 10, syn := true, ack := true } }
    let later : TCPSegment :=
      { header := { seqno := ⟨102⟩, ackno := ⟨1⟩, win := 10, ack := true }, payload := [6] }
    let finAcked : TCPSegment :=
      { header := { seqno := ⟨101⟩, ackno := ⟨2⟩, win := 10, ack := true } }
    let byte : TCPSegment :=
      { header := { seqno := ⟨101⟩, ackno := ⟨1⟩, win := 10, ack := true }, payload := [5] }
    let bare : TCPSegment :=
      { header := { seqno := ⟨101⟩, ackno := ⟨1⟩, win := 10, ack := true } }
    let opening : List ConnectionOp := [.owner .connect, .segmentReceived synAck]
    TCPConnection.Arrives cfg (opening ++ [.segmentReceived later]) .established byte
        (fun before after =>
          before.inboundStream.contents == [] && after.inboundStream.contents == [5, 6]) ∧
      TCPConnection.Arrives cfg opening .established bare
        (fun before after => after.segmentsOut == before.segmentsOut) ∧
      TCPConnection.Arrives cfg
        (opening ++ [.owner .endInputStream, .segmentReceived finAcked]) .finWait2 byte
        (fun before after =>
          before.inboundStream.contents == [] && after.inboundStream.contents == []) := by
  intro cfg synAck later finAcked byte bare opening
  refine ⟨?_, ?_, ?_⟩
  · exact TCPConnection.arrives_of_endsIn (by decide +kernel)
  · exact TCPConnection.arrives_of_endsIn (by decide +kernel)
  · exact TCPConnection.arrives_of_endsIn (by decide +kernel)

end Tcp
end Sponge
