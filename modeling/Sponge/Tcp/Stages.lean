import Sponge.Tcp.ConnectionParts
import Sponge.Tcp.SenderStages

namespace Sponge
namespace Tcp

open Foundation Bytes

/-!
# The stages of a connection

The state of a connection is put together from a sender, a receiver and two
bits that move on their own.  A connection passes through five stages, and in
each of them the parts fit together to official states.
-/

namespace TCPReceiver

/-- The reassembler after a segment's bytes have been stored and before they
are assembled. -/
def staged (receiver : TCPReceiver) (segment : TCPSegment) : StreamReassembler :=
  (receiver.noteSyn segment).reassembler.staging segment.payload
    ((receiver.noteSyn segment).streamIndex segment) segment.header.fin

/-- The segment completes the inbound stream: the stream has been announced to
end, and no byte below the high-water mark is missing any more. -/
def Completes (receiver : TCPReceiver) (segment : TCPSegment) : Prop :=
  (receiver.noteSyn segment).isSet = true ∧ (receiver.staged segment).eofed = true ∧
    (forall k, k < (receiver.staged segment).firstUnacceptable ->
      (receiver.staged segment).Stores k) ∧
    ¬ (receiver.staged segment).Stores (receiver.staged segment).firstUnacceptable

instance (receiver : TCPReceiver) (segment : TCPSegment) :
    Decidable (receiver.Completes segment) :=
  inferInstanceAs (Decidable (_ ∧ _ ∧ _ ∧ _))

section

variable {receiver : TCPReceiver} (wf : receiver.reassembler.Wf) (segment : TCPSegment)

include wf

theorem segmentReceived_wf : (receiver.segmentReceived segment).reassembler.Wf := by
  rw [segmentReceived_reassembler]
  split
  · exact wf.pushSubstring _ _ _
  · exact wf

theorem segmentReceived_error :
    (receiver.segmentReceived segment).streamOut.error = receiver.streamOut.error := by
  unfold streamOut
  rw [segmentReceived_reassembler]
  split
  · exact (StreamReassembler.pushSubstring_output_frame wf _ _ _).2.1
  · rfl

/-- The inbound stream ends exactly with a segment that completes it. -/
theorem segmentReceived_endFlag :
    (receiver.segmentReceived segment).streamOut.endFlag = true <->
      receiver.streamOut.endFlag = true ∨ receiver.Completes segment := by
  have same := receiver.noteSyn_reassembler segment
  unfold streamOut
  rw [segmentReceived_reassembler]
  split
  · rename_i isSet
    have staged : receiver.staged segment = receiver.reassembler.staging segment.payload
        ((receiver.noteSyn segment).streamIndex segment) segment.header.fin := by
      unfold TCPReceiver.staged
      rw [same]
    have ready := wf.staged segment.payload ((receiver.noteSyn segment).streamIndex segment)
      segment.header.fin
    have output := (StreamReassembler.storeLoop_frame
      (receiver.reassembler.updateSize.markEof segment.header.fin)
      ((receiver.noteSyn segment).streamIndex segment) segment.payload).1
    have ends := (StreamReassembler.updateOutput_spec ready).1.endFlag_eq
    rw [StreamReassembler.pushSubstring_eq, ends, Bool.or_eq_true, Bool.and_eq_true, beq_iff_eq,
      StreamReassembler.updateOutput_meets_iff ready]
    unfold Completes
    rw [staged]
    constructor
    · rintro (ended | completes)
      · exact Or.inl (output ▸ ended)
      · exact Or.inr ⟨isSet, completes⟩
    · rintro (ended | completes)
      · exact Or.inl (output.symm ▸ ended)
      · exact Or.inr completes.2
  · rename_i unset
    constructor
    · exact Or.inl
    · rintro (ended | completes)
      · exact ended
      · exact absurd completes.1 unset

end

end TCPReceiver

namespace TCPConnection

/-! ## Stages -/

/-- Both streams have failed and the connection is over. -/
structure Failed (connection : TCPConnection) : Prop where
  sender : connection.sender.stream.error = true
  receiver : connection.receiver.streamOut.error = true
  inactive : connection.active = false

/-- Neither stream has failed, and the sender's numbers are in order. -/
structure Sound (connection : TCPConnection) : Prop where
  wf : connection.receiver.reassembler.Wf
  noError : connection.receiver.streamOut.error = false
  composed : connection.sender.Composed

/-- A connection that waits for the peer's SYN, is open, closes after its own
FIN, closes after the peer's FIN, or is closed. -/
inductive Stage (connection : TCPConnection) : Prop where
  | listening (unset : connection.receiver.isSet = false)
      (unended : connection.receiver.streamOut.endFlag = false)
      (active : connection.active = true)
      (lingers : connection.lingerAfterStreamsFinish = true)
      (unacked : connection.sender.window.firstSeqno = 0)
  | opened (isSet : connection.receiver.isSet = true)
      (unended : connection.receiver.streamOut.endFlag = false)
      (active : connection.active = true)
      (lingers : connection.lingerAfterStreamsFinish = true)
      (used : connection.sender.window.nextSeqno ≠ 0)
  | closing (isSet : connection.receiver.isSet = true)
      (ended : connection.receiver.streamOut.endFlag = true)
      (active : connection.active = true)
      (lingers : connection.lingerAfterStreamsFinish = true)
      (acked : 0 < connection.sender.window.firstSeqno)
      (finOut : connection.sender.FinOut)
  | leaving (isSet : connection.receiver.isSet = true)
      (ended : connection.receiver.streamOut.endFlag = true)
      (active : connection.active = true)
      (leaves : connection.lingerAfterStreamsFinish = false)
      (acked : 0 < connection.sender.window.firstSeqno)
      (awaits : connection.sender.Awaits)
  | closed (isSet : connection.receiver.isSet = true)
      (ended : connection.receiver.streamOut.endFlag = true)
      (inactive : connection.active = false)
      (acked : 0 < connection.sender.window.firstSeqno)
      (finOut : connection.sender.FinOut)
      (all : connection.sender.window.firstSeqno = connection.sender.window.nextSeqno)

/-- A sound connection in one of the stages, with a sender that has nothing to
send at the moment. -/
structure Live (connection : TCPConnection) : Prop where
  sound : connection.Sound
  stage : connection.Stage
  rests : ¬ connection.sender.MaySend

def Proper (connection : TCPConnection) : Prop :=
  connection.Failed ∨ connection.Live

/-! ## Official states -/

section

variable {connection final : TCPConnection}

theorem state_eq {sender : TCPSenderStateSummary} {receiver : TCPReceiverStateSummary}
    (sender_eq : TCPState.senderSummary connection.sender = sender)
    (receiver_eq : TCPState.receiverSummary connection.receiver = receiver) :
    connection.state = ⟨sender, receiver, connection.active,
      if connection.active then connection.lingerAfterStreamsFinish else false⟩ := by
  unfold state TCPState.summarize
  rw [sender_eq, receiver_eq]

theorem Sound.summary_of_unset (sound : connection.Sound)
    (unset : connection.receiver.isSet = false) :
    TCPState.receiverSummary connection.receiver = .listen := by
  unfold TCPState.receiverSummary TCPReceiver.ackno
  rw [sound.noError, unset]
  rfl

theorem Sound.summary_of_unended (sound : connection.Sound)
    (isSet : connection.receiver.isSet = true)
    (unended : connection.receiver.streamOut.endFlag = false) :
    TCPState.receiverSummary connection.receiver = .synRecv := by
  unfold TCPState.receiverSummary TCPReceiver.ackno ByteStream.inputEnded
  rw [sound.noError, isSet, unended]
  rfl

theorem Sound.summary_of_ended (sound : connection.Sound)
    (isSet : connection.receiver.isSet = true)
    (ended : connection.receiver.streamOut.endFlag = true) :
    TCPState.receiverSummary connection.receiver = .finRecv := by
  unfold TCPState.receiverSummary TCPReceiver.ackno ByteStream.inputEnded
  rw [sound.noError, isSet, ended]
  rfl

/-- The other way round. -/
theorem Sound.ended_of_summary (sound : connection.Sound)
    (isSet : connection.receiver.isSet = true)
    (summary : TCPState.receiverSummary connection.receiver = .finRecv) :
    connection.receiver.streamOut.endFlag = true := by
  cases unended : connection.receiver.streamOut.endFlag with
  | true => rfl
  | false => cases (sound.summary_of_unended isSet unended).symm.trans summary

/-- The official states of a stage, with what they say about the sender. -/
theorem Sound.listening_state (sound : connection.Sound)
    (unset : connection.receiver.isSet = false) (active : connection.active = true)
    (lingers : connection.lingerAfterStreamsFinish = true)
    (unacked : connection.sender.window.firstSeqno = 0) :
    connection.state = .ofState .listen ∨
      connection.state = .ofState .synSent ∧ connection.sender.window.nextSeqno ≠ 0 := by
  have receiver := sound.summary_of_unset unset
  rcases sound.composed.summary_cases with ⟨_, sender⟩ | ⟨used, _, sender⟩ | ⟨acked, _⟩ |
    ⟨acked, _⟩ | ⟨acked, _⟩
  · left
    rw [state_eq sender receiver, active, lingers]
    rfl
  · right
    rw [state_eq sender receiver, active, lingers]
    exact ⟨rfl, used⟩
  · omega
  · omega
  · omega

theorem Sound.opened_state (sound : connection.Sound)
    (isSet : connection.receiver.isSet = true)
    (unended : connection.receiver.streamOut.endFlag = false) (active : connection.active = true)
    (lingers : connection.lingerAfterStreamsFinish = true)
    (used : connection.sender.window.nextSeqno ≠ 0) :
    connection.state = .ofState .synRcvd ∨
      connection.state = .ofState .established ∧ 0 < connection.sender.window.firstSeqno ∧
        connection.sender.Unfinished ∨
      (connection.state = .ofState .finWait1 ∨ connection.state = .ofState .finWait2) ∧
        0 < connection.sender.window.firstSeqno ∧ connection.sender.FinOut := by
  have receiver := sound.summary_of_unended isSet unended
  rcases sound.composed.summary_cases with ⟨zero, _⟩ | ⟨_, _, sender⟩ |
    ⟨acked, unfinished, sender⟩ | ⟨acked, finOut, _, sender⟩ | ⟨acked, finOut, _, sender⟩
  · exact absurd zero used
  · left
    rw [state_eq sender receiver, active, lingers]
    rfl
  · right
    left
    rw [state_eq sender receiver, active, lingers]
    exact ⟨rfl, acked, unfinished⟩
  · right
    right
    rw [state_eq sender receiver, active, lingers]
    exact ⟨Or.inl rfl, acked, finOut⟩
  · right
    right
    rw [state_eq sender receiver, active, lingers]
    exact ⟨Or.inr rfl, acked, finOut⟩

/-- With its FIN out a sender is not before it. -/
theorem not_unfinished_of_finOut {sender : TCPSender} (finOut : sender.FinOut) :
    ¬ sender.Unfinished := by
  intro unfinished
  have all := TCPSender.bytesRead_of_eof finOut.eof
  have used := finOut.used
  unfold TCPSender.Unfinished at unfinished
  omega

theorem Sound.closing_state (sound : connection.Sound)
    (isSet : connection.receiver.isSet = true)
    (ended : connection.receiver.streamOut.endFlag = true) (active : connection.active = true)
    (lingers : connection.lingerAfterStreamsFinish = true)
    (acked : 0 < connection.sender.window.firstSeqno) (finOut : connection.sender.FinOut) :
    connection.state = .ofState .closing ∨
      connection.state = .ofState .timeWait ∧
        connection.sender.window.firstSeqno = connection.sender.window.nextSeqno := by
  have receiver := sound.summary_of_ended isSet ended
  have ordered := sound.composed.ordered
  rcases sound.composed.summary_cases with ⟨zero, _⟩ | ⟨_, unacked, _⟩ | ⟨_, unfinished, _⟩ |
    ⟨_, _, _, sender⟩ | ⟨_, _, all, sender⟩
  · omega
  · omega
  · exact absurd unfinished (not_unfinished_of_finOut finOut)
  · left
    rw [state_eq sender receiver, active, lingers]
    rfl
  · right
    rw [state_eq sender receiver, active, lingers]
    exact ⟨rfl, all⟩

theorem Sound.leaving_state (sound : connection.Sound)
    (isSet : connection.receiver.isSet = true)
    (ended : connection.receiver.streamOut.endFlag = true) (active : connection.active = true)
    (leaves : connection.lingerAfterStreamsFinish = false)
    (acked : 0 < connection.sender.window.firstSeqno) (awaits : connection.sender.Awaits) :
    connection.state = .ofState .closeWait ∧ connection.sender.Unfinished ∨
      connection.state = .ofState .lastAck ∧ connection.sender.Finished := by
  have receiver := sound.summary_of_ended isSet ended
  have ordered := sound.composed.ordered
  rcases sound.composed.summary_cases with ⟨zero, _⟩ | ⟨_, unacked, _⟩ |
    ⟨_, unfinished, sender⟩ | ⟨_, finOut, _, sender⟩ | ⟨_, finOut, all, _⟩
  · omega
  · omega
  · left
    rw [state_eq sender receiver, active, leaves]
    exact ⟨rfl, unfinished⟩
  · right
    rw [state_eq sender receiver, active, leaves]
    rcases awaits with unfinished | ⟨finished, _⟩
    · exact absurd unfinished (not_unfinished_of_finOut finOut)
    · exact ⟨rfl, finished⟩
  · rcases awaits with unfinished | ⟨_, waiting⟩
    · exact absurd unfinished (not_unfinished_of_finOut finOut)
    · omega

theorem Sound.closed_state (sound : connection.Sound)
    (isSet : connection.receiver.isSet = true)
    (ended : connection.receiver.streamOut.endFlag = true)
    (inactive : connection.active = false) (acked : 0 < connection.sender.window.firstSeqno)
    (finOut : connection.sender.FinOut)
    (all : connection.sender.window.firstSeqno = connection.sender.window.nextSeqno) :
    connection.state = .ofState .closed := by
  have receiver := sound.summary_of_ended isSet ended
  rcases sound.composed.summary_cases with ⟨zero, _⟩ | ⟨_, unacked, _⟩ | ⟨_, unfinished, _⟩ |
    ⟨_, _, waiting, _⟩ | ⟨_, _, _, sender⟩
  · omega
  · omega
  · exact absurd unfinished (not_unfinished_of_finOut finOut)
  · omega
  · rw [state_eq sender receiver, inactive]
    rfl

theorem Failed.state_eq (failed : connection.Failed) : connection.state = .ofState .reset := by
  unfold state TCPState.summarize TCPState.senderSummary TCPState.receiverSummary
  rw [failed.sender, failed.receiver, failed.inactive]
  rfl

/-- A proper connection is in an official state, and while it is active in
one that `segment_received` has a case for. -/
theorem Proper.official (proper : connection.Proper) : Exists fun state =>
    connection.state = .ofState state ∧
      (connection.active = true -> state ≠ .closed ∧ state ≠ .reset) := by
  rcases proper with failed | ⟨sound, stage, _⟩
  · refine ⟨.reset, failed.state_eq, ?_⟩
    intro active
    rw [failed.inactive] at active
    cases active
  · cases stage with
    | listening unset unended active lingers unacked =>
        rcases sound.listening_state unset active lingers unacked with current | ⟨current, _⟩
        · exact ⟨_, current, fun _ => ⟨nofun, nofun⟩⟩
        · exact ⟨_, current, fun _ => ⟨nofun, nofun⟩⟩
    | opened isSet unended active lingers used =>
        rcases sound.opened_state isSet unended active lingers used with current | ⟨current, _⟩ |
          ⟨current | current, _⟩
        · exact ⟨_, current, fun _ => ⟨nofun, nofun⟩⟩
        · exact ⟨_, current, fun _ => ⟨nofun, nofun⟩⟩
        · exact ⟨_, current, fun _ => ⟨nofun, nofun⟩⟩
        · exact ⟨_, current, fun _ => ⟨nofun, nofun⟩⟩
    | closing isSet ended active lingers acked finOut =>
        rcases sound.closing_state isSet ended active lingers acked finOut with
          current | ⟨current, _⟩
        · exact ⟨_, current, fun _ => ⟨nofun, nofun⟩⟩
        · exact ⟨_, current, fun _ => ⟨nofun, nofun⟩⟩
    | leaving isSet ended active leaves acked awaits =>
        rcases sound.leaving_state isSet ended active leaves acked awaits with
          ⟨current, _⟩ | ⟨current, _⟩
        · exact ⟨_, current, fun _ => ⟨nofun, nofun⟩⟩
        · exact ⟨_, current, fun _ => ⟨nofun, nofun⟩⟩
    | closed isSet ended inactive acked finOut all =>
        refine ⟨_, sound.closed_state isSet ended inactive acked finOut all, ?_⟩
        intro active
        rw [inactive] at active
        cases active

/-! ## What the parts of a method do to a stage -/

/-- The same connection but for its queues, its timers and its clock. -/
structure Carried (connection final : TCPConnection) : Prop where
  receiver_eq : final.receiver = connection.receiver
  sender_alike : TCPSender.Alike connection.sender final.sender
  active_eq : final.active = connection.active
  linger_eq : final.lingerAfterStreamsFinish = connection.lingerAfterStreamsFinish

theorem heard_carried (connection : TCPConnection) : Carried connection connection.heard :=
  ⟨rfl, TCPSender.alike_of_window rfl rfl, rfl, rfl⟩

theorem elapsed_carried (connection : TCPConnection) (msSinceLastTick : Nat) :
    Carried connection (connection.elapsed msSinceLastTick) :=
  ⟨rfl, TCPSender.alike_of_window rfl rfl, rfl, rfl⟩

theorem sendEmptySegment_carried (connection : TCPConnection) :
    Carried connection { connection with sender := connection.sender.sendEmptySegment } :=
  ⟨rfl, TCPSender.alike_of_window rfl rfl, rfl, rfl⟩

theorem Sound.carried (sound : connection.Sound) (carried : Carried connection final) :
    final.Sound := by
  refine ⟨?_, ?_, sound.composed.alike carried.sender_alike⟩
  · rw [carried.receiver_eq]
    exact sound.wf
  · rw [carried.receiver_eq]
    exact sound.noError

theorem Stage.carried (stage : connection.Stage) (carried : Carried connection final) :
    final.Stage := by
  have next_eq := carried.sender_alike.nextSeqno_eq
  have first_eq := carried.sender_alike.firstSeqno_eq
  cases stage with
  | listening unset unended active lingers unacked =>
      rw [← carried.receiver_eq] at unset unended
      exact .listening unset unended (carried.active_eq.trans active)
        (carried.linger_eq.trans lingers) (first_eq.trans unacked)
  | opened isSet unended active lingers used =>
      rw [← carried.receiver_eq] at isSet unended
      exact .opened isSet unended (carried.active_eq.trans active)
        (carried.linger_eq.trans lingers) (next_eq ▸ used)
  | closing isSet ended active lingers acked finOut =>
      rw [← carried.receiver_eq] at isSet ended
      exact .closing isSet ended (carried.active_eq.trans active)
        (carried.linger_eq.trans lingers) (first_eq ▸ acked)
        (finOut.frame carried.sender_alike.stream_eq next_eq)
  | leaving isSet ended active leaves acked awaits =>
      rw [← carried.receiver_eq] at isSet ended
      exact .leaving isSet ended (carried.active_eq.trans active)
        (carried.linger_eq.trans leaves) (first_eq ▸ acked)
        (awaits.frame carried.sender_alike.stream_eq next_eq first_eq)
  | closed isSet ended inactive acked finOut all =>
      rw [← carried.receiver_eq] at isSet ended
      exact .closed isSet ended (carried.active_eq.trans inactive) (first_eq ▸ acked)
        (finOut.frame carried.sender_alike.stream_eq next_eq) (first_eq.trans (all.trans next_eq.symm))

theorem Carried.trans {middle : TCPConnection} (first : Carried connection middle)
    (second : Carried middle final) : Carried connection final :=
  ⟨second.receiver_eq.trans first.receiver_eq, first.sender_alike.trans second.sender_alike,
    second.active_eq.trans first.active_eq, second.linger_eq.trans first.linger_eq⟩

theorem Live.carried (live : connection.Live) (carried : Carried connection final) :
    final.Live :=
  ⟨live.sound.carried carried, live.stage.carried carried,
    fun may => live.rests (may.alike carried.sender_alike)⟩

theorem pushAck_carried (done : connection.pushAck = .ok final) : Carried connection final := by
  rcases pushAck_spec done with ⟨ackno, _, rfl⟩
  exact ⟨rfl, TCPSender.alike_of_window rfl rfl, rfl, rfl⟩

theorem queueAck_carried (done : connection.queueAck = .ok final) :
    Carried connection final := by
  rcases queueAck_spec done with ⟨ackno, _, rfl⟩
  exact ⟨rfl, TCPSender.alike_of_window rfl rfl, rfl, rfl⟩

/-- Filling the window, with or without an acknowledgment before it. -/
structure Fills (connection final : TCPConnection) : Prop where
  receiver_eq : final.receiver = connection.receiver
  active_eq : final.active = connection.active
  linger_eq : final.lingerAfterStreamsFinish = connection.lingerAfterStreamsFinish
  composed : final.sender.Composed
  used : final.sender.window.nextSeqno ≠ 0
  rests : ¬ final.sender.MaySend
  acked_le : connection.sender.window.firstSeqno ≤ final.sender.window.firstSeqno
  finOut : connection.sender.FinOut -> final.sender.FinOut

/-- Collecting what the sender has to send. -/
structure Collects (connection final : TCPConnection) : Prop extends Fills connection final where
  firstSeqno_eq : final.sender.window.firstSeqno = connection.sender.window.firstSeqno
  awaits : 0 < connection.sender.window.firstSeqno -> connection.sender.Awaits ->
    final.sender.Awaits
  quiet : connection.sender.window.nextSeqno ≠ 0 -> ¬ connection.sender.MaySend ->
    Carried connection final

theorem collects (composed : connection.sender.Composed)
    (done : connection.collectSenderSegmentsOut = .ok final) : Collects connection final := by
  rcases collect_spec done with ⟨filled, fills, rfl⟩
  rcases TCPSender.fillWindow_sends fills with ⟨segments, sends⟩
  have frame := sends.frame
  have rests := TCPSender.fillWindow_rests composed.ordered fills
  have used := TCPSender.fillWindow_opens composed.noError fills
  refine ⟨⟨rfl, rfl, rfl, ?_, used, ?_,
    Nat.le_of_eq frame.firstSeqno_eq.symm, ?_⟩, frame.firstSeqno_eq, ?_, ?_⟩
  · have next := composed.sends sends
    exact next.frame rfl rfl next.ordered
  · intro may
    exact rests (may.alike (TCPSender.alike_of_window rfl rfl))
  · intro finOut
    exact (finOut.sends sends).frame rfl rfl
  · intro acked awaits
    exact (awaits.sends composed acked sends).frame rfl rfl rfl
  · intro before resting
    have same := sends.eq_of_resting before resting
    have stream_eq := congrArg TCPSender.stream same
    have window_eq := congrArg TCPSender.window same
    exact ⟨rfl, TCPSender.alike_of_window stream_eq window_eq, rfl, rfl⟩

/-- The acknowledgment of the segment is accepted, covers the SYN and lets the
sender reach its FIN. -/
def FinFollows (connection : TCPConnection) (segment : TCPSegment) : Prop :=
  segment.header.ack = true ∧
    connection.sender.window.Accepts segment.header.ackno ∧
    1 ≤ unwrap segment.header.ackno connection.sender.window.isn
      connection.sender.window.nextSeqno ∧
    connection.sender.ReachesFin
      (unwrap segment.header.ackno connection.sender.window.isn
        connection.sender.window.nextSeqno)
      (max 1 segment.header.win.toNat)

instance (connection : TCPConnection) (segment : TCPSegment) :
    Decidable (connection.FinFollows segment) :=
  inferInstanceAs (Decidable (_ ∧ _ ∧ _ ∧ _))

/-- Handing an acknowledgment to the sender. -/
structure Acks (connection : TCPConnection) (segment : TCPSegment) (final : TCPConnection) :
    Prop extends Fills connection final where
  unfinished : 0 < connection.sender.window.firstSeqno -> connection.sender.Unfinished ->
    final.sender.Awaits
  finished : 0 < connection.sender.window.firstSeqno -> connection.sender.Finished ->
    final.sender.Finished
  reaches : connection.FinFollows segment ->
    final.sender.FinOut ∧ 0 < final.sender.window.firstSeqno

theorem acks {segment : TCPSegment} (composed : connection.sender.Composed)
    (done : connection.takeAck segment = .ok final) : Acks connection segment final := by
  rcases takeAck_spec done with ⟨sender, received, rfl⟩
  unfold TCPSender.ackReceived at received
  cases taken : connection.sender.takeAck segment.header.ackno segment.header.win with
  | error fault =>
      rw [taken] at received
      cases received
  | ok updated =>
      rw [taken] at received
      have took := TCPSender.takeAck_spec taken
      have middle := composed.tookAck took
      have order := took.ordered composed.ordered
      rcases TCPSender.fillWindow_sends received with ⟨segments, sends⟩
      have frame := sends.frame
      have rests := TCPSender.fillWindow_rests middle.ordered received
      refine ⟨⟨rfl, rfl, rfl, middle.sends sends,
        TCPSender.fillWindow_opens middle.noError received, rests, ?_, ?_⟩, ?_, ?_, ?_⟩
      · dsimp only
        rw [frame.firstSeqno_eq]
        exact order.1
      · intro finOut
        exact (finOut.frame took.stream_eq took.nextSeqno_eq).sends sends
      · intro acked unfinished
        have still : updated.Awaits :=
          Or.inl (unfinished.frame took.stream_eq took.nextSeqno_eq)
        exact still.sends middle (Nat.lt_of_lt_of_le acked order.1) sends
      · intro acked finished
        have still := finished.frame took.stream_eq took.nextSeqno_eq
        have same := sends.rests_of_finished middle.noError middle.ordered
          (Nat.lt_of_lt_of_le acked order.1) still
        exact same ▸ still
      · rintro ⟨_, accepts, positive, reaches⟩
        exact took.finOut composed sends rests accepts positive reaches

end

end TCPConnection
end Tcp
end Sponge
