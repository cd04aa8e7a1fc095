import Sponge.Tcp.AckForwarding
import Sponge.Tcp.Resting
import Sponge.Tcp.Silence

namespace Sponge
namespace Tcp

open Foundation Bytes

/-!
# Probing a closed window

The sender treats a window of zero as one of one byte, and goes on sending that byte
until there is room for it.  It does not back off while the window is zero, but it
counts: a peer that answers every probe and keeps its window closed is given up like a
peer that is silent.  As long as nothing new is acknowledged, that count is the only
thing that can end a connection.
-/

namespace TCPSender

theorem Awaits.departs {sender : TCPSender} (awaits : sender.Awaits)
    (acked : 0 < sender.window.firstSeqno) : sender.Departs :=
  ⟨acked, awaits.imp_right And.left⟩

theorem Awaits.not_all_acked {sender : TCPSender} (awaits : sender.Awaits)
    (finOut : sender.FinOut) : sender.window.firstSeqno ≠ sender.window.nextSeqno := by
  rcases awaits with unfinished | ⟨_, waiting⟩
  · exact absurd unfinished (TCPConnection.not_unfinished_of_finOut finOut)
  · exact Nat.ne_of_lt waiting

/-- Behind the SYN and before the end the sender is in one of two states. -/
theorem Awaits.summary {sender : TCPSender} (awaits : sender.Awaits)
    (acked : 0 < sender.window.firstSeqno) (composed : sender.Composed) :
    TCPState.senderSummary sender = .synAcked ∨ TCPState.senderSummary sender = .finSent := by
  have ordered := composed.ordered
  rcases composed.summary_cases with ⟨zero, _⟩ | ⟨_, unacked, _⟩ | ⟨_, _, here⟩ |
    ⟨_, _, _, here⟩ | ⟨_, finOut, all, _⟩
  · omega
  · omega
  · exact Or.inl here
  · exact Or.inr here
  · exact absurd all (awaits.not_all_acked finOut)

/-- The acknowledgment is no news: if it is accepted at all, it acknowledges what is
acknowledged already. -/
def Repeats (sender : TCPSender) (ackno : WrappingInt32) : Prop :=
  sender.window.Accepts ackno ->
    unwrap ackno sender.window.isn sender.window.nextSeqno = sender.window.firstSeqno

instance (sender : TCPSender) (ackno : WrappingInt32) : Decidable (sender.Repeats ackno) :=
  inferInstanceAs (Decidable (_ -> _))

theorem Repeats.alike {sender updated : TCPSender} {ackno : WrappingInt32}
    (repeats : sender.Repeats ackno) (alike : Alike sender updated) : updated.Repeats ackno := by
  unfold Repeats TCPSendingWindow.Accepts
  rw [alike.isn_eq, alike.nextSeqno_eq, alike.firstSeqno_eq]
  exact repeats

theorem Repeats.ackReceived {sender filled : TCPSender} {ackno : WrappingInt32}
    {windowSize : UInt16} (repeats : sender.Repeats ackno)
    (received : sender.ackReceived ackno windowSize = .ok filled) :
    filled.window.firstSeqno = sender.window.firstSeqno := by
  rw [ackReceived_firstSeqno received]
  split
  · rename_i accepts
    exact repeats accepts
  · rfl

end TCPSender

namespace TCPConnection

/-- A connection whose SYN is acknowledged and which waits, for its window to open or
for its owner. -/
structure Persisting (connection : TCPConnection) : Prop where
  sound : connection.Sound
  active : connection.active = true
  acked : 0 < connection.sender.window.firstSeqno
  awaits : connection.sender.Awaits
  rests : ¬ connection.sender.MaySend

/-- Neither closed nor reset. -/
structure Unharmed (connection : TCPConnection) : Prop where
  active : connection.active = true
  outbound : connection.sender.stream.error = false
  inbound : connection.inboundStream.error = false

/-- The peer resets nothing and acknowledges nothing new. -/
def AcksNothingNew (connection : TCPConnection) : ConnectionOp -> Prop
  | .owner _ => True
  | .segmentReceived segment =>
      segment.header.rst = false ∧
        (segment.header.ack = true ∨ segment.header.fin = true ->
          connection.sender.Repeats segment.header.ackno)

instance (connection : TCPConnection) (op : ConnectionOp) :
    Decidable (connection.AcksNothingNew op) :=
  match op with
  | .owner _ => .isTrue trivial
  | .segmentReceived _ => inferInstanceAs (Decidable (_ ∧ (_ -> TCPSender.Repeats _ _)))

/-- A tick does not count one retransmission too many. -/
def FewRetransmissions (connection : TCPConnection) : ConnectionOp -> Prop
  | .owner (.tick msSinceLastTick) =>
      (connection.sender.consecutiveRetransmissionCount +
        if connection.sender.expires msSinceLastTick then 1 else 0) % 2 ^ 32 ≤
          TCPConfig.maxRetxAttempts
  | _ => True

instance (connection : TCPConnection) (op : ConnectionOp) :
    Decidable (connection.FewRetransmissions op) :=
  match op with
  | .owner (.tick _) => inferInstanceAs (Decidable (_ ≤ _))
  | .owner .connect | .owner (.write _) | .owner .endInputStream | .owner (.popInbound _)
  | .segmentReceived _ => .isTrue trivial

section

variable {connection final : TCPConnection} {segment : TCPSegment}

theorem Persisting.unharmed (persisting : connection.Persisting) : connection.Unharmed :=
  ⟨persisting.active, persisting.sound.composed.noError, persisting.sound.noError⟩

theorem Persisting.departs (persisting : connection.Persisting) : connection.sender.Departs :=
  persisting.awaits.departs persisting.acked

theorem Persisting.summary (persisting : connection.Persisting) :
    TCPState.senderSummary connection.sender = .synAcked ∨
      TCPState.senderSummary connection.sender = .finSent :=
  persisting.awaits.summary persisting.acked persisting.sound.composed

theorem Persisting.used (persisting : connection.Persisting) :
    connection.sender.window.nextSeqno ≠ 0 := by
  have acked := persisting.acked
  have ordered := persisting.sound.composed.ordered
  omega

/-! ## The parts of a method -/

theorem Persisting.carried (persisting : connection.Persisting)
    (carried : Carried connection final) : final.Persisting := by
  have alike := carried.sender_alike
  exact ⟨persisting.sound.carried carried, carried.active_eq.trans persisting.active,
    alike.firstSeqno_eq ▸ persisting.acked,
    persisting.awaits.frame alike.stream_eq alike.nextSeqno_eq alike.firstSeqno_eq,
    fun may => persisting.rests (may.alike alike)⟩

theorem Persisting.takeSegment (persisting : connection.Persisting) (segment : TCPSegment) :
    (connection.takeSegment segment).Persisting :=
  ⟨persisting.sound.takeSegment segment, persisting.active, persisting.acked,
    persisting.awaits, persisting.rests⟩

/-- Collecting, whatever there is to send. -/
theorem persisting_of_collect (sound : connection.Sound) (active : connection.active = true)
    (acked : 0 < connection.sender.window.firstSeqno) (awaits : connection.sender.Awaits)
    (done : connection.collectSenderSegmentsOut = .ok final) : final.Persisting := by
  have collects := TCPConnection.collects sound.composed done
  exact ⟨collects.sound sound, collects.active_eq.trans active, collects.firstSeqno_eq ▸ acked,
    collects.awaits acked awaits, collects.rests⟩

theorem Persisting.collect (persisting : connection.Persisting)
    (done : connection.collectSenderSegmentsOut = .ok final) : final.Persisting :=
  persisting_of_collect persisting.sound persisting.active persisting.acked persisting.awaits done

/-- An acknowledgment that is no news may open the window, but finishes nothing. -/
theorem Persisting.takeAck (persisting : connection.Persisting)
    (repeats : connection.sender.Repeats segment.header.ackno)
    (done : connection.takeAck segment = .ok final) : final.Persisting := by
  have acks := TCPConnection.acks persisting.sound.composed done
  have onward := takeAck_nextSeqno_le done
  have first_eq : final.sender.window.firstSeqno = connection.sender.window.firstSeqno := by
    rcases takeAck_spec done with ⟨sender, received, rfl⟩
    exact repeats.ackReceived received
  refine ⟨acks.sound persisting.sound, acks.active_eq.trans persisting.active,
    first_eq ▸ persisting.acked, ?_, acks.rests⟩
  rcases persisting.awaits with unfinished | ⟨finished, waiting⟩
  · exact acks.unfinished persisting.acked unfinished
  · exact Or.inr ⟨acks.finished persisting.acked finished, by omega⟩

/-! ## Receiving a segment -/

theorem Persisting.inEstablished (persisting : connection.Persisting)
    (repeats : segment.header.ack = true ∨ segment.header.fin = true ->
      connection.sender.Repeats segment.header.ackno)
    (done : connection.inEstablished segment = .ok final) : final.Persisting := by
  rcases inEstablished_cases done with ⟨linger, replied, _, replies, rest⟩
  have noted : { connection with lingerAfterStreamsFinish := linger }.Persisting :=
    ⟨⟨persisting.sound.wf, persisting.sound.noError, persisting.sound.composed⟩,
      persisting.active, persisting.acked, persisting.awaits, persisting.rests⟩
  have middle : replied.Persisting ∧
      TCPSender.Alike connection.sender replied.sender := by
    rcases takeAndReply_carried noted.sound.composed noted.used noted.rests replies with
      ⟨_, carried⟩ | ⟨_, same⟩
    · exact ⟨(noted.takeSegment segment).carried carried, carried.sender_alike⟩
    · rw [same]
      exact ⟨noted, TCPSender.alike_of_window rfl rfl⟩
  rcases ackAndCollect_cases rest with ⟨acked, flagged, taken, collects⟩ | ⟨_, rfl⟩
  · have again := (repeats (Or.inl flagged)).alike middle.2
    exact (middle.1.takeAck again taken).collect collects
  · exact middle.1

theorem Persisting.inLastAck (persisting : connection.Persisting)
    (repeats : segment.header.ack = true ∨ segment.header.fin = true ->
      connection.sender.Repeats segment.header.ackno)
    (done : connection.inLastAck segment = .ok final) : final.Persisting := by
  unfold TCPConnection.inLastAck at done
  split at done
  · rename_i flagged
    rcases bind_ok done with ⟨acked, taken, rest⟩
    have still := persisting.takeAck (repeats (Or.inl flagged)) taken
    have waits : acked.sender.state ≠ .finAcked := by
      intro finAcked
      rcases still.departs.all_acked still.sound.composed finAcked with ⟨finOut, all⟩
      exact still.awaits.not_all_acked finOut all
    rw [if_neg waits] at rest
    cases rest
    exact still
  · cases done
    exact persisting

theorem Persisting.inClosing (persisting : connection.Persisting)
    (repeats : segment.header.ack = true ∨ segment.header.fin = true ->
      connection.sender.Repeats segment.header.ackno)
    (done : connection.inClosing segment = .ok final) : final.Persisting := by
  unfold TCPConnection.inClosing at done
  split at done
  · rename_i flagged
    rcases bind_ok done with ⟨acked, taken, collects⟩
    have handed := persisting.takeSegment segment
    exact (handed.takeAck (repeats (Or.inl flagged)) taken).collect collects
  · cases done
    exact persisting

theorem Persisting.inCloseWait (persisting : connection.Persisting)
    (repeats : segment.header.ack = true ∨ segment.header.fin = true ->
      connection.sender.Repeats segment.header.ackno)
    (done : connection.inCloseWait segment = .ok final) : final.Persisting := by
  unfold TCPConnection.inCloseWait at done
  split at done
  · rename_i fin
    rcases bind_ok done with ⟨acked, taken, pushes⟩
    exact (persisting.takeAck (repeats (Or.inr fin)) taken).carried (pushAck_carried pushes)
  · cases done
    exact persisting

/-- The other states are those of a sender before its SYN is acknowledged, or with
everything acknowledged. -/
theorem Persisting.dispatch (persisting : connection.Persisting)
    (repeats : segment.header.ack = true ∨ segment.header.fin = true ->
      connection.sender.Repeats segment.header.ackno)
    (done : connection.dispatch segment = .ok final) : final.Persisting := by
  have elsewhere (state : TCPState.State) (current : connection.state = .ofState state)
      (notAcked : (TCPState.ofState state).sender ≠ .synAcked)
      (notSent : (TCPState.ofState state).sender ≠ .finSent) : False := by
    have here : TCPState.senderSummary connection.sender = (TCPState.ofState state).sender :=
      congrArg TCPState.sender current
    rcases persisting.summary with acked | sent
    · exact notAcked (here.symm.trans acked)
    · exact notSent (here.symm.trans sent)
  rcases dispatch_cases done with ⟨state, current, done⟩ | rfl
  · cases state with
    | listen => exact (elsewhere _ current nofun nofun).elim
    | synSent => exact (elsewhere _ current nofun nofun).elim
    | synRcvd => exact (elsewhere _ current nofun nofun).elim
    | established => exact persisting.inEstablished repeats done
    | finWait1 => exact persisting.inEstablished repeats done
    | finWait2 => exact (elsewhere _ current nofun nofun).elim
    | lastAck => exact persisting.inLastAck repeats done
    | closing => exact persisting.inClosing repeats done
    | closeWait => exact persisting.inCloseWait repeats done
    | timeWait => exact (elsewhere _ current nofun nofun).elim
    | closed => exact (elsewhere _ current nofun nofun).elim
    | reset => exact (elsewhere _ current nofun nofun).elim
  · exact persisting

theorem Persisting.keepAlive (persisting : connection.Persisting)
    (done : connection.keepAlive segment = .ok final) : final.Persisting := by
  rcases keepAlive_cases done with ⟨_, collected⟩ | ⟨_, rfl⟩
  · exact (persisting.carried connection.sendEmptySegment_carried).collect collected
  · exact persisting

theorem Persisting.segmentReceived (persisting : connection.Persisting)
    (nothingNew : connection.AcksNothingNew (.segmentReceived segment))
    (done : connection.segmentReceived segment = .ok final) : final.Persisting := by
  have heard := persisting.carried connection.heard_carried
  rcases segmentReceived_cases done with ⟨rst, _⟩ | ⟨_, dispatched, handled, answered⟩
  · cases nothingNew.1.symm.trans rst
  · exact (heard.dispatch nothingNew.2 handled).keepAlive answered

/-! ## The count of retransmissions -/

/-- A connection that is not in TIME_WAIT does not look at its clock. -/
theorem Persisting.stopLingering_eq (persisting : connection.Persisting) :
    connection.stopLingering = connection := by
  unfold TCPConnection.stopLingering
  refine if_neg (fun stops => ?_)
  have here : TCPState.senderSummary connection.sender = .finAcked :=
    congrArg TCPState.sender stops.1
  rcases persisting.summary with acked | sent
  · cases acked.symm.trans here
  · cases sent.symm.trans here

/-- A tick goes on with the connection, or counts one retransmission too many and ends
it. -/
theorem Persisting.tick (persisting : connection.Persisting) {msSinceLastTick : Nat}
    (done : connection.tick msSinceLastTick = .ok final) :
    connection.FewRetransmissions (.owner (.tick msSinceLastTick)) ∧ final.Persisting ∨
      ¬ connection.FewRetransmissions (.owner (.tick msSinceLastTick)) ∧
        final.active = false := by
  have elapsed := connection.elapsed_carried msSinceLastTick
  have aged : Carried connection { connection.elapsed msSinceLastTick with
      sender := connection.sender.tick msSinceLastTick } :=
    ⟨rfl, (connection.sender.tick_spec msSinceLastTick).alike, rfl, rfl⟩
  unfold FewRetransmissions
  dsimp only
  rw [← TCPSender.tick_consecutiveRetransmissions]
  rcases tick_cases done with ⟨ticked, ticked_eq, given⟩
  rw [(persisting.carried elapsed).stopLingering_eq] at ticked_eq
  rw [ticked_eq] at given
  rcases given with ⟨many, rfl⟩ | ⟨few, ⟨_, collected⟩ | ⟨_, rfl⟩⟩
  · exact Or.inr ⟨Nat.not_le_of_lt many, rfl⟩
  · exact Or.inl ⟨few, (persisting.carried aged).collect collected⟩
  · exact Or.inl ⟨few, persisting.carried aged⟩

theorem Persisting.step (persisting : connection.Persisting) {op : ConnectionOp}
    (nothingNew : connection.AcksNothingNew op) (taken : connection.step op = .ok final) :
    connection.FewRetransmissions op ∧ final.Persisting ∨
      ¬ connection.FewRetransmissions op ∧ final.active = false := by
  cases op with
  | segmentReceived segment =>
      exact Or.inl ⟨trivial, persisting.segmentReceived nothingNew taken⟩
  | owner op =>
      cases op with
      | connect => exact Or.inl ⟨trivial, persisting.collect taken⟩
      | write data =>
          rcases bind_ok taken with ⟨⟨collected, count⟩, writes, rest⟩
          cases rest
          have awaits : (connection.wrote data).sender.Awaits := persisting.awaits.write data
          exact Or.inl ⟨trivial, persisting_of_collect (persisting.sound.wrote data)
            persisting.active persisting.acked awaits (write_spec writes).2⟩
      | endInputStream =>
          have awaits : connection.ended.sender.Awaits := persisting.awaits.endInput
          exact Or.inl ⟨trivial, persisting_of_collect persisting.sound.ended
            persisting.active persisting.acked awaits taken⟩
      | tick msSinceLastTick => exact persisting.tick taken
      | popInbound length =>
          cases taken
          exact Or.inl ⟨trivial, ⟨persisting.sound.wf.popOutput length,
            persisting.sound.noError, persisting.sound.composed⟩, persisting.active,
            persisting.acked, persisting.awaits, persisting.rests⟩

theorem Persisting.step_iff (persisting : connection.Persisting) {op : ConnectionOp}
    (nothingNew : connection.AcksNothingNew op) (taken : connection.step op = .ok final) :
    (connection.FewRetransmissions op <-> final.Unharmed) ∧
      (final.Unharmed -> final.Persisting) := by
  rcases persisting.step nothingNew taken with ⟨few, still⟩ | ⟨many, inactive⟩
  · exact ⟨iff_of_true few still.unharmed, fun _ => still⟩
  · have harmed : ¬ final.Unharmed := by
      intro unharmed
      cases inactive.symm.trans unharmed.active
    exact ⟨iff_of_false many harmed, fun unharmed => absurd unharmed harmed⟩

/-- Every ESTABLISHED connection waits in this sense. -/
theorem Alive.persisting (alive : connection.Alive) (rested : connection.Rested)
    (current : connection.state = .ofState .established) : connection.Persisting := by
  have summary : TCPState.senderSummary connection.sender = .synAcked :=
    congrArg TCPState.sender current
  have rests : ¬ connection.sender.MaySend := by
    rcases rested with failed | ⟨_, rests⟩
    · cases alive.sound.composed.noError.symm.trans failed
    · exact rests
  rcases alive.sound.composed.summary_cases with ⟨_, other⟩ | ⟨_, _, other⟩ |
    ⟨acked, unfinished, _⟩ | ⟨_, _, _, other⟩ | ⟨_, _, _, other⟩
  · cases other.symm.trans summary
  · cases other.symm.trans summary
  · exact ⟨alive.sound, alive.active, acked, Or.inl unfinished, rests⟩
  · cases other.symm.trans summary
  · cases other.symm.trans summary

end

/-- **When probing kills a connection.**  An ESTABLISHED connection goes on with
whatever its owner does and whatever its peer sends, except a reset and an
acknowledgment of new data.  It stays active and without an error all along exactly
if no tick counts one retransmission too many. -/
theorem probing_harmless_iff (cfg : TCPConfig) (random : WrappingInt32)
    (ops later : List ConnectionOp) (connection final : TCPConnection)
    (done : run step (new cfg random) ops = .ok connection)
    (current : connection.state = .ofState .established)
    (nothingNew : RunMeets step AcksNothingNew connection later)
    (onward : run step connection later = .ok final) :
    RunMeets step FewRetransmissions connection later <->
      forall before reached, before <+: later -> run step connection before = .ok reached ->
        reached.Unharmed := by
  have standing : connection.Standing :=
    run_invariant Standing (fun _ _ _ standing taken => standing.step taken)
      (new_standing cfg random) done
  have persisting : connection.Persisting := by
    cases standing with
    | failed failed => cases failed.state_eq.symm.trans current
    | alive alive => exact alive.persisting (run_rested done) current
    | settled settled => cases settled.state_eq.symm.trans current
  refine runMeets_iff_guarded (fun _ => True) Persisting Unharmed (fun _ _ _ _ _ => trivial)
    ?_ ?_ persisting persisting.unharmed nothingNew onward trivial
  · intro state label next kept guarded taken unharmed
    exact (kept.step_iff guarded taken).2 unharmed
  · intro state label next kept _ guarded taken _
    exact (kept.step_iff guarded taken).1

/-- A window closes behind the SYN.  The probe is sent eight times again, and each
time the peer repeats its acknowledgment and its window of zero. -/
theorem probing_harmless_at_first :
    let cfg : TCPConfig := { recvCapacity := ⟨8, by decide⟩, sendCapacity := ⟨8, by decide⟩ }
    let ops : List ConnectionOp :=
      [.owner .connect,
        .segmentReceived
          { header := { seqno := ⟨100⟩, ackno := ⟨1⟩, win := 0, syn := true, ack := true } },
        .owner (.write [5])]
    let answer : TCPSegment := { header := { seqno := ⟨101⟩, ackno := ⟨1⟩, win := 0, ack := true } }
    let later := (List.replicate 8
      [ConnectionOp.owner (.tick 1000), .segmentReceived answer]).flatten
    Exists fun connection => run step (new cfg ⟨0⟩) ops = .ok connection ∧
      connection.sender.windowSizeIsZero = true ∧
      forall before reached, before <+: later -> run step connection before = .ok reached ->
        reached.Unharmed := by
  intro cfg ops answer later
  have checked : endsIn step (fun connection => decide
      (connection.state = .ofState .established ∧ connection.sender.windowSizeIsZero = true ∧
        RunMeets step AcksNothingNew connection later ∧
        RunMeets step FewRetransmissions connection later ∧
        endsIn step (fun _ => true) connection later = true)) (new cfg ⟨0⟩) ops = true := by
    decide +kernel
  rcases run_of_endsIn checked with ⟨connection, done, facts⟩
  rcases of_decide_eq_true facts with ⟨current, zero, nothingNew, few, goes⟩
  rcases run_of_endsIn goes with ⟨final, onward, _⟩
  refine ⟨connection, done, zero, ?_⟩
  exact (probing_harmless_iff cfg ⟨0⟩ ops later connection final done current nothingNew
    onward).mp few

/-- The ninth time the connection is reset, though every probe has been answered. -/
theorem probing_kills :
    let cfg : TCPConfig := { recvCapacity := ⟨8, by decide⟩, sendCapacity := ⟨8, by decide⟩ }
    let ops : List ConnectionOp :=
      [.owner .connect,
        .segmentReceived
          { header := { seqno := ⟨100⟩, ackno := ⟨1⟩, win := 0, syn := true, ack := true } },
        .owner (.write [5])]
    let answer : TCPSegment := { header := { seqno := ⟨101⟩, ackno := ⟨1⟩, win := 0, ack := true } }
    let later := (List.replicate 8
      [ConnectionOp.owner (.tick 1000), .segmentReceived answer]).flatten
    Exists fun connection => Exists fun final =>
      run step (new cfg ⟨0⟩) ops = .ok connection ∧
        connection.state = .ofState .established ∧
        connection.sender.windowSizeIsZero = true ∧
        connection.sender.window.Accepts answer.header.ackno ∧
        run step connection (later ++ [.owner (.tick 1000)]) = .ok final ∧
        final.active = false ∧ final.sender.stream.error = true ∧
        final.inboundStream.error = true := by
  intro cfg ops answer later
  have checked : endsIn step (fun connection => decide
      (connection.state = .ofState .established ∧ connection.sender.windowSizeIsZero = true ∧
        connection.sender.window.Accepts answer.header.ackno ∧
        endsIn step (fun final => decide (final.active = false ∧
          final.sender.stream.error = true ∧ final.inboundStream.error = true)) connection
          (later ++ [.owner (.tick 1000)]) = true)) (new cfg ⟨0⟩) ops = true := by
    decide +kernel
  rcases run_of_endsIn checked with ⟨connection, done, facts⟩
  rcases of_decide_eq_true facts with ⟨current, zero, accepts, dies⟩
  rcases run_of_endsIn dies with ⟨final, ended, dead⟩
  rcases of_decide_eq_true dead with ⟨inactive, outbound, inbound⟩
  exact ⟨connection, final, done, current, zero, accepts, ended, inactive, outbound, inbound⟩

end TCPConnection
end Tcp
end Sponge
