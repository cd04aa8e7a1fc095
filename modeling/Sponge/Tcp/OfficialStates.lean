import Sponge.Foundation.Runs
import Sponge.Tcp.Stages

namespace Sponge
namespace Tcp

open Foundation Bytes

/-!
# Every state is an official one

A FIN in ESTABLISHED ends lingering at once, while the receiver's part of the
state changes only when the inbound stream is complete.  The two have to happen
together, or the connection is in no official state and passes over every later
segment.  Before ESTABLISHED no FIN ends lingering, so there the inbound stream
may be completed only if the sender reaches its own FIN in the same step.
-/

namespace TCPConnection

/-- A segment handed to the receiver completes the inbound stream only when
the state can take it, and in ESTABLISHED a FIN does complete it. -/
def EndsInTurn (connection : TCPConnection) (segment : TCPSegment) : Prop :=
  connection.takes segment = true ->
    (connection.state = .ofState .listen -> ¬ connection.receiver.Completes segment) ∧
    (connection.state = .ofState .synSent ∨ connection.state = .ofState .synRcvd ->
      connection.receiver.Completes segment -> connection.FinFollows segment) ∧
    (connection.state = .ofState .established ->
      (segment.header.fin = true -> connection.receiver.Completes segment) ∧
      (connection.receiver.Completes segment ->
        segment.header.fin = true ∨ connection.FinFollows segment))

instance (connection : TCPConnection) (segment : TCPSegment) :
    Decidable (connection.EndsInTurn segment) :=
  inferInstanceAs (Decidable (_ -> _))

section

variable {connection final : TCPConnection} {segment : TCPSegment}

/-! ## Parts -/

theorem Sound.takeSegment (sound : connection.Sound) (segment : TCPSegment) :
    (connection.takeSegment segment).Sound :=
  ⟨TCPReceiver.segmentReceived_wf sound.wf segment,
    (TCPReceiver.segmentReceived_error sound.wf segment).trans sound.noError, sound.composed⟩

theorem Sound.takeSegment_ended (sound : connection.Sound) (segment : TCPSegment) :
    (connection.takeSegment segment).receiver.streamOut.endFlag = true <->
      connection.receiver.streamOut.endFlag = true ∨ connection.receiver.Completes segment :=
  TCPReceiver.segmentReceived_endFlag sound.wf segment

theorem Fills.sound (fills : Fills connection final) (sound : connection.Sound) :
    final.Sound := by
  refine ⟨?_, ?_, fills.composed⟩
  · rw [fills.receiver_eq]
    exact sound.wf
  · rw [fills.receiver_eq]
    exact sound.noError

/-- A connection that lingers is open until the inbound stream ends, and then
closing, if the FIN is out. -/
theorem Fills.live (fills : Fills connection final) (sound : connection.Sound)
    (isSet : connection.receiver.isSet = true) (active : connection.active = true)
    (lingers : connection.lingerAfterStreamsFinish = true)
    (finish : connection.receiver.streamOut.endFlag = true ->
      final.sender.FinOut ∧ 0 < final.sender.window.firstSeqno) : final.Live := by
  refine ⟨fills.sound sound, ?_, fills.rests⟩
  have set' : final.receiver.isSet = true := fills.receiver_eq ▸ isSet
  cases flag : connection.receiver.streamOut.endFlag with
  | false =>
      exact .opened set' (fills.receiver_eq ▸ flag) (fills.active_eq.trans active)
        (fills.linger_eq.trans lingers) fills.used
  | true =>
      rcases finish flag with ⟨finOut, acked⟩
      exact .closing set' (fills.receiver_eq ▸ flag) (fills.active_eq.trans active)
        (fills.linger_eq.trans lingers) acked finOut

theorem Stage.collects (stage : connection.Stage) (sound : connection.Sound)
    (collects : Collects connection final) : final.Stage := by
  have receiver_eq := collects.receiver_eq
  cases stage with
  | listening unset unended active lingers unacked =>
      rw [← receiver_eq] at unset unended
      exact .listening unset unended (collects.active_eq.trans active)
        (collects.linger_eq.trans lingers) (collects.firstSeqno_eq.trans unacked)
  | opened isSet unended active lingers used =>
      rw [← receiver_eq] at isSet unended
      exact .opened isSet unended (collects.active_eq.trans active)
        (collects.linger_eq.trans lingers) collects.used
  | closing isSet ended active lingers acked finOut =>
      rw [← receiver_eq] at isSet ended
      exact .closing isSet ended (collects.active_eq.trans active)
        (collects.linger_eq.trans lingers) (Nat.lt_of_lt_of_le acked collects.acked_le)
        (collects.finOut finOut)
  | leaving isSet ended active leaves acked awaits =>
      rw [← receiver_eq] at isSet ended
      exact .leaving isSet ended (collects.active_eq.trans active)
        (collects.linger_eq.trans leaves) (Nat.lt_of_lt_of_le acked collects.acked_le)
        (collects.awaits acked awaits)
  | closed isSet ended inactive acked finOut all =>
      have resting := TCPSender.not_maySend_of_finished sound.composed.noError
        sound.composed.ordered finOut.eof finOut.used acked
      exact (Stage.closed isSet ended inactive acked finOut all).carried
        (collects.quiet (by omega) resting)

theorem Stage.collected (stage : connection.Stage) (sound : connection.Sound)
    (done : connection.collectSenderSegmentsOut = .ok final) : final.Live := by
  have collects := TCPConnection.collects sound.composed done
  exact ⟨collects.sound sound, stage.collects sound collects, collects.rests⟩

/-! ## Inbound segments, state by state -/

theorem Live.inListen (live : connection.Live) (active : connection.active = true)
    (lingers : connection.lingerAfterStreamsFinish = true)
    (unended : connection.receiver.streamOut.endFlag = false)
    (inTurn : segment.header.syn = true -> ¬ connection.receiver.Completes segment)
    (done : connection.inListen segment = .ok final) : final.Live := by
  unfold TCPConnection.inListen at done
  split at done
  · rename_i syn
    rcases bind_ok done with ⟨connected, collected, rest⟩
    cases rest
    have taken := live.sound.takeSegment segment
    have collects := TCPConnection.collects taken.composed collected
    have isSet : (connection.takeSegment segment).receiver.isSet = true := by
      rw [takeSegment_isSet, syn, Bool.or_true]
    have opened : connected.Live := by
      apply collects.toFills.live taken isSet active lingers
      intro ended
      rcases (live.sound.takeSegment_ended segment).mp ended with before | completes
      · rw [unended] at before
        cases before
      · exact absurd completes (inTurn syn)
    exact opened.carried ⟨rfl, TCPSender.alike_of_window rfl rfl,
      (collects.active_eq.trans active).symm, rfl⟩
  · cases done
    exact live

/-- The acknowledgment of a segment that has just been handed to the receiver,
while the connection lingers. -/
theorem Sound.acks_taken (sound : connection.Sound)
    (isSet : (connection.takeSegment segment).receiver.isSet = true)
    (active : connection.active = true)
    (lingers : connection.lingerAfterStreamsFinish = true)
    (finish : connection.receiver.streamOut.endFlag = true ∨
      connection.receiver.Completes segment ->
        connection.FinFollows segment ∨
          connection.sender.FinOut ∧ 0 < connection.sender.window.firstSeqno)
    (done : (connection.takeSegment segment).takeAck segment = .ok final) : final.Live := by
  have taken := sound.takeSegment segment
  have acks := TCPConnection.acks taken.composed done
  apply acks.toFills.live taken isSet active lingers
  intro ended
  rcases finish ((sound.takeSegment_ended segment).mp ended) with follows | ⟨finOut, acked⟩
  · exact acks.reaches follows
  · exact ⟨acks.finOut finOut, Nat.lt_of_lt_of_le acked acks.acked_le⟩

theorem Live.inSynSent (live : connection.Live) (active : connection.active = true)
    (lingers : connection.lingerAfterStreamsFinish = true)
    (unended : connection.receiver.streamOut.endFlag = false)
    (used : connection.sender.window.nextSeqno ≠ 0)
    (inTurn : segment.header.syn = true -> connection.receiver.Completes segment ->
      connection.FinFollows segment)
    (done : connection.inSynSent segment = .ok final) : final.Live := by
  have isSet : segment.header.syn = true ->
      (connection.takeSegment segment).receiver.isSet = true := by
    intro syn
    rw [takeSegment_isSet, syn, Bool.or_true]
  have follows : segment.header.syn = true -> connection.receiver.streamOut.endFlag = true ∨
      connection.receiver.Completes segment -> connection.FinFollows segment := by
    intro syn ends
    rcases ends with before | completes
    · rw [unended] at before
      cases before
    · exact inTurn syn completes
  unfold TCPConnection.inSynSent at done
  split at done
  · rename_i both
    have syn := (Bool.and_eq_true_iff.mp both).1
    rcases bind_ok done with ⟨acked, taken, pushed⟩
    have middle := live.sound.acks_taken (isSet syn) active lingers
      (fun ends => Or.inl (follows syn ends)) taken
    exact middle.carried (pushAck_carried pushed)
  · split at done
    · rename_i noAck syn
      have sound := live.sound.takeSegment segment
      have still : (connection.takeSegment segment).receiver.streamOut.endFlag = false := by
        by_contra ended
        have ends := (live.sound.takeSegment_ended segment).mp (Bool.eq_true_of_not_eq_false ended)
        exact noAck (Bool.and_eq_true_iff.mpr ⟨syn, (follows syn ends).1⟩)
      have opened : (connection.takeSegment segment).Live :=
        ⟨sound, .opened (isSet syn) still active lingers used, live.rests⟩
      exact opened.carried (pushAck_carried done)
    · cases done
      exact live

theorem Live.inSynRcvd (live : connection.Live) (isSet : connection.receiver.isSet = true)
    (active : connection.active = true)
    (lingers : connection.lingerAfterStreamsFinish = true)
    (unended : connection.receiver.streamOut.endFlag = false)
    (inTurn : segment.header.ack = true -> connection.receiver.Completes segment ->
      connection.FinFollows segment)
    (done : connection.inSynRcvd segment = .ok final) : final.Live := by
  unfold TCPConnection.inSynRcvd at done
  split at done
  · rename_i flagged
    refine live.sound.acks_taken ?_ active lingers ?_ done
    · rw [takeSegment_isSet, isSet, Bool.true_or]
    · intro ends
      rcases ends with before | completes
      · rw [unended] at before
        cases before
      · exact Or.inl (inTurn flagged completes)
  · cases done
    exact live

/-- What ESTABLISHED and FIN_WAIT_1 do first: hand the segment over and reply.
A sender at rest has nothing to send with the reply. -/
theorem takeAndReply_carried (composed : connection.sender.Composed)
    (used : connection.sender.window.nextSeqno ≠ 0) (rests : ¬ connection.sender.MaySend)
    (done : connection.takeAndReply segment = .ok final) :
    (segment.lengthInSequenceSpace ≠ 0 ∨ ¬ segment.header.ack) ∧
        Carried (connection.takeSegment segment) final ∨
      ¬ (segment.lengthInSequenceSpace ≠ 0 ∨ ¬ segment.header.ack) ∧ final = connection := by
  rcases takeAndReply_cases done with ⟨queued, taking, wasQueued, collected⟩ | passing
  · left
    have first := queueAck_carried wasQueued
    have alike : TCPSender.Alike connection.sender queued.sender := first.sender_alike
    have collects := TCPConnection.collects (composed.alike alike) collected
    exact ⟨taking, first.trans (collects.quiet (alike.nextSeqno_eq ▸ used)
      (fun may => rests (may.alike alike)))⟩
  · exact Or.inr passing

/-- What they do then: take the acknowledgment, if there is one. -/
theorem ackAndCollect_fills (composed : connection.sender.Composed)
    (used : connection.sender.window.nextSeqno ≠ 0) (rests : ¬ connection.sender.MaySend)
    (done : connection.ackAndCollect segment = .ok final) :
    Fills connection final ∧
      (0 < connection.sender.window.firstSeqno -> connection.sender.Unfinished ->
        final.sender.Awaits) ∧
      (connection.FinFollows segment ->
        final.sender.FinOut ∧ 0 < final.sender.window.firstSeqno) := by
  rcases ackAndCollect_cases done with ⟨acked, _, taken, collected⟩ | ⟨unset, rfl⟩
  · have acks := TCPConnection.acks composed taken
    have collects := TCPConnection.collects acks.composed collected
    have first_le := acks.acked_le
    refine ⟨⟨collects.receiver_eq.trans acks.receiver_eq, collects.active_eq.trans acks.active_eq,
      collects.linger_eq.trans acks.linger_eq, collects.composed, collects.used, collects.rests,
      Nat.le_trans first_le collects.acked_le, fun finOut => collects.finOut (acks.finOut finOut)⟩,
      ?_, ?_⟩
    · intro positive unfinished
      exact collects.awaits (Nat.lt_of_lt_of_le positive first_le)
        (acks.unfinished positive unfinished)
    · intro follows
      rcases acks.reaches follows with ⟨finOut, positive⟩
      exact ⟨collects.finOut finOut, Nat.lt_of_lt_of_le positive collects.acked_le⟩
  · refine ⟨⟨rfl, rfl, rfl, composed, used, rests, Nat.le_refl _, id⟩, ?_, ?_⟩
    · intro _ unfinished
      exact Or.inl unfinished
    · intro follows
      cases unset.symm.trans follows.1

/-- A sender that differs in queues and timers only reaches its FIN after the
same acknowledgments. -/
theorem FinFollows.alike (follows : connection.FinFollows segment)
    (alike : TCPSender.Alike connection.sender final.sender) : final.FinFollows segment := by
  unfold FinFollows TCPSendingWindow.Accepts TCPSender.ReachesFin at follows ⊢
  rw [alike.stream_eq, alike.isn_eq, alike.firstSeqno_eq, alike.nextSeqno_eq]
  exact follows

/-- Both steps together, for a sender at rest. -/
structure Establishes (connection : TCPConnection) (segment : TCPSegment)
    (final : TCPConnection) : Prop where
  sound : final.Sound
  rests : ¬ final.sender.MaySend
  isSet : final.receiver.isSet = true
  active_eq : final.active = connection.active
  linger_eq : final.lingerAfterStreamsFinish = connection.lingerAfterStreamsFinish
  used : final.sender.window.nextSeqno ≠ 0
  ended : final.receiver.streamOut.endFlag = true <->
    connection.receiver.streamOut.endFlag = true ∨
      (segment.lengthInSequenceSpace ≠ 0 ∨ ¬ segment.header.ack) ∧
        connection.receiver.Completes segment
  acked_le : connection.sender.window.firstSeqno ≤ final.sender.window.firstSeqno
  finOut : connection.sender.FinOut -> final.sender.FinOut
  awaits : 0 < connection.sender.window.firstSeqno -> connection.sender.Unfinished ->
    final.sender.Awaits
  reaches : connection.FinFollows segment ->
    final.sender.FinOut ∧ 0 < final.sender.window.firstSeqno

theorem establishes {replied : TCPConnection} (sound : connection.Sound)
    (isSet : connection.receiver.isSet = true)
    (used : connection.sender.window.nextSeqno ≠ 0) (rests : ¬ connection.sender.MaySend)
    (took : connection.takeAndReply segment = .ok replied)
    (done : replied.ackAndCollect segment = .ok final) :
    connection.Establishes segment final := by
  have middle : Exists fun base => Carried base replied ∧ base.Sound ∧
      base.receiver.isSet = true ∧ base.sender = connection.sender ∧
      base.active = connection.active ∧
      base.lingerAfterStreamsFinish = connection.lingerAfterStreamsFinish ∧
      (base.receiver.streamOut.endFlag = true <->
        connection.receiver.streamOut.endFlag = true ∨
          (segment.lengthInSequenceSpace ≠ 0 ∨ ¬ segment.header.ack) ∧
            connection.receiver.Completes segment) := by
    rcases takeAndReply_carried sound.composed used rests took with
      ⟨taking, carried⟩ | ⟨passing, rfl⟩
    · refine ⟨_, carried, sound.takeSegment segment, ?_, rfl, rfl, rfl, ?_⟩
      · rw [takeSegment_isSet, isSet, Bool.true_or]
      · rw [sound.takeSegment_ended, and_iff_right taking]
    · refine ⟨replied, ⟨rfl, TCPSender.alike_of_window rfl rfl, rfl, rfl⟩, sound, isSet, rfl, rfl,
        rfl, ?_⟩
      constructor
      · exact Or.inl
      · rintro (before | now)
        · exact before
        · exact absurd now.1 passing
  rcases middle with ⟨base, carried, baseSound, baseSet, sender_eq, active_eq, linger_eq, ended⟩
  have alike : TCPSender.Alike connection.sender replied.sender :=
    sender_eq ▸ carried.sender_alike
  have next_eq := alike.nextSeqno_eq
  have repliedSound := baseSound.carried carried
  have resting : ¬ replied.sender.MaySend := fun may => rests (may.alike alike)
  rcases ackAndCollect_fills repliedSound.composed (next_eq ▸ used) resting done with
    ⟨fills, awaits, reaches⟩
  have receiver_eq := fills.receiver_eq.trans carried.receiver_eq
  refine ⟨fills.sound repliedSound, fills.rests, ?_, ?_, ?_, fills.used, ?_, ?_, ?_, ?_, ?_⟩
  · rw [receiver_eq]
    exact baseSet
  · exact fills.active_eq.trans (carried.active_eq.trans active_eq)
  · exact fills.linger_eq.trans (carried.linger_eq.trans linger_eq)
  · rw [receiver_eq]
    exact ended
  · exact alike.firstSeqno_eq ▸ fills.acked_le
  · intro finOut
    exact fills.finOut (finOut.frame alike.stream_eq next_eq)
  · intro acked unfinished
    exact awaits (alike.firstSeqno_eq ▸ acked) (unfinished.frame alike.stream_eq next_eq)
  · intro follows
    exact reaches (follows.alike alike)

/-- Lingering goes on. -/
theorem Establishes.live (establishes : connection.Establishes segment final)
    (active : connection.active = true)
    (lingers : connection.lingerAfterStreamsFinish = true)
    (finish : final.receiver.streamOut.endFlag = true ->
      final.sender.FinOut ∧ 0 < final.sender.window.firstSeqno) : final.Live := by
  refine ⟨establishes.sound, ?_, establishes.rests⟩
  have stillActive := establishes.active_eq.trans active
  have stillLingers := establishes.linger_eq.trans lingers
  cases flag : final.receiver.streamOut.endFlag with
  | false => exact .opened establishes.isSet flag stillActive stillLingers establishes.used
  | true =>
      rcases finish flag with ⟨finOut, acked⟩
      exact .closing establishes.isSet flag stillActive stillLingers acked finOut

theorem Live.inEstablished (live : connection.Live)
    (current : connection.state = .ofState .established)
    (isSet : connection.receiver.isSet = true) (active : connection.active = true)
    (lingers : connection.lingerAfterStreamsFinish = true)
    (unended : connection.receiver.streamOut.endFlag = false)
    (acked : 0 < connection.sender.window.firstSeqno)
    (unfinished : connection.sender.Unfinished)
    (inTurn : takesIn segment .established = true ->
      (segment.header.fin = true -> connection.receiver.Completes segment) ∧
        (connection.receiver.Completes segment ->
          segment.header.fin = true ∨ connection.FinFollows segment))
    (done : connection.inEstablished segment = .ok final) : final.Live := by
  have sound := live.sound
  have used : connection.sender.window.nextSeqno ≠ 0 := by
    have := sound.composed.ordered
    omega
  have notWaiting : connection.state ≠ .ofState .finWait1 := by
    rw [current]
    decide
  rcases inEstablished_cases done with ⟨linger, replied, noted, took, rest⟩
  cases fin : segment.header.fin with
  | true =>
      have length := segment.length_pos_of_fin fin
      have taking : segment.lengthInSequenceSpace ≠ 0 ∨ ¬ segment.header.ack :=
        Or.inl (by omega)
      rw [if_pos ⟨fin, notWaiting⟩] at noted
      rw [noted] at took
      have leaves : Sound { connection with lingerAfterStreamsFinish := false } :=
        ⟨sound.wf, sound.noError, sound.composed⟩
      have result := establishes leaves isSet used live.rests took rest
      have completes := (inTurn (by simpa [takesIn] using taking)).1 fin
      exact ⟨result.sound, .leaving result.isSet (result.ended.mpr (Or.inr ⟨taking, completes⟩))
        (result.active_eq.trans active) result.linger_eq
        (Nat.lt_of_lt_of_le acked result.acked_le) (result.awaits acked unfinished), result.rests⟩
  | false =>
      rw [if_neg (fun both => absurd (fin.symm.trans both.1) Bool.false_ne_true)] at noted
      rw [noted] at took
      have result := establishes sound isSet used live.rests took rest
      apply result.live active lingers
      intro ended
      rcases result.ended.mp ended with before | ⟨taking, completes⟩
      · rw [unended] at before
        cases before
      · rcases (inTurn (by simpa [takesIn] using taking)).2 completes with isFin | follows
        · rw [fin] at isFin
          cases isFin
        · exact result.reaches follows

theorem Live.inFinWait1 (live : connection.Live)
    (current : connection.state = .ofState .finWait1)
    (isSet : connection.receiver.isSet = true) (active : connection.active = true)
    (lingers : connection.lingerAfterStreamsFinish = true)
    (used : connection.sender.window.nextSeqno ≠ 0)
    (acked : 0 < connection.sender.window.firstSeqno) (finOut : connection.sender.FinOut)
    (done : connection.inEstablished segment = .ok final) : final.Live := by
  rcases inEstablished_cases done with ⟨linger, replied, noted, took, rest⟩
  rw [if_neg (fun both => both.2 current)] at noted
  rw [noted] at took
  have result := establishes live.sound isSet used live.rests took rest
  exact result.live active lingers (fun _ => ⟨result.finOut finOut,
    Nat.lt_of_lt_of_le acked result.acked_le⟩)

/-- FIN_WAIT_2, or CLOSING up to its collecting: with the FIN out, any segment
may complete the inbound stream. -/
theorem Live.acks_finOut (live : connection.Live) (isSet : connection.receiver.isSet = true)
    (active : connection.active = true)
    (lingers : connection.lingerAfterStreamsFinish = true)
    (acked : 0 < connection.sender.window.firstSeqno) (finOut : connection.sender.FinOut)
    (done : (connection.takeSegment segment).takeAck segment = .ok final) : final.Live := by
  refine live.sound.acks_taken ?_ active lingers (fun _ => Or.inr ⟨finOut, acked⟩) done
  rw [takeSegment_isSet, isSet, Bool.true_or]

theorem Live.inFinWait2 (live : connection.Live) (isSet : connection.receiver.isSet = true)
    (active : connection.active = true)
    (lingers : connection.lingerAfterStreamsFinish = true)
    (acked : 0 < connection.sender.window.firstSeqno) (finOut : connection.sender.FinOut)
    (done : connection.inFinWait2 segment = .ok final) : final.Live := by
  unfold TCPConnection.inFinWait2 at done
  split at done
  · rcases bind_ok done with ⟨middle, taken, pushed⟩
    have kept := live.acks_finOut isSet active lingers acked finOut taken
    exact kept.carried (pushAck_carried pushed)
  · cases done
    exact live

theorem Live.inClosing (live : connection.Live) (isSet : connection.receiver.isSet = true)
    (active : connection.active = true)
    (lingers : connection.lingerAfterStreamsFinish = true)
    (acked : 0 < connection.sender.window.firstSeqno) (finOut : connection.sender.FinOut)
    (done : connection.inClosing segment = .ok final) : final.Live := by
  unfold TCPConnection.inClosing at done
  split at done
  · rcases bind_ok done with ⟨middle, taken, collected⟩
    have kept := live.acks_finOut isSet active lingers acked finOut taken
    exact kept.stage.collected kept.sound collected
  · cases done
    exact live

theorem Live.inTimeWait (live : connection.Live) (isSet : connection.receiver.isSet = true)
    (active : connection.active = true)
    (lingers : connection.lingerAfterStreamsFinish = true)
    (acked : 0 < connection.sender.window.firstSeqno) (finOut : connection.sender.FinOut)
    (done : connection.inTimeWait segment = .ok final) : final.Live := by
  unfold TCPConnection.inTimeWait at done
  split at done
  · rcases bind_ok done with ⟨middle, taken, pushed⟩
    have acks := TCPConnection.acks live.sound.composed taken
    have kept : middle.Live := acks.toFills.live live.sound isSet active lingers
      (fun _ => ⟨acks.finOut finOut, Nat.lt_of_lt_of_le acked acks.acked_le⟩)
    exact kept.carried (pushAck_carried pushed)
  · cases done
    exact live

theorem Live.inCloseWait (live : connection.Live) (isSet : connection.receiver.isSet = true)
    (ended : connection.receiver.streamOut.endFlag = true) (active : connection.active = true)
    (leaves : connection.lingerAfterStreamsFinish = false)
    (acked : 0 < connection.sender.window.firstSeqno)
    (unfinished : connection.sender.Unfinished)
    (done : connection.inCloseWait segment = .ok final) : final.Live := by
  unfold TCPConnection.inCloseWait at done
  split at done
  · rcases bind_ok done with ⟨middle, taken, pushed⟩
    have acks := TCPConnection.acks live.sound.composed taken
    have stage : middle.Stage := .leaving (acks.receiver_eq ▸ isSet) (acks.receiver_eq ▸ ended)
      (acks.active_eq.trans active) (acks.linger_eq.trans leaves)
      (Nat.lt_of_lt_of_le acked acks.acked_le) (acks.unfinished acked unfinished)
    have kept : middle.Live := ⟨acks.sound live.sound, stage, acks.rests⟩
    exact kept.carried (pushAck_carried pushed)
  · cases done
    exact live

/-- With the FIN out once, the sender's own state says whether it has been
acknowledged. -/
theorem finAcked_iff {sender : TCPSender} (composed : sender.Composed)
    (acked : 0 < sender.window.firstSeqno) (finished : sender.Finished) :
    sender.state = .finAcked <-> sender.window.firstSeqno = sender.window.nextSeqno := by
  have used := finished.used
  have ordered := composed.ordered
  unfold TCPSender.state TCPSender.nextSeqnoAbsolute TCPSender.bytesInFlight
    TCPSendingWindow.bytesInFlight
  rw [composed.noError, if_neg Bool.false_ne_true, if_neg (by omega), if_neg (by omega),
    if_neg (fun open' => open'.2 finished.eof), if_neg (by omega)]
  split
  · rename_i waiting
    constructor
    · exact nofun
    · intro all
      omega
  · rename_i done
    constructor
    · intro _
      by_contra waiting
      exact done ⟨finished.eof, used, by omega⟩
    · intro _
      rfl

theorem Live.inLastAck (live : connection.Live) (isSet : connection.receiver.isSet = true)
    (ended : connection.receiver.streamOut.endFlag = true) (active : connection.active = true)
    (leaves : connection.lingerAfterStreamsFinish = false)
    (acked : 0 < connection.sender.window.firstSeqno) (finished : connection.sender.Finished)
    (done : connection.inLastAck segment = .ok final) : final.Live := by
  unfold TCPConnection.inLastAck at done
  split at done
  · rcases bind_ok done with ⟨middle, taken, rest⟩
    have acks := TCPConnection.acks live.sound.composed taken
    have sound := acks.sound live.sound
    have still := acks.finished acked finished
    have stillAcked := Nat.lt_of_lt_of_le acked acks.acked_le
    have decides := finAcked_iff acks.composed stillAcked still
    have set' : middle.receiver.isSet = true := acks.receiver_eq ▸ isSet
    have ended' : middle.receiver.streamOut.endFlag = true := acks.receiver_eq ▸ ended
    cases rest
    split
    · rename_i finAcked
      exact ⟨⟨sound.wf, sound.noError, sound.composed⟩,
        .closed set' ended' rfl stillAcked still.finOut (decides.mp finAcked), acks.rests⟩
    · rename_i waiting
      have ordered := acks.composed.ordered
      have less : middle.sender.window.firstSeqno < middle.sender.window.nextSeqno :=
        Nat.lt_of_le_of_ne ordered (mt decides.mpr waiting)
      exact ⟨sound, .leaving set' ended' (acks.active_eq.trans active)
        (acks.linger_eq.trans leaves) stillAcked (Or.inr ⟨still, less⟩), acks.rests⟩
  · cases done
    exact live

end

end TCPConnection
end Tcp
end Sponge
