import Sponge.Tcp.OfficialStates

namespace Sponge
namespace Tcp

open Foundation Bytes

/-!
# Official states in every run

The steps of a connection, put together from the cases of `segment_received`
and from the methods of its owner.
-/

namespace TCPConnection

section

variable {connection final : TCPConnection} {segment : TCPSegment}

/-! ## Inbound segments -/

theorem Live.dispatch (live : connection.Live) (noRst : segment.header.rst = false)
    (inTurn : connection.EndsInTurn segment)
    (done : connection.dispatch segment = .ok final) : final.Live := by
  have sound := live.sound
  have turn := fun state (current : connection.state = .ofState state)
    (taking : takesIn segment state = true) => inTurn (takes_intro noRst current taking)
  cases live.stage with
  | listening unset unended active lingers unacked =>
      rcases sound.listening_state unset active lingers unacked with current | ⟨current, used⟩
      · rw [dispatch_eq segment current] at done
        exact live.inListen active lingers unended
          (fun syn => (turn _ current syn).1 current) done
      · rw [dispatch_eq segment current] at done
        exact live.inSynSent active lingers unended used
          (fun syn => (turn _ current syn).2.1 (Or.inl current)) done
  | opened isSet unended active lingers used =>
      rcases sound.opened_state isSet unended active lingers used with
        current | ⟨current, acked, unfinished⟩ | ⟨current | current, acked, finOut⟩
      · rw [dispatch_eq segment current] at done
        exact live.inSynRcvd isSet active lingers unended
          (fun ack => (turn _ current ack).2.1 (Or.inr current)) done
      · rw [dispatch_eq segment current] at done
        exact live.inEstablished current isSet active lingers unended acked unfinished
          (fun taking => (turn _ current taking).2.2 current) done
      · rw [dispatch_eq segment current] at done
        exact live.inFinWait1 current isSet active lingers used acked finOut done
      · rw [dispatch_eq segment current] at done
        exact live.inFinWait2 isSet active lingers acked finOut done
  | closing isSet ended active lingers acked finOut =>
      rcases sound.closing_state isSet ended active lingers acked finOut with
        current | ⟨current, _⟩
      · rw [dispatch_eq segment current] at done
        exact live.inClosing isSet active lingers acked finOut done
      · rw [dispatch_eq segment current] at done
        exact live.inTimeWait isSet active lingers acked finOut done
  | leaving isSet ended active leaves acked awaits =>
      rcases sound.leaving_state isSet ended active leaves acked awaits with
        ⟨current, unfinished⟩ | ⟨current, finished⟩
      · rw [dispatch_eq segment current] at done
        exact live.inCloseWait isSet ended active leaves acked unfinished done
      · rw [dispatch_eq segment current] at done
        exact live.inLastAck isSet ended active leaves acked finished done
  | closed isSet ended inactive acked finOut all =>
      rw [dispatch_eq segment (sound.closed_state isSet ended inactive acked finOut all)] at done
      cases done
      exact live

theorem Live.keepAlive (live : connection.Live)
    (done : connection.keepAlive segment = .ok final) : final.Live := by
  rcases keepAlive_cases done with ⟨_, collected⟩ | ⟨_, rfl⟩
  · have carried := connection.sendEmptySegment_carried
    exact (live.stage.carried carried).collected (live.sound.carried carried) collected
  · exact live

theorem resetReceived_failed (connection : TCPConnection) : connection.resetReceived.Failed :=
  ⟨rfl, rfl, rfl⟩

theorem Failed.collect (failed : connection.Failed)
    (done : connection.collectSenderSegmentsOut = .ok final) : final.Failed := by
  rcases collect_spec done with ⟨filled, fills, rfl⟩
  rcases TCPSender.fillWindow_sends fills with ⟨segments, sends⟩
  exact ⟨sends.frame.error_eq.trans failed.sender, failed.receiver, failed.inactive⟩

theorem Failed.keepAlive (failed : connection.Failed)
    (done : connection.keepAlive segment = .ok final) : final.Failed := by
  rcases keepAlive_cases done with ⟨_, collected⟩ | ⟨_, rfl⟩
  · have empty : Failed { connection with sender := connection.sender.sendEmptySegment } :=
      ⟨failed.sender, failed.receiver, failed.inactive⟩
    exact empty.collect collected
  · exact failed

theorem Proper.segmentReceived (proper : connection.Proper)
    (inTurn : connection.EndsInTurn segment)
    (done : connection.segmentReceived segment = .ok final) : final.Proper := by
  rcases segmentReceived_cases done with ⟨_, rfl⟩ | ⟨noRst, dispatched, handled, kept⟩
  · exact Or.inl (resetReceived_failed _)
  · rcases proper with failed | live
    · left
      have heard : connection.heard.Failed := ⟨failed.sender, failed.receiver, failed.inactive⟩
      rw [dispatch_eq segment heard.state_eq] at handled
      cases handled
      exact heard.keepAlive kept
    · right
      have heard := live.carried connection.heard_carried
      exact (heard.dispatch noRst inTurn handled).keepAlive kept

/-! ## Methods of the owner -/

theorem Sound.wrote (sound : connection.Sound) (data : List UInt8) :
    (connection.wrote data).Sound :=
  ⟨sound.wf, sound.noError, sound.composed.write data⟩

theorem Stage.wrote (stage : connection.Stage) (data : List UInt8) :
    (connection.wrote data).Stage := by
  cases stage with
  | listening unset unended active lingers unacked =>
      exact .listening unset unended active lingers unacked
  | opened isSet unended active lingers used => exact .opened isSet unended active lingers used
  | closing isSet ended active lingers acked finOut =>
      exact .closing isSet ended active lingers acked (finOut.write data)
  | leaving isSet ended active leaves acked awaits =>
      exact .leaving isSet ended active leaves acked (awaits.write data)
  | closed isSet ended inactive acked finOut all =>
      exact .closed isSet ended inactive acked (finOut.write data) all

theorem Sound.ended (sound : connection.Sound) : connection.ended.Sound :=
  ⟨sound.wf, sound.noError, sound.composed.endInput⟩

theorem Stage.ended (stage : connection.Stage) : connection.ended.Stage := by
  cases stage with
  | listening unset unended active lingers unacked =>
      exact .listening unset unended active lingers unacked
  | opened isSet unended active lingers used => exact .opened isSet unended active lingers used
  | closing isSet ended active lingers acked finOut =>
      exact .closing isSet ended active lingers acked finOut.endInput
  | leaving isSet ended active leaves acked awaits =>
      exact .leaving isSet ended active leaves acked awaits.endInput
  | closed isSet ended inactive acked finOut all =>
      exact .closed isSet ended inactive acked finOut.endInput all

theorem Live.popInbound (live : connection.Live) (length : Nat) :
    (connection.popInbound length).Live := by
  refine ⟨⟨live.sound.wf.popOutput length, live.sound.noError, live.sound.composed⟩, ?_,
    live.rests⟩
  cases live.stage with
  | listening unset unended active lingers unacked =>
      exact .listening unset unended active lingers unacked
  | opened isSet unended active lingers used => exact .opened isSet unended active lingers used
  | closing isSet ended active lingers acked finOut =>
      exact .closing isSet ended active lingers acked finOut
  | leaving isSet ended active leaves acked awaits =>
      exact .leaving isSet ended active leaves acked awaits
  | closed isSet ended inactive acked finOut all =>
      exact .closed isSet ended inactive acked finOut all

/-- Only TIME_WAIT stops lingering, and becomes CLOSED. -/
theorem Live.stopLingering (live : connection.Live) : connection.stopLingering.Live := by
  have sound := live.sound
  unfold TCPConnection.stopLingering
  split
  · rename_i stops
    have waits := stops.1
    have resolve : forall {state : TCPState.State}, connection.state = .ofState state ->
        TCPState.ofState state ≠ .ofState .timeWait -> False :=
      fun current other => other (current.symm.trans waits)
    cases live.stage with
    | listening unset unended active lingers unacked =>
        rcases sound.listening_state unset active lingers unacked with current | ⟨current, _⟩
        · exact absurd (by decide) (resolve current)
        · exact absurd (by decide) (resolve current)
    | opened isSet unended active lingers used =>
        rcases sound.opened_state isSet unended active lingers used with current | ⟨current, _⟩ |
          ⟨current | current, _⟩
        · exact absurd (by decide) (resolve current)
        · exact absurd (by decide) (resolve current)
        · exact absurd (by decide) (resolve current)
        · exact absurd (by decide) (resolve current)
    | closing isSet ended active lingers acked finOut =>
        rcases sound.closing_state isSet ended active lingers acked finOut with
          current | ⟨_, all⟩
        · exact absurd (by decide) (resolve current)
        · exact ⟨⟨sound.wf, sound.noError, sound.composed⟩,
            .closed isSet ended rfl acked finOut all, live.rests⟩
    | leaving isSet ended active leaves acked awaits =>
        rcases sound.leaving_state isSet ended active leaves acked awaits with
          ⟨current, _⟩ | ⟨current, _⟩
        · exact absurd (by decide) (resolve current)
        · exact absurd (by decide) (resolve current)
    | closed isSet ended inactive acked finOut all =>
        exact absurd (by decide)
          (resolve (sound.closed_state isSet ended inactive acked finOut all))
  · exact live

theorem Proper.stopLingering (proper : connection.Proper) :
    connection.stopLingering.Proper := by
  rcases proper with failed | live
  · left
    unfold TCPConnection.stopLingering
    split
    · exact ⟨failed.sender, failed.receiver, rfl⟩
    · exact failed
  · exact Or.inr live.stopLingering

theorem Proper.tickSender (proper : connection.Proper) (msSinceLastTick : Nat) :
    Proper { connection with sender := connection.sender.tick msSinceLastTick } := by
  have ticked := connection.sender.tick_spec msSinceLastTick
  rcases proper with failed | live
  · left
    have error_eq := congrArg ByteStream.error ticked.stream_eq
    exact ⟨error_eq.trans failed.sender, failed.receiver, failed.inactive⟩
  · right
    exact live.carried ⟨rfl, ticked.alike, rfl, rfl⟩

theorem Proper.collect (proper : connection.Proper)
    (done : connection.collectSenderSegmentsOut = .ok final) : final.Proper := by
  rcases proper with failed | live
  · exact Or.inl (failed.collect done)
  · exact Or.inr (live.stage.collected live.sound done)

theorem Proper.tick (proper : connection.Proper) {msSinceLastTick : Nat}
    (done : connection.tick msSinceLastTick = .ok final) : final.Proper := by
  have elapsed : (connection.elapsed msSinceLastTick).Proper := by
    rcases proper with failed | live
    · exact Or.inl ⟨failed.sender, failed.receiver, failed.inactive⟩
    · exact Or.inr (live.carried (connection.elapsed_carried msSinceLastTick))
  have aged := elapsed.stopLingering.tickSender msSinceLastTick
  rw [stopLingering_sender] at aged
  rcases tick_cases done with ⟨ticked, rfl, ⟨_, rfl⟩ | ⟨_, ⟨_, collected⟩ | ⟨_, rfl⟩⟩⟩
  · exact Or.inl ⟨rfl, rfl, rfl⟩
  · exact aged.collect collected
  · exact aged

theorem Proper.perform (proper : connection.Proper) {op : OwnerOp}
    (done : connection.perform op = .ok final) : final.Proper := by
  cases op with
  | connect => exact proper.collect done
  | write data =>
      rcases bind_ok done with ⟨⟨collected, count⟩, writes, rest⟩
      cases rest
      have collects := (write_spec writes).2
      rcases proper with failed | live
      · left
        have wrote : (connection.wrote data).Failed :=
          ⟨(ByteStream.write_error _ _).trans failed.sender, failed.receiver, failed.inactive⟩
        exact wrote.collect collects
      · exact Or.inr ((live.stage.wrote data).collected (live.sound.wrote data) collects)
  | endInputStream =>
      rcases proper with failed | live
      · left
        have ended : connection.ended.Failed := ⟨failed.sender, failed.receiver, failed.inactive⟩
        exact ended.collect done
      · exact Or.inr (live.stage.ended.collected live.sound.ended done)
  | tick msSinceLastTick => exact proper.tick done
  | popInbound length =>
      cases done
      rcases proper with failed | live
      · exact Or.inl ⟨failed.sender, failed.receiver, failed.inactive⟩
      · exact Or.inr (live.popInbound length)

end

/-! ## Every run of a connection -/

theorem new_proper (cfg : TCPConfig) (random : WrappingInt32) : (new cfg random).Proper := by
  right
  refine ⟨⟨StreamReassembler.new_wf _, rfl, TCPSender.new_composed _ _ _⟩,
    .listening rfl rfl rfl rfl rfl, ?_⟩
  intro may
  exact may.notClosed rfl

/-- The condition on a step: a segment completes the inbound stream only when
the state can take it. -/
def InTurn (connection : TCPConnection) : ConnectionOp -> Prop
  | .owner _ => True
  | .segmentReceived segment => connection.EndsInTurn segment

instance (connection : TCPConnection) (op : ConnectionOp) : Decidable (connection.InTurn op) :=
  match op with
  | .owner _ => .isTrue trivial
  | .segmentReceived _ => inferInstanceAs (Decidable (EndsInTurn _ _))

theorem Proper.step {connection next : TCPConnection} {op : ConnectionOp}
    (proper : connection.Proper) (inTurn : connection.InTurn op)
    (taken : connection.step op = .ok next) : next.Proper := by
  cases op with
  | owner op => exact proper.perform taken
  | segmentReceived segment => exact proper.segmentReceived inTurn taken

end TCPConnection

/-- In every run of a connection in which the inbound stream is completed in
turn, the state is an official one, and while the connection is active it is
one that `segment_received` has a case for. -/
theorem state_is_official (cfg : TCPConfig) (random : WrappingInt32) (ops : List ConnectionOp)
    (final : TCPConnection)
    (inTurn : RunMeets TCPConnection.step TCPConnection.InTurn (TCPConnection.new cfg random) ops)
    (done : run TCPConnection.step (TCPConnection.new cfg random) ops = .ok final) :
    Exists fun state => final.state = .ofState state ∧
      (final.active = true -> state ≠ .closed ∧ state ≠ .reset) := by
  have proper : final.Proper :=
    run_invariant_of_meets TCPConnection.Proper
      (fun _ _ _ invariant condition taken => invariant.step condition taken)
      (TCPConnection.new_proper cfg random) inTurn done
  exact proper.official

/-- A connection that is opened, takes two segments out of order and a FIN in
turn, and closes after the peer. -/
theorem state_is_official_close :
    let cfg : TCPConfig := { recvCapacity := ⟨8, by decide⟩, sendCapacity := ⟨8, by decide⟩ }
    let start := TCPConnection.new cfg ⟨0⟩
    let ops : List ConnectionOp :=
      [.owner .connect,
        .segmentReceived
          { header := { seqno := ⟨100⟩, ackno := ⟨1⟩, win := 10, syn := true, ack := true } },
        .segmentReceived
          { header := { seqno := ⟨102⟩, ackno := ⟨1⟩, win := 10, ack := true }, payload := [8] },
        .owner (.write [5]),
        .segmentReceived
          { header := { seqno := ⟨101⟩, ackno := ⟨1⟩, win := 10, ack := true }, payload := [7] },
        .segmentReceived
          { header := { seqno := ⟨103⟩, ackno := ⟨2⟩, win := 10, fin := true, ack := true },
            payload := [9] },
        .owner (.tick 1000), .owner .endInputStream,
        .segmentReceived { header := { seqno := ⟨105⟩, ackno := ⟨3⟩, win := 10, ack := true } }]
    Exists fun final => run TCPConnection.step start ops = .ok final ∧
      final.state = .ofState .closed ∧ Exists fun state => final.state = .ofState state := by
  intro cfg start ops
  have checked : endsIn TCPConnection.step (fun final =>
      decide (final.state = .ofState .closed)) start ops = true := by decide +kernel
  rcases run_of_endsIn checked with ⟨final, done, facts⟩
  rcases state_is_official _ _ ops final (by decide +kernel) done with ⟨state, official, _⟩
  exact ⟨final, done, of_decide_eq_true facts, state, official⟩

/-- A FIN that arrives before the bytes in front of it ends lingering while the
receiver still waits.  No official state has these parts. -/
theorem state_unofficial_after_early_fin :
    let cfg : TCPConfig := { recvCapacity := ⟨8, by decide⟩, sendCapacity := ⟨8, by decide⟩ }
    let start := TCPConnection.new cfg ⟨0⟩
    let ops : List ConnectionOp :=
      [.owner .connect,
        .segmentReceived
          { header := { seqno := ⟨100⟩, ackno := ⟨1⟩, win := 10, syn := true, ack := true } },
        .segmentReceived
          { header := { seqno := ⟨103⟩, ackno := ⟨1⟩, win := 10, fin := true, ack := true },
            payload := [9] }]
    Exists fun final => run TCPConnection.step start ops = .ok final ∧
      final.active = true ∧ forall state, final.state ≠ .ofState state := by
  intro cfg start ops
  have checked : endsIn TCPConnection.step (fun final =>
      decide (final.active = true ∧ final.state = ⟨.synAcked, .synRecv, true, false⟩))
      start ops = true := by decide +kernel
  rcases run_of_endsIn checked with ⟨final, done, facts⟩
  rcases of_decide_eq_true facts with ⟨active, current⟩
  refine ⟨final, done, active, ?_⟩
  intro state
  rw [current]
  cases state <;> decide

end Tcp
end Sponge
