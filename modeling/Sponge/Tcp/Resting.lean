import Sponge.Foundation.Runs
import Sponge.Tcp.Filling
import Sponge.Tcp.Stages

namespace Sponge
namespace Tcp

open Foundation Bytes

/-!
# Between two operations the sender rests

Every method that gives the sender something to send, or room for it, fills the
window afterwards.  So as long as the outbound stream has not failed, the sending
loop has nothing to do at the beginning of an operation.
-/

namespace TCPConnection

/-- The outbound stream has failed, or the sender has nothing to send at the
moment. -/
def Rested (connection : TCPConnection) : Prop :=
  connection.sender.stream.error = true ∨
    connection.sender.Composed ∧ ¬ connection.sender.MaySend

section

variable {connection final : TCPConnection} {segment : TCPSegment}

/-- What a collection leaves behind, whatever there was to send. -/
theorem collect_rested
    (sound : connection.sender.stream.error = true ∨ connection.sender.Composed)
    (done : connection.collectSenderSegmentsOut = .ok final) : final.Rested := by
  rcases sound with failed | composed
  · rcases collect_spec done with ⟨filled, fills, rfl⟩
    rcases TCPSender.fillWindow_sends fills with ⟨segments, sends⟩
    exact Or.inl (sends.frame.error_eq.trans failed)
  · have collects := TCPConnection.collects composed done
    exact Or.inr ⟨collects.composed, collects.rests⟩

theorem Rested.sound (rested : connection.Rested) :
    connection.sender.stream.error = true ∨ connection.sender.Composed :=
  rested.imp_right And.left

theorem Rested.alike (rested : connection.Rested)
    (alike : TCPSender.Alike connection.sender final.sender) : final.Rested := by
  rcases rested with failed | ⟨composed, rests⟩
  · exact Or.inl (alike.stream_eq ▸ failed)
  · exact Or.inr ⟨composed.alike alike, fun may => rests (may.alike alike)⟩

theorem rested_keptByParts : KeptByParts Rested where
  flags := fun _ _ _ rested => rested
  clock := fun _ _ rested => rested
  collect := fun _ _ rested done => collect_rested rested.sound done
  push := fun _ _ rested done => rested.alike (pushAck_carried done).sender_alike
  queue := fun _ _ rested done => rested.alike (queueAck_carried done).sender_alike
  empty := fun _ rested => rested.alike (TCPSender.alike_of_window rfl rfl)
  reset := fun _ _ => Or.inl rfl
  tickSender := fun connection msSinceLastTick rested =>
    rested.alike (connection.sender.tick_spec msSinceLastTick).alike
  pushRst := fun _ rested => rested

theorem Rested.takeAck (rested : connection.Rested)
    (done : connection.takeAck segment = .ok final) : final.Rested := by
  rcases rested with failed | ⟨composed, _⟩
  · rcases takeAck_spec done with ⟨sender, received, rfl⟩
    rcases TCPSender.ackReceived_spec received with ⟨updated, segments, took, sends⟩
    have still : updated.stream.error = true := took.stream_eq ▸ failed
    exact Or.inl (sends.frame.error_eq.trans still)
  · have acks := TCPConnection.acks composed done
    exact Or.inr ⟨acks.composed, acks.rests⟩

theorem Rested.dispatch (rested : connection.Rested)
    (done : connection.dispatch segment = .ok final) : final.Rested :=
  dispatch_keeps rested_keptByParts.toKeptUntimed (fun _ _ _ _ _ kept => kept)
    (fun _ _ _ kept takes => kept.takeAck takes) rested done

theorem Rested.perform (rested : connection.Rested) {op : OwnerOp}
    (done : connection.perform op = .ok final) : final.Rested := by
  cases op with
  | connect => exact collect_rested rested.sound done
  | write data =>
      rcases bind_ok done with ⟨⟨collected, count⟩, writes, rest⟩
      cases rest
      have sound : (connection.wrote data).sender.stream.error = true ∨
          (connection.wrote data).sender.Composed :=
        rested.sound.imp (ByteStream.write_error _ _).trans fun composed => composed.write data
      exact collect_rested sound (write_spec writes).2
  | endInputStream =>
      have sound : connection.ended.sender.stream.error = true ∨
          connection.ended.sender.Composed :=
        rested.sound.imp_right fun composed => composed.endInput
      exact collect_rested sound done
  | tick msSinceLastTick => exact tick_keeps rested_keptByParts rested done
  | popInbound length =>
      cases done
      exact rested

theorem Rested.step (rested : connection.Rested) {op : ConnectionOp}
    (taken : connection.step op = .ok final) : final.Rested := by
  cases op with
  | owner op => exact rested.perform taken
  | segmentReceived segment =>
      exact segmentReceived_keeps rested_keptByParts (fun _ _ _ kept => kept)
        (fun _ _ _ kept takes => kept.takeAck takes) rested taken

theorem new_rested (cfg : TCPConfig) (random : WrappingInt32) : (new cfg random).Rested :=
  Or.inr ⟨TCPSender.new_composed _ _ _, fun may => may.notClosed rfl⟩

theorem run_rested {cfg : TCPConfig} {random : WrappingInt32} {ops : List ConnectionOp}
    (done : run TCPConnection.step (new cfg random) ops = .ok connection) : connection.Rested :=
  run_invariant Rested (fun _ _ _ rested taken => rested.step taken) (new_rested cfg random) done

end

end TCPConnection
end Tcp
end Sponge
