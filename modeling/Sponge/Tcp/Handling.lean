import Sponge.Tcp.ConnectionParts

namespace Sponge
namespace Tcp

open Bytes Foundation

/-!
# Handling a segment without RST

A connection answers such a segment with a few common parts, whatever its state: it
hands the segment to the receiver and its acknowledgment to the sender, collects, and
acknowledges.  What all these parts keep, the whole answer keeps.
-/

/-- Whatever comes out of it has the property. -/
def Yields (property : TCPConnection -> Prop) (outcome : Except Fault TCPConnection) : Prop :=
  forall final, outcome = .ok final -> property final

section

variable {property : TCPConnection -> Prop} {connection : TCPConnection} {segment : TCPSegment}

theorem yields_return (holds : property connection) : Yields property (.ok connection) := by
  intro final done
  cases done
  exact holds

theorem Yields.bind {outcome : Except Fault TCPConnection}
    {rest : TCPConnection -> Except Fault TCPConnection} (first : Yields property outcome)
    (onward : forall middle, property middle -> Yields property (rest middle)) :
    Yields property (outcome >>= rest) := by
  intro final done
  rcases bind_ok done with ⟨middle, before, behind⟩
  exact onward middle (first middle before) final behind

theorem Yields.ite {condition : Prop} [Decidable condition]
    {first second : Except Fault TCPConnection} (holds : Yields property first)
    (fails : Yields property second) :
    Yields property (if condition then first else second) := by
  split
  · exact holds
  · exact fails

/-- A property that all parts of the methods keep, but for the reset and the RST. -/
structure KeptCalmly (property : TCPConnection -> Prop) : Prop where
  flags : forall {connection} linger active, property connection ->
    property { connection with lingerAfterStreamsFinish := linger, active := active }
  clock : forall {connection} time, property connection ->
    property { connection with timeSinceLastSegmentReceived := time }
  collect : forall {connection}, property connection ->
    Yields property connection.collectSenderSegmentsOut
  push : forall {connection}, property connection -> Yields property connection.pushAck
  queue : forall {connection}, property connection -> Yields property connection.queueAck
  empty : forall {connection}, property connection ->
    property { connection with sender := connection.sender.sendEmptySegment }
  take : forall {connection} segment, property connection ->
    property (connection.takeSegment segment)
  ack : forall {connection} segment, property connection ->
    Yields property (connection.takeAck segment)

namespace KeptCalmly

variable (parts : KeptCalmly property)

include parts

theorem inListen (holds : property connection) : Yields property (connection.inListen segment) := by
  refine .ite ?_ (yields_return holds)
  exact (parts.collect (parts.take segment holds)).bind fun connected kept =>
    yields_return (parts.flags connected.lingerAfterStreamsFinish true kept)

theorem takeThen {rest : TCPConnection -> Except Fault TCPConnection}
    (onward : forall middle, property middle -> Yields property (rest middle))
    (holds : property connection) :
    Yields property ((connection.takeSegment segment).takeAck segment >>= rest) :=
  (parts.ack segment (parts.take segment holds)).bind onward

theorem inSynSent (holds : property connection) :
    Yields property (connection.inSynSent segment) := by
  refine .ite (parts.takeThen (fun _ => parts.push) holds) (.ite ?_ (yields_return holds))
  exact parts.push (parts.take segment holds)

theorem inSynRcvd (holds : property connection) :
    Yields property (connection.inSynRcvd segment) :=
  .ite (parts.ack segment (parts.take segment holds)) (yields_return holds)

theorem takeAndReply (holds : property connection) :
    Yields property (connection.takeAndReply segment) := by
  refine .ite ?_ (yields_return holds)
  exact (parts.queue (parts.take segment holds)).bind fun _ => parts.collect

theorem inEstablished (holds : property connection) :
    Yields property (connection.inEstablished segment) := by
  have noted : property (if segment.header.fin ∧ connection.state ≠ .ofState .finWait1 then
      { connection with lingerAfterStreamsFinish := false } else connection) := by
    split
    · exact parts.flags false connection.active holds
    · exact holds
  refine (parts.takeAndReply noted).bind fun replied kept => ?_
  refine .ite ?_ (yields_return kept)
  exact (parts.ack segment kept).bind fun _ => parts.collect

theorem inLastAck (holds : property connection) :
    Yields property (connection.inLastAck segment) := by
  refine .ite ((parts.ack segment holds).bind fun acked kept => ?_) (yields_return holds)
  refine yields_return ?_
  split
  · exact parts.flags false false kept
  · exact kept

theorem ackAgain (holds : property connection) : Yields property (connection.ackAgain segment) :=
  (parts.ack segment holds).bind fun _ => parts.push

theorem dispatch (holds : property connection) : Yields property (connection.dispatch segment) := by
  have still : Yields property (.ok connection) := yields_return holds
  refine .ite (parts.inListen holds) (.ite (parts.inSynSent holds) ?_)
  refine .ite (parts.inSynRcvd holds) (.ite (parts.inEstablished holds) ?_)
  refine .ite (.ite (parts.takeThen (fun _ => parts.push) holds) still) ?_
  refine .ite (parts.inLastAck holds) ?_
  refine .ite (.ite (parts.takeThen (fun _ => parts.collect) holds) still) ?_
  refine .ite (.ite (parts.ackAgain holds) still) ?_
  exact .ite (.ite (parts.ackAgain holds) still) still

theorem keepAlive (holds : property connection) :
    Yields property (connection.keepAlive segment) := by
  unfold TCPConnection.keepAlive
  split
  · exact yields_return holds
  · exact .ite (parts.collect (parts.empty holds)) (yields_return holds)

/-- A segment without RST. -/
theorem segmentReceived (holds : property connection) (noRst : segment.header.rst = false) :
    Yields property (connection.segmentReceived segment) := by
  unfold TCPConnection.segmentReceived
  rw [noRst, if_neg Bool.false_ne_true]
  exact (parts.dispatch (parts.clock 0 holds)).bind fun _ => parts.keepAlive

end KeptCalmly

/-- Such a property that does not look at the streams. -/
structure KeptBesideStreams (property : TCPConnection -> Prop) : Prop
    extends KeptCalmly property where
  stream : forall {connection} stream, property connection ->
    property { connection with sender := { connection.sender with stream := stream } }
  pop : forall {connection} length, property connection ->
    property (connection.popInbound length)
  reset : forall {connection}, property connection -> property connection.resetReceived

/-- Only a tick changes such a property. -/
theorem KeptBesideStreams.step {final : TCPConnection} (parts : KeptBesideStreams property)
    {op : ConnectionOp} (timeless : forall msSinceLastTick, op ≠ .owner (.tick msSinceLastTick))
    (holds : property connection) (taken : connection.step op = .ok final) : property final := by
  cases op with
  | segmentReceived segment =>
      rcases TCPConnection.segmentReceived_cases taken with ⟨_, rfl⟩ | ⟨noRst, _⟩
      · exact parts.reset (parts.clock 0 holds)
      · exact parts.segmentReceived holds noRst final taken
  | owner op =>
      cases op with
      | connect => exact parts.collect holds final taken
      | write data =>
          rcases bind_ok taken with ⟨⟨collected, count⟩, writes, rest⟩
          cases rest
          exact parts.collect (parts.stream _ holds) _ (TCPConnection.write_spec writes).2
      | endInputStream => exact parts.collect (parts.stream _ holds) final taken
      | tick msSinceLastTick => exact absurd rfl (timeless msSinceLastTick)
      | popInbound length =>
          cases taken
          exact parts.pop length holds

end

end Tcp
end Sponge
