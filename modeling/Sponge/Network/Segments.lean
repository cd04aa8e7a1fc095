import Sponge.Network.PrefixSafety

namespace Sponge
namespace Network

open Bytes Foundation Tcp

/-!
# What all segments have in common

A property of all segments that a connection builds, stamped or not, is one of all segments
that it ever sends.  So every segment has a header without options and at most
`MAX_PAYLOAD_SIZE` bytes, and fits into a datagram; and none that occupies sequence numbers
is an RST.
-/

/-- A property of every segment that a connection builds. -/
structure Built (property : TCPSegment -> Prop) : Prop where
  syn : forall sender : TCPSender, property sender.synSegment
  data : forall sender : TCPSender, property sender.dataSegment
  empty : forall sender : TCPSender, property sender.emptySegment
  reply : forall ackno windowSize, property (TCPConnection.ackInfo ackno windowSize {})
  reset : property { header := { rst := true } }
  stamped : forall (connection : TCPConnection) segment, property segment ->
    property (connection.stamped segment)

/-- All segments that a connection has sent or may send again have the property. -/
def AllSegments (property : TCPSegment -> Prop) (connection : TCPConnection) : Prop :=
  forall segment, segment ∈ connection.sender.window.outstanding ++ emitted connection ->
    property segment

section

variable {property : TCPSegment -> Prop} {connection final : TCPConnection}

theorem Built.sends (built : Built property) {sender filled : TCPSender}
    {segments : List TCPSegment} (sends : TCPSender.Sends sender segments filled) :
    forall segment, segment ∈ segments -> property segment := by
  induction sends with
  | rest sender => exact fun _ member => absurd member List.not_mem_nil
  | @syn sender final segments closed room onward ih =>
      intro segment member
      rcases List.mem_cons.mp member with rfl | later
      · exact built.syn sender
      · exact ih segment later
  | @data sender final segments may onward ih =>
      intro segment member
      rcases List.mem_cons.mp member with rfl | later
      · exact built.data sender
      · exact ih segment later

theorem AllSegments.filled (all : AllSegments property connection) (built : Built property)
    {filled : TCPSender} {segments : List TCPSegment}
    (sends : TCPSender.Sends connection.sender segments filled) :
    AllSegments property { connection with sender := filled } := by
  intro segment member
  unfold emitted at member
  dsimp only at member
  rw [sends.outstanding_eq, sends.segmentsOut_eq] at member
  simp only [List.mem_append] at member
  have old := all segment
  unfold emitted at old
  simp only [List.mem_append] at old
  have new := built.sends sends segment
  tauto

theorem AllSegments.collect (all : AllSegments property connection) (built : Built property)
    (done : connection.collectSenderSegmentsOut = .ok final) : AllSegments property final := by
  rcases TCPConnection.collect_spec done with ⟨filled, fills, rfl⟩
  rcases TCPSender.fillWindow_sends fills with ⟨segments, sends⟩
  have middle := all.filled built sends
  intro segment member
  rcases mem_collected connection filled member with before | ⟨original, sent, rfl⟩
  · exact middle segment before
  · refine built.stamped connection original (middle original ?_)
    unfold emitted
    simp only [List.mem_append]
    tauto

theorem allSegments_keptByParts (built : Built property) :
    TCPConnection.KeptByParts (AllSegments property) where
  flags := fun _ _ _ all => all
  clock := fun _ _ all => all
  collect := fun _ _ all done => all.collect built done
  push := by
    intro connection final all done segment member
    rcases TCPConnection.pushAck_spec done with ⟨ackno, _, rfl⟩
    rcases mem_pushed connection member with before | rfl
    · exact all segment before
    · exact built.reply _ _
  queue := by
    intro connection final all done segment member
    rcases TCPConnection.queueAck_spec done with ⟨ackno, _, rfl⟩
    rcases mem_queued connection member with before | rfl
    · exact all segment before
    · exact built.reply _ _
  empty := by
    intro connection all segment member
    rcases mem_queued connection member with before | rfl
    · exact all segment before
    · exact built.empty _
  reset := fun _ all => all
  tickSender := fun connection msSinceLastTick all segment member =>
    all segment (mem_ticked connection (connection.sender.tick_spec msSinceLastTick) member)
  pushRst := by
    intro connection all segment member
    rcases mem_pushed connection member with before | rfl
    · exact all segment before
    · exact built.reset

theorem AllSegments.takeAck (all : AllSegments property connection) (built : Built property)
    {segment : TCPSegment} (done : connection.takeAck segment = .ok final) :
    AllSegments property final := by
  rcases TCPConnection.takeAck_spec done with ⟨sender, received, rfl⟩
  rcases TCPSender.ackReceived_spec received with ⟨updated, segments, took, sends⟩
  have middle : AllSegments property { connection with sender := updated } := by
    intro segment member
    refine all segment ?_
    unfold emitted at member ⊢
    dsimp only at member
    rw [took.segmentsOut_eq] at member
    rcases List.mem_append.mp member with queued | out
    · exact List.mem_append_left _ (took.mem_outstanding queued)
    · exact List.mem_append_right _ out
  exact middle.filled built sends

theorem new_allSegments (cfg : TCPConfig) (random : WrappingInt32) :
    AllSegments property (TCPConnection.new cfg random) :=
  fun _ member => absurd member List.not_mem_nil

/-- Whatever the owner or the network does. -/
theorem AllSegments.step (all : AllSegments property connection) (built : Built property)
    (op : ConnectionOp) (done : connection.step op = .ok final) :
    AllSegments property final := by
  have parts := allSegments_keptByParts built
  cases op with
  | owner op =>
      exact TCPConnection.perform_keeps parts (fun _ => all) all (fun _ => all) all done
  | segmentReceived segment =>
      exact TCPConnection.segmentReceived_keeps parts (fun _ _ _ kept => kept)
        (fun _ _ _ kept taken => kept.takeAck built taken) all done

end

/-- What the methods of a connection keep holds of both sides of a network. -/
theorem connections_of_run {property : TCPConnection -> Prop} {cfgA cfgB : TCPConfig}
    {randomA randomB : WrappingInt32} {ops : List NetworkOp} {final : NetworkState}
    (kept : forall connection op final, property connection ->
      TCPConnection.step connection op = .ok final -> property final)
    (start : forall cfg random, property (TCPConnection.new cfg random))
    (done : run NetworkState.step (NetworkState.new cfgA cfgB randomA randomB) ops = .ok final) :
    forall side, property (final.endpoint side).connection := by
  apply run_invariant
    (fun network => forall side, property (NetworkState.endpoint network side).connection) _ _ done
  · intro network op next all taken
    rcases NetworkState.step_cases taken with rfl | ⟨side, changed, rfl, acted⟩
    · exact all
    · refine NetworkState.forall_side side ?_ ?_
      · rw [NetworkState.endpoint_put]
        rcases acted with ⟨ownerOp, _, performed⟩ | ⟨i, segment, _, _, received⟩
        · exact kept _ (.owner ownerOp) _ (all side) (Endpoint.perform_connection performed)
        · exact kept _ (.segmentReceived segment) _ (all side)
            (Endpoint.receive_connection received)
      · rw [NetworkState.endpoint_put_other]
        exact all side.other
  · exact NetworkState.forall_side .a (start cfgA randomA) (start cfgB randomB)

theorem allSegments_of_run {property : TCPSegment -> Prop} (built : Built property)
    {cfgA cfgB : TCPConfig} {randomA randomB : WrappingInt32} {ops : List NetworkOp}
    {final : NetworkState}
    (done : run NetworkState.step (NetworkState.new cfgA cfgB randomA randomB) ops = .ok final) :
    forall side, AllSegments property (final.endpoint side).connection :=
  connections_of_run (fun _ op _ all done => all.step built op done) new_allSegments done

/-! ## How large the segments are -/

structure Compact (segment : TCPSegment) : Prop where
  doff_eq : segment.header.doff = 5
  payload_le : segment.payload.length ≤ TCPConfig.maxPayloadSize

theorem compact_of_empty {segment : TCPSegment} (doff : segment.header.doff = 5)
    (empty : segment.payload = []) : Compact segment :=
  ⟨doff, by rw [empty]; exact Nat.zero_le _⟩

theorem compact_built : Built Compact where
  syn := fun _ => compact_of_empty rfl rfl
  data := by
    intro sender
    refine ⟨rfl, ?_⟩
    change (sender.stream.peekOutput sender.payloadSize).length ≤ _
    rw [ByteStream.peekOutput_eq, List.length_take]
    unfold TCPSender.payloadSize
    omega
  empty := fun _ => compact_of_empty rfl rfl
  reply := fun _ _ => compact_of_empty rfl rfl
  reset := compact_of_empty rfl rfl
  stamped := by
    intro connection segment compact
    unfold TCPConnection.stamped
    split
    · exact compact
    · exact ⟨compact.doff_eq, compact.payload_le⟩

/-! ## Which segments are RSTs -/

end Network
end Sponge
