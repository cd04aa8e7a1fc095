import Sponge.Network.PrefixSafety
import Sponge.Tcp.Handling
import Sponge.Tcp.Probing

namespace Sponge
namespace Network

open Bytes Foundation Tcp

/-!
# Where a reset comes from

A connection resets itself only when it gives up: on a tick on which it would have to
retransmit once too often.  Between two connections nothing else ever leads to a reset,
whatever their owners do and however the network treats the segments.
-/

/-! ## Peace -/

section

variable {connection final : TCPConnection} {segment : TCPSegment}

/-- Neither stream has failed, and no segment is an RST. -/
structure Peaceful (connection : TCPConnection) : Prop where
  wf : connection.receiver.reassembler.Wf
  outbound : connection.sender.stream.error = false
  inbound : connection.inboundStream.error = false
  noRst : forall segment, segment ∈ connection.sender.window.outstanding ++ emitted connection ->
    segment.header.rst = false

theorem sends_noRst {sender final : TCPSender} {segments : List TCPSegment}
    (sends : TCPSender.Sends sender segments final) :
    forall segment, segment ∈ segments -> segment.header.rst = false := by
  induction sends with
  | rest sender => exact fun _ member => absurd member List.not_mem_nil
  | syn closed room onward ih =>
      intro segment member
      rcases List.mem_cons.mp member with rfl | later
      · rfl
      · exact ih segment later
  | data may onward ih =>
      intro segment member
      rcases List.mem_cons.mp member with rfl | later
      · rfl
      · exact ih segment later

theorem stamped_rst (connection : TCPConnection) (segment : TCPSegment) :
    (connection.stamped segment).header.rst = segment.header.rst := by
  unfold TCPConnection.stamped
  split
  · rfl
  · rfl

/-- New segments without RST. -/
theorem Peaceful.sends (peaceful : Peaceful connection) {filled : TCPSender}
    {segments : List TCPSegment} (sends : TCPSender.Sends connection.sender segments filled) :
    Peaceful { connection with sender := filled } where
  wf := peaceful.wf
  outbound := sends.frame.error_eq.trans peaceful.outbound
  inbound := peaceful.inbound
  noRst := by
    intro segment member
    unfold emitted at member
    dsimp only at member
    rw [sends.outstanding_eq, sends.segmentsOut_eq] at member
    have old := peaceful.noRst segment
    have new := sends_noRst sends segment
    unfold emitted at old
    simp only [List.mem_append] at old member
    tauto

theorem peaceful_keptCalmly : KeptCalmly Peaceful where
  flags := fun _ _ peaceful => ⟨peaceful.wf, peaceful.outbound, peaceful.inbound, peaceful.noRst⟩
  clock := fun _ peaceful => ⟨peaceful.wf, peaceful.outbound, peaceful.inbound, peaceful.noRst⟩
  collect := by
    intro connection peaceful final done
    rcases TCPConnection.collect_spec done with ⟨filled, fills, rfl⟩
    rcases TCPSender.fillWindow_sends fills with ⟨segments, sends⟩
    have middle := peaceful.sends sends
    refine ⟨middle.wf, middle.outbound, middle.inbound, fun segment member => ?_⟩
    rcases mem_collected connection filled member with before | ⟨original, sent, rfl⟩
    · exact middle.noRst segment before
    · rw [stamped_rst]
      refine middle.noRst original (List.mem_append_right _ ?_)
      exact List.mem_append_left _ sent
  push := by
    intro connection peaceful final done
    rcases TCPConnection.pushAck_spec done with ⟨ackno, _, rfl⟩
    refine ⟨peaceful.wf, peaceful.outbound, peaceful.inbound, fun segment member => ?_⟩
    rcases mem_pushed connection member with before | rfl
    · exact peaceful.noRst segment before
    · rfl
  queue := by
    intro connection peaceful final done
    rcases TCPConnection.queueAck_spec done with ⟨ackno, _, rfl⟩
    refine ⟨peaceful.wf, peaceful.outbound, peaceful.inbound, fun segment member => ?_⟩
    rcases mem_queued connection member with before | rfl
    · exact peaceful.noRst segment before
    · rfl
  empty := by
    intro connection peaceful
    refine ⟨peaceful.wf, peaceful.outbound, peaceful.inbound, fun segment member => ?_⟩
    rcases mem_queued connection member with before | rfl
    · exact peaceful.noRst segment before
    · rfl
  take := fun segment peaceful =>
    ⟨TCPReceiver.segmentReceived_wf peaceful.wf segment, peaceful.outbound,
      (TCPReceiver.segmentReceived_error peaceful.wf segment).trans peaceful.inbound, peaceful.noRst⟩
  ack := by
    intro connection segment peaceful final done
    rcases TCPConnection.takeAck_spec done with ⟨sender, received, rfl⟩
    rcases TCPSender.ackReceived_spec received with ⟨updated, segments, took, sends⟩
    have middle : Peaceful { connection with sender := updated } := by
      refine ⟨peaceful.wf, (congrArg ByteStream.error took.stream_eq).trans peaceful.outbound,
        peaceful.inbound, fun segment member => peaceful.noRst segment ?_⟩
      unfold emitted at member ⊢
      dsimp only at member
      rw [took.segmentsOut_eq] at member
      rcases List.mem_append.mp member with queued | out
      · exact List.mem_append_left _ (took.mem_outstanding queued)
      · exact List.mem_append_right _ out
    exact middle.sends sends

theorem new_peaceful (cfg : TCPConfig) (random : WrappingInt32) :
    Peaceful (TCPConnection.new cfg random) :=
  ⟨StreamReassembler.new_wf _, rfl, rfl, fun _ member => absurd member List.not_mem_nil⟩

/-- A tick that counts one retransmission too many resets the connection, and no other one. -/
theorem Peaceful.tick (peaceful : Peaceful connection) {msSinceLastTick : Nat}
    (done : connection.tick msSinceLastTick = .ok final) :
    connection.FewRetransmissions (.owner (.tick msSinceLastTick)) ∧ Peaceful final ∨
      ¬ connection.FewRetransmissions (.owner (.tick msSinceLastTick)) ∧
        final.sender.stream.error = true := by
  have counted : connection.FewRetransmissions (.owner (.tick msSinceLastTick)) <->
      (connection.sender.tick msSinceLastTick).consecutiveRetransmissions ≤
        TCPConfig.maxRetxAttempts := by
    rw [TCPSender.tick_consecutiveRetransmissions]
    rfl
  rw [counted]
  rcases TCPConnection.tick_cases done with ⟨ticked, same, cases⟩
  have calm : Peaceful { connection with sender := connection.sender.tick msSinceLastTick } := by
    have tickedSender := connection.sender.tick_spec msSinceLastTick
    refine ⟨peaceful.wf, (congrArg ByteStream.error tickedSender.stream_eq).trans peaceful.outbound,
      peaceful.inbound, fun segment member => ?_⟩
    exact peaceful.noRst segment (mem_ticked connection tickedSender member)
  have kept : Peaceful ticked := by
    rw [same]
    unfold TCPConnection.stopLingering
    split
    · exact peaceful_keptCalmly.flags false false (peaceful_keptCalmly.clock _ calm)
    · exact peaceful_keptCalmly.clock _ calm
  have sender : ticked.sender = connection.sender.tick msSinceLastTick := by rw [same]
  rw [← sender]
  rcases cases with ⟨many, rfl⟩ | ⟨few, ⟨_, collected⟩ | ⟨_, rfl⟩⟩
  · exact Or.inr ⟨Nat.not_le_of_lt many, rfl⟩
  · exact Or.inl ⟨few, peaceful_keptCalmly.collect kept final collected⟩
  · exact Or.inl ⟨few, kept⟩

/-- What an owner does resets the connection only if it is such a tick. -/
theorem Peaceful.perform (peaceful : Peaceful connection) {op : OwnerOp}
    (done : connection.perform op = .ok final) :
    connection.FewRetransmissions (.owner op) ∧ Peaceful final ∨
      ¬ connection.FewRetransmissions (.owner op) ∧ final.sender.stream.error = true := by
  cases op with
  | tick msSinceLastTick => exact peaceful.tick done
  | connect => exact Or.inl ⟨trivial, peaceful_keptCalmly.collect peaceful final done⟩
  | write data =>
      rcases bind_ok done with ⟨⟨collected, count⟩, writes, rest⟩
      cases rest
      have wrote : Peaceful (connection.wrote data) :=
        ⟨peaceful.wf, (ByteStream.write_error _ _).trans peaceful.outbound, peaceful.inbound,
          peaceful.noRst⟩
      have collects := (TCPConnection.write_spec writes).2
      exact Or.inl ⟨trivial, peaceful_keptCalmly.collect wrote _ collects⟩
  | endInputStream =>
      have ended : Peaceful connection.ended :=
        ⟨peaceful.wf, peaceful.outbound, peaceful.inbound, peaceful.noRst⟩
      exact Or.inl ⟨trivial, peaceful_keptCalmly.collect ended final done⟩
  | popInbound length =>
      cases done
      refine Or.inl ⟨trivial, ?_⟩
      exact ⟨peaceful.wf.popOutput length, peaceful.outbound, peaceful.inbound, peaceful.noRst⟩

end

/-! ## The network -/

namespace NetworkState

def Peaceful (network : NetworkState) : Prop :=
  forall side, Network.Peaceful (network.endpoint side).connection

/-- No side gives up. -/
def Patient (network : NetworkState) : NetworkOp -> Prop
  | .owner side op => (network.endpoint side).connection.FewRetransmissions (.owner op)
  | .deliver _ _ => True

instance (network : NetworkState) (op : NetworkOp) : Decidable (network.Patient op) :=
  match op with
  | .owner side op =>
      inferInstanceAs (Decidable ((network.endpoint side).connection.FewRetransmissions (.owner op)))
  | .deliver _ _ => .isTrue trivial

variable {network next : NetworkState}

/-- No stream has failed, and no RST has been sent. -/
def Undisturbed (network : NetworkState) : Prop :=
  forall side,
    (network.endpoint side).connection.sender.stream.error = false ∧
      (network.endpoint side).connection.inboundStream.error = false ∧
      forall segment, segment ∈ (network.endpoint side).connection.segmentsOut ->
        segment.header.rst = false

theorem Peaceful.undisturbed (peaceful : network.Peaceful) : network.Undisturbed := by
  intro side
  refine ⟨(peaceful side).outbound, (peaceful side).inbound, fun segment member => ?_⟩
  refine (peaceful side).noRst segment (List.mem_append_right _ ?_)
  exact List.mem_append_right _ member

theorem Peaceful.put (peaceful : network.Peaceful) (side : Side) {changed : Endpoint}
    (here : Network.Peaceful changed.connection) : (network.put side changed).Peaceful := by
  refine forall_side side ?_ ?_
  · rw [endpoint_put]
    exact here
  · rw [endpoint_put_other]
    exact peaceful side.other

/-- A step keeps the peace, unless a side gives up and thereby fails its stream. -/
theorem Peaceful.step (peaceful : network.Peaceful) {op : NetworkOp}
    (taken : network.step op = .ok next) :
    network.Patient op ∧ next.Peaceful ∨ ¬ network.Patient op ∧ ¬ next.Undisturbed := by
  cases op with
  | owner side op =>
      rcases bind_ok taken with ⟨changed, performed, rest⟩
      cases rest
      have connection := Endpoint.perform_connection performed
      rcases (peaceful side).perform connection with ⟨few, calm⟩ | ⟨many, failed⟩
      · exact Or.inl ⟨few, peaceful.put side calm⟩
      · refine Or.inr ⟨many, fun undisturbed => ?_⟩
        have still := (undisturbed side).1
        rw [endpoint_put, failed] at still
        cases still
  | deliver side i =>
      refine Or.inl ⟨trivial, ?_⟩
      unfold NetworkState.step at taken
      dsimp only at taken
      cases found : network.inFlight side i with
      | none =>
          rw [found] at taken
          cases taken
          exact peaceful
      | some segment =>
          rw [found] at taken
          rcases bind_ok taken with ⟨changed, received, rest⟩
          cases rest
          have noRst : segment.header.rst = false :=
            (peaceful.undisturbed side.other).2.2 segment (inFlight_mem found)
          have connection := Endpoint.receive_connection received
          exact peaceful.put side
            (peaceful_keptCalmly.segmentReceived (peaceful side) noRst _ connection)

theorem Peaceful.step_iff (peaceful : network.Peaceful) {op : NetworkOp}
    (taken : network.step op = .ok next) : network.Patient op <-> next.Undisturbed := by
  rcases peaceful.step taken with ⟨patient, calm⟩ | ⟨impatient, disturbed⟩
  · exact iff_of_true patient calm.undisturbed
  · exact iff_of_false impatient disturbed

theorem new_peaceful (cfgA cfgB : TCPConfig) (randomA randomB : WrappingInt32) :
    (new cfgA cfgB randomA randomB).Peaceful :=
  forall_side .a (Network.new_peaceful cfgA randomA) (Network.new_peaceful cfgB randomB)

end NetworkState

/-- **A reset has one cause.**  In a run of two connections no stream ever fails and no RST is
ever sent, exactly if on no tick a side gives up after the last of its retransmissions. -/
theorem undisturbed_iff_patient (cfgA cfgB : TCPConfig) (randomA randomB : WrappingInt32)
    (ops : List NetworkOp) (final : NetworkState)
    (done : run NetworkState.step (NetworkState.new cfgA cfgB randomA randomB) ops = .ok final) :
    RunMeets NetworkState.step NetworkState.Patient
        (NetworkState.new cfgA cfgB randomA randomB) ops <->
      forall before reached, before <+: ops ->
        run NetworkState.step (NetworkState.new cfgA cfgB randomA randomB) before = .ok reached ->
          reached.Undisturbed := by
  have start := NetworkState.new_peaceful cfgA cfgB randomA randomB
  apply runMeets_iff_guarded (fun _ => True) NetworkState.Peaceful NetworkState.Undisturbed
    (fun _ _ _ _ _ => trivial) _ _ start start.undisturbed
    (runMeets_of_forall (fun _ _ => trivial) _ ops) done trivial
  · intro network op next peaceful _ taken undisturbed
    rcases peaceful.step taken with ⟨_, calm⟩ | ⟨_, disturbed⟩
    · exact calm
    · exact absurd undisturbed disturbed
  · intro network op next peaceful _ _ taken _
    exact peaceful.step_iff taken

/-- A SYN is lost eight times before the handshake, and then a segment arrives twice. -/
theorem lost_syns_undisturbed :
    let cfg : TCPConfig := { recvCapacity := ⟨8, by decide⟩, sendCapacity := ⟨8, by decide⟩ }
    let start := NetworkState.new cfg cfg ⟨4294967294⟩ ⟨7⟩
    let ops : List NetworkOp :=
      .owner .a .connect :: List.replicate 8 (.owner .a (.tick 1000000)) ++
        [.deliver .b 8, .deliver .a 0, .owner .a (.write [1, 2]), .deliver .b 10, .deliver .b 10]
    Exists fun final => run NetworkState.step start ops = .ok final ∧
      final.b.assembled = [1, 2] ∧
      forall before reached, before <+: ops ->
        run NetworkState.step start before = .ok reached -> reached.Undisturbed := by
  intro cfg start ops
  have checked : endsIn NetworkState.step (fun final => decide (final.b.assembled = [1, 2]))
      start ops = true := by
    decide +kernel
  have patient : RunMeets NetworkState.step NetworkState.Patient start ops := by decide +kernel
  rcases run_of_endsIn checked with ⟨final, done, facts⟩
  refine ⟨final, done, of_decide_eq_true facts, ?_⟩
  exact (undisturbed_iff_patient cfg cfg _ _ ops final done).mp patient

end Network
end Sponge
