import Sponge.Network.AckSafety

namespace Sponge
namespace Network

open Foundation Bytes Tcp

/-!
# Acknowledged bytes in every run of the network

The relation between the two connections survives every step in which the
segment handed over, if its receiver looks at it, is taken whole.
-/

section

variable {source sink : Endpoint} {segment : TCPSegment}

/-- The direction from one endpoint to another. -/
def Confirmed (source sink : Endpoint) : Prop :=
  Confirms source.connection source.written sink.connection

/-- The acknowledged endpoint receives a segment its peer has emitted. -/
theorem Confirmed.receiveSource {next : Endpoint} (confirmed : Confirmed source sink)
    (back : Confirmed sink source) (out : segment ∈ sink.connection.segmentsOut)
    (received : source.receive segment = .ok next)
    (low : next.connection.sender.window.nextSeqno < 2 ^ 31) : Confirmed next sink := by
  rcases bind_ok received with ⟨connection, done, rest⟩
  cases rest
  have kept := TCPConnection.segmentReceived_keeps
    ((TCPConnection.below_keptByParts (confirms_keptBySource source.written sink.connection) (2 ^ 31)).and
      (TCPConnection.isSet_keptByParts (fun isSet => isSet = true -> Exists fun other =>
        other ∈ sink.connection.segmentsOut ∧ other.header.syn = true))) ?_ ?_
    ⟨fun _ => confirmed, back.speaks.heard⟩ done
  · exact kept.1 low
  · intro other _ _ kept
    refine ⟨fun below => (kept.1 below).sourceTakes segment, ?_⟩
    intro isSet
    rw [TCPConnection.takeSegment_isSet] at isSet
    rcases Bool.or_eq_true_iff.mp isSet with before | syn
    · exact kept.2 before
    · exact ⟨segment, out, syn⟩
  · intro other acked acknowledges kept taken
    rcases acknowledges with ⟨isSet, flags⟩
    have ack : segment.header.ack = true := by
      rcases flags with ack | fin
      · exact ack
      · rcases back.orderly.flagged with ⟨_, noSyn⟩ | flagged
        · rcases kept.2 isSet with ⟨heard, member, syn⟩
          have silent := noSyn heard (List.mem_append_right _ (List.mem_append_right _ member))
          rw [silent] at syn
          cases syn
        · exact flagged segment out fin
    constructor
    · intro below
      have low := Nat.lt_of_le_of_lt (TCPConnection.takeAck_nextSeqno_le taken) below
      exact (kept.1 low).sourceAck low isSet out ack taken
    · rcases TCPConnection.takeAck_spec taken with ⟨sender, _, rfl⟩
      exact kept.2

/-- The acknowledging endpoint receives a segment its peer has emitted. -/
theorem Confirmed.receiveSink {next : Endpoint} (confirmed : Confirmed source sink)
    (low : source.connection.sender.window.nextSeqno < 2 ^ 31)
    (out : segment ∈ source.connection.segmentsOut)
    (whole : sink.connection.takes segment = true ->
      sink.connection.receiver.TakesWhole segment source.written.length)
    (received : sink.receive segment = .ok next) : Confirmed source next := by
  rcases bind_ok received with ⟨connection, done, rest⟩
  cases rest
  refine TCPConnection.segmentReceived_keeps
    (confirms_keptBySink source.connection source.written) ?_ ?_ confirmed done
  · intro other takes same confirms
    apply confirms.deliver low out
    rw [same.receiver_eq]
    exact whole takes
  · intro other acked _ confirms taken
    exact confirms.sinkAck taken

/-- The owner of the acknowledged endpoint acts. -/
theorem Confirmed.performSource {next : Endpoint} {op : OwnerOp}
    (confirmed : Confirmed source sink) (performed : source.perform op = .ok next) :
    Confirmed next sink := by
  have parts := confirms_keptBySource source.written sink.connection
  cases op with
  | write data =>
      rcases bind_ok performed with ⟨⟨connection, count⟩, writes, rest⟩
      cases rest
      rcases TCPConnection.write_spec writes with ⟨rfl, collected⟩
      have grown := confirmed.sourceWrote data
      rw [← ByteStream.take_write_count] at grown
      exact (confirms_keptBySource _ sink.connection).collect _ _ grown collected
  | popInbound length =>
      cases performed
      exact ⟨⟨confirmed.speaks.fidelity, confirmed.speaks.receives, confirmed.speaks.heard⟩,
        ⟨confirmed.orderly.paced, confirmed.orderly.unheard, confirmed.orderly.flagged⟩,
        confirmed.delivers, confirmed.vouched, confirmed.acked⟩
  | connect =>
      rcases bind_ok performed with ⟨connection, collected, rest⟩
      cases rest
      exact parts.collect _ _ confirmed collected
  | endInputStream =>
      rcases bind_ok performed with ⟨connection, ended, rest⟩
      cases rest
      exact parts.collect _ _ confirmed.sourceEnded ended
  | tick msSinceLastTick =>
      rcases bind_ok performed with ⟨connection, ticked, rest⟩
      cases rest
      have kept := TCPConnection.tick_keeps parts confirmed ticked
      exact kept

/-- The owner of the acknowledging endpoint acts. -/
theorem Confirmed.performSink {next : Endpoint} {op : OwnerOp}
    (confirmed : Confirmed source sink) (performed : sink.perform op = .ok next) :
    Confirmed source next := by
  refine TCPConnection.perform_keeps (confirms_keptBySink source.connection source.written)
    ?_ ?_ ?_ confirmed (Endpoint.perform_connection performed)
  · intro data
    exact Confirms.emit confirmed rfl (fun _ member => Or.inl member)
  · exact Confirms.emit confirmed rfl (fun _ member => Or.inl member)
  · intro length
    exact ⟨confirmed.speaks.listen (confirmed.speaks.receives.popOutput length) rfl,
      confirmed.orderly, confirmed.delivers.popOutput length, confirmed.vouched, confirmed.acked⟩

/-- What the relation says about the two endpoints. -/
theorem Confirmed.acked_le (confirmed : Confirmed source sink) {k : Nat}
    (sent : k ≤ source.connection.sender.stream.bytesRead)
    (acked : 1 + k ≤ source.connection.sender.window.firstSeqno) :
    k ≤ sink.connection.inboundStream.bytesWritten := by
  have wf := confirmed.speaks.receives.wf
  have follows := confirmed.speaks.fidelity.follows
  have read := source.connection.sender.stream.bytesRead_le
  cases opened : sink.connection.receiver.streamOut.endFlag with
  | true =>
      have whole : sink.connection.inboundStream.bytesWritten = source.written.length :=
        (confirmed.delivers.complete opened).2
      have := follows.written_le
      omega
  | false =>
      have written : sink.connection.inboundStream.bytesWritten =
        sink.connection.receiver.reassembler.firstUnassembled := wf.written_eq opened
      rcases confirmed.acked with reached | ended
      · omega
      · rw [opened] at ended
        cases ended

/-- After FIN_ACKED the peer has everything, and knows that it ends there. -/
theorem Confirmed.complete (confirmed : Confirmed source sink)
    (finAcked : source.connection.sender.state = .finAcked) :
    sink.connection.inboundStream.inputEnded = true ∧
      sink.connection.inboundStream.bytesWritten = source.written.length := by
  have first := confirmed.orderly.paced.acked_of_finAcked finAcked
  have whole := confirmed.speaks.fidelity.whole
  have cursor := confirmed.speaks.receives.carries.firstUnassembled_le
    confirmed.speaks.receives.wf
  rcases confirmed.acked with reached | ended
  · omega
  · exact ⟨ended, (confirmed.delivers.complete ended).2⟩

end

namespace NetworkState

/-- A segment handed over to a receiver is taken whole, counted against what
the peer's writes have accepted. -/
def TakenWhole (network : NetworkState) : NetworkOp -> Prop
  | .owner _ _ => True
  | .deliver side i => forall segment, segment ∈ network.inFlight side i ->
      (network.endpoint side).connection.takes segment = true ->
        (network.endpoint side).connection.receiver.TakesWhole segment
          (network.endpoint side.other).written.length

instance (network : NetworkState) (op : NetworkOp) : Decidable (network.TakenWhole op) :=
  match op with
  | .owner _ _ => .isTrue trivial
  | .deliver side i =>
      inferInstanceAs (Decidable (forall segment, segment ∈ network.inFlight side i -> _))

/-- Both directions are confirmed. -/
def BothConfirmed (network : NetworkState) : Prop :=
  forall side : Side, Confirmed (network.endpoint side) (network.endpoint side.other)

theorem new_bothConfirmed (cfgA cfgB : TCPConfig) (randomA randomB : WrappingInt32) :
    (new cfgA cfgB randomA randomB).BothConfirmed := by
  intro side
  cases side with
  | a => exact new_confirms cfgA cfgB randomA randomB
  | b => exact new_confirms cfgB cfgA randomB randomA

theorem BothConfirmed.step {network next : NetworkState} {op : NetworkOp}
    (confirmed : network.BothConfirmed) (whole : network.TakenWhole op)
    (taken : network.step op = .ok next) (below : next.Below) : next.BothConfirmed := by
  have before := step_below taken below
  rcases step_cases taken with rfl | ⟨side, changed, rfl, acted⟩
  · exact confirmed
  · have back := confirmed side.other
    rw [other_other] at back
    have low := below side
    rw [endpoint_put] at low
    unfold BothConfirmed
    refine forall_side side ?_ ?_
    · rw [endpoint_put, endpoint_put_other]
      rcases acted with ⟨ownerOp, _, performed⟩ | ⟨i, segment, _, found, received⟩
      · exact (confirmed side).performSource performed
      · exact (confirmed side).receiveSource back (inFlight_mem found) received low
    · rw [endpoint_put_other, other_other, endpoint_put]
      rcases acted with ⟨ownerOp, _, performed⟩ | ⟨i, segment, rfl, found, received⟩
      · exact back.performSink performed
      · exact back.receiveSink (before side.other) (inFlight_mem found) (whole segment found)
          received

end NetworkState

/-- Acknowledged means delivered.  In every run below `2^31` whose segments
are taken whole, the bytes a sender counts as acknowledged are assembled at
the peer, and in FIN_ACKED the peer has every byte that was written and has
seen its inbound stream end. -/
theorem acknowledged_is_delivered (cfgA cfgB : TCPConfig) (randomA randomB : WrappingInt32)
    (ops : List NetworkOp) (final : NetworkState)
    (whole : RunMeets NetworkState.step NetworkState.TakenWhole
      (NetworkState.new cfgA cfgB randomA randomB) ops)
    (done : run NetworkState.step (NetworkState.new cfgA cfgB randomA randomB) ops = .ok final)
    (below : final.Below) (side : Side) :
    (forall k, k ≤ (final.endpoint side).connection.sender.stream.bytesRead ->
        1 + k ≤ (final.endpoint side).connection.sender.window.firstSeqno ->
        k ≤ (final.endpoint side.other).connection.inboundStream.bytesWritten) ∧
      ((final.endpoint side).connection.sender.state = .finAcked ->
        (final.endpoint side.other).connection.inboundStream.inputEnded = true ∧
          (final.endpoint side.other).assembled = (final.endpoint side).written) := by
  have confirmed : final.BothConfirmed := by
    apply run_invariant_within NetworkState.Below NetworkState.BothConfirmed _ _
      (NetworkState.new_bothConfirmed cfgA cfgB randomA randomB) whole done below
    · intro network op next taken within
      exact NetworkState.step_below taken within
    · intro network op next invariant condition taken within
      exact invariant.step condition taken within
  constructor
  · intro k sent acked
    exact (confirmed side).acked_le sent acked
  · intro finAcked
    rcases (confirmed side).complete finAcked with ⟨ended, all⟩
    have link := NetworkState.linked_of_run done below side
    refine ⟨ended, ?_⟩
    rw [link.assembled_take, all, List.take_length]

/-- Two segments out of order, one of them twice, and a close, at a receiver
whose window gets exactly full. -/
theorem acknowledged_is_delivered_close :
    let cfgA : TCPConfig := { recvCapacity := ⟨8, by decide⟩, sendCapacity := ⟨8, by decide⟩ }
    let cfgB : TCPConfig := { recvCapacity := ⟨3, by decide⟩, sendCapacity := ⟨8, by decide⟩ }
    let start := NetworkState.new cfgA cfgB ⟨4294967294⟩ ⟨7⟩
    let ops : List NetworkOp :=
      [.owner .a .connect, .deliver .b 0, .deliver .a 0, .deliver .b 1,
        .owner .a (.write [1, 2]), .owner .a (.write [3]), .deliver .b 3, .deliver .b 2,
        .deliver .b 2, .deliver .a 1, .deliver .a 2, .deliver .a 3, .owner .b (.popInbound 3),
        .owner .a .endInputStream, .deliver .b 4, .deliver .a 4]
    Exists fun final => run NetworkState.step start ops = .ok final ∧
      final.a.connection.sender.state = .finAcked ∧
      final.b.connection.inboundStream.inputEnded = true ∧ final.b.assembled = final.a.written := by
  intro cfgA cfgB start ops
  have checked : endsIn NetworkState.step (fun final =>
      decide (final.a.connection.sender.state = .finAcked ∧
        final.a.connection.sender.nextSeqnoAbsolute < 2 ^ 31 ∧
        final.b.connection.sender.nextSeqnoAbsolute < 2 ^ 31)) start ops = true := by
    decide +kernel
  rcases run_of_endsIn checked with ⟨final, done, facts⟩
  rcases of_decide_eq_true facts with ⟨finAcked, lowA, lowB⟩
  have below : final.Below := NetworkState.forall_side .a lowA lowB
  have delivered := acknowledged_is_delivered _ _ _ _ ops final (by decide +kernel) done below .a
  exact ⟨final, done, finAcked, delivered.2 finAcked⟩

/-- The window is full and the sender probes it with one byte.  The receiver
discards the byte and acknowledges it. -/
theorem acknowledged_but_discarded :
    let cfgA : TCPConfig := { recvCapacity := ⟨8, by decide⟩, sendCapacity := ⟨8, by decide⟩ }
    let cfgB : TCPConfig := { recvCapacity := ⟨1, by decide⟩, sendCapacity := ⟨8, by decide⟩ }
    let start := NetworkState.new cfgA cfgB ⟨10⟩ ⟨7⟩
    let ops : List NetworkOp :=
      [.owner .a .connect, .deliver .b 0, .deliver .a 0, .deliver .b 1,
        .owner .a (.write [1]), .deliver .b 2, .deliver .a 1, .owner .a (.write [2]),
        .deliver .b 3, .deliver .a 2]
    Exists fun final => run NetworkState.step start ops = .ok final ∧ final.Below ∧
      final.a.connection.sender.stream.bytesRead = 2 ∧
      final.a.connection.sender.window.firstSeqno = 3 ∧
      final.b.connection.inboundStream.bytesWritten = 1 ∧
      ¬ forall k, k ≤ final.a.connection.sender.stream.bytesRead ->
        1 + k ≤ final.a.connection.sender.window.firstSeqno ->
        k ≤ final.b.connection.inboundStream.bytesWritten := by
  intro cfgA cfgB start ops
  have checked : endsIn NetworkState.step (fun final =>
      decide (final.a.connection.sender.stream.bytesRead = 2 ∧
        final.a.connection.sender.window.firstSeqno = 3 ∧
        final.b.connection.inboundStream.bytesWritten = 1 ∧
        final.a.connection.sender.nextSeqnoAbsolute < 2 ^ 31 ∧
        final.b.connection.sender.nextSeqnoAbsolute < 2 ^ 31)) start ops = true := by
    decide +kernel
  rcases run_of_endsIn checked with ⟨final, done, facts⟩
  rcases of_decide_eq_true facts with ⟨read, first, written, lowA, lowB⟩
  have below : final.Below := NetworkState.forall_side .a lowA lowB
  refine ⟨final, done, below, read, first, written, ?_⟩
  intro delivered
  have := delivered 2 (Nat.le_of_eq read.symm) (Nat.le_of_eq first.symm)
  omega

end Network
end Sponge
