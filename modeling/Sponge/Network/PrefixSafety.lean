import Sponge.Foundation.Runs
import Sponge.Network.Endpoints
import Sponge.Tcp.ConnectionQueue
import Sponge.Tcp.Receiving

namespace Sponge
namespace Network

open Foundation Bytes Tcp

/-!
# What is received is a prefix of what was written

The two directions between the endpoints are independent.  For each of them
the speaking connection is faithful to what its owner has written, and the
listening receiver holds only bytes that were sent, at their own indices.  A
step of either endpoint keeps both directions.
-/

/-! ## One direction -/

/-- Everything a connection has emitted, collected or not. -/
def emitted (connection : TCPConnection) : List TCPSegment :=
  connection.sender.segmentsOut ++ connection.segmentsOut

section

variable (connection : TCPConnection) {segment : TCPSegment}

theorem mem_queued {extra : TCPSegment}
    (member : segment ∈ (connection.sender.send extra).window.outstanding ++
      emitted { connection with sender := connection.sender.send extra }) :
    segment ∈ connection.sender.window.outstanding ++ emitted connection ∨ segment = extra := by
  unfold emitted TCPSender.send at member
  unfold emitted
  simp only [List.mem_append, List.mem_singleton] at member ⊢
  tauto

theorem mem_pushed {extra : TCPSegment}
    (member : segment ∈ connection.sender.window.outstanding ++
      emitted { connection with segmentsOut := connection.segmentsOut ++ [extra] }) :
    segment ∈ connection.sender.window.outstanding ++ emitted connection ∨ segment = extra := by
  unfold emitted at member ⊢
  simp only [List.mem_append, List.mem_singleton] at member ⊢
  tauto

/-- A tick emits only what is outstanding. -/
theorem mem_ticked {updated : TCPSender} (ticked : connection.sender.Ticked updated)
    (member : segment ∈ updated.window.outstanding ++
      emitted { connection with sender := updated }) :
    segment ∈ connection.sender.window.outstanding ++ emitted connection := by
  rcases ticked.segmentsOut_eq with ⟨again, queue, old⟩
  have before := old segment
  unfold emitted at member ⊢
  dsimp only at member
  rw [ticked.outstanding_eq, queue] at member
  simp only [List.mem_append] at member ⊢
  tauto

/-- Collecting emits what the sender has queued, stamped. -/
theorem mem_collected (filled : TCPSender)
    (member : segment ∈ filled.window.outstanding ++ emitted { connection with
      sender := { filled with segmentsOut := [] }
      segmentsOut := connection.segmentsOut ++ filled.segmentsOut.map connection.stamped }) :
    segment ∈ filled.window.outstanding ++ emitted { connection with sender := filled } ∨
      Exists fun original => original ∈ filled.segmentsOut ∧
        segment = connection.stamped original := by
  unfold emitted at member ⊢
  simp only [List.mem_append, List.mem_map, List.not_mem_nil, false_or] at member ⊢
  rcases member with waiting | out | ⟨original, sent, rfl⟩
  · exact Or.inl (Or.inl waiting)
  · exact Or.inl (Or.inr (Or.inr out))
  · exact Or.inr ⟨original, sent, rfl⟩

end

/-- A connection with its owner's bytes, and a receiver that listens to it. -/
structure Speaks (connection : TCPConnection) (written : List UInt8) (listener : TCPReceiver) :
    Prop where
  fidelity : connection.sender.Fidelity written (emitted connection)
  receives : listener.Receives connection.sender.window.isn written
    connection.sender.stream.endFlag connection.sender.stream.bytesRead
    connection.sender.window.nextSeqno
  heard : listener.isSet = true -> Exists fun segment =>
    segment ∈ connection.segmentsOut ∧ segment.header.syn = true

theorem new_speaks (cfg peer : TCPConfig) (random : WrappingInt32) :
    Speaks (TCPConnection.new cfg random) [] (TCPReceiver.new peer.recvCapacity) where
  fidelity := TCPSender.new_fidelity _ _ _
  receives := TCPReceiver.new_receives _ _ _ _ _ _
  heard := fun isSet => nomatch isSet

section

variable {connection final : TCPConnection} {written : List UInt8} {listener : TCPReceiver}

/-- A speaker that has emitted no SYN has not been heard. -/
theorem Speaks.unset_of_noSyn (speaks : Speaks connection written listener)
    (noSyn : forall segment, segment ∈ connection.segmentsOut -> segment.header.syn = false) :
    listener.isSet = false := by
  by_contra isSet
  rcases speaks.heard (Bool.eq_true_of_not_eq_false isSet) with ⟨segment, out, syn⟩
  rw [noSyn segment out] at syn
  cases syn

theorem Speaks.unset_of_silent (speaks : Speaks connection written listener)
    (silent : connection.sender.Silent (emitted connection)) : listener.isSet = false :=
  speaks.unset_of_noSyn fun segment out =>
    silent.noSyn segment (List.mem_append_right _ (List.mem_append_right _ out))

/-- Moving segments between queues, or adding ones without a number. -/
theorem Speaks.carryOver (speaks : Speaks connection written listener)
    (stream_eq : final.sender.stream = connection.sender.stream)
    (isn_eq : final.sender.window.isn = connection.sender.window.isn)
    (nextSeqno_eq : final.sender.window.nextSeqno = connection.sender.window.nextSeqno)
    (known : forall segment, segment ∈ final.sender.window.outstanding ++ emitted final ->
      (Exists fun other => other ∈ connection.sender.window.outstanding ++ emitted connection ∧
        segment.SameContent other) ∨ segment.lengthInSequenceSpace = 0)
    (keeps : forall segment, segment ∈ connection.segmentsOut -> segment ∈ final.segmentsOut) :
    Speaks final written listener where
  fidelity := speaks.fidelity.carryOver stream_eq isn_eq nextSeqno_eq known
  receives := by
    rw [stream_eq, isn_eq, nextSeqno_eq]
    exact speaks.receives
  heard := by
    intro isSet
    rcases speaks.heard isSet with ⟨segment, out, syn⟩
    exact ⟨segment, keeps segment out, syn⟩

/-- The sender has filled its window. -/
theorem Speaks.filled {filled : TCPSender} {segments : List TCPSegment}
    (speaks : Speaks connection written listener)
    (sends : TCPSender.Sends connection.sender segments filled) :
    Speaks { connection with sender := filled } written listener where
  fidelity := by
    refine TCPSender.Fidelity.carryOver (speaks.fidelity.sends sends) rfl rfl rfl ?_
    intro segment member
    left
    refine ⟨segment, ?_, TCPSegment.SameContent.refl segment⟩
    unfold emitted at member ⊢
    dsimp only at member
    rw [sends.segmentsOut_eq] at member
    simp only [List.mem_append] at member ⊢
    tauto
  receives := by
    have frame := sends.frame
    dsimp only
    rw [frame.isn_eq, frame.endFlag_eq]
    exact speaks.receives.later id frame.bytesRead_le frame.nextSeqno_le
  heard := speaks.heard

/-- Adding acknowledgment fields changes no contents. -/
theorem stamped_sameContent (connection : TCPConnection) (segment : TCPSegment) :
    (connection.stamped segment).SameContent segment := by
  unfold TCPConnection.stamped
  split
  · exact TCPSegment.SameContent.refl segment
  · exact ⟨rfl, rfl, rfl, rfl⟩

theorem collected_content (connection : TCPConnection) (filled : TCPSender)
    {segment : TCPSegment}
    (member : segment ∈ filled.window.outstanding ++ emitted { connection with
      sender := { filled with segmentsOut := [] }
      segmentsOut := connection.segmentsOut ++ filled.segmentsOut.map connection.stamped }) :
    Exists fun other => other ∈ filled.window.outstanding ++
      emitted { connection with sender := filled } ∧ segment.SameContent other := by
  rcases mem_collected connection filled member with old | ⟨original, sent, rfl⟩
  · exact ⟨segment, old, TCPSegment.SameContent.refl segment⟩
  · exact ⟨original, List.mem_append_right _ (List.mem_append_left _ sent),
      stamped_sameContent connection original⟩

theorem Speaks.collect (speaks : Speaks connection written listener)
    (done : connection.collectSenderSegmentsOut = .ok final) : Speaks final written listener := by
  rcases TCPConnection.collect_spec done with ⟨filled, fills, rfl⟩
  rcases TCPSender.fillWindow_sends fills with ⟨segments, sends⟩
  refine Speaks.carryOver (speaks.filled sends) rfl rfl rfl ?_ ?_
  · intro segment member
    left
    exact collected_content connection filled member
  · intro segment out
    exact List.mem_append_left _ out

/-- A segment without a number may be added to the sender's queue. -/
theorem Speaks.queueEmpty (speaks : Speaks connection written listener) (extra : TCPSegment)
    (empty : extra.lengthInSequenceSpace = 0) :
    Speaks { connection with sender := connection.sender.send extra } written listener := by
  refine Speaks.carryOver speaks rfl rfl rfl ?_ (fun _ member => member)
  intro segment member
  rcases mem_queued connection member with old | rfl
  · exact Or.inl ⟨segment, old, TCPSegment.SameContent.refl segment⟩
  · exact Or.inr empty

/-- Likewise to the connection's own. -/
theorem Speaks.pushEmpty (speaks : Speaks connection written listener) (extra : TCPSegment)
    (empty : extra.lengthInSequenceSpace = 0) :
    Speaks { connection with segmentsOut := connection.segmentsOut ++ [extra] } written
      listener := by
  refine Speaks.carryOver speaks rfl rfl rfl ?_ (fun _ member => List.mem_append_left _ member)
  intro segment member
  rcases mem_pushed connection member with old | rfl
  · exact Or.inl ⟨segment, old, TCPSegment.SameContent.refl segment⟩
  · exact Or.inr empty

theorem Speaks.setError (speaks : Speaks connection written listener) :
    Speaks connection.resetReceived written listener :=
  ⟨speaks.fidelity.setError, speaks.receives, speaks.heard⟩

theorem Speaks.tickSender (speaks : Speaks connection written listener) (msSinceLastTick : Nat) :
    Speaks { connection with sender := connection.sender.tick msSinceLastTick } written
      listener := by
  have ticked := connection.sender.tick_spec msSinceLastTick
  refine Speaks.carryOver speaks ticked.stream_eq ticked.isn_eq ticked.nextSeqno_eq ?_
    (fun _ member => member)
  intro segment member
  exact Or.inl ⟨segment, mem_ticked connection ticked member, TCPSegment.SameContent.refl segment⟩

/-- The speaker's side survives every common part of its methods. -/
theorem speaks_keptByParts (written : List UInt8) (listener : TCPReceiver) :
    TCPConnection.KeptByParts (fun connection => Speaks connection written listener) where
  flags := fun _ _ _ speaks => ⟨speaks.fidelity, speaks.receives, speaks.heard⟩
  clock := fun _ _ speaks => ⟨speaks.fidelity, speaks.receives, speaks.heard⟩
  collect := fun _ _ speaks done => speaks.collect done
  push := by
    intro connection final speaks done
    rcases TCPConnection.pushAck_spec done with ⟨ackno, _, rfl⟩
    exact speaks.pushEmpty _ rfl
  queue := by
    intro connection final speaks done
    rcases TCPConnection.queueAck_spec done with ⟨ackno, _, rfl⟩
    exact speaks.queueEmpty _ rfl
  empty := fun connection speaks =>
    speaks.queueEmpty connection.sender.emptySegment rfl
  reset := fun _ speaks => speaks.setError
  tickSender := fun _ msSinceLastTick speaks => speaks.tickSender msSinceLastTick
  pushRst := fun _ speaks => speaks.pushEmpty { header := { rst := true } } rfl

/-- An acknowledgment, whatever it says. -/
theorem Speaks.takeAck (speaks : Speaks connection written listener) {segment : TCPSegment}
    (done : connection.takeAck segment = .ok final) : Speaks final written listener := by
  rcases TCPConnection.takeAck_spec done with ⟨sender, received, rfl⟩
  rcases TCPSender.ackReceived_spec received with ⟨updated, segments, took, sends⟩
  have middle : Speaks { connection with sender := updated } written listener := by
    refine Speaks.carryOver speaks took.stream_eq took.isn_eq took.nextSeqno_eq ?_
      (fun _ member => member)
    intro segment member
    left
    refine ⟨segment, ?_, TCPSegment.SameContent.refl segment⟩
    unfold emitted at member ⊢
    dsimp only at member
    rw [took.segmentsOut_eq] at member
    rcases List.mem_append.mp member with queued | out
    · exact List.mem_append_left _ (took.mem_outstanding queued)
    · exact List.mem_append_right _ out
  exact middle.filled sends

/-! ## The speaker's owner -/

theorem Speaks.wrote (speaks : Speaks connection written listener) (data : List UInt8) :
    Speaks (connection.wrote data) (written ++ connection.sender.stream.accepted data)
      listener := by
  refine ⟨speaks.fidelity.write data, ?_, speaks.heard⟩
  unfold TCPConnection.wrote
  dsimp only
  rw [ByteStream.write_endFlag, ByteStream.write_bytesRead]
  refine speaks.receives.grow ?_ (Nat.le_refl _) (Nat.le_refl _)
  intro ended
  exact ⟨ended, ByteStream.accepted_of_ended ended data⟩

theorem Speaks.ended (speaks : Speaks connection written listener) :
    Speaks connection.ended written listener :=
  ⟨speaks.fidelity.endInput,
    speaks.receives.later (fun _ => rfl) (Nat.le_refl _) (Nat.le_refl _), speaks.heard⟩

/-! ## The listener -/

theorem Speaks.listen {other : TCPReceiver} (speaks : Speaks connection written listener)
    (receives : other.Receives connection.sender.window.isn written
      connection.sender.stream.endFlag connection.sender.stream.bytesRead
      connection.sender.window.nextSeqno)
    (same : other.isSet = listener.isSet) : Speaks connection written other :=
  ⟨speaks.fidelity, receives, fun isSet => speaks.heard (same ▸ isSet)⟩

/-- An emitted segment of a speaking sender can be handed to the listener. -/
theorem Speaks.fromSender (speaks : Speaks connection written listener)
    (speaking : connection.sender.Speaking written (emitted connection)) {segment : TCPSegment}
    (out : segment ∈ connection.segmentsOut) :
    TCPReceiver.FromSender connection.sender.window.isn written
      connection.sender.stream.endFlag connection.sender.stream.bytesRead
      connection.sender.window.nextSeqno segment := by
  by_cases empty : segment.lengthInSequenceSpace = 0
  · exact Or.inl empty
  · right
    have member := List.mem_append_right connection.sender.window.outstanding
      (List.mem_append_right connection.sender.segmentsOut out)
    rcases speaking.sound segment member empty with ⟨q, sound⟩
    exact ⟨q, sound, speaking.payload_sent speaks.fidelity.whole sound⟩

/-- Receiving reads nothing from the inbound stream. -/
theorem segmentReceived_bytesRead {receiver : TCPReceiver} (wf : receiver.reassembler.Wf)
    (segment : TCPSegment) :
    (receiver.segmentReceived segment).streamOut.bytesRead = receiver.streamOut.bytesRead := by
  unfold TCPReceiver.streamOut
  rw [TCPReceiver.segmentReceived_reassembler]
  split
  · exact (StreamReassembler.pushSubstring_output_frame wf _ _ _).1
  · rfl

/-- Handing over any segment the speaker has ever emitted. -/
theorem Speaks.deliver (speaks : Speaks connection written listener)
    (low : connection.sender.window.nextSeqno < 2 ^ 31) {segment : TCPSegment}
    (out : segment ∈ connection.segmentsOut) :
    Speaks connection written (listener.segmentReceived segment) := by
  rcases speaks.fidelity.voice with silent | speaking
  · have unset := speaks.unset_of_silent silent
    have noSyn := silent.noSyn segment (List.mem_append_right _ (List.mem_append_right _ out))
    rw [TCPReceiver.segmentReceived_of_unset unset noSyn]
    exact speaks
  · refine ⟨speaks.fidelity, speaks.receives.segmentReceived speaking.read_lt low
      (speaks.fromSender speaking out), ?_⟩
    intro isSet
    rw [TCPReceiver.isSet_segmentReceived] at isSet
    rcases Bool.or_eq_true_iff.mp isSet with before | syn
    · exact speaks.heard before
    · exact ⟨segment, out, syn⟩

/-- The listening connection: what it has taken so far is the beginning of
what was written. -/
structure Listens (speaker : TCPConnection) (written taken : List UInt8)
    (connection : TCPConnection) : Prop where
  speaks : Speaks speaker written connection.receiver
  taken_eq : taken = written.take connection.inboundStream.bytesRead

/-- The listener's side survives every common part of its methods. -/
theorem listens_keptByParts (speaker : TCPConnection) (written taken : List UInt8) :
    TCPConnection.KeptByParts (Listens speaker written taken) where
  flags := fun _ _ _ listens => ⟨listens.speaks, listens.taken_eq⟩
  clock := fun _ _ listens => ⟨listens.speaks, listens.taken_eq⟩
  collect := by
    intro connection final listens done
    rcases TCPConnection.collect_spec done with ⟨filled, _, rfl⟩
    exact ⟨listens.speaks, listens.taken_eq⟩
  push := by
    intro connection final listens done
    rcases TCPConnection.pushAck_spec done with ⟨ackno, _, rfl⟩
    exact ⟨listens.speaks, listens.taken_eq⟩
  queue := by
    intro connection final listens done
    rcases TCPConnection.queueAck_spec done with ⟨ackno, _, rfl⟩
    exact ⟨listens.speaks, listens.taken_eq⟩
  empty := fun _ listens => ⟨listens.speaks, listens.taken_eq⟩
  reset := fun _ listens =>
    ⟨listens.speaks.listen listens.speaks.receives.setError rfl, listens.taken_eq⟩
  tickSender := fun _ _ listens => ⟨listens.speaks, listens.taken_eq⟩
  pushRst := fun _ listens => ⟨listens.speaks, listens.taken_eq⟩

end

/-! ## Both directions -/

/-- The direction from one endpoint to another. -/
def Link (source sink : Endpoint) : Prop :=
  Listens source.connection source.written sink.taken sink.connection

theorem Link.assembled_eq {source sink : Endpoint} (link : Link source sink) :
    sink.taken ++ sink.connection.inboundStream.contents =
      source.written.take sink.connection.inboundStream.bytesWritten := by
  rw [link.taken_eq]
  exact link.speaks.receives.carries.output.written_eq.symm

/-- Bytes written later do not change what was taken before. -/
theorem Link.taken_grow {source sink : Endpoint} (link : Link source sink) (more : List UInt8) :
    sink.taken = (source.written ++ more).take sink.connection.inboundStream.bytesRead := by
  have follows := link.speaks.receives.carries.output
  have read : sink.connection.inboundStream.bytesRead ≤ source.written.length :=
    Nat.le_trans (ByteStream.bytesRead_le _) follows.written_le
  rw [List.take_append_of_le_length read]
  exact link.taken_eq

/-- Reading takes the next bytes of what was written. -/
theorem Listens.popInbound {speaker connection : TCPConnection} {written taken : List UInt8}
    (listens : Listens speaker written taken connection) (length : Nat) :
    Listens speaker written (taken ++ connection.inboundStream.peekOutput length)
      (connection.popInbound length) := by
  refine ⟨listens.speaks.listen (listens.speaks.receives.popOutput length) rfl, ?_⟩
  have follows := listens.speaks.receives.carries.output
  change _ = written.take (connection.inboundStream.bytesRead +
    min length connection.inboundStream.bufferSize)
  rw [take_split (Nat.le_add_right _ _), Nat.add_sub_cancel_left, listens.taken_eq,
    ByteStream.peekOutput_eq]
  congr 1
  change (connection.receiver.reassembler.output).contents.take length = _
  rw [follows.contents_eq, List.take_take]
  rfl

/-- The owner of the speaking endpoint acts. -/
theorem Link.performSource {source next sink : Endpoint} {op : OwnerOp} (link : Link source sink)
    (performed : source.perform op = .ok next) : Link next sink := by
  have parts := speaks_keptByParts source.written sink.connection.receiver
  cases op with
  | write data =>
      rcases bind_ok performed with ⟨⟨connection, count⟩, writes, rest⟩
      cases rest
      rcases TCPConnection.write_spec writes with ⟨rfl, collected⟩
      have grown := link.speaks.wrote data
      rw [← ByteStream.take_write_count] at grown
      exact ⟨grown.collect collected, link.taken_grow _⟩
  | popInbound length =>
      cases performed
      exact ⟨⟨link.speaks.fidelity, link.speaks.receives, link.speaks.heard⟩, link.taken_eq⟩
  | connect =>
      rcases bind_ok performed with ⟨connection, collected, rest⟩
      cases rest
      exact ⟨link.speaks.collect collected, link.taken_eq⟩
  | endInputStream =>
      rcases bind_ok performed with ⟨connection, ended, rest⟩
      cases rest
      exact ⟨link.speaks.ended.collect ended, link.taken_eq⟩
  | tick msSinceLastTick =>
      rcases bind_ok performed with ⟨connection, ticked, rest⟩
      cases rest
      exact ⟨TCPConnection.tick_keeps parts link.speaks ticked, link.taken_eq⟩

/-- The owner of the listening endpoint acts. -/
theorem Link.performSink {source sink next : Endpoint} {op : OwnerOp} (link : Link source sink)
    (performed : sink.perform op = .ok next) : Link source next := by
  have parts := listens_keptByParts source.connection source.written sink.taken
  cases op with
  | popInbound length =>
      cases performed
      exact Listens.popInbound link length
  | write data =>
      rcases bind_ok performed with ⟨⟨connection, count⟩, writes, rest⟩
      cases rest
      have same : Listens source.connection source.written sink.taken
          (sink.connection.wrote data) := ⟨link.speaks, link.taken_eq⟩
      exact parts.collect _ _ same (TCPConnection.write_spec writes).2
  | connect =>
      rcases bind_ok performed with ⟨connection, collected, rest⟩
      cases rest
      exact parts.collect _ _ link collected
  | endInputStream =>
      rcases bind_ok performed with ⟨connection, ended, rest⟩
      cases rest
      have same : Listens source.connection source.written sink.taken sink.connection.ended :=
        ⟨link.speaks, link.taken_eq⟩
      exact parts.collect _ _ same ended
  | tick msSinceLastTick =>
      rcases bind_ok performed with ⟨connection, ticked, rest⟩
      cases rest
      exact TCPConnection.tick_keeps parts link ticked

/-- The speaking endpoint receives a segment, whatever it is. -/
theorem Link.receiveSource {source next sink : Endpoint} {segment : TCPSegment}
    (link : Link source sink) (received : source.receive segment = .ok next) :
    Link next sink := by
  rcases bind_ok received with ⟨connection, done, rest⟩
  cases rest
  refine ⟨?_, link.taken_eq⟩
  refine TCPConnection.segmentReceived_keeps
    (speaks_keptByParts source.written sink.connection.receiver) ?_ ?_ link.speaks done
  · intro other _ _ speaks
    exact ⟨speaks.fidelity, speaks.receives, speaks.heard⟩
  · intro other acked _ speaks taken
    exact speaks.takeAck taken

/-- The listening endpoint receives a segment its peer has emitted. -/
theorem Link.receiveSink {source sink next : Endpoint} {segment : TCPSegment}
    (link : Link source sink) (low : source.connection.sender.window.nextSeqno < 2 ^ 31)
    (out : segment ∈ source.connection.segmentsOut)
    (received : sink.receive segment = .ok next) : Link source next := by
  rcases bind_ok received with ⟨connection, done, rest⟩
  cases rest
  refine TCPConnection.segmentReceived_keeps
    (listens_keptByParts source.connection source.written sink.taken) ?_ ?_ link done
  · intro other _ _ listens
    refine ⟨listens.speaks.deliver low out, ?_⟩
    have frame := segmentReceived_bytesRead listens.speaks.receives.wf segment
    exact frame.symm ▸ listens.taken_eq
  · intro other acked _ listens taken
    rcases TCPConnection.takeAck_spec taken with ⟨sender, _, rfl⟩
    exact ⟨listens.speaks, listens.taken_eq⟩

/-! ## Every run of the network -/

namespace NetworkState

/-- Both directions are linked. -/
def Linked (network : NetworkState) : Prop :=
  forall side : Side, Link (network.endpoint side) (network.endpoint side.other)

/-- Both sides have used fewer than `2^31` sequence numbers. -/
def Below (network : NetworkState) : Prop :=
  forall side : Side, (network.endpoint side).connection.sender.nextSeqnoAbsolute < 2 ^ 31

theorem endpoint_put (network : NetworkState) (side : Side) (next : Endpoint) :
    (network.put side next).endpoint side = next := by
  cases side <;> rfl

theorem endpoint_put_other (network : NetworkState) (side : Side) (next : Endpoint) :
    (network.put side next).endpoint side.other = network.endpoint side.other := by
  cases side <;> rfl

/-- Every side is the one acted on or its peer. -/
theorem forall_side {property : Side -> Prop} (side : Side) (here : property side)
    (there : property side.other) : forall side, property side := by
  intro any
  cases side <;> cases any <;> assumption

theorem other_other (side : Side) : side.other.other = side := by
  cases side <;> rfl

theorem new_linked (cfgA cfgB : TCPConfig) (randomA randomB : WrappingInt32) :
    (new cfgA cfgB randomA randomB).Linked := by
  intro side
  cases side with
  | a => exact ⟨new_speaks cfgA cfgB randomA, rfl⟩
  | b => exact ⟨new_speaks cfgB cfgA randomB, rfl⟩

theorem step_below {network next : NetworkState} {op : NetworkOp}
    (taken : network.step op = .ok next) (below : next.Below) : network.Below := by
  rcases step_cases taken with rfl | ⟨side, changed, rfl, acted⟩
  · exact below
  · unfold Below
    refine forall_side side ?_ ?_
    · have bound := below side
      rw [endpoint_put] at bound
      apply Nat.lt_of_le_of_lt _ bound
      rcases acted with ⟨ownerOp, _, performed⟩ | ⟨i, segment, _, _, received⟩
      · exact TCPConnection.perform_nextSeqno_le (Endpoint.perform_connection performed)
      · exact TCPConnection.segmentReceived_nextSeqno_le (Endpoint.receive_connection received)
    · have bound := below side.other
      rwa [endpoint_put_other] at bound

theorem inFlight_mem {network : NetworkState} {side : Side} {i : Nat} {segment : TCPSegment}
    (found : network.inFlight side i = some segment) :
    segment ∈ (network.endpoint side.other).connection.segmentsOut :=
  List.mem_of_getElem? found

theorem Linked.step {network next : NetworkState} {op : NetworkOp} (linked : network.Linked)
    (taken : network.step op = .ok next) (below : next.Below) : next.Linked := by
  have before := step_below taken below
  rcases step_cases taken with rfl | ⟨side, changed, rfl, acted⟩
  · exact linked
  · have back := linked side.other
    rw [other_other] at back
    unfold Linked
    refine forall_side side ?_ ?_
    · rw [endpoint_put, endpoint_put_other]
      rcases acted with ⟨ownerOp, _, performed⟩ | ⟨i, segment, _, _, received⟩
      · exact (linked side).performSource performed
      · exact (linked side).receiveSource received
    · rw [endpoint_put_other, other_other, endpoint_put]
      rcases acted with ⟨ownerOp, _, performed⟩ | ⟨i, segment, _, found, received⟩
      · exact back.performSink performed
      · exact back.receiveSink (before side.other) (inFlight_mem found) received

theorem linked_of_run {cfgA cfgB : TCPConfig} {randomA randomB : WrappingInt32}
    {ops : List NetworkOp} {final : NetworkState}
    (done : run NetworkState.step (new cfgA cfgB randomA randomB) ops = .ok final)
    (below : final.Below) : final.Linked := by
  apply run_invariant_within Below Linked _ _ (new_linked cfgA cfgB randomA randomB)
    (runMeets_of_forall (fun _ _ => trivial) _ _) done below
  · intro network op next taken within
    exact step_below taken within
  · intro network op next linked _ taken within
    exact linked.step taken within

/-! ## Runs go through -/

/-- Both senders keep their queues in order. -/
def Queued (network : NetworkState) : Prop :=
  forall side : Side, (network.endpoint side).connection.sender.Queued

theorem new_queued (cfgA cfgB : TCPConfig) (randomA randomB : WrappingInt32) :
    (new cfgA cfgB randomA randomB).Queued :=
  forall_side .a (TCPConnection.new_queued cfgA randomA) (TCPConnection.new_queued cfgB randomB)

theorem Queued.step {network next : NetworkState} {op : NetworkOp} (queued : network.Queued)
    (taken : network.step op = .ok next) (below : next.Below) : next.Queued := by
  rcases step_cases taken with rfl | ⟨side, changed, rfl, acted⟩
  · exact queued
  · unfold Queued
    refine forall_side side ?_ ?_
    · have low := below side
      rw [endpoint_put] at low ⊢
      rcases acted with ⟨ownerOp, _, performed⟩ | ⟨i, segment, _, _, received⟩
      · exact TCPConnection.perform_queued (queued side) (Endpoint.perform_connection performed)
      · exact TCPConnection.segmentReceived_queued (queued side)
          (Endpoint.receive_connection received) low
    · rw [endpoint_put_other]
      exact queued side.other

/-- A segment in flight takes its receiver to `2^31` numbers within one step. -/
def Overruns (network : NetworkState) : Prop :=
  Exists fun side => Exists fun i => Exists fun segment =>
    network.inFlight side i = some segment ∧
      (network.endpoint side).connection.Overruns segment

theorem Queued.step_ok {network : NetworkState} (queued : network.Queued)
    (below : network.Below) (fits : ¬ network.Overruns) (op : NetworkOp) :
    Exists fun next => network.step op = .ok next := by
  cases op with
  | owner side ownerOp =>
      rcases TCPConnection.perform_goesThrough (queued side) ownerOp with ⟨connection, done, _⟩
      rcases Endpoint.perform_ok ⟨connection, done⟩ with ⟨next, performed⟩
      unfold NetworkState.step
      dsimp only
      rw [performed]
      exact ⟨_, rfl⟩
  | deliver side i =>
      unfold NetworkState.step
      dsimp only
      cases found : network.inFlight side i with
      | none => exact ⟨_, rfl⟩
      | some segment =>
          rcases TCPConnection.segmentReceived_goesThrough (queued side) (below side)
            (fun overruns => fits ⟨side, i, segment, found, overruns⟩) with ⟨next, received, _⟩
          dsimp only
          unfold Endpoint.receive
          rw [received]
          exact ⟨_, rfl⟩

/-- No operation fails before a side has used `2^31` sequence numbers. -/
theorem run_goesThrough (cfgA cfgB : TCPConfig) (randomA randomB : WrappingInt32)
    (ops : List NetworkOp) :
    (Exists fun final => run step (new cfgA cfgB randomA randomB) ops = .ok final) ∨
      Exists fun before => Exists fun reached => before <+: ops ∧
        run step (new cfgA cfgB randomA randomB) before = .ok reached ∧
        (¬ reached.Below ∨ reached.Overruns) := by
  rcases run_or_stops step (new cfgA cfgB randomA randomB) ops with
    through | ⟨before, op, reached, fault, inside, done, failed⟩
  · exact Or.inl through
  · right
    refine ⟨before, reached, (List.prefix_append before [op]).trans inside, done, ?_⟩
    by_contra fine
    rcases not_or.mp fine with ⟨notHigh, fits⟩
    have below := not_not.mp notHigh
    have queued : reached.Queued := by
      apply run_invariant_within Below Queued _ _ (new_queued cfgA cfgB randomA randomB)
        (runMeets_of_forall (fun _ _ => trivial) _ _) done below
      · intro network op next taken within
        exact step_below taken within
      · intro network op next kept _ taken within
        exact kept.step taken within
    rcases queued.step_ok below fits op with ⟨next, taken⟩
    cases failed.symm.trans taken

end NetworkState

/-- The bytes ever assembled into an endpoint's inbound stream: those its
owner has taken and those still buffered. -/
def Endpoint.assembled (endpoint : Endpoint) : List UInt8 :=
  endpoint.taken ++
    endpoint.connection.inboundStream.peekOutput endpoint.connection.inboundStream.bufferSize

theorem Link.assembled_take {source sink : Endpoint} (link : Link source sink) :
    sink.assembled = source.written.take sink.connection.inboundStream.bytesWritten := by
  rw [← link.assembled_eq]
  unfold Endpoint.assembled
  rw [ByteStream.peekOutput_eq,
    List.take_of_length_le (Nat.le_of_eq (ByteStream.contents_length _))]

/-- In every run below `2^31`, what each side has assembled is a prefix of
what the other side's writes have accepted. -/
theorem assembled_begins_written (cfgA cfgB : TCPConfig) (randomA randomB : WrappingInt32)
    (ops : List NetworkOp) (final : NetworkState)
    (done : run NetworkState.step (NetworkState.new cfgA cfgB randomA randomB) ops = .ok final)
    (below : final.Below) (side : Side) :
    (final.endpoint side).assembled <+: (final.endpoint side.other).written ∧
      (final.endpoint side).assembled.length =
        (final.endpoint side).connection.inboundStream.bytesWritten := by
  have linked := NetworkState.linked_of_run done below side.other
  rw [NetworkState.other_other] at linked
  have follows := linked.speaks.receives.carries.output
  rw [linked.assembled_take]
  constructor
  · exact List.take_prefix _ _
  · rw [List.length_take]
    exact min_eq_left follows.written_le

/-- A handshake, two segments that arrive in the wrong order and one of them
twice. -/
theorem assembled_begins_written_reordered :
    let cfg : TCPConfig := { recvCapacity := ⟨8, by decide⟩, sendCapacity := ⟨8, by decide⟩ }
    let start := NetworkState.new cfg cfg ⟨4294967294⟩ ⟨7⟩
    let ops : List NetworkOp :=
      [.owner .a .connect, .deliver .b 0, .deliver .a 0, .deliver .b 1,
        .owner .a (.write [1, 2]), .owner .a (.write [3]), .deliver .b 3, .deliver .b 2,
        .deliver .b 3, .owner .b (.popInbound 2)]
    Exists fun final => run NetworkState.step start ops = .ok final ∧
      final.b.assembled = [1, 2, 3] ∧ final.b.assembled <+: final.a.written := by
  intro cfg start ops
  have checked : endsIn NetworkState.step (fun final =>
      decide (final.b.assembled = [1, 2, 3] ∧
        final.a.connection.sender.nextSeqnoAbsolute < 2 ^ 31 ∧
        final.b.connection.sender.nextSeqnoAbsolute < 2 ^ 31)) start ops = true := by
    decide +kernel
  rcases run_of_endsIn checked with ⟨final, done, facts⟩
  rcases of_decide_eq_true facts with ⟨bytes, lowA, lowB⟩
  have below : final.Below := NetworkState.forall_side .a lowA lowB
  exact ⟨final, done, bytes, (assembled_begins_written _ _ _ _ ops final done below .b).1⟩

end Network
end Sponge
