import Sponge.Tcp.Acceptance
import Sponge.Tcp.RetransmissionQueue

namespace Sponge
namespace Tcp

open Foundation Bytes

/-!
# The acknowledgment fields of what is sent

Every segment that leaves a connection is stamped with what the receiver
acknowledges and with its window, on each of the ways it can take.  The header
has sixteen bits for the window, and the code cuts a larger one instead of
announcing the largest.  Only a capacity beyond 65535 makes a difference.  Within
one operation a receiver changes before anything is sent, or only by an error, so
that its state behind the operation is the one at the moment of sending.
-/

namespace TCPReceiver

/-- What the code stamps on a segment, other than a reset. -/
def Stamps (receiver : TCPReceiver) (segment : TCPSegment) : Prop :=
  segment.header.rst = true ∨ forall ackno, receiver.ackno = some ackno ->
    segment.header.ack = true ∧ segment.header.ackno = ackno ∧
      segment.header.win = .ofNat receiver.windowSize

/-- What the segment should say: the acknowledged number, and the window as far as
it can be said. -/
def Reports (receiver : TCPReceiver) (segment : TCPSegment) : Prop :=
  segment.header.rst = true ∨ forall ackno, receiver.ackno = some ackno ->
    segment.header.ack = true ∧ segment.header.ackno = ackno ∧
      segment.header.win.toNat = min receiver.windowSize 65535

theorem stamps_ackInfo {receiver : TCPReceiver} {ackno : WrappingInt32}
    (acks : receiver.ackno = some ackno) (segment : TCPSegment) :
    receiver.Stamps (TCPConnection.ackInfo ackno receiver.windowSize segment) := by
  right
  intro other same
  cases acks.symm.trans same
  exact ⟨rfl, rfl, rfl⟩

theorem Stamps.reports {receiver : TCPReceiver} {segment : TCPSegment}
    (stamps : receiver.Stamps segment) (fits : receiver.windowSize ≤ 65535) :
    receiver.Reports segment := by
  rcases stamps with rst | stamped
  · exact Or.inl rst
  · right
    intro ackno acks
    rcases stamped ackno acks with ⟨ack, same, win⟩
    refine ⟨ack, same, ?_⟩
    rw [win, UInt16.toNat_ofNat', Nat.min_eq_left fits]
    omega

end TCPReceiver

namespace TCPConnection

/-- What has been sent since the queue was the one given is stamped. -/
def Tells (before : List TCPSegment) (connection : TCPConnection) : Prop :=
  Exists fun added => connection.segmentsOut = before ++ added ∧
    forall segment, segment ∈ added -> connection.receiver.Stamps segment

section

variable {connection final : TCPConnection} {before : List TCPSegment}

theorem tells_nothing (same : connection.segmentsOut = before) : connection.Tells before :=
  ⟨[], same.trans (List.append_nil _).symm, nofun⟩

theorem Tells.append (tells : connection.Tells before) {extra : List TCPSegment}
    (stamps : forall segment, segment ∈ extra -> connection.receiver.Stamps segment)
    (queue : final.segmentsOut = connection.segmentsOut ++ extra)
    (receiver_eq : final.receiver = connection.receiver) : final.Tells before := by
  rcases tells with ⟨added, sent, all⟩
  refine ⟨added ++ extra, ?_, ?_⟩
  · rw [queue, sent, List.append_assoc]
  · rw [receiver_eq]
    intro segment member
    rcases List.mem_append.mp member with old | new
    · exact all segment old
    · exact stamps segment new

theorem stamped_stamps (connection : TCPConnection) (segment : TCPSegment) :
    connection.receiver.Stamps (connection.stamped segment) := by
  unfold stamped
  cases acks : connection.receiver.ackno with
  | none =>
      right
      intro ackno some
      cases acks.symm.trans some
  | some ackno => exact TCPReceiver.stamps_ackInfo acks segment

theorem tells_keptByParts (before : List TCPSegment) : KeptByParts (Tells before) where
  flags := fun _ _ _ tells => tells
  clock := fun _ _ tells => tells
  collect := by
    intro connection final tells done
    rcases collect_spec done with ⟨filled, _, rfl⟩
    refine tells.append ?_ rfl rfl
    intro segment member
    rcases List.mem_map.mp member with ⟨original, _, rfl⟩
    exact connection.stamped_stamps original
  push := by
    intro connection final tells done
    rcases pushAck_spec done with ⟨ackno, acks, rfl⟩
    refine tells.append ?_ rfl rfl
    intro segment member
    rw [List.mem_singleton.mp member]
    exact TCPReceiver.stamps_ackInfo acks {}
  queue := by
    intro connection final tells done
    rcases queueAck_spec done with ⟨ackno, _, rfl⟩
    exact tells
  empty := fun _ tells => tells
  reset := fun _ tells => tells
  tickSender := fun _ _ tells => tells
  pushRst := by
    intro connection tells
    refine tells.append ?_ rfl rfl
    intro segment member
    rw [List.mem_singleton.mp member]
    exact Or.inl rfl

/-- Whatever an operation sends is stamped. -/
theorem step_tells {op : ConnectionOp} (done : connection.step op = .ok final) :
    final.Tells connection.segmentsOut := by
  have parts := tells_keptByParts connection.segmentsOut
  have start : connection.Tells connection.segmentsOut := tells_nothing rfl
  cases op with
  | owner op =>
      exact perform_keeps parts (fun _ => tells_nothing rfl) (tells_nothing rfl)
        (fun _ => tells_nothing rfl) start done
  | segmentReceived segment =>
      refine segmentReceived_keeps parts ?_ ?_ start done
      · intro other _ same _
        exact tells_nothing same.segmentsOut_eq
      · intro other acked _ tells taken
        rcases takeAck_spec taken with ⟨sender, _, rfl⟩
        exact tells

/-! ## The window that is reported -/

/-- The receiver's reassembler is well-formed and has the capacity configured. -/
def Holds (capacity : Nat) (connection : TCPConnection) : Prop :=
  connection.receiver.reassembler.Wf ∧ connection.receiver.reassembler.capacity = capacity

theorem holds_keptByParts (capacity : Nat) : KeptByParts (Holds capacity) where
  flags := fun _ _ _ holds => holds
  clock := fun _ _ holds => holds
  collect := by
    intro connection final holds done
    rcases collect_spec done with ⟨filled, _, rfl⟩
    exact holds
  push := by
    intro connection final holds done
    rcases pushAck_spec done with ⟨ackno, _, rfl⟩
    exact holds
  queue := by
    intro connection final holds done
    rcases queueAck_spec done with ⟨ackno, _, rfl⟩
    exact holds
  empty := fun _ holds => holds
  reset := fun _ holds => ⟨{ holds.1 with }, holds.2⟩
  tickSender := fun _ _ holds => holds
  pushRst := fun _ holds => holds

theorem Holds.takeSegment {capacity : Nat} (holds : connection.Holds capacity)
    (segment : TCPSegment) : (connection.takeSegment segment).Holds capacity := by
  refine ⟨TCPReceiver.segmentReceived_wf holds.1 segment, ?_⟩
  change (connection.receiver.segmentReceived segment).reassembler.capacity = capacity
  rw [TCPReceiver.segmentReceived_reassembler]
  split
  · exact (StreamReassembler.pushSubstring_output_frame holds.1 _ _ _).2.2.1.trans holds.2
  · exact holds.2

theorem Holds.step {capacity : Nat} {op : ConnectionOp} (holds : connection.Holds capacity)
    (done : connection.step op = .ok final) : final.Holds capacity := by
  have parts := holds_keptByParts capacity
  cases op with
  | owner op =>
      exact perform_keeps parts (fun _ => holds) holds
        (fun length => ⟨holds.1.popOutput length, holds.2⟩) holds done
  | segmentReceived segment =>
      refine segmentReceived_keeps parts ?_ ?_ holds done
      · intro other _ _ kept
        exact kept.takeSegment segment
      · intro other acked _ kept taken
        rcases takeAck_spec taken with ⟨sender, _, rfl⟩
        exact kept

theorem Holds.windowSize_le {capacity : Nat} (holds : connection.Holds capacity) :
    connection.receiver.windowSize ≤ capacity := by
  rw [← holds.2]
  exact Nat.sub_le _ _

end

/-! ## A window beyond sixteen bits -/

/-- A SYN, with some bytes behind it. -/
def opening (payload : List UInt8) : TCPSegment :=
  { header := { syn := true }, payload := payload }

theorem opening_length_ne (payload : List UInt8) :
    (opening payload).lengthInSequenceSpace ≠ 0 := by
  change payload.length + 1 + 0 ≠ 0
  omega

theorem keepAlive_of_length {connection : TCPConnection} {segment : TCPSegment}
    (nonempty : segment.lengthInSequenceSpace ≠ 0) :
    connection.keepAlive segment = .ok connection := by
  unfold keepAlive
  split
  · rfl
  · rw [if_neg (fun probed => nonempty probed.1)]
    rfl

/-- A fresh connection answers a SYN with its own. -/
theorem answers_opening (cfg : TCPConfig) (random : WrappingInt32) (payload : List UInt8) :
    Exists fun next =>
      (new cfg random).step (.segmentReceived (opening payload)) = .ok next ∧
        next.receiver = (TCPReceiver.new cfg.recvCapacity).segmentReceived (opening payload) ∧
        Exists fun segment => segment ∈ next.segmentsOut ∧ segment.header.rst = false := by
  have queued := TCPSender.new_queued cfg.sendCapacity cfg.rtTimeout (cfg.fixedIsn.getD random)
  rcases queued.fillWindow_ok with ⟨filled, fills⟩
  rcases TCPSender.fillWindow_sends fills with ⟨segments, sends⟩
  have used := TCPSender.fillWindow_opens rfl fills
  generalize isOut : (filled.segmentsOut.map
    ((new cfg random).heard.takeSegment (opening payload)).stamped) = out
  have collected : ((new cfg random).heard.takeSegment (opening payload)).connect =
      .ok { (new cfg random).heard.takeSegment (opening payload) with
        sender := { filled with segmentsOut := [] }
        segmentsOut := out } := by
    rw [← isOut]
    exact collect_of_fills fills
  refine ⟨{ (new cfg random).heard.takeSegment (opening payload) with
    sender := { filled with segmentsOut := [] }
    segmentsOut := out
    active := true }, ?_, rfl, ?_⟩
  · have here : (new cfg random).heard.state = .ofState .listen := rfl
    unfold step segmentReceived
    dsimp only
    rw [if_neg (by exact Bool.false_ne_true), dispatch_eq (opening payload) here]
    change ((do
      let connected <- ((new cfg random).heard.takeSegment (opening payload)).connect
      return { connected with active := true }) >>= fun dispatched =>
        dispatched.keepAlive (opening payload)) = _
    rw [collected]
    simp only [bind, Except.bind, pure, Except.pure]
    exact keepAlive_of_length (opening_length_ne payload)
  · have first : Exists fun segment => segment ∈ filled.segmentsOut ∧
        segment.header.rst = false := by
      rw [sends.segmentsOut_eq]
      cases sends with
      | rest => exact absurd rfl used
      | syn closed room onward =>
          exact ⟨_, List.mem_append_right _ List.mem_cons_self, rfl⟩
      | data may onward =>
          exact ⟨_, List.mem_append_right _ List.mem_cons_self, rfl⟩
    rcases first with ⟨original, member, noRst⟩
    refine ⟨_, isOut ▸ List.mem_map_of_mem member, ?_⟩
    unfold stamped
    split
    · exact noRst
    · exact noRst

/-- The window that is left behind a SYN with some bytes. -/
theorem windowSize_of_opening (capacity : Capacity) {payload : List UInt8}
    (fits : payload.length ≤ capacity.value) :
    ((TCPReceiver.new capacity).segmentReceived (opening payload)).windowSize =
      capacity.value - payload.length := by
  have ordinary := TCPReceiver.new_ordinary capacity
  have bound := capacity.bounded
  have allocated : (TCPReceiver.new capacity).reassembler.edge < 2 ^ 64 := by
    change 0 + capacity.value < 2 ^ 64
    omega
  have noted : ((TCPReceiver.new capacity).noteSyn (opening payload)).isSet = true := rfl
  have syn : (opening payload).header.syn = true := rfl
  have starts : (TCPReceiver.new capacity).StartsAt (opening payload) 0 :=
    (TCPReceiver.new capacity).index_of_syn syn
  have stream := starts.streamIndex_eq
  have keeps (k : Nat) : (TCPReceiver.new capacity).Keeps (opening payload) k <->
      k < payload.length := by
    unfold TCPReceiver.Keeps
    rw [stream]
    constructor
    · rintro (held | ⟨_, below, _⟩)
      · exact absurd held (StreamReassembler.new_stores capacity k)
      · simpa [opening] using below
    · intro below
      refine Or.inr ⟨Nat.zero_le k, ?_, ?_⟩
      · simpa [opening] using below
      · change k < 0 + capacity.value
        omega
  have reaches := (ordinary.allKept_iff noted allocated payload.length).mp
    (fun k below => (keeps k).mpr below)
  have stops := ordinary.keeps_next_iff noted allocated reaches
  rw [keeps] at stops
  have written := ordinary.written_of_open noted rfl
  have kept := ordinary.segmentReceived (opening payload)
  have right := kept.rightEdge_eq
  have moved := TCPReceiver.segmentReceived_reassembler (TCPReceiver.new capacity)
    (opening payload)
  rw [if_pos noted] at moved
  have edge : ((TCPReceiver.new capacity).segmentReceived (opening payload)).reassembler.edge =
      0 + capacity.value := by
    rw [moved, StreamReassembler.pushSubstring_edge]
    rfl
  rw [edge] at right
  unfold TCPReceiver.rightEdge at right
  omega

/-- Some window that the code cuts is not what should be said. -/
theorem exists_misreported {capacity : Nat} (large : 65535 < capacity) :
    Exists fun length => length ≤ 1 ∧ (capacity - length) % 65536 ≠ min (capacity - length) 65535 := by
  by_cases full : capacity % 65536 = 65535
  · exact ⟨1, Nat.le_refl 1, by omega⟩
  · exact ⟨0, Nat.zero_le 1, by omega⟩

/-- A fresh connection's answer to a SYN reports the window cut to sixteen bits. -/
theorem opening_reported (cfg : TCPConfig) (random : WrappingInt32) {payload : List UInt8}
    (fits : payload.length ≤ cfg.recvCapacity.value) :
    Exists fun next => Exists fun segment =>
      (new cfg random).step (.segmentReceived (opening payload)) = .ok next ∧
        segment ∈ next.segmentsOut ∧
        next.receiver.windowSize = cfg.recvCapacity.value - payload.length ∧
        segment.header.win = .ofNat (cfg.recvCapacity.value - payload.length) ∧
        (next.receiver.Reports segment ->
          segment.header.win.toNat = min (cfg.recvCapacity.value - payload.length) 65535) := by
  rcases answers_opening cfg random payload with ⟨next, taken, receiver_eq, segment, out, noRst⟩
  have window := windowSize_of_opening cfg.recvCapacity fits
  rw [← receiver_eq] at window
  have isSet : next.receiver.isSet = true := by
    rw [receiver_eq]
    exact TCPReceiver.isSet_of_noted rfl
  have acks : next.receiver.ackno =
      some (wrap next.receiver.checkpoint ⟨next.receiver.isn⟩) := if_pos isSet
  rcases step_tells taken with ⟨added, queue, stamps⟩
  have member : segment ∈ added := by
    rw [queue] at out
    exact out
  refine ⟨next, segment, taken, out, window, ?_, ?_⟩
  · rcases stamps segment member with rst | stamped
    · cases noRst.symm.trans rst
    · rw [← window]
      exact (stamped _ acks).2.2
  · rintro (rst | reports)
    · cases noRst.symm.trans rst
    · rw [← window]
      exact (reports _ acks).2.2

end TCPConnection

/-- In all runs of a configured connection every segment but a reset reports the
acknowledged number and the window, exactly if the configured capacity fits into
the header's field. -/
theorem ack_fields_faithful_iff (cfg : TCPConfig) (random : WrappingInt32) :
    cfg.recvCapacity.value ≤ 65535 <->
      forall before op reached next,
        run TCPConnection.step (TCPConnection.new cfg random) before = .ok reached ->
        reached.step op = .ok next ->
        forall segment, segment ∈ next.segmentsOut.drop reached.segmentsOut.length ->
          next.receiver.Reports segment := by
  constructor
  · intro fits before op reached next done taken segment out
    have holds : reached.Holds cfg.recvCapacity.value :=
      run_invariant (TCPConnection.Holds cfg.recvCapacity.value)
        (fun _ _ _ holds taken => holds.step taken) ⟨StreamReassembler.new_wf _, rfl⟩ done
    rcases TCPConnection.step_tells taken with ⟨added, queue, stamps⟩
    rw [queue, List.drop_left] at out
    exact (stamps segment out).reports (Nat.le_trans (holds.step taken).windowSize_le fits)
  · intro faithful
    by_contra large
    rcases TCPConnection.exists_misreported (Nat.lt_of_not_le large) with ⟨length, short, wrong⟩
    have fits : (List.replicate length (0 : UInt8)).length ≤ cfg.recvCapacity.value := by
      rw [List.length_replicate]
      omega
    rcases TCPConnection.opening_reported cfg random fits with
      ⟨next, segment, taken, out, _, win, reports⟩
    have said := reports (faithful [] _ _ next rfl taken segment out)
    rw [win, UInt16.toNat_ofNat', List.length_replicate] at said
    exact wrong said

/-- A window of 65536 is reported as none at all. -/
theorem large_window_misreported :
    let cfg : TCPConfig := { recvCapacity := ⟨65536, by decide⟩ }
    Exists fun next => Exists fun segment =>
      (TCPConnection.new cfg ⟨0⟩).step
          (.segmentReceived { header := { syn := true } }) = .ok next ∧
        segment ∈ next.segmentsOut ∧ next.receiver.windowSize = 65536 ∧
        segment.header.win = 0 ∧ ¬ next.receiver.Reports segment := by
  intro cfg
  have fits : ([] : List UInt8).length ≤ cfg.recvCapacity.value := Nat.zero_le _
  rcases TCPConnection.opening_reported cfg ⟨0⟩ fits with
    ⟨next, segment, taken, out, window, win, reports⟩
  have none : segment.header.win = 0 := win.trans (by decide +kernel)
  refine ⟨next, segment, taken, out, window, none, fun said => ?_⟩
  have wrong := reports said
  rw [none] at wrong
  exact absurd wrong (by decide +kernel)

end Tcp
end Sponge
