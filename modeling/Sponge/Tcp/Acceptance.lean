import Sponge.Tcp.RepeatedSyns

namespace Sponge
namespace Tcp

open Foundation Bytes

/-!
# The advertised window

`window_size` is computed from what the output stream still buffers, while a
push accepts what lies below the length its vectors are resized to.  Both come
to the same right edge, with an ended stream too, and the edge only moves to the
right.  So what was once inside an advertised window is accepted whenever it
comes.
-/

namespace TCPReceiver

/-- The right edge of the window that the receiver advertises. -/
def rightEdge (receiver : TCPReceiver) : Nat :=
  receiver.streamOut.bytesWritten + receiver.windowSize

/-- The first byte of the segment's payload has stream index `x`.  Without a SYN in
the segment, number zero lies before the stream. -/
def StartsAt (receiver : TCPReceiver) (segment : TCPSegment) (x : UInt64) : Prop :=
  (receiver.noteSyn segment).index segment = x.toNat + if segment.header.syn then 0 else 1

instance (receiver : TCPReceiver) (segment : TCPSegment) (x : UInt64) :
    Decidable (receiver.StartsAt segment x) :=
  inferInstanceAs (Decidable (_ = _))

theorem StartsAt.streamIndex_eq {receiver : TCPReceiver} {segment : TCPSegment} {x : UInt64}
    (starts : receiver.StartsAt segment x) :
    (receiver.noteSyn segment).streamIndex segment = x.toNat := by
  have small := x.toNat_lt
  unfold StartsAt at starts
  unfold streamIndex
  dsimp only
  rw [starts]
  cases syn : segment.header.syn with
  | true =>
      rw [if_pos rfl, if_pos rfl, Nat.add_zero]
      unfold succ64 sub64
      omega
  | false =>
      rw [if_neg Bool.false_ne_true, if_neg Bool.false_ne_true]
      unfold sub64
      omega

/-- The window's two definitions agree. -/
theorem Ordinary.rightEdge_eq {receiver : TCPReceiver} (ordinary : receiver.Ordinary) :
    receiver.rightEdge = receiver.reassembler.edge := by
  have written := receiver.streamOut.bytesWritten_eq
  have room := receiver.streamOut.bufferSize_le
  have capacity : receiver.streamOut.capacity = receiver.reassembler.capacity :=
    ordinary.wf.output_capacity
  unfold rightEdge windowSize StreamReassembler.edge
  unfold StreamReassembler.capacityValue
  rw [written]
  rw [capacity] at room
  change _ = receiver.streamOut.bytesRead + receiver.reassembler.capacity
  omega

/-- What a segment leaves stored. -/
theorem Ordinary.segmentReceived_stores_iff {receiver : TCPReceiver}
    (ordinary : receiver.Ordinary) (isSet : receiver.isSet = true)
    (allocated : receiver.reassembler.edge < 2 ^ 64) (segment : TCPSegment) (k : Nat) :
    (receiver.segmentReceived segment).reassembler.Stores k <-> receiver.Keeps segment k := by
  have noted := noteSyn_isSet isSet segment
  have assembles := (StreamReassembler.updateOutput_spec (ordinary.staged segment)).1
  rw [ordinary.keeps_iff segment allocated, segmentReceived_assembled noted]
  unfold StreamReassembler.Stores
  rw [assembles.count_eq]

theorem Ordinary.accepts_iff {receiver : TCPReceiver} (ordinary : receiver.Ordinary)
    (isSet : receiver.isSet = true) (allocated : receiver.reassembler.edge < 2 ^ 64)
    {segment : TCPSegment} {x : UInt64} {i : Nat} (starts : receiver.StartsAt segment x)
    (inside : i < segment.payload.length) :
    (receiver.segmentReceived segment).reassembler.Stores (x.toNat + i) <->
      receiver.reassembler.Stores (x.toNat + i) ∨ x.toNat + i < receiver.rightEdge := by
  rw [ordinary.segmentReceived_stores_iff isSet allocated, ordinary.rightEdge_eq]
  unfold Keeps
  rw [starts.streamIndex_eq]
  constructor
  · rintro (held | ⟨_, _, below⟩)
    · exact Or.inl held
    · exact Or.inr below
  · rintro (held | below)
    · exact Or.inl held
    · exact Or.inr ⟨Nat.le_add_right _ i, Nat.add_lt_add_left inside _, below⟩

/-- A call keeps the receiver ordinary and set, and does not take the edge back. -/
structure Reaches (limit : Nat) (receiver : TCPReceiver) : Prop where
  ordinary : receiver.Ordinary
  isSet : receiver.isSet = true
  edge_ge : limit ≤ receiver.rightEdge

theorem Reaches.step {limit : Nat} {receiver next : TCPReceiver} {made : ReceiverCall}
    (reaches : receiver.Reaches limit) (taken : receiver.step made = .ok next) :
    next.Reaches limit := by
  have kept := reaches.ordinary.step taken
  cases taken
  refine ⟨kept, ?_, ?_⟩
  · cases made with
    | segmentReceived segment =>
        change (receiver.segmentReceived segment).isSet = true
        rw [isSet_segmentReceived, reaches.isSet, Bool.true_or]
    | read length => exact reaches.isSet
    | pop length => exact reaches.isSet
    | setError => exact reaches.isSet
  · rw [kept.rightEdge_eq]
    apply Nat.le_trans _ (receiver.edge_call_le made)
    rw [← reaches.ordinary.rightEdge_eq]
    exact reaches.edge_ge

end TCPReceiver

/-- What is accepted is what was advertised, and the advertised edge never moves
back, so that what lies below it is accepted at any later time. -/
theorem receiver_accepts_advertised (capacity : Capacity) (calls : List ReceiverCall)
    (receiver : TCPReceiver) (done : run TCPReceiver.step (.new capacity) calls = .ok receiver)
    (isSet : receiver.isSet = true) (allocated : receiver.reassembler.edge < 2 ^ 64) :
    (forall segment x i, receiver.StartsAt segment x -> i < segment.payload.length ->
      ((receiver.segmentReceived segment).reassembler.Stores (x.toNat + i) <->
        receiver.reassembler.Stores (x.toNat + i) ∨
          x.toNat + i < receiver.streamOut.bytesWritten + receiver.windowSize)) ∧
    forall later reached, run TCPReceiver.step receiver later = .ok reached ->
      receiver.streamOut.bytesWritten + receiver.windowSize ≤
          reached.streamOut.bytesWritten + reached.windowSize ∧
        (reached.reassembler.edge < 2 ^ 64 ->
          forall segment x i, reached.StartsAt segment x -> i < segment.payload.length ->
            x.toNat + i < receiver.streamOut.bytesWritten + receiver.windowSize ->
              (reached.segmentReceived segment).reassembler.Stores (x.toNat + i)) := by
  have ordinary : receiver.Ordinary :=
    run_invariant TCPReceiver.Ordinary (fun _ _ _ before taken => before.step taken)
      (TCPReceiver.new_ordinary capacity) done
  refine ⟨?_, ?_⟩
  · intro segment x i starts inside
    exact ordinary.accepts_iff isSet allocated starts inside
  · intro later reached onward
    have reaches : reached.Reaches receiver.rightEdge :=
      run_invariant (TCPReceiver.Reaches receiver.rightEdge)
        (fun _ _ _ before taken => before.step taken) ⟨ordinary, isSet, Nat.le_refl _⟩ onward
    refine ⟨reaches.edge_ge, ?_⟩
    intro room segment x i starts inside advertised
    apply (reaches.ordinary.accepts_iff reaches.isSet room starts inside).mpr
    exact Or.inr (Nat.lt_of_lt_of_le advertised reaches.edge_ge)

theorem receiver_accepts_advertised_after_read :
    let calls : List ReceiverCall :=
      [.segmentReceived { header := { seqno := ⟨100⟩, syn := true } },
        .segmentReceived { header := { seqno := ⟨101⟩ }, payload := [1, 2] }, .read 1]
    Exists fun receiver => run TCPReceiver.step (.new ⟨2, by decide⟩) calls = .ok receiver ∧
      receiver.streamOut.bytesWritten + receiver.windowSize = 3 ∧
      ((receiver.segmentReceived
          { header := { seqno := ⟨103⟩ }, payload := [3, 4] }).reassembler.Stores 2 <->
        receiver.reassembler.Stores 2 ∨
          2 < receiver.streamOut.bytesWritten + receiver.windowSize) := by
  intro calls
  have checked : endsIn TCPReceiver.step (fun receiver =>
      decide (receiver.isSet = true ∧ receiver.reassembler.edge < 2 ^ 64 ∧
        receiver.streamOut.bytesWritten + receiver.windowSize = 3 ∧
        receiver.StartsAt { header := { seqno := ⟨103⟩ }, payload := [3, 4] } 2))
      (.new ⟨2, by decide⟩) calls = true := by decide +kernel
  rcases run_of_endsIn checked with ⟨receiver, done, facts⟩
  rcases of_decide_eq_true facts with ⟨isSet, allocated, three, starts⟩
  have accepts := (receiver_accepts_advertised ⟨2, by decide⟩ calls receiver done isSet
    allocated).1 { header := { seqno := ⟨103⟩ }, payload := [3, 4] } 2 0 starts (by decide)
  exact ⟨receiver, done, three, accepts⟩

end Tcp
end Sponge
