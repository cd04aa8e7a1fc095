import Sponge.Tcp.AckBounds

namespace Sponge
namespace Tcp

open Foundation Bytes

/-!
# Segments at number zero

The first SYN should fix the initial sequence number, and the acknowledged
number should never go back.  Every SYN sets both anew, and the rest of the same
call only sometimes makes up for it.  A segment without SYN can be taken for one
at number zero as well.  What such a segment does to the two numbers is told from
the state before it.
-/

namespace TCPReceiver

/-- The later receiver still maps numbers by the same initial sequence number, and
acknowledges no less. -/
def Follows (receiver later : TCPReceiver) : Prop :=
  receiver.isSet = true ->
    later.isSet = true ∧ later.isn = receiver.isn ∧ receiver.checkpoint ≤ later.checkpoint

/-- A SYN has the number of the first one.  A segment at number zero reaches up to
the checkpoint by itself, or all its numbers and all those below the checkpoint
are kept, but for the SYN and, if the stream is complete, the FIN. -/
def Restores (receiver : TCPReceiver) (segment : TCPSegment) : Prop :=
  (segment.header.syn = true -> segment.header.seqno.rawValue = receiver.isn) ∧
  ((receiver.noteSyn segment).index segment = 0 ->
    receiver.checkpoint ≤ receiver.segmentEnd segment ∨
      (forall k, k < receiver.segmentEnd segment -> receiver.Keeps segment k) ∧
        forall k, k < receiver.checkpoint - (if receiver.Completes segment then 2 else 1) ->
          receiver.Keeps segment k)

instance (receiver : TCPReceiver) (segment : TCPSegment) : Decidable (receiver.Restores segment) :=
  inferInstanceAs (Decidable ((_ -> _) ∧ (_ -> _ ∨ (forall k, k < _ -> _) ∧ forall k, k < _ -> _)))

/-- A call that leaves both numbers in their place once they are set. -/
def KeepsPlace (receiver : TCPReceiver) : ReceiverCall -> Prop
  | .segmentReceived segment => receiver.isSet = true -> receiver.Restores segment
  | _ => True

instance (receiver : TCPReceiver) : (made : ReceiverCall) -> Decidable (receiver.KeepsPlace made)
  | .segmentReceived _ => inferInstanceAs (Decidable (_ -> _))
  | .read _ => .isTrue trivial
  | .pop _ => .isTrue trivial
  | .setError => .isTrue trivial

theorem follows_refl (receiver : TCPReceiver) : receiver.Follows receiver :=
  fun isSet => ⟨isSet, rfl, Nat.le_refl _⟩

theorem Follows.trans {first second third : TCPReceiver} (before : first.Follows second)
    (after : second.Follows third) : first.Follows third := by
  intro isSet
  rcases before isSet with ⟨still, same, reaches⟩
  rcases after still with ⟨stays, alike, further⟩
  exact ⟨stays, alike.trans same, Nat.le_trans reaches further⟩

/-! ## One segment -/

theorem segmentReceived_isn (receiver : TCPReceiver) (segment : TCPSegment) :
    (receiver.segmentReceived segment).isn = (receiver.noteSyn segment).isn := by
  unfold segmentReceived
  dsimp only
  split
  · rfl
  · rfl

/-- The initial sequence number stays if a SYN brings the same one. -/
theorem segmentReceived_isn_iff (receiver : TCPReceiver) (segment : TCPSegment) :
    (receiver.segmentReceived segment).isn = receiver.isn <->
      (segment.header.syn = true -> segment.header.seqno.rawValue = receiver.isn) := by
  rw [segmentReceived_isn]
  unfold noteSyn
  split
  · rename_i syn
    exact ⟨fun same _ => same, fun same => same syn⟩
  · rename_i noSyn
    exact iff_of_true rfl (fun syn => absurd syn noSyn)

theorem noteSyn_isSet {receiver : TCPReceiver} (isSet : receiver.isSet = true)
    (segment : TCPSegment) : (receiver.noteSyn segment).isSet = true := by
  unfold noteSyn
  split
  · rfl
  · exact isSet

/-- At number zero it depends on what is kept. -/
theorem Ordinary.checkpoint_le_iff {receiver : TCPReceiver} (ordinary : receiver.Ordinary)
    {segment : TCPSegment} (isSet : (receiver.noteSyn segment).isSet = true)
    (allocated : receiver.reassembler.edge < 2 ^ 64)
    (zero : (receiver.noteSyn segment).index segment = 0) :
    receiver.checkpoint ≤ (receiver.segmentReceived segment).checkpoint <->
      receiver.checkpoint ≤ receiver.segmentEnd segment ∨
        (forall k, k < receiver.segmentEnd segment -> receiver.Keeps segment k) ∧
          forall k, k < receiver.checkpoint - (if receiver.Completes segment then 2 else 1) ->
            receiver.Keeps segment k := by
  have counts : receiver.Counts segment := Or.inl zero
  rw [ordinary.allKept_iff isSet allocated, ordinary.allKept_iff isSet allocated,
    ordinary.checkpoint_eq isSet allocated, if_pos counts]
  by_cases completes : receiver.Completes segment
  · rw [if_pos completes]
    split
    · omega
    · omega
  · rw [if_neg completes]
    split
    · omega
    · omega

theorem Ordinary.restores_iff {receiver : TCPReceiver} (ordinary : receiver.Ordinary)
    {segment : TCPSegment} (isSet : receiver.isSet = true)
    (allocated : receiver.reassembler.edge < 2 ^ 64) :
    receiver.Restores segment <-> receiver.Follows (receiver.segmentReceived segment) := by
  have noted := noteSyn_isSet isSet segment
  have stays := isSet_of_noted noted
  have place : receiver.checkpoint ≤ (receiver.segmentReceived segment).checkpoint <->
      ((receiver.noteSyn segment).index segment = 0 ->
        receiver.checkpoint ≤ receiver.segmentEnd segment ∨
          (forall k, k < receiver.segmentEnd segment -> receiver.Keeps segment k) ∧
            forall k, k < receiver.checkpoint - (if receiver.Completes segment then 2 else 1) ->
              receiver.Keeps segment k) := by
    by_cases zero : (receiver.noteSyn segment).index segment = 0
    · rw [ordinary.checkpoint_le_iff noted allocated zero]
      exact ⟨fun kept _ => kept, fun kept => kept zero⟩
    · exact iff_of_true (ordinary.checkpoint_le_of_index noted allocated zero)
        (fun other => absurd other zero)
  unfold Restores Follows
  rw [← place, ← segmentReceived_isn_iff]
  exact ⟨fun both _ => ⟨stays, both⟩, fun follows => (follows isSet).2⟩

/-! ## Whole runs -/

theorem Ordinary.step_follows_iff {receiver next : TCPReceiver} {made : ReceiverCall}
    (ordinary : receiver.Ordinary) (taken : receiver.step made = .ok next)
    (allocated : next.reassembler.edge < 2 ^ 64) :
    receiver.KeepsPlace made <-> receiver.Follows next := by
  have room := edge_backward receiver made next taken allocated
  cases taken
  cases made with
  | segmentReceived segment =>
      by_cases isSet : receiver.isSet = true
      · have exactly : receiver.Restores segment <->
            receiver.Follows (receiver.segmentReceived segment) :=
          ordinary.restores_iff isSet room
        exact ⟨fun keeps => exactly.mp (keeps isSet), fun follows _ => exactly.mpr follows⟩
      · exact iff_of_true (fun set => absurd set isSet) (fun set => absurd set isSet)
  | read length => exact iff_of_true trivial receiver.follows_refl
  | pop length => exact iff_of_true trivial receiver.follows_refl
  | setError => exact iff_of_true trivial receiver.follows_refl

end TCPReceiver

/-- **The first SYN and the acknowledged number.**  In a run, once a receiver is
set, its initial sequence number never changes and its acknowledged number never
goes back exactly when every later SYN has the number of the first and every
segment at number zero finds what it needs to restore the checkpoint. -/
theorem receiver_keeps_isn_iff (capacity : Capacity) (calls : List ReceiverCall)
    (final : TCPReceiver) (done : run TCPReceiver.step (.new capacity) calls = .ok final)
    (allocated : final.reassembler.edge < 2 ^ 64) :
    RunMeets TCPReceiver.step TCPReceiver.KeepsPlace (.new capacity) calls <->
      forall before after middle reached, before ++ after <+: calls ->
        run TCPReceiver.step (.new capacity) before = .ok middle ->
        run TCPReceiver.step middle after = .ok reached -> middle.isSet = true ->
          reached.isSet = true ∧ reached.isn = middle.isn ∧
            middle.checkpoint ≤ reached.checkpoint :=
  runMeets_iff_related (fun receiver => receiver.reassembler.edge < 2 ^ 64) TCPReceiver.Ordinary
    TCPReceiver.Follows TCPReceiver.follows_refl (fun _ _ _ before after => before.trans after)
    TCPReceiver.edge_backward (fun _ _ _ ordinary taken => ordinary.step taken)
    (fun _ _ _ ordinary taken within => ordinary.step_follows_iff taken within)
    (TCPReceiver.new_ordinary capacity) done allocated

/-- A SYN that comes again after data and a FIN. -/
theorem receiver_keeps_isn_repeated :
    let calls : List ReceiverCall :=
      [.segmentReceived { header := { seqno := ⟨100⟩, syn := true } },
        .segmentReceived { header := { seqno := ⟨101⟩, fin := true }, payload := [1, 2] },
        .segmentReceived { header := { seqno := ⟨100⟩, syn := true } }]
    (Exists fun final => run TCPReceiver.step (.new ⟨4, by decide⟩) calls = .ok final ∧
      final.checkpoint = 4) ∧
      forall before after middle reached, before ++ after <+: calls ->
        run TCPReceiver.step (.new ⟨4, by decide⟩) before = .ok middle ->
        run TCPReceiver.step middle after = .ok reached -> middle.isSet = true ->
          reached.isSet = true ∧ reached.isn = middle.isn ∧
            middle.checkpoint ≤ reached.checkpoint := by
  intro calls
  have checked : endsIn TCPReceiver.step (fun receiver =>
      decide (receiver.reassembler.edge < 2 ^ 64 ∧ receiver.checkpoint = 4))
      (.new ⟨4, by decide⟩) calls = true := by decide +kernel
  rcases run_of_endsIn checked with ⟨final, done, facts⟩
  rcases of_decide_eq_true facts with ⟨allocated, four⟩
  refine ⟨⟨final, done, four⟩, ?_⟩
  exact (receiver_keeps_isn_iff ⟨4, by decide⟩ calls final done allocated).mp (by decide +kernel)

/-- Behind the FIN of an empty stream, the first SYN once more takes the
acknowledged number back, and a SYN of its own number changes the initial one. -/
theorem receiver_loses_isn :
    let start := TCPReceiver.new ⟨4, by decide⟩
    let calls : List ReceiverCall :=
      [.segmentReceived { header := { seqno := ⟨100⟩, syn := true } },
        .segmentReceived { header := { seqno := ⟨101⟩, fin := true } }]
    Exists fun middle => run TCPReceiver.step start calls = .ok middle ∧ middle.isSet = true ∧
      (Exists fun reached =>
        run TCPReceiver.step middle
            [.segmentReceived { header := { seqno := ⟨100⟩, syn := true } }] = .ok reached ∧
          reached.checkpoint < middle.checkpoint) ∧
      (Exists fun reached =>
        run TCPReceiver.step middle
            [.segmentReceived { header := { seqno := ⟨105⟩, syn := true } }] = .ok reached ∧
          reached.isn ≠ middle.isn) := by
  intro start calls
  refine ⟨_, rfl, rfl, ⟨_, rfl, ?_⟩, ⟨_, rfl, ?_⟩⟩
  · decide +kernel
  · decide +kernel

end Tcp
end Sponge
