import Sponge.Tcp.ByteFidelity
import Sponge.Tcp.Receiver

namespace Sponge
namespace Tcp

open Foundation Bytes

/-!
# A receiver and the sender it listens to

What holds of a receiver that has only been handed segments of one faithful
sender.  The sender enters through its initial sequence number, the bytes
written to it, whether its input has ended, how many bytes it has sent and
its next sequence number.
-/

namespace TCPReceiver

/-- The receiver holds only bytes that were sent, and its checkpoint never
runs ahead of the sender. -/
structure Receives (receiver : TCPReceiver) (isn : WrappingInt32) (source : List UInt8)
    (closed : Bool) (sent next : Nat) : Prop where
  isn_eq : receiver.isSet = true -> (⟨receiver.isn⟩ : WrappingInt32) = isn
  wf : receiver.reassembler.Wf
  carries : receiver.reassembler.Carries source
  stored_lt : forall k, receiver.reassembler.Stores k -> k < sent
  checkpoint_le : receiver.checkpoint ≤ next
  ended_le : receiver.ended = true -> closed = true ∧ source.length + 2 ≤ next

theorem new_receives (capacity : Capacity) (isn : WrappingInt32) (source : List UInt8)
    (closed : Bool) (sent next : Nat) :
    (new capacity).Receives isn source closed sent next where
  isn_eq := fun isSet => nomatch isSet
  wf := StreamReassembler.new_wf capacity
  carries := StreamReassembler.new_carries capacity source
  stored_lt := fun k held => absurd held (StreamReassembler.new_stores capacity k)
  checkpoint_le := Nat.zero_le _
  ended_le := fun ended => nomatch ended

/-- Nothing is lost when the sender moves on. -/
theorem Receives.grow {receiver : TCPReceiver} {isn : WrappingInt32} {source : List UInt8}
    {closed closed' : Bool} {sent sent' next next' : Nat}
    (receives : receiver.Receives isn source closed sent next) {more : List UInt8}
    (stays : closed = true -> closed' = true ∧ more = []) (sent_le : sent ≤ sent')
    (next_le : next ≤ next') : receiver.Receives isn (source ++ more) closed' sent' next' where
  isn_eq := receives.isn_eq
  wf := receives.wf
  carries := receives.carries.grow more
  stored_lt := fun k held => Nat.lt_of_lt_of_le (receives.stored_lt k held) sent_le
  checkpoint_le := Nat.le_trans receives.checkpoint_le next_le
  ended_le := by
    intro ended
    rcases receives.ended_le ended with ⟨wasClosed, reached⟩
    rcases stays wasClosed with ⟨still, none⟩
    rw [none, List.append_nil]
    exact ⟨still, Nat.le_trans reached next_le⟩

theorem Receives.later {receiver : TCPReceiver} {isn : WrappingInt32} {source : List UInt8}
    {closed closed' : Bool} {sent sent' next next' : Nat}
    (receives : receiver.Receives isn source closed sent next)
    (stays : closed = true -> closed' = true) (sent_le : sent ≤ sent') (next_le : next ≤ next') :
    receiver.Receives isn source closed' sent' next' := by
  have grown := receives.grow (fun was => ⟨stays was, rfl⟩) sent_le next_le
  rwa [List.append_nil] at grown

theorem Receives.popOutput {receiver : TCPReceiver} {isn : WrappingInt32} {source : List UInt8}
    {closed : Bool} {sent next : Nat} (receives : receiver.Receives isn source closed sent next)
    (length : Nat) : (receiver.popOutput length).Receives isn source closed sent next :=
  ⟨receives.isn_eq, receives.wf.popOutput length, receives.carries.popOutput length,
    receives.stored_lt, receives.checkpoint_le, receives.ended_le⟩

theorem Receives.setError {receiver : TCPReceiver} {isn : WrappingInt32} {source : List UInt8}
    {closed : Bool} {sent next : Nat} (receives : receiver.Receives isn source closed sent next) :
    receiver.setError.Receives isn source closed sent next where
  isn_eq := receives.isn_eq
  wf := { receives.wf with }
  carries := ⟨receives.carries.held, ⟨receives.carries.output.written_le,
    receives.carries.output.written_eq⟩⟩
  stored_lt := receives.stored_lt
  checkpoint_le := receives.checkpoint_le
  ended_le := receives.ended_le

/-! ## Taking a segment -/

theorem advanced_le {pushed : StreamReassembler} {ended : Bool} {reached bound : Nat}
    (left_le : pushed.left + 1 ≤ bound) (last : ended = true -> pushed.left + 2 ≤ bound)
    (reached_le : reached ≤ bound) : advanced pushed ended reached ≤ bound := by
  unfold advanced
  split
  · split
    · rename_i both
      exact last (Bool.and_eq_true_iff.mp both).1
    · exact left_le
  · exact reached_le

/-- What is pushed at a stream index, and how far it reaches. -/
theorem Receives.pushSegment {receiver : TCPReceiver} {isn : WrappingInt32}
    {source : List UInt8} {closed : Bool} {sent next : Nat} {segment : TCPSegment}
    (receives : receiver.Receives isn source closed sent next) (spoken : 1 + sent ≤ next)
    (piece : IsPiece source segment.payload (receiver.streamIndex segment))
    (noWrap : receiver.streamIndex segment + segment.payload.length < 2 ^ 64)
    (payload_sent : segment.payload ≠ [] ->
      receiver.streamIndex segment + segment.payload.length ≤ sent)
    (reach : receiver.index segment = 0 ∨ receiver.index segment = receiver.checkpoint ->
      receiver.index segment + segment.lengthInSequenceSpace ≤ next)
    (fin : segment.header.fin = true -> closed = true ∧ source.length + 2 ≤ next) :
    (receiver.pushSegment segment).Receives isn source closed sent next := by
  have wf := receives.wf.pushSubstring segment.payload (receiver.streamIndex segment)
    segment.header.fin
  have carries := receives.carries.pushSubstring receives.wf segment.header.fin piece noWrap
  have stored : forall k, (receiver.pushSegment segment).reassembler.Stores k -> k < sent := by
    intro k held
    rcases (receives.wf.pushSubstring_stores _ _ noWrap k).mp held with old | ⟨_, below, _⟩
    · exact receives.stored_lt k old
    · have nonempty : segment.payload ≠ [] := by
        intro none
        rw [none, List.length_nil] at below
        omega
      have := payload_sent nonempty
      omega
  have ended : (receiver.ended || segment.header.fin) = true ->
      closed = true ∧ source.length + 2 ≤ next := by
    intro either
    rcases Bool.or_eq_true_iff.mp either with before | now
    · exact receives.ended_le before
    · exact fin now
  have left_le : (receiver.pushSegment segment).reassembler.left ≤ sent := by
    by_contra beyond
    have := stored sent (wf.assembled sent (by
      change sent < (receiver.pushSegment segment).reassembler.left
      omega))
    omega
  refine ⟨receives.isn_eq, wf, carries, stored, ?_, ended⟩
  have left_source : (receiver.pushSegment segment).reassembler.left ≤ source.length :=
    carries.firstUnassembled_le wf
  change (if _ then advanced (receiver.pushSegment segment).reassembler
    (receiver.ended || segment.header.fin) _ else _) ≤ next
  split
  · rename_i here
    apply advanced_le _ _ (reach here)
    · omega
    · intro either
      have := (ended either).2
      omega
  · exact receives.checkpoint_le

/-- A segment of the sender: it occupies no number, or is sound with a
payload that has been sent. -/
def FromSender (isn : WrappingInt32) (source : List UInt8) (closed : Bool) (sent next : Nat)
    (segment : TCPSegment) : Prop :=
  segment.lengthInSequenceSpace = 0 ∨
    Exists fun q => SoundAt isn source closed next segment q ∧
      (segment.payload ≠ [] -> q - 1 + segment.payload.length ≤ sent)

/-- The absolute number of a sound segment is recovered. -/
theorem Receives.index_eq {receiver : TCPReceiver} {isn : WrappingInt32} {source : List UInt8}
    {closed : Bool} {sent next q : Nat} {segment : TCPSegment}
    (receives : receiver.Receives isn source closed sent next)
    (isSet : receiver.isSet = true) (low : next < 2 ^ 31)
    (sound : SoundAt isn source closed next segment q) : receiver.index segment = q := by
  have := sound.within
  have := receives.checkpoint_le
  unfold index
  rw [receives.isn_eq isSet, sound.seqno]
  exact unwrap_wrap_of_low isn (by omega) (by omega)

/-- The stream index of a sound segment is one less, for the SYN. -/
theorem Receives.streamIndex_eq {receiver : TCPReceiver} {isn : WrappingInt32}
    {source : List UInt8} {closed : Bool} {sent next q : Nat} {segment : TCPSegment}
    (receives : receiver.Receives isn source closed sent next)
    (isSet : receiver.isSet = true) (low : next < 2 ^ 31)
    (sound : SoundAt isn source closed next segment q) :
    receiver.streamIndex segment = q - 1 := by
  have within := sound.within
  unfold streamIndex
  rw [receives.index_eq isSet low sound]
  cases syn : segment.header.syn with
  | true =>
      rw [(sound.syn syn).1]
      rfl
  | false =>
      rw [if_neg Bool.false_ne_true]
      have above := (sound.data syn).1
      exact sub64_of_le above (by omega)

theorem Receives.pushEmpty {receiver : TCPReceiver} {isn : WrappingInt32} {source : List UInt8}
    {closed : Bool} {sent next : Nat} {segment : TCPSegment}
    (receives : receiver.Receives isn source closed sent next) (spoken : 1 + sent ≤ next)
    (empty : segment.lengthInSequenceSpace = 0) :
    (receiver.pushSegment segment).Receives isn source closed sent next := by
  have none : segment.payload = [] := by
    apply List.eq_nil_of_length_eq_zero
    have := segment.payload_length_le
    omega
  have bound := receiver.streamIndex_lt segment
  have checkpoint := receives.checkpoint_le
  apply receives.pushSegment spoken
  · rw [none]
    exact isPiece_nil _ _
  · rw [none, List.length_nil]
    exact bound
  · intro nonempty
    exact absurd none nonempty
  · intro here
    rw [empty]
    omega
  · intro fin
    have := segment.length_pos_of_fin fin
    omega

theorem Receives.pushSound {receiver : TCPReceiver} {isn : WrappingInt32} {source : List UInt8}
    {closed : Bool} {sent next q : Nat} {segment : TCPSegment}
    (receives : receiver.Receives isn source closed sent next) (spoken : 1 + sent ≤ next)
    (isSet : receiver.isSet = true) (low : next < 2 ^ 31)
    (sound : SoundAt isn source closed next segment q)
    (payload_sent : segment.payload ≠ [] -> q - 1 + segment.payload.length ≤ sent) :
    (receiver.pushSegment segment).Receives isn source closed sent next := by
  have index := receives.index_eq isSet low sound
  have within := sound.within
  have length := segment.payload_length_le
  have stream := receives.streamIndex_eq isSet low sound
  have piece : IsPiece source segment.payload (q - 1) := by
    cases syn : segment.header.syn with
    | true =>
        rw [(sound.syn syn).2.1]
        exact isPiece_nil _ _
    | false => exact (sound.data syn).2
  apply receives.pushSegment spoken
  · rw [stream]
    exact piece
  · rw [stream]
    omega
  · rw [stream]
    exact payload_sent
  · intro _
    rw [index]
    exact within
  · intro fin
    rcases sound.fin fin with ⟨ended, last⟩
    refine ⟨ended, ?_⟩
    have := segment.length_pos_of_fin fin
    have := sound.pos_of_fin fin
    omega

/-- The SYN of the sender tells its initial sequence number. -/
theorem Receives.noteSyn {receiver : TCPReceiver} {isn : WrappingInt32} {source : List UInt8}
    {closed : Bool} {sent next : Nat} {segment : TCPSegment}
    (receives : receiver.Receives isn source closed sent next)
    (known : FromSender isn source closed sent next segment) :
    (receiver.noteSyn segment).Receives isn source closed sent next := by
  unfold TCPReceiver.noteSyn
  split
  · rename_i syn
    refine ⟨?_, receives.wf, receives.carries, receives.stored_lt, Nat.zero_le _,
      receives.ended_le⟩
    intro _
    rcases known with empty | ⟨q, sound, _⟩
    · rw [TCPSegment.syn_of_length_zero empty] at syn
      cases syn
    · change segment.header.seqno = isn
      rw [sound.seqno, (sound.syn syn).1, wrap_zero]
  · exact receives

/-- Any segment of the sender may be handed over. -/
theorem Receives.segmentReceived {receiver : TCPReceiver} {isn : WrappingInt32}
    {source : List UInt8} {closed : Bool} {sent next : Nat} {segment : TCPSegment}
    (receives : receiver.Receives isn source closed sent next) (spoken : 1 + sent ≤ next)
    (low : next < 2 ^ 31) (known : FromSender isn source closed sent next segment) :
    (receiver.segmentReceived segment).Receives isn source closed sent next := by
  have noted := receives.noteSyn known
  unfold TCPReceiver.segmentReceived
  dsimp only
  split
  · rename_i isSet
    rcases known with empty | ⟨q, sound, payload_sent⟩
    · exact noted.pushEmpty spoken empty
    · exact noted.pushSound spoken isSet low sound payload_sent
  · exact noted

end TCPReceiver
end Tcp
end Sponge
