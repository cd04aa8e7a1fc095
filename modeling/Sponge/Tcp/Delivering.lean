import Sponge.Tcp.Receiving

namespace Sponge
namespace Tcp

open Foundation Bytes

/-!
# What a receiver acknowledges

The checkpoint moves on by the length of an in-order segment, whether or not
the reassembler has stored the whole payload.  It moves past the FIN when the
reassembler has nothing left to assemble, whether or not the high-water mark
has reached the end of the stream.  As long as no segment brings either of
these about with bytes missing, the receiver acknowledges only what it has
assembled.
-/

namespace TCPReceiver

/-- Everything before an absolute number has been assembled. -/
def Covers (receiver : TCPReceiver) (number : Nat) : Prop :=
  number ≤ 1 + receiver.reassembler.firstUnassembled ∨ receiver.streamOut.endFlag = true

/-! ## Segments that are not taken whole -/

/-- The payload is in order and reaches beyond the window's edge. -/
def Spills (receiver : TCPReceiver) (segment : TCPSegment) : Prop :=
  receiver.index segment = receiver.checkpoint ∧ segment.payload ≠ [] ∧
    receiver.reassembler.edge < receiver.streamIndex segment + segment.payload.length

/-- The high-water mark that a segment leads to. -/
def offered (receiver : TCPReceiver) (segment : TCPSegment) : Nat :=
  max receiver.reassembler.firstUnacceptable
    (StreamReassembler.offeredEnd receiver.reassembler.edge (receiver.streamIndex segment)
      segment.payload.length)

/-- The stream has been announced to end, the segment leaves no gap below the
high-water mark, and that mark is not the end of the stream. -/
def EndsShort (receiver : TCPReceiver) (segment : TCPSegment) (total : Nat) : Prop :=
  (receiver.ended || segment.header.fin) = true ∧ receiver.offered segment < total ∧
    forall k, k < receiver.offered segment -> receiver.reassembler.Stores k ∨
      (receiver.streamIndex segment ≤ k ∧
        k < receiver.streamIndex segment + segment.payload.length ∧
        k < receiver.reassembler.edge)

instance (receiver : TCPReceiver) (segment : TCPSegment) : Decidable (receiver.Spills segment) :=
  inferInstanceAs (Decidable (_ ∧ _ ∧ _))

instance (receiver : TCPReceiver) (segment : TCPSegment) (total : Nat) :
    Decidable (receiver.EndsShort segment total) :=
  inferInstanceAs (Decidable (_ ∧ _ ∧ _))

/-- While the inbound stream is open, the segment neither spills over the
window's edge nor ends the stream short of the given length. -/
def TakesWhole (receiver : TCPReceiver) (segment : TCPSegment) (total : Nat) : Prop :=
  (receiver.noteSyn segment).isSet = true -> receiver.streamOut.endFlag = false ->
    ¬ (receiver.noteSyn segment).Spills segment ∧
      ¬ (receiver.noteSyn segment).EndsShort segment total

instance (receiver : TCPReceiver) (segment : TCPSegment) (total : Nat) :
    Decidable (receiver.TakesWhole segment total) :=
  inferInstanceAs (Decidable (_ -> _ -> _))

/-! ## Receivers that acknowledge only what they have -/

/-- The reassembler's part: it was offered no more than what was sent, and it
has ended its output only with the whole source in it. -/
structure Tracks (receiver : TCPReceiver) (source : List UInt8) (sent : Nat) : Prop where
  ended_eq : receiver.ended = receiver.reassembler.eofed
  stored_lt : forall k, receiver.reassembler.Stores k -> k < receiver.reassembler.firstUnacceptable
  offered_le : receiver.reassembler.firstUnacceptable ≤ sent
  complete : receiver.streamOut.endFlag = true ->
    receiver.ended = true ∧ receiver.streamOut.bytesWritten = source.length

structure Delivers (receiver : TCPReceiver) (source : List UInt8) (sent : Nat) : Prop extends
    receiver.Tracks source sent where
  positive : receiver.isSet = true -> 1 ≤ receiver.checkpoint
  covered : receiver.isSet = true -> receiver.Covers receiver.checkpoint

theorem new_delivers (capacity : Capacity) (source : List UInt8) (sent : Nat) :
    (new capacity).Delivers source sent where
  ended_eq := rfl
  stored_lt := fun k held => absurd held (StreamReassembler.new_stores capacity k)
  offered_le := Nat.zero_le _
  complete := fun ended => nomatch ended
  positive := fun isSet => nomatch isSet
  covered := fun isSet => nomatch isSet

theorem Delivers.grow {receiver : TCPReceiver} {source more : List UInt8} {sent sent' : Nat}
    (delivers : receiver.Delivers source sent) (stays : receiver.ended = true -> more = [])
    (sent_le : sent ≤ sent') : receiver.Delivers (source ++ more) sent' where
  ended_eq := delivers.ended_eq
  stored_lt := delivers.stored_lt
  offered_le := Nat.le_trans delivers.offered_le sent_le
  complete := by
    intro flag
    rcases delivers.complete flag with ⟨ended, whole⟩
    rw [stays ended, List.append_nil]
    exact ⟨ended, whole⟩
  positive := delivers.positive
  covered := delivers.covered

theorem Delivers.later {receiver : TCPReceiver} {source : List UInt8} {sent sent' : Nat}
    (delivers : receiver.Delivers source sent) (sent_le : sent ≤ sent') :
    receiver.Delivers source sent' := by
  have grown := delivers.grow (fun _ => rfl) sent_le
  rwa [List.append_nil] at grown

theorem Delivers.popOutput {receiver : TCPReceiver} {source : List UInt8} {sent : Nat}
    (delivers : receiver.Delivers source sent) (length : Nat) :
    (receiver.popOutput length).Delivers source sent :=
  ⟨⟨delivers.ended_eq, delivers.stored_lt, delivers.offered_le, delivers.complete⟩,
    delivers.positive, delivers.covered⟩

theorem Delivers.setError {receiver : TCPReceiver} {source : List UInt8} {sent : Nat}
    (delivers : receiver.Delivers source sent) : receiver.setError.Delivers source sent :=
  ⟨⟨delivers.ended_eq, delivers.stored_lt, delivers.offered_le, delivers.complete⟩,
    delivers.positive, delivers.covered⟩

theorem Tracks.firstUnassembled_le {receiver : TCPReceiver} {source : List UInt8} {sent : Nat}
    (tracks : receiver.Tracks source sent) (wf : receiver.reassembler.Wf) :
    receiver.reassembler.firstUnassembled ≤ receiver.reassembler.firstUnacceptable := by
  by_contra beyond
  have := tracks.stored_lt _
    (wf.assembled receiver.reassembler.firstUnacceptable (Nat.lt_of_not_le beyond))
  exact Nat.lt_irrefl _ this

/-! ## Taking a segment -/

section

variable {receiver : TCPReceiver} {source : List UInt8} {sent : Nat} {segment : TCPSegment}

theorem pushSegment_wf (wf : receiver.reassembler.Wf) (segment : TCPSegment) :
    (receiver.pushSegment segment).reassembler.Wf :=
  wf.pushSubstring segment.payload (receiver.streamIndex segment) segment.header.fin

theorem pushSegment_eofed (wf : receiver.reassembler.Wf) (segment : TCPSegment) :
    (receiver.pushSegment segment).reassembler.eofed =
      (receiver.reassembler.eofed || segment.header.fin) :=
  (StreamReassembler.pushSubstring_output_frame wf _ _ _).2.2.2

theorem pushSegment_endFlag (wf : receiver.reassembler.Wf) (segment : TCPSegment) :
    (receiver.pushSegment segment).streamOut.endFlag =
      (receiver.streamOut.endFlag || ((receiver.reassembler.eofed || segment.header.fin) &&
        (receiver.pushSegment segment).reassembler.firstUnacceptable ==
          (receiver.pushSegment segment).reassembler.firstUnassembled)) :=
  wf.pushSubstring_endFlag segment.payload (receiver.streamIndex segment) segment.header.fin

theorem Covers.pushSegment {number : Nat} (covers : receiver.Covers number)
    (wf : receiver.reassembler.Wf) (segment : TCPSegment) :
    (receiver.pushSegment segment).Covers number := by
  rcases covers with reached | flag
  · left
    exact Nat.le_trans reached
      (Nat.add_le_add_left (wf.pushSubstring_firstUnassembled_ge _ _ _) 1)
  · right
    exact (pushSegment_endFlag wf segment).trans (Bool.or_eq_true_iff.mpr (Or.inl flag))

theorem Covers.segmentReceived {number : Nat} (covers : receiver.Covers number)
    (wf : receiver.reassembler.Wf) (segment : TCPSegment) :
    (receiver.segmentReceived segment).Covers number := by
  unfold TCPReceiver.segmentReceived
  dsimp only
  have same := receiver.noteSyn_reassembler segment
  have noted : (receiver.noteSyn segment).Covers number := by
    unfold Covers streamOut
    rw [same]
    exact covers
  split
  · exact noted.pushSegment (same ▸ wf) segment
  · exact noted

/-- A push is offered nothing beyond what has been sent. -/
theorem Tracks.offered_le_sent (tracks : receiver.Tracks source sent)
    (payload_sent : segment.payload ≠ [] ->
      receiver.streamIndex segment + segment.payload.length ≤ sent) :
    receiver.offered segment ≤ sent := by
  apply Nat.max_le.mpr ⟨tracks.offered_le, ?_⟩
  unfold StreamReassembler.offeredEnd
  split
  · exact Nat.zero_le _
  · rename_i nonempty
    exact Nat.le_trans (Nat.min_le_left _ _)
      (payload_sent (List.ne_nil_of_length_pos (Nat.pos_of_ne_zero nonempty)))

/-- If a push ends the output, then with everything of the source written. -/
theorem Tracks.pushSegment_complete (tracks : receiver.Tracks source sent)
    (wf : receiver.reassembler.Wf)
    (noWrap : receiver.streamIndex segment + segment.payload.length < 2 ^ 64)
    (offered_le : receiver.offered segment ≤ source.length)
    (opened : receiver.streamOut.endFlag = false)
    (whole : ¬ receiver.EndsShort segment source.length)
    (flag : (receiver.pushSegment segment).streamOut.endFlag = true) :
    (receiver.pushSegment segment).ended = true ∧
      (receiver.pushSegment segment).streamOut.bytesWritten = source.length := by
  rw [pushSegment_endFlag wf segment, opened, Bool.false_or] at flag
  rcases Bool.and_eq_true_iff.mp flag with ⟨announced, met⟩
  have ended : (receiver.ended || segment.header.fin) = true := by
    rw [tracks.ended_eq]
    exact announced
  have meets : receiver.offered segment =
      (receiver.pushSegment segment).reassembler.firstUnassembled :=
    (wf.pushSubstring_firstUnacceptable segment.payload segment.header.fin noWrap).symm.trans
      (beq_iff_eq.mp met)
  have written : (receiver.pushSegment segment).streamOut.bytesWritten =
      (receiver.pushSegment segment).reassembler.firstUnassembled :=
    wf.pushSubstring_written_of_open _ _ _ opened
  refine ⟨ended, ?_⟩
  rw [written, ← meets]
  apply Nat.le_antisymm offered_le
  by_contra short
  refine whole ⟨ended, Nat.lt_of_not_le short, ?_⟩
  intro k below
  rw [meets] at below
  exact (wf.pushSubstring_stores segment.payload segment.header.fin noWrap k).mp
    ((pushSegment_wf wf segment).assembled k below)

/-- What a push stores, up to where it is offered, and when it ends the output. -/
theorem Tracks.pushSegment (tracks : receiver.Tracks source sent)
    (wf : receiver.reassembler.Wf) (sent_le : sent ≤ source.length)
    (noWrap : receiver.streamIndex segment + segment.payload.length < 2 ^ 64)
    (payload_sent : segment.payload ≠ [] ->
      receiver.streamIndex segment + segment.payload.length ≤ sent)
    (whole : receiver.streamOut.endFlag = false -> ¬ receiver.EndsShort segment source.length) :
    (receiver.pushSegment segment).Tracks source sent := by
  have raised : (receiver.pushSegment segment).reassembler.firstUnacceptable =
      receiver.offered segment :=
    wf.pushSubstring_firstUnacceptable segment.payload segment.header.fin noWrap
  have offered_le := tracks.offered_le_sent payload_sent
  refine ⟨?_, ?_, ?_, ?_⟩
  · rw [pushSegment_eofed wf segment, ← tracks.ended_eq]
    rfl
  · intro k held
    rw [raised]
    rcases (wf.pushSubstring_stores segment.payload segment.header.fin noWrap k).mp held with
      old | ⟨above, below, inside⟩
    · exact Nat.lt_of_lt_of_le (tracks.stored_lt k old) (Nat.le_max_left _ _)
    · apply Nat.lt_of_lt_of_le _ (Nat.le_max_right _ _)
      unfold StreamReassembler.offeredEnd
      rw [if_neg (by omega)]
      omega
  · rw [raised]
    exact offered_le
  · intro flag
    cases opened : receiver.streamOut.endFlag with
    | true =>
        rcases tracks.complete opened with ⟨ended, all⟩
        refine ⟨?_, ?_⟩
        · change (receiver.ended || segment.header.fin) = true
          rw [ended, Bool.true_or]
        · exact (wf.pushSubstring_written_of_ended _ _ _ opened).trans all
    | false =>
        exact tracks.pushSegment_complete wf noWrap (Nat.le_trans offered_le sent_le) opened
          (whole opened) flag

/-- Once nothing is left to assemble after an announced end, the output has
ended. -/
theorem Tracks.endFlag_of_met (tracks : (receiver.pushSegment segment).Tracks source sent)
    (wf : receiver.reassembler.Wf)
    (ended : (receiver.pushSegment segment).ended = true)
    (met : (receiver.pushSegment segment).reassembler.firstUnacceptable ≤
      (receiver.pushSegment segment).reassembler.firstUnassembled) :
    (receiver.pushSegment segment).streamOut.endFlag = true := by
  have equal := Nat.le_antisymm met (tracks.firstUnassembled_le (pushSegment_wf wf segment))
  have announced : (receiver.reassembler.eofed || segment.header.fin) = true :=
    (pushSegment_eofed wf segment).symm.trans (tracks.ended_eq.symm.trans ended)
  rw [pushSegment_endFlag wf segment, announced, equal, beq_self_eq_true, Bool.and_true,
    Bool.or_true]

theorem advanced_pos (pushed : StreamReassembler) (ended : Bool) (reached : Nat) :
    1 ≤ advanced pushed ended reached := by
  unfold advanced
  split
  · split
    · omega
    · omega
  · omega

/-- The checkpoint after an in-order segment is covered if the segment's own
end is. -/
theorem Tracks.advanced_covered (tracks : (receiver.pushSegment segment).Tracks source sent)
    (wf : receiver.reassembler.Wf) (low : sent < 2 ^ 64) {reached : Nat}
    (reach : (receiver.pushSegment segment).Covers reached) :
    (receiver.pushSegment segment).Covers
      (advanced (receiver.pushSegment segment).reassembler
        (receiver.pushSegment segment).ended reached) := by
  have cursor := tracks.firstUnassembled_le (pushSegment_wf wf segment)
  have offered := tracks.offered_le
  unfold advanced
  split
  · split
    · rename_i both
      rcases Bool.and_eq_true_iff.mp both with ⟨ended, none⟩
      right
      apply tracks.endFlag_of_met wf ended
      have distance : sub64 _ _ = 0 := beq_iff_eq.mp none
      rw [sub64_of_le cursor (by omega)] at distance
      omega
    · left
      exact Nat.le_of_eq (Nat.add_comm _ _)
  · exact reach

theorem Delivers.ofPush (tracks : (receiver.pushSegment segment).Tracks source sent)
    (wf : receiver.reassembler.Wf) (low : sent < 2 ^ 64)
    (covered : receiver.Covers receiver.checkpoint)
    (started : receiver.index segment = receiver.checkpoint ∨ 1 ≤ receiver.checkpoint)
    (reach : receiver.index segment = 0 ∨ receiver.index segment = receiver.checkpoint ->
      (receiver.pushSegment segment).Covers
        (receiver.index segment + segment.lengthInSequenceSpace)) :
    (receiver.pushSegment segment).Delivers source sent := by
  have checkpoint : (receiver.pushSegment segment).checkpoint =
      if receiver.index segment = 0 ∨ receiver.index segment = receiver.checkpoint then
        advanced (receiver.pushSegment segment).reassembler (receiver.pushSegment segment).ended
          (receiver.index segment + segment.lengthInSequenceSpace)
      else receiver.checkpoint := rfl
  refine ⟨tracks, ?_, ?_⟩
  · intro _
    rw [checkpoint]
    split
    · exact advanced_pos _ _ _
    · rename_i elsewhere
      rcases started with here | already
      · exact absurd (Or.inr here) elsewhere
      · exact already
  · intro _
    rw [checkpoint]
    split
    · rename_i here
      exact tracks.advanced_covered wf low (reach here)
    · exact covered.pushSegment wf segment

/-- A payload that starts at or before the cursor and fits is assembled. -/
theorem pushSegment_assembles (wf : receiver.reassembler.Wf)
    (noWrap : receiver.streamIndex segment + segment.payload.length < 2 ^ 64)
    (inOrder : receiver.streamIndex segment ≤ receiver.reassembler.firstUnassembled)
    (fits : segment.payload ≠ [] ->
      receiver.streamIndex segment + segment.payload.length ≤ receiver.reassembler.edge) :
    receiver.streamIndex segment + segment.payload.length ≤
      (receiver.pushSegment segment).reassembler.firstUnassembled := by
  have onward : receiver.reassembler.firstUnassembled ≤
      (receiver.pushSegment segment).reassembler.firstUnassembled :=
    wf.pushSubstring_firstUnassembled_ge _ _ _
  by_contra short
  have nonempty : segment.payload ≠ [] := by
    intro none
    rw [none, List.length_nil] at short
    omega
  have inside := fits nonempty
  have missing : receiver.streamIndex segment ≤
        (receiver.pushSegment segment).reassembler.firstUnassembled ∧
      (receiver.pushSegment segment).reassembler.firstUnassembled <
        receiver.streamIndex segment + segment.payload.length ∧
      (receiver.pushSegment segment).reassembler.firstUnassembled <
        receiver.reassembler.edge := by omega
  exact (pushSegment_wf wf segment).pending
    ((wf.pushSubstring_stores segment.payload segment.header.fin noWrap _).mpr (Or.inr missing))

/-- The end of a sound segment at the checkpoint is covered once it has been
pushed. -/
theorem Tracks.sound_covered {isn : WrappingInt32} {closed : Bool} {next q : Nat}
    (tracks : (receiver.pushSegment segment).Tracks source sent)
    (wf : receiver.reassembler.Wf) (sent_le : sent ≤ source.length)
    (stream : receiver.streamIndex segment = q - 1)
    (noWrap : receiver.streamIndex segment + segment.payload.length < 2 ^ 64)
    (sound : SoundAt isn source closed next segment q)
    (here : q = 0 ∨ q = receiver.checkpoint) (covered : receiver.Covers receiver.checkpoint)
    (fits : receiver.streamOut.endFlag = false -> q = receiver.checkpoint ->
      segment.payload ≠ [] ->
      receiver.streamIndex segment + segment.payload.length ≤ receiver.reassembler.edge) :
    (receiver.pushSegment segment).Covers (q + segment.lengthInSequenceSpace) := by
  cases opened : receiver.streamOut.endFlag with
  | true =>
      have ended : receiver.Covers (q + segment.lengthInSequenceSpace) := Or.inr opened
      exact ended.pushSegment wf segment
  | false =>
      unfold TCPSegment.lengthInSequenceSpace
      cases syn : segment.header.syn with
      | true =>
          rcases sound.syn syn with ⟨zero, none, noFin⟩
          left
          rw [zero, none, noFin]
          exact Nat.le_add_right 1 _
      | false =>
          have above := (sound.data syn).1
          have atCheckpoint : q = receiver.checkpoint := by omega
          have inOrder : receiver.streamIndex segment ≤
              receiver.reassembler.firstUnassembled := by
            rcases covered with reached | flag
            · omega
            · rw [opened] at flag
              cases flag
          have assembled := pushSegment_assembles wf noWrap inOrder (fits opened atCheckpoint)
          cases fin : segment.header.fin with
          | true =>
              right
              apply tracks.endFlag_of_met wf
              · change (receiver.ended || segment.header.fin) = true
                rw [fin, Bool.or_true]
              · have last := (sound.fin fin).2
                have offered := tracks.offered_le
                omega
          | false =>
              left
              simp only [Bool.false_eq_true, if_false]
              omega

theorem Delivers.pushEmpty (tracks : receiver.Tracks source sent)
    (wf : receiver.reassembler.Wf) (low : sent < 2 ^ 64) (sent_le : sent ≤ source.length)
    (empty : segment.lengthInSequenceSpace = 0)
    (covered : receiver.Covers receiver.checkpoint)
    (started : receiver.index segment = receiver.checkpoint ∨ 1 ≤ receiver.checkpoint)
    (whole : receiver.streamOut.endFlag = false -> ¬ receiver.EndsShort segment source.length) :
    (receiver.pushSegment segment).Delivers source sent := by
  have none : segment.payload = [] := by
    apply List.eq_nil_of_length_eq_zero
    have := segment.payload_length_le
    omega
  have bound := receiver.streamIndex_lt segment
  have pushed : (receiver.pushSegment segment).Tracks source sent := by
    apply tracks.pushSegment wf sent_le _ _ whole
    · rw [none, List.length_nil]
      exact bound
    · intro nonempty
      exact absurd none nonempty
  apply Delivers.ofPush pushed wf low covered started
  intro here
  rw [empty, Nat.add_zero]
  rcases here with zero | atCheckpoint
  · left
    rw [zero]
    exact Nat.zero_le _
  · rw [atCheckpoint]
    exact covered.pushSegment wf segment

theorem Tracks.noteSyn (tracks : receiver.Tracks source sent) (segment : TCPSegment) :
    (receiver.noteSyn segment).Tracks source sent := by
  unfold TCPReceiver.noteSyn
  split
  · exact ⟨tracks.ended_eq, tracks.stored_lt, tracks.offered_le, tracks.complete⟩
  · exact tracks

/-- A SYN takes the checkpoint back to zero, where nothing needs to be covered. -/
theorem Delivers.noteSyn_covered (delivers : receiver.Delivers source sent)
    (isSet : (receiver.noteSyn segment).isSet = true) :
    (receiver.noteSyn segment).Covers (receiver.noteSyn segment).checkpoint := by
  unfold noteSyn at isSet ⊢
  split
  · exact Or.inl (Nat.zero_le _)
  · rename_i noSyn
    rw [if_neg noSyn] at isSet
    exact delivers.covered isSet

theorem Delivers.noteSyn_positive (delivers : receiver.Delivers source sent)
    (isSet : (receiver.noteSyn segment).isSet = true) (noSyn : segment.header.syn = false) :
    1 ≤ (receiver.noteSyn segment).checkpoint := by
  unfold noteSyn at isSet ⊢
  rw [noSyn, if_neg Bool.false_ne_true] at isSet ⊢
  exact delivers.positive isSet

/-- Any segment of the sender may be handed over, if it is taken whole. -/
theorem Delivers.segmentReceived {isn : WrappingInt32} {closed : Bool} {next : Nat}
    (delivers : receiver.Delivers source sent)
    (receives : receiver.Receives isn source closed sent next) (spoken : 1 + sent ≤ next)
    (sent_le : sent ≤ source.length) (low : next < 2 ^ 31)
    (known : FromSender isn source closed sent next segment)
    (whole : receiver.TakesWhole segment source.length) :
    (receiver.segmentReceived segment).Delivers source sent := by
  have noted := receives.noteSyn known
  have tracks := delivers.toTracks.noteSyn segment
  have same : (receiver.noteSyn segment).streamOut = receiver.streamOut :=
    congrArg StreamReassembler.output (receiver.noteSyn_reassembler segment)
  unfold TCPReceiver.segmentReceived
  dsimp only
  split
  · rename_i isSet
    have taken := whole isSet
    rw [← same] at taken
    have covered := delivers.noteSyn_covered isSet
    have already := delivers.noteSyn_positive isSet
    rcases known with empty | ⟨q, sound, payload_sent⟩
    · exact Delivers.pushEmpty tracks noted.wf (by omega) sent_le empty covered
        (Or.inr (already (TCPSegment.syn_of_length_zero empty))) (fun opened => (taken opened).2)
    · have index := noted.index_eq isSet low sound
      have stream := noted.streamIndex_eq isSet low sound
      have within := sound.within
      have length := segment.payload_length_le
      have noWrap : (receiver.noteSyn segment).streamIndex segment + segment.payload.length <
          2 ^ 64 := by omega
      have pushed : ((receiver.noteSyn segment).pushSegment segment).Tracks source sent :=
        tracks.pushSegment noted.wf sent_le noWrap (stream ▸ payload_sent)
          (fun opened => (taken opened).2)
      refine Delivers.ofPush pushed noted.wf (by omega) covered ?_ ?_
      · cases syn : segment.header.syn with
        | true =>
            left
            rw [index, (sound.syn syn).1]
            unfold noteSyn
            rw [if_pos syn]
        | false => exact Or.inr (already syn)
      · rw [index]
        intro here
        apply pushed.sound_covered noted.wf sent_le stream noWrap sound here covered
        intro opened atCheckpoint nonempty
        by_contra beyond
        exact (taken opened).1 ⟨index.trans atCheckpoint, nonempty, Nat.lt_of_not_le beyond⟩
  · rename_i unset
    exact ⟨tracks, fun isSet => absurd isSet unset, fun isSet => absurd isSet unset⟩

end

end TCPReceiver
end Tcp
end Sponge
