import Sponge.Bytes.Carrying
import Sponge.Tcp.RetransmissionQueue

namespace Sponge
namespace Tcp

open Foundation Bytes

/-!
# The sender transmits the bytes written to it

Every segment that occupies sequence numbers is either the SYN at number zero
or carries the written bytes from its own number on, shifted by one for the
SYN.  A sender that was put into the error state before it sent a SYN never
sends one; what it still emits then has no number a peer could know.
-/

/-- The segment's contents are what belongs at the absolute number `q`. -/
structure SoundAt (isn : WrappingInt32) (written : List UInt8) (ended : Bool) (next : Nat)
    (segment : TCPSegment) (q : Nat) : Prop where
  seqno : segment.header.seqno = wrap q isn
  within : q + segment.lengthInSequenceSpace ≤ next
  syn : segment.header.syn = true -> q = 0 ∧ segment.payload = [] ∧ segment.header.fin = false
  data : segment.header.syn = false -> 1 ≤ q ∧ IsPiece written segment.payload (q - 1)
  fin : segment.header.fin = true ->
    ended = true ∧ written.length ≤ q - 1 + segment.payload.length

theorem SoundAt.grow {isn : WrappingInt32} {written more : List UInt8} {ended ended' : Bool}
    {next next' q : Nat} {segment : TCPSegment} (sound : SoundAt isn written ended next segment q)
    (onward : next ≤ next') (stays : ended = true -> ended' = true ∧ more = []) :
    SoundAt isn (written ++ more) ended' next' segment q where
  seqno := sound.seqno
  within := Nat.le_trans sound.within onward
  syn := sound.syn
  data := fun noSyn => ⟨(sound.data noSyn).1, (sound.data noSyn).2.grow more⟩
  fin := by
    intro fin
    have last := sound.fin fin
    rcases stays last.1 with ⟨still, none⟩
    rw [none, List.append_nil]
    exact ⟨still, last.2⟩

theorem SoundAt.later {isn : WrappingInt32} {written : List UInt8} {ended : Bool}
    {next next' q : Nat} {segment : TCPSegment} (sound : SoundAt isn written ended next segment q)
    (onward : next ≤ next') : SoundAt isn written ended next' segment q :=
  ⟨sound.seqno, Nat.le_trans sound.within onward, sound.syn, sound.data, sound.fin⟩

/-- A FIN stands behind the SYN, never on it. -/
theorem SoundAt.pos_of_fin {isn : WrappingInt32} {written : List UInt8} {ended : Bool}
    {next q : Nat} {segment : TCPSegment} (sound : SoundAt isn written ended next segment q)
    (fin : segment.header.fin = true) : 1 ≤ q := by
  cases syn : segment.header.syn with
  | true =>
      rw [(sound.syn syn).2.2] at fin
      cases fin
  | false => exact (sound.data syn).1

/-- Two segments with the same contents, possibly with different
acknowledgment fields. -/
structure TCPSegment.SameContent (segment other : TCPSegment) : Prop where
  seqno : segment.header.seqno = other.header.seqno
  syn : segment.header.syn = other.header.syn
  fin : segment.header.fin = other.header.fin
  payload : segment.payload = other.payload

theorem TCPSegment.SameContent.refl (segment : TCPSegment) : segment.SameContent segment :=
  ⟨rfl, rfl, rfl, rfl⟩

theorem TCPSegment.SameContent.length_eq {segment other : TCPSegment}
    (same : segment.SameContent other) :
    segment.lengthInSequenceSpace = other.lengthInSequenceSpace := by
  unfold TCPSegment.lengthInSequenceSpace
  rw [same.payload, same.syn, same.fin]

theorem SoundAt.congr {isn : WrappingInt32} {written : List UInt8} {ended : Bool} {next q : Nat}
    {segment other : TCPSegment} (sound : SoundAt isn written ended next other q)
    (same : segment.SameContent other) : SoundAt isn written ended next segment q := by
  rcases same with ⟨seqno, syn, fin, payload⟩
  have length := TCPSegment.SameContent.length_eq ⟨seqno, syn, fin, payload⟩
  constructor
  · rw [seqno]
    exact sound.seqno
  · rw [length]
    exact sound.within
  · rw [syn, payload, fin]
    exact sound.syn
  · rw [syn, payload]
    exact sound.data
  · rw [fin, payload]
    exact sound.fin

namespace TCPSender

/-- No SYN has been sent.  Unless the sender is in the error state, it has
used no sequence number at all. -/
structure Silent (sender : TCPSender) (emitted : List TCPSegment) : Prop where
  noSyn : forall segment, segment ∈ sender.window.outstanding ++ emitted ->
    segment.header.syn = false
  idle : sender.stream.error = false ->
    sender.window.nextSeqno = 0 ∧ sender.stream.bytesRead = 0 ∧
      forall segment, segment ∈ sender.window.outstanding ++ emitted ->
        segment.lengthInSequenceSpace = 0

/-- The SYN has been sent, and everything sent is sound. -/
structure Speaking (sender : TCPSender) (written : List UInt8) (emitted : List TCPSegment) :
    Prop where
  read_lt : 1 + sender.stream.bytesRead ≤ sender.window.nextSeqno
  reached : sender.window.nextSeqno = 1 + sender.stream.bytesRead ∨ sender.stream.eof = true
  sound : forall segment, segment ∈ sender.window.outstanding ++ emitted ->
    segment.lengthInSequenceSpace ≠ 0 ->
      Exists fun q => SoundAt sender.window.isn written sender.stream.endFlag
        sender.window.nextSeqno segment q

/-- The sender's stream follows what was written, and what it has emitted
is faithful to it. -/
structure Fidelity (sender : TCPSender) (written : List UInt8) (emitted : List TCPSegment) :
    Prop where
  follows : sender.stream.Follows written
  whole : sender.stream.bytesWritten = written.length
  voice : sender.Silent emitted ∨ sender.Speaking written emitted

theorem new_fidelity (capacity : Capacity) (retxTimeout : UInt16) (isn : WrappingInt32) :
    (new capacity retxTimeout isn).Fidelity [] [] where
  follows := ByteStream.new_follows capacity []
  whole := rfl
  voice := by
    left
    constructor
    · intro segment member
      cases member
    · intro _
      refine ⟨rfl, rfl, ?_⟩
      intro segment member
      cases member

/-! ## Sending -/

theorem synSegment_soundAt (sender : TCPSender) (written : List UInt8)
    (unused : sender.window.nextSeqno = 0) :
    SoundAt sender.window.isn written sender.stream.endFlag 1 sender.synSegment 0 where
  seqno := by
    unfold synSegment nextSeqno
    rw [unused]
  within := Nat.le_refl 1
  syn := fun _ => ⟨rfl, rfl, rfl⟩
  data := fun noSyn => nomatch noSyn
  fin := fun fin => nomatch fin

/-- The next payload is the source from the number of bytes read on. -/
theorem dataSegment_isPiece {sender : TCPSender} {written : List UInt8}
    (follows : sender.stream.Follows written) :
    IsPiece written sender.dataSegment.payload sender.stream.bytesRead := by
  have piece := isPiece_extract written sender.stream.bytesRead
    (sender.stream.bytesRead + sender.payloadSize)
  have small : sender.payloadSize ≤ sender.stream.bufferSize := by
    unfold payloadSize
    omega
  rw [dataSegment_payload, follows.contents_eq, List.take_take, min_eq_left small]
  rwa [Nat.add_sub_cancel_left] at piece

theorem Speaking.dataSegment_soundAt {sender : TCPSender} {written : List UInt8}
    {emitted : List TCPSegment} (speaking : sender.Speaking written emitted)
    (follows : sender.stream.Follows written)
    (whole : sender.stream.bytesWritten = written.length) :
    SoundAt sender.window.isn written sender.stream.endFlag
      (sender.window.nextSeqno + sender.dataSegment.lengthInSequenceSpace)
      sender.dataSegment sender.window.nextSeqno where
  seqno := rfl
  within := Nat.le_refl _
  syn := fun syn => nomatch syn
  data := by
    intro _
    have started := speaking.read_lt
    refine ⟨by omega, ?_⟩
    rcases speaking.reached with reached | eof
    · have place : sender.window.nextSeqno - 1 = sender.stream.bytesRead := by omega
      rw [place]
      exact dataSegment_isPiece follows
    · have empty : sender.dataSegment.payload = [] := by
        apply List.eq_nil_of_length_eq_zero
        have none := ((sender.stream.eof_iff).mp eof).2
        rw [dataSegment_payload_length]
        unfold payloadSize
        omega
      rw [empty]
      exact isPiece_nil _ _
  fin := by
    intro fin
    have eof := dataSegment_fin_eof fin
    have ended : sender.stream.endFlag = true := ((ByteStream.eof_iff _).mp eof).1
    have all : sender.popPayload.stream.bytesRead = sender.stream.bytesWritten :=
      bytesRead_of_eof eof
    rw [popPayload_bytesRead] at all
    have started := speaking.read_lt
    exact ⟨ended, by omega⟩

/-- A sound payload consists of bytes that have been read. -/
theorem Speaking.payload_sent {sender : TCPSender} {written : List UInt8}
    {emitted : List TCPSegment} (speaking : sender.Speaking written emitted)
    (whole : sender.stream.bytesWritten = written.length) {segment : TCPSegment} {q : Nat}
    (sound : SoundAt sender.window.isn written sender.stream.endFlag sender.window.nextSeqno
      segment q) (nonempty : segment.payload ≠ []) :
    q - 1 + segment.payload.length ≤ sender.stream.bytesRead := by
  have noSyn : segment.header.syn = false := by
    by_contra syn
    exact nonempty (sound.syn (Bool.eq_true_of_not_eq_false syn)).2.1
  rcases sound.data noSyn with ⟨above, piece⟩
  rcases speaking.reached with reached | eof
  · have := sound.within
    have := segment.payload_length_le
    omega
  · have := bytesRead_of_eof eof
    have := piece.length_le nonempty
    omega

/-- Members of the outstanding and emitted segments after one more. -/
theorem mem_afterSending (sender : TCPSender) {emitted : List TCPSegment}
    {sent segment : TCPSegment}
    (member : segment ∈ (sender.afterSending sent).window.outstanding ++ (emitted ++ [sent])) :
    segment ∈ sender.window.outstanding ++ emitted ∨ segment = sent := by
  unfold afterSending at member
  rw [TCPSendingWindow.appended_outstanding] at member
  simp only [List.mem_append, List.mem_singleton] at member ⊢
  tauto

theorem Fidelity.afterSyn {sender : TCPSender} {written : List UInt8}
    {emitted : List TCPSegment} (fidelity : sender.Fidelity written emitted)
    (closed : sender.state = .closed) :
    (sender.afterSending sender.synSegment).Fidelity written (emitted ++ [sender.synSegment]) := by
  rcases (state_closed_iff sender).mp closed with ⟨noError, unused⟩
  have silent : sender.Silent emitted := by
    rcases fidelity.voice with silent | speaking
    · exact silent
    · have := speaking.read_lt
      omega
  rcases silent.idle noError with ⟨_, unread, empty⟩
  have used : (sender.afterSending sender.synSegment).window.nextSeqno = 1 := by
    change sender.window.nextSeqno + 1 = 1
    rw [unused]
  refine ⟨fidelity.follows, fidelity.whole, Or.inr ⟨?_, Or.inl ?_, ?_⟩⟩
  · change 1 + sender.stream.bytesRead ≤ _
    omega
  · change _ = 1 + sender.stream.bytesRead
    omega
  · intro segment member nonempty
    rcases mem_afterSending sender member with old | rfl
    · exact absurd (empty segment old) nonempty
    · rw [used]
      exact ⟨0, sender.synSegment_soundAt written unused⟩

theorem Fidelity.afterData {sender : TCPSender} {written : List UInt8}
    {emitted : List TCPSegment} (fidelity : sender.Fidelity written emitted)
    (may : sender.MaySend) :
    (sender.popPayload.afterSending sender.dataSegment).Fidelity written
      (emitted ++ [sender.dataSegment]) := by
  have follows : sender.popPayload.stream.Follows written := fidelity.follows.popOutput _
  refine ⟨follows, fidelity.whole, ?_⟩
  rcases fidelity.voice with silent | speaking
  · left
    have failed : sender.stream.error = true := by
      by_contra fine
      have noError := Bool.eq_false_of_not_eq_true fine
      exact may.notClosed ((state_closed_iff sender).mpr ⟨noError, (silent.idle noError).1⟩)
    constructor
    · intro segment member
      rcases mem_afterSending sender.popPayload member with old | rfl
      · exact silent.noSyn segment old
      · rfl
    · intro noError
      change sender.stream.error = false at noError
      rw [failed] at noError
      cases noError
  · right
    have length := sender.dataSegment_length
    have read := sender.popPayload_bytesRead
    have sound := speaking.dataSegment_soundAt fidelity.follows fidelity.whole
    constructor
    · change 1 + sender.popPayload.stream.bytesRead ≤
        sender.window.nextSeqno + sender.dataSegment.lengthInSequenceSpace
      have := speaking.read_lt
      omega
    · by_cases fin : sender.dataSegment.header.fin = true
      · right
        exact dataSegment_fin_eof fin
      · rw [if_neg fin] at length
        rcases speaking.reached with reached | eof
        · left
          change sender.window.nextSeqno + sender.dataSegment.lengthInSequenceSpace =
            1 + sender.popPayload.stream.bytesRead
          omega
        · right
          apply (ByteStream.eof_iff _).mpr
          have parts := (ByteStream.eof_iff _).mp eof
          refine ⟨parts.1, ?_⟩
          change (sender.stream.popOutput sender.payloadSize).bufferSize = 0
          rw [ByteStream.popOutput_bufferSize]
          omega
    · intro segment member nonempty
      rcases mem_afterSending sender.popPayload member with old | rfl
      · rcases speaking.sound segment old nonempty with ⟨q, was⟩
        exact ⟨q, was.later (Nat.le_add_right _ _)⟩
      · exact ⟨sender.window.nextSeqno, sound⟩

theorem Fidelity.sends {sender filled : TCPSender} {written : List UInt8}
    {emitted segments : List TCPSegment} (fidelity : sender.Fidelity written emitted)
    (sends : Sends sender segments filled) : filled.Fidelity written (emitted ++ segments) := by
  induction sends generalizing emitted with
  | rest sender =>
      rw [List.append_nil]
      exact fidelity
  | syn closed room onward ih =>
      rw [List.append_cons]
      exact ih (fidelity.afterSyn closed)
  | data may onward ih =>
      rw [List.append_cons]
      exact ih (fidelity.afterData may)

/-! ## Everything else -/

/-- Nothing changes as long as every segment has the contents of an earlier
one or occupies no sequence number. -/
theorem Fidelity.carryOver {sender updated : TCPSender} {written : List UInt8}
    {emitted emitted' : List TCPSegment} (fidelity : sender.Fidelity written emitted)
    (stream_eq : updated.stream = sender.stream)
    (isn_eq : updated.window.isn = sender.window.isn)
    (nextSeqno_eq : updated.window.nextSeqno = sender.window.nextSeqno)
    (known : forall segment, segment ∈ updated.window.outstanding ++ emitted' ->
      (Exists fun other => other ∈ sender.window.outstanding ++ emitted ∧
        segment.SameContent other) ∨ segment.lengthInSequenceSpace = 0) :
    updated.Fidelity written emitted' := by
  refine ⟨stream_eq ▸ fidelity.follows, stream_eq ▸ fidelity.whole, ?_⟩
  rcases fidelity.voice with silent | speaking
  · left
    constructor
    · intro segment member
      rcases known segment member with ⟨other, was, same⟩ | empty
      · rw [same.syn]
        exact silent.noSyn other was
      · exact TCPSegment.syn_of_length_zero empty
    · rw [stream_eq, nextSeqno_eq]
      intro noError
      rcases silent.idle noError with ⟨unused, unread, blank⟩
      refine ⟨unused, unread, ?_⟩
      intro segment member
      rcases known segment member with ⟨other, was, same⟩ | empty
      · rw [same.length_eq]
        exact blank other was
      · exact empty
  · right
    refine ⟨?_, ?_, ?_⟩
    · rw [stream_eq, nextSeqno_eq]
      exact speaking.read_lt
    · rw [stream_eq, nextSeqno_eq]
      exact speaking.reached
    · rw [stream_eq, nextSeqno_eq, isn_eq]
      intro segment member nonempty
      rcases known segment member with ⟨other, was, same⟩ | empty
      · rcases speaking.sound other was (same.length_eq ▸ nonempty) with ⟨q, sound⟩
        exact ⟨q, sound.congr same⟩
      · exact absurd empty nonempty

theorem Fidelity.tookAck {sender updated : TCPSender} {written : List UInt8}
    {emitted : List TCPSegment} {ackno : WrappingInt32} {windowSize : UInt16}
    (fidelity : sender.Fidelity written emitted)
    (took : sender.TookAck ackno windowSize updated) : updated.Fidelity written emitted := by
  apply fidelity.carryOver took.stream_eq took.isn_eq took.nextSeqno_eq
  intro segment member
  left
  refine ⟨segment, ?_, TCPSegment.SameContent.refl segment⟩
  rcases List.mem_append.mp member with queued | out
  · exact List.mem_append_left _ (took.mem_outstanding queued)
  · exact List.mem_append_right _ out

theorem Fidelity.emit {sender : TCPSender} {written : List UInt8}
    {emitted more : List TCPSegment} (fidelity : sender.Fidelity written emitted)
    (known : forall segment, segment ∈ more ->
      segment ∈ sender.window.outstanding ∨ segment.lengthInSequenceSpace = 0) :
    sender.Fidelity written (emitted ++ more) := by
  apply fidelity.carryOver rfl rfl rfl
  intro segment member
  rw [← List.append_assoc] at member
  rcases List.mem_append.mp member with old | new
  · exact Or.inl ⟨segment, old, TCPSegment.SameContent.refl segment⟩
  · rcases known segment new with queued | empty
    · exact Or.inl ⟨segment, List.mem_append_left _ queued, TCPSegment.SameContent.refl segment⟩
    · exact Or.inr empty

/-- An empty segment may always be sent. -/
theorem Fidelity.sendEmptySegment {sender : TCPSender} {written : List UInt8}
    {emitted : List TCPSegment} (fidelity : sender.Fidelity written emitted) :
    sender.sendEmptySegment.Fidelity written (emitted ++ [sender.emptySegment]) := by
  have more : sender.Fidelity written (emitted ++ [sender.emptySegment]) := by
    apply fidelity.emit
    intro segment member
    cases List.mem_singleton.mp member
    exact Or.inr rfl
  refine Fidelity.carryOver more rfl rfl rfl ?_
  intro segment member
  exact Or.inl ⟨segment, member, TCPSegment.SameContent.refl segment⟩

theorem Fidelity.ticked {sender updated : TCPSender} {written : List UInt8}
    {emitted again : List TCPSegment} (fidelity : sender.Fidelity written emitted)
    (ticked : sender.Ticked updated)
    (retransmitted : forall segment, segment ∈ again -> segment ∈ sender.window.outstanding) :
    updated.Fidelity written (emitted ++ again) := by
  have more := fidelity.emit (fun segment member => Or.inl (retransmitted segment member))
  apply more.carryOver ticked.stream_eq ticked.isn_eq ticked.nextSeqno_eq
  rw [ticked.outstanding_eq]
  intro segment member
  exact Or.inl ⟨segment, member, TCPSegment.SameContent.refl segment⟩

/-- Writing extends what was written by the bytes accepted. -/
theorem Fidelity.write {sender : TCPSender} {written : List UInt8} {emitted : List TCPSegment}
    (fidelity : sender.Fidelity written emitted) (data : List UInt8) :
    { sender with stream := (sender.stream.write data).1 }.Fidelity
      (written ++ sender.stream.accepted data) emitted where
  follows := fidelity.follows.write_append fidelity.whole data
  whole := by
    rw [ByteStream.write_bytesWritten, List.length_append, fidelity.whole]
  voice := by
    rcases fidelity.voice with silent | speaking
    · left
      refine ⟨silent.noSyn, ?_⟩
      dsimp only
      rw [ByteStream.write_error, ByteStream.write_bytesRead]
      exact silent.idle
    · right
      refine ⟨?_, ?_, ?_⟩
      · dsimp only
        rw [ByteStream.write_bytesRead]
        exact speaking.read_lt
      · dsimp only
        rw [ByteStream.write_bytesRead]
        rcases speaking.reached with reached | eof
        · exact Or.inl reached
        · right
          have parts := (ByteStream.eof_iff _).mp eof
          rw [ByteStream.eof_iff, ByteStream.write_endFlag, ByteStream.write_bufferSize,
            ByteStream.accepted_of_ended parts.1]
          exact parts
      · intro segment member nonempty
        rcases speaking.sound segment member nonempty with ⟨q, sound⟩
        refine ⟨q, sound.grow (Nat.le_refl _) ?_⟩
        intro ended
        rw [ByteStream.write_endFlag]
        exact ⟨ended, ByteStream.accepted_of_ended ended data⟩

theorem Fidelity.endInput {sender : TCPSender} {written : List UInt8}
    {emitted : List TCPSegment} (fidelity : sender.Fidelity written emitted) :
    { sender with stream := sender.stream.endInput }.Fidelity written emitted where
  follows := ⟨fidelity.follows.written_le, fidelity.follows.written_eq⟩
  whole := fidelity.whole
  voice := by
    rcases fidelity.voice with silent | speaking
    · exact Or.inl ⟨silent.noSyn, silent.idle⟩
    · right
      refine ⟨speaking.read_lt, ?_, ?_⟩
      · rcases speaking.reached with reached | eof
        · exact Or.inl reached
        · right
          have parts := (ByteStream.eof_iff _).mp eof
          exact (ByteStream.eof_iff _).mpr ⟨rfl, parts.2⟩
      · intro segment member nonempty
        rcases speaking.sound segment member nonempty with ⟨q, sound⟩
        exact ⟨q, sound.seqno, sound.within, sound.syn, sound.data,
          fun fin => ⟨rfl, (sound.fin fin).2⟩⟩

theorem Fidelity.setError {sender : TCPSender} {written : List UInt8}
    {emitted : List TCPSegment} (fidelity : sender.Fidelity written emitted) :
    { sender with stream := sender.stream.setError }.Fidelity written emitted where
  follows := ⟨fidelity.follows.written_le, fidelity.follows.written_eq⟩
  whole := fidelity.whole
  voice := by
    rcases fidelity.voice with silent | speaking
    · exact Or.inl ⟨silent.noSyn, fun noError => nomatch noError⟩
    · exact Or.inr ⟨speaking.read_lt, speaking.reached, speaking.sound⟩

end TCPSender
end Tcp
end Sponge
