import Sponge.Network.PrefixSafety
import Sponge.Tcp.Delivering
import Sponge.Tcp.Pacing

namespace Sponge
namespace Network

open Foundation Bytes Tcp

/-!
# What is acknowledged has been delivered

Every acknowledgment a connection sends names a number that its receiver
covers, and a number stays covered.  So whatever acknowledgment reaches the
peer, and however late, the peer's first unacknowledged number is covered.

One state looks at the acknowledgment number of a FIN without looking at its
ACK flag.  This does no harm, because a connection that has sent its SYN sends
a FIN only after an acknowledgment, and then with the flag set.
-/

/-! ## A connection on its own -/

/-- The sender failed before its SYN, and will never send one. -/
def Mute (connection : TCPConnection) : Prop :=
  connection.sender.stream.error = true ∧
    forall segment, segment ∈ connection.sender.window.outstanding ++ emitted connection ->
      segment.header.syn = false

/-- The sender is paced, nothing is acknowledged before the peer's SYN, and
every FIN that follows a SYN carries an acknowledgment. -/
structure Orderly (connection : TCPConnection) : Prop where
  paced : connection.sender.Paced
  unheard : connection.receiver.isSet = false -> connection.sender.window.firstSeqno = 0
  flagged : Mute connection ∨ forall segment, segment ∈ connection.segmentsOut ->
    segment.header.fin = true -> segment.header.ack = true

theorem new_orderly (cfg : TCPConfig) (random : WrappingInt32) :
    Orderly (TCPConnection.new cfg random) where
  paced := TCPSender.new_paced _ _ _
  unheard := fun _ => rfl
  flagged := Or.inr (fun _ member => nomatch member)

section

variable {connection final : TCPConnection} {written : List UInt8} {listener : TCPReceiver}

/-- Moving segments between queues, or adding ones that are neither SYN nor
FIN. -/
theorem Orderly.carryOver (orderly : Orderly connection) (paced : final.sender.Paced)
    (unheard : final.receiver.isSet = false -> final.sender.window.firstSeqno = 0)
    (fails : connection.sender.stream.error = true -> final.sender.stream.error = true)
    (known : forall segment, segment ∈ final.sender.window.outstanding ++ emitted final ->
      segment ∈ connection.sender.window.outstanding ++ emitted connection ∨
        segment.header.syn = false)
    (out : forall segment, segment ∈ final.segmentsOut ->
      segment ∈ connection.segmentsOut ∨ segment.header.fin = false) : Orderly final := by
  refine ⟨paced, unheard, ?_⟩
  rcases orderly.flagged with ⟨failed, noSyn⟩ | flagged
  · left
    refine ⟨fails failed, ?_⟩
    intro segment member
    rcases known segment member with old | new
    · exact noSyn segment old
    · exact new
  · right
    intro segment member fin
    rcases out segment member with old | noFin
    · exact flagged segment old fin
    · rw [noFin] at fin
      cases fin

/-- While nothing is acknowledged, no segment of a paced sender has a FIN,
unless the sender is mute. -/
theorem noFin_of_unacked {emitted : List TCPSegment} {sender : TCPSender}
    (fidelity : sender.Fidelity written emitted) (paced : sender.Paced)
    (unacked : sender.window.firstSeqno = 0) :
    (sender.stream.error = true ∧
        forall segment, segment ∈ sender.window.outstanding ++ emitted ->
          segment.header.syn = false) ∨
      forall segment, segment ∈ sender.window.outstanding ++ emitted ->
        segment.header.fin = false := by
  have few : sender.window.nextSeqno ≤ 1 := by
    have := (paced.unacked unacked).2
    omega
  rcases fidelity.voice with silent | speaking
  · cases failed : sender.stream.error with
    | true => exact Or.inl ⟨rfl, silent.noSyn⟩
    | false =>
        right
        intro segment member
        by_contra fin
        have length := segment.length_pos_of_fin (Bool.eq_true_of_not_eq_false fin)
        have := (silent.idle failed).2.2 segment member
        omega
  · right
    intro segment member
    by_contra noFin
    have fin := Bool.eq_true_of_not_eq_false noFin
    have length := segment.length_pos_of_fin fin
    rcases speaking.sound segment member (by omega) with ⟨q, sound⟩
    have within := sound.within
    have := sound.pos_of_fin fin
    omega

theorem stamped_of_set (isSet : connection.receiver.isSet = true) (segment : TCPSegment) :
    (connection.stamped segment).header.ack = true := by
  unfold TCPConnection.stamped TCPReceiver.ackno
  rw [if_pos isSet]
  rfl

/-- Collecting adds to the outbound queue what the sender has emitted, stamped. -/
theorem Orderly.collect (orderly : Orderly connection)
    (speaks : Speaks connection written listener)
    (done : connection.collectSenderSegmentsOut = .ok final) : Orderly final := by
  rcases TCPConnection.collect_spec done with ⟨filled, fills, rfl⟩
  rcases TCPSender.fillWindow_sends fills with ⟨segments, sends⟩
  have frame := sends.frame
  have paced := orderly.paced.sends sends
  refine ⟨paced.carryOver rfl rfl, ?_, ?_⟩
  · intro unset
    exact frame.firstSeqno_eq.trans (orderly.unheard unset)
  · rcases orderly.flagged with ⟨failed, noSyn⟩ | flagged
    · left
      refine ⟨frame.error_eq.trans failed, ?_⟩
      intro segment member
      rcases collected_content connection filled member with ⟨other, old, same⟩
      rw [same.syn]
      unfold emitted at old
      dsimp only at old
      rw [sends.outstanding_eq, sends.segmentsOut_eq] at old
      have fresh := sends.noSyn_of_error failed other
      have before := noSyn other
      unfold emitted at before
      simp only [List.mem_append] at old before
      tauto
    · cases isSet : connection.receiver.isSet with
      | true =>
          right
          intro segment member fin
          rcases List.mem_append.mp member with old | new
          · exact flagged segment old fin
          · rcases List.mem_map.mp new with ⟨original, _, rfl⟩
            exact stamped_of_set isSet original
      | false =>
          have unacked := frame.firstSeqno_eq.trans (orderly.unheard isSet)
          rcases noFin_of_unacked (speaks.filled sends).fidelity paced unacked with
            ⟨failed, noSyn⟩ | noFin
          · left
            refine ⟨failed, ?_⟩
            intro segment member
            rcases collected_content connection filled member with ⟨other, old, same⟩
            rw [same.syn]
            exact noSyn other old
          · right
            intro segment member fin
            have collected := List.mem_append_right filled.window.outstanding member
            rcases collected_content connection filled collected with ⟨other, old, same⟩
            rw [same.fin, noFin other old] at fin
            cases fin

/-- Adding one segment that is neither SYN nor FIN to the sender's queue. -/
theorem Orderly.queuePlain (orderly : Orderly connection) (extra : TCPSegment)
    (noSyn : extra.header.syn = false) :
    Orderly { connection with sender := connection.sender.send extra } := by
  refine Orderly.carryOver orderly (orderly.paced.carryOver rfl rfl) orderly.unheard id ?_
    (fun _ member => Or.inl member)
  intro segment member
  rcases mem_queued connection member with old | rfl
  · exact Or.inl old
  · exact Or.inr noSyn

/-- Likewise to the connection's own. -/
theorem Orderly.pushPlain (orderly : Orderly connection) (extra : TCPSegment)
    (noSyn : extra.header.syn = false) (noFin : extra.header.fin = false) :
    Orderly { connection with segmentsOut := connection.segmentsOut ++ [extra] } := by
  refine Orderly.carryOver orderly orderly.paced orderly.unheard id ?_ ?_
  · intro segment member
    rcases mem_pushed connection member with old | rfl
    · exact Or.inl old
    · exact Or.inr noSyn
  · intro segment member
    rcases List.mem_append.mp member with old | new
    · exact Or.inl old
    · rw [List.mem_singleton.mp new]
      exact Or.inr noFin

theorem Orderly.tickSender (orderly : Orderly connection) (msSinceLastTick : Nat) :
    Orderly { connection with sender := connection.sender.tick msSinceLastTick } := by
  have ticked := connection.sender.tick_spec msSinceLastTick
  refine Orderly.carryOver orderly (orderly.paced.ticked ticked) ?_ ?_
    (fun _ member => Or.inl (mem_ticked connection ticked member)) (fun _ member => Or.inl member)
  · intro unset
    exact ticked.firstSeqno_eq.trans (orderly.unheard unset)
  · intro failed
    exact (congrArg ByteStream.error ticked.stream_eq).trans failed

/-- An acknowledgment of a number other than zero. -/
theorem Orderly.takeAck (orderly : Orderly connection) {updated filled : TCPSender}
    {segments : List TCPSegment} {ackno : WrappingInt32} {windowSize : UInt16}
    (isSet : connection.receiver.isSet = true)
    (took : connection.sender.TookAck ackno windowSize updated)
    (sends : TCPSender.Sends updated segments filled)
    (positive : 1 ≤ unwrap ackno connection.sender.window.isn
      connection.sender.window.nextSeqno) :
    Orderly { connection with sender := filled } := by
  refine ⟨(orderly.paced.tookAck took positive).sends sends, ?_, ?_⟩
  · intro unset
    exact absurd (isSet.symm.trans unset) (by decide)
  · rcases orderly.flagged with ⟨failed, noSyn⟩ | flagged
    · left
      have stillFailed : updated.stream.error = true := by
        rw [took.stream_eq]
        exact failed
      refine ⟨sends.frame.error_eq.trans stillFailed, ?_⟩
      intro segment member
      have fresh := sends.noSyn_of_error stillFailed segment
      have waiting : segment ∈ updated.window.outstanding -> _ := took.mem_outstanding
      have before := noSyn segment
      unfold emitted at member before
      dsimp only at member
      rw [sends.outstanding_eq, sends.segmentsOut_eq, took.segmentsOut_eq] at member
      simp only [List.mem_append] at member before
      tauto
    · exact Or.inr flagged

end

/-! ## Acknowledgments in flight -/

/-- If the segment acknowledges, it names a number in use that the listener
covers. -/
def Vouched (source : TCPConnection) (listener : TCPReceiver) (segment : TCPSegment) : Prop :=
  segment.header.ack = true -> Exists fun number =>
    1 ≤ number ∧ number ≤ source.sender.window.nextSeqno ∧
      segment.header.ackno = wrap number source.sender.window.isn ∧ listener.Covers number

/-- The connection `sink` confirms to `source` only what it has assembled. -/
structure Confirms (source : TCPConnection) (written : List UInt8) (sink : TCPConnection) :
    Prop where
  speaks : Speaks source written sink.receiver
  orderly : Orderly source
  delivers : sink.receiver.Delivers written source.sender.stream.bytesRead
  vouched : forall segment, segment ∈ sink.sender.window.outstanding ++ emitted sink ->
    Vouched source sink.receiver segment
  acked : sink.receiver.Covers source.sender.window.firstSeqno

theorem new_confirms (cfg peer : TCPConfig) (random other : WrappingInt32) :
    Confirms (TCPConnection.new cfg random) [] (TCPConnection.new peer other) where
  speaks := new_speaks cfg peer random
  orderly := new_orderly cfg random
  delivers := TCPReceiver.new_delivers _ _ _
  vouched := fun _ member => nomatch member
  acked := Or.inl (Nat.zero_le _)

section

variable {source sink final : TCPConnection} {written : List UInt8}

/-! ## The acknowledging connection -/

/-- An acknowledgment of the checkpoint is vouched for. -/
theorem Confirms.ackInfo_vouched (confirms : Confirms source written sink)
    {ackno : WrappingInt32} (acks : sink.receiver.ackno = some ackno) (windowSize : Nat)
    (segment : TCPSegment) :
    Vouched source sink.receiver (TCPConnection.ackInfo ackno windowSize segment) := by
  intro _
  unfold TCPReceiver.ackno at acks
  split at acks
  · rename_i isSet
    cases acks
    refine ⟨sink.receiver.checkpoint, confirms.delivers.positive isSet,
      confirms.speaks.receives.checkpoint_le, ?_, confirms.delivers.covered isSet⟩
    rw [← confirms.speaks.receives.isn_eq isSet]
    rfl
  · cases acks

theorem vouched_of_noAck {listener : TCPReceiver} {segment : TCPSegment}
    (noAck : segment.header.ack = false) : Vouched source listener segment := by
  intro ack
  rw [noAck] at ack
  cases ack

/-- The acknowledging side moves segments between its queues, or adds ones
that are vouched for. -/
theorem Confirms.emit (confirms : Confirms source written sink)
    (receiver_eq : final.receiver = sink.receiver)
    (known : forall segment, segment ∈ final.sender.window.outstanding ++ emitted final ->
      segment ∈ sink.sender.window.outstanding ++ emitted sink ∨
        Vouched source sink.receiver segment) : Confirms source written final := by
  refine ⟨?_, confirms.orderly, ?_, ?_, ?_⟩
  · rw [receiver_eq]
    exact confirms.speaks
  · rw [receiver_eq]
    exact confirms.delivers
  · rw [receiver_eq]
    intro segment member
    rcases known segment member with old | new
    · exact confirms.vouched segment old
    · exact new
  · rw [receiver_eq]
    exact confirms.acked

/-- Filling the window adds segments without an acknowledgment. -/
theorem Confirms.sinkFilled (confirms : Confirms source written sink) {updated filled : TCPSender}
    {segments : List TCPSegment} (sends : TCPSender.Sends updated segments filled)
    (waiting : forall segment, segment ∈ updated.window.outstanding ->
      segment ∈ sink.sender.window.outstanding)
    (queue : updated.segmentsOut = sink.sender.segmentsOut) :
    Confirms source written { sink with sender := filled } := by
  refine Confirms.emit confirms rfl ?_
  intro segment member
  have noAck := sends.noAck segment
  have old := waiting segment
  unfold emitted at member ⊢
  dsimp only at member
  rw [sends.outstanding_eq, sends.segmentsOut_eq, queue] at member
  simp only [List.mem_append] at member ⊢
  by_cases fresh : segment ∈ segments
  · exact Or.inr (vouched_of_noAck (noAck fresh))
  · left
    tauto

theorem Confirms.sinkCollect (confirms : Confirms source written sink)
    (done : sink.collectSenderSegmentsOut = .ok final) : Confirms source written final := by
  rcases TCPConnection.collect_spec done with ⟨filled, fills, rfl⟩
  rcases TCPSender.fillWindow_sends fills with ⟨segments, sends⟩
  have middle := confirms.sinkFilled sends (fun _ member => member) rfl
  refine Confirms.emit middle rfl ?_
  intro segment member
  rcases mem_collected sink filled member with old | ⟨original, sent, rfl⟩
  · exact Or.inl old
  · unfold TCPConnection.stamped
    split
    · exact Or.inl (List.mem_append_right _ (List.mem_append_left _ sent))
    · rename_i ackno acks
      exact Or.inr (confirms.ackInfo_vouched acks _ original)

/-- Adding one segment that is vouched for to the sender's queue. -/
theorem Confirms.sinkQueue (confirms : Confirms source written sink) (extra : TCPSegment)
    (extra_vouched : Vouched source sink.receiver extra) :
    Confirms source written { sink with sender := sink.sender.send extra } := by
  refine Confirms.emit confirms rfl ?_
  intro segment member
  rcases mem_queued sink member with old | rfl
  · exact Or.inl old
  · exact Or.inr extra_vouched

/-- Likewise to the connection's own. -/
theorem Confirms.sinkPush (confirms : Confirms source written sink) (extra : TCPSegment)
    (extra_vouched : Vouched source sink.receiver extra) :
    Confirms source written { sink with segmentsOut := sink.segmentsOut ++ [extra] } := by
  refine Confirms.emit confirms rfl ?_
  intro segment member
  rcases mem_pushed sink member with old | rfl
  · exact Or.inl old
  · exact Or.inr extra_vouched

/-- The acknowledging side survives every common part of its methods. -/
theorem confirms_keptBySink (source : TCPConnection) (written : List UInt8) :
    TCPConnection.KeptByParts (Confirms source written) where
  flags := fun _ _ _ confirms => ⟨confirms.speaks, confirms.orderly, confirms.delivers,
    confirms.vouched, confirms.acked⟩
  clock := fun _ _ confirms => ⟨confirms.speaks, confirms.orderly, confirms.delivers,
    confirms.vouched, confirms.acked⟩
  collect := fun _ _ confirms done => confirms.sinkCollect done
  push := by
    intro connection final confirms done
    rcases TCPConnection.pushAck_spec done with ⟨ackno, acks, rfl⟩
    exact confirms.sinkPush _ (confirms.ackInfo_vouched acks _ {})
  queue := by
    intro connection final confirms done
    rcases TCPConnection.queueAck_spec done with ⟨ackno, acks, rfl⟩
    exact confirms.sinkQueue _ (confirms.ackInfo_vouched acks _ {})
  empty := fun connection confirms =>
    confirms.sinkQueue connection.sender.emptySegment (vouched_of_noAck rfl)
  reset := fun _ confirms => ⟨confirms.speaks.listen confirms.speaks.receives.setError rfl,
    confirms.orderly, confirms.delivers.setError, confirms.vouched, confirms.acked⟩
  tickSender := by
    intro connection msSinceLastTick confirms
    have ticked := connection.sender.tick_spec msSinceLastTick
    refine Confirms.emit confirms rfl ?_
    intro segment member
    exact Or.inl (mem_ticked connection ticked member)
  pushRst := fun _ confirms =>
    confirms.sinkPush { header := { rst := true } } (vouched_of_noAck rfl)

/-- The acknowledging side takes an acknowledgment itself. -/
theorem Confirms.sinkAck (confirms : Confirms source written sink) {segment : TCPSegment}
    (taken : sink.takeAck segment = .ok final) : Confirms source written final := by
  rcases TCPConnection.takeAck_spec taken with ⟨sender, received, rfl⟩
  rcases TCPSender.ackReceived_spec received with ⟨updated, segments, took, sends⟩
  exact confirms.sinkFilled sends (fun _ member => took.mem_outstanding member)
    took.segmentsOut_eq

theorem Vouched.listen {listener other : TCPReceiver} {segment : TCPSegment}
    (vouched : Vouched source listener segment)
    (still : forall number, listener.Covers number -> other.Covers number) :
    Vouched source other segment := by
  intro ack
  rcases vouched ack with ⟨number, positive, used, named, covers⟩
  exact ⟨number, positive, used, named, still number covers⟩

/-- It takes a segment the source has emitted. -/
theorem Confirms.deliver (confirms : Confirms source written sink)
    (low : source.sender.window.nextSeqno < 2 ^ 31) {segment : TCPSegment}
    (out : segment ∈ source.segmentsOut)
    (whole : sink.receiver.TakesWhole segment written.length) :
    Confirms source written (sink.takeSegment segment) := by
  have wf := confirms.speaks.receives.wf
  have still : forall number, sink.receiver.Covers number ->
      (sink.receiver.segmentReceived segment).Covers number :=
    fun number covers => covers.segmentReceived wf segment
  refine ⟨confirms.speaks.deliver low out, confirms.orderly, ?_,
    fun other member => (confirms.vouched other member).listen still, still _ confirms.acked⟩
  rcases confirms.speaks.fidelity.voice with silent | speaking
  · have noSyn := silent.noSyn segment (List.mem_append_right _ (List.mem_append_right _ out))
    have unset := confirms.speaks.unset_of_silent silent
    change (sink.receiver.segmentReceived segment).Delivers written _
    rw [TCPReceiver.segmentReceived_of_unset unset noSyn]
    exact confirms.delivers
  · have follows := confirms.speaks.fidelity.follows
    have read := source.sender.stream.bytesRead_le
    exact confirms.delivers.segmentReceived confirms.speaks.receives speaking.read_lt
      (Nat.le_trans read follows.written_le) low (confirms.speaks.fromSender speaking out) whole

/-! ## The acknowledged connection -/

/-- The acknowledged side moves on. -/
theorem Confirms.onward (confirms : Confirms source written sink)
    (speaks : Speaks final written sink.receiver) (orderly : Orderly final)
    (isn_eq : final.sender.window.isn = source.sender.window.isn)
    (next_le : source.sender.window.nextSeqno ≤ final.sender.window.nextSeqno)
    (read_le : source.sender.stream.bytesRead ≤ final.sender.stream.bytesRead)
    (acked : sink.receiver.Covers final.sender.window.firstSeqno) :
    Confirms final written sink := by
  refine ⟨speaks, orderly, confirms.delivers.later read_le, ?_, acked⟩
  intro segment member ack
  rcases confirms.vouched segment member ack with ⟨number, positive, used, named, covers⟩
  exact ⟨number, positive, Nat.le_trans used next_le, isn_eq ▸ named, covers⟩

/-- The acknowledged side survives every common part of its methods. -/
theorem confirms_keptBySource (written : List UInt8) (sink : TCPConnection) :
    TCPConnection.KeptByParts (fun source => Confirms source written sink) where
  flags := by
    intro source linger active confirms
    have speaks := (speaks_keptByParts written sink.receiver).flags source linger active
      confirms.speaks
    exact confirms.onward speaks
      ⟨confirms.orderly.paced, confirms.orderly.unheard, confirms.orderly.flagged⟩ rfl
      (Nat.le_refl _) (Nat.le_refl _) confirms.acked
  clock := by
    intro source time confirms
    have speaks := (speaks_keptByParts written sink.receiver).clock source time confirms.speaks
    exact confirms.onward speaks
      ⟨confirms.orderly.paced, confirms.orderly.unheard, confirms.orderly.flagged⟩ rfl
      (Nat.le_refl _) (Nat.le_refl _) confirms.acked
  collect := by
    intro source final confirms done
    have speaks := confirms.speaks.collect done
    have orderly := confirms.orderly.collect confirms.speaks done
    rcases TCPConnection.collect_spec done with ⟨filled, fills, rfl⟩
    rcases TCPSender.fillWindow_sends fills with ⟨segments, sends⟩
    have frame := sends.frame
    exact confirms.onward speaks orderly frame.isn_eq frame.nextSeqno_le frame.bytesRead_le
      (frame.firstSeqno_eq ▸ confirms.acked)
  push := by
    intro source final confirms done
    have speaks := (speaks_keptByParts written sink.receiver).push source final confirms.speaks done
    rcases TCPConnection.pushAck_spec done with ⟨ackno, _, rfl⟩
    exact confirms.onward speaks (confirms.orderly.pushPlain _ rfl rfl) rfl (Nat.le_refl _)
      (Nat.le_refl _) confirms.acked
  queue := by
    intro source final confirms done
    have speaks := (speaks_keptByParts written sink.receiver).queue source final confirms.speaks
      done
    rcases TCPConnection.queueAck_spec done with ⟨ackno, _, rfl⟩
    exact confirms.onward speaks (confirms.orderly.queuePlain _ rfl) rfl (Nat.le_refl _)
      (Nat.le_refl _) confirms.acked
  empty := by
    intro source confirms
    have speaks := (speaks_keptByParts written sink.receiver).empty source confirms.speaks
    exact confirms.onward speaks (confirms.orderly.queuePlain source.sender.emptySegment rfl)
      rfl (Nat.le_refl _) (Nat.le_refl _) confirms.acked
  reset := by
    intro source confirms
    have orderly : Orderly source.resetReceived :=
      confirms.orderly.carryOver confirms.orderly.paced.setError confirms.orderly.unheard
        (fun _ => rfl) (fun _ member => Or.inl member) (fun _ member => Or.inl member)
    exact confirms.onward confirms.speaks.setError orderly rfl (Nat.le_refl _) (Nat.le_refl _)
      confirms.acked
  tickSender := by
    intro source msSinceLastTick confirms
    have ticked := source.sender.tick_spec msSinceLastTick
    exact confirms.onward (confirms.speaks.tickSender msSinceLastTick)
      (confirms.orderly.tickSender msSinceLastTick) ticked.isn_eq
      (Nat.le_of_eq ticked.nextSeqno_eq.symm)
      (Nat.le_of_eq (congrArg ByteStream.bytesRead ticked.stream_eq.symm))
      (ticked.firstSeqno_eq ▸ confirms.acked)
  pushRst := by
    intro source confirms
    have speaks := (speaks_keptByParts written sink.receiver).pushRst source confirms.speaks
    exact confirms.onward speaks (confirms.orderly.pushPlain _ rfl rfl) rfl (Nat.le_refl _)
      (Nat.le_refl _) confirms.acked

/-- It takes an acknowledgment that is vouched for. -/
theorem Confirms.sourceAck (confirms : Confirms source written sink)
    (low : source.sender.window.nextSeqno < 2 ^ 31) (isSet : source.receiver.isSet = true)
    {segment : TCPSegment} (out : segment ∈ sink.segmentsOut) (ack : segment.header.ack = true)
    (taken : source.takeAck segment = .ok final) : Confirms final written sink := by
  have speaks := confirms.speaks.takeAck taken
  have member := List.mem_append_right sink.sender.window.outstanding
    (List.mem_append_right sink.sender.segmentsOut out)
  rcases confirms.vouched segment member ack with ⟨number, positive, used, named, covers⟩
  have unwrapped : unwrap segment.header.ackno source.sender.window.isn
      source.sender.window.nextSeqno = number := by
    rw [named]
    exact unwrap_wrap_of_low _ (by omega) (by omega)
  rcases TCPConnection.takeAck_spec taken with ⟨sender, received, rfl⟩
  rcases TCPSender.ackReceived_spec received with ⟨updated, segments, took, sends⟩
  have frame := sends.frame
  have orderly := confirms.orderly.takeAck isSet took sends (unwrapped ▸ positive)
  apply confirms.onward speaks orderly (frame.isn_eq.trans took.isn_eq)
    (took.nextSeqno_eq ▸ frame.nextSeqno_le) (took.stream_eq ▸ frame.bytesRead_le)
  dsimp only
  rw [frame.firstSeqno_eq, took.firstSeqno_eq, unwrapped]
  split
  · exact covers
  · exact confirms.acked

/-- It takes a segment. -/
theorem Confirms.sourceTakes (confirms : Confirms source written sink) (segment : TCPSegment) :
    Confirms (source.takeSegment segment) written sink := by
  have orderly : Orderly (source.takeSegment segment) := by
    refine ⟨confirms.orderly.paced, ?_, confirms.orderly.flagged⟩
    intro unset
    rw [TCPConnection.takeSegment_isSet] at unset
    exact confirms.orderly.unheard (Bool.or_eq_false_iff.mp unset).1
  exact ⟨⟨confirms.speaks.fidelity, confirms.speaks.receives, confirms.speaks.heard⟩, orderly,
    confirms.delivers, confirms.vouched, confirms.acked⟩

theorem Confirms.sourceWrote (confirms : Confirms source written sink) (data : List UInt8) :
    Confirms (source.wrote data) (written ++ source.sender.stream.accepted data) sink := by
  have orderly : Orderly (source.wrote data) := by
    refine confirms.orderly.carryOver (confirms.orderly.paced.write data) confirms.orderly.unheard
      ?_ (fun _ member => Or.inl member) (fun _ member => Or.inl member)
    intro failed
    exact (ByteStream.write_error _ _).trans failed
  refine ⟨confirms.speaks.wrote data, orderly, ?_, confirms.vouched, confirms.acked⟩
  apply confirms.delivers.grow
  · intro ended
    exact ByteStream.accepted_of_ended (confirms.speaks.receives.ended_le ended).1 data
  · exact Nat.le_of_eq (ByteStream.write_bytesRead _ _).symm

theorem Confirms.sourceEnded (confirms : Confirms source written sink) :
    Confirms source.ended written sink := by
  have orderly : Orderly source.ended :=
    confirms.orderly.carryOver confirms.orderly.paced.endInput confirms.orderly.unheard id
      (fun _ member => Or.inl member) (fun _ member => Or.inl member)
  exact ⟨confirms.speaks.ended, orderly, confirms.delivers, confirms.vouched, confirms.acked⟩

end

end Network
end Sponge
