import Sponge.Network.AckRuns
import Sponge.Tcp.AckForwarding

namespace Sponge
namespace Network

open Foundation Bytes Tcp

/-!
# Flow control from end to end

What a receiver acknowledges and the window that it advertises end at the edge of what it can
store, and this edge never moves back.  So a sender that keeps to the windows it hears of sends
nothing that its peer has to discard.

Two things go beyond this.  A window of zero counts as one, and the sender probes it with a
single number.  And an acknowledgment that comes late can move the end of the sender's window
back below what is in flight, from where on the sender knows no limit.
-/

/-! ## A sender within its window -/

/-- No more is in flight than the window allows. -/
structure Confined (sender : TCPSender) : Prop where
  ordered : sender.window.firstSeqno ≤ sender.window.nextSeqno
  within : sender.window.nextSeqno ≤ sender.window.firstSeqno + sender.window.windowSize
  opened : 0 < sender.window.windowSize
  small : sender.window.windowSize < 2 ^ 16

theorem new_confined (capacity : Capacity) (retxTimeout : UInt16) (isn : WrappingInt32) :
    Confined (TCPSender.new capacity retxTimeout isn) :=
  ⟨Nat.le_refl 0, Nat.zero_le _, Nat.one_pos, by change 1 < 2 ^ 16; decide⟩

section

variable {sender final : TCPSender} {segments : List TCPSegment}

/-- The free space is what lies between the next number and the end of the window. -/
theorem Confined.space_eq (confined : Confined sender) :
    sender.window.nextSeqno + sender.window.space =
      sender.window.firstSeqno + sender.window.windowSize := by
  rcases confined with ⟨ordered, within, _, small⟩
  unfold TCPSendingWindow.space TCPSendingWindow.bytesInFlight
  rw [sub64_of_le (by omega) (by omega)]
  omega

theorem Confined.grow (confined : Confined sender)
    (first_eq : final.window.firstSeqno = sender.window.firstSeqno)
    (size_eq : final.window.windowSize = sender.window.windowSize)
    (next_ge : sender.window.nextSeqno ≤ final.window.nextSeqno)
    (next_le : final.window.nextSeqno ≤ sender.window.firstSeqno + sender.window.windowSize) :
    Confined final := by
  rcases confined with ⟨ordered, _, opened, small⟩
  refine ⟨?_, ?_, size_eq ▸ opened, size_eq ▸ small⟩
  · rw [first_eq]
    exact ordered.trans next_ge
  · rw [first_eq, size_eq]
    exact next_le

theorem Confined.afterSyn (confined : Confined sender) (closed : sender.state = .closed) :
    Confined (sender.afterSending sender.synSegment) := by
  have unused := ((TCPSender.state_closed_iff _).mp closed).2
  have opened := confined.opened
  refine confined.grow rfl rfl (Nat.le_add_right _ _) ?_
  change sender.window.nextSeqno + 1 ≤ _
  omega

theorem Confined.afterData (confined : Confined sender) :
    Confined (sender.popPayload.afterSending sender.dataSegment) := by
  have space := confined.space_eq
  have length := sender.dataSegment_length_le
  refine confined.grow rfl rfl (Nat.le_add_right _ _) ?_
  change sender.window.nextSeqno + sender.dataSegment.lengthInSequenceSpace ≤ _
  omega

/-- A segment of more than one number lies within the sender's window. -/
def Contained (sender : TCPSender) (segment : TCPSegment) : Prop :=
  2 ≤ segment.lengthInSequenceSpace -> Exists fun place =>
    segment.header.seqno = wrap place sender.window.isn ∧ sender.window.firstSeqno ≤ place ∧
      place + segment.lengthInSequenceSpace ≤ sender.window.nextSeqno

theorem Confined.sends (confined : Confined sender)
    (sends : TCPSender.Sends sender segments final) :
    Confined final ∧ forall segment, segment ∈ segments -> Contained final segment := by
  induction sends with
  | rest sender => exact ⟨confined, nofun⟩
  | @syn sender final segments closed room onward ih =>
      rcases ih (confined.afterSyn closed) with ⟨still, contained⟩
      refine ⟨still, fun segment member large => ?_⟩
      rcases List.mem_cons.mp member with rfl | later
      · exact absurd large (by change ¬ 2 ≤ 1; decide)
      · exact contained segment later large
  | @data sender final segments may onward ih =>
      rcases ih confined.afterData with ⟨still, contained⟩
      refine ⟨still, fun segment member large => ?_⟩
      rcases List.mem_cons.mp member with rfl | later
      · have frame := onward.frame
        refine ⟨sender.window.nextSeqno, ?_, ?_, frame.nextSeqno_le⟩
        · rw [frame.isn_eq]
          rfl
        · rw [frame.firstSeqno_eq]
          exact confined.ordered
      · exact contained segment later large

end

/-! ## A receiver with room -/

/-- Everything before a number fits below the edge, or nothing more will come. -/
def HasRoom (listener : TCPReceiver) (number : Nat) : Prop :=
  number ≤ 1 + listener.reassembler.edge ∨ listener.streamOut.endFlag = true

section

variable {listener : TCPReceiver} {number lower : Nat}

theorem HasRoom.below (room : HasRoom listener number) (below : lower ≤ number) :
    HasRoom listener lower :=
  room.imp_left below.trans

theorem HasRoom.segmentReceived (room : HasRoom listener number)
    (wf : listener.reassembler.Wf) (segment : TCPSegment) :
    HasRoom (listener.segmentReceived segment) number := by
  have same := listener.noteSyn_reassembler segment
  have noted : HasRoom (listener.noteSyn segment) number := by
    unfold HasRoom TCPReceiver.streamOut
    rw [same]
    exact room
  unfold TCPReceiver.segmentReceived
  dsimp only
  split
  · refine noted.imp (fun inside => ?_) (fun flag => ?_)
    · have edge : ((listener.noteSyn segment).pushSegment segment).reassembler.edge =
          (listener.noteSyn segment).reassembler.edge :=
        StreamReassembler.pushSubstring_edge _ _ _ _
      rw [edge]
      exact inside
    · rw [TCPReceiver.pushSegment_endFlag (same ▸ wf) segment]
      exact Bool.or_eq_true_iff.mpr (Or.inl flag)
  · exact noted

/-- Reading moves the edge on. -/
theorem HasRoom.popOutput (room : HasRoom listener number) (length : Nat) :
    HasRoom (listener.popOutput length) number := by
  refine room.imp_left fun inside => inside.trans (Nat.add_le_add_left ?_ 1)
  change listener.reassembler.output.bytesRead + listener.reassembler.capacity ≤
    (listener.reassembler.output.popOutput length).bytesRead + listener.reassembler.capacity
  rw [ByteStream.popOutput_bytesRead]
  omega

/-- The window ends at the edge. -/
theorem advertised_hasRoom (wf : listener.reassembler.Wf)
    (covered : listener.Covers listener.checkpoint) :
    HasRoom listener (listener.checkpoint + listener.windowSize) := by
  cases opened : listener.streamOut.endFlag with
  | true => exact Or.inr opened
  | false =>
      rcases covered with reached | flag
      · left
        have written : listener.streamOut.bytesWritten = listener.reassembler.firstUnassembled :=
          wf.written_eq opened
        have balance := listener.streamOut.bytesWritten_eq
        have stored := listener.streamOut.bufferSize_le
        have capacity : listener.streamOut.capacity = listener.reassembler.capacity :=
          wf.output_capacity
        change listener.checkpoint + (listener.reassembler.capacity -
            listener.streamOut.bufferSize) ≤
          1 + (listener.streamOut.bytesRead + listener.reassembler.capacity)
        omega
      · cases opened.symm.trans flag

end

/-! ## Two connections -/

/-- If the segment acknowledges, then the listener has room for what it advertises. -/
def Grants (source : TCPConnection) (listener : TCPReceiver) (segment : TCPSegment) : Prop :=
  segment.header.ack = true -> Exists fun number =>
    number ≤ source.sender.window.nextSeqno ∧
      segment.header.ackno = wrap number source.sender.window.isn ∧
      HasRoom listener (number + segment.header.win.toNat)

/-- The listener has room for a segment of more than one number. -/
def Housed (source : TCPConnection) (listener : TCPReceiver) (segment : TCPSegment) : Prop :=
  2 ≤ segment.lengthInSequenceSpace -> Exists fun place =>
    segment.header.seqno = wrap place source.sender.window.isn ∧
      place + segment.lengthInSequenceSpace ≤ source.sender.window.nextSeqno ∧
      HasRoom listener (place + segment.lengthInSequenceSpace)

/-- The connection `source` sends to `sink` no more than there is room for. -/
structure Flows (source sink : TCPConnection) : Prop where
  confined : Confined source.sender
  limited : source.sender.window.windowSize ≤ 1 ∨
    HasRoom sink.receiver (source.sender.window.firstSeqno + source.sender.window.windowSize)
  housed : forall segment, segment ∈ source.sender.window.outstanding ++ emitted source ->
    Housed source sink.receiver segment
  granted : forall segment, segment ∈ sink.sender.window.outstanding ++ emitted sink ->
    Grants source sink.receiver segment

theorem new_flows (cfg peer : TCPConfig) (random other : WrappingInt32) :
    Flows (TCPConnection.new cfg random) (TCPConnection.new peer other) where
  confined := new_confined _ _ _
  limited := Or.inl (Nat.le_refl 1)
  housed := fun _ member => nomatch member
  granted := fun _ member => nomatch member

section

variable {source sink final : TCPConnection} {written : List UInt8} {listener : TCPReceiver}
  {segment other : TCPSegment}

theorem Grants.later (grants : Grants source listener segment)
    (isn_eq : final.sender.window.isn = source.sender.window.isn)
    (next_le : source.sender.window.nextSeqno ≤ final.sender.window.nextSeqno) :
    Grants final listener segment := by
  intro ack
  rcases grants ack with ⟨number, used, named, room⟩
  exact ⟨number, used.trans next_le, isn_eq ▸ named, room⟩

theorem Housed.later (housed : Housed source listener segment)
    (isn_eq : final.sender.window.isn = source.sender.window.isn)
    (next_le : source.sender.window.nextSeqno ≤ final.sender.window.nextSeqno) :
    Housed final listener segment := by
  intro large
  rcases housed large with ⟨place, seqno, within, room⟩
  exact ⟨place, isn_eq ▸ seqno, within.trans next_le, room⟩

theorem Housed.congr (housed : Housed source listener other) (same : segment.SameContent other) :
    Housed source listener segment := by
  unfold Housed
  rw [same.length_eq, same.seqno]
  exact housed

/-- There is room where the segment belongs. -/
theorem Housed.room_of_sound {ended : Bool} {q : Nat} (housed : Housed source listener segment)
    (low : source.sender.window.nextSeqno < 2 ^ 31) (large : 2 ≤ segment.lengthInSequenceSpace)
    (sound : SoundAt source.sender.window.isn written ended source.sender.window.nextSeqno
      segment q) : HasRoom listener (q + segment.lengthInSequenceSpace) := by
  rcases housed large with ⟨place, seqno, within, room⟩
  have inside := sound.within
  have here : unwrap (wrap q source.sender.window.isn) source.sender.window.isn
      source.sender.window.nextSeqno = q :=
    unwrap_wrap_of_low _ (by omega) (Nat.le_of_lt low)
  rw [← sound.seqno, seqno, unwrap_wrap_of_low _ (by omega) (Nat.le_of_lt low)] at here
  exact here ▸ room

theorem housed_of_short (short : segment.lengthInSequenceSpace ≤ 1) :
    Housed source listener segment := by
  intro large
  omega

/-! ## The sending connection -/

/-- The sending side does something that leaves its window alone. -/
theorem Flows.emit (flows : Flows source sink)
    (window_eq : final.sender.window.isn = source.sender.window.isn ∧
      final.sender.window.firstSeqno = source.sender.window.firstSeqno ∧
      final.sender.window.windowSize = source.sender.window.windowSize ∧
      final.sender.window.nextSeqno = source.sender.window.nextSeqno)
    (known : forall segment, segment ∈ final.sender.window.outstanding ++ emitted final ->
      segment ∈ source.sender.window.outstanding ++ emitted source ∨
        segment.lengthInSequenceSpace ≤ 1) : Flows final sink := by
  rcases window_eq with ⟨isn_eq, first_eq, size_eq, next_eq⟩
  have next_le := Nat.le_of_eq next_eq.symm
  refine ⟨?_, ?_, ?_, fun segment member => (flows.granted segment member).later isn_eq next_le⟩
  · refine flows.confined.grow first_eq size_eq next_le ?_
    rw [next_eq]
    exact flows.confined.within
  · rw [first_eq, size_eq]
    exact flows.limited
  · intro segment member
    rcases known segment member with old | short
    · exact (flows.housed segment old).later isn_eq next_le
    · exact housed_of_short short

/-- The sending side fills its window. -/
theorem Flows.sends {updated filled : TCPSender} {segments : List TCPSegment}
    (flows : Flows { source with sender := updated } sink)
    (sends : TCPSender.Sends updated segments filled) :
    Flows { source with sender := filled } sink := by
  have frame := sends.frame
  rcases flows.confined.sends sends with ⟨still, contained⟩
  refine ⟨still, ?_, ?_, fun segment member =>
    (flows.granted segment member).later frame.isn_eq frame.nextSeqno_le⟩
  · dsimp only
    rw [frame.firstSeqno_eq, frame.windowSize_eq]
    exact flows.limited
  · intro segment member
    by_cases fresh : segment ∈ segments
    · intro large
      rcases contained segment fresh large with ⟨place, seqno, above, below⟩
      refine ⟨place, seqno, below, ?_⟩
      have within := still.within
      rw [frame.firstSeqno_eq] at above within
      rw [frame.windowSize_eq] at within
      rcases flows.limited with least | room
      · dsimp only at least
        omega
      · exact room.below (below.trans within)
    · have old := flows.housed segment
      unfold emitted at member old
      dsimp only at member old
      rw [sends.outstanding_eq, sends.segmentsOut_eq] at member
      simp only [List.mem_append] at member old
      exact Housed.later (old (by tauto)) frame.isn_eq frame.nextSeqno_le

theorem Flows.collect (flows : Flows source sink)
    (done : source.collectSenderSegmentsOut = .ok final) : Flows final sink := by
  rcases TCPConnection.collect_spec done with ⟨filled, fills, rfl⟩
  rcases TCPSender.fillWindow_sends fills with ⟨segments, sends⟩
  have middle := @Flows.sends source sink source.sender filled segments flows sends
  refine ⟨⟨middle.confined.ordered, middle.confined.within, middle.confined.opened,
    middle.confined.small⟩, middle.limited, ?_, middle.granted⟩
  intro segment member
  rcases collected_content source filled member with ⟨other, old, same⟩
  exact Housed.congr (middle.housed other old) same

/-- The sending side survives every common part of its methods. -/
theorem flows_keptBySource (sink : TCPConnection) :
    TCPConnection.KeptByParts (fun source => Flows source sink) where
  flags := fun _ _ _ flows => flows.emit ⟨rfl, rfl, rfl, rfl⟩ fun _ member => Or.inl member
  clock := fun _ _ flows => flows.emit ⟨rfl, rfl, rfl, rfl⟩ fun _ member => Or.inl member
  collect := fun _ _ flows done => flows.collect done
  push := by
    intro source final flows done
    rcases TCPConnection.pushAck_spec done with ⟨ackno, _, rfl⟩
    refine flows.emit ⟨rfl, rfl, rfl, rfl⟩ fun segment member => ?_
    rcases mem_pushed source member with old | rfl
    · exact Or.inl old
    · exact Or.inr (Nat.zero_le 1)
  queue := by
    intro source final flows done
    rcases TCPConnection.queueAck_spec done with ⟨ackno, _, rfl⟩
    refine flows.emit ⟨rfl, rfl, rfl, rfl⟩ fun segment member => ?_
    rcases mem_queued source member with old | rfl
    · exact Or.inl old
    · exact Or.inr (Nat.zero_le 1)
  empty := by
    intro source flows
    refine flows.emit ⟨rfl, rfl, rfl, rfl⟩ fun segment member => ?_
    rcases mem_queued source member with old | rfl
    · exact Or.inl old
    · exact Or.inr (Nat.zero_le 1)
  reset := fun _ flows => flows.emit ⟨rfl, rfl, rfl, rfl⟩ fun _ member => Or.inl member
  tickSender := by
    intro source msSinceLastTick flows
    have ticked := source.sender.tick_spec msSinceLastTick
    exact flows.emit ⟨ticked.isn_eq, ticked.firstSeqno_eq, ticked.windowSize_eq,
      ticked.nextSeqno_eq⟩ fun segment member => Or.inl (mem_ticked source ticked member)
  pushRst := by
    intro source flows
    refine flows.emit ⟨rfl, rfl, rfl, rfl⟩ fun segment member => ?_
    rcases mem_pushed source member with old | rfl
    · exact Or.inl old
    · exact Or.inr (Nat.zero_le 1)

/-- It takes an acknowledgment that keeps the end of its window. -/
theorem Flows.takeAck (flows : Flows source sink) {number : Nat}
    (unwrapped : unwrap segment.header.ackno source.sender.window.isn
      source.sender.window.nextSeqno = number)
    (room : HasRoom sink.receiver (number + segment.header.win.toNat))
    (keeps : source.sender.window.firstSeqno ≤ number ->
      source.sender.window.firstSeqno + source.sender.window.windowSize ≤
        number + max 1 segment.header.win.toNat)
    (taken : source.takeAck segment = .ok final) : Flows final sink := by
  rcases TCPConnection.takeAck_spec taken with ⟨sender, received, rfl⟩
  rcases TCPSender.ackReceived_spec received with ⟨updated, segments, took, sends⟩
  refine @Flows.sends source sink updated sender segments ?_ sends
  have first := took.firstSeqno_eq
  have size := took.windowSize_eq
  have small := segment.header.win.toNat_lt
  rcases flows.confined with ⟨ordered, within, opened, narrow⟩
  refine ⟨?_, ?_, ?_, fun segment member =>
    (flows.granted segment member).later took.isn_eq (Nat.le_of_eq took.nextSeqno_eq.symm)⟩
  · by_cases accepts : source.sender.window.Accepts segment.header.ackno
    · have above := keeps (unwrapped ▸ accepts.1)
      have used := unwrapped ▸ accepts.2
      rw [if_pos accepts] at first size
      rw [unwrapped] at first
      refine ⟨?_, ?_, ?_, ?_⟩
      · rw [first, took.nextSeqno_eq]
        exact used
      · rw [first, size, took.nextSeqno_eq]
        exact within.trans above
      · rw [size]
        omega
      · rw [size]
        omega
    · rw [if_neg accepts] at first size
      exact flows.confined.grow first size (Nat.le_of_eq took.nextSeqno_eq.symm)
        (took.nextSeqno_eq ▸ within)
  · by_cases accepts : source.sender.window.Accepts segment.header.ackno
    · rw [if_pos accepts] at first size
      rw [unwrapped] at first
      by_cases least : segment.header.win.toNat ≤ 1
      · left
        change updated.window.windowSize ≤ 1
        omega
      · right
        change HasRoom _ (updated.window.firstSeqno + updated.window.windowSize)
        rw [first, size, Nat.max_eq_right (by omega)]
        exact room
    · rw [if_neg accepts] at first size
      change updated.window.windowSize ≤ 1 ∨
        HasRoom _ (updated.window.firstSeqno + updated.window.windowSize)
      rw [first, size]
      exact flows.limited
  · intro segment member
    have old := flows.housed segment
    have waiting : segment ∈ updated.window.outstanding -> _ := took.mem_outstanding
    unfold emitted at member old
    dsimp only at member
    rw [took.segmentsOut_eq] at member
    simp only [List.mem_append] at member old
    exact Housed.later (old (by tauto)) took.isn_eq (Nat.le_of_eq took.nextSeqno_eq.symm)

end

/-! ## The granting connection -/

section

variable {source sink final : TCPConnection} {written : List UInt8} {listener : TCPReceiver}
  {segment : TCPSegment}

/-- The segment does not acknowledge, or it acknowledges what the receiver says now. -/
def Current (connection : TCPConnection) (segment : TCPSegment) : Prop :=
  segment.header.ack = false ∨ Exists fun ackno => Exists fun original =>
    connection.receiver.ackno = some ackno ∧
      segment = TCPConnection.ackInfo ackno connection.receiver.windowSize original

theorem current_ackInfo {connection : TCPConnection} {ackno : WrappingInt32}
    (acks : connection.receiver.ackno = some ackno) (original : TCPSegment) :
    Current connection (TCPConnection.ackInfo ackno connection.receiver.windowSize original) :=
  Or.inr ⟨ackno, original, acks, rfl⟩

/-- A relation survives every common part of the methods, if it survives that a connection
moves segments between its queues and adds current ones, and a reset. -/
theorem keptByParts_of_emits {invariant : TCPConnection -> Prop}
    (emits : forall connection final, invariant connection ->
      final.receiver = connection.receiver ->
      (forall segment, segment ∈ final.sender.window.outstanding ++ emitted final ->
        segment ∈ connection.sender.window.outstanding ++ emitted connection ∨
          Current connection segment) -> invariant final)
    (resets : forall connection, invariant connection -> invariant connection.resetReceived) :
    TCPConnection.KeptByParts invariant where
  flags := fun connection _ _ kept => emits connection _ kept rfl fun _ member => Or.inl member
  clock := fun connection _ kept => emits connection _ kept rfl fun _ member => Or.inl member
  collect := by
    intro connection final kept done
    rcases TCPConnection.collect_spec done with ⟨filled, fills, rfl⟩
    rcases TCPSender.fillWindow_sends fills with ⟨segments, sends⟩
    refine emits connection _ kept rfl fun segment member => ?_
    have plain (other : TCPSegment)
        (inside : other ∈ filled.window.outstanding ++
          emitted { connection with sender := filled }) :
        other ∈ connection.sender.window.outstanding ++ emitted connection ∨
          Current connection other := by
      by_cases fresh : other ∈ segments
      · exact Or.inr (Or.inl (sends.noAck other fresh))
      · left
        unfold emitted at inside ⊢
        dsimp only at inside
        rw [sends.outstanding_eq, sends.segmentsOut_eq] at inside
        simp only [List.mem_append] at inside ⊢
        tauto
    rcases mem_collected connection filled member with old | ⟨original, sent, rfl⟩
    · exact plain segment old
    · unfold TCPConnection.stamped
      split
      · exact plain original (List.mem_append_right _ (List.mem_append_left _ sent))
      · rename_i ackno acks
        exact Or.inr (current_ackInfo acks original)
  push := by
    intro connection final kept done
    rcases TCPConnection.pushAck_spec done with ⟨ackno, acks, rfl⟩
    refine emits connection _ kept rfl fun segment member => ?_
    rcases mem_pushed connection member with old | rfl
    · exact Or.inl old
    · exact Or.inr (current_ackInfo acks {})
  queue := by
    intro connection final kept done
    rcases TCPConnection.queueAck_spec done with ⟨ackno, acks, rfl⟩
    refine emits connection _ kept rfl fun segment member => ?_
    rcases mem_queued connection member with old | rfl
    · exact Or.inl old
    · exact Or.inr (current_ackInfo acks {})
  empty := by
    intro connection kept
    refine emits connection _ kept rfl fun segment member => ?_
    rcases mem_queued connection member with old | rfl
    · exact Or.inl old
    · exact Or.inr (Or.inl rfl)
  reset := resets
  tickSender := by
    intro connection msSinceLastTick kept
    have ticked := connection.sender.tick_spec msSinceLastTick
    exact emits connection _ kept rfl fun segment member =>
      Or.inl (mem_ticked connection ticked member)
  pushRst := by
    intro connection kept
    refine emits connection _ kept rfl fun segment member => ?_
    rcases mem_pushed connection member with old | rfl
    · exact Or.inl old
    · exact Or.inr (Or.inl rfl)

theorem Confirms.vouched_of_current (confirms : Confirms source written sink)
    (current : Current sink segment) : Vouched source sink.receiver segment := by
  rcases current with noAck | ⟨ackno, original, acks, rfl⟩
  · exact vouched_of_noAck noAck
  · exact confirms.ackInfo_vouched acks _ original

/-- What is acknowledged now is granted. -/
theorem Confirms.grants_of_current (confirms : Confirms source written sink)
    (current : Current sink segment) : Grants source sink.receiver segment := by
  intro ack
  rcases current with noAck | ⟨ackno, original, acks, rfl⟩
  · cases noAck.symm.trans ack
  · unfold TCPReceiver.ackno at acks
    split at acks
    · rename_i isSet
      cases acks
      have receives := confirms.speaks.receives
      refine ⟨sink.receiver.checkpoint, receives.checkpoint_le, ?_, ?_⟩
      · rw [← receives.isn_eq isSet]
        rfl
      · refine (advertised_hasRoom receives.wf (confirms.delivers.covered isSet)).below ?_
        apply Nat.add_le_add_left
        change (UInt16.ofNat sink.receiver.windowSize).toNat ≤ _
        rw [UInt16.toNat_ofNat']
        exact Nat.mod_le _ _
    · cases acks

/-- What is acknowledged has been delivered, and what is sent finds room. -/
structure Regulates (source : TCPConnection) (written : List UInt8) (sink : TCPConnection) :
    Prop where
  confirms : Confirms source written sink
  flows : Flows source sink

/-- The granting side changes, but its receiver only makes room. -/
theorem Flows.listen (flows : Flows source sink)
    (still : forall number, HasRoom sink.receiver number -> HasRoom final.receiver number)
    (known : forall segment, segment ∈ final.sender.window.outstanding ++ emitted final ->
      segment ∈ sink.sender.window.outstanding ++ emitted sink ∨
        Grants source final.receiver segment) : Flows source final where
  confined := flows.confined
  limited := flows.limited.imp_right (still _)
  housed := by
    intro segment member large
    rcases flows.housed segment member large with ⟨place, seqno, within, room⟩
    exact ⟨place, seqno, within, still _ room⟩
  granted := by
    intro segment member
    rcases known segment member with old | new
    · intro ack
      rcases flows.granted segment old ack with ⟨number, used, named, room⟩
      exact ⟨number, used, named, still _ room⟩
    · exact new

theorem Regulates.emit (regulates : Regulates source written sink)
    (receiver_eq : final.receiver = sink.receiver)
    (known : forall segment, segment ∈ final.sender.window.outstanding ++ emitted final ->
      segment ∈ sink.sender.window.outstanding ++ emitted sink ∨ Current sink segment) :
    Regulates source written final where
  confirms := regulates.confirms.emit receiver_eq fun segment member =>
    (known segment member).imp_right regulates.confirms.vouched_of_current
  flows := by
    refine regulates.flows.listen (fun _ room => receiver_eq ▸ room) fun segment member => ?_
    rw [receiver_eq]
    exact (known segment member).imp_right regulates.confirms.grants_of_current

/-- The granting side survives every common part of its methods. -/
theorem regulates_keptBySink (source : TCPConnection) (written : List UInt8) :
    TCPConnection.KeptByParts (Regulates source written) := by
  refine keptByParts_of_emits (fun sink final regulates => regulates.emit) ?_
  intro sink regulates
  refine ⟨(confirms_keptBySink source written).reset sink regulates.confirms, ?_⟩
  exact regulates.flows.listen (fun _ room => room) fun _ member => Or.inl member

/-- The granting side takes an acknowledgment itself. -/
theorem Regulates.sinkAck (regulates : Regulates source written sink)
    (taken : sink.takeAck segment = .ok final) : Regulates source written final := by
  rcases TCPConnection.takeAck_spec taken with ⟨sender, received, rfl⟩
  rcases TCPSender.ackReceived_spec received with ⟨updated, segments, took, sends⟩
  refine regulates.emit rfl fun segment member => ?_
  have noAck := sends.noAck segment
  have waiting : segment ∈ updated.window.outstanding -> _ := took.mem_outstanding
  unfold emitted at member ⊢
  dsimp only at member
  rw [sends.outstanding_eq, sends.segmentsOut_eq, took.segmentsOut_eq] at member
  simp only [List.mem_append] at member ⊢
  by_cases fresh : segment ∈ segments
  · exact Or.inr (Or.inl (noAck fresh))
  · left
    tauto

/-- While the inbound stream is open, a segment of one number does not spill over the window's
edge, and no segment ends the stream short of the given length. -/
def TakesSparingly (receiver : TCPReceiver) (segment : TCPSegment) (total : Nat) : Prop :=
  (receiver.noteSyn segment).isSet = true -> receiver.streamOut.endFlag = false ->
    (segment.lengthInSequenceSpace = 1 -> ¬ (receiver.noteSyn segment).Spills segment) ∧
      ¬ (receiver.noteSyn segment).EndsShort segment total

instance (receiver : TCPReceiver) (segment : TCPSegment) (total : Nat) :
    Decidable (TakesSparingly receiver segment total) :=
  inferInstanceAs (Decidable (_ -> _ -> _))

/-- A segment of more numbers does not spill either. -/
theorem Regulates.takesWhole (regulates : Regulates source written sink)
    (low : source.sender.window.nextSeqno < 2 ^ 31) (out : segment ∈ source.segmentsOut)
    (sparing : TakesSparingly sink.receiver segment written.length) :
    sink.receiver.TakesWhole segment written.length := by
  intro isSet opened
  rcases sparing isSet opened with ⟨probes, ends⟩
  refine ⟨fun spills => ?_, ends⟩
  have filled := List.length_pos_iff.mpr spills.2.1
  have length := segment.payload_length_le
  by_cases short : segment.lengthInSequenceSpace ≤ 1
  · exact probes (by omega) spills
  · have member : segment ∈ source.sender.window.outstanding ++ emitted source :=
      List.mem_append_right _ (List.mem_append_right _ out)
    have receives := regulates.confirms.speaks.receives
    have plain (noSyn : segment.header.syn = false) :
        sink.receiver.noteSyn segment = sink.receiver := by
      unfold TCPReceiver.noteSyn
      rw [noSyn, if_neg Bool.false_ne_true]
    rcases regulates.confirms.speaks.fidelity.voice with silent | speaking
    · rw [plain (silent.noSyn segment member),
        regulates.confirms.speaks.unset_of_silent silent] at isSet
      cases isSet
    · rcases speaking.sound segment member (by omega) with ⟨q, sound⟩
      cases syn : segment.header.syn with
      | true => exact spills.2.1 (sound.syn syn).2.1
      | false =>
          have above := (sound.data syn).1
          rw [plain syn] at isSet spills
          have beyond := spills.2.2
          rw [receives.streamIndex_eq isSet low sound] at beyond
          rcases (regulates.flows.housed segment member).room_of_sound low (by omega) sound with
            inside | flag
          · omega
          · cases opened.symm.trans flag

end

/-! ## Endpoints -/

/-- Only acknowledgments move the window. -/
theorem window_keptByParts (property : WrappingInt32 -> Nat -> Nat -> Prop) :
    TCPConnection.KeptByParts (fun connection =>
      property connection.sender.window.isn connection.sender.window.firstSeqno
        connection.sender.window.windowSize) where
  flags := fun _ _ _ kept => kept
  clock := fun _ _ kept => kept
  collect := by
    intro connection final kept done
    rcases TCPConnection.collect_spec done with ⟨filled, fills, rfl⟩
    rcases TCPSender.fillWindow_sends fills with ⟨segments, sends⟩
    change property filled.window.isn filled.window.firstSeqno filled.window.windowSize
    rw [sends.frame.isn_eq, sends.frame.firstSeqno_eq, sends.frame.windowSize_eq]
    exact kept
  push := by
    intro connection final kept done
    rcases TCPConnection.pushAck_spec done with ⟨ackno, _, rfl⟩
    exact kept
  queue := by
    intro connection final kept done
    rcases TCPConnection.queueAck_spec done with ⟨ackno, _, rfl⟩
    exact kept
  empty := fun _ kept => kept
  reset := fun _ kept => kept
  tickSender := by
    intro connection msSinceLastTick kept
    have ticked := connection.sender.tick_spec msSinceLastTick
    dsimp only
    rw [ticked.isn_eq, ticked.firstSeqno_eq, ticked.windowSize_eq]
    exact kept
  pushRst := fun _ kept => kept

/-- If the sender accepts the acknowledgment, then the end of its window does not move back. -/
def KeepsEnd (connection : TCPConnection) (segment : TCPSegment) : Prop :=
  connection.sender.window.Accepts segment.header.ackno ->
    connection.sender.window.firstSeqno + connection.sender.window.windowSize ≤
      connection.acknowledged segment + max 1 segment.header.win.toNat

instance (connection : TCPConnection) (segment : TCPSegment) :
    Decidable (KeepsEnd connection segment) :=
  inferInstanceAs (Decidable (_ -> _))

section

variable {source sink next : Endpoint} {segment : TCPSegment}

/-- The direction from one endpoint to another. -/
def Regulated (source sink : Endpoint) : Prop :=
  Regulates source.connection source.written sink.connection

/-- The sending endpoint receives a segment its peer has emitted. -/
theorem Regulated.receiveSource (regulated : Regulated source sink)
    (back : Regulated sink source) (out : segment ∈ sink.connection.segmentsOut)
    (keeps : segment.header.ack = true -> KeepsEnd source.connection segment)
    (received : source.receive segment = .ok next)
    (low : next.connection.sender.window.nextSeqno < 2 ^ 31) :
    Flows next.connection sink.connection := by
  have before := Nat.lt_of_le_of_lt
    (TCPConnection.segmentReceived_nextSeqno_le (Endpoint.receive_connection received)) low
  have member : segment ∈ sink.connection.sender.window.outstanding ++ emitted sink.connection :=
    List.mem_append_right _ (List.mem_append_right _ out)
  -- Either the window is what it was, or this acknowledgment has been taken.
  have parts := (TCPConnection.below_keptByParts ((flows_keptBySource sink.connection).and
      (window_keptByParts fun isn first size => isn = source.connection.sender.window.isn ∧
        (first = source.connection.sender.window.firstSeqno ∧
            size = source.connection.sender.window.windowSize ∨
          first = source.connection.acknowledged segment ∧
            size = max 1 segment.header.win.toNat))) (2 ^ 31)).and
    (TCPConnection.isSet_keptByParts (fun isSet => isSet = true -> Exists fun other =>
      other ∈ sink.connection.segmentsOut ∧ other.header.syn = true))
  have kept := TCPConnection.segmentReceived_keeps parts ?_ ?_
    ⟨fun _ => ⟨regulated.flows, rfl, Or.inl ⟨rfl, rfl⟩⟩, back.confirms.speaks.heard⟩
    (Endpoint.receive_connection received)
  · exact (kept.1 low).1
  · intro other _ _ kept
    refine ⟨fun below => ?_, ?_⟩
    · rcases kept.1 below with ⟨flows, window⟩
      exact ⟨flows.emit ⟨rfl, rfl, rfl, rfl⟩ fun _ member => Or.inl member, window⟩
    · intro isSet
      rw [TCPConnection.takeSegment_isSet] at isSet
      rcases Bool.or_eq_true_iff.mp isSet with before | syn
      · exact kept.2 before
      · exact ⟨segment, out, syn⟩
  · intro other acked acknowledges kept taken
    rcases acknowledges with ⟨isSet, flags⟩
    have ack : segment.header.ack = true := by
      rcases flags with ack | fin
      · exact ack
      · rcases back.confirms.orderly.flagged with ⟨_, noSyn⟩ | flagged
        · rcases kept.2 isSet with ⟨heard, member, syn⟩
          have silent := noSyn heard (List.mem_append_right _ (List.mem_append_right _ member))
          cases silent.symm.trans syn
        · exact flagged segment out fin
    refine ⟨fun below => ?_, ?_⟩
    · have fewer := Nat.lt_of_le_of_lt (TCPConnection.takeAck_nextSeqno_le taken) below
      rcases kept.1 fewer with ⟨flows, isn_eq, window⟩
      rcases regulated.flows.granted segment member ack with ⟨number, used, named, room⟩
      have number_eq : source.connection.acknowledged segment = number := by
        unfold TCPConnection.acknowledged
        rw [named]
        exact unwrap_wrap_of_low _ (by omega) (Nat.le_of_lt before)
      have unwrapped : unwrap segment.header.ackno other.sender.window.isn
          other.sender.window.nextSeqno = number := by
        rw [named, isn_eq]
        exact unwrap_wrap_of_low _ (by omega) (Nat.le_of_lt fewer)
      have held : other.sender.window.firstSeqno ≤ number ->
          other.sender.window.firstSeqno + other.sender.window.windowSize ≤
            number + max 1 segment.header.win.toNat := by
        intro above
        rcases window with ⟨first, size⟩ | ⟨first, size⟩
        · rw [first] at above ⊢
          rw [size, ← number_eq]
          have accepts : source.connection.sender.window.Accepts segment.header.ackno :=
            ⟨above.trans (Nat.le_of_eq number_eq.symm), (Nat.le_of_eq number_eq).trans used⟩
          exact keeps ack accepts
        · rw [first, size, number_eq]
      refine ⟨flows.takeAck unwrapped room held taken, ?_⟩
      rcases TCPConnection.takeAck_spec taken with ⟨sender, acknowledged, rfl⟩
      rcases TCPSender.ackReceived_spec acknowledged with ⟨updated, segments, took, sends⟩
      have first := sends.frame.firstSeqno_eq.trans took.firstSeqno_eq
      have size := sends.frame.windowSize_eq.trans took.windowSize_eq
      refine ⟨(sends.frame.isn_eq.trans took.isn_eq).trans isn_eq, ?_⟩
      by_cases accepts : other.sender.window.Accepts segment.header.ackno
      · rw [if_pos accepts] at first size
        exact Or.inr ⟨first.trans (unwrapped.trans number_eq.symm), size⟩
      · rw [if_neg accepts] at first size
        exact window.imp (fun same => ⟨first.trans same.1, size.trans same.2⟩)
          (fun same => ⟨first.trans same.1, size.trans same.2⟩)
    · rcases TCPConnection.takeAck_spec taken with ⟨sender, _, rfl⟩
      exact kept.2

/-- The granting endpoint receives a segment its peer has emitted. -/
theorem Regulated.receiveSink (regulated : Regulated source sink)
    (low : source.connection.sender.window.nextSeqno < 2 ^ 31)
    (out : segment ∈ source.connection.segmentsOut)
    (sparing : sink.connection.takes segment = true ->
      TakesSparingly sink.connection.receiver segment source.written.length)
    (received : sink.receive segment = .ok next) : Regulated source next := by
  refine TCPConnection.segmentReceived_keeps
    (regulates_keptBySink source.connection source.written) ?_ ?_ regulated
    (Endpoint.receive_connection received)
  · intro other takes same regulates
    refine ⟨regulates.confirms.deliver low out (regulates.takesWhole low out ?_), ?_⟩
    · rw [same.receiver_eq]
      exact sparing takes
    · have wf := regulates.confirms.speaks.receives.wf
      exact regulates.flows.listen (fun _ room => room.segmentReceived wf segment)
        fun _ member => Or.inl member
  · intro other acked _ regulates taken
    exact regulates.sinkAck taken

/-- The owner of the sending endpoint acts. -/
theorem Regulated.performSource {op : OwnerOp} (regulated : Regulated source sink)
    (performed : source.perform op = .ok next) : Regulated next sink where
  confirms := Confirmed.performSource regulated.confirms performed
  flows := by
    have flows := regulated.flows
    have wrote (data : List UInt8) : Flows (source.connection.wrote data) sink.connection :=
      flows.emit ⟨rfl, rfl, rfl, rfl⟩ fun _ member => Or.inl member
    have ended : Flows source.connection.ended sink.connection :=
      flows.emit ⟨rfl, rfl, rfl, rfl⟩ fun _ member => Or.inl member
    have popped (length : Nat) :
        Flows (source.connection.popInbound length) sink.connection :=
      flows.emit ⟨rfl, rfl, rfl, rfl⟩ fun _ member => Or.inl member
    have kept := TCPConnection.perform_keeps (flows_keptBySource sink.connection) wrote ended
      popped flows (Endpoint.perform_connection performed)
    exact kept

/-- The owner of the granting endpoint acts. -/
theorem Regulated.performSink {op : OwnerOp} (regulated : Regulated source sink)
    (performed : sink.perform op = .ok next) : Regulated source next := by
  refine TCPConnection.perform_keeps (regulates_keptBySink source.connection source.written)
    ?_ ?_ ?_ regulated (Endpoint.perform_connection performed)
  · intro data
    exact regulated.emit rfl fun _ member => Or.inl member
  · exact regulated.emit rfl fun _ member => Or.inl member
  · intro length
    have confirms := regulated.confirms
    refine ⟨⟨confirms.speaks.listen (confirms.speaks.receives.popOutput length) rfl,
      confirms.orderly, confirms.delivers.popOutput length, confirms.vouched, confirms.acked⟩, ?_⟩
    exact regulated.flows.listen (fun _ room => room.popOutput length)
      fun _ member => Or.inl member

end

namespace NetworkState

/-- A delivery neither moves the end of a sender's window back, nor does its receiver discard a
probe or end the stream short of what the peer's writes have accepted. -/
def Sparing (network : NetworkState) : NetworkOp -> Prop
  | .owner _ _ => True
  | .deliver side i => forall segment, segment ∈ network.inFlight side i ->
      (segment.header.ack = true -> KeepsEnd (network.endpoint side).connection segment) ∧
        ((network.endpoint side).connection.takes segment = true ->
          TakesSparingly (network.endpoint side).connection.receiver segment
            (network.endpoint side.other).written.length)

instance (network : NetworkState) (op : NetworkOp) : Decidable (network.Sparing op) :=
  match op with
  | .owner _ _ => .isTrue trivial
  | .deliver side i =>
      inferInstanceAs (Decidable (forall segment, segment ∈ network.inFlight side i -> _))

/-- Both directions are regulated. -/
def BothRegulated (network : NetworkState) : Prop :=
  forall side : Side, Regulated (network.endpoint side) (network.endpoint side.other)

theorem new_bothRegulated (cfgA cfgB : TCPConfig) (randomA randomB : WrappingInt32) :
    (new cfgA cfgB randomA randomB).BothRegulated := by
  intro side
  cases side with
  | a => exact ⟨new_confirms cfgA cfgB randomA randomB, new_flows cfgA cfgB randomA randomB⟩
  | b => exact ⟨new_confirms cfgB cfgA randomB randomA, new_flows cfgB cfgA randomB randomA⟩

theorem BothRegulated.step {network next : NetworkState} {op : NetworkOp}
    (regulated : network.BothRegulated) (sparing : network.Sparing op)
    (taken : network.step op = .ok next) (below : next.Below) : next.BothRegulated := by
  have before := step_below taken below
  rcases step_cases taken with rfl | ⟨side, changed, rfl, acted⟩
  · exact regulated
  · have back := regulated side.other
    rw [other_other] at back
    have low := below side
    rw [endpoint_put] at low
    unfold BothRegulated
    refine forall_side side ?_ ?_
    · rw [endpoint_put, endpoint_put_other]
      rcases acted with ⟨ownerOp, _, performed⟩ | ⟨i, segment, rfl, found, received⟩
      · exact (regulated side).performSource performed
      · have out := inFlight_mem found
        exact ⟨Confirmed.receiveSource (regulated side).confirms back.confirms out received low,
          (regulated side).receiveSource back out (sparing segment found).1 received low⟩
    · rw [endpoint_put_other, other_other, endpoint_put]
      rcases acted with ⟨ownerOp, _, performed⟩ | ⟨i, segment, rfl, found, received⟩
      · exact back.performSink performed
      · exact back.receiveSink (before side.other) (inFlight_mem found) (sparing segment found).2
          received

end NetworkState

/-- **Flow control works end to end.**  Take a run of two connections below `2^31` in which no
acknowledgment moves the end of a window back, no probe is discarded and no stream is ended
short.  Whatever a side has sent in segments of more than one number ends below the edge of what
its peer can store, unless the peer has everything already.  And the bytes that a sender counts
as acknowledged are assembled at the peer. -/
theorem flow_is_controlled (cfgA cfgB : TCPConfig) (randomA randomB : WrappingInt32)
    (ops : List NetworkOp) (final : NetworkState)
    (sparing : RunMeets NetworkState.step NetworkState.Sparing
      (NetworkState.new cfgA cfgB randomA randomB) ops)
    (done : run NetworkState.step (NetworkState.new cfgA cfgB randomA randomB) ops = .ok final)
    (below : final.Below) (side : Side) :
    (forall segment, segment ∈ (final.endpoint side).connection.segmentsOut ->
        2 ≤ segment.lengthInSequenceSpace -> Exists fun place =>
          segment.header.seqno = wrap place (final.endpoint side).connection.sender.window.isn ∧
            (place + segment.lengthInSequenceSpace ≤
                1 + (final.endpoint side.other).connection.receiver.reassembler.edge ∨
              (final.endpoint side.other).assembled = (final.endpoint side).written)) ∧
      forall k, k ≤ (final.endpoint side).connection.sender.stream.bytesRead ->
        1 + k ≤ (final.endpoint side).connection.sender.window.firstSeqno ->
        k ≤ (final.endpoint side.other).connection.inboundStream.bytesWritten := by
  have regulated : final.BothRegulated := by
    apply run_invariant_within NetworkState.Below NetworkState.BothRegulated _ _
      (NetworkState.new_bothRegulated cfgA cfgB randomA randomB) sparing done below
    · intro network op next taken within
      exact NetworkState.step_below taken within
    · intro network op next invariant condition taken within
      exact invariant.step condition taken within
  rcases regulated side with ⟨confirms, flows⟩
  constructor
  · intro segment out large
    have member := List.mem_append_right
      (final.endpoint side).connection.sender.window.outstanding (List.mem_append_right
        (final.endpoint side).connection.sender.segmentsOut out)
    rcases flows.housed segment member large with ⟨place, seqno, _, room⟩
    refine ⟨place, seqno, room.imp_right fun ended => ?_⟩
    have link := NetworkState.linked_of_run done below side
    have all : (final.endpoint side.other).connection.inboundStream.bytesWritten =
        (final.endpoint side).written.length := (confirms.delivers.complete ended).2
    rw [link.assembled_take, all, List.take_length]
  · intro k sent acked
    exact Confirmed.acked_le confirms sent acked

/-- The peer has room for three bytes.  The other two of five wait, until one of them has probed
the window. -/
theorem small_window_controlled :
    let cfgA : TCPConfig := { recvCapacity := ⟨8, by decide⟩, sendCapacity := ⟨8, by decide⟩ }
    let cfgB : TCPConfig := { recvCapacity := ⟨3, by decide⟩, sendCapacity := ⟨8, by decide⟩ }
    let start := NetworkState.new cfgA cfgB ⟨4294967294⟩ ⟨7⟩
    let ops : List NetworkOp :=
      [.owner .a .connect, .deliver .b 0, .deliver .a 0, .deliver .b 1,
        .owner .a (.write [1, 2, 3, 4, 5]), .deliver .b 2, .deliver .a 1,
        .owner .b (.popInbound 3), .deliver .b 3, .deliver .a 2, .deliver .b 4]
    Exists fun final => run NetworkState.step start ops = .ok final ∧
      final.a.connection.sender.window.firstSeqno = 5 ∧
      (forall segment, segment ∈ final.a.connection.segmentsOut ->
        2 ≤ segment.lengthInSequenceSpace -> Exists fun place =>
          segment.header.seqno = wrap place final.a.connection.sender.window.isn ∧
            (place + segment.lengthInSequenceSpace ≤
                1 + final.b.connection.receiver.reassembler.edge ∨
              final.b.assembled = final.a.written)) ∧
      4 ≤ final.b.connection.inboundStream.bytesWritten := by
  intro cfgA cfgB start ops
  have checked : endsIn NetworkState.step (fun final =>
      decide (final.a.connection.sender.window.firstSeqno = 5 ∧
        4 ≤ final.a.connection.sender.stream.bytesRead ∧
        final.a.connection.sender.nextSeqnoAbsolute < 2 ^ 31 ∧
        final.b.connection.sender.nextSeqnoAbsolute < 2 ^ 31)) start ops = true := by
    decide +kernel
  rcases run_of_endsIn checked with ⟨final, done, facts⟩
  rcases of_decide_eq_true facts with ⟨first, read, lowA, lowB⟩
  have below : final.Below := NetworkState.forall_side .a lowA lowB
  rcases flow_is_controlled _ _ _ _ ops final (by decide +kernel) done below .a with
    ⟨fits, delivered⟩
  exact ⟨final, done, first, fits, delivered 4 read (Nat.le_of_eq first.symm)⟩

end Network
end Sponge
