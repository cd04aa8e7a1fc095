import Sponge.Bytes.ByteQueue
import Sponge.Tcp.SendingWindow

namespace Sponge
namespace Tcp

open Foundation Bytes

/-!
# The sender

`TCPSender` accepts a byte stream, divides it into segments, keeps track of
the outstanding ones and retransmits the oldest when its timer expires.

The sending loop of `fill_window` is modelled round by round with a bound on
the number of rounds.  Each round that goes on takes at least one sequence
number out of the free space, so `space + 1` rounds always suffice
(`fillWindow_rests`).  `Sends` lists what such a loop can do, and every result
about the sender is proved from it.
-/

inductive SenderState where
  | closed
  | synSent
  | synAcked
  | established
  | finSent
  | finAcked
  | error
deriving DecidableEq, Repr

structure TCPSender where
  segmentsOut : List TCPSegment
  initialRetransmissionTimeout : Nat
  stream : ByteStream
  rto : Nat
  window : TCPSendingWindow
  consecutiveRetransmissionCount : Nat
  windowSizeIsZero : Bool
deriving DecidableEq

namespace TCPSender

/-- A sender with its outgoing capacity, initial timeout and initial
sequence number (the fixed one, or the random one drawn in its place). -/
def new (capacity : Capacity) (retxTimeout : UInt16) (isn : WrappingInt32) : TCPSender where
  segmentsOut := []
  initialRetransmissionTimeout := retxTimeout.toNat
  stream := ByteStream.new capacity
  rto := retxTimeout.toNat
  window := TCPSendingWindow.new isn 1
  consecutiveRetransmissionCount := 0
  windowSizeIsZero := false

def bytesInFlight (sender : TCPSender) : Nat :=
  sender.window.bytesInFlight

def nextSeqnoAbsolute (sender : TCPSender) : Nat :=
  sender.window.nextSeqno

def nextSeqno (sender : TCPSender) : WrappingInt32 :=
  wrap sender.window.nextSeqno sender.window.isn

def consecutiveRetransmissions (sender : TCPSender) : Nat :=
  sender.consecutiveRetransmissionCount % 2 ^ 32

def state (sender : TCPSender) : SenderState :=
  if sender.stream.error then .error
  else if sender.nextSeqnoAbsolute = 0 then .closed
  else if sender.nextSeqnoAbsolute > 0 ∧ sender.nextSeqnoAbsolute = sender.bytesInFlight then
    .synSent
  else if sender.nextSeqnoAbsolute > sender.bytesInFlight ∧ ¬ sender.stream.eof then .synAcked
  else if sender.stream.eof ∧
      sender.nextSeqnoAbsolute < sender.stream.bytesWritten + 2 then .synAcked
  else if sender.stream.eof ∧ sender.nextSeqnoAbsolute = sender.stream.bytesWritten + 2 ∧
      sender.bytesInFlight > 0 then .finSent
  else .finAcked

def send (sender : TCPSender) (segment : TCPSegment) : TCPSender :=
  { sender with segmentsOut := sender.segmentsOut ++ [segment] }

/-- Record a segment in the window and put it on the outbound queue. -/
def transmit (sender : TCPSender) (segment : TCPSegment) : Except Fault TCPSender :=
  match sender.window.addSegment segment sender.rto with
  | .ok window => .ok ({ sender with window := window }.send segment)
  | .error fault => .error fault

def synSegment (sender : TCPSender) : TCPSegment :=
  { header := { syn := true, seqno := sender.nextSeqno } }

/-- The first step of `fill_window`: leave the closed state with a SYN. -/
def openIfClosed (sender : TCPSender) : Except Fault TCPSender :=
  if sender.state = .closed then sender.transmit sender.synSegment else .ok sender

def payloadSize (sender : TCPSender) : Nat :=
  min sender.window.space (min TCPConfig.maxPayloadSize sender.stream.bufferSize)

/-- The stream after the next payload has been read from it. -/
def popPayload (sender : TCPSender) : TCPSender :=
  { sender with stream := (sender.stream.read sender.payloadSize).2 }

/-- The segment built in one round of the sending loop. -/
def dataSegment (sender : TCPSender) : TCPSegment :=
  let payload := (sender.stream.read sender.payloadSize).1
  { header :=
      { seqno := sender.nextSeqno
        fin := sender.popPayload.stream.eof && decide (payload.length < sender.window.space) }
    payload := payload }

/-- The condition of the sending loop. -/
def wantsToSend (sender : TCPSender) : Bool :=
  (!sender.stream.bufferEmpty || sender.stream.eof) && !sender.window.full

/-- The sending loop of `fill_window`, for at most the given number of rounds. -/
def fillLoop : Nat -> TCPSender -> Except Fault TCPSender
  | 0, sender => .ok sender
  | rounds + 1, sender =>
      if sender.wantsToSend then
        if sender.state = .finSent ∨ sender.state = .finAcked then .ok sender
        else if sender.dataSegment.lengthInSequenceSpace ≠ 0 then
          match sender.popPayload.transmit sender.dataSegment with
          | .ok sent => fillLoop rounds sent
          | .error fault => .error fault
        else .ok sender.popPayload
      else .ok sender

/-- Create and send segments to fill as much of the window as possible. -/
def fillWindow (sender : TCPSender) : Except Fault TCPSender :=
  match sender.openIfClosed with
  | .ok opened => fillLoop (opened.window.space + 1) opened
  | .error fault => .error fault

/-- New acknowledged data resets the timeout, the timers and the counter. -/
def restartTimers (sender : TCPSender) : TCPSender :=
  { sender with
    rto := sender.initialRetransmissionTimeout
    window := sender.window.resetTimer sender.initialRetransmissionTimeout
    consecutiveRetransmissionCount := 0 }

/-- What `ack_received` does before it fills the window.  A window of zero
is treated as one. -/
def takeAck (sender : TCPSender) (ackno : WrappingInt32) (windowSize : UInt16) :
    Except Fault TCPSender :=
  match sender.window.ackReceived ackno (max windowSize 1) with
  | .ok (window, fresh) =>
      let updated := { sender with window := window, windowSizeIsZero := windowSize == 0 }
      .ok (if fresh then updated.restartTimers else updated)
  | .error fault => .error fault

/-- A new acknowledgment was received. -/
def ackReceived (sender : TCPSender) (ackno : WrappingInt32) (windowSize : UInt16) :
    Except Fault TCPSender :=
  match sender.takeAck ackno windowSize with
  | .ok updated => updated.fillWindow
  | .error fault => .error fault

/-- The passage of time: the first expired segment, if any, is sent again. -/
def tick (sender : TCPSender) (msSinceLastTick : Nat) : TCPSender :=
  let ticked := sender.window.tick msSinceLastTick
  match ticked.2 with
  | [] => { sender with window := ticked.1 }
  | oldest :: _ =>
      let rto := if sender.windowSizeIsZero then sender.rto else sender.rto * 2 % 2 ^ 64
      { sender with
        rto := rto
        window := ticked.1.resetTimer rto
        consecutiveRetransmissionCount := sender.consecutiveRetransmissionCount + 1 }.send oldest

def emptySegment (sender : TCPSender) : TCPSegment :=
  { header := { seqno := sender.nextSeqno } }

/-- Generate an empty-payload segment (useful for creating empty ACK segments). -/
def sendEmptySegment (sender : TCPSender) : TCPSender :=
  sender.send sender.emptySegment

/-! ## What an acknowledgment and a tick can do -/

/-- The sender after an acknowledgment has been taken in, before it fills the
window: only the window has changed, and only if the ACK was accepted. -/
structure TookAck (sender : TCPSender) (ackno : WrappingInt32) (windowSize : UInt16)
    (updated : TCPSender) : Prop where
  stream_eq : updated.stream = sender.stream
  segmentsOut_eq : updated.segmentsOut = sender.segmentsOut
  isn_eq : updated.window.isn = sender.window.isn
  nextSeqno_eq : updated.window.nextSeqno = sender.window.nextSeqno
  firstSeqno_eq : updated.window.firstSeqno =
    if sender.window.Accepts ackno then unwrap ackno sender.window.isn sender.window.nextSeqno
    else sender.window.firstSeqno
  windowSize_eq : updated.window.windowSize =
    if sender.window.Accepts ackno then max 1 windowSize.toNat else sender.window.windowSize
  outstanding_eq :
    (updated.window.firstSeqno = sender.window.firstSeqno ∧
        updated.window.outstanding = sender.window.outstanding) ∨
      (sender.window.Accepts ackno ∧
        sender.window.firstSeqno < unwrap ackno sender.window.isn sender.window.nextSeqno ∧
        Exists fun buffer =>
          sender.window.eraseAcked (unwrap ackno sender.window.isn sender.window.nextSeqno) =
              .ok buffer ∧
            updated.window.outstanding = buffer.map (fun entry => entry.segment))

/-- An acknowledgment only takes segments out of the queue. -/
theorem TookAck.mem_outstanding {sender updated : TCPSender} {ackno : WrappingInt32}
    {windowSize : UInt16} (took : sender.TookAck ackno windowSize updated) {segment : TCPSegment}
    (member : segment ∈ updated.window.outstanding) : segment ∈ sender.window.outstanding := by
  rcases took.outstanding_eq with ⟨_, same⟩ | ⟨_, _, buffer, erased, rest⟩
  · exact same ▸ member
  · rw [rest] at member
    rcases List.mem_map.mp member with ⟨entry, inside, rfl⟩
    exact List.mem_map_of_mem (TCPSendingWindow.mem_of_eraseAcked erased inside)

theorem max_one_toNat (windowSize : UInt16) :
    (max windowSize 1).toNat = max 1 windowSize.toNat := by
  change (if windowSize ≤ 1 then 1 else windowSize).toNat = _
  have compare : windowSize ≤ 1 <-> windowSize.toNat ≤ 1 := UInt16.le_iff_toNat_le
  by_cases less : windowSize ≤ 1
  · rw [if_pos less, max_eq_left (compare.mp less)]
    rfl
  · rw [if_neg less, max_eq_right (Nat.le_of_not_le (mt compare.mpr less))]

/-- An acknowledgment is rejected, or it repeats the last one, or it acknowledges new
data and restarts the timers. -/
theorem takeAck_cases {sender updated : TCPSender} {ackno : WrappingInt32} {windowSize : UInt16}
    (taken : sender.takeAck ackno windowSize = .ok updated) :
    (¬ sender.window.Accepts ackno ∧
        updated = { sender with windowSizeIsZero := windowSize == 0 }) ∨
      (sender.window.Accepts ackno ∧
        unwrap ackno sender.window.isn sender.window.nextSeqno = sender.window.firstSeqno ∧
        updated = { sender with
          window := { sender.window with windowSize := (max windowSize 1).toNat }
          windowSizeIsZero := windowSize == 0 }) ∨
      (sender.window.Accepts ackno ∧
        sender.window.firstSeqno < unwrap ackno sender.window.isn sender.window.nextSeqno ∧
        Exists fun buffer =>
          sender.window.eraseAcked
            (unwrap ackno sender.window.isn sender.window.nextSeqno) = .ok buffer ∧
          updated = TCPSender.restartTimers { sender with
            window := { sender.window with
              buffer := buffer
              firstSeqno := unwrap ackno sender.window.isn sender.window.nextSeqno
              windowSize := (max windowSize 1).toNat }
            windowSizeIsZero := windowSize == 0 }) := by
  unfold takeAck at taken
  cases received : sender.window.ackReceived ackno (max windowSize 1) with
  | error fault =>
      rw [received] at taken
      cases taken
  | ok result =>
      rw [received] at taken
      cases taken
      rcases TCPSendingWindow.ackReceived_cases received with
        ⟨rejected, window_eq, fresh_eq⟩ | ⟨accepts, same, window_eq, fresh_eq⟩ |
          ⟨accepts, above, buffer, erased, window_eq, fresh_eq⟩
      · rw [fresh_eq, window_eq]
        exact Or.inl ⟨rejected, rfl⟩
      · rw [fresh_eq, window_eq]
        exact Or.inr (Or.inl ⟨accepts, same, rfl⟩)
      · rw [fresh_eq, window_eq]
        exact Or.inr (Or.inr ⟨accepts, above, buffer, erased, rfl⟩)

theorem takeAck_spec {sender updated : TCPSender} {ackno : WrappingInt32} {windowSize : UInt16}
    (taken : sender.takeAck ackno windowSize = .ok updated) :
    sender.TookAck ackno windowSize updated := by
  rcases takeAck_cases taken with ⟨rejected, rfl⟩ | ⟨accepts, same, rfl⟩ |
    ⟨accepts, above, buffer, erased, rfl⟩
  · exact ⟨rfl, rfl, rfl, rfl, (if_neg rejected).symm, (if_neg rejected).symm,
      Or.inl ⟨rfl, rfl⟩⟩
  · refine ⟨rfl, rfl, rfl, rfl, ?_, ?_, Or.inl ⟨rfl, rfl⟩⟩
    · rw [if_pos accepts, same]
    · rw [if_pos accepts]
      exact max_one_toNat windowSize
  · refine ⟨rfl, rfl, rfl, rfl, (if_pos accepts).symm, ?_, Or.inr ⟨accepts, above, buffer,
      erased, ?_⟩⟩
    · rw [if_pos accepts]
      exact max_one_toNat windowSize
    · exact TCPSendingWindow.resetTimer_outstanding _ _

/-- The sender after a tick: only timers have changed, and at most one
outstanding segment has been sent again. -/
structure Ticked (sender updated : TCPSender) : Prop where
  stream_eq : updated.stream = sender.stream
  isn_eq : updated.window.isn = sender.window.isn
  firstSeqno_eq : updated.window.firstSeqno = sender.window.firstSeqno
  nextSeqno_eq : updated.window.nextSeqno = sender.window.nextSeqno
  windowSize_eq : updated.window.windowSize = sender.window.windowSize
  outstanding_eq : updated.window.outstanding = sender.window.outstanding
  segmentsOut_eq : Exists fun again =>
    updated.segmentsOut = sender.segmentsOut ++ again ∧
      forall segment, segment ∈ again -> segment ∈ sender.window.outstanding

theorem tick_spec (sender : TCPSender) (msSinceLastTick : Nat) :
    sender.Ticked (sender.tick msSinceLastTick) := by
  unfold tick
  dsimp only
  cases expired : (sender.window.tick msSinceLastTick).2 with
  | nil =>
      refine ⟨rfl, rfl, rfl, rfl, rfl, sender.window.tick_outstanding _, [], ?_, ?_⟩
      · exact (List.append_nil _).symm
      · intro segment member
        cases member
  | cons oldest rest =>
      refine ⟨rfl, rfl, rfl, rfl, rfl, ?_, [oldest], rfl, ?_⟩
      · exact (TCPSendingWindow.resetTimer_outstanding _ _).trans
          (sender.window.tick_outstanding _)
      · intro segment member
        rw [List.mem_singleton.mp member]
        apply TCPSendingWindow.mem_outstanding_of_expired
        rw [expired]
        exact List.mem_cons_self

/-- With nothing outstanding a tick does nothing. -/
theorem tick_of_buffer_nil {sender : TCPSender} (nothing : sender.window.buffer = [])
    (msSinceLastTick : Nat) : sender.tick msSinceLastTick = sender := by
  have still : sender.window.tick msSinceLastTick = (sender.window, []) := by
    unfold TCPSendingWindow.tick
    rw [nothing]
    simp only [List.map_nil, List.filter_nil]
    rw [← nothing]
  unfold tick
  rw [still]

/-- The timeout behind a retransmission. -/
def backedOff (sender : TCPSender) : Nat :=
  if sender.windowSizeIsZero then sender.rto else sender.rto * 2 % 2 ^ 64

/-- If the first countdown has ended, a tick sends the first segment again. -/
theorem tick_of_front {sender : TCPSender} {first : TCPSegmentForSender}
    {rest : List TCPSegmentForSender} {msSinceLastTick : Nat}
    (buffer : sender.window.buffer = first :: rest)
    (expired : ¬ first.remainingRto > msSinceLastTick) :
    sender.tick msSinceLastTick =
      { sender with
        rto := sender.backedOff
        window := (sender.window.tick msSinceLastTick).1.resetTimer sender.backedOff
        consecutiveRetransmissionCount :=
          sender.consecutiveRetransmissionCount + 1 }.send first.segment := by
  have oldest : Exists fun others =>
      (sender.window.tick msSinceLastTick).2 = first.segment :: others := by
    unfold TCPSendingWindow.tick
    dsimp only
    rw [buffer, List.filter_cons_of_pos (by simpa using expired), List.map_cons]
    exact ⟨_, rfl⟩
  rcases oldest with ⟨others, segments⟩
  unfold tick
  dsimp only
  rw [segments]
  rfl

/-! ## What filling the window can do -/

/-- The sender after a SYN, or after one round of the sending loop. -/
def afterSending (sender : TCPSender) (segment : TCPSegment) : TCPSender :=
  { sender with
    window := sender.window.appended segment sender.rto
    segmentsOut := sender.segmentsOut ++ [segment] }

/-- A round of the loop goes on: the SYN is out, there is something to send,
room for it, and the FIN is not known to be out. -/
structure MaySend (sender : TCPSender) : Prop where
  notClosed : sender.state ≠ .closed
  wants : sender.wantsToSend = true
  notFinSent : sender.state ≠ .finSent
  notFinAcked : sender.state ≠ .finAcked
  nonempty : sender.dataSegment.lengthInSequenceSpace ≠ 0

/-- Filling the window emits a list of segments one by one. -/
inductive Sends : TCPSender -> List TCPSegment -> TCPSender -> Prop where
  | rest (sender : TCPSender) : Sends sender [] sender
  | syn {sender final : TCPSender} {segments : List TCPSegment}
      (closed : sender.state = .closed) (room : sender.window.full = false)
      (onward : Sends (sender.afterSending sender.synSegment) segments final) :
      Sends sender (sender.synSegment :: segments) final
  | data {sender final : TCPSender} {segments : List TCPSegment} (may : sender.MaySend)
      (onward : Sends (sender.popPayload.afterSending sender.dataSegment) segments final) :
      Sends sender (sender.dataSegment :: segments) final

theorem Sends.segmentsOut_eq {sender final : TCPSender} {segments : List TCPSegment}
    (sends : Sends sender segments final) :
    final.segmentsOut = sender.segmentsOut ++ segments := by
  induction sends with
  | rest sender => exact (List.append_nil _).symm
  | syn closed room onward ih =>
      rw [ih]
      exact List.append_assoc _ _ _
  | data may onward ih =>
      rw [ih]
      exact List.append_assoc _ _ _

theorem Sends.outstanding_eq {sender final : TCPSender} {segments : List TCPSegment}
    (sends : Sends sender segments final) :
    final.window.outstanding = sender.window.outstanding ++ segments := by
  induction sends with
  | rest sender => exact (List.append_nil _).symm
  | syn closed room onward ih =>
      rw [ih]
      change (TCPSendingWindow.appended _ _ _).outstanding ++ _ = _
      rw [TCPSendingWindow.appended_outstanding, List.append_assoc]
      rfl
  | data may onward ih =>
      rw [ih]
      change (TCPSendingWindow.appended _ _ _).outstanding ++ _ = _
      rw [TCPSendingWindow.appended_outstanding, List.append_assoc]
      rfl

/-- The sender itself acknowledges nothing. -/
theorem Sends.noAck {sender final : TCPSender} {segments : List TCPSegment}
    (sends : Sends sender segments final) :
    forall segment, segment ∈ segments -> segment.header.ack = false := by
  induction sends with
  | rest sender =>
      intro segment member
      cases member
  | syn closed room onward ih =>
      intro segment member
      rcases List.mem_cons.mp member with rfl | later
      · rfl
      · exact ih segment later
  | data may onward ih =>
      intro segment member
      rcases List.mem_cons.mp member with rfl | later
      · rfl
      · exact ih segment later

/-- What filling the window leaves alone, and that numbers only move on. -/
structure KeepsBasics (sender final : TCPSender) : Prop where
  isn_eq : final.window.isn = sender.window.isn
  firstSeqno_eq : final.window.firstSeqno = sender.window.firstSeqno
  windowSize_eq : final.window.windowSize = sender.window.windowSize
  nextSeqno_le : sender.window.nextSeqno ≤ final.window.nextSeqno
  bytesRead_le : sender.stream.bytesRead ≤ final.stream.bytesRead
  bytesWritten_eq : final.stream.bytesWritten = sender.stream.bytesWritten
  endFlag_eq : final.stream.endFlag = sender.stream.endFlag
  error_eq : final.stream.error = sender.stream.error

theorem Sends.frame {sender final : TCPSender} {segments : List TCPSegment}
    (sends : Sends sender segments final) : sender.KeepsBasics final := by
  induction sends with
  | rest sender => exact ⟨rfl, rfl, rfl, Nat.le_refl _, Nat.le_refl _, rfl, rfl, rfl⟩
  | syn closed room onward ih =>
      exact ⟨ih.isn_eq, ih.firstSeqno_eq, ih.windowSize_eq,
        Nat.le_trans (Nat.le_add_right _ _) ih.nextSeqno_le, ih.bytesRead_le, ih.bytesWritten_eq,
        ih.endFlag_eq, ih.error_eq⟩
  | data may onward ih =>
      exact ⟨ih.isn_eq, ih.firstSeqno_eq, ih.windowSize_eq,
        Nat.le_trans (Nat.le_add_right _ _) ih.nextSeqno_le,
        Nat.le_trans (Nat.le_add_right _ _) ih.bytesRead_le, ih.bytesWritten_eq, ih.endFlag_eq,
        ih.error_eq⟩

theorem transmit_ok {sender : TCPSender} {segment : TCPSegment}
    (room : sender.window.full = false) (next : segment.header.seqno = sender.nextSeqno) :
    sender.transmit segment = .ok (sender.afterSending segment) := by
  unfold transmit
  rw [TCPSendingWindow.addSegment_ok sender.rto room next]
  rfl

theorem wantsToSend_room {sender : TCPSender} (wants : sender.wantsToSend = true) :
    sender.window.full = false := by
  unfold wantsToSend at wants
  have parts := (Bool.and_eq_true_iff.mp wants).2
  rwa [Bool.not_eq_true'] at parts

theorem MaySend.room {sender : TCPSender} (may : sender.MaySend) :
    sender.window.full = false :=
  wantsToSend_room may.wants

theorem transmit_dataSegment {sender : TCPSender} (room : sender.window.full = false) :
    sender.popPayload.transmit sender.dataSegment =
      .ok (sender.popPayload.afterSending sender.dataSegment) :=
  transmit_ok room rfl

theorem dataSegment_payload (sender : TCPSender) :
    sender.dataSegment.payload = sender.stream.contents.take sender.payloadSize :=
  sender.stream.read_fst sender.payloadSize

theorem dataSegment_payload_length (sender : TCPSender) :
    sender.dataSegment.payload.length = sender.payloadSize := by
  rw [dataSegment_payload, List.length_take, ByteStream.contents_length]
  unfold payloadSize
  omega

theorem popPayload_bytesRead (sender : TCPSender) :
    sender.popPayload.stream.bytesRead =
      sender.stream.bytesRead + sender.dataSegment.payload.length := by
  rw [dataSegment_payload_length]
  unfold popPayload payloadSize
  rw [ByteStream.read_snd, ByteStream.popOutput_bytesRead]
  omega

theorem dataSegment_length (sender : TCPSender) :
    sender.dataSegment.lengthInSequenceSpace =
      sender.dataSegment.payload.length + if sender.dataSegment.header.fin then 1 else 0 :=
  rfl

theorem dataSegment_fin_eof {sender : TCPSender} (fin : sender.dataSegment.header.fin = true) :
    sender.popPayload.stream.eof = true :=
  (Bool.and_eq_true_iff.mp fin).1

/-- At the end of a stream every written byte has been read. -/
theorem bytesRead_of_eof {stream : ByteStream} (eof : stream.eof = true) :
    stream.bytesRead = stream.bytesWritten := by
  have balance := stream.bytesWritten_eq
  have empty := ((stream.eof_iff).mp eof).2
  omega

/-- A round that builds an empty segment reads nothing from the stream. -/
theorem popPayload_of_empty {sender : TCPSender}
    (empty : sender.dataSegment.lengthInSequenceSpace = 0) : sender.popPayload = sender := by
  have none : sender.payloadSize = 0 := by
    have := sender.dataSegment.payload_length_le
    have := sender.dataSegment_payload_length
    omega
  unfold popPayload
  rw [ByteStream.read_snd, none, ByteStream.popOutput_zero]

theorem state_closed_iff (sender : TCPSender) :
    sender.state = .closed <->
      sender.stream.error = false ∧ sender.window.nextSeqno = 0 := by
  unfold state nextSeqnoAbsolute
  cases sender.stream.error with
  | true => simp
  | false =>
      by_cases zero : sender.window.nextSeqno = 0
      · simp [zero]
      · rw [if_neg Bool.false_ne_true, if_neg zero]
        constructor
        · intro closed
          split_ifs at closed
        · intro closed
          exact absurd closed.2 zero

/-- A sender in the error state sends no SYN. -/
theorem Sends.noSyn_of_error {sender final : TCPSender} {segments : List TCPSegment}
    (sends : Sends sender segments final) (failed : sender.stream.error = true) :
    forall segment, segment ∈ segments -> segment.header.syn = false := by
  induction sends with
  | rest sender =>
      intro segment member
      cases member
  | syn closed room onward ih =>
      have noError := ((state_closed_iff _).mp closed).1
      rw [failed] at noError
      cases noError
  | data may onward ih =>
      intro segment member
      rcases List.mem_cons.mp member with rfl | later
      · rfl
      · exact ih failed segment later

/-- Once a sequence number has been used, the sender is no longer closed. -/
theorem afterSending_not_closed (sender : TCPSender) {segment : TCPSegment}
    (nonempty : segment.lengthInSequenceSpace ≠ 0) :
    (sender.afterSending segment).state ≠ .closed := by
  intro closed
  have zero := ((state_closed_iff _).mp closed).2
  simp only [afterSending, TCPSendingWindow.appended] at zero
  omega

/-- After its SYN a sender is no longer closed. -/
theorem afterSyn_not_closed (sender : TCPSender) :
    (sender.afterSending sender.synSegment).state ≠ .closed :=
  sender.afterSending_not_closed Nat.one_ne_zero

theorem fillLoop_sends (rounds : Nat) (sender : TCPSender)
    (notClosed : sender.state ≠ .closed) :
    Exists fun final => Exists fun segments =>
      fillLoop rounds sender = .ok final ∧ Sends sender segments final := by
  induction rounds generalizing sender with
  | zero => exact ⟨sender, [], rfl, .rest sender⟩
  | succ rounds ih =>
      unfold fillLoop
      by_cases wants : sender.wantsToSend = true
      · rw [if_pos wants]
        by_cases finished : sender.state = .finSent ∨ sender.state = .finAcked
        · rw [if_pos finished]
          exact ⟨sender, [], rfl, .rest sender⟩
        · rw [if_neg finished]
          by_cases nonempty : sender.dataSegment.lengthInSequenceSpace ≠ 0
          · have may : sender.MaySend :=
              ⟨notClosed, wants, fun sent => finished (Or.inl sent),
                fun acked => finished (Or.inr acked), nonempty⟩
            rw [if_pos nonempty, transmit_dataSegment may.room]
            rcases ih (sender.popPayload.afterSending sender.dataSegment)
                (afterSending_not_closed _ nonempty) with
              ⟨final, segments, looped, sends⟩
            exact ⟨final, sender.dataSegment :: segments, looped, .data may sends⟩
          · rw [if_neg nonempty, popPayload_of_empty (not_not.mp nonempty)]
            exact ⟨sender, [], rfl, .rest sender⟩
      · rw [if_neg wants]
        exact ⟨sender, [], rfl, .rest sender⟩

/-- Filling the window: a closed sender first sends its SYN, for which there
must be room, and then the loop runs. -/
theorem fillWindow_cases {sender final : TCPSender} (filled : sender.fillWindow = .ok final) :
    (sender.state = .closed ∧ sender.window.full = false ∧
      fillLoop ((sender.afterSending sender.synSegment).window.space + 1)
        (sender.afterSending sender.synSegment) = .ok final) ∨
    (sender.state ≠ .closed ∧ fillLoop (sender.window.space + 1) sender = .ok final) := by
  unfold fillWindow openIfClosed at filled
  by_cases closed : sender.state = .closed
  · rw [if_pos closed] at filled
    cases full : sender.window.full with
    | true =>
        unfold transmit at filled
        rw [TCPSendingWindow.addSegment_full _ _ full] at filled
        cases filled
    | false =>
        rw [transmit_ok full rfl] at filled
        exact Or.inl ⟨closed, rfl, filled⟩
  · rw [if_neg closed] at filled
    exact Or.inr ⟨closed, filled⟩

/-- Whatever filling the window does, it does by sending. -/
theorem fillWindow_sends {sender final : TCPSender} (filled : sender.fillWindow = .ok final) :
    Exists fun segments => Sends sender segments final := by
  rcases fillWindow_cases filled with ⟨closed, room, loops⟩ | ⟨notClosed, loops⟩
  · rcases fillLoop_sends ((sender.afterSending sender.synSegment).window.space + 1) _
      sender.afterSyn_not_closed with ⟨last, segments, looped, sends⟩
    cases looped.symm.trans loops
    exact ⟨sender.synSegment :: segments, .syn closed room sends⟩
  · rcases fillLoop_sends (sender.window.space + 1) sender notClosed with
      ⟨last, segments, looped, sends⟩
    cases looped.symm.trans loops
    exact ⟨segments, sends⟩

/-- An acknowledgment is taken in and then the window is filled. -/
theorem ackReceived_parts {sender filled : TCPSender} {ackno : WrappingInt32}
    {windowSize : UInt16} (received : sender.ackReceived ackno windowSize = .ok filled) :
    Exists fun updated => Exists fun segments =>
      sender.takeAck ackno windowSize = .ok updated ∧ Sends updated segments filled := by
  unfold ackReceived at received
  cases took : sender.takeAck ackno windowSize with
  | error fault =>
      rw [took] at received
      cases received
  | ok updated =>
      rw [took] at received
      rcases fillWindow_sends received with ⟨segments, sends⟩
      exact ⟨updated, segments, rfl, sends⟩

theorem ackReceived_spec {sender filled : TCPSender} {ackno : WrappingInt32}
    {windowSize : UInt16} (received : sender.ackReceived ackno windowSize = .ok filled) :
    Exists fun updated => Exists fun segments =>
      sender.TookAck ackno windowSize updated ∧ Sends updated segments filled := by
  rcases ackReceived_parts received with ⟨updated, segments, taken, sends⟩
  exact ⟨updated, segments, takeAck_spec taken, sends⟩

/-- Filling the window faults only if the SYN meets a full window. -/
theorem fillWindow_ok {sender : TCPSender}
    (room : sender.state = .closed -> sender.window.full = false) :
    Exists fun final => sender.fillWindow = .ok final := by
  unfold fillWindow openIfClosed
  by_cases closed : sender.state = .closed
  · rw [if_pos closed, transmit_ok (room closed) rfl]
    rcases fillLoop_sends ((sender.afterSending sender.synSegment).window.space + 1) _
      sender.afterSyn_not_closed with ⟨last, _, looped, _⟩
    exact ⟨last, looped⟩
  · rw [if_neg closed]
    rcases fillLoop_sends (sender.window.space + 1) sender closed with ⟨last, _, looped, _⟩
    exact ⟨last, looped⟩

/-! ## The loop comes to rest -/

/-- A new segment never needs more than the free space. -/
theorem dataSegment_length_le (sender : TCPSender) :
    sender.dataSegment.lengthInSequenceSpace ≤ sender.window.space := by
  have payload := sender.dataSegment_payload_length
  have small : sender.payloadSize ≤ sender.window.space := Nat.min_le_left _ _
  unfold TCPSegment.lengthInSequenceSpace
  have noSyn : sender.dataSegment.header.syn = false := rfl
  rw [noSyn, if_neg Bool.false_ne_true]
  by_cases fin : sender.dataSegment.header.fin = true
  · have room := of_decide_eq_true (Bool.and_eq_true_iff.mp fin).2
    change sender.dataSegment.payload.length < _ at room
    rw [if_pos fin]
    omega
  · rw [if_neg fin]
    omega

/-- Each round takes its segment's length out of the free space. -/
theorem afterSending_space {sender : TCPSender} {segment : TCPSegment}
    (ordered : sender.window.firstSeqno ≤ sender.window.nextSeqno)
    (fits : segment.lengthInSequenceSpace ≤ sender.window.space) :
    (sender.afterSending segment).window.space =
      sender.window.space - segment.lengthInSequenceSpace := by
  simp only [afterSending, TCPSendingWindow.appended, TCPSendingWindow.space,
    TCPSendingWindow.bytesInFlight] at fits ⊢
  have flight : sender.window.nextSeqno + segment.lengthInSequenceSpace -
      sender.window.firstSeqno = sender.window.nextSeqno - sender.window.firstSeqno +
        segment.lengthInSequenceSpace := by omega
  rw [flight]
  exact sub64_add fits

theorem fillLoop_rests {rounds : Nat} {sender final : TCPSender}
    (ordered : sender.window.firstSeqno ≤ sender.window.nextSeqno)
    (enough : sender.window.space < rounds) (looped : fillLoop rounds sender = .ok final) :
    ¬ final.MaySend := by
  induction rounds generalizing sender with
  | zero => omega
  | succ rounds ih =>
      unfold fillLoop at looped
      split at looped
      · rename_i wants
        split at looped
        · rename_i finished
          cases looped
          intro may
          exact finished.elim may.notFinSent may.notFinAcked
        · split at looped
          · rename_i nonempty
            rw [transmit_dataSegment (wantsToSend_room wants)] at looped
            have fits := sender.dataSegment_length_le
            have shrinks : (sender.popPayload.afterSending sender.dataSegment).window.space =
                sender.window.space - sender.dataSegment.lengthInSequenceSpace :=
              afterSending_space ordered fits
            apply ih _ _ looped
            · exact Nat.le_trans ordered (Nat.le_add_right _ _)
            · omega
          · rename_i empty
            rw [popPayload_of_empty (not_not.mp empty)] at looped
            cases looped
            intro may
            exact empty may.nonempty
      · rename_i idle
        cases looped
        intro may
        exact idle may.wants

/-- The rounds provided suffice: filled, the window has nothing more to
send. -/
theorem fillWindow_rests {sender final : TCPSender}
    (ordered : sender.window.firstSeqno ≤ sender.window.nextSeqno)
    (filled : sender.fillWindow = .ok final) : ¬ final.MaySend := by
  rcases fillWindow_cases filled with ⟨_, _, loops⟩ | ⟨_, loops⟩
  · apply fillLoop_rests _ (Nat.lt_succ_self _) loops
    exact Nat.le_trans ordered (Nat.le_add_right _ _)
  · exact fillLoop_rests ordered (Nat.lt_succ_self _) loops

end TCPSender
end Tcp
end Sponge
