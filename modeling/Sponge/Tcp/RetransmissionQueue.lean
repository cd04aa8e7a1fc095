import Sponge.Foundation.ConsecutiveBlocks
import Sponge.Tcp.SenderRuns

namespace Sponge
namespace Tcp

open Foundation Bytes

/-!
# The retransmission queue

The outstanding segments fill the sequence numbers from the start of the
first one up to the next number to be sent, and the first unacknowledged
number lies in the first of them.  While numbers stay below `2^31` a wrapped
sequence number determines its absolute one, so the backward scan of
`ack_received` finds the segment an acknowledgment falls into.
-/

/-- Segments laid out from `start` to `next`, of which the first is not
acknowledged in full. -/
structure Retains (isn : WrappingInt32) (first next start : Nat)
    (segments : List TCPSegment) : Prop where
  laid : Consecutive (fun segment q => segment.header.seqno = wrap q isn)
    TCPSegment.lengthInSequenceSpace start segments next
  start_le : start ≤ first
  ordered : first ≤ next
  reaches : forall segment, segments.head? = some segment ->
    first < start + segment.lengthInSequenceSpace

theorem retains_nil (isn : WrappingInt32) (next : Nat) : Retains isn next next next [] where
  laid := rfl
  start_le := Nat.le_refl _
  ordered := Nat.le_refl _
  reaches := fun _ none => nomatch none

/-- One more segment that carries the next sequence number. -/
theorem Retains.snoc {isn : WrappingInt32} {first next start : Nat} {segments : List TCPSegment}
    (retains : Retains isn first next start segments) {segment : TCPSegment}
    (seqno : segment.header.seqno = wrap next isn)
    (nonempty : segment.lengthInSequenceSpace ≠ 0) :
    Retains isn first (next + segment.lengthInSequenceSpace) start (segments ++ [segment]) where
  laid := retains.laid.snoc seqno (Nat.pos_of_ne_zero nonempty)
  start_le := retains.start_le
  ordered := Nat.le_trans retains.ordered (Nat.le_add_right _ _)
  reaches := by
    intro head found
    cases segments with
    | nil =>
        cases found
        have ends : start = next := retains.laid
        have := retains.ordered
        omega
    | cons other segments =>
        cases found
        exact retains.reaches head rfl

namespace TCPSendingWindow

/-- The window retains its outstanding segments from `start` on. -/
def RetainsFrom (window : TCPSendingWindow) (start : Nat) : Prop :=
  Retains window.isn window.firstSeqno window.nextSeqno start window.outstanding

/-- Below `2^31` the window unwraps every sequence number it has wrapped. -/
theorem absoluteSeqno_eq {window : TCPSendingWindow} {segment : TCPSegment} {q : Nat}
    (low : window.nextSeqno < 2 ^ 31) (below : q < 2 ^ 32)
    (seqno : segment.header.seqno = wrap q window.isn) : window.absoluteSeqno segment = q := by
  unfold absoluteSeqno
  rw [seqno]
  exact unwrap_wrap_of_low window.isn below (Nat.le_of_lt low)

/-- The entries of the buffer, at the places the window computes for them. -/
theorem RetainsFrom.entries {window : TCPSendingWindow} {start : Nat}
    (retains : window.RetainsFrom start) (low : window.nextSeqno < 2 ^ 31) :
    Consecutive (fun (entry : TCPSegmentForSender) q => window.absoluteSeqno entry.segment = q)
      (fun entry => entry.segment.lengthInSequenceSpace) start window.buffer
      window.nextSeqno := by
  apply (consecutive_map.mp retains.laid).imp
  intro entry q below seqno
  exact absoluteSeqno_eq low (by omega) seqno

/-- The scan stops at the last entry that starts below the ackno. -/
theorem scanBack_eq {window : TCPSendingWindow} {ackSeqno i n : Nat}
    {entry : TCPSegmentForSender} (found : window.buffer[i]? = some entry)
    (starts : window.absoluteSeqno entry.segment < ackSeqno)
    (later : forall j other, i < j -> window.buffer[j]? = some other ->
      ackSeqno ≤ window.absoluteSeqno other.segment)
    (above : i < n) (within : n ≤ window.buffer.length) :
    window.scanBack ackSeqno n = some i := by
  induction n with
  | zero => exact absurd above (Nat.not_lt_zero i)
  | succ n ih =>
      have inside : n < window.buffer.length := within
      unfold scanBack
      by_cases here : n = i
      · cases here
        rw [found]
        exact if_pos starts
      · have less : i < n := by omega
        have stays := later n window.buffer[n] less (List.getElem?_eq_getElem inside)
        rw [List.getElem?_eq_getElem inside]
        dsimp only
        rw [if_neg (Nat.not_lt_of_ge stays)]
        exact ih less (Nat.le_of_lt inside)

/-- An acknowledgment of new data finds the segment it falls into, and what
remains is again a queue whose first segment is not acknowledged in full. -/
theorem RetainsFrom.eraseAcked {window : TCPSendingWindow} {start ackSeqno : Nat}
    (retains : window.RetainsFrom start) (low : window.nextSeqno < 2 ^ 31)
    (fresh : window.firstSeqno < ackSeqno) (within : ackSeqno ≤ window.nextSeqno) :
    Exists fun buffer => Exists fun start' =>
      window.eraseAcked ackSeqno = .ok buffer ∧
        Retains window.isn ackSeqno window.nextSeqno start'
          (buffer.map (fun entry => entry.segment)) := by
  have entries := retains.entries low
  have startLe : start ≤ ackSeqno - 1 := by
    have := retains.start_le
    omega
  rcases entries.covers startLe (by omega) with ⟨i, entry, found, starts, ends⟩
  have later : forall j other, i < j -> window.buffer[j]? = some other ->
      ackSeqno ≤ window.absoluteSeqno other.segment := by
    intro j other less at_j
    have := entries.before_lt less found at_j
    omega
  rcases List.getElem?_eq_some_iff.mp found with ⟨inside, value⟩
  have scanned : window.scanBack ackSeqno window.buffer.length = some i :=
    scanBack_eq found (by omega) later inside (Nat.le_refl _)
  have dropped : window.buffer.drop i = entry :: window.buffer.drop (i + 1) := by
    rw [List.drop_eq_getElem_cons inside, value]
  have laid := retains.laid
  unfold outstanding at laid
  rw [← List.take_append_drop i window.buffer, dropped, List.map_append] at laid
  rcases laid.split with ⟨middle, _, seqno, positive, rest⟩
  dsimp only at positive rest
  have bound := rest.le
  have place : window.absoluteSeqno entry.segment = middle :=
    absoluteSeqno_eq low (by omega) seqno
  unfold TCPSendingWindow.eraseAcked
  rw [scanned]
  dsimp only
  rw [dropped]
  dsimp only
  by_cases whole : ackSeqno ≥ window.absoluteSeqno entry.segment +
      entry.segment.lengthInSequenceSpace
  · refine ⟨_, middle + entry.segment.lengthInSequenceSpace, if_pos whole, ?_⟩
    refine ⟨rest, by omega, within, ?_⟩
    intro segment head
    rcases rest.mem (List.mem_of_mem_head? head) with ⟨_, _, _, nonempty, _⟩
    omega
  · refine ⟨_, middle, if_neg whole, ?_⟩
    refine ⟨⟨seqno, positive, rest⟩, by omega, within, ?_⟩
    intro segment head
    cases head
    dsimp only
    omega

theorem new_retainsFrom (isn : WrappingInt32) (windowSize : Nat) :
    (new isn windowSize).RetainsFrom 0 :=
  retains_nil isn 0

theorem RetainsFrom.appended {window : TCPSendingWindow} {start : Nat}
    (retains : window.RetainsFrom start) {segment : TCPSegment} (rto : Nat)
    (seqno : segment.header.seqno = wrap window.nextSeqno window.isn)
    (nonempty : segment.lengthInSequenceSpace ≠ 0) :
    (window.appended segment rto).RetainsFrom start := by
  unfold RetainsFrom
  rw [appended_outstanding]
  exact Retains.snoc retains seqno nonempty

/-- A window that has sent nothing has room for the SYN. -/
theorem RetainsFrom.unused_not_full {window : TCPSendingWindow} {start : Nat}
    (retains : window.RetainsFrom start) (unused : window.nextSeqno = 0)
    (opened : 0 < window.windowSize) : window.full = false := by
  have total := retains.laid.sum_eq
  have empty : window.buffer = [] := by
    cases shape : window.buffer with
    | nil => rfl
    | cons entry rest =>
        have member : entry.segment ∈ window.outstanding := by
          unfold outstanding
          rw [shape]
          exact List.mem_cons_self
        rcases retains.laid.mem member with ⟨_, _, _, _, _⟩
        omega
  unfold full windowClosed bufferEmpty
  rw [empty, beq_eq_false_iff_ne.mpr (Nat.ne_of_gt opened)]
  rfl

/-- What the queue looks like, in the numbers the code computes. -/
structure Ordered (window : TCPSendingWindow) : Prop where
  nonempty : forall entry, entry ∈ window.buffer -> 0 < entry.segment.lengthInSequenceSpace
  contiguous : forall (i : Nat) entry next, window.buffer[i]? = some entry ->
    window.buffer[i + 1]? = some next ->
      window.absoluteSeqno entry.segment + entry.segment.lengthInSequenceSpace =
        window.absoluteSeqno next.segment
  last : forall entry, window.buffer.getLast? = some entry ->
    window.absoluteSeqno entry.segment + entry.segment.lengthInSequenceSpace = window.nextSeqno
  empty_iff : window.buffer = [] <-> window.firstSeqno = window.nextSeqno
  head : forall entry, window.buffer.head? = some entry ->
    window.absoluteSeqno entry.segment ≤ window.firstSeqno ∧
      window.firstSeqno <
        window.absoluteSeqno entry.segment + entry.segment.lengthInSequenceSpace
  flight : window.bytesInFlight =
    (window.buffer.map (fun entry => entry.segment.lengthInSequenceSpace)).sum -
      match window.buffer.head? with
      | none => 0
      | some entry => window.firstSeqno - window.absoluteSeqno entry.segment

/-- The first outstanding segment stands at the start and is not acknowledged
in full. -/
theorem RetainsFrom.head {window : TCPSendingWindow} {start : Nat}
    (retains : window.RetainsFrom start) (low : window.nextSeqno < 2 ^ 31)
    {entry : TCPSegmentForSender} (found : window.buffer.head? = some entry) :
    window.absoluteSeqno entry.segment = start ∧
      window.firstSeqno < start + entry.segment.lengthInSequenceSpace ∧
      start + entry.segment.lengthInSequenceSpace ≤ window.nextSeqno := by
  have entries := retains.entries low
  have reaches : window.firstSeqno < start + entry.segment.lengthInSequenceSpace := by
    apply retains.reaches
    unfold outstanding
    rw [List.head?_map, found]
    rfl
  cases shape : window.buffer with
  | nil =>
      rw [shape] at found
      cases found
  | cons other rest =>
      rw [shape] at found entries
      cases found
      exact ⟨entries.1, reaches, entries.2.2.le⟩

theorem RetainsFrom.to_ordered {window : TCPSendingWindow} {start : Nat}
    (retains : window.RetainsFrom start) (low : window.nextSeqno < 2 ^ 31) :
    window.Ordered := by
  have entries := retains.entries low
  have total := entries.sum_eq
  have startLe := retains.start_le
  have ordered := retains.ordered
  refine ⟨?_, ?_, ?_, ?_, ?_, ?_⟩
  · intro entry member
    rcases entries.mem member with ⟨_, _, _, positive, _⟩
    exact positive
  · intro i entry next found after
    exact entries.adjacent found after
  · intro entry found
    exact entries.last_eq found
  · constructor
    · intro empty
      rw [empty] at entries
      have ends : start = window.nextSeqno := entries
      omega
    · intro equal
      cases shape : window.buffer with
      | nil => rfl
      | cons entry rest =>
          have found : window.buffer.head? = some entry := by
            rw [shape]
            rfl
          have := retains.head low found
          omega
  · intro entry found
    have := retains.head low found
    omega
  · unfold bytesInFlight
    cases found : window.buffer.head? with
    | none =>
        dsimp only
        rw [List.head?_eq_none_iff] at found
        rw [found] at total ⊢
        simp only [List.map_nil, List.sum_nil] at total ⊢
        omega
    | some entry =>
        have := retains.head low found
        dsimp only
        omega

end TCPSendingWindow

namespace TCPSender

/-- The sender's part of the invariant: a queue from some start, and a
window that is never closed. -/
def Queued (sender : TCPSender) : Prop :=
  (Exists fun start => sender.window.RetainsFrom start) ∧ 0 < sender.window.windowSize

theorem new_queued (capacity : Capacity) (retxTimeout : UInt16) (isn : WrappingInt32) :
    (new capacity retxTimeout isn).Queued :=
  ⟨⟨0, TCPSendingWindow.new_retainsFrom isn 1⟩, Nat.one_pos⟩

theorem Queued.afterSending {sender : TCPSender} (queued : sender.Queued) {segment : TCPSegment}
    (seqno : segment.header.seqno = sender.nextSeqno)
    (nonempty : segment.lengthInSequenceSpace ≠ 0) : (sender.afterSending segment).Queued := by
  rcases queued with ⟨⟨start, retains⟩, opened⟩
  exact ⟨⟨start, retains.appended sender.rto seqno nonempty⟩, opened⟩

theorem Queued.afterSyn {sender : TCPSender} (queued : sender.Queued) :
    (sender.afterSending sender.synSegment).Queued :=
  queued.afterSending rfl Nat.one_ne_zero

theorem Queued.afterData {sender : TCPSender} (queued : sender.Queued) (may : sender.MaySend) :
    (sender.popPayload.afterSending sender.dataSegment).Queued := by
  have popped : sender.popPayload.Queued := queued
  exact popped.afterSending rfl may.nonempty

theorem Queued.sends {sender filled : TCPSender} {segments : List TCPSegment}
    (queued : sender.Queued) (sends : Sends sender segments filled) : filled.Queued := by
  induction sends with
  | rest sender => exact queued
  | syn closed room onward ih => exact ih queued.afterSyn
  | data may onward ih => exact ih (queued.afterData may)

theorem Queued.ticked {sender updated : TCPSender} (queued : sender.Queued)
    (ticked : sender.Ticked updated) : updated.Queued := by
  rcases queued with ⟨⟨start, retains⟩, opened⟩
  refine ⟨⟨start, ?_⟩, ticked.windowSize_eq ▸ opened⟩
  unfold TCPSendingWindow.RetainsFrom
  rw [ticked.isn_eq, ticked.firstSeqno_eq, ticked.nextSeqno_eq, ticked.outstanding_eq]
  exact retains

theorem Queued.tookAck {sender updated : TCPSender} {ackno : WrappingInt32} {windowSize : UInt16}
    (queued : sender.Queued) (took : sender.TookAck ackno windowSize updated)
    (low : sender.window.nextSeqno < 2 ^ 31) : updated.Queued := by
  rcases queued with ⟨⟨start, retains⟩, opened⟩
  constructor
  · rcases took.outstanding_eq with ⟨first_eq, same⟩ | ⟨accepts, fresh, buffer, erased, rest⟩
    · refine ⟨start, ?_⟩
      unfold TCPSendingWindow.RetainsFrom
      rw [took.isn_eq, first_eq, took.nextSeqno_eq, same]
      exact retains
    · rcases retains.eraseAcked low fresh accepts.2 with ⟨buffer', start', erased', retained⟩
      cases erased.symm.trans erased'
      refine ⟨start', ?_⟩
      unfold TCPSendingWindow.RetainsFrom
      rw [took.isn_eq, took.firstSeqno_eq, if_pos accepts, took.nextSeqno_eq, rest]
      exact retained
  · rw [took.windowSize_eq]
    split
    · exact Nat.lt_of_lt_of_le Nat.one_pos (Nat.le_max_left _ _)
    · exact opened

/-- A queued sender fills its window without a fault. -/
theorem Queued.fillWindow_ok {sender : TCPSender} (queued : sender.Queued) :
    Exists fun filled => sender.fillWindow = .ok filled := by
  rcases queued with ⟨⟨start, retains⟩, opened⟩
  apply TCPSender.fillWindow_ok
  intro closed
  exact retains.unused_not_full ((state_closed_iff sender).mp closed).2 opened

/-- Below `2^31` a queued sender processes every acknowledgment. -/
theorem Queued.takeAck_ok {sender : TCPSender} (queued : sender.Queued) (ackno : WrappingInt32)
    (windowSize : UInt16) (low : sender.window.nextSeqno < 2 ^ 31) :
    Exists fun updated => sender.takeAck ackno windowSize = .ok updated := by
  rcases queued with ⟨⟨start, retains⟩, _⟩
  have processed := sender.window.ackReceived_ok ackno (max windowSize 1) (by
    intro fresh within
    rcases retains.eraseAcked low fresh within with ⟨buffer, _, erased, _⟩
    exact ⟨buffer, erased⟩)
  rcases processed with ⟨result, received⟩
  unfold takeAck
  rw [received]
  exact ⟨_, rfl⟩

/-- So does its whole `ack_received`. -/
theorem Queued.ackReceived_ok {sender : TCPSender} (queued : sender.Queued)
    (ackno : WrappingInt32) (windowSize : UInt16) (low : sender.window.nextSeqno < 2 ^ 31) :
    Exists fun filled => sender.ackReceived ackno windowSize = .ok filled := by
  rcases queued.takeAck_ok ackno windowSize low with ⟨updated, took⟩
  have still := queued.tookAck (takeAck_spec took) low
  unfold ackReceived
  rw [took]
  exact still.fillWindow_ok

end TCPSender

namespace SenderRun

/-- The invariant of a run: a queued sender, whose first unacknowledged
number is the largest number acknowledged so far. -/
structure QueueRun (run : SenderRun) : Prop where
  queued : run.sender.Queued
  largest : run.sender.window.firstSeqno = run.acknos.foldl max 0

theorem new_queueRun (capacity : Capacity) (retxTimeout : UInt16) (isn : WrappingInt32) :
    (new capacity retxTimeout isn).QueueRun :=
  ⟨TCPSender.new_queued capacity retxTimeout isn, rfl⟩

theorem QueueRun.record {run : SenderRun} {segments : List TCPSegment} {filled : TCPSender}
    (queue : run.QueueRun) (sends : TCPSender.Sends run.sender segments filled) :
    (run.record filled).QueueRun := by
  apply record_invariant QueueRun _ _ sends queue
  · intro run _ _ queue
    exact ⟨queue.queued.afterSyn, queue.largest⟩
  · intro run may queue
    exact ⟨queue.queued.afterData may, queue.largest⟩

theorem QueueRun.withAck {run : SenderRun} {ackno : WrappingInt32} {windowSize : UInt16}
    {updated : TCPSender} (queue : run.QueueRun)
    (took : run.sender.TookAck ackno windowSize updated)
    (low : run.sender.window.nextSeqno < 2 ^ 31) :
    (run.withAck ackno windowSize updated).QueueRun := by
  refine ⟨queue.queued.tookAck took low, ?_⟩
  unfold SenderRun.withAck noteAck
  dsimp only
  rw [took.firstSeqno_eq]
  by_cases accepts : run.sender.window.Accepts ackno
  · rw [if_pos accepts, if_pos accepts, List.foldl_append, ← queue.largest]
    exact (max_eq_right accepts.1).symm
  · rw [if_neg accepts, if_neg accepts]
    exact queue.largest

theorem QueueRun.step {run next : SenderRun} {op : SenderOp} (queue : run.QueueRun)
    (taken : run.step op = .ok next) (low : next.sender.window.nextSeqno < 2 ^ 31) :
    next.QueueRun := by
  have before := Nat.lt_of_le_of_lt (step_nextSeqno_le taken) low
  cases op with
  | write data =>
      cases taken
      exact ⟨queue.queued, queue.largest⟩
  | endInput =>
      cases taken
      exact ⟨queue.queued, queue.largest⟩
  | fillWindow =>
      rcases step_fillWindow taken with ⟨filled, segments, sends, rfl⟩
      exact queue.record sends
  | ackReceived ackno windowSize =>
      rcases step_ackReceived taken with ⟨updated, filled, segments, took, sends, rfl⟩
      exact (queue.withAck took before).record sends
  | tick msSinceLastTick =>
      cases taken
      have ticked := run.sender.tick_spec msSinceLastTick
      exact ⟨queue.queued.ticked ticked, ticked.firstSeqno_eq.trans queue.largest⟩
  | sendEmptySegment =>
      cases taken
      exact ⟨queue.queued, queue.largest⟩

/-- From a state of the invariant every operation goes through. -/
theorem QueueRun.step_ok {run : SenderRun} (queue : run.QueueRun)
    (low : run.sender.window.nextSeqno < 2 ^ 31) (op : SenderOp) :
    Exists fun next => run.step op = .ok next := by
  cases op with
  | fillWindow =>
      rcases queue.queued.fillWindow_ok with ⟨filled, done⟩
      unfold SenderRun.step
      dsimp only
      rw [done]
      exact ⟨_, rfl⟩
  | ackReceived ackno windowSize =>
      rcases queue.queued.ackReceived_ok ackno windowSize low with ⟨filled, done⟩
      unfold SenderRun.step
      dsimp only
      rw [done]
      exact ⟨_, rfl⟩
  | _ => exact ⟨_, rfl⟩

/-- The first unacknowledged number never moves back. -/
theorem step_firstSeqno_le {run next : SenderRun} {op : SenderOp}
    (taken : run.step op = .ok next) :
    run.sender.window.firstSeqno ≤ next.sender.window.firstSeqno := by
  cases op with
  | fillWindow =>
      rcases step_fillWindow taken with ⟨filled, segments, sends, rfl⟩
      exact Nat.le_of_eq sends.frame.firstSeqno_eq.symm
  | ackReceived ackno windowSize =>
      rcases step_ackReceived taken with ⟨updated, filled, segments, took, sends, rfl⟩
      have moved := took.firstSeqno_eq
      rw [← sends.frame.firstSeqno_eq] at moved
      change _ ≤ filled.window.firstSeqno
      rw [moved]
      split
      · rename_i accepts
        exact accepts.1
      · exact Nat.le_refl _
  | tick msSinceLastTick =>
      cases taken
      exact Nat.le_of_eq (run.sender.tick_spec msSinceLastTick).firstSeqno_eq.symm
  | _ =>
      cases taken
      exact Nat.le_refl _

theorem queueRun_of_run {capacity : Capacity} {retxTimeout : UInt16} {isn : WrappingInt32}
    {ops : List SenderOp} {final : SenderRun}
    (done : Foundation.run SenderRun.step (SenderRun.new capacity retxTimeout isn) ops = .ok final)
    (low : final.sender.window.nextSeqno < 2 ^ 31) : final.QueueRun := by
  apply run_invariant_within (fun run : SenderRun => run.sender.window.nextSeqno < 2 ^ 31)
    QueueRun _ _ (new_queueRun capacity retxTimeout isn)
    (runMeets_of_forall (fun _ _ => trivial) _ _) done low
  · intro run op next taken within
    exact Nat.lt_of_le_of_lt (step_nextSeqno_le taken) within
  · intro run op next queue _ taken within
    exact queue.step taken within

end SenderRun

/-- In every state of every run below `2^31`, the retransmission queue is in
order, the first unacknowledged number is the largest one acknowledged, and
no operation faults or moves that number back. -/
theorem retransmission_queue_invariant (capacity : Capacity) (retxTimeout : UInt16)
    (isn : WrappingInt32) (ops : List SenderOp) (final : SenderRun)
    (done : run SenderRun.step (SenderRun.new capacity retxTimeout isn) ops = .ok final)
    (low : final.sender.nextSeqnoAbsolute < 2 ^ 31) :
    final.sender.window.Ordered ∧
      final.sender.window.firstSeqno = final.acknos.foldl max 0 ∧
      forall op, Exists fun next => final.step op = .ok next ∧
        final.sender.window.firstSeqno ≤ next.sender.window.firstSeqno := by
  have queue := SenderRun.queueRun_of_run done low
  rcases queue.queued with ⟨⟨start, retains⟩, _⟩
  refine ⟨retains.to_ordered low, queue.largest, ?_⟩
  intro op
  rcases queue.step_ok low op with ⟨next, taken⟩
  exact ⟨next, taken, SenderRun.step_firstSeqno_le taken⟩

/-- An acknowledgment falls into the first of the outstanding segments. -/
theorem retransmission_queue_invariant_partial :
    let start := SenderRun.new ⟨8, by decide⟩ 1000 ⟨4294967290⟩
    let ops : List SenderOp :=
      [.fillWindow, .ackReceived ⟨4294967291⟩ 4, .write [1, 2, 3], .fillWindow, .write [4, 5],
        .fillWindow, .ackReceived ⟨4294967293⟩ 6, .tick 1000, .ackReceived ⟨4294967291⟩ 0]
    Exists fun final => run SenderRun.step start ops = .ok final ∧
      final.sender.window.buffer.length = 3 ∧ final.sender.window.Ordered := by
  intro start ops
  have checked : endsIn SenderRun.step (fun final =>
      decide (final.sender.window.buffer.length = 3 ∧
        final.sender.nextSeqnoAbsolute < 2 ^ 31)) start ops = true := by decide +kernel
  rcases run_of_endsIn checked with ⟨final, done, facts⟩
  rcases of_decide_eq_true facts with ⟨length, low⟩
  exact ⟨final, done, length, (retransmission_queue_invariant _ _ _ ops final done low).1⟩

end Tcp
end Sponge
