import Sponge.Tcp.AckForwarding
import Sponge.Tcp.Handling
import Sponge.Tcp.Silence
import Sponge.Tcp.SingleTimer

namespace Sponge
namespace Tcp

open Foundation Bytes

/-!
# A silent peer is given up

While something is outstanding some countdown runs.  Each time one ends the sender
retransmits, counts and waits at most twice as long; a new acknowledgment starts this
over, and nothing else does.  So within a time that only depends on the initial timeout
and on how late the ticks come, something new is acknowledged or the connection is dead.
-/

namespace TCPSender

/-! ## No news -/

/-- The sender has sent more segments at most. -/
structure Waits (before sender : TCPSender) : Prop where
  first_eq : sender.window.firstSeqno = before.window.firstSeqno
  initial_eq : sender.initialRetransmissionTimeout = before.initialRetransmissionTimeout
  rto_eq : sender.rto = before.rto
  count_eq : sender.consecutiveRetransmissionCount = before.consecutiveRetransmissionCount
  buffer_eq : Exists fun later : List TCPSegment =>
    sender.window.buffer =
      before.window.buffer ++ later.map (fun segment => ⟨segment, before.rto % 2 ^ 32⟩)

/-- Something new has been acknowledged, or nothing. -/
def Moves (before sender : TCPSender) : Prop :=
  before.window.firstSeqno < sender.window.firstSeqno ∨ before.Waits sender

variable {before middle sender : TCPSender}

theorem Waits.refl (sender : TCPSender) : sender.Waits sender :=
  ⟨rfl, rfl, rfl, rfl, [], (List.append_nil _).symm⟩

theorem Waits.beside (waits : before.Waits sender) (stream : ByteStream)
    (segments : List TCPSegment) :
    before.Waits { sender with stream := stream, segmentsOut := segments } :=
  ⟨waits.first_eq, waits.initial_eq, waits.rto_eq, waits.count_eq, waits.buffer_eq⟩

theorem Waits.trans (first : before.Waits middle) (second : middle.Waits sender) :
    before.Waits sender where
  first_eq := second.first_eq.trans first.first_eq
  initial_eq := second.initial_eq.trans first.initial_eq
  rto_eq := second.rto_eq.trans first.rto_eq
  count_eq := second.count_eq.trans first.count_eq
  buffer_eq := by
    rcases first.buffer_eq with ⟨earlier, firstBuffer⟩
    rcases second.buffer_eq with ⟨later, secondBuffer⟩
    refine ⟨earlier ++ later, ?_⟩
    rw [secondBuffer, firstBuffer, first.rto_eq, List.map_append, List.append_assoc]

theorem Moves.firstSeqno_le (moves : before.Moves sender) :
    before.window.firstSeqno ≤ sender.window.firstSeqno := by
  rcases moves with grew | waits
  · exact Nat.le_of_lt grew
  · exact Nat.le_of_eq waits.first_eq.symm

theorem Moves.trans (first : before.Moves middle) (second : middle.Moves sender) :
    before.Moves sender := by
  rcases first with grew | waits
  · exact Or.inl (Nat.lt_of_lt_of_le grew second.firstSeqno_le)
  · refine second.imp (fun grew => ?_) waits.trans
    exact waits.first_eq ▸ grew

theorem Sends.waits {segments : List TCPSegment} (sends : Sends before segments sender) :
    before.Waits sender := by
  rcases sends.buffer_eq with ⟨buffer, rto, initial⟩
  refine ⟨sends.frame.firstSeqno_eq, initial, rto, ?_, segments, buffer⟩
  clear buffer rto initial
  induction sends with
  | rest sender => rfl
  | syn closed room onward ih => exact ih
  | data may onward ih => exact ih

theorem fillWindow_waits (filled : before.fillWindow = .ok sender) : before.Waits sender := by
  rcases fillWindow_sends filled with ⟨segments, sends⟩
  exact sends.waits

theorem takeAck_moves {ackno : WrappingInt32} {windowSize : UInt16}
    (taken : before.takeAck ackno windowSize = .ok sender) : before.Moves sender := by
  rcases takeAck_cases taken with ⟨_, rfl⟩ | ⟨_, _, rfl⟩ | ⟨_, above, buffer, _, rfl⟩
  · exact Or.inr ⟨rfl, rfl, rfl, rfl, [], (List.append_nil _).symm⟩
  · exact Or.inr ⟨rfl, rfl, rfl, rfl, [], (List.append_nil _).symm⟩
  · exact Or.inl above

/-! ## The timeout -/

/-- The timeout has doubled at most once for every retransmission that is counted, and the
countdowns are in step. -/
structure OnTime (timeout : Nat) (sender : TCPSender) : Prop where
  low : timeout < 2 ^ 16
  initial_eq : sender.initialRetransmissionTimeout = timeout
  few : sender.consecutiveRetransmissionCount ≤ TCPConfig.maxRetxAttempts
  rto_le : sender.rto ≤ timeout * 2 ^ sender.consecutiveRetransmissionCount
  inStep : InStep (fun entry => entry.remainingRto) sender.rto sender.window.buffer

variable {timeout : Nat}

theorem new_onTime (capacity : Capacity) (retxTimeout : UInt16) (isn : WrappingInt32) :
    (new capacity retxTimeout isn).OnTime retxTimeout.toNat :=
  ⟨retxTimeout.toNat_lt, rfl, Nat.zero_le _, Nat.le_of_eq (Nat.mul_one _).symm, .nil _⟩

/-- No timeout is cut off. -/
theorem timeout_lt {rto count : Nat} (low : timeout < 2 ^ 16)
    (few : count ≤ TCPConfig.maxRetxAttempts) (bound : rto ≤ timeout * 2 ^ count) :
    rto < 2 ^ 32 :=
  calc rto
    _ ≤ timeout * 2 ^ count := bound
    _ ≤ timeout * 2 ^ TCPConfig.maxRetxAttempts :=
        Nat.mul_le_mul_left timeout (Nat.pow_le_pow_right (by decide) few)
    _ < 2 ^ 16 * 2 ^ TCPConfig.maxRetxAttempts := Nat.mul_lt_mul_of_pos_right low (by decide)
    _ < 2 ^ 32 := by decide

theorem OnTime.rto_lt (onTime : sender.OnTime timeout) : sender.rto < 2 ^ 32 :=
  timeout_lt onTime.low onTime.few onTime.rto_le

theorem OnTime.waits (onTime : before.OnTime timeout) (waits : before.Waits sender) :
    sender.OnTime timeout where
  low := onTime.low
  initial_eq := waits.initial_eq.trans onTime.initial_eq
  few := waits.count_eq ▸ onTime.few
  rto_le := by
    rw [waits.rto_eq, waits.count_eq]
    exact onTime.rto_le
  inStep := by
    rcases waits.buffer_eq with ⟨later, buffer⟩
    rw [waits.rto_eq, buffer]
    refine onTime.inStep.append fun entry member => ?_
    rcases List.mem_map.mp member with ⟨segment, _, rfl⟩
    exact Nat.mod_eq_of_lt onTime.rto_lt

/-- Countdowns that start together are in step. -/
theorem resetTimer_inStep (window : TCPSendingWindow) {rto : Nat} (low : rto < 2 ^ 32) :
    InStep (fun entry => entry.remainingRto) rto (window.resetTimer rto).buffer := by
  refine .of_uniform fun entry member => ?_
  rcases List.mem_map.mp member with ⟨_, _, rfl⟩
  exact Nat.mod_eq_of_lt low

theorem OnTime.takeAck (onTime : before.OnTime timeout) {ackno : WrappingInt32}
    {windowSize : UInt16} (taken : before.takeAck ackno windowSize = .ok sender) :
    sender.OnTime timeout := by
  rcases takeAck_cases taken with ⟨_, rfl⟩ | ⟨_, _, rfl⟩ | ⟨_, above, buffer, _, rfl⟩
  · exact ⟨onTime.low, onTime.initial_eq, onTime.few, onTime.rto_le, onTime.inStep⟩
  · exact ⟨onTime.low, onTime.initial_eq, onTime.few, onTime.rto_le, onTime.inStep⟩
  · have initial := onTime.initial_eq
    have low := onTime.low
    have initialLow : before.initialRetransmissionTimeout < 2 ^ 32 := by omega
    refine ⟨low, initial, Nat.zero_le _, ?_, resetTimer_inStep _ initialLow⟩
    exact Nat.le_of_eq (initial.trans (Nat.mul_one timeout).symm)

/-! ## The time that is left -/

/-- The most time that can pass before the sender gives up, if no tick is longer than
`longest`. -/
def patience (timeout longest : Nat) (sender : TCPSender) : Nat :=
  sender.window.oldestTimer.getD 0 +
    timeout * (2 ^ (TCPConfig.maxRetxAttempts + 1) -
      2 ^ (sender.consecutiveRetransmissionCount + 1)) +
    (TCPConfig.maxRetxAttempts + 1 - sender.consecutiveRetransmissionCount) * longest

theorem Waits.patience_eq (waits : before.Waits sender) (pending : before.window.buffer ≠ [])
    (longest : Nat) : sender.patience timeout longest = before.patience timeout longest := by
  rcases waits.buffer_eq with ⟨later, buffer⟩
  rcases List.exists_cons_of_ne_nil pending with ⟨first, rest, queue⟩
  unfold patience TCPSendingWindow.oldestTimer
  rw [waits.count_eq, buffer, queue]
  rfl

/-- No countdown ends, or all start again. -/
theorem tick_cases (sender : TCPSender) (msSinceLastTick : Nat) :
    (forall entry, entry ∈ sender.window.buffer -> entry.remainingRto > msSinceLastTick) ∧
        sender.tick msSinceLastTick =
          { sender with window := (sender.window.tick msSinceLastTick).1 } ∨
      Exists fun entry => Exists fun oldest =>
        (entry ∈ sender.window.buffer ∧ entry.remainingRto ≤ msSinceLastTick) ∧
        sender.tick msSinceLastTick = TCPSender.send { sender with
          rto := sender.backedOff
          window := (sender.window.tick msSinceLastTick).1.resetTimer sender.backedOff
          consecutiveRetransmissionCount :=
            sender.consecutiveRetransmissionCount + 1 } oldest := by
  unfold tick
  dsimp only
  cases expired : (sender.window.tick msSinceLastTick).2 with
  | nil =>
      refine Or.inl ⟨fun entry member => ?_, rfl⟩
      by_contra ends
      have inside : entry ∈ sender.window.buffer.filter
          (fun entry => ¬ entry.remainingRto > msSinceLastTick) :=
        List.mem_filter.mpr ⟨member, decide_eq_true ends⟩
      rw [List.map_eq_nil_iff.mp expired] at inside
      cases inside
  | cons oldest rest =>
      have member : oldest ∈ (sender.window.tick msSinceLastTick).2 := by
        rw [expired]
        exact List.mem_cons_self
      rcases List.mem_map.mp member with ⟨entry, inside, _⟩
      rcases List.mem_filter.mp inside with ⟨queued, ends⟩
      have late : ¬ entry.remainingRto > msSinceLastTick := of_decide_eq_true ends
      exact Or.inr ⟨entry, oldest, ⟨queued, Nat.le_of_not_lt late⟩, rfl⟩

theorem backedOff_le (sender : TCPSender) : sender.backedOff ≤ 2 * sender.rto := by
  unfold backedOff
  split
  · omega
  · exact (Nat.mod_le _ _).trans_eq (Nat.mul_comm _ _)

/-- What is saved up for the later timeouts, before and after one of them. -/
theorem timeouts_split (timeout : Nat) {count most : Nat} (few : count ≤ most) :
    timeout * 2 ^ count + timeout * (2 ^ (most + 1) - 2 ^ (count + 1)) =
      timeout * (2 ^ (most + 1) - 2 ^ count) := by
  rw [← Nat.mul_add]
  have within : 2 ^ (count + 1) ≤ 2 ^ (most + 1) := Nat.pow_le_pow_right (by decide) (by omega)
  have twice : 2 ^ (count + 1) = 2 * 2 ^ count := pow_succ' 2 count
  congr 1
  omega

theorem OnTime.backedOff_le (onTime : before.OnTime timeout) :
    before.backedOff ≤ timeout * 2 ^ (before.consecutiveRetransmissionCount + 1) :=
  calc before.backedOff
    _ ≤ 2 * before.rto := before.backedOff_le
    _ ≤ 2 * (timeout * 2 ^ before.consecutiveRetransmissionCount) :=
        Nat.mul_le_mul_left 2 onTime.rto_le
    _ = timeout * 2 ^ (before.consecutiveRetransmissionCount + 1) := by
        rw [pow_succ', Nat.mul_left_comm]

variable {msSinceLastTick longest : Nat}

theorem OnTime.tick (onTime : before.OnTime timeout)
    (few : (before.tick msSinceLastTick).consecutiveRetransmissionCount ≤
      TCPConfig.maxRetxAttempts) : (before.tick msSinceLastTick).OnTime timeout := by
  rcases before.tick_cases msSinceLastTick with
    ⟨running, ticked⟩ | ⟨_, oldest, _, ticked⟩
  · rw [ticked]
    refine ⟨onTime.low, onTime.initial_eq, onTime.few, onTime.rto_le, ?_⟩
    exact onTime.inStep.map fun entry member => by rw [if_pos (running entry member)]
  · rw [ticked] at few ⊢
    have low := timeout_lt onTime.low few onTime.backedOff_le
    exact ⟨onTime.low, onTime.initial_eq, few, onTime.backedOff_le, resetTimer_inStep _ low⟩

theorem OnTime.tick_count_le (onTime : before.OnTime timeout) :
    (before.tick msSinceLastTick).consecutiveRetransmissionCount ≤
      TCPConfig.maxRetxAttempts + 1 := by
  have few := onTime.few
  rcases before.tick_cases msSinceLastTick with
    ⟨_, ticked⟩ | ⟨_, oldest, _, ticked⟩
  · rw [ticked]
    exact Nat.le_succ_of_le few
  · rw [ticked]
    exact Nat.succ_le_succ few

theorem OnTime.counted (onTime : before.OnTime timeout) :
    (before.tick msSinceLastTick).consecutiveRetransmissions =
      (before.tick msSinceLastTick).consecutiveRetransmissionCount :=
  Nat.mod_eq_of_lt (Nat.lt_of_le_of_lt onTime.tick_count_le (by decide))

theorem tick_pending (pending : before.window.buffer ≠ []) :
    (before.tick msSinceLastTick).window.buffer ≠ [] := by
  have same := (before.tick_spec msSinceLastTick).outstanding_eq
  unfold TCPSendingWindow.outstanding at same
  intro none
  rw [none] at same
  exact pending (List.map_eq_nil_iff.mp same.symm)

/-- A tick takes its length out of the patience, as long as it does not use it up. -/
theorem OnTime.patience_tick (onTime : before.OnTime timeout)
    (pending : before.window.buffer ≠ []) (short : msSinceLastTick ≤ longest)
    (few : (before.tick msSinceLastTick).consecutiveRetransmissionCount ≤
      TCPConfig.maxRetxAttempts) :
    (before.tick msSinceLastTick).patience timeout longest + msSinceLastTick ≤
      before.patience timeout longest := by
  rcases before.tick_cases msSinceLastTick with
    ⟨running, ticked⟩ | ⟨_, oldest, _, ticked⟩
  · rw [ticked]
    rcases List.exists_cons_of_ne_nil pending with ⟨first, rest, buffer⟩
    have ahead : first.remainingRto > msSinceLastTick := by
      refine running first ?_
      rw [buffer]
      exact List.mem_cons_self
    unfold patience TCPSendingWindow.oldestTimer TCPSendingWindow.tick
    dsimp only
    rw [buffer, List.map_cons, if_pos ahead]
    simp only [List.head?_cons, Option.map_some, Option.getD_some]
    omega
  · rw [ticked] at few ⊢
    have counted : before.consecutiveRetransmissionCount + 1 ≤ TCPConfig.maxRetxAttempts := few
    have restarted : (((before.window.tick msSinceLastTick).1.resetTimer
        before.backedOff).oldestTimer).getD 0 ≤ before.backedOff := by
      unfold TCPSendingWindow.oldestTimer TCPSendingWindow.resetTimer
      rw [List.head?_map]
      cases (before.window.tick msSinceLastTick).1.buffer.head? with
      | none => exact Nat.zero_le _
      | some first => exact Nat.mod_le _ _
    have doubled := onTime.backedOff_le
    have split := timeouts_split timeout counted
    have ticks : (TCPConfig.maxRetxAttempts + 1 - before.consecutiveRetransmissionCount) * longest =
        (TCPConfig.maxRetxAttempts + 1 - (before.consecutiveRetransmissionCount + 1)) * longest +
          longest := by
      rw [← Nat.succ_mul]
      congr 1
      omega
    unfold patience send
    dsimp only
    rw [ticks]
    omega

/-- At first the patience is at most what the count leaves of all timeouts. -/
theorem OnTime.patience_le (onTime : before.OnTime timeout) (longest : Nat) :
    before.patience timeout longest ≤
      timeout * (2 ^ (TCPConfig.maxRetxAttempts + 1) - 2 ^ before.consecutiveRetransmissionCount) +
        (TCPConfig.maxRetxAttempts + 1 - before.consecutiveRetransmissionCount) * longest := by
  have first : before.window.oldestTimer.getD 0 ≤
      timeout * 2 ^ before.consecutiveRetransmissionCount := by
    refine Nat.le_trans ?_ onTime.rto_le
    unfold TCPSendingWindow.oldestTimer
    cases buffer : before.window.buffer with
    | nil => exact Nat.zero_le _
    | cons first rest =>
        refine onTime.inStep.bounded first ?_
        rw [buffer]
        exact List.mem_cons_self
  have split := timeouts_split timeout onTime.few
  unfold patience
  omega

/-- Something is outstanding, and no more than `first` is acknowledged. -/
structure Hopes (timeout first : Nat) (sender : TCPSender) : Prop where
  onTime : sender.OnTime timeout
  pending : sender.window.buffer ≠ []
  first_eq : sender.window.firstSeqno = first

variable {first : Nat}

theorem Hopes.waits (hopes : before.Hopes timeout first) (waits : before.Waits sender) :
    sender.Hopes timeout first where
  onTime := hopes.onTime.waits waits
  pending := by
    rcases waits.buffer_eq with ⟨later, buffer⟩
    rw [buffer]
    exact List.append_ne_nil_of_left_ne_nil hopes.pending _
  first_eq := waits.first_eq.trans hopes.first_eq

theorem Hopes.tick (hopes : before.Hopes timeout first)
    (few : (before.tick msSinceLastTick).consecutiveRetransmissionCount ≤
      TCPConfig.maxRetxAttempts) : (before.tick msSinceLastTick).Hopes timeout first where
  onTime := hopes.onTime.tick few
  pending := tick_pending hopes.pending
  first_eq := (before.tick_spec msSinceLastTick).firstSeqno_eq.trans hopes.first_eq

end TCPSender

namespace TCPConnection

/-! ## The parts of a method -/

open TCPSender (Moves OnTime)

variable {connection final : TCPConnection} {timeout longest msSinceLastTick : Nat}

theorem collect_waits (done : connection.collectSenderSegmentsOut = .ok final) :
    connection.sender.Waits final.sender := by
  rcases collect_spec done with ⟨filled, fills, rfl⟩
  exact (TCPSender.fillWindow_waits fills).beside filled.stream []

/-- A property of the sender that outlasts what it sends and what is acknowledged. -/
theorem sender_kept {property : TCPSender -> Prop}
    (waits : forall before sender, property before -> before.Waits sender -> property sender)
    (ack : forall (before sender : TCPSender) ackno windowSize, property before ->
      before.takeAck ackno windowSize = .ok sender -> property sender) :
    KeptBesideStreams (fun connection => property connection.sender) where
  flags := fun _ _ holds => holds
  clock := fun _ holds => holds
  collect := fun holds _ done => waits _ _ holds (collect_waits done)
  push := by
    intro connection holds final done
    rcases pushAck_spec done with ⟨_, _, rfl⟩
    exact holds
  queue := by
    intro connection holds final done
    rcases queueAck_spec done with ⟨_, _, rfl⟩
    exact waits _ _ holds ((TCPSender.Waits.refl _).beside _ _)
  empty := fun holds => waits _ _ holds ((TCPSender.Waits.refl _).beside _ _)
  take := fun _ holds => holds
  ack := by
    intro connection segment holds final done
    rcases takeAck_spec done with ⟨sender, received, rfl⟩
    rcases TCPSender.ackReceived_parts received with ⟨updated, segments, taken, sends⟩
    exact waits _ _ (ack _ _ _ _ holds taken) sends.waits
  stream := fun _ holds => waits _ _ holds ((TCPSender.Waits.refl _).beside _ _)
  pop := fun _ holds => holds
  reset := fun holds => waits _ _ holds ((TCPSender.Waits.refl _).beside _ _)

theorem moves_kept (before : TCPSender) :
    KeptBesideStreams (fun connection => before.Moves connection.sender) :=
  sender_kept (fun _ _ moves waits => moves.trans (Or.inr waits))
    (fun _ _ _ _ moves taken => moves.trans (TCPSender.takeAck_moves taken))

theorem onTime_kept (timeout : Nat) :
    KeptBesideStreams (fun connection => connection.sender.OnTime timeout) :=
  sender_kept (fun _ _ onTime waits => onTime.waits waits)
    (fun _ _ _ _ onTime taken => onTime.takeAck taken)

/-- A tick of the sender is followed by a collection, or a reset, at most. -/
theorem tick_waits (done : connection.tick msSinceLastTick = .ok final) :
    (connection.sender.tick msSinceLastTick).Waits final.sender := by
  rcases tick_cases done with ⟨ticked, rfl, ⟨_, rfl⟩ | ⟨_, ⟨_, collected⟩ | ⟨_, rfl⟩⟩⟩
  · exact (TCPSender.Waits.refl _).beside _ _
  · exact collect_waits collected
  · exact .refl _

/-- A connection that counts one retransmission too many dies. -/
theorem tick_few (onTime : connection.sender.OnTime timeout)
    (done : connection.tick msSinceLastTick = .ok final) :
    final.active = false ∨
      (connection.sender.tick msSinceLastTick).consecutiveRetransmissionCount ≤
        TCPConfig.maxRetxAttempts := by
  rcases tick_cases done with ⟨ticked, rfl, ⟨_, rfl⟩ | ⟨few, _⟩⟩
  · exact Or.inl rfl
  · exact Or.inr (onTime.counted ▸ few)

/-- The time that an operation lets pass. -/
def timeOf : ConnectionOp -> Nat
  | .owner (.tick msSinceLastTick) => msSinceLastTick
  | _ => 0

/-- An operation is a tick, or it lets no time pass. -/
theorem tick_or_timeless (op : ConnectionOp) :
    op = .owner (.tick (timeOf op)) ∨
      timeOf op = 0 ∧ forall msSinceLastTick, op ≠ .owner (.tick msSinceLastTick) := by
  cases op with
  | segmentReceived segment => exact Or.inr ⟨rfl, fun _ => nofun⟩
  | owner op =>
      cases op with
      | tick msSinceLastTick => exact Or.inl rfl
      | connect => exact Or.inr ⟨rfl, fun _ => nofun⟩
      | write data => exact Or.inr ⟨rfl, fun _ => nofun⟩
      | endInputStream => exact Or.inr ⟨rfl, fun _ => nofun⟩
      | popInbound length => exact Or.inr ⟨rfl, fun _ => nofun⟩

/-! ## Until the end -/

theorem collect_active (done : connection.collectSenderSegmentsOut = .ok final) :
    final.active = connection.active := by
  rcases collect_spec done with ⟨_, _, rfl⟩
  rfl

/-- A connection dies for good. -/
theorem Dead.stays (dead : connection.Dead) {op : ConnectionOp}
    (taken : connection.step op = .ok final) : final.active = false := by
  cases op with
  | segmentReceived segment =>
      rcases segmentReceived_cases taken with ⟨_, rfl⟩ | ⟨_, dispatched, handled, answered⟩
      · rfl
      · have passed : dispatched = connection.heard := by
          rcases dead.heard.state_eq with current | current
          · rw [dispatch_eq segment current] at handled
            cases handled
            rfl
          · rw [dispatch_eq segment current] at handled
            cases handled
            rfl
        have inactive : dispatched.active = false := passed ▸ dead.inactive
        rcases keepAlive_cases answered with ⟨_, collected⟩ | ⟨_, rfl⟩
        · exact (collect_active collected).trans inactive
        · exact inactive
  | owner op =>
      cases op with
      | connect => exact (collect_active taken).trans dead.inactive
      | write data =>
          rcases bind_ok taken with ⟨⟨collected, count⟩, writes, rest⟩
          cases rest
          exact (collect_active (write_spec writes).2).trans dead.inactive
      | endInputStream =>
          have collected : connection.ended.collectSenderSegmentsOut = .ok final := taken
          exact (collect_active collected).trans dead.inactive
      | popInbound length =>
          cases taken
          exact dead.inactive
      | tick msSinceLastTick =>
          have stopped : (connection.elapsed msSinceLastTick).stopLingering.active = false := by
            unfold stopLingering
            split
            · rfl
            · exact dead.inactive
          rcases tick_cases taken with ⟨ticked, rfl, ⟨_, rfl⟩ | ⟨_, ⟨_, collected⟩ | ⟨_, rfl⟩⟩⟩
          · rfl
          · exact (collect_active collected).trans stopped
          · exact stopped

/-- Dead, or on time. -/
structure Timed (timeout : Nat) (connection : TCPConnection) : Prop where
  standing : connection.Standing
  onTime : connection.active = false ∨ connection.sender.OnTime timeout

theorem new_timed (cfg : TCPConfig) (random : WrappingInt32) :
    (new cfg random).Timed cfg.rtTimeout.toNat :=
  ⟨new_standing cfg random, Or.inr (TCPSender.new_onTime _ _ _)⟩

theorem Timed.step (timed : connection.Timed timeout) {op : ConnectionOp}
    (taken : connection.step op = .ok final) : final.Timed timeout := by
  refine ⟨timed.standing.step taken, ?_⟩
  rcases timed.onTime with inactive | onTime
  · exact Or.inl ((timed.standing.dead inactive).stays taken)
  · rcases tick_or_timeless op with tick | ⟨_, timeless⟩
    · rw [tick] at taken
      refine (tick_few onTime taken).imp_right fun few => ?_
      exact (onTime.tick few).waits (tick_waits taken)
    · exact Or.inr ((onTime_kept timeout).step timeless onTime taken)

/-- The connection is dead, or more than `first` is acknowledged. -/
structure Answered (first : Nat) (connection : TCPConnection) : Prop where
  standing : connection.Standing
  answered : connection.active = false ∨ first < connection.sender.window.firstSeqno

variable {first : Nat}

theorem Answered.step (answered : connection.Answered first) {op : ConnectionOp}
    (taken : connection.step op = .ok final) : final.Answered first := by
  refine ⟨answered.standing.step taken, ?_⟩
  rcases answered.answered with inactive | grew
  · exact Or.inl ((answered.standing.dead inactive).stays taken)
  · exact Or.inr (Nat.lt_of_lt_of_le grew (step_firstSeqno_le taken))

/-- An operation takes its time out of the patience, or it ends the wait. -/
theorem hopes_step (standing : connection.Standing)
    (hopes : connection.sender.Hopes timeout first) {op : ConnectionOp}
    (short : timeOf op ≤ longest) (taken : connection.step op = .ok final) :
    (final.Standing ∧ final.sender.Hopes timeout first) ∧
        final.sender.patience timeout longest + timeOf op ≤
          connection.sender.patience timeout longest ∨
      final.Answered first := by
  have after := standing.step taken
  rcases tick_or_timeless op with tick | ⟨instant, timeless⟩
  · rw [tick] at taken
    rcases tick_few hopes.onTime taken with inactive | few
    · exact Or.inr ⟨after, Or.inl inactive⟩
    · have waits := tick_waits taken
      have ticked := hopes.tick few
      refine Or.inl ⟨⟨after, ticked.waits waits⟩, ?_⟩
      rw [waits.patience_eq ticked.pending]
      exact hopes.onTime.patience_tick hopes.pending short few
  · have moves := (moves_kept connection.sender).step timeless (Or.inr (.refl _)) taken
    rcases moves with grew | waits
    · exact Or.inr ⟨after, Or.inr (hopes.first_eq ▸ grew)⟩
    · refine Or.inl ⟨⟨after, hopes.waits waits⟩, ?_⟩
      rw [instant, waits.patience_eq hopes.pending]
      exact Nat.le_refl _

end TCPConnection

open TCPConnection

/-- **A silent peer is given up.**  If something is outstanding and the ticks that follow,
none longer than `longest`, take more time than the retransmissions that are left allow,
then something new has been acknowledged meanwhile, or the connection is dead. -/
theorem given_up_or_acknowledged (cfg : TCPConfig) (random : WrappingInt32)
    (ops later : List ConnectionOp) (connection final : TCPConnection) (longest : Nat)
    (done : run step (new cfg random) ops = .ok connection)
    (pending : connection.sender.window.buffer ≠ [])
    (onward : run step connection later = .ok final)
    (short : forall op, op ∈ later -> timeOf op ≤ longest)
    (long : cfg.rtTimeout.toNat *
          (2 ^ (TCPConfig.maxRetxAttempts + 1) -
            2 ^ connection.sender.consecutiveRetransmissionCount) +
        (TCPConfig.maxRetxAttempts + 1 - connection.sender.consecutiveRetransmissionCount) *
          longest <
      (later.map timeOf).sum) :
    final.active = false ∨
      connection.sender.window.firstSeqno < final.sender.window.firstSeqno := by
  have timed : connection.Timed cfg.rtTimeout.toNat :=
    run_invariant (Timed cfg.rtTimeout.toNat) (fun _ _ _ timed taken => timed.step taken)
      (new_timed cfg random) done
  have stays (state : TCPConnection) (op : ConnectionOp) (next : TCPConnection)
      (answered : state.Answered connection.sender.window.firstSeqno)
      (taken : state.step op = .ok next) :
      next.Answered connection.sender.window.firstSeqno := answered.step taken
  rcases timed.onTime with inactive | onTime
  · have answered : final.Answered connection.sender.window.firstSeqno :=
      run_invariant _ stays ⟨timed.standing, Or.inl inactive⟩ onward
    exact answered.answered
  · have spends := run_spends
      (fun state => state.Standing ∧
        state.sender.Hopes cfg.rtTimeout.toNat connection.sender.window.firstSeqno)
      (Answered connection.sender.window.firstSeqno)
      (fun state => state.sender.patience cfg.rtTimeout.toNat longest) timeOf stays
      (fun state op next member hopes taken =>
        hopes_step hopes.1 hopes.2 (short op member) taken)
      ⟨timed.standing, onTime, pending, rfl⟩ onward
    rcases spends with ⟨_, spent⟩ | answered
    · have enough := onTime.patience_le longest
      omega
    · exact answered.answered

/-- Nobody answers a SYN. -/
theorem unanswered_syn_given_up :
    let cfg : TCPConfig := { recvCapacity := ⟨8, by decide⟩, sendCapacity := ⟨8, by decide⟩ }
    let later : List ConnectionOp :=
      .owner (.write [1]) :: List.replicate 10 (.owner (.tick 600000))
    Exists fun connection => Exists fun final =>
      run step (new cfg ⟨0⟩) [.owner .connect] = .ok connection ∧
        connection.active = true ∧ run step connection later = .ok final ∧
        final.active = false := by
  intro cfg later
  have checked : endsIn step (fun connection => decide (connection.active = true ∧
      connection.sender.window.buffer ≠ [] ∧
      connection.sender.consecutiveRetransmissionCount = 0 ∧
      endsIn step (fun final => decide (final.sender.window.firstSeqno = 0)) connection later =
        true)) (new cfg ⟨0⟩) [.owner .connect] = true := by
    decide +kernel
  rcases run_of_endsIn checked with ⟨connection, done, facts⟩
  rcases of_decide_eq_true facts with ⟨alive, pending, fresh, goes⟩
  rcases run_of_endsIn goes with ⟨final, onward, unacked⟩
  refine ⟨connection, final, done, alive, onward, ?_⟩
  have short : forall op, op ∈ later -> timeOf op ≤ 600000 := by decide
  have ends := given_up_or_acknowledged cfg ⟨0⟩ [.owner .connect] later connection final 600000
    done pending onward short (by rw [fresh]; decide)
  refine ends.resolve_right fun grew => ?_
  rw [of_decide_eq_true unacked] at grew
  exact Nat.not_lt_zero _ grew

end Tcp
end Sponge
