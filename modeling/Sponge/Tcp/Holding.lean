import Sponge.Tcp.GivingUp
import Sponge.Tcp.Probing

namespace Sponge
namespace Tcp

open Foundation Bytes

/-!
# Nobody is given up early

The timeouts add up: with the window open the sender doubles its timeout each time it
retransmits, so from the last new acknowledgment to the tick on which it gives up all of
them have to pass, one after the other.
-/

namespace TCPSender

variable {before sender : TCPSender} {timeout least msSinceLastTick : Nat}

/-- The time that has to pass before the sender gives up. -/
def reserve (timeout : Nat) (sender : TCPSender) : Nat :=
  sender.window.oldestTimer.getD sender.rto +
    timeout * (2 ^ (TCPConfig.maxRetxAttempts + 1) -
      2 ^ (sender.consecutiveRetransmissionCount + 1))

/-- The timeout has doubled with every retransmission, and the reserve is `least` or more. -/
structure Lasts (timeout least : Nat) (sender : TCPSender) : Prop where
  onTime : sender.OnTime timeout
  doubled : sender.rto = timeout * 2 ^ sender.consecutiveRetransmissionCount
  least_le : least ≤ sender.reserve timeout

theorem Waits.reserve_eq (waits : before.Waits sender) (low : before.rto < 2 ^ 32) :
    sender.reserve timeout = before.reserve timeout := by
  have oldest : sender.window.oldestTimer.getD sender.rto =
      before.window.oldestTimer.getD before.rto := by
    rcases waits.buffer_eq with ⟨later, buffer⟩
    unfold TCPSendingWindow.oldestTimer
    rw [buffer, waits.rto_eq]
    cases before.window.buffer with
    | cons first rest => rfl
    | nil =>
        cases later with
        | nil => rfl
        | cons segment rest => exact Nat.mod_eq_of_lt low
  unfold reserve
  rw [oldest, waits.count_eq]

theorem Lasts.waits (lasts : before.Lasts timeout least) (waits : before.Waits sender) :
    sender.Lasts timeout least where
  onTime := lasts.onTime.waits waits
  doubled := by
    rw [waits.rto_eq, waits.count_eq]
    exact lasts.doubled
  least_le := by
    rw [waits.reserve_eq lasts.onTime.rto_lt]
    exact lasts.least_le

/-- The countdown of the oldest segment, if there is one. -/
theorem OnTime.oldest_le (onTime : sender.OnTime timeout) :
    sender.window.oldestTimer.getD sender.rto ≤ sender.rto := by
  unfold TCPSendingWindow.oldestTimer
  cases buffer : sender.window.buffer with
  | nil => exact Nat.le_refl _
  | cons first rest =>
      refine onTime.inStep.bounded first ?_
      rw [buffer]
      exact List.mem_cons_self

theorem OnTime.reserve_le (onTime : sender.OnTime timeout) :
    sender.reserve timeout ≤ timeout * (2 ^ (TCPConfig.maxRetxAttempts + 1) - 1) := by
  have oldest := onTime.oldest_le
  have bound := onTime.rto_le
  have split := timeouts_split timeout onTime.few
  have one : 1 ≤ 2 ^ sender.consecutiveRetransmissionCount := Nat.one_le_two_pow
  have less : timeout * (2 ^ (TCPConfig.maxRetxAttempts + 1) -
      2 ^ sender.consecutiveRetransmissionCount) ≤
      timeout * (2 ^ (TCPConfig.maxRetxAttempts + 1) - 1) :=
    Nat.mul_le_mul_left timeout (Nat.sub_le_sub_left one _)
  unfold reserve
  omega

/-- All countdowns have just been started. -/
theorem resetTimer_oldest (window : TCPSendingWindow) {rto : Nat} (low : rto < 2 ^ 32) :
    (window.resetTimer rto).oldestTimer.getD rto = rto := by
  unfold TCPSendingWindow.oldestTimer TCPSendingWindow.resetTimer
  rw [List.head?_map]
  cases window.buffer.head? with
  | none => rfl
  | some first => exact Nat.mod_eq_of_lt low

theorem Lasts.takeAck (lasts : before.Lasts timeout least) {ackno : WrappingInt32}
    {windowSize : UInt16} (taken : before.takeAck ackno windowSize = .ok sender) :
    sender.Lasts timeout least := by
  have onTime := lasts.onTime.takeAck taken
  rcases takeAck_cases taken with ⟨_, rfl⟩ | ⟨_, _, rfl⟩ | ⟨_, above, buffer, _, rfl⟩
  · exact ⟨onTime, lasts.doubled, lasts.least_le⟩
  · exact ⟨onTime, lasts.doubled, lasts.least_le⟩
  · have initial : before.initialRetransmissionTimeout = timeout := lasts.onTime.initial_eq
    refine ⟨onTime, initial.trans (Nat.mul_one timeout).symm, ?_⟩
    have low : before.initialRetransmissionTimeout < 2 ^ 32 := onTime.rto_lt
    have most := lasts.least_le.trans lasts.onTime.reserve_le
    have split := timeouts_split timeout (Nat.zero_le TCPConfig.maxRetxAttempts)
    unfold reserve restartTimers
    dsimp only
    rw [resetTimer_oldest _ low, initial]
    simp only [pow_zero, Nat.mul_one] at split
    omega

/-- If some countdown ends, the oldest segment's does. -/
theorem OnTime.oldest_ends (onTime : sender.OnTime timeout) {entry : TCPSegmentForSender}
    (member : entry ∈ sender.window.buffer) :
    sender.window.oldestTimer.getD sender.rto ≤ entry.remainingRto := by
  have inStep := onTime.inStep
  unfold TCPSendingWindow.oldestTimer
  cases buffer : sender.window.buffer with
  | nil =>
      rw [buffer] at member
      cases member
  | cons first rest =>
      rw [buffer] at member inStep
      exact inStep.head_le member

/-- While the reserve exceeds the length of a tick, the tick does not give up. -/
theorem Lasts.few (lasts : before.Lasts timeout least) (left : msSinceLastTick < least) :
    (before.tick msSinceLastTick).consecutiveRetransmissionCount ≤
      TCPConfig.maxRetxAttempts := by
  have few := lasts.onTime.few
  rcases before.tick_cases msSinceLastTick with
    ⟨_, ticked⟩ | ⟨entry, oldest, ⟨member, ends⟩, ticked⟩
  · rw [ticked]
    exact few
  · rw [ticked]
    by_contra many
    have last : before.consecutiveRetransmissionCount = TCPConfig.maxRetxAttempts := by
      unfold send at many
      dsimp only at many
      omega
    have nothing : before.reserve timeout = before.window.oldestTimer.getD before.rto := by
      unfold reserve
      rw [last, Nat.sub_self, Nat.mul_zero, Nat.add_zero]
    have least_le := lasts.least_le
    have oldest_le := lasts.onTime.oldest_ends member
    omega

/-- A tick takes at most its length out of the reserve. -/
theorem Lasts.tick (lasts : before.Lasts timeout least) (opened : before.windowSizeIsZero = false)
    (few : (before.tick msSinceLastTick).consecutiveRetransmissionCount ≤
      TCPConfig.maxRetxAttempts) :
    (before.tick msSinceLastTick).Lasts timeout (least - msSinceLastTick) := by
  have onTime := lasts.onTime.tick few
  have least_le := lasts.least_le
  rcases before.tick_cases msSinceLastTick with
    ⟨running, ticked⟩ | ⟨entry, oldest, ⟨member, ends⟩, ticked⟩
  · rw [ticked] at onTime ⊢
    refine ⟨onTime, lasts.doubled, ?_⟩
    have oldest : before.window.oldestTimer.getD before.rto ≤
        (before.window.tick msSinceLastTick).1.oldestTimer.getD before.rto +
          msSinceLastTick := by
      unfold TCPSendingWindow.oldestTimer TCPSendingWindow.tick
      dsimp only
      cases buffer : before.window.buffer with
      | nil => exact Nat.le_add_right _ _
      | cons first rest =>
          have ahead : first.remainingRto > msSinceLastTick := by
            refine running first ?_
            rw [buffer]
            exact List.mem_cons_self
          rw [List.map_cons, if_pos ahead]
          simp only [List.head?_cons, Option.map_some, Option.getD_some]
          omega
    unfold reserve at least_le ⊢
    dsimp only
    omega
  · rw [ticked] at onTime few ⊢
    have counted : before.consecutiveRetransmissionCount + 1 ≤ TCPConfig.maxRetxAttempts := few
    have rto_lt := lasts.onTime.rto_lt
    have doubled : before.backedOff =
        timeout * 2 ^ (before.consecutiveRetransmissionCount + 1) := by
      unfold backedOff
      rw [opened, if_neg Bool.false_ne_true, Nat.mod_eq_of_lt (by omega), lasts.doubled,
        Nat.mul_assoc, ← pow_succ]
    refine ⟨onTime, doubled, ?_⟩
    have low : before.backedOff < 2 ^ 32 := onTime.rto_lt
    have oldest_le := lasts.onTime.oldest_ends member
    have split := timeouts_split timeout counted
    unfold reserve at least_le ⊢
    unfold send
    dsimp only
    rw [resetTimer_oldest _ low]
    omega

end TCPSender

namespace TCPConnection

variable {connection final : TCPConnection} {timeout least : Nat}

theorem lasts_kept (timeout least : Nat) :
    KeptBesideStreams (fun connection => connection.sender.Lasts timeout least) :=
  sender_kept (fun _ _ lasts waits => lasts.waits waits)
    (fun _ _ _ _ lasts taken => lasts.takeAck taken)

/-- The last window that was advertised is not zero. -/
def WindowOpen (connection : TCPConnection) (_ : ConnectionOp) : Prop :=
  connection.sender.windowSizeIsZero = false

instance (connection : TCPConnection) (op : ConnectionOp) : Decidable (connection.WindowOpen op) :=
  inferInstanceAs (Decidable (_ = _))

theorem few_iff (onTime : connection.sender.OnTime timeout) (msSinceLastTick : Nat) :
    connection.FewRetransmissions (.owner (.tick msSinceLastTick)) <->
      (connection.sender.tick msSinceLastTick).consecutiveRetransmissionCount ≤
        TCPConfig.maxRetxAttempts := by
  rw [← onTime.counted, TCPSender.tick_consecutiveRetransmissions]
  rfl

/-- While there is more in reserve than an operation takes, it does not give up. -/
theorem lasts_few (lasts : connection.sender.Lasts timeout least) {op : ConnectionOp}
    (left : timeOf op < least) : connection.FewRetransmissions op := by
  cases op with
  | segmentReceived segment => trivial
  | owner op =>
      cases op with
      | tick msSinceLastTick => exact (few_iff lasts.onTime msSinceLastTick).mpr (lasts.few left)
      | connect => trivial
      | write data => trivial
      | endInputStream => trivial
      | popInbound length => trivial

theorem lasts_step (lasts : connection.sender.Lasts timeout least) {op : ConnectionOp}
    (opened : connection.WindowOpen op) (few : connection.FewRetransmissions op)
    (taken : connection.step op = .ok final) :
    final.sender.Lasts timeout (least - timeOf op) := by
  rcases tick_or_timeless op with tick | ⟨instant, timeless⟩
  · rw [tick] at taken few
    have ticked := lasts.tick opened ((few_iff lasts.onTime (timeOf op)).mp few)
    exact ticked.waits (tick_waits taken)
  · rw [instant]
    exact (lasts_kept timeout least).step timeless lasts taken

end TCPConnection

open TCPConnection

/-- **Nobody is given up early.**  As long as the window is open and all ticks together take
less time than the timeouts that are left, no tick gives the peer up. -/
theorem held_until_timeouts (cfg : TCPConfig) (random : WrappingInt32)
    (ops later : List ConnectionOp) (connection : TCPConnection)
    (done : run step (new cfg random) ops = .ok connection) (alive : connection.active = true)
    (doubled : connection.sender.rto =
      cfg.rtTimeout.toNat * 2 ^ connection.sender.consecutiveRetransmissionCount)
    (opened : RunMeets step WindowOpen connection later)
    (early : (later.map timeOf).sum < connection.sender.reserve cfg.rtTimeout.toNat) :
    RunMeets step FewRetransmissions connection later := by
  have timed : connection.Timed cfg.rtTimeout.toNat :=
    run_invariant (Timed cfg.rtTimeout.toNat) (fun _ _ _ timed taken => timed.step taken)
      (new_timed cfg random) done
  have onTime : connection.sender.OnTime cfg.rtTimeout.toNat := by
    refine timed.onTime.resolve_left fun inactive => ?_
    cases alive.symm.trans inactive
  have whole {state : TCPConnection} (lasts : state.sender.Lasts cfg.rtTimeout.toNat 0) :
      state.sender.Lasts cfg.rtTimeout.toNat (state.sender.reserve cfg.rtTimeout.toNat) :=
    ⟨lasts.onTime, lasts.doubled, Nat.le_refl _⟩
  refine run_lasts (fun state => state.sender.Lasts cfg.rtTimeout.toNat 0)
    (fun state => state.sender.reserve cfg.rtTimeout.toNat) timeOf ?_ ?_
    ⟨onTime, doubled, Nat.zero_le _⟩ opened early
  · intro state op lasts _ left
    exact lasts_few (whole lasts) left
  · intro state op next lasts wide few taken
    have after := lasts_step (whole lasts) wide few taken
    have left := after.least_le
    exact ⟨⟨after.onTime, after.doubled, Nat.zero_le _⟩, by omega⟩

/-- Nobody answers a SYN, and the ninth timeout has not yet passed. -/
theorem unanswered_syn_held :
    let cfg : TCPConfig := { recvCapacity := ⟨8, by decide⟩, sendCapacity := ⟨8, by decide⟩ }
    let later : List ConnectionOp :=
      [1000, 2000, 4000, 8000, 16000, 32000, 64000, 128000, 255999].map
        (fun msSinceLastTick => .owner (.tick msSinceLastTick))
    Exists fun connection => run step (new cfg ⟨0⟩) [.owner .connect] = .ok connection ∧
      RunMeets step FewRetransmissions connection later := by
  intro cfg later
  have checked : endsIn step (fun connection => decide (connection.active = true ∧
      connection.sender.rto =
        cfg.rtTimeout.toNat * 2 ^ connection.sender.consecutiveRetransmissionCount ∧
      RunMeets step WindowOpen connection later ∧
      (later.map timeOf).sum < connection.sender.reserve cfg.rtTimeout.toNat))
      (new cfg ⟨0⟩) [.owner .connect] = true := by
    decide +kernel
  rcases run_of_endsIn checked with ⟨connection, done, facts⟩
  rcases of_decide_eq_true facts with ⟨alive, doubled, opened, early⟩
  refine ⟨connection, done, ?_⟩
  exact held_until_timeouts cfg ⟨0⟩ [.owner .connect] later connection done alive doubled opened
    early

end Tcp
end Sponge
