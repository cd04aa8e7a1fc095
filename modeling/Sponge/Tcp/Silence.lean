import Sponge.Tcp.Departures
import Sponge.Tcp.Filling

namespace Sponge
namespace Tcp

open Foundation Bytes

/-!
# What is heard of a dead connection

A connection that is not active any more stays so.  It should also be silent,
but neither the sender nor `_collect_sender_segments_out` knows of the flag.  For
each operation it is said exactly when it puts something on the outbound queue
of a dead connection: a method that collects does so if the sender has kept
segments back or its loop would send, a tick if it counts one retransmission too
many, and an inbound segment if it looks like a keep-alive.
-/

namespace TCPSender

/-- The loop would send: there is something to send, the state allows it and there
is free space. -/
def HasToSend (sender : TCPSender) : Prop :=
  sender.wantsToSend = true ∧ ¬ (sender.state = .finSent ∨ sender.state = .finAcked) ∧
    sender.window.space ≠ 0

instance (sender : TCPSender) : Decidable sender.HasToSend :=
  inferInstanceAs (Decidable (_ ∧ _ ∧ _))

/-- Nothing waits to be collected and nothing would be sent. -/
def Quiet (sender : TCPSender) : Prop :=
  sender.segmentsOut = [] ∧ ¬ sender.HasToSend

instance (sender : TCPSender) : Decidable sender.Quiet :=
  inferInstanceAs (Decidable (_ ∧ _))

/-- Some countdown ends within the time. -/
def expires (sender : TCPSender) (msSinceLastTick : Nat) : Bool :=
  sender.window.buffer.any (fun entry => ¬ entry.remainingRto > msSinceLastTick)

theorem goesOn_iff (sender : TCPSender) : sender.GoesOn <-> sender.HasToSend := by
  constructor
  · intro on
    refine ⟨on.wants, on.unfinished, fun none => ?_⟩
    have fits := sender.dataSegment_length_le
    exact on.nonempty (by omega)
  · intro has
    exact ⟨has.1, has.2.1, dataSegment_nonempty has.1 has.2.2⟩

/-- A sender that is open leaves its queue empty exactly when it is quiet. -/
theorem fillWindow_quiet_iff {sender filled : TCPSender} (opened : sender.state ≠ .closed)
    (fills : sender.fillWindow = .ok filled) : filled.segmentsOut = [] <-> sender.Quiet := by
  unfold fillWindow openIfClosed at fills
  rw [if_neg opened] at fills
  unfold Quiet
  rw [← goesOn_iff]
  by_cases on : sender.GoesOn
  · dsimp only at fills
    rw [fillLoop_succ on] at fills
    rcases fillLoop_built fills with ⟨segments, built⟩
    have grown : filled.segmentsOut =
        sender.segmentsOut ++ [sender.dataSegment] ++ segments := built.segmentsOut_eq
    refine iff_of_false ?_ (fun quiet => quiet.2 on)
    rw [grown]
    simp
  · dsimp only at fills
    rw [fillLoop_of_not on] at fills
    cases fills
    exact ⟨fun empty => ⟨empty, on⟩, fun quiet => quiet.1⟩

/-- A tick counts a retransmission if a countdown ends. -/
theorem tick_consecutiveRetransmissions (sender : TCPSender) (msSinceLastTick : Nat) :
    (sender.tick msSinceLastTick).consecutiveRetransmissions =
      (sender.consecutiveRetransmissionCount +
        if sender.expires msSinceLastTick then 1 else 0) % 2 ^ 32 := by
  unfold consecutiveRetransmissions tick expires
  dsimp only
  cases expired : (sender.window.tick msSinceLastTick).2 with
  | nil =>
      have none : ¬ (sender.window.buffer.any
          (fun entry => ¬ entry.remainingRto > msSinceLastTick)) = true := by
        intro some
        rcases List.any_eq_true.mp some with ⟨entry, member, ends⟩
        have inside : entry ∈ sender.window.buffer.filter
            (fun entry => ¬ entry.remainingRto > msSinceLastTick) :=
          List.mem_filter.mpr ⟨member, ends⟩
        rw [List.map_eq_nil_iff.mp expired] at inside
        cases inside
      rw [if_neg none]
      rfl
  | cons oldest rest =>
      have some : (sender.window.buffer.any
          (fun entry => ¬ entry.remainingRto > msSinceLastTick)) = true := by
        rcases List.exists_of_mem_map (expired ▸ List.mem_cons_self : oldest ∈ _) with
          ⟨entry, inside, _⟩
        exact List.any_eq_true.mpr ⟨entry, List.mem_filter.mp inside⟩
      rw [if_pos some]
      rfl

end TCPSender

namespace TCPConnection

/-- A connection that has ended in one way or the other. -/
structure Dead (connection : TCPConnection) : Prop where
  inactive : connection.active = false
  state_eq : connection.state = .ofState .reset ∨ connection.state = .ofState .closed
  opened : connection.sender.stream.error = true ∨ connection.sender.window.nextSeqno ≠ 0

/-- An operation that puts nothing on the outbound queue of a dead connection. -/
def StaysSilent (connection : TCPConnection) : ConnectionOp -> Prop
  | .owner .connect => connection.active = false -> connection.sender.Quiet
  | .owner (.write data) => connection.active = false -> (connection.wrote data).sender.Quiet
  | .owner .endInputStream => connection.active = false -> connection.ended.sender.Quiet
  | .owner (.tick msSinceLastTick) =>
      connection.active = false ->
        (connection.sender.consecutiveRetransmissionCount +
          if connection.sender.expires msSinceLastTick then 1 else 0) % 2 ^ 32 ≤
            TCPConfig.maxRetxAttempts
  | .owner (.popInbound _) => True
  | .segmentReceived segment =>
      connection.active = false ->
        segment.header.rst = true ∨ ¬ connection.Probed segment

instance (connection : TCPConnection) (op : ConnectionOp) : Decidable (connection.StaysSilent op) :=
  match op with
  | .owner .connect | .owner (.write _) | .owner .endInputStream =>
      inferInstanceAs (Decidable (_ -> TCPSender.Quiet _))
  | .owner (.tick _) => inferInstanceAs (Decidable (_ -> _ ≤ _))
  | .owner (.popInbound _) => .isTrue trivial
  | .segmentReceived _ => inferInstanceAs (Decidable (_ -> _ ∨ ¬ Probed _ _))

/-- A dead connection stays dead and silent. -/
def Hushed (connection final : TCPConnection) : Prop :=
  connection.active = false -> final.active = false ∧ final.segmentsOut = connection.segmentsOut

section

variable {connection final : TCPConnection} {segment : TCPSegment}

theorem Standing.dead (standing : connection.Standing) (inactive : connection.active = false) :
    connection.Dead := by
  cases standing with
  | failed failed => exact ⟨inactive, Or.inl failed.state_eq, Or.inl failed.sender⟩
  | alive alive =>
      rw [alive.active] at inactive
      cases inactive
  | settled settled =>
      have used := settled.finOut.used
      exact ⟨inactive, Or.inr settled.state_eq, Or.inr (by omega)⟩

theorem collect_hushed_iff
    (opened : connection.sender.stream.error = true ∨ connection.sender.window.nextSeqno ≠ 0)
    (done : connection.collectSenderSegmentsOut = .ok final) :
    final.active = connection.active ∧
      (final.segmentsOut = connection.segmentsOut <-> connection.sender.Quiet) := by
  have notClosed : connection.sender.state ≠ .closed := by
    intro closed
    rcases (TCPSender.state_closed_iff _).mp closed with ⟨noError, unused⟩
    rcases opened with failed | used
    · rw [noError] at failed
      cases failed
    · exact used unused
  rcases collect_spec done with ⟨filled, fills, rfl⟩
  refine ⟨rfl, ?_⟩
  rw [← TCPSender.fillWindow_quiet_iff notClosed fills]
  dsimp only
  rw [List.append_right_eq_self, List.map_eq_nil_iff]

/-- The methods that collect. -/
theorem Dead.collect_iff (dead : connection.Dead) {changed : TCPConnection}
    (done : changed.collectSenderSegmentsOut = .ok final)
    (active_eq : changed.active = connection.active)
    (segmentsOut_eq : changed.segmentsOut = connection.segmentsOut)
    (error_eq : changed.sender.stream.error = connection.sender.stream.error)
    (nextSeqno_eq : changed.sender.window.nextSeqno = connection.sender.window.nextSeqno) :
    changed.sender.Quiet <-> connection.Hushed final := by
  have opened := dead.opened
  rw [← error_eq, ← nextSeqno_eq] at opened
  rcases collect_hushed_iff opened done with ⟨still, silent⟩
  rw [segmentsOut_eq] at silent
  constructor
  · intro quiet _
    exact ⟨still.trans (active_eq.trans dead.inactive), silent.mpr quiet⟩
  · intro hushed
    exact silent.mp (hushed dead.inactive).2

theorem Dead.ticksCollect_eq (dead : connection.Dead) : ticksCollect connection.state = false := by
  rcases dead.state_eq with current | current
  · rw [current]
    rfl
  · rw [current]
    rfl

theorem Dead.stopLingering_eq (dead : connection.Dead) :
    connection.stopLingering = connection := by
  unfold stopLingering
  refine if_neg (fun stops => ?_)
  have waits : connection.state = .ofState .timeWait := stops.1
  rcases dead.state_eq with current | current
  · cases current.symm.trans waits
  · cases current.symm.trans waits

theorem Dead.tick_iff (dead : connection.Dead) {msSinceLastTick : Nat}
    (done : connection.tick msSinceLastTick = .ok final) :
    connection.StaysSilent (.owner (.tick msSinceLastTick)) <-> connection.Hushed final := by
  have later : (connection.elapsed msSinceLastTick).Dead :=
    ⟨dead.inactive, dead.state_eq, dead.opened⟩
  unfold StaysSilent
  dsimp only
  rw [← TCPSender.tick_consecutiveRetransmissions]
  rcases tick_cases done with ⟨ticked, ticked_eq, given⟩
  rw [later.stopLingering_eq] at ticked_eq
  rw [ticked_eq] at given
  rcases given with ⟨many, rfl⟩ | ⟨few, ⟨collects, _⟩ | ⟨_, rfl⟩⟩
  · constructor
    · intro few
      exact absurd (few dead.inactive) (Nat.not_le_of_lt many)
    · intro hushed
      have same := (hushed dead.inactive).2
      exact absurd (List.append_right_eq_self.mp same) (List.cons_ne_nil _ _)
  · cases dead.ticksCollect_eq.symm.trans collects
  · exact iff_of_true (fun _ => few) (fun inactive => ⟨inactive, rfl⟩)

/-- A dead connection looks at a segment only to answer a keep-alive. -/
theorem Dead.keepAlive_iff (dead : connection.Dead)
    (done : connection.keepAlive segment = .ok final) :
    ¬ connection.Probed segment <-> connection.Hushed final := by
  rcases keepAlive_cases done with ⟨probed, collected⟩ | ⟨other, rfl⟩
  · refine iff_of_false (not_not_intro probed) (fun hushed => ?_)
    have quiet := (dead.collect_iff collected rfl rfl rfl rfl).mpr hushed
    exact absurd (List.append_eq_nil_iff.mp quiet.1).2 (List.cons_ne_nil _ _)
  · exact iff_of_true other (fun inactive => ⟨inactive, rfl⟩)

theorem Dead.heard (dead : connection.Dead) : connection.heard.Dead :=
  ⟨dead.inactive, dead.state_eq, dead.opened⟩

theorem Dead.segmentReceived_iff (dead : connection.Dead)
    (done : connection.segmentReceived segment = .ok final) :
    connection.StaysSilent (.segmentReceived segment) <-> connection.Hushed final := by
  unfold StaysSilent
  rcases segmentReceived_cases done with ⟨rst, rfl⟩ | ⟨noRst, dispatched, handled, answered⟩
  · exact iff_of_true (fun _ => Or.inl rst) (fun _ => ⟨rfl, rfl⟩)
  · have passed : dispatched = connection.heard := by
      rcases dead.heard.state_eq with current | current
      · rw [dispatch_eq segment current] at handled
        cases handled
        rfl
      · rw [dispatch_eq segment current] at handled
        cases handled
        rfl
    rw [passed] at answered
    have exactly := dead.heard.keepAlive_iff answered
    constructor
    · intro silent
      exact exactly.mp ((silent dead.inactive).resolve_left (ne_true_of_eq_false noRst))
    · intro hushed _
      exact Or.inr (exactly.mpr hushed)

theorem hushed_refl (connection : TCPConnection) : connection.Hushed connection :=
  fun inactive => ⟨inactive, rfl⟩

theorem Hushed.trans {middle : TCPConnection} (first : connection.Hushed middle)
    (second : middle.Hushed final) : connection.Hushed final := by
  intro inactive
  rcases first inactive with ⟨still, same⟩
  rcases second still with ⟨stays, alike⟩
  exact ⟨stays, alike.trans same⟩

/-- Every operation, for a dead connection. -/
theorem Dead.step_iff (dead : connection.Dead) {op : ConnectionOp}
    (taken : connection.step op = .ok final) :
    connection.StaysSilent op <-> connection.Hushed final := by
  have now (quiet : Prop) : (connection.active = false -> quiet) <-> quiet :=
    ⟨fun silent => silent dead.inactive, fun silent _ => silent⟩
  cases op with
  | segmentReceived segment => exact dead.segmentReceived_iff taken
  | owner op =>
      cases op with
      | connect => exact (now _).trans (dead.collect_iff taken rfl rfl rfl rfl)
      | write data =>
          rcases bind_ok taken with ⟨⟨collected, count⟩, writes, rest⟩
          cases rest
          exact (now _).trans
            (dead.collect_iff (write_spec writes).2 rfl rfl (ByteStream.write_error _ _) rfl)
      | endInputStream =>
          have collects : connection.ended.collectSenderSegmentsOut = .ok final := taken
          exact (now _).trans (dead.collect_iff collects rfl rfl rfl rfl)
      | tick msSinceLastTick => exact dead.tick_iff taken
      | popInbound length =>
          cases taken
          exact iff_of_true trivial (fun inactive => ⟨inactive, rfl⟩)

theorem Standing.silent_iff (standing : connection.Standing) {op : ConnectionOp}
    (taken : connection.step op = .ok final) :
    connection.StaysSilent op <-> connection.Hushed final := by
  cases active : connection.active with
  | false => exact (standing.dead active).step_iff taken
  | true =>
      have alive : ¬ connection.active = false := by
        rw [active]
        exact nofun
      refine iff_of_true ?_ (fun inactive => absurd inactive alive)
      unfold StaysSilent
      split
      all_goals first | exact fun inactive => absurd inactive alive | trivial

end

/-- **A dead connection is silent.**  In a run, every connection that is not active
stays so and puts nothing on its outbound queue, whatever comes later, exactly
when all operations of the run meet the condition. -/
theorem dead_is_silent_iff (cfg : TCPConfig) (random : WrappingInt32) (ops : List ConnectionOp)
    (final : TCPConnection) (done : run step (new cfg random) ops = .ok final) :
    RunMeets step StaysSilent (new cfg random) ops <->
      forall before after middle reached, before ++ after <+: ops ->
        run step (new cfg random) before = .ok middle -> run step middle after = .ok reached ->
          middle.active = false ->
            reached.active = false ∧ reached.segmentsOut = middle.segmentsOut :=
  runMeets_iff_related (fun _ => True) Standing Hushed hushed_refl
    (fun _ _ _ first second => first.trans second) (fun _ _ _ _ _ => trivial)
    (fun _ _ _ standing taken => standing.step taken)
    (fun _ _ _ standing taken _ => standing.silent_iff taken) (new_standing cfg random) done trivial

/-- A connection that is reset before it has sent its SYN, and whose owner goes on
for a while. -/
theorem dead_is_silent_unopened :
    let cfg : TCPConfig := { recvCapacity := ⟨8, by decide⟩, sendCapacity := ⟨8, by decide⟩ }
    let ops : List ConnectionOp :=
      [.segmentReceived { header := { rst := true } }, .owner .connect, .owner (.tick 1000),
        .segmentReceived { header := { seqno := ⟨7⟩, syn := true } }]
    (Exists fun final => run step (new cfg ⟨0⟩) ops = .ok final) ∧
      forall before after middle reached, before ++ after <+: ops ->
        run step (new cfg ⟨0⟩) before = .ok middle -> run step middle after = .ok reached ->
          middle.active = false ->
            reached.active = false ∧ reached.segmentsOut = middle.segmentsOut := by
  intro cfg ops
  have checked : endsIn step (fun _ => true) (new cfg ⟨0⟩) ops = true := by decide +kernel
  rcases run_of_endsIn checked with ⟨final, done, _⟩
  refine ⟨⟨final, done⟩, ?_⟩
  exact (dead_is_silent_iff cfg ⟨0⟩ ops final done).mp (by decide +kernel)

/-- An established connection is reset.  A later write is sent, a keep-alive is
answered, and a countdown that ends once too often sends a reset. -/
theorem dead_is_heard :
    let cfg : TCPConfig := { recvCapacity := ⟨8, by decide⟩, sendCapacity := ⟨8, by decide⟩ }
    let ops : List ConnectionOp :=
      [.owner .connect,
        .segmentReceived
          { header := { seqno := ⟨100⟩, ackno := ⟨1⟩, win := 4, syn := true, ack := true } },
        .owner (.write [5]), .segmentReceived { header := { rst := true } }]
    let laters : List (List ConnectionOp) :=
      [[.owner (.write [6])], [.owner .endInputStream],
        [.segmentReceived { header := { seqno := ⟨100⟩ } }],
        List.replicate 9 (.owner (.tick 600000))]
    Exists fun middle => run step (new cfg ⟨0⟩) ops = .ok middle ∧ middle.active = false ∧
      forall later, later ∈ laters ->
        Exists fun reached => run step middle later = .ok reached ∧
          reached.segmentsOut ≠ middle.segmentsOut := by
  intro cfg ops laters
  have checked : endsIn step (fun middle => decide (middle.active = false ∧
      forall later, later ∈ laters ->
        endsIn step (fun reached => decide (reached.segmentsOut ≠ middle.segmentsOut)) middle later =
          true)) (new cfg ⟨0⟩) ops = true := by
    decide +kernel
  rcases run_of_endsIn checked with ⟨middle, done, facts⟩
  rcases of_decide_eq_true facts with ⟨inactive, heard⟩
  refine ⟨middle, done, inactive, ?_⟩
  intro later member
  rcases run_of_endsIn (heard later member) with ⟨reached, arrives, differs⟩
  exact ⟨reached, arrives, of_decide_eq_true differs⟩

end TCPConnection
end Tcp
end Sponge
