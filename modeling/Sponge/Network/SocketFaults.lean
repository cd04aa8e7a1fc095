import Sponge.Network.SocketRuns

namespace Sponge
namespace Network

open Bytes Foundation Tcp Wire Loop

/-!
# What a socket throws

A socket throws when a system call or a poll fails, and when its connection has used up the
sequence numbers.  Nothing else is ever thrown, whatever arrives: the bytes that the owner
writes are accepted as far as they have been asked for, and no callback returns without
having done anything.  The loop reads from the owner only as long as the outbound stream is
open, because the end of that stream comes with the end of file or with the end of the rule.
-/

/-! ## The connection -/

/-- The sequence numbers are used up, or the reply to some segment uses them up. -/
def Exhausted (connection : TCPConnection) : Prop :=
  2 ^ 31 ≤ connection.sender.nextSeqnoAbsolute ∨
    Exists fun segment => connection.Overruns segment

/-- Its segments fit into datagrams, its queue is in order below `2^31`, and the outbound
stream has been ended or not. -/
structure Fit (ended : Bool) (connection : TCPConnection) : Prop where
  compact : AllSegments Compact connection
  queued : connection.sender.window.nextSeqno < 2 ^ 31 -> connection.sender.Queued
  ended_eq : connection.sender.stream.endFlag = ended

section

variable {connection final : TCPConnection} {segment : TCPSegment} {op : OwnerOp}
  {ended : Bool} {fault : Tcp.Fault}

theorem ended_keptByParts (ended : Bool) :
    TCPConnection.KeptByParts fun connection => connection.sender.stream.endFlag = ended where
  flags := fun _ _ _ same => same
  clock := fun _ _ same => same
  collect := by
    intro connection final same done
    rcases TCPConnection.collect_spec done with ⟨filled, fills, rfl⟩
    rcases TCPSender.fillWindow_sends fills with ⟨segments, sends⟩
    exact sends.frame.endFlag_eq.trans same
  push := by
    intro connection final same done
    rcases TCPConnection.pushAck_spec done with ⟨ackno, _, rfl⟩
    exact same
  queue := by
    intro connection final same done
    rcases TCPConnection.queueAck_spec done with ⟨ackno, _, rfl⟩
    exact same
  empty := fun _ same => same
  reset := fun _ same => same
  tickSender := fun connection msSinceLastTick same =>
    (congrArg ByteStream.endFlag (connection.sender.tick_spec msSinceLastTick).stream_eq).trans same
  pushRst := fun _ same => same

theorem takeAck_ended (same : connection.sender.stream.endFlag = ended)
    (taken : connection.takeAck segment = .ok final) : final.sender.stream.endFlag = ended := by
  rcases TCPConnection.takeAck_spec taken with ⟨sender, received, rfl⟩
  rcases TCPSender.ackReceived_spec received with ⟨updated, segments, took, sends⟩
  exact sends.frame.endFlag_eq.trans ((congrArg ByteStream.endFlag took.stream_eq).trans same)

/-- Only the owner ends the outbound stream. -/
theorem Fit.perform (fit : Fit ended connection) (op : OwnerOp) (other : op ≠ .endInputStream)
    (done : connection.perform op = .ok final) : Fit ended final where
  compact := fit.compact.step compact_built (.owner op) done
  queued := by
    intro low
    have before := TCPConnection.perform_nextSeqno_le done
    exact TCPConnection.perform_queued (fit.queued (Nat.lt_of_le_of_lt before low)) done
  ended_eq := by
    cases op with
    | endInputStream => exact absurd rfl other
    | connect => exact (ended_keptByParts ended).collect _ final fit.ended_eq done
    | write data =>
        rcases bind_ok done with ⟨⟨collected, count⟩, writes, rest⟩
        cases rest
        refine (ended_keptByParts ended).collect _ _ ?_ (TCPConnection.write_spec writes).2
        exact (ByteStream.write_endFlag _ _).trans fit.ended_eq
    | tick msSinceLastTick =>
        exact TCPConnection.tick_keeps (ended_keptByParts ended) fit.ended_eq done
    | popInbound length =>
        cases done
        exact fit.ended_eq

theorem Fit.endInputStream (fit : Fit ended connection)
    (done : connection.endInputStream = .ok final) : Fit true final where
  compact := fit.compact.step compact_built (.owner .endInputStream) done
  queued := by
    intro low
    have performed : connection.perform .endInputStream = .ok final := done
    have before := TCPConnection.perform_nextSeqno_le performed
    exact TCPConnection.perform_queued (fit.queued (Nat.lt_of_le_of_lt before low)) performed
  ended_eq := by
    have start : connection.ended.sender.stream.endFlag = true := rfl
    exact (ended_keptByParts true).collect _ final start done

theorem Fit.receive (fit : Fit ended connection)
    (done : connection.segmentReceived segment = .ok final) : Fit ended final where
  compact := fit.compact.step compact_built (.segmentReceived segment) done
  queued := by
    intro low
    have before := TCPConnection.segmentReceived_nextSeqno_le done
    exact TCPConnection.segmentReceived_queued (fit.queued (Nat.lt_of_le_of_lt before low)) done low
  ended_eq := TCPConnection.segmentReceived_keeps (ended_keptByParts ended) (fun _ _ _ same => same)
    (fun _ _ _ same taken => takeAck_ended same taken) fit.ended_eq done

/-- The owner takes segments out of the queue. -/
theorem Fit.collected (fit : Fit ended connection) {rest : List TCPSegment}
    (part : rest ⊆ connection.segmentsOut) : Fit ended { connection with segmentsOut := rest } where
  compact := by
    intro segment member
    refine fit.compact segment ?_
    unfold emitted at member ⊢
    simp only [List.mem_append] at member ⊢
    exact member.imp_right (Or.imp_right fun out => part out)
  queued := fit.queued
  ended_eq := fit.ended_eq

theorem Fit.perform_fault (fit : Fit ended connection)
    (failed : connection.perform op = .error fault) : Exhausted connection := by
  left
  by_contra low
  rcases TCPConnection.perform_goesThrough (fit.queued (Nat.lt_of_not_ge low)) op with
    ⟨next, done, _⟩
  cases done.symm.trans failed

theorem Fit.receive_fault (fit : Fit ended connection)
    (failed : connection.segmentReceived segment = .error fault) : Exhausted connection := by
  by_contra fine
  rcases not_or.mp fine with ⟨low, fits⟩
  have below := Nat.lt_of_not_ge low
  rcases TCPConnection.segmentReceived_goesThrough (fit.queued below) below
    (fun overruns => fits ⟨segment, overruns⟩) with ⟨next, done, _⟩
  cases done.symm.trans failed

theorem new_fit (cfg : TCPConfig) (random : WrappingInt32) :
    Fit false (TCPConnection.new cfg random) :=
  ⟨new_allSegments cfg random, fun _ => TCPConnection.new_queued cfg random, rfl⟩

end

/-! ## The callbacks -/

section

variable {Adapter Received Sent : Type} {adaptT : AdaptT Adapter Received Sent}
  {carries : Sent -> Received -> Prop} {socket next : TCPSpongeSocket Adapter Received Sent}
  {ended eof : Bool}

/-- What comes from outside: a failed call, or the end of the sequence numbers. -/
inductive Foreign : SocketFault × TCPSpongeSocket Adapter Received Sent -> Prop
  | descriptor {fault : DescriptorFault} {socket : TCPSpongeSocket Adapter Received Sent}
      (called : forall wire, fault ≠ .format wire) : Foreign (.descriptor fault, socket)
  | connection {fault : Tcp.Fault} {socket : TCPSpongeSocket Adapter Received Sent}
      (exhausted : Exhausted socket.tcp) : Foreign (.connection fault, socket)

/-- The connection is fit, and the owner's end of file has been read or not. -/
structure Holds (ended eof : Bool) (socket : TCPSpongeSocket Adapter Received Sent) : Prop where
  fit : Fit ended socket.tcp
  eof_eq : socket.threadData.eof = eof

theorem segmentReceived_ensures (seg : TCPSegment) :
    Ensures (Holds ended eof) (Holds ended eof) Foreign
      (TCPSpongeSocket.segmentReceived seg : TCPSpongeSocket.Method Adapter Received Sent) := by
  intro socket holds
  unfold TCPSpongeSocket.segmentReceived
  cases received : socket.tcp.segmentReceived seg with
  | error fault => exact .connection (holds.fit.receive_fault received)
  | ok tcp => exact ⟨holds.fit.receive received, holds.eof_eq⟩

theorem readDatagram_ensures (faithful : Faithful adaptT carries) :
    Ensures (Holds ended eof) (Holds ended eof) Foreign (TCPSpongeSocket.readDatagram adaptT) := by
  intro socket holds
  unfold TCPSpongeSocket.readDatagram
  cases socket.kernel.arrivals with
  | nil => exact .descriptor nofun
  | cons arrival arrivals =>
      dsimp only
      cases read : adaptT.read socket.datagramAdapter arrival with
      | error fault =>
          refine .descriptor fun wire format => ?_
          rw [format] at read
          exact faithful.parses read
      | ok taken =>
          rcases taken with ⟨result, adapter⟩
          cases result with
          | none => exact ⟨holds.fit, holds.eof_eq⟩
          | some seg =>
              have asked : Holds ended eof { socket with
                  kernel := { socket.kernel with arrivals := arrivals }
                  datagramAdapter := adapter } := ⟨holds.fit, holds.eof_eq⟩
              have received := segmentReceived_ensures seg _ asked
              dsimp only
              revert received
              cases TCPSpongeSocket.segmentReceived seg _ with
              | error thrown => exact fun foreign => foreign
              | ok next => exact fun kept => ⟨kept.fit, kept.eof_eq⟩

theorem endOutbound_ensures :
    Ensures (Holds ended eof) (Holds true eof) Foreign
      (TCPSpongeSocket.endOutbound : TCPSpongeSocket.Method Adapter Received Sent) := by
  intro socket holds
  unfold TCPSpongeSocket.endOutbound
  cases ends : socket.tcp.endInputStream with
  | error fault =>
      have performed : socket.tcp.perform .endInputStream = .error fault := ends
      exact .connection (holds.fit.perform_fault performed)
  | ok tcp => exact ⟨holds.fit.endInputStream ends, holds.eof_eq⟩

/-- An open stream accepts as many bytes as it has asked for. -/
theorem write_ensures (data : List UInt8) :
    Ensures (fun socket => Holds false eof socket ∧ data.length ≤ socket.tcp.remainingOutboundCapacity)
      (Holds eof eof) Foreign
      (TCPSpongeSocket.write data : TCPSpongeSocket.Method Adapter Received Sent) := by
  rintro socket ⟨holds, room⟩
  unfold TCPSpongeSocket.write
  cases wrote : socket.tcp.write data with
  | error fault =>
      have performed : socket.tcp.perform (.write data) = .error fault := by
        unfold TCPConnection.perform
        dsimp only
        rw [wrote]
        rfl
      exact .connection (holds.fit.perform_fault performed)
  | ok result =>
      rcases result with ⟨tcp, amountWritten⟩
      have performed : socket.tcp.perform (.write data) = .ok tcp := by
        unfold TCPConnection.perform
        dsimp only
        rw [wrote]
        rfl
      have all : amountWritten = data.length := by
        rw [(TCPConnection.write_spec wrote).1, ByteStream.write_count,
          ByteStream.accepted_eq_self _ holds.fit.ended_eq room]
      have written : Holds false eof { socket with
          tcp := tcp
          written := socket.written ++ data.take amountWritten } :=
        ⟨holds.fit.perform (.write data) nofun performed, holds.eof_eq⟩
      dsimp only
      rw [if_neg (not_not.mpr all), holds.eof_eq]
      cases eof with
      | false => exact written
      | true => exact endOutbound_ensures _ written

/-- The outbound stream ends with the owner's file. -/
theorem readOwner_ensures :
    Ensures (Holds false false) (fun next => Exists fun eof => Holds eof eof next) Foreign
      (TCPSpongeSocket.readOwner : TCPSpongeSocket.Method Adapter Received Sent) := by
  intro socket holds
  unfold TCPSpongeSocket.readOwner
  cases socket.kernel.reads with
  | nil => exact .descriptor nofun
  | cons answer reads =>
      dsimp only
      cases read : socket.threadData.read socket.tcp.remainingOutboundCapacity answer with
      | error fault =>
          refine .descriptor fun wire format => ?_
          rw [format] at read
          exact FDWrapper.read_not_format read
      | ok result =>
          rcases result with ⟨data, threadData⟩
          have short : data.length ≤ socket.tcp.remainingOutboundCapacity := by
            cases answer with
            | failed errno =>
                rcases socket.threadData.read_failed socket.tcp.remainingOutboundCapacity errno with
                  ⟨fault, failed⟩
                cases failed.symm.trans read
            | returned bytes =>
                cases (socket.threadData.read_returned _ bytes).symm.trans read
                exact (List.length_take_le _ _).trans (Nat.min_le_right _ _)
          have wrote := write_ensures data { socket with
            kernel := { socket.kernel with reads := reads }
            threadData := threadData } ⟨⟨holds.fit, rfl⟩, short⟩
          exact wrote.imp fun next kept => ⟨_, kept⟩

theorem shutInbound_ensures :
    Ensures (Holds ended eof) (Holds ended eof) Foreign
      (TCPSpongeSocket.shutInbound : TCPSpongeSocket.Method Adapter Received Sent) := by
  intro socket holds
  unfold TCPSpongeSocket.shutInbound
  cases socket.kernel.calls with
  | nil => exact .descriptor nofun
  | cons answer calls =>
      dsimp only
      cases shut : socket.threadData.shutdownWrite answer with
      | error fault =>
          refine .descriptor fun wire format => ?_
          rw [format] at shut
          exact FDWrapper.shutdownWrite_not_format shut
      | ok threadData =>
          rcases FDWrapper.shutdownWrite_ok shut with rfl
          exact ⟨holds.fit, holds.eof_eq⟩

theorem shutIf_ensures (finished : Bool) :
    Ensures (Holds ended eof) (Holds ended eof) Foreign
      fun socket : TCPSpongeSocket Adapter Received Sent =>
        if finished then TCPSpongeSocket.shutInbound socket else .ok socket := by
  cases finished with
  | false => exact fun socket holds => holds
  | true => exact shutInbound_ensures

/-- What is written to the owner at once. -/
theorem writeOwner_short (socket : TCPSpongeSocket Adapter Received Sent) :
    (socket.tcp.inboundStream.peekOutput
      (min 65536 socket.tcp.inboundStream.bufferSize)).length < 2 ^ 31 := by
  rw [ByteStream.peekOutput_eq, List.length_take]
  omega

theorem writeOwner_ensures :
    Ensures (Holds ended eof) (Holds ended eof) Foreign
      (TCPSpongeSocket.writeOwner : TCPSpongeSocket.Method Adapter Received Sent) := by
  intro socket holds
  unfold TCPSpongeSocket.writeOwner
  cases socket.kernel.writes with
  | nil => exact .descriptor nofun
  | cons answer writes =>
      dsimp only
      cases wrote : socket.threadData.write (socket.tcp.inboundStream.peekOutput
          (min 65536 socket.tcp.inboundStream.bufferSize)) answer with
      | error fault =>
          refine .descriptor fun wire format => ?_
          rw [format] at wrote
          exact FDWrapper.write_not_format wrote
      | ok result =>
          rcases result with ⟨bytesWritten, threadData⟩
          rcases FDWrapper.write_ok (writeOwner_short socket) wrote with ⟨_, rfl⟩
          have popped : Fit ended (socket.tcp.popInbound bytesWritten.toNat) :=
            holds.fit.perform (.popInbound bytesWritten.toNat) nofun rfl
          exact shutIf_ensures _ _ ⟨popped, holds.eof_eq⟩

theorem sendSegments_ensures (faithful : Faithful adaptT carries) (queue : List TCPSegment) :
    Ensures (fun socket => Holds ended eof socket ∧ socket.tcp.segmentsOut = queue)
      (Holds ended eof) Foreign (TCPSpongeSocket.sendSegments adaptT queue) := by
  induction queue with
  | nil => exact fun socket holds => holds.1
  | cons seg rest ih =>
      rintro socket ⟨holds, queued⟩
      have sendable : Sendable seg := by
        refine (holds.fit.compact seg (List.mem_append_right _ ?_)).sendable
        unfold emitted
        rw [queued]
        exact List.mem_append_right _ List.mem_cons_self
      unfold TCPSpongeSocket.sendSegments
      cases wrote : adaptT.write socket.datagramAdapter seg socket.kernel.sends with
      | error fault =>
          refine .descriptor fun wire format => ?_
          rw [format] at wrote
          exact faithful.writes sendable wrote
      | ok sending =>
          refine ih _ ⟨⟨holds.fit.collected ?_, holds.eof_eq⟩, rfl⟩
          rw [queued]
          exact List.subset_cons_self seg rest

theorem writeDatagrams_ensures (faithful : Faithful adaptT carries) :
    Ensures (Holds ended eof) (Holds ended eof) Foreign (TCPSpongeSocket.writeDatagrams adaptT) :=
  fun socket holds => sendSegments_ensures faithful socket.tcp.segmentsOut socket ⟨holds, rfl⟩

/-! ## The loop -/

open TCPSpongeSocket in
theorem rule_cases {rule : SocketRule Adapter Received Sent} (member : rule ∈ rules adaptT) :
    rule = inboundDatagrams adaptT ∨ rule = outboundBytes ∨ rule = inboundBytes ∨
      rule = outboundSegments adaptT := by
  simpa only [rules, List.mem_cons, List.not_mem_nil, or_false] using member

open TCPSpongeSocket in
/-- The two rules that read are different, for only one of them ends the outbound stream when
it is cancelled. -/
theorem inboundDatagrams_ne_outboundBytes (socket : TCPSpongeSocket Adapter Received Sent) :
    inboundDatagrams adaptT ≠ outboundBytes := by
  intro same
  have cancels : Except.ok { socket with outboundShutdown := false } =
      endOutbound { socket with outboundShutdown := false } :=
    congrFun (congrArg Rule.cancel same) _
  unfold endOutbound at cancels
  split at cancels
  · cases cancels
  · cases congrArg TCPSpongeSocket.outboundShutdown (Except.ok.inj cancels)

section

open TCPSpongeSocket

variable {kept ahead armed all : List (SocketRule Adapter Received Sent)}
  {rule : SocketRule Adapter Received Sent}

/-- The rule that reads from the owner comes once. -/
theorem outboundBytes_once (socket : TCPSpongeSocket Adapter Received Sent)
    (order : (kept ++ outboundBytes :: ahead).Sublist (rules adaptT)) :
    outboundBytes ∉ kept ++ ahead := by
  have input {other : SocketRule Adapter Received Sent} (writes : other.direction = .output) :
      other ≠ outboundBytes := by
    intro same
    rw [same] at writes
    cases writes
  have apart : (rules adaptT).Pairwise fun first second =>
      first = outboundBytes -> second ≠ outboundBytes := by
    simp only [rules, List.pairwise_cons, List.mem_cons, List.not_mem_nil, or_false,
      forall_eq_or_imp, forall_eq, List.Pairwise.nil, and_true, false_imp_iff, implies_true]
    refine ⟨⟨fun same => ?_, fun _ => input rfl, fun _ => input rfl⟩,
      ⟨fun _ => input rfl, fun _ => input rfl⟩, fun _ => input rfl⟩
    exact absurd same (inboundDatagrams_ne_outboundBytes socket)
  have once := apart.sublist order
  rw [List.pairwise_append, List.pairwise_cons] at once
  intro again
  rcases List.mem_append.mp again with before | behind
  · exact once.2.2 _ before _ List.mem_cons_self rfl rfl
  · exact once.2.1.1 _ behind rfl rfl

/-- The rules that are left, and those of them that will still be called.  The outbound stream
has only been ended at the end of file or with the rule that reads from the owner, and
that rule is only called before the end of file. -/
structure Attends (adaptT : AdaptT Adapter Received Sent)
    (armed all : List (SocketRule Adapter Received Sent))
    (socket : TCPSpongeSocket Adapter Received Sent) : Prop where
  order : all.Sublist (rules adaptT)
  fit : Fit socket.tcp.sender.stream.endFlag socket.tcp
  ending : socket.tcp.sender.stream.endFlag = true ->
    socket.threadData.eof = true ∨ outboundBytes ∉ all
  awake : outboundBytes ∈ armed -> socket.threadData.eof = false

theorem Holds.attends (holds : Holds ended eof socket) (order : all.Sublist (rules adaptT))
    (ending : ended = true -> eof = true ∨ outboundBytes ∉ all)
    (awake : outboundBytes ∈ armed -> eof = false) : Attends adaptT armed all socket := by
  rcases holds with ⟨fit, rfl⟩
  have same := fit.ended_eq
  subst same
  exact ⟨order, fit, ending, awake⟩

theorem Attends.holds (attends : Attends adaptT armed all socket) :
    Holds socket.tcp.sender.stream.endFlag socket.threadData.eof socket :=
  ⟨attends.fit, rfl⟩

/-- What changes neither flag leaves the loop where it is. -/
theorem Attends.keep (attends : Attends adaptT armed all socket)
    (holds : Holds socket.tcp.sender.stream.endFlag socket.threadData.eof next)
    {left part : List (SocketRule Adapter Received Sent)} (order : left.Sublist all)
    (fewer : part ⊆ armed) : Attends adaptT part left next :=
  holds.attends (order.trans attends.order)
    (fun ended => (attends.ending ended).imp_right fun gone member => gone (order.subset member))
    fun member => attends.awake (fewer member)

/-- A rule is cancelled. -/
theorem cancel_ends (attends : Attends adaptT armed (kept ++ rule :: ahead) socket)
    {part : List (SocketRule Adapter Received Sent)} (fewer : part ⊆ armed)
    (left : part ⊆ kept ++ ahead) :
    (rule.cancel socket).Ends (Attends adaptT part (kept ++ ahead)) Foreign := by
  have order : (kept ++ ahead).Sublist (kept ++ rule :: ahead) :=
    (List.Sublist.refl kept).append (List.sublist_cons_self rule ahead)
  rcases rule_cases (attends.order.subset (List.mem_append_right _ List.mem_cons_self)) with
    rfl | rfl | rfl | rfl
  · exact attends.keep attends.holds order fewer
  · have gone := outboundBytes_once socket attends.order
    refine (endOutbound_ensures socket attends.holds).imp fun next holds => ?_
    exact holds.attends (order.trans attends.order) (fun _ => Or.inr gone)
      fun member => absurd (left member) gone
  · exact attends.keep attends.holds order fewer
  · exact attends.keep attends.holds order fewer

/-- A rule is called. -/
theorem callback_ends (faithful : Faithful adaptT carries)
    (attends : Attends adaptT (rule :: ahead) (kept ++ rule :: ahead) socket) :
    (rule.callback socket).Ends (Attends adaptT ahead (kept ++ rule :: ahead)) Foreign := by
  have keep (next : TCPSpongeSocket Adapter Received Sent)
      (holds : Holds socket.tcp.sender.stream.endFlag socket.threadData.eof next) :
      Attends adaptT ahead (kept ++ rule :: ahead) next :=
    attends.keep holds (List.Sublist.refl _) (List.subset_cons_self _ _)
  rcases rule_cases (attends.order.subset (List.mem_append_right _ List.mem_cons_self)) with
    rfl | rfl | rfl | rfl
  · exact (readDatagram_ensures faithful socket attends.holds).imp keep
  · have awake := attends.awake List.mem_cons_self
    have opened : socket.tcp.sender.stream.endFlag = false := by
      refine Bool.eq_false_iff.mpr fun ended => ?_
      rcases attends.ending ended with eof | gone
      · exact Bool.false_ne_true (awake.symm.trans eof)
      · exact gone (List.mem_append_right _ List.mem_cons_self)
    have gone := outboundBytes_once socket attends.order
    have holds := attends.holds
    rw [opened, awake] at holds
    refine (readOwner_ensures socket holds).imp ?_
    rintro next ⟨eof, holds⟩
    exact holds.attends attends.order Or.inl
      fun member => absurd (List.mem_append_right _ member) gone
  · exact (writeOwner_ensures socket attends.holds).imp keep
  · exact (writeDatagrams_ensures faithful socket attends.holds).imp keep

theorem attends_invariant (faithful : Faithful adaptT carries) (hangs : Prop) :
    EventLoop.Invariant hangs
      (fun _ kept ahead => Attends adaptT kept (kept ++ ahead))
      (fun kept ahead => Attends adaptT ahead (kept ++ ahead)) where
  enters := by
    intro somethingToPoll kept rule rules world attends alive
    refine ⟨?_, attends.fit, ?_, ?_⟩
    · rw [List.append_assoc]
      exact attends.order
    · rw [List.append_assoc]
      exact attends.ending
    · intro member
      rcases List.mem_append.mp member with before | last
      · exact attends.awake before
      · cases List.mem_singleton.mp last
        exact (Bool.or_eq_false_iff.mp alive).1
  cancels := by
    intro somethingToPoll kept rule rules world next attends _ done
    have ends := cancel_ends attends (List.Subset.refl kept) (List.subset_append_left kept rules)
    rw [done] at ends
    exact ends
  polls := by
    intro somethingToPoll kept world attends
    rw [List.append_nil] at attends
    exact attends
  passes := by
    intro kept rule rules world attends
    rw [List.append_assoc]
    exact attends.keep attends.holds (List.Sublist.refl _) (List.subset_cons_self _ _)
  drops := by
    intro kept rule rules world next _ attends done
    have ends := cancel_ends attends (List.subset_cons_self rule rules)
      (List.subset_append_right kept rules)
    rw [done] at ends
    exact ends
  calls := by
    intro kept rule rules world next attends done
    have ends := callback_ends faithful attends
    rw [done] at ends
    rw [List.append_assoc]
    exact ends

/-! ## No busy wait -/

theorem readDatagram_counts (faithful : Faithful adaptT carries)
    (done : readDatagram adaptT socket = .ok next) :
    (adaptT.fd next.datagramAdapter).readCount =
      (adaptT.fd socket.datagramAdapter).readCount + 1 := by
  unfold readDatagram at done
  split at done
  · cases done
  · dsimp only at done
    split at done
    · cases done
    · next read =>
        cases done
        exact faithful.serves read
    · next seg adapter read =>
        unfold TCPSpongeSocket.segmentReceived at done
        split at done
        · cases done
        · cases done
          exact faithful.serves read

theorem endOutbound_threadData (done : endOutbound socket = .ok next) :
    next.threadData = socket.threadData := by
  unfold endOutbound at done
  split at done
  · cases done
  · cases done
    rfl

theorem readOwner_counts (done : readOwner socket = .ok next) :
    next.threadData.readCount = socket.threadData.readCount + 1 := by
  unfold readOwner at done
  split at done
  · cases done
  · next answer reads _ =>
      dsimp only at done
      split at done
      · cases done
      · next data threadData read =>
          have counts : threadData.readCount = socket.threadData.readCount + 1 := by
            cases answer with
            | failed errno =>
                rcases socket.threadData.read_failed socket.tcp.remainingOutboundCapacity errno with
                  ⟨fault, failed⟩
                cases failed.symm.trans read
            | returned bytes =>
                cases (socket.threadData.read_returned _ bytes).symm.trans read
                rfl
          unfold TCPSpongeSocket.write at done
          split at done
          · cases done
          · dsimp only at done
            split at done
            · cases done
            · split at done
              · rw [endOutbound_threadData done]
                exact counts
              · cases done
                exact counts

theorem shutInbound_counts (done : shutInbound socket = .ok next) :
    next.threadData.writeCount = socket.threadData.writeCount + 1 := by
  unfold shutInbound at done
  split at done
  · cases done
  · dsimp only at done
    split at done
    · cases done
    · next shut =>
        cases done
        rw [FDWrapper.shutdownWrite_ok shut]
        rfl

theorem writeOwner_counts (done : writeOwner socket = .ok next) :
    next.threadData.writeCount = socket.threadData.writeCount + 1 ∨
      next.threadData.writeCount = socket.threadData.writeCount + 1 + 1 := by
  unfold writeOwner at done
  split at done
  · cases done
  · dsimp only at done
    split at done
    · cases done
    · next wrote =>
        rcases FDWrapper.write_ok (writeOwner_short socket) wrote with ⟨_, rfl⟩
        split at done
        · exact Or.inr (shutInbound_counts done)
        · cases done
          exact Or.inl rfl

theorem sendSegments_empties {queue : List TCPSegment} (queued : socket.tcp.segmentsOut = queue)
    (done : sendSegments adaptT queue socket = .ok next) : next.tcp.segmentsOut = [] := by
  induction queue generalizing socket with
  | nil =>
      cases done
      exact queued
  | cons seg rest ih =>
      unfold sendSegments at done
      split at done
      · cases done
      · exact ih rfl done

/-- A callback that returns has read or written its descriptor, or its queue is empty. -/
theorem callback_services (faithful : Faithful adaptT carries) (member : rule ∈ rules adaptT)
    (done : rule.callback socket = .ok next) :
    ¬ (rule.serviceCount socket = rule.serviceCount next ∧ rule.interest next = true) := by
  rintro ⟨same, interested⟩
  rcases rule_cases member with rfl | rfl | rfl | rfl
  · have counts := readDatagram_counts faithful done
    exact (FDWrapper.counted _).1 (Eq.trans same counts)
  · have counts := readOwner_counts done
    exact (FDWrapper.counted _).1 (Eq.trans same counts)
  · rcases writeOwner_counts done with once | twice
    · exact (FDWrapper.counted _).1 (Eq.trans same once)
    · exact (FDWrapper.counted _).2 (Eq.trans same twice)
  · have empty : next.tcp.segmentsOut = [] := sendSegments_empties rfl done
    change (!next.tcp.segmentsOut.isEmpty) = true at interested
    rw [empty] at interested
    cases interested

end

/-! ## Runs -/

section

variable {thread : SocketThread Adapter Received Sent}

/-- What the loop of a socket throws. -/
inductive Outside (socket : TCPSpongeSocket Adapter Received Sent) : LoopFault SocketFault -> Prop
  | polled : Outside socket .polledDescriptor
  | thrown {fault : SocketFault} (foreign : Foreign (fault, socket)) :
      Outside socket (.thrown fault)

/-- The loop goes on, or it has ended with something from outside. -/
def Sane (adaptT : AdaptT Adapter Received Sent) (thread : SocketThread Adapter Received Sent) :
    Prop :=
  match thread.phase with
  | .thrown fault => Outside thread.socket fault
  | _ => Attends adaptT [] thread.loop.rules thread.socket

theorem wait_sane (faithful : Faithful adaptT carries)
    {loop : EventLoop SocketFault (TCPSpongeSocket Adapter Received Sent)}
    (attends : Attends adaptT [] loop.rules loop.world) (answer : PollAnswer) :
    match loop.waitNextEvent answer with
    | .ok (_, reached) => Attends adaptT [] reached.rules reached.world
    | .error (fault, reached) => Outside reached.world fault := by
  have invariant := attends_invariant faithful answer.Hangs
  have ends := loop.wait_ends answer
  have calm := loop.wait_not_busy answer fun rule member world next done =>
    callback_services faithful (attends.order.subset member) done
  cases waits : loop.waitNextEvent answer with
  | ok returned =>
      rcases returned with ⟨result, reached⟩
      have served := (invariant.wait attends waits).1
      rw [List.append_nil] at served
      exact served
  | error thrown =>
      rcases thrown with ⟨fault, reached⟩
      rw [waits] at ends calm
      cases fault with
      | thrown fault =>
          refine .thrown ?_
          cases invariant.wait_thrown attends waits with
          | armed holds cancelled =>
              have ends := cancel_ends holds (List.Subset.refl _) (List.subset_append_left _ _)
              rw [cancelled] at ends
              exact ends
          | dropped holds cancelled =>
              have ends := cancel_ends holds (List.subset_cons_self _ _)
                (List.subset_append_right _ _)
              rw [cancelled] at ends
              exact ends
          | called holds called =>
              have ends := callback_ends faithful holds
              rw [called] at ends
              exact ends
      | polledDescriptor => exact .polled
      | busyWait => exact absurd rfl (calm reached)
      | outOfRange => exact absurd rfl ends.1

theorem Sane.of_attends (attends : Attends adaptT [] thread.loop.rules thread.socket)
    (goes : forall fault, thread.phase ≠ .thrown fault) : Sane adaptT thread := by
  unfold Sane
  split
  · next fault thrown => exact absurd thrown (goes fault)
  · exact attends

theorem Sane.attends (sane : Sane adaptT thread) (goes : forall fault, thread.phase ≠ .thrown fault) :
    Attends adaptT [] thread.loop.rules thread.socket := by
  unfold Sane at sane
  split at sane
  · next fault thrown => exact absurd thrown (goes fault)
  · exact sane

theorem next_goes {phase : Phase} (goes : forall fault, phase ≠ .thrown fault) :
    forall fault, phase.next ≠ .thrown fault := by
  intro fault
  cases phase with
  | thrown other => exact absurd rfl (goes other)
  | connecting | accepting | running | finished => exact nofun

theorem Sane.tick (sane : Sane adaptT thread) (goes : forall fault, thread.phase ≠ .thrown fault)
    (elapsed : Nat) : Sane adaptT (thread.tick elapsed) := by
  have attends := sane.attends goes
  unfold SocketThread.tick
  split
  · split
    · next fault ticked =>
        have performed : thread.socket.tcp.perform (.tick elapsed) = .error fault := ticked
        exact .thrown (.connection (attends.fit.perform_fault performed))
    · next tcp ticked =>
        have holds : Holds thread.socket.tcp.sender.stream.endFlag thread.socket.threadData.eof
            { thread.socket with tcp := tcp } :=
          ⟨attends.fit.perform (.tick elapsed) nofun ticked, rfl⟩
        refine Sane.of_attends ?_ goes
        exact attends.keep holds (List.Sublist.refl _) (List.Subset.refl _)
  · exact sane

theorem Sane.pass (faithful : Faithful adaptT carries) (sane : Sane adaptT thread)
    (turn : Turn Received) : Sane adaptT (thread.pass turn) := by
  unfold SocketThread.pass
  split
  · next condition =>
      have goes : forall fault, thread.phase ≠ .thrown fault := by
        intro fault thrown
        rw [thrown] at condition
        cases condition
      have attends := sane.attends goes
      have asked : Attends adaptT [] thread.loop.rules
          { thread.socket with kernel := turn.kernel } :=
        ⟨attends.order, attends.fit, attends.ending, attends.awake⟩
      have waits := wait_sane faithful
        (show Attends adaptT [] (thread.withSocket
          { thread.socket with kernel := turn.kernel }).loop.rules _ from asked) turn.answer
      split
      · next failed =>
          rw [failed] at waits
          exact waits
      · next result reached returned =>
          rw [returned] at waits
          split
          · exact Sane.of_attends waits (next_goes goes)
          · have next : Sane adaptT ⟨reached, thread.phase⟩ := Sane.of_attends waits goes
            exact next.tick goes turn.elapsed
  · by_cases goes : forall fault, thread.phase ≠ .thrown fault
    · exact Sane.of_attends (sane.attends goes) (next_goes goes)
    · rcases not_forall.mp goes with ⟨fault, same⟩
      have thrown := not_not.mp same
      have stays : { thread with phase := thread.phase.next } = thread := by
        rw [thrown]
        exact congrArg (SocketThread.mk thread.loop) thrown.symm
      rw [stays]
      exact sane

theorem Opened.sane {cfg : TCPConfig} {random : WrappingInt32}
    (opened : Opened adaptT cfg random thread) : Sane adaptT thread := by
  have fit := new_fit cfg random
  cases opened with
  | listening threadData adapter cAd =>
      refine Sane.of_attends ?_ nofun
      exact ⟨List.Sublist.refl _, fit, nofun, nofun⟩
  | connecting done =>
      unfold TCPSpongeSocket.connect at done
      dsimp only at done
      split at done
      · cases done
      · next tcp connected =>
          split at done
          · cases done
          · cases done
            have performed : (TCPConnection.new cfg random).perform .connect = .ok tcp := connected
            have opens := fit.perform .connect nofun performed
            refine Sane.of_attends ?_ nofun
            refine ⟨List.Sublist.refl _, ?_, fun ended => ?_, nofun⟩
            · exact ⟨opens.compact, opens.queued, rfl⟩
            · exact absurd (opens.ended_eq.symm.trans ended) Bool.false_ne_true

end

end
end Network
end Sponge
