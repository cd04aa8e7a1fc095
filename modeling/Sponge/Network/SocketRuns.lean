import Sponge.Loop.DamagedDatagrams
import Sponge.Network.Sockets
import Sponge.Tcp.ConnectionQueue
import Sponge.Tcp.Stages

namespace Sponge
namespace Network

open Bytes Foundation Tcp Wire Loop

/-!
# Whole runs of two sockets

The two sockets take turns in any order.  Each turn is a pass of a socket's loop, with
anything that the kernel may answer and any time that may go by.
-/

theorem Compact.sendable {segment : TCPSegment} (compact : Compact segment) : Sendable segment := by
  have doff := compact.doff_eq
  have payload : segment.payload.length ≤ 1000 := compact.payload_le
  refine ⟨?_, ?_, ?_⟩
  · rw [doff]
    decide
  · rw [doff]
    decide
  · rw [doff]
    have length : (5 : UInt8).toNat = 5 := rfl
    omega

section

variable {Adapter Received Sent : Type} {adaptT : AdaptT Adapter Received Sent}
  {carries : Sent -> Received -> Prop} {start network : NetworkState} {side : Side}
  {peer : Endpoint} {socket : TCPSpongeSocket Adapter Received Sent}

/-! ## A pass -/

/-- The thread has only rules of the socket, and the socket stands for an endpoint. -/
structure Runs (adaptT : AdaptT Adapter Received Sent) (start : NetworkState) (side : Side)
    (peer : Endpoint) (thread : SocketThread Adapter Received Sent) : Prop where
  rules : thread.loop.rules.Sublist (TCPSpongeSocket.rules adaptT)
  standing : Standing adaptT start side peer thread.socket

theorem Runs.wait {thread : SocketThread Adapter Received Sent} (faithful : Faithful adaptT carries)
    (runs : Runs adaptT start side peer thread) (answer : PollAnswer) (next : Phase) :
    Runs adaptT start side peer ⟨(thread.loop.step answer).reached, next⟩ := by
  rcases thread.loop.step_does answer with ⟨deeds, does⟩
  have left := (Acts.sublist does).trans runs.rules
  refine ⟨left, ?_⟩
  apply Acts.invariant _ _ does runs.standing
  · intro rule member
    exact (rules_keep faithful rule (runs.rules.subset member)).1
  · intro rule member
    exact (rules_keep faithful rule (runs.rules.subset member)).2

theorem Runs.tick {thread : SocketThread Adapter Received Sent}
    (runs : Runs adaptT start side peer thread) (elapsed : Nat) :
    Runs adaptT start side peer (thread.tick elapsed) := by
  unfold SocketThread.tick
  split
  · cases ticked : thread.socket.tcp.tick elapsed with
    | error fault => exact ⟨runs.rules, runs.standing⟩
    | ok tcp => exact ⟨runs.rules, runs.standing.tick ticked⟩
  · exact runs

/-- A pass of the loop is a sequence of steps of the network. -/
theorem Runs.pass {thread : SocketThread Adapter Received Sent} {turn : Turn Received}
    (faithful : Faithful adaptT carries)
    (runs : Runs adaptT start side peer
      (thread.withSocket { thread.socket with kernel := turn.kernel })) :
    (thread.pass turn).loop.rules.Sublist (TCPSpongeSocket.rules adaptT) ∧
      Exists fun network => (Exists fun ops => run NetworkState.step start ops = .ok network) ∧
        Mirrors adaptT (network.endpoint side) (thread.pass turn).socket ∧
        network.endpoint side.other = peer := by
  have forget {final : SocketThread Adapter Received Sent}
      (ends : Runs adaptT start side peer final) :
      final.loop.rules.Sublist (TCPSpongeSocket.rules adaptT) ∧
        Exists fun network => (Exists fun ops => run NetworkState.step start ops = .ok network) ∧
          Mirrors adaptT (network.endpoint side) final.socket ∧
          network.endpoint side.other = peer := by
    rcases ends.standing with ⟨network, mirrored⟩
    exact ⟨ends.rules, network, mirrored.reached, mirrored.mirrors, mirrored.peer_eq⟩
  unfold SocketThread.pass
  split
  · have waits := runs.wait faithful turn.answer
    unfold EventLoop.step at waits
    split
    · next failed =>
        rw [failed] at waits
        exact forget (waits _)
    · next returned =>
        rw [returned] at waits
        split
        · exact forget (waits _)
        · exact forget ((waits _).tick turn.elapsed)
  · rcases runs.standing with ⟨network, mirrored⟩
    exact ⟨runs.rules, network, mirrored.reached, mirrored.mirrors.frame rfl rfl rfl rfl rfl,
      mirrored.peer_eq⟩

/-! ## Both sockets -/

/-- A network that a run leads to, in which both sides stand for the sockets. -/
structure Stacked (adaptT : AdaptT Adapter Received Sent) (start network : NetworkState)
    (sockets : Sockets Adapter Received Sent) : Prop where
  reached : Exists fun ops => run NetworkState.step start ops = .ok network
  mirrors : forall side, Mirrors adaptT (network.endpoint side) (sockets.socket side)
  rules : forall side, (sockets.thread side).loop.rules.Sublist (TCPSpongeSocket.rules adaptT)

variable {sockets : Sockets Adapter Received Sent}

namespace Sockets

theorem thread_put (sockets : Sockets Adapter Received Sent) (side : Side)
    (next : SocketThread Adapter Received Sent) : (sockets.put side next).thread side = next := by
  cases side <;> rfl

theorem thread_put_other (sockets : Sockets Adapter Received Sent) (side : Side)
    (next : SocketThread Adapter Received Sent) :
    (sockets.put side next).thread side.other = sockets.thread side.other := by
  cases side <;> rfl

end Sockets

/-- A datagram of a socket arrives as one of the segments that its connection has sent. -/
theorem Stacked.arrives (stacked : Stacked adaptT start network sockets)
    (faithful : Faithful adaptT carries)
    (compact : forall side, AllSegments Compact (network.endpoint side).connection) {sent : Sent}
    {received : Received} (out : sent ∈ (sockets.socket side).datagrams)
    (carried : carries sent received) : Arrives adaptT (network.endpoint side) received := by
  have mirrors := stacked.mirrors side
  rcases mirrors.wraps sent out with ⟨segment, held, adapter, answers, sending, wrote, goes⟩
  have inFlight : segment ∈ (network.endpoint side).connection.segmentsOut := by
    rw [mirrors.connection_eq]
    exact List.mem_append_left _ held
  have fits : Compact segment := by
    refine compact side segment (List.mem_append_right _ ?_)
    unfold emitted
    exact List.mem_append_right _ inFlight
  refine ⟨segment, inFlight, fun {receiver result next} read => ?_⟩
  rcases @faithful.delivers _ receiver _ _ _ _ _ fits.sendable wrote goes carried with
    ⟨arrived, following, reads, alike⟩
  cases reads.symm.trans read
  exact alike

theorem Stacked.turn (stacked : Stacked adaptT start network sockets)
    (faithful : Faithful adaptT carries)
    (compact : forall side, AllSegments Compact (network.endpoint side).connection) {turn : Turn Received}
    (possible : Possible carries (sockets.socket side.other).datagrams turn) :
    Exists fun next =>
      Stacked adaptT start next (sockets.put side ((sockets.thread side).pass turn)) := by
  have runs : Runs adaptT start side (network.endpoint side.other)
      ((sockets.thread side).withSocket
        { (sockets.thread side).socket with kernel := turn.kernel }) := by
    refine ⟨stacked.rules side, network, stacked.reached, ?_, rfl, fun received member => ?_⟩
    · exact (stacked.mirrors side).frame rfl rfl rfl rfl rfl
    · rcases possible received member with ⟨sent, out, carried⟩
      exact stacked.arrives faithful compact out carried
  rcases runs.pass faithful with ⟨rules, next, reached, mirrors, peer⟩
  refine ⟨next, reached, NetworkState.forall_side side ?_ ?_, NetworkState.forall_side side ?_ ?_⟩
  · unfold Sockets.socket
    rw [Sockets.thread_put]
    exact mirrors
  · unfold Sockets.socket
    rw [Sockets.thread_put_other, peer]
    exact stacked.mirrors side.other
  · rw [Sockets.thread_put]
    exact rules
  · rw [Sockets.thread_put_other]
    exact stacked.rules side.other

end

/-! ## Where they begin -/

section

variable {Adapter Received Sent : Type} {adaptT : AdaptT Adapter Received Sent}
  {carries : Sent -> Received -> Prop} {cfg cfgA cfgB : TCPConfig}
  {random randomA randomB : WrappingInt32}

/-- A socket that has begun to connect or to listen. -/
inductive Opened (adaptT : AdaptT Adapter Received Sent) (cfg : TCPConfig)
    (random : WrappingInt32) : SocketThread Adapter Received Sent -> Prop
  | connecting {threadData : FDWrapper} {adapter : Adapter} {cAd : FdAdapterConfig}
      {thread : SocketThread Adapter Received Sent}
      (done : TCPSpongeSocket.connect adaptT threadData adapter cfg random cAd = .ok thread) :
      Opened adaptT cfg random thread
  | listening (threadData : FDWrapper) (adapter : Adapter) (cAd : FdAdapterConfig) :
      Opened adaptT cfg random
        (TCPSpongeSocket.listenAndAccept adaptT threadData adapter cfg random cAd)

/-- A new connection that connects is in SYN_SENT, so that the check of its state passes. -/
theorem connect_opens (adaptT : AdaptT Adapter Received Sent) (threadData : FDWrapper)
    (adapter : Adapter) (cfg : TCPConfig) (random : WrappingInt32) (cAd : FdAdapterConfig) : Exists fun thread =>
      TCPSpongeSocket.connect adaptT threadData adapter cfg random cAd = .ok thread := by
  rcases TCPConnection.perform_goesThrough (TCPConnection.new_queued cfg random) .connect with
    ⟨tcp, connects, _⟩
  have composed : (TCPConnection.new cfg random).sender.Composed := TCPSender.new_composed _ _ _
  have collects := TCPConnection.collects composed connects
  have sound : tcp.Sound := by
    refine ⟨?_, ?_, collects.composed⟩
    · rw [collects.receiver_eq]
      exact StreamReassembler.new_wf _
    · rw [collects.receiver_eq]
      rfl
  have listening := sound.listening_state (by rw [collects.receiver_eq]; rfl) collects.active_eq
    collects.linger_eq collects.firstSeqno_eq
  have synSent : tcp.state = .ofState .synSent := by
    rcases listening with closed | ⟨opened, _⟩
    · exfalso
      have sender := congrArg TCPState.sender closed
      rcases sound.composed.summary_cases with ⟨unused, _⟩ | ⟨_, _, summary⟩ | ⟨acked, _⟩ |
        ⟨acked, _⟩ | ⟨acked, _⟩
      · exact collects.used unused
      · cases summary.symm.trans sender
      · exact absurd collects.firstSeqno_eq (Nat.ne_of_gt acked)
      · exact absurd collects.firstSeqno_eq (Nat.ne_of_gt acked)
      · exact absurd collects.firstSeqno_eq (Nat.ne_of_gt acked)
    · exact opened
  have done : (TCPConnection.new cfg random).connect = .ok tcp := connects
  unfold TCPSpongeSocket.connect TCPSpongeSocket.initializeTCP
  dsimp only
  rw [done]
  dsimp only
  rw [if_neg (not_not.mpr synSent)]
  exact ⟨_, rfl⟩

/-- It stands for a new endpoint, or for one that has connected. -/
theorem Opened.begins {thread : SocketThread Adapter Received Sent}
    (opened : Opened adaptT cfg random thread) :
    thread.loop.rules = TCPSpongeSocket.rules adaptT ∧ Exists fun endpoint =>
      (endpoint = Endpoint.new cfg random ∨
        (Endpoint.new cfg random).perform .connect = .ok endpoint) ∧
      Mirrors adaptT endpoint thread.socket := by
  cases opened with
  | listening threadData adapter cAd =>
      exact ⟨rfl, Endpoint.new cfg random, Or.inl rfl, rfl, rfl, rfl, nofun⟩
  | connecting done =>
      unfold TCPSpongeSocket.connect at done
      dsimp only at done
      split at done
      · cases done
      · next tcp connected =>
          split at done
          · cases done
          · cases done
            refine ⟨rfl, { Endpoint.new cfg random with connection := tcp }, Or.inr ?_, rfl, rfl, rfl,
              nofun⟩
            unfold Endpoint.perform
            dsimp only
            have same : (Endpoint.new cfg random).connection.perform .connect = .ok tcp := connected
            rw [same]
            rfl

theorem reached_opened {start network : NetworkState} (side : Side) {endpoint : Endpoint}
    (reached : Exists fun ops => run NetworkState.step start ops = .ok network)
    (opens : endpoint = network.endpoint side ∨
      (network.endpoint side).perform .connect = .ok endpoint) :
    Exists fun ops => run NetworkState.step start ops = .ok (network.put side endpoint) := by
  rcases reached with ⟨ops, done⟩
  rcases opens with rfl | connected
  · have same : network.put side (network.endpoint side) = network := by cases side <;> rfl
    rw [same]
    exact ⟨ops, done⟩
  · refine ⟨ops ++ [.owner side .connect], ?_⟩
    rw [run_append done, run_after (step_owner connected)]
    rfl

theorem Stacked.begins {a b : SocketThread Adapter Received Sent}
    (openedA : Opened adaptT cfgA randomA a) (openedB : Opened adaptT cfgB randomB b) :
    Exists fun network =>
      Stacked adaptT (NetworkState.new cfgA cfgB randomA randomB) network ⟨a, b⟩ := by
  rcases openedA.begins with ⟨rulesA, endpointA, opensA, mirrorsA⟩
  rcases openedB.begins with ⟨rulesB, endpointB, opensB, mirrorsB⟩
  have startA := reached_opened .a
    (Exists.intro [] (rfl : run NetworkState.step
      (NetworkState.new cfgA cfgB randomA randomB) [] = _)) opensA
  have startB := reached_opened .b startA opensB
  refine ⟨_, startB, NetworkState.forall_side .a mirrorsA mirrorsB, ?_⟩
  exact NetworkState.forall_side .a (by rw [← rulesA]; exact List.Sublist.refl _)
    (by rw [← rulesB]; exact List.Sublist.refl _)

theorem Stacked.of_reaches (faithful : Faithful adaptT carries)
    {start sockets : Sockets Adapter Received Sent} (openedA : Opened adaptT cfgA randomA start.a)
    (openedB : Opened adaptT cfgB randomB start.b)
    (reaches : Sockets.Reaches carries start sockets) :
    Exists fun network =>
      Stacked adaptT (NetworkState.new cfgA cfgB randomA randomB) network sockets := by
  induction reaches with
  | start => exact Stacked.begins openedA openedB
  | turn reaches side turn possible ih =>
      rcases ih with ⟨network, stacked⟩
      rcases stacked.reached with ⟨ops, done⟩
      exact stacked.turn faithful (allSegments_of_run compact_built done) possible

/-- **Sockets refine connections.**  Over any faithful adapter, whatever the kernel answers
and whatever happens to the datagrams, two sockets are always in a state of the network of
their connections. -/
theorem sockets_refine_network (faithful : Faithful adaptT carries)
    {start sockets : Sockets Adapter Received Sent} (openedA : Opened adaptT cfgA randomA start.a)
    (openedB : Opened adaptT cfgB randomB start.b)
    (reaches : Sockets.Reaches carries start sockets) :
    Exists fun ops => Exists fun network =>
      run NetworkState.step (NetworkState.new cfgA cfgB randomA randomB) ops = .ok network ∧
        forall side, Mirrors adaptT (network.endpoint side) (sockets.socket side) := by
  rcases Stacked.of_reaches faithful openedA openedB reaches with ⟨network, stacked⟩
  rcases stacked.reached with ⟨ops, done⟩
  exact ⟨ops, network, done, stacked.mirrors⟩

/-- **What an owner reads is what the other one has written.**  In every run of two sockets
below `2^31`, even behind an exception, the bytes that a socket has handed to its owner
are a prefix of those that the other one has accepted from its owner. -/
theorem taken_begins_written (faithful : Faithful adaptT carries)
    {start sockets : Sockets Adapter Received Sent} (openedA : Opened adaptT cfgA randomA start.a)
    (openedB : Opened adaptT cfgB randomB start.b)
    (reaches : Sockets.Reaches carries start sockets)
    (below : forall side, (sockets.socket side).tcp.sender.nextSeqnoAbsolute < 2 ^ 31)
    (side : Side) :
    (sockets.socket side).taken <+: (sockets.socket side.other).written := by
  rcases Stacked.of_reaches faithful openedA openedB reaches with ⟨network, stacked⟩
  rcases stacked.reached with ⟨ops, done⟩
  have low : network.Below := by
    intro side
    rw [(stacked.mirrors side).connection_eq]
    exact below side
  have link := NetworkState.linked_of_run done low side.other
  rw [NetworkState.other_other] at link
  rw [← (stacked.mirrors side).taken_eq, ← (stacked.mirrors side.other).written_eq, link.taken_eq]
  exact List.take_prefix _ _

end

/-! ## A run over UDP -/

abbrev UdpSockets := Sockets TCPOverUDPSocketAdapter ReceivedDatagram SentDatagram

/-- A burst in the first byte. -/
def damage : List UInt8 -> List UInt8
  | first :: second :: bytes => (first + 1) :: second :: bytes
  | bytes => bytes

theorem damage_brings (bytes : List UInt8) : damage bytes = bytes ∨ Burst bytes (damage bytes) := by
  unfold damage
  split
  · next first second bytes =>
      right
      refine .here bytes (Or.inl ?_) ?_ ?_
      · intro same
        have numbers := congrArg UInt8.toNat same
        rw [UInt8.toNat_add] at numbers
        change first.toNat = (first.toNat + 1) % 256 at numbers
        omega
      · rintro ⟨rfl, _, filled, _⟩
        cases filled
      · rintro ⟨rfl, rfl, _, cleared⟩
        cases cleared
  · exact Or.inl rfl

/-- A turn of a socket in which a datagram of the other one arrives, perhaps damaged, or none. -/
structure UdpTurn where
  side : Side
  arrives : Option Nat := none
  damaged : Bool := false
  reads : List ReadAnswer := []
  writes : List WriteAnswer := []
  revents : List UInt16

def UdpTurn.turn (udp : UdpTurn) (datagrams : List SentDatagram) : Turn ReceivedDatagram where
  kernel :=
    { reads := udp.reads
      writes := udp.writes
      arrivals := (udp.arrives.bind fun i => datagrams[i]?).toList.map fun sent =>
        .received ⟨⟨0, 0⟩, if udp.damaged then damage sent.payload else sent.payload⟩
      sends := [.succeeded, .succeeded] }
  answer := .reported udp.revents

namespace UdpSockets

def play (sockets : UdpSockets) : List UdpTurn -> UdpSockets
  | [] => sockets
  | udp :: turns =>
      play (sockets.put udp.side
        ((sockets.thread udp.side).pass (udp.turn (sockets.socket udp.side.other).datagrams))) turns

theorem play_reaches {start sockets : UdpSockets} (turns : List UdpTurn)
    (reaches : Sockets.Reaches udpBrings start sockets) :
    Sockets.Reaches udpBrings start (sockets.play turns) := by
  induction turns generalizing sockets with
  | nil => exact reaches
  | cons udp turns ih =>
      refine ih (reaches.turn udp.side _ fun received member => ?_)
      rcases List.mem_map.mp member with ⟨sent, found, same⟩
      cases same
      refine ⟨sent, ?_, ?_⟩
      · rcases Option.bind_eq_some_iff.mp (Option.mem_toList.mp found) with ⟨i, _, there⟩
        exact List.mem_of_getElem? there
      · unfold udpBrings udpCarries
        dsimp only
        split
        · exact damage_brings sent.payload
        · exact Or.inl rfl

end UdpSockets

/-- One socket connects to the other one and sends three bytes, of which two are read.  On the
way some datagrams arrive damaged at first. -/
def greeting : List UdpTurn :=
  [{ side := .a, reads := [.returned [1, 2, 3]], revents := [0, 1, 0, 4] },
    { side := .b, arrives := some 0, damaged := true, revents := [1] },
    { side := .b, arrives := some 0, revents := [1] },
    { side := .b, revents := [0, 0, 0, 4] },
    { side := .a, arrives := some 0, revents := [1] },
    { side := .a, revents := [] },
    { side := .a, revents := [0, 0, 0, 4] },
    { side := .b, arrives := some 1, revents := [1] },
    { side := .b, revents := [] },
    { side := .b, arrives := some 2, damaged := true, revents := [1] },
    { side := .b, arrives := some 2, revents := [1] },
    { side := .b, writes := [.took 2], revents := [0, 0, 4] }]

/-- The two sockets of the greeting, when they begin. -/
def strangers (client : SocketThread TCPOverUDPSocketAdapter ReceivedDatagram SentDatagram)
    (cfg : TCPConfig) : UdpSockets where
  a := client
  b := TCPSpongeSocket.listenAndAccept udpAdapter { fd := 3 } { sock := { fd := 4 } } cfg ⟨7⟩ {}

theorem greeting_refines_network :
    let cfg : TCPConfig := { recvCapacity := ⟨8, by decide⟩, sendCapacity := ⟨8, by decide⟩ }
    Exists fun client => Exists fun ops => Exists fun network =>
      run NetworkState.step (NetworkState.new cfg cfg ⟨4294967294⟩ ⟨7⟩) ops = .ok network ∧
        forall side, Mirrors udpAdapter (network.endpoint side)
          (((strangers client cfg).play greeting).socket side) := by
  intro cfg
  rcases connect_opens udpAdapter { fd := 3 } { sock := { fd := 4 } } cfg
    ⟨4294967294⟩ {} with ⟨client, connected⟩
  exact ⟨client, sockets_refine_network udp_faithful_damaged (.connecting connected) (.listening _ _ _)
    (UdpSockets.play_reaches greeting .start)⟩

/-- Two of the three bytes are read. -/
theorem greeting_begins_written :
    let cfg : TCPConfig := { recvCapacity := ⟨8, by decide⟩, sendCapacity := ⟨8, by decide⟩ }
    Exists fun client =>
      (((strangers client cfg).play greeting).socket .b).taken = [1, 2] ∧
        (((strangers client cfg).play greeting).socket .b).taken <+:
          (((strangers client cfg).play greeting).socket .a).written := by
  intro cfg
  have checked : (match TCPSpongeSocket.connect udpAdapter { fd := 3 } { sock := { fd := 4 } } cfg
      ⟨4294967294⟩ {} with
    | .error _ => false
    | .ok client =>
        let sockets := (strangers client cfg).play greeting
        decide ((sockets.socket .b).taken = [1, 2] ∧
          (sockets.socket .a).tcp.sender.nextSeqnoAbsolute < 2 ^ 31 ∧
          (sockets.socket .b).tcp.sender.nextSeqnoAbsolute < 2 ^ 31)) = true := by
    decide +kernel
  rcases connect_opens udpAdapter { fd := 3 } { sock := { fd := 4 } } cfg
    ⟨4294967294⟩ {} with ⟨client, connected⟩
  rw [connected] at checked
  rcases of_decide_eq_true checked with ⟨bytes, lowA, lowB⟩
  refine ⟨client, bytes, ?_⟩
  exact taken_begins_written udp_faithful_damaged (.connecting connected) (.listening _ _ _)
    (UdpSockets.play_reaches greeting .start) (NetworkState.forall_side .a lowA lowB) .b

end Network
end Sponge
