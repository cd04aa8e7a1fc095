import Sponge.Loop.Faithfulness
import Sponge.Loop.SpongeSocket
import Sponge.Loop.Waiting
import Sponge.Network.Segments
import Sponge.Tcp.Collecting

namespace Sponge
namespace Network

open Bytes Foundation Tcp Wire Loop

/-!
# Two sockets and the datagrams between them

Two sockets send each other datagrams.  The network hands a socket any datagram that the
other one has sent, any number of times and in any order, or never.  A pass of a
socket's loop is then a sequence of steps of the network of connections: an endpoint is
the socket's connection with the segments that have been taken out of its queue.
-/

section

variable {Adapter Received Sent : Type} {adaptT : AdaptT Adapter Received Sent}
  {carries : Sent -> Received -> Prop}

/-- The datagrams that may arrive are those that the other socket has sent. -/
def Possible (carries : Sent -> Received -> Prop) (datagrams : List Sent) (turn : Turn Received) :
    Prop :=
  forall received, .received received ∈ turn.kernel.arrivals ->
    Exists fun sent => sent ∈ datagrams ∧ carries sent received

structure Sockets (Adapter Received Sent : Type) where
  a : SocketThread Adapter Received Sent
  b : SocketThread Adapter Received Sent

namespace Sockets

def thread (sockets : Sockets Adapter Received Sent) : Side -> SocketThread Adapter Received Sent
  | .a => sockets.a
  | .b => sockets.b

abbrev socket (sockets : Sockets Adapter Received Sent) (side : Side) :
    TCPSpongeSocket Adapter Received Sent :=
  (sockets.thread side).socket

def put (sockets : Sockets Adapter Received Sent) (side : Side)
    (next : SocketThread Adapter Received Sent) : Sockets Adapter Received Sent :=
  match side with
  | .a => { sockets with a := next }
  | .b => { sockets with b := next }

/-- The sockets take turns in any order. -/
inductive Reaches (carries : Sent -> Received -> Prop) (start : Sockets Adapter Received Sent) :
    Sockets Adapter Received Sent -> Prop
  | start : Reaches carries start start
  | turn {sockets : Sockets Adapter Received Sent} (reaches : Reaches carries start sockets)
      (side : Side) (turn : Turn Received)
      (possible : Possible carries (sockets.socket side.other).datagrams turn) :
      Reaches carries start (sockets.put side ((sockets.thread side).pass turn))

end Sockets

/-! ## What a socket stands for -/

/-- A datagram that an adapter has made of one of the segments. -/
def Wraps (adaptT : AdaptT Adapter Received Sent) (segments : List TCPSegment) (sent : Sent) :
    Prop :=
  Exists fun segment => segment ∈ segments ∧ Exists fun adapter => Exists fun answers =>
    Exists fun sending => adaptT.write adapter segment answers = .ok sending ∧
      sending.sent = some sent

/-- The endpoint of a socket: its connection with the segments that have been taken out. -/
structure Mirrors (adaptT : AdaptT Adapter Received Sent) (endpoint : Endpoint)
    (socket : TCPSpongeSocket Adapter Received Sent) : Prop where
  connection_eq : endpoint.connection = socket.tcp.withEarlier socket.collected
  written_eq : endpoint.written = socket.written
  taken_eq : endpoint.taken = socket.taken
  wraps : forall sent, sent ∈ socket.datagrams -> Wraps adaptT socket.collected sent

/-- Whatever an adapter makes of it, a datagram holds at most a segment in flight. -/
def Arrives (adaptT : AdaptT Adapter Received Sent) (peer : Endpoint) (received : Received) : Prop :=
  Exists fun segment => segment ∈ peer.connection.segmentsOut ∧
    forall {adapter result next}, adaptT.read adapter (.received received) = .ok (result, next) ->
      forall arrived, result = some arrived -> Alike arrived segment

/-- A network that a run leads to, in which a side stands for the socket. -/
structure Mirrored (adaptT : AdaptT Adapter Received Sent) (start : NetworkState) (side : Side)
    (peer : Endpoint) (socket : TCPSpongeSocket Adapter Received Sent) (network : NetworkState) :
    Prop where
  reached : Exists fun ops => run NetworkState.step start ops = .ok network
  mirrors : Mirrors adaptT (network.endpoint side) socket
  peer_eq : network.endpoint side.other = peer
  arrives : forall received, .received received ∈ socket.kernel.arrivals ->
    Arrives adaptT peer received

variable {start network : NetworkState} {side : Side} {peer : Endpoint}
  {socket next : TCPSpongeSocket Adapter Received Sent}

/-- Some network does. -/
def Standing (adaptT : AdaptT Adapter Received Sent) (start : NetworkState) (side : Side)
    (peer : Endpoint) (socket : TCPSpongeSocket Adapter Received Sent) : Prop :=
  Exists fun network => Mirrored adaptT start side peer socket network

/-- The socket changes what it does not share with its endpoint. -/
theorem Mirrors.frame {endpoint : Endpoint} (mirrors : Mirrors adaptT endpoint socket)
    (tcp : next.tcp = socket.tcp) (written : next.written = socket.written)
    (taken : next.taken = socket.taken) (collected : next.collected = socket.collected)
    (datagrams : next.datagrams = socket.datagrams) : Mirrors adaptT endpoint next where
  connection_eq := by
    rw [tcp, collected]
    exact mirrors.connection_eq
  written_eq := mirrors.written_eq.trans written.symm
  taken_eq := mirrors.taken_eq.trans taken.symm
  wraps := by
    rw [datagrams, collected]
    exact mirrors.wraps

/-- The endpoint takes a step of its own, and the socket with it. -/
theorem Mirrored.step (mirrored : Mirrored adaptT start side peer socket network) (op : NetworkOp)
    {changed : Endpoint} (taken : network.step op = .ok (network.put side changed))
    (mirrors : Mirrors adaptT changed next)
    (arrivals : forall arrival, arrival ∈ next.kernel.arrivals -> arrival ∈ socket.kernel.arrivals) :
    Mirrored adaptT start side peer next (network.put side changed) where
  reached := by
    rcases mirrored.reached with ⟨ops, done⟩
    refine ⟨ops ++ [op], ?_⟩
    rw [run_append done, run_after taken]
    rfl
  mirrors := by
    rw [NetworkState.endpoint_put]
    exact mirrors
  peer_eq := by
    rw [NetworkState.endpoint_put_other]
    exact mirrored.peer_eq
  arrives := fun received member => mirrored.arrives received (arrivals _ member)

/-- The endpoint stays where it is. -/
theorem Mirrored.stay (mirrored : Mirrored adaptT start side peer socket network)
    (mirrors : Mirrors adaptT (network.endpoint side) socket ->
      Mirrors adaptT (network.endpoint side) next)
    (arrivals : forall arrival, arrival ∈ next.kernel.arrivals -> arrival ∈ socket.kernel.arrivals) :
    Mirrored adaptT start side peer next network where
  reached := mirrored.reached
  mirrors := mirrors mirrored.mirrors
  peer_eq := mirrored.peer_eq
  arrives := fun received member => mirrored.arrives received (arrivals _ member)

theorem step_owner {op : OwnerOp} {changed : Endpoint}
    (performed : (network.endpoint side).perform op = .ok changed) :
    network.step (.owner side op) = .ok (network.put side changed) := by
  unfold NetworkState.step
  dsimp only
  rw [performed]
  rfl

/-- What a socket does not share with its endpoint does not matter. -/
theorem Standing.frame (standing : Standing adaptT start side peer socket)
    (mirrors : forall endpoint, Mirrors adaptT endpoint socket -> Mirrors adaptT endpoint next)
    (arrivals : forall arrival, arrival ∈ next.kernel.arrivals -> arrival ∈ socket.kernel.arrivals) :
    Standing adaptT start side peer next := by
  rcases standing with ⟨network, mirrored⟩
  exact ⟨network, mirrored.reached, mirrors _ mirrored.mirrors, mirrored.peer_eq,
    fun received member => mirrored.arrives received (arrivals _ member)⟩

/-- The connection has moved on, and nothing else. -/
theorem Mirrors.moved {endpoint : Endpoint} (mirrors : Mirrors adaptT endpoint socket)
    (tcp : TCPConnection) :
    Mirrors adaptT { endpoint with connection := tcp.withEarlier socket.collected }
      { socket with tcp := tcp } :=
  ⟨rfl, mirrors.written_eq, mirrors.taken_eq, mirrors.wraps⟩

/-- A method of the connection that only changes the connection. -/
theorem Standing.perform (standing : Standing adaptT start side peer socket) (op : OwnerOp)
    {tcp : TCPConnection} (performed : socket.tcp.perform op = .ok tcp)
    (plain : forall (endpoint : Endpoint) next, endpoint.connection.perform op = .ok next ->
      endpoint.perform op = .ok { endpoint with connection := next }) :
    Standing adaptT start side peer { socket with tcp := tcp } := by
  rcases standing with ⟨network, mirrored⟩
  have held : TCPConnection.HoldsEarlier socket.collected _ _ :=
    TCPConnection.perform_withEarlier socket.tcp op
  unfold TCPConnection.HoldsEarlier at held
  rw [performed, ← mirrored.mirrors.connection_eq] at held
  exact ⟨_, mirrored.step _ (step_owner (plain _ _ held)) (mirrored.mirrors.moved tcp)
    fun _ member => member⟩

theorem Standing.tick (standing : Standing adaptT start side peer socket) {elapsed : Nat}
    {tcp : TCPConnection} (ticked : socket.tcp.tick elapsed = .ok tcp) :
    Standing adaptT start side peer { socket with tcp := tcp } := by
  refine standing.perform (.tick elapsed) ticked fun endpoint next done => ?_
  unfold Endpoint.perform
  dsimp only
  rw [done]
  rfl

/-! ## What the callbacks do -/

theorem endOutbound_keeps :
    Keeps (Standing adaptT start side peer) TCPSpongeSocket.endOutbound := by
  intro socket standing
  unfold TCPSpongeSocket.endOutbound
  cases ended : socket.tcp.endInputStream with
  | error fault => exact standing
  | ok tcp =>
      have moved : Standing adaptT start side peer { socket with tcp := tcp } := by
        refine standing.perform .endInputStream ended fun endpoint next done => ?_
        unfold Endpoint.perform
        dsimp only
        rw [done]
        rfl
      exact moved.frame (fun _ mirrors => mirrors.frame rfl rfl rfl rfl rfl) fun _ member => member

theorem write_keeps (data : List UInt8) :
    Keeps (Standing adaptT start side peer) (TCPSpongeSocket.write data) := by
  rintro socket ⟨network, mirrored⟩
  unfold TCPSpongeSocket.write
  cases wrote : socket.tcp.write data with
  | error fault => exact ⟨network, mirrored⟩
  | ok result =>
      rcases result with ⟨tcp, amountWritten⟩
      have written : Standing adaptT start side peer { socket with
          tcp := tcp
          written := socket.written ++ data.take amountWritten } := by
        have held := socket.tcp.write_withEarlier socket.collected data
        rw [wrote, ← mirrored.mirrors.connection_eq] at held
        have moves : (network.endpoint side).perform (.write data) = .ok
            { network.endpoint side with
              connection := tcp.withEarlier socket.collected
              written := (network.endpoint side).written ++ data.take amountWritten } := by
          unfold Endpoint.perform
          dsimp only
          rw [held]
          rfl
        refine ⟨_, mirrored.step _ (step_owner moves) ?_ fun _ member => member⟩
        refine ⟨rfl, ?_, mirrored.mirrors.taken_eq, mirrored.mirrors.wraps⟩
        dsimp only
        rw [mirrored.mirrors.written_eq]
      dsimp only
      split
      · exact written
      · split
        · exact endOutbound_keeps _ written
        · exact written

theorem readOwner_keeps :
    Keeps (Standing adaptT start side peer) TCPSpongeSocket.readOwner := by
  rintro socket ⟨network, mirrored⟩
  unfold TCPSpongeSocket.readOwner
  cases socket.kernel.reads with
  | nil => exact ⟨network, mirrored⟩
  | cons answer reads =>
      dsimp only
      cases socket.threadData.read socket.tcp.remainingOutboundCapacity answer with
      | error fault =>
          exact ⟨network, mirrored.stay (fun mirrors => mirrors.frame rfl rfl rfl rfl rfl)
            fun _ member => member⟩
      | ok result =>
          exact write_keeps result.1 _
            ⟨network, mirrored.stay (fun mirrors => mirrors.frame rfl rfl rfl rfl rfl)
              fun _ member => member⟩

theorem shutInbound_keeps :
    Keeps (Standing adaptT start side peer) TCPSpongeSocket.shutInbound := by
  rintro socket ⟨network, mirrored⟩
  unfold TCPSpongeSocket.shutInbound
  cases socket.kernel.calls with
  | nil => exact ⟨network, mirrored⟩
  | cons answer calls =>
      dsimp only
      cases socket.threadData.shutdownWrite answer with
      | error fault =>
          exact ⟨network, mirrored.stay (fun mirrors => mirrors.frame rfl rfl rfl rfl rfl)
            fun _ member => member⟩
      | ok threadData =>
          exact ⟨network, mirrored.stay (fun mirrors => mirrors.frame rfl rfl rfl rfl rfl)
            fun _ member => member⟩

/-- The owner takes just the bytes that are popped. -/
theorem writeOwner_keeps :
    Keeps (Standing adaptT start side peer) TCPSpongeSocket.writeOwner := by
  rintro socket ⟨network, mirrored⟩
  unfold TCPSpongeSocket.writeOwner
  cases socket.kernel.writes with
  | nil => exact ⟨network, mirrored⟩
  | cons answer writes =>
      dsimp only
      have short : (socket.tcp.inboundStream.peekOutput
          (min 65536 socket.tcp.inboundStream.bufferSize)).length < 2 ^ 31 := by
        rw [ByteStream.peekOutput_eq, List.length_take]
        omega
      rcases socket.threadData.write_cases answer short with ⟨fault, failed, _⟩ | wrote
      · rw [failed]
        exact ⟨network, mirrored.stay (fun mirrors => mirrors.frame rfl rfl rfl rfl rfl)
          fun _ member => member⟩
      · rw [wrote]
        dsimp only
        have taken : Standing adaptT start side peer { socket with
            kernel := { socket.kernel with writes := writes }
            threadData := socket.threadData.registerWrite
            tcp := socket.tcp.popInbound (UInt64.ofNat (answer.taken
              (socket.tcp.inboundStream.peekOutput
                (min 65536 socket.tcp.inboundStream.bufferSize))).length).toNat
            taken := socket.taken ++ answer.taken (socket.tcp.inboundStream.peekOutput
              (min 65536 socket.tcp.inboundStream.bufferSize)) } := by
          have count := answer.taken_length_le (socket.tcp.inboundStream.peekOutput
            (min 65536 socket.tcp.inboundStream.bufferSize))
          have same := answer.taken_eq_take socket.tcp.inboundStream.contents
            (min 65536 socket.tcp.inboundStream.bufferSize)
          rw [← ByteStream.peekOutput_eq, ← ByteStream.peekOutput_eq] at same
          generalize answer.taken (socket.tcp.inboundStream.peekOutput
            (min 65536 socket.tcp.inboundStream.bufferSize)) = bytes at count same ⊢
          have length : (UInt64.ofNat bytes.length).toNat = bytes.length := by
            rw [UInt64.toNat_ofNat']
            omega
          rw [length]
          refine ⟨_, mirrored.step (.owner side (.popInbound bytes.length)) rfl ?_
            fun _ member => member⟩
          have stream : (network.endpoint side).connection.inboundStream =
              socket.tcp.inboundStream := by
            rw [mirrored.mirrors.connection_eq]
            rfl
          refine ⟨?_, mirrored.mirrors.written_eq, ?_, mirrored.mirrors.wraps⟩
          · dsimp only
            rw [mirrored.mirrors.connection_eq]
            rfl
          · dsimp only
            rw [stream, ← same, mirrored.mirrors.taken_eq]
        split
        · exact shutInbound_keeps _ taken
        · exact taken

/-- What arrives is a segment in flight, as far as the connection can tell. -/
theorem segmentReceived_keeps {segment arrived : TCPSegment} (alike : Alike arrived segment)
    (sent : segment ∈ peer.connection.segmentsOut) :
    Keeps (Standing adaptT start side peer) (TCPSpongeSocket.segmentReceived arrived) := by
  rintro socket ⟨network, mirrored⟩
  unfold TCPSpongeSocket.segmentReceived
  cases received : socket.tcp.segmentReceived arrived with
  | error fault => exact ⟨network, mirrored⟩
  | ok tcp =>
      have same : arrived = { segment with
          header := { segment.header with
            sport := arrived.header.sport
            dport := arrived.header.dport
            cksum := arrived.header.cksum } } := by
        rw [← alike.header_eq, ← alike.payload_eq]
      have held : TCPConnection.HoldsEarlier socket.collected _ _ :=
        TCPConnection.segmentReceived_withEarlier socket.tcp segment
      have direct : socket.tcp.segmentReceived segment = .ok tcp := by
        rw [same] at received
        exact received
      unfold TCPConnection.HoldsEarlier at held
      rw [direct, ← mirrored.mirrors.connection_eq] at held
      rcases List.getElem?_of_mem sent with ⟨i, found⟩
      have inFlight : network.inFlight side i = some segment := by
        unfold NetworkState.inFlight
        rw [mirrored.peer_eq]
        exact found
      refine ⟨_, mirrored.step (.deliver side i) ?_ (mirrored.mirrors.moved tcp)
        fun _ member => member⟩
      unfold NetworkState.step
      dsimp only
      rw [inFlight]
      dsimp only
      unfold Endpoint.receive
      rw [held]
      rfl

theorem noteAcked_frame (standing : Standing adaptT start side peer socket) :
    Standing adaptT start side peer socket.noteAcked :=
  standing.frame (fun _ mirrors => mirrors.frame rfl rfl rfl rfl rfl) fun _ member => member

/-- What the adapter reads is a segment of the peer, or nothing. -/
theorem readDatagram_keeps (faithful : Faithful adaptT carries) :
    Keeps (Standing adaptT start side peer) (TCPSpongeSocket.readDatagram adaptT) := by
  rintro socket ⟨network, mirrored⟩
  unfold TCPSpongeSocket.readDatagram
  cases arrived : socket.kernel.arrivals with
  | nil => exact ⟨network, mirrored⟩
  | cons arrival arrivals =>
      have fewer : forall other, other ∈ arrivals -> other ∈ socket.kernel.arrivals := by
        intro other member
        rw [arrived]
        exact List.mem_cons_of_mem _ member
      dsimp only
      cases read : adaptT.read socket.datagramAdapter arrival with
      | error fault =>
          exact ⟨network, mirrored.stay (fun mirrors => mirrors.frame rfl rfl rfl rfl rfl) fewer⟩
      | ok taken =>
          rcases taken with ⟨result, adapter⟩
          have asked : Standing adaptT start side peer { socket with
              kernel := { socket.kernel with arrivals := arrivals }
              datagramAdapter := adapter } :=
            ⟨network, mirrored.stay (fun mirrors => mirrors.frame rfl rfl rfl rfl rfl) fewer⟩
          cases result with
          | none => exact noteAcked_frame asked
          | some seg =>
              cases arrival with
              | failed errno => exact absurd read faithful.fails
              | received received =>
                  have here : .received received ∈ socket.kernel.arrivals := by
                    rw [arrived]
                    exact List.mem_cons_self
                  rcases mirrored.arrives received here with ⟨segment, sent, alike⟩
                  have kept := segmentReceived_keeps (alike read seg rfl) sent _ asked
                  dsimp only
                  revert kept
                  cases TCPSpongeSocket.segmentReceived seg _ with
                  | error thrown => exact fun kept => kept
                  | ok next => exact noteAcked_frame

/-- A segment leaves the queue, and a datagram with it has been sent. -/
theorem Mirrors.collect {endpoint : Endpoint} {seg : TCPSegment} {rest : List TCPSegment}
    {answers : List CallAnswer} {sending : Sending Adapter Sent}
    (mirrors : Mirrors adaptT endpoint socket) (queue : socket.tcp.segmentsOut = seg :: rest)
    (wrote : adaptT.write socket.datagramAdapter seg answers = .ok sending) :
    Mirrors adaptT endpoint { socket with
      datagramAdapter := sending.adapter
      kernel := { socket.kernel with sends := sending.answers }
      tcp := { socket.tcp with segmentsOut := rest }
      collected := socket.collected ++ [seg]
      datagrams := socket.datagrams ++ sending.sent.toList } where
  connection_eq := by
    rw [mirrors.connection_eq]
    unfold TCPConnection.withEarlier
    rw [queue, List.append_assoc]
    rfl
  written_eq := mirrors.written_eq
  taken_eq := mirrors.taken_eq
  wraps := by
    intro sent member
    rcases List.mem_append.mp member with before | last
    · rcases mirrors.wraps sent before with ⟨segment, held, wraps⟩
      exact ⟨segment, List.mem_append_left _ held, wraps⟩
    · exact ⟨seg, List.mem_append_right _ List.mem_cons_self, socket.datagramAdapter, answers,
        sending, wrote, Option.mem_toList.mp last⟩

theorem sendSegments_keeps {queue : List TCPSegment} (queued : socket.tcp.segmentsOut = queue)
    (standing : Standing adaptT start side peer socket) :
    Standing adaptT start side peer
      (TCPSpongeSocket.sendSegments adaptT queue socket).reached := by
  induction queue generalizing socket with
  | nil => exact standing
  | cons seg rest ih =>
      unfold TCPSpongeSocket.sendSegments
      cases wrote : adaptT.write socket.datagramAdapter seg socket.kernel.sends with
      | error fault => exact standing
      | ok sending =>
          dsimp only
          refine ih rfl ?_
          exact standing.frame (fun _ mirrors => mirrors.collect queued wrote) fun _ member => member

theorem writeDatagrams_keeps :
    Keeps (Standing adaptT start side peer) (TCPSpongeSocket.writeDatagrams adaptT) :=
  fun _ standing => sendSegments_keeps rfl standing

theorem rules_keep (faithful : Faithful adaptT carries) :
    forall rule, rule ∈ TCPSpongeSocket.rules adaptT ->
      Keeps (Standing adaptT start side peer) rule.callback ∧
        Keeps (Standing adaptT start side peer) rule.cancel := by
  have still : Keeps (Standing adaptT start side peer)
      (Except.ok : TCPSpongeSocket.Method Adapter Received Sent) := fun _ standing => standing
  intro rule member
  simp only [TCPSpongeSocket.rules, List.mem_cons, List.not_mem_nil, or_false] at member
  rcases member with rfl | rfl | rfl | rfl
  · exact ⟨readDatagram_keeps faithful, still⟩
  · exact ⟨readOwner_keeps, endOutbound_keeps⟩
  · exact ⟨writeOwner_keeps, still⟩
  · exact ⟨writeDatagrams_keeps, still⟩

end
end Network
end Sponge
