import Sponge.Tcp.ConnectionParts

namespace Sponge
namespace Network

open Bytes Tcp

/-!
# Two connections and the network between them

Each endpoint is a connection together with the bytes its owner has written
to it and read from it so far.  The network may hand an endpoint any segment
that its peer has ever put on its outbound queue, any number of times and in
any order, or never.  It invents and changes nothing.
-/

structure Endpoint where
  connection : TCPConnection
  written : List UInt8
  taken : List UInt8

namespace Endpoint

def new (cfg : TCPConfig) (random : WrappingInt32) : Endpoint where
  connection := TCPConnection.new cfg random
  written := []
  taken := []

/-- The owner's methods.  A write extends the bytes written by those
accepted, a read the bytes taken by those returned. -/
def perform (endpoint : Endpoint) : OwnerOp -> Except Fault Endpoint
  | .write data => do
      let wrote <- endpoint.connection.write data
      return { endpoint with
        connection := wrote.1
        written := endpoint.written ++ data.take wrote.2 }
  | .popInbound length =>
      return { endpoint with
        connection := endpoint.connection.popInbound length
        taken := endpoint.taken ++ endpoint.connection.inboundStream.peekOutput length }
  | op => do
      let next <- endpoint.connection.perform op
      return { endpoint with connection := next }

def receive (endpoint : Endpoint) (segment : TCPSegment) : Except Fault Endpoint := do
  let next <- endpoint.connection.segmentReceived segment
  return { endpoint with connection := next }

/-- Besides the bytes written and taken, an endpoint is its connection. -/
theorem perform_connection {endpoint next : Endpoint} {op : OwnerOp}
    (performed : endpoint.perform op = .ok next) :
    endpoint.connection.perform op = .ok next.connection := by
  cases op with
  | write data =>
      rcases bind_ok performed with ⟨wrote, writes, rest⟩
      cases rest
      unfold TCPConnection.perform
      dsimp only
      rw [writes]
      rfl
  | popInbound length =>
      cases performed
      rfl
  | connect =>
      rcases bind_ok performed with ⟨connection, done, rest⟩
      cases rest
      exact done
  | endInputStream =>
      rcases bind_ok performed with ⟨connection, done, rest⟩
      cases rest
      exact done
  | tick msSinceLastTick =>
      rcases bind_ok performed with ⟨connection, done, rest⟩
      cases rest
      exact done

/-- If the connection's method goes through, so does the endpoint's. -/
theorem perform_ok {endpoint : Endpoint} {op : OwnerOp}
    (through : Exists fun next => endpoint.connection.perform op = .ok next) :
    Exists fun next => endpoint.perform op = .ok next := by
  rcases through with ⟨connection, done⟩
  cases op with
  | write data =>
      rcases bind_ok done with ⟨wrote, writes, _⟩
      unfold perform
      dsimp only
      rw [writes]
      exact ⟨_, rfl⟩
  | popInbound length => exact ⟨_, rfl⟩
  | connect =>
      unfold perform
      dsimp only
      rw [done]
      exact ⟨_, rfl⟩
  | endInputStream =>
      unfold perform
      dsimp only
      rw [done]
      exact ⟨_, rfl⟩
  | tick msSinceLastTick =>
      unfold perform
      dsimp only
      rw [done]
      exact ⟨_, rfl⟩

theorem receive_connection {endpoint next : Endpoint} {segment : TCPSegment}
    (received : endpoint.receive segment = .ok next) :
    endpoint.connection.segmentReceived segment = .ok next.connection := by
  rcases bind_ok received with ⟨connection, done, rest⟩
  cases rest
  exact done

end Endpoint

inductive Side where
  | a
  | b
deriving DecidableEq, Repr

def Side.other : Side -> Side
  | .a => .b
  | .b => .a

structure NetworkState where
  a : Endpoint
  b : Endpoint

inductive NetworkOp where
  | owner (side : Side) (op : OwnerOp)
  | deliver (side : Side) (i : Nat)
deriving DecidableEq, Repr

namespace NetworkState

def new (cfgA cfgB : TCPConfig) (randomA randomB : WrappingInt32) : NetworkState where
  a := Endpoint.new cfgA randomA
  b := Endpoint.new cfgB randomB

def endpoint (network : NetworkState) : Side -> Endpoint
  | .a => network.a
  | .b => network.b

def put (network : NetworkState) (side : Side) (next : Endpoint) : NetworkState :=
  match side with
  | .a => { network with a := next }
  | .b => { network with b := next }

/-- The `i`-th segment that the peer of a side has put on its queue. -/
def inFlight (network : NetworkState) (side : Side) (i : Nat) : Option TCPSegment :=
  (network.endpoint side.other).connection.segmentsOut[i]?

def step (network : NetworkState) : NetworkOp -> Except Fault NetworkState
  | .owner side op => do
      let next <- (network.endpoint side).perform op
      return network.put side next
  | .deliver side i =>
      match network.inFlight side i with
      | none => return network
      | some segment => do
          let next <- (network.endpoint side).receive segment
          return network.put side next

/-! ## What a step can do -/

/-- A step changes one endpoint, by a method of its owner or by a segment
that its peer has emitted. -/
theorem step_cases {network next : NetworkState} {op : NetworkOp} (taken : network.step op = .ok next) :
    next = network ∨ Exists fun side => Exists fun changed =>
      next = network.put side changed ∧
        ((Exists fun ownerOp => op = .owner side ownerOp ∧
            (network.endpoint side).perform ownerOp = .ok changed) ∨
          Exists fun i => Exists fun segment => op = .deliver side i ∧
            network.inFlight side i = some segment ∧
            (network.endpoint side).receive segment = .ok changed) := by
  cases op with
  | owner side ownerOp =>
      rcases bind_ok taken with ⟨changed, performed, rest⟩
      cases rest
      exact Or.inr ⟨side, changed, rfl, Or.inl ⟨ownerOp, rfl, performed⟩⟩
  | deliver side i =>
      unfold step at taken
      dsimp only at taken
      cases found : network.inFlight side i with
      | none =>
          rw [found] at taken
          cases taken
          exact Or.inl rfl
      | some segment =>
          rw [found] at taken
          rcases bind_ok taken with ⟨changed, received, rest⟩
          cases rest
          exact Or.inr ⟨side, changed, rfl, Or.inr ⟨i, segment, rfl, found, received⟩⟩

end NetworkState
end Network
end Sponge
