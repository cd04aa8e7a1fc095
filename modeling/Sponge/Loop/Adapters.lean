import Sponge.Loop.Descriptors
import Sponge.Wire.Latching

namespace Sponge
namespace Loop

open Tcp Wire

/-!
# Adapters between segments and datagrams

A `TCPSpongeSocket` reads and writes segments through an adapter.  One adapter puts
them into UDP datagrams, another into IPv4 datagrams of a TUN device, and a third one
wraps any adapter and drops some of its segments at random.  A datagram leaves whole or
not at all, so that the kernel's answer to a send is that of a call without a result.
-/

/-- The kernel's answer to a call that receives a datagram. -/
inductive Arrival (Received : Type) where
  | failed (errno : Int32)
  | received (datagram : Received)
deriving DecidableEq, Repr

/-- What is left behind a write: the adapter, what it has sent, and the answers for the
next calls. -/
structure Sending (Adapter Sent : Type) where
  adapter : Adapter
  sent : Option Sent
  answers : List CallAnswer
deriving DecidableEq, Repr

/-- What a socket uses of its adapter. -/
structure AdaptT (Adapter Received Sent : Type) where
  fd : Adapter -> FDWrapper
  read : Adapter -> Arrival Received -> Except DescriptorFault (Option TCPSegment × Adapter)
  write : Adapter -> TCPSegment -> List CallAnswer ->
    Except DescriptorFault (Sending Adapter Sent)
  setListening : Adapter -> Bool -> Adapter
  withConfig : Adapter -> FdAdapterConfig -> Adapter

/-! ## UDP sockets -/

/-- A received datagram: its sender and its payload. -/
structure ReceivedDatagram where
  sourceAddress : Address
  payload : List UInt8
deriving DecidableEq, Repr

/-- A datagram on its way. -/
structure SentDatagram where
  destination : Address
  payload : List UInt8
deriving DecidableEq, Repr

namespace UDPSocket

def mtu : Nat := 65536

/-- Receive a datagram and the address of its sender. -/
def recv (sock : FDWrapper) (arrival : Arrival ReceivedDatagram) :
    Except DescriptorFault (ReceivedDatagram × FDWrapper) :=
  let answered := match arrival with
    | .failed errno => systemCall "recvfrom" (-1) errno 0
    | .received datagram => systemCall "recvfrom" (Int64.ofNat datagram.payload.length).toInt32 0 0
  match answered, arrival with
  | .error fault, _ => .error (.writing fault)
  | .ok _, .failed _ => .error .lengthError
  | .ok returnValue, .received datagram =>
      let recvLen := returnValue.toInt64
      if recvLen > .ofNat mtu then .error .oversized
      else if recvLen < 0 then .error .lengthError
      else .ok ({ datagram with payload := datagram.payload.take recvLen.toInt.toNat },
        sock.registerRead)

/-- Send a datagram to an address. -/
def sendto (sock : FDWrapper) (destination : Address) (payload : BufferList)
    (answer : CallAnswer) : Except DescriptorFault (SentDatagram × FDWrapper) :=
  let bytes := payload.concatenate
  let answered := match answer with
    | .failed errno => systemCall "sendmsg" (-1) errno 0
    | .succeeded => systemCall "sendmsg" (Int64.ofNat bytes.length).toInt32 0 0
  match answered with
  | .error fault => .error (.writing fault)
  | .ok returnValue =>
      if returnValue.toInt64.toUInt64 ≠ .ofNat bytes.length then .error .tooBig
      else .ok (⟨destination, bytes⟩, sock.registerWrite)

end UDPSocket

/-- Segments in the payloads of UDP datagrams. -/
structure TCPOverUDPSocketAdapter where
  config : FdAdapterConfig := {}
  listening : Bool := false
  sock : FDWrapper
deriving DecidableEq, Repr

namespace TCPOverUDPSocketAdapter

/-- The segment in a datagram, if it is valid and related to the connection. -/
def accept (adapter : TCPOverUDPSocketAdapter) (datagram : ReceivedDatagram) :
    Except WireFault (Option TCPSegment × TCPOverUDPSocketAdapter) :=
  if ¬ adapter.listening ∧ datagram.sourceAddress ≠ adapter.config.destination then
    .ok (none, adapter)
  else do
    let (seg, result) <- TCPSegment.parse {} datagram.payload 0
    if result ≠ .noError then
      return (none, adapter)
    else if adapter.listening then
      if seg.header.syn ∧ ¬ seg.header.rst then
        return (some seg, { adapter with
          config := { adapter.config with destination := datagram.sourceAddress }
          listening := false })
      else
        return (none, adapter)
    else
      return (some seg, adapter)

def read (adapter : TCPOverUDPSocketAdapter) (arrival : Arrival ReceivedDatagram) :
    Except DescriptorFault (Option TCPSegment × TCPOverUDPSocketAdapter) :=
  match UDPSocket.recv adapter.sock arrival with
  | .error fault => .error fault
  | .ok (datagram, sock) =>
      match accept { adapter with sock := sock } datagram with
      | .error fault => .error (.format fault)
      | .ok taken => .ok taken

/-- The segment with the ports of the connection. -/
def withPorts (adapter : TCPOverUDPSocketAdapter) (seg : TCPSegment) : TCPSegment :=
  { seg with
    header := { seg.header with
      sport := adapter.config.source.port
      dport := adapter.config.destination.port } }

def write (adapter : TCPOverUDPSocketAdapter) (seg : TCPSegment) :
    List CallAnswer -> Except DescriptorFault (Sending TCPOverUDPSocketAdapter SentDatagram)
  | answers =>
      match (adapter.withPorts seg).serialize 0 with
      | .error fault => .error (.format fault)
      | .ok payload =>
          match answers with
          | [] => .error .blocked
          | answer :: answers =>
              match UDPSocket.sendto adapter.sock adapter.config.destination payload answer with
              | .error fault => .error fault
              | .ok (datagram, sock) => .ok ⟨{ adapter with sock := sock }, some datagram, answers⟩

end TCPOverUDPSocketAdapter

def udpAdapter : AdaptT TCPOverUDPSocketAdapter ReceivedDatagram SentDatagram where
  fd := TCPOverUDPSocketAdapter.sock
  read := TCPOverUDPSocketAdapter.read
  write := TCPOverUDPSocketAdapter.write
  setListening := fun adapter listening => { adapter with listening := listening }
  withConfig := fun adapter config => { adapter with config := config }

/-! ## TUN devices -/

/-- Segments in IPv4 datagrams, which are the packets of a TUN device. -/
structure TCPOverIPv4OverTunFdAdapter where
  adapter : TCPOverIPv4Adapter := {}
  tun : FDWrapper
deriving DecidableEq, Repr

namespace TCPOverIPv4OverTunFdAdapter

/-- The segment in a packet, if it is valid and belongs to the connection. -/
def accept (adapter : TCPOverIPv4OverTunFdAdapter) (packet : List UInt8) :
    Except WireFault (Option TCPSegment × TCPOverIPv4OverTunFdAdapter) := do
  let (ipDgram, result) <- IPv4Datagram.parse {} packet
  if result ≠ .noError then
    return (none, adapter)
  else
    let (seg, unwrapped) <- adapter.adapter.unwrapTcpInIp ipDgram
    return (seg, { adapter with adapter := unwrapped })

/-- The limit of a read that asks for as much as there is. -/
def noLimit : Nat := 2 ^ 64 - 1

def read (adapter : TCPOverIPv4OverTunFdAdapter) (arrival : Arrival (List UInt8)) :
    Except DescriptorFault (Option TCPSegment × TCPOverIPv4OverTunFdAdapter) :=
  let answer : ReadAnswer := match arrival with
    | .failed errno => .failed errno
    | .received packet => .returned packet
  match adapter.tun.read noLimit answer with
  | .error fault => .error fault
  | .ok (packet, tun) =>
      match accept { adapter with tun := tun } packet with
      | .error fault => .error (.format fault)
      | .ok taken => .ok taken

/-- Write a packet to the device, which takes it whole. -/
def sendPacket (tun : FDWrapper) (packet : BufferList) (answer : CallAnswer) :
    Except DescriptorFault FDWrapper :=
  let writev : WritevAnswer := match answer with
    | .failed errno => { returned := -1, errno := errno }
    | .succeeded => { returned := .ofNat packet.concatenate.length }
  let writing := FileDescriptor.write { writeCount := tun.writeCount }
    (BufferViewList.ofBufferList packet) true [writev]
  match writing.result with
  | .returned _ => .ok { tun with writeCount := writing.descriptor.writeCount }
  | .thrown fault => .error (.writing fault)
  | .blocked => .error .blocked

def write (adapter : TCPOverIPv4OverTunFdAdapter) (seg : TCPSegment) (answers : List CallAnswer) :
    Except DescriptorFault (Sending TCPOverIPv4OverTunFdAdapter (List UInt8)) :=
  match adapter.adapter.wrapTcpInIp seg with
  | .error fault => .error (.format fault)
  | .ok (ipDgram, _) =>
      match ipDgram.serialize with
      | .error fault => .error (.format fault)
      | .ok packet =>
          match answers with
          | [] => .error .blocked
          | answer :: answers =>
              match sendPacket adapter.tun packet answer with
              | .error fault => .error fault
              | .ok tun => .ok ⟨{ adapter with tun := tun }, some packet.concatenate, answers⟩

end TCPOverIPv4OverTunFdAdapter

/-- An adapter that drops some of the segments, with the numbers that its generator will
give and the loss rates of its configuration. -/
structure LossyFdAdapter (Adapter : Type) where
  adapter : Adapter
  rand : Nat -> UInt32
  drawn : Nat := 0
  lossRateDn : UInt16 := 0
  lossRateUp : UInt16 := 0

namespace LossyFdAdapter

variable {Adapter Received Sent : Type}

/-- Whether to drop a segment.  A number is only drawn if there is any loss. -/
def shouldDrop (lossy : LossyFdAdapter Adapter) (uplink : Bool) :
    Bool × LossyFdAdapter Adapter :=
  let loss := if uplink then lossy.lossRateUp else lossy.lossRateDn
  if loss ≠ 0 then
    (decide ((lossy.rand lossy.drawn).toUInt16 < loss), { lossy with drawn := lossy.drawn + 1 })
  else (false, lossy)

/-- Read from the adapter, and perhaps drop what has been read. -/
def read (inner : AdaptT Adapter Received Sent) (lossy : LossyFdAdapter Adapter)
    (arrival : Arrival Received) :
    Except DescriptorFault (Option TCPSegment × LossyFdAdapter Adapter) :=
  match inner.read lossy.adapter arrival with
  | .error fault => .error fault
  | .ok (ret, adapter) =>
      let drop := { lossy with adapter := adapter }.shouldDrop false
      if drop.1 then .ok (none, drop.2) else .ok (ret, drop.2)

/-- Write to the adapter, or drop the segment. -/
def write (inner : AdaptT Adapter Received Sent) (lossy : LossyFdAdapter Adapter)
    (seg : TCPSegment) (answers : List CallAnswer) :
    Except DescriptorFault (Sending (LossyFdAdapter Adapter) Sent) :=
  let drop := lossy.shouldDrop true
  if drop.1 then .ok ⟨drop.2, none, answers⟩
  else
    match inner.write drop.2.adapter seg answers with
    | .error fault => .error fault
    | .ok sending => .ok ⟨{ drop.2 with adapter := sending.adapter }, sending.sent, sending.answers⟩

end LossyFdAdapter

end Loop
end Sponge
