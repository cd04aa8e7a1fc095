import Sponge.Tcp.Receiver
import Sponge.Tcp.Sender

namespace Sponge
namespace Tcp

/-!
# Connection states

`TCPState` summarises a sender, a receiver and two bits of the connection.
The code compares the summaries as texts; the texts are pairwise different,
so enumerations stand for them.
-/

inductive TCPSenderStateSummary where
  | error
  | closed
  | synSent
  | synAcked
  | finSent
  | finAcked
deriving DecidableEq, Repr

inductive TCPReceiverStateSummary where
  | error
  | listen
  | synRecv
  | finRecv
deriving DecidableEq, Repr

structure TCPState where
  sender : TCPSenderStateSummary
  receiver : TCPReceiverStateSummary
  active : Bool := true
  lingerAfterStreamsFinish : Bool := true
deriving DecidableEq, Repr

/-- Official state names from the TCP specification. -/
inductive TCPState.State where
  | listen
  | synRcvd
  | synSent
  | established
  | closeWait
  | lastAck
  | finWait1
  | finWait2
  | closing
  | timeWait
  | closed
  | reset
deriving DecidableEq, Repr

namespace TCPState

/-- The summary that corresponds to an official state. -/
def ofState : State -> TCPState
  | .listen => { receiver := .listen, sender := .closed }
  | .synRcvd => { receiver := .synRecv, sender := .synSent }
  | .synSent => { receiver := .listen, sender := .synSent }
  | .established => { receiver := .synRecv, sender := .synAcked }
  | .closeWait =>
      { receiver := .finRecv, sender := .synAcked, lingerAfterStreamsFinish := false }
  | .lastAck =>
      { receiver := .finRecv, sender := .finSent, lingerAfterStreamsFinish := false }
  | .closing => { receiver := .finRecv, sender := .finSent }
  | .finWait1 => { receiver := .synRecv, sender := .finSent }
  | .finWait2 => { receiver := .synRecv, sender := .finAcked }
  | .timeWait => { receiver := .finRecv, sender := .finAcked }
  | .reset =>
      { receiver := .error, sender := .error, lingerAfterStreamsFinish := false, active := false }
  | .closed =>
      { receiver := .finRecv, sender := .finAcked, lingerAfterStreamsFinish := false,
        active := false }

/-- Summarize the state of a receiver. -/
def receiverSummary (receiver : TCPReceiver) : TCPReceiverStateSummary :=
  if receiver.streamOut.error then .error
  else if receiver.ackno = none then .listen
  else if receiver.streamOut.inputEnded then .finRecv
  else .synRecv

/-- Summarize the state of a sender. -/
def senderSummary (sender : TCPSender) : TCPSenderStateSummary :=
  if sender.stream.error then .error
  else if sender.nextSeqnoAbsolute = 0 then .closed
  else if sender.nextSeqnoAbsolute = sender.bytesInFlight then .synSent
  else if ¬ sender.stream.eof then .synAcked
  else if sender.nextSeqnoAbsolute < sender.stream.bytesWritten + 2 then .synAcked
  else if sender.bytesInFlight ≠ 0 then .finSent
  else .finAcked

/-- The state of a connection with the given sender, receiver and bits. -/
def summarize (sender : TCPSender) (receiver : TCPReceiver) (active linger : Bool) : TCPState where
  sender := senderSummary sender
  receiver := receiverSummary receiver
  active := active
  lingerAfterStreamsFinish := if active then linger else false

end TCPState
end Tcp
end Sponge
