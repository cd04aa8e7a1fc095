import Sponge.Foundation.Handlers
import Sponge.Loop.Descriptors

namespace Sponge
namespace Loop

open Foundation Wire

/-!
# Waiting for events

An event loop holds a list of rules.  A rule waits for a descriptor to become readable
or writable, and then its callback is called.  The callbacks of all rules act on a world
they share, which also holds the descriptors, so that a rule finds its descriptor in the
world.  They do not add rules.  The kernel answers a poll as it likes: any entry can be
reported to be ready, hung up or broken, and the call can time out or fail.

`wait_next_event` erases rules from the list while it goes through it, once before
polling and once afterwards.  Behind the poll the entries are found by a counter that
runs along with the iterator.
-/

/-- Interest in reading or writing a polled descriptor. -/
inductive Direction where
  | input
  | output
deriving DecidableEq, Repr

namespace PollFlag

def pollIn : UInt16 := 0x001
def pollOut : UInt16 := 0x004
def pollErr : UInt16 := 0x008
def pollHup : UInt16 := 0x010
def pollNval : UInt16 := 0x020

end PollFlag

open PollFlag

def Direction.events : Direction -> UInt16
  | .input => pollIn
  | .output => pollOut

structure Pollfd where
  fd : Int32
  events : UInt16
  revents : UInt16 := 0
deriving DecidableEq, Repr

/-- The kernel's answer to `poll`: an error, or what is reported for the entries, where
nothing is reported for those that are left out. -/
inductive PollAnswer where
  | failed (errno : Int32)
  | reported (revents : List UInt16)
deriving DecidableEq, Repr

namespace PollAnswer

/-- The entries behind the call. -/
def fill : List UInt16 -> List Pollfd -> List Pollfd
  | _, [] => []
  | [], pollfds => pollfds
  | revents :: rest, pollfd :: pollfds => { pollfd with revents := revents } :: fill rest pollfds

def pollfds (answer : PollAnswer) (pollfds : List Pollfd) : List Pollfd :=
  match answer with
  | .failed _ => pollfds
  | .reported revents => fill revents pollfds

/-- The number of entries for which something is reported. -/
def returnValue (answer : PollAnswer) (pollfds : List Pollfd) : Int32 :=
  match answer with
  | .failed _ => -1
  | .reported revents => .ofNat ((fill revents pollfds).countP (fun pollfd => pollfd.revents ≠ 0))

def errno : PollAnswer -> Int32
  | .failed errno => errno
  | .reported _ => 0

/-- What is reported for the `i`-th entry. -/
def revents (answer : PollAnswer) (i : Nat) : UInt16 :=
  match answer with
  | .failed _ => 0
  | .reported revents => revents.getD i 0

/-- A hangup is reported. -/
def Hangs (answer : PollAnswer) : Prop :=
  Exists fun i => answer.revents i &&& pollHup ≠ 0

theorem fill_getElem? {pollfds : List Pollfd} {i : Nat} {pollfd : Pollfd} (revents : List UInt16)
    (entry : pollfds[i]? = some pollfd) (fresh : pollfd.revents = 0) :
    (fill revents pollfds)[i]? = some { pollfd with revents := revents.getD i 0 } := by
  induction revents, pollfds using fill.induct generalizing i with
  | case1 revents => simp at entry
  | case2 pollfds _ =>
      have same : { pollfd with revents := 0 } = pollfd := by rw [← fresh]
      simpa [fill, same] using entry
  | case3 reported rest first pollfds ih =>
      cases i with
      | zero =>
          cases entry
          rfl
      | succ i => exact ih entry

theorem fill_length (revents : List UInt16) (pollfds : List Pollfd) :
    (fill revents pollfds).length = pollfds.length := by
  induction revents, pollfds using fill.induct with
  | case1 | case2 => simp [fill]
  | case3 reported rest first pollfds ih => simp [fill, ih]

theorem pollfds_length (answer : PollAnswer) (pollfds : List Pollfd) :
    (answer.pollfds pollfds).length = pollfds.length := by
  cases answer with
  | failed errno => rfl
  | reported revents => exact fill_length revents pollfds

/-- The entries behind the call are those before it with what is reported for them. -/
theorem pollfds_getElem? (answer : PollAnswer) {pollfds : List Pollfd} {i : Nat} {pollfd : Pollfd}
    (entry : pollfds[i]? = some pollfd) (fresh : pollfd.revents = 0) :
    (answer.pollfds pollfds)[i]? = some { pollfd with revents := answer.revents i } := by
  cases answer with
  | failed errno =>
      have same : { pollfd with revents := 0 } = pollfd := by rw [← fresh]
      exact entry.trans (congrArg some same.symm)
  | reported revents => exact fill_getElem? revents entry fresh

end PollAnswer

/-- The error number of an interrupted call. -/
def eintr : Int32 := 4

/-- A condition and a callback, with the shared descriptor where the world keeps it. -/
structure Rule (Fault World : Type) where
  fd : World -> FDWrapper
  direction : Direction
  callback : World -> Handled Fault World
  interest : World -> Bool
  cancel : World -> Handled Fault World

/-- The event loop with the world that its rules act on. -/
structure EventLoop (Fault World : Type) where
  rules : List (Rule Fault World)
  world : World

/-- What waiting can throw: what a callback throws, the loop's own errors, and an access
outside the vector of entries. -/
inductive LoopFault (Fault : Type) where
  | thrown (fault : Fault)
  | polledDescriptor
  | busyWait
  | outOfRange
deriving DecidableEq, Repr

def LoopFault.what {Fault : Type} : LoopFault Fault -> Option String
  | .thrown _ => none
  | .polledDescriptor => some "EventLoop: error on polled file descriptor"
  | .busyWait =>
      some "EventLoop: busy wait detected: callback did not read/write fd and is still interested"
  | .outOfRange => none

/-- How a call of `wait_next_event` ends. -/
inductive WaitResult where
  | success
  | timeout
  | exit
deriving DecidableEq, Repr

section

variable {Fault World : Type}

namespace Rule

/-- The number of times the descriptor has been read or written. -/
def serviceCount (rule : Rule Fault World) (world : World) : UInt32 :=
  match rule.direction with
  | .input => (rule.fd world).readCount
  | .output => (rule.fd world).writeCount

/-- The rule has reached the end of file, or its descriptor is closed. -/
def defunct (rule : Rule Fault World) (world : World) : Bool :=
  rule.direction = .input && (rule.fd world).eof || (rule.fd world).closed

/-- The entry for the rule.  It is also there if the rule is not interested, for errors. -/
def pollfd (rule : Rule Fault World) (world : World) : Pollfd where
  fd := (rule.fd world).fd
  events := if rule.interest world then rule.direction.events else 0

end Rule

namespace Pollfd

def pollError (pollfd : Pollfd) : Bool :=
  pollfd.revents &&& (pollErr ||| pollNval) ≠ 0

def pollReady (pollfd : Pollfd) : Bool :=
  pollfd.revents &&& pollfd.events ≠ 0

/-- The status was asked for, and a hangup is the only condition. -/
def hungUp (pollfd : Pollfd) : Bool :=
  pollfd.revents &&& pollHup ≠ 0 && pollfd.events ≠ 0 && !pollfd.pollReady

end Pollfd

namespace EventLoop

def addRule (loop : EventLoop Fault World) (rule : Rule Fault World) : EventLoop Fault World :=
  { loop with rules := loop.rules ++ [rule] }

/-- What is set up before polling. -/
structure Armed (Fault World : Type) where
  loop : EventLoop Fault World
  pollfds : List Pollfd := []
  somethingToPoll : Bool := false

/-- The first loop, with the rules before the iterator and those from there on. -/
def arm (kept : List (Rule Fault World)) (pollfds : List Pollfd) (somethingToPoll : Bool) :
    List (Rule Fault World) -> World ->
      Except (LoopFault Fault × EventLoop Fault World) (Armed Fault World)
  | [], world => .ok ⟨⟨kept, world⟩, pollfds, somethingToPoll⟩
  | rule :: rules, world =>
      if rule.defunct world then
        match rule.cancel world with
        | .error (fault, thrown) => .error (.thrown fault, ⟨kept ++ rule :: rules, thrown⟩)
        | .ok next => arm kept pollfds somethingToPoll rules next
      else
        arm (kept ++ [rule]) (pollfds ++ [rule.pollfd world])
          (somethingToPoll || rule.interest world) rules world

/-- The second loop, with the counter. -/
def serve (pollfds : List Pollfd) (kept : List (Rule Fault World)) (idx : Nat) :
    List (Rule Fault World) -> World ->
      Except (LoopFault Fault × EventLoop Fault World) (EventLoop Fault World)
  | [], world => .ok ⟨kept, world⟩
  | rule :: rules, world =>
      match pollfds[idx]? with
      | none => .error (.outOfRange, ⟨kept ++ rule :: rules, world⟩)
      | some pollfd =>
          if pollfd.pollError then .error (.polledDescriptor, ⟨kept ++ rule :: rules, world⟩)
          else if pollfd.hungUp then
            match rule.cancel world with
            | .error (fault, thrown) => .error (.thrown fault, ⟨kept ++ rule :: rules, thrown⟩)
            | .ok next => serve pollfds kept (idx + 1) rules next
          else if pollfd.pollReady then
            match rule.callback world with
            | .error (fault, thrown) => .error (.thrown fault, ⟨kept ++ rule :: rules, thrown⟩)
            | .ok next =>
                if rule.serviceCount world = rule.serviceCount next ∧ rule.interest next then
                  .error (.busyWait, ⟨kept ++ rule :: rules, next⟩)
                else serve pollfds (kept ++ [rule]) (idx + 1) rules next
          else serve pollfds (kept ++ [rule]) (idx + 1) rules world

/-- Go through the results of the poll, or leave without doing so. -/
def polled (loop : EventLoop Fault World) (pollfds : List Pollfd) (answer : PollAnswer) :
    Except (LoopFault Fault × EventLoop Fault World) (WaitResult × EventLoop Fault World) :=
  let goThrough := (serve (answer.pollfds pollfds) [] 0 loop.rules loop.world).map
    fun served => (.success, served)
  match systemCall "poll" (answer.returnValue pollfds) answer.errno 0 with
  | .ok returnValue => if returnValue = 0 then .ok (.timeout, loop) else goThrough
  | .error _ => if answer.errno = eintr then .ok (.exit, loop) else goThrough

/-- Call `poll` and then the callbacks of the rules that are ready. -/
def waitNextEvent (loop : EventLoop Fault World) (answer : PollAnswer) :
    Except (LoopFault Fault × EventLoop Fault World) (WaitResult × EventLoop Fault World) := do
  let armed <- arm [] [] false loop.rules loop.world
  if armed.somethingToPoll then polled armed.loop armed.pollfds answer
  else return (.exit, armed.loop)

end EventLoop
end
end Loop
end Sponge
