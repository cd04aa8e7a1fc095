import Sponge.Wire.Adapter

namespace Sponge
namespace Wire

open Foundation Bytes Tcp

/-!
# Who the adapter talks to

Datagrams are given to an adapter one after the other.  The tests are made in
turn, some of them only while the adapter does not listen, and the peer is
written down before the last of them.  One case distinction says what a single
datagram can do.  Everything else follows from it: a datagram that is not
accepted leaves no trace, a listening adapter is bound by the first one it
accepts, and a bound adapter takes segments of its own connection only.
-/

namespace TCPOverIPv4Adapter

/-- Give a datagram to the adapter.  A payload that is not in one buffer is thrown
out by the conversion, which comes before anything is written down. -/
def receive (adapter : TCPOverIPv4Adapter) (ipDgram : IPv4Datagram) :
    Option TCPSegment × TCPOverIPv4Adapter :=
  match adapter.unwrapTcpInIp ipDgram with
  | .ok taken => taken
  | .error _ => (none, adapter)

/-- The adapter after a sequence of datagrams. -/
def receives : TCPOverIPv4Adapter -> List IPv4Datagram -> TCPOverIPv4Adapter
  | adapter, [] => adapter
  | adapter, ipDgram :: ipDgrams => (adapter.receive ipDgram).2.receives ipDgrams

/-- What the adapter returns for each of a sequence of datagrams. -/
def answers : TCPOverIPv4Adapter -> List IPv4Datagram -> List (Option TCPSegment)
  | _, [] => []
  | adapter, ipDgram :: ipDgrams =>
      (adapter.receive ipDgram).1 :: (adapter.receive ipDgram).2.answers ipDgrams

/-- The datagram carries the segment: it says so, and its payload is parsed to it
with the sum of its own pseudo-header. -/
def Carries (ipDgram : IPv4Datagram) (segment : TCPSegment) : Prop :=
  ipDgram.header.proto = IPv4Header.protoTcp ∧
    Exists fun payload => ipDgram.payload.toBuffer = .ok payload ∧
      TCPSegment.parse {} payload ipDgram.header.pseudoCksum = .ok (segment, .noError)

/-- The segment goes from the configured destination to the configured source. -/
structure Belongs (config : FdAdapterConfig) (ipDgram : IPv4Datagram) (segment : TCPSegment) :
    Prop where
  sender : Address.mk ipDgram.header.src segment.header.sport = config.destination
  recipient : Address.mk ipDgram.header.dst segment.header.dport = config.source

/-- The segment opens a connection to the port. -/
structure Opens (port : UInt16) (segment : TCPSegment) : Prop where
  syn : segment.header.syn = true
  not_rst : segment.header.rst = false
  dport : segment.header.dport = port

/-- What one datagram can do. -/
inductive Outcome (adapter : TCPOverIPv4Adapter) (ipDgram : IPv4Datagram) :
    Option TCPSegment × TCPOverIPv4Adapter -> Prop where
  | refused : Outcome adapter ipDgram (none, adapter)
  | bound (segment : TCPSegment) (listening : adapter.listening = true)
      (carries : Carries ipDgram segment) (opens : Opens adapter.config.source.port segment) :
      Outcome adapter ipDgram (some segment, adapter.latched ipDgram segment)
  | taken (segment : TCPSegment) (quiet : adapter.listening = false)
      (carries : Carries ipDgram segment) (belongs : Belongs adapter.config ipDgram segment) :
      Outcome adapter ipDgram (some segment, adapter)

/-- The last test succeeds at once for the peer that was just written down. -/
theorem latched_fromPeer (adapter : TCPOverIPv4Adapter) (ipDgram : IPv4Datagram)
    (segment : TCPSegment) :
    (adapter.latched ipDgram segment).fromPeer segment =
      (some segment, adapter.latched ipDgram segment) :=
  if_neg (not_not_intro rfl)

/-- Without the listening flag the segment is taken if it comes from the peer. -/
theorem fromPeer_outcome {adapter : TCPOverIPv4Adapter} {ipDgram : IPv4Datagram}
    {segment : TCPSegment} (quiet : adapter.listening = false) (carries : Carries ipDgram segment)
    (dst : ipDgram.header.dst = adapter.config.source.ipv4Numeric)
    (src : ipDgram.header.src = adapter.config.destination.ipv4Numeric)
    (dport : segment.header.dport = adapter.config.source.port) :
    Outcome adapter ipDgram (adapter.fromPeer segment) := by
  unfold fromPeer
  split
  · exact .refused
  · rename_i sport
    refine .taken segment quiet carries ⟨?_, ?_⟩
    · rw [src, not_not.mp sport]
    · rw [dst, dport]

/-- The tests behind the parse. -/
theorem parsed_outcome {adapter : TCPOverIPv4Adapter} {ipDgram : IPv4Datagram}
    {segment : TCPSegment} {result : Option TCPSegment × TCPOverIPv4Adapter}
    (dst : ¬ (¬ adapter.listening ∧ ipDgram.header.dst ≠ adapter.config.source.ipv4Numeric))
    (src : ¬ (¬ adapter.listening ∧ ipDgram.header.src ≠ adapter.config.destination.ipv4Numeric))
    (carries : Carries ipDgram segment)
    (done : (if segment.header.dport ≠ adapter.config.source.port then .ok (none, adapter)
      else if adapter.listening then
        if segment.header.syn ∧ ¬ segment.header.rst then
          .ok ((adapter.latched ipDgram segment).fromPeer segment)
        else .ok (none, adapter)
      else .ok (adapter.fromPeer segment)) =
        (.ok result : Except WireFault (Option TCPSegment × TCPOverIPv4Adapter))) :
    Outcome adapter ipDgram result := by
  split at done
  · cases done
    exact .refused
  · rename_i dport
    split at done
    · rename_i listening
      split at done
      · rename_i opens
        rw [latched_fromPeer] at done
        cases done
        exact .bound segment listening carries
          ⟨opens.1, Bool.eq_false_of_not_eq_true opens.2, not_not.mp dport⟩
      · cases done
        exact .refused
    · rename_i quiet
      cases done
      exact fromPeer_outcome (Bool.eq_false_of_not_eq_true quiet) carries
        (not_not.mp (fun other => dst ⟨quiet, other⟩)) (not_not.mp (fun other => src ⟨quiet, other⟩))
        (not_not.mp dport)

/-- One datagram is refused, or binds the adapter, or is taken from its peer. -/
theorem unwrapTcpInIp_outcome {adapter : TCPOverIPv4Adapter} {ipDgram : IPv4Datagram}
    {result : Option TCPSegment × TCPOverIPv4Adapter}
    (done : adapter.unwrapTcpInIp ipDgram = .ok result) : Outcome adapter ipDgram result := by
  unfold unwrapTcpInIp at done
  split at done
  · cases done
    exact .refused
  rename_i dst
  split at done
  · cases done
    exact .refused
  rename_i src
  split at done
  · cases done
    exact .refused
  rename_i proto
  cases buffer : ipDgram.payload.toBuffer with
  | error fault =>
      rw [buffer] at done
      cases done
  | ok payload =>
      rw [buffer] at done
      change (TCPSegment.parse {} payload ipDgram.header.pseudoCksum >>= _) = _ at done
      cases parsed : TCPSegment.parse {} payload ipDgram.header.pseudoCksum with
      | error fault =>
          rw [parsed] at done
          cases done
      | ok read =>
          rcases read with ⟨segment, verdict⟩
          rw [parsed] at done
          change (if verdict ≠ .noError then _ else _) = _ at done
          split at done
          · cases done
            exact .refused
          · rename_i clean
            rw [not_not.mp clean] at parsed
            exact parsed_outcome dst src ⟨not_not.mp proto, payload, buffer, parsed⟩ done

theorem receive_outcome (adapter : TCPOverIPv4Adapter) (ipDgram : IPv4Datagram) :
    Outcome adapter ipDgram (adapter.receive ipDgram) := by
  unfold receive
  cases done : adapter.unwrapTcpInIp ipDgram with
  | ok result => exact unwrapTcpInIp_outcome done
  | error fault => exact .refused

/-! ## Sequences of datagrams -/

theorem receives_append (adapter : TCPOverIPv4Adapter) (before after : List IPv4Datagram) :
    adapter.receives (before ++ after) = (adapter.receives before).receives after := by
  induction before generalizing adapter with
  | nil => rfl
  | cons ipDgram before ih => exact ih (adapter.receive ipDgram).2

theorem receive_of_none {adapter : TCPOverIPv4Adapter} {ipDgram : IPv4Datagram}
    (refused : (adapter.receive ipDgram).1 = none) : (adapter.receive ipDgram).2 = adapter := by
  have outcome := adapter.receive_outcome ipDgram
  generalize adapter.receive ipDgram = result at outcome refused ⊢
  cases outcome with
  | refused => rfl
  | bound segment => cases refused
  | taken segment => rfl

/-- An adapter that does not listen stays as it is. -/
theorem receive_of_quiet {adapter : TCPOverIPv4Adapter} (quiet : adapter.listening = false)
    (ipDgram : IPv4Datagram) : (adapter.receive ipDgram).2 = adapter := by
  have outcome := adapter.receive_outcome ipDgram
  generalize adapter.receive ipDgram = result at outcome ⊢
  cases outcome with
  | refused => rfl
  | bound segment listening =>
      rw [quiet] at listening
      cases listening
  | taken segment => rfl

theorem receives_of_quiet {adapter : TCPOverIPv4Adapter} (quiet : adapter.listening = false)
    (ipDgrams : List IPv4Datagram) : adapter.receives ipDgrams = adapter := by
  induction ipDgrams with
  | nil => rfl
  | cons ipDgram ipDgrams ih =>
      unfold receives
      rw [receive_of_quiet quiet ipDgram]
      exact ih

/-- As long as nothing is accepted, nothing changes. -/
theorem receives_of_refused {adapter : TCPOverIPv4Adapter} {ipDgrams : List IPv4Datagram}
    (refused : forall answer, answer ∈ adapter.answers ipDgrams -> answer = none) :
    adapter.receives ipDgrams = adapter := by
  induction ipDgrams with
  | nil => rfl
  | cons ipDgram ipDgrams ih =>
      have same := receive_of_none (refused _ List.mem_cons_self)
      unfold answers at refused
      unfold receives
      rw [same] at refused ⊢
      exact ih (fun answer inside => refused answer (List.mem_cons_of_mem _ inside))

/-- What is promised of a datagram that comes after others. -/
structure LatchesPeer (adapter : TCPOverIPv4Adapter) (before : List IPv4Datagram)
    (ipDgram : IPv4Datagram) : Prop where
  /-- If it is not accepted, nothing changes. -/
  refused : ((adapter.receives before).receive ipDgram).1 = none ->
    ((adapter.receives before).receive ipDgram).2 = adapter.receives before
  /-- If it is accepted by an adapter that does not listen, it carries a segment
  of the connection. -/
  taken : forall segment, (adapter.receives before).listening = false ->
    ((adapter.receives before).receive ipDgram).1 = some segment ->
      Carries ipDgram segment ∧ Belongs (adapter.receives before).config ipDgram segment
  /-- If the adapter did not listen at first, it is still the same. -/
  quiet : adapter.listening = false -> adapter.receives before = adapter
  /-- If the adapter listened at first and this is the first one it accepts, it
  carries a SYN to the configured port and decides the addresses for good. -/
  first : forall segment, adapter.listening = true ->
    (forall answer, answer ∈ adapter.answers before -> answer = none) ->
    ((adapter.receives before).receive ipDgram).1 = some segment ->
      Carries ipDgram segment ∧ Opens adapter.config.source.port segment ∧
      forall after, adapter.receives (before ++ ipDgram :: after) =
        { config :=
            { source := ⟨ipDgram.header.dst, adapter.config.source.port⟩
              destination := ⟨ipDgram.header.src, segment.header.sport⟩ }
          listening := false }

/-- **Peer latching.**  Whatever datagrams are given to an adapter, in whatever
order, each of them is refused without a trace, or belongs to the connection, or
is the first of a listening adapter and fixes its addresses. -/
theorem peer_latched (adapter : TCPOverIPv4Adapter) (before : List IPv4Datagram)
    (ipDgram : IPv4Datagram) : LatchesPeer adapter before ipDgram where
  refused := receive_of_none
  taken := by
    intro segment quiet accepted
    have outcome := (adapter.receives before).receive_outcome ipDgram
    generalize (adapter.receives before).receive ipDgram = result at outcome accepted
    cases outcome with
    | refused => cases accepted
    | bound other listening =>
        rw [quiet] at listening
        cases listening
    | taken other _ carries belongs =>
        cases accepted
        exact ⟨carries, belongs⟩
  quiet := fun quiet => receives_of_quiet quiet before
  first := by
    intro segment listening refused accepted
    have same := receives_of_refused refused
    rw [same] at accepted
    have outcome := adapter.receive_outcome ipDgram
    have bound : Carries ipDgram segment ∧ Opens adapter.config.source.port segment ∧
        (adapter.receive ipDgram).2 = adapter.latched ipDgram segment := by
      generalize adapter.receive ipDgram = result at outcome accepted ⊢
      cases outcome with
      | refused => cases accepted
      | bound other _ carries opens =>
          cases accepted
          exact ⟨carries, opens, rfl⟩
      | taken other quiet =>
          rw [listening] at quiet
          cases quiet
    refine ⟨bound.1, bound.2.1, fun after => ?_⟩
    rw [receives_append, same]
    unfold receives
    rw [bound.2.2]
    exact receives_of_quiet rfl after

/-- A reset is refused, the SYN behind it is accepted, and the adapter is bound. -/
theorem peer_latched_syn :
    let listener : TCPOverIPv4Adapter := { config := ⟨⟨0, 80⟩, ⟨0, 0⟩⟩, listening := true }
    let reset : IPv4Datagram :=
      { header := { len := 40, src := 0x0a000003, dst := 0x0a000002 }
        payload := .ofBuffer
          ([3, 0xe8, 0, 80, 0, 0, 0, 7, 0, 0, 0, 0, 0x50, 4, 0, 0, 0x97, 0x9d, 0, 0]) }
    let opening : IPv4Datagram :=
      { header := { len := 40, src := 0x0a000001, dst := 0x0a000002 }
        payload := .ofBuffer
          ([3, 0xe8, 0, 80, 0, 0, 0, 7, 0, 0, 0, 0, 0x50, 2, 0, 0, 0x97, 0xa1, 0, 0]) }
    let segment : TCPSegment :=
      { header := { sport := 1000, dport := 80, seqno := ⟨7⟩, syn := true, cksum := 0x97a1 } }
    listener.answers [reset, opening] = [none, some segment] ∧
      forall after, listener.receives ([reset] ++ opening :: after) =
        { config := ⟨⟨0x0a000002, 80⟩, ⟨0x0a000001, 1000⟩⟩, listening := false } := by
  intro listener reset opening segment
  have refused : listener.answers [reset] = [none] := by decide +kernel
  have accepted : ((listener.receives [reset]).receive opening).1 = some segment := by
    decide +kernel
  refine ⟨by decide +kernel, ?_⟩
  refine ((peer_latched listener [reset] opening).first segment rfl ?_ accepted).2.2
  intro answer inside
  rw [refused] at inside
  exact List.mem_singleton.mp inside

end TCPOverIPv4Adapter
end Wire
end Sponge
