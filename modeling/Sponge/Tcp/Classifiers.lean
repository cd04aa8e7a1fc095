import Sponge.Foundation.Runs
import Sponge.Tcp.Machines
import Sponge.Tcp.SenderStages

namespace Sponge
namespace Tcp

open Foundation Bytes

/-!
# Two names for the state of a sender

`TCPSender::state` decides what the sending loop does, and the summary of
`TCPState` decides what a connection does.  The two ask for different numbers.
They disagree about one kind of state only: the FIN was sent more than once, and
something but not everything has been acknowledged.  The loop sends a FIN again
only as long as the SYN is not acknowledged, so the one way into such a state is
an acknowledgment of the SYN that leaves a FIN out.
-/

/-- The summary of the same name.  There is none for `ESTABLISHED`, which the
code declares and never returns. -/
def SenderState.summary : SenderState -> Option TCPSenderStateSummary
  | .closed => some .closed
  | .synSent => some .synSent
  | .synAcked => some .synAcked
  | .established => none
  | .finSent => some .finSent
  | .finAcked => some .finAcked
  | .error => some .error

namespace TCPSender

/-- Both names are the same. -/
def Agree (sender : TCPSender) : Prop :=
  sender.state.summary = some (TCPState.senderSummary sender)

instance (sender : TCPSender) : Decidable sender.Agree :=
  inferInstanceAs (Decidable (_ = _))

/-- More than one FIN is out. -/
structure Overfilled (sender : TCPSender) : Prop where
  noError : sender.stream.error = false
  eof : sender.stream.eof = true
  used : sender.stream.bytesWritten + 2 < sender.window.nextSeqno

/-- More than one FIN is out, and a part of what was sent is acknowledged. -/
structure Confused (sender : TCPSender) : Prop extends Overfilled sender where
  acked : 0 < sender.window.firstSeqno
  waiting : sender.window.firstSeqno < sender.window.nextSeqno

/-- Where no FIN is out twice, or nothing or everything is acknowledged, the two
cascades take corresponding branches. -/
theorem agree_iff {sender : TCPSender}
    (ordered : sender.window.firstSeqno ≤ sender.window.nextSeqno) :
    sender.Agree <-> ¬ sender.Confused := by
  have confused_iff : sender.Confused <-> sender.stream.error = false ∧ sender.stream.eof = true ∧
      sender.stream.bytesWritten + 2 < sender.window.nextSeqno ∧
      0 < sender.window.firstSeqno ∧ sender.window.firstSeqno < sender.window.nextSeqno :=
    ⟨fun confused => ⟨confused.noError, confused.eof, confused.used, confused.acked,
      confused.waiting⟩, fun ⟨noError, eof, used, acked, waiting⟩ =>
        ⟨⟨noError, eof, used⟩, acked, waiting⟩⟩
  rw [confused_iff]
  unfold Agree state TCPState.senderSummary nextSeqnoAbsolute bytesInFlight
    TCPSendingWindow.bytesInFlight
  generalize sender.window.nextSeqno = next at ordered ⊢
  generalize sender.window.firstSeqno = first at ordered ⊢
  generalize sender.stream.bytesWritten = written
  cases sender.stream.error with
  | true => simp [SenderState.summary]
  | false =>
      by_cases unused : next = 0
      · simp [unused, SenderState.summary]
      · by_cases unacked : first = 0
        · simp [unused, unacked, Nat.pos_of_ne_zero unused, SenderState.summary]
        · have acked : next ≠ next - first := by omega
          have above : next > next - first := by omega
          cases sender.stream.eof with
          | false => simp [unused, acked, above, SenderState.summary]
          | true =>
              simp only [Bool.false_eq_true, if_false, unused, acked, and_false, not_true_eq_false,
                true_and]
              by_cases short : next < written + 2
              · rw [if_pos short, if_pos short]
                exact ⟨fun _ again => by omega, fun _ => rfl⟩
              · rw [if_neg short, if_neg short]
                by_cases all : next - first = 0
                · rw [if_neg (fun waiting => by omega), if_neg (not_not_intro all)]
                  exact ⟨fun _ again => by omega, fun _ => rfl⟩
                · rw [if_pos all]
                  by_cases once : next = written + 2
                  · rw [if_pos ⟨once, Nat.pos_of_ne_zero all⟩]
                    exact ⟨fun _ again => by omega, fun _ => rfl⟩
                  · rw [if_neg (fun finSent => once finSent.1)]
                    exact ⟨nofun, fun proper => absurd (by omega) proper⟩

/-! ## What every call keeps -/

/-- The numbers are in order, and without an error they are in their place. -/
structure Sound (sender : TCPSender) : Prop where
  ordered : sender.window.firstSeqno ≤ sender.window.nextSeqno
  composed : sender.stream.error = false -> sender.Composed

theorem sound_of_composed {sender : TCPSender} (composed : sender.Composed) : sender.Sound :=
  ⟨composed.ordered, fun _ => composed⟩

/-- Whatever keeps the error, the order and the places keeps soundness. -/
theorem Sound.next {sender updated : TCPSender} (sound : sender.Sound)
    (ordered : updated.window.firstSeqno ≤ updated.window.nextSeqno)
    (error_eq : updated.stream.error = sender.stream.error)
    (composed : sender.Composed -> updated.Composed) : updated.Sound :=
  ⟨ordered, fun noError => composed (sound.composed (error_eq.symm.trans noError))⟩

theorem Sound.sends {sender final : TCPSender} {segments : List TCPSegment} (sound : sender.Sound)
    (sends : Sends sender segments final) : final.Sound := by
  refine sound.next ?_ sends.frame.error_eq (fun composed => composed.sends sends)
  rw [sends.frame.firstSeqno_eq]
  exact Nat.le_trans sound.ordered sends.frame.nextSeqno_le

theorem Sound.tookAck {sender updated : TCPSender} {ackno : WrappingInt32} {windowSize : UInt16}
    (sound : sender.Sound) (took : sender.TookAck ackno windowSize updated) : updated.Sound := by
  refine sound.next (took.ordered sound.ordered).2 ?_ (fun composed => composed.tookAck took)
  rw [took.stream_eq]

theorem Sound.alike {sender updated : TCPSender} (sound : sender.Sound)
    (alike : Alike sender updated) : updated.Sound := by
  refine sound.next ?_ ?_ (fun composed => composed.alike alike)
  · rw [alike.firstSeqno_eq, alike.nextSeqno_eq]
    exact sound.ordered
  · rw [alike.stream_eq]

theorem Sound.call {sender next : TCPSender} {made : SenderCall} (sound : sender.Sound)
    (done : sender.call made = .ok next) : next.Sound := by
  cases made with
  | write data =>
      cases done
      exact sound.next sound.ordered (ByteStream.write_error _ _)
        (fun composed => composed.write data)
  | endInput =>
      cases done
      exact sound.next sound.ordered rfl (fun composed => composed.endInput)
  | setError =>
      cases done
      exact ⟨sound.ordered, nofun⟩
  | fillWindow =>
      rcases fillWindow_sends done with ⟨segments, sends⟩
      exact sound.sends sends
  | ackReceived ackno windowSize =>
      rcases ackReceived_spec done with ⟨updated, segments, took, sends⟩
      exact (sound.tookAck took).sends sends
  | tick msSinceLastTick =>
      cases done
      exact sound.alike (sender.tick_spec msSinceLastTick).alike
  | sendEmptySegment =>
      cases done
      exact sound.alike (alike_of_window rfl rfl)
  | takeSegments count =>
      cases done
      exact sound.alike (alike_of_window rfl rfl)

/-! ## Into a confused state -/

/-- Before the FIN no number behind it is used. -/
theorem Unfinished.not_overfilled {sender : TCPSender} (unfinished : sender.Unfinished) :
    ¬ sender.Overfilled := by
  intro overfilled
  have used := overfilled.used
  have below := sender.stream.bytesRead_le
  unfold Unfinished at unfinished
  omega

theorem Overfilled.frame {sender updated : TCPSender} (overfilled : sender.Overfilled)
    (stream_eq : updated.stream = sender.stream)
    (nextSeqno_eq : updated.window.nextSeqno = sender.window.nextSeqno) : updated.Overfilled := by
  refine ⟨?_, ?_, ?_⟩
  · rw [stream_eq]
    exact overfilled.noError
  · rw [stream_eq]
    exact overfilled.eof
  · rw [stream_eq, nextSeqno_eq]
    exact overfilled.used

theorem Confused.alike {sender updated : TCPSender} (confused : updated.Confused)
    (alike : Alike sender updated) : sender.Confused := by
  refine ⟨confused.toOverfilled.frame alike.stream_eq.symm alike.nextSeqno_eq.symm, ?_, ?_⟩
  · rw [← alike.firstSeqno_eq]
    exact confused.acked
  · rw [← alike.firstSeqno_eq, ← alike.nextSeqno_eq]
    exact confused.waiting

/-- A stream that has come to its end takes no byte more. -/
theorem Confused.of_write {sender : TCPSender} {data : List UInt8}
    (confused : { sender with stream := (sender.stream.write data).1 }.Confused) :
    sender.Confused := by
  have ended := ((ByteStream.eof_iff _).mp confused.eof).1
  dsimp only at ended
  rw [ByteStream.write_endFlag] at ended
  rw [ByteStream.write_of_ended ended] at confused
  exact confused

/-- Where numbers behind the FIN are used, the stream had ended before. -/
theorem Confused.of_endInput {sender : TCPSender} (sound : sender.Sound)
    (confused : { sender with stream := sender.stream.endInput }.Confused) :
    sender.Confused := by
  have acked := confused.acked
  have ordered := sound.ordered
  rcases (sound.composed confused.noError).placed with unused | unfinished | finOut
  · have used := confused.used
    dsimp only at used
    omega
  · have still : { sender with stream := sender.stream.endInput }.Unfinished := unfinished
    exact absurd confused.toOverfilled still.not_overfilled
  · exact ⟨⟨confused.noError, finOut.eof, confused.used⟩, acked, confused.waiting⟩

/-- With the SYN acknowledged, filling the window sends no second FIN. -/
theorem Confused.sends {sender final : TCPSender} {segments : List TCPSegment}
    (sound : sender.Sound) (sends : Sends sender segments final) :
    final.Confused <-> sender.Confused := by
  by_cases noError : sender.stream.error = false
  · have composed := sound.composed noError
    by_cases acked : 0 < sender.window.firstSeqno
    · rcases composed.placed with unused | unfinished | finOut
      · have ordered := composed.ordered
        omega
      · have before := unfinished.not_overfilled
        refine ⟨fun confused => ?_, fun confused => absurd confused.toOverfilled before⟩
        rcases sends.unfinished noError composed.ordered acked unfinished with
          still | ⟨finished, _⟩
        · exact absurd confused.toOverfilled still.not_overfilled
        · exact absurd finished.used (Nat.ne_of_gt confused.used)
      · have rests := not_maySend_of_finished noError composed.ordered finOut.eof finOut.used acked
        have used := finOut.used
        rw [sends.eq_of_resting (by omega) rests]
    · constructor
      · intro confused
        have later := confused.acked
        rw [sends.frame.firstSeqno_eq] at later
        exact absurd later acked
      · intro confused
        exact absurd confused.acked acked
  · constructor
    · intro confused
      exact absurd (sends.frame.error_eq.symm.trans confused.noError) noError
    · intro confused
      exact absurd confused.noError noError

instance (sender : TCPSender) : Decidable sender.Overfilled :=
  decidable_of_iff (sender.stream.error = false ∧ sender.stream.eof = true ∧
      sender.stream.bytesWritten + 2 < sender.window.nextSeqno)
    ⟨fun ⟨noError, eof, used⟩ => ⟨noError, eof, used⟩,
      fun overfilled => ⟨overfilled.noError, overfilled.eof, overfilled.used⟩⟩

/-- What a call must not do: acknowledge the SYN, but not everything, of a sender
that has sent more than one FIN. -/
def KeepsNames (sender : TCPSender) : SenderCall -> Prop
  | .ackReceived ackno _ =>
      ¬ (sender.Overfilled ∧ sender.window.firstSeqno = 0 ∧
        0 < unwrap ackno sender.window.isn sender.nextSeqnoAbsolute ∧
        unwrap ackno sender.window.isn sender.nextSeqnoAbsolute < sender.nextSeqnoAbsolute)
  | _ => True

instance (sender : TCPSender) (made : SenderCall) : Decidable (sender.KeepsNames made) :=
  match made with
  | .ackReceived _ _ => inferInstanceAs (Decidable (¬ _))
  | .write _ | .endInput | .setError | .fillWindow | .tick _ | .sendEmptySegment
  | .takeSegments _ => .isTrue trivial

/-- An acknowledgment leads into a confused state exactly where it must not. -/
theorem TookAck.confused_iff {sender updated : TCPSender} {ackno : WrappingInt32}
    {windowSize : UInt16} (took : sender.TookAck ackno windowSize updated)
    (before : ¬ sender.Confused) :
    ¬ updated.Confused <-> sender.KeepsNames (.ackReceived ackno windowSize) := by
  unfold KeepsNames nextSeqnoAbsolute
  apply not_congr
  have first_eq := took.firstSeqno_eq
  have next_eq := took.nextSeqno_eq
  by_cases accepts : sender.window.Accepts ackno
  · rw [if_pos accepts] at first_eq
    constructor
    · intro confused
      have overfilled := confused.toOverfilled.frame took.stream_eq.symm next_eq.symm
      have acked := confused.acked
      have waiting := confused.waiting
      rw [first_eq] at acked waiting
      rw [next_eq] at waiting
      refine ⟨overfilled, ?_, acked, waiting⟩
      by_contra positive
      exact before ⟨overfilled, Nat.pos_of_ne_zero positive,
        Nat.lt_of_le_of_lt accepts.1 waiting⟩
    · rintro ⟨overfilled, _, acked, waiting⟩
      refine ⟨overfilled.frame took.stream_eq next_eq, ?_, ?_⟩
      · rw [first_eq]
        exact acked
      · rw [first_eq, next_eq]
        exact waiting
  · rw [if_neg accepts] at first_eq
    constructor
    · intro confused
      have acked := confused.acked
      have waiting := confused.waiting
      rw [first_eq] at acked waiting
      rw [next_eq] at waiting
      have overfilled := confused.toOverfilled.frame took.stream_eq.symm next_eq.symm
      exact absurd ⟨overfilled, acked, waiting⟩ before
    · rintro ⟨_, unacked, _, waiting⟩
      refine absurd ⟨?_, Nat.le_of_lt waiting⟩ accepts
      rw [unacked]
      exact Nat.zero_le _

theorem Sound.confused_iff {sender next : TCPSender} {made : SenderCall} (sound : sender.Sound)
    (before : ¬ sender.Confused) (done : sender.call made = .ok next) :
    sender.KeepsNames made <-> ¬ next.Confused := by
  cases made with
  | write data =>
      cases done
      exact iff_of_true trivial (fun confused => before confused.of_write)
  | endInput =>
      cases done
      exact iff_of_true trivial (fun confused => before (confused.of_endInput sound))
  | setError =>
      cases done
      exact iff_of_true trivial (fun confused => nomatch confused.noError)
  | fillWindow =>
      rcases fillWindow_sends done with ⟨segments, sends⟩
      exact iff_of_true trivial (mt (Confused.sends sound sends).mp before)
  | ackReceived ackno windowSize =>
      rcases ackReceived_spec done with ⟨updated, segments, took, sends⟩
      rw [Confused.sends (sound.tookAck took) sends]
      exact (took.confused_iff before).symm
  | tick msSinceLastTick =>
      cases done
      exact iff_of_true trivial
        (fun confused => before (confused.alike (sender.tick_spec msSinceLastTick).alike))
  | sendEmptySegment =>
      cases done
      exact iff_of_true trivial (fun confused => before (confused.alike (alike_of_window rfl rfl)))
  | takeSegments count =>
      cases done
      exact iff_of_true trivial (fun confused => before (confused.alike (alike_of_window rfl rfl)))

/-- **The two names of a state.**  In a run of calls both names agree in every
state exactly when no call acknowledges the SYN, but not everything, of a sender
that has sent more than one FIN. -/
theorem classifiers_agree_iff (capacity : Capacity) (retxTimeout : UInt16) (isn : WrappingInt32)
    (calls : List SenderCall) (final : TCPSender)
    (done : run call (new capacity retxTimeout isn) calls = .ok final) :
    RunMeets call KeepsNames (new capacity retxTimeout isn) calls <->
      forall before reached, before <+: calls ->
        run call (new capacity retxTimeout isn) before = .ok reached -> reached.Agree := by
  refine runMeets_iff (fun _ => True) Sound Agree (fun _ _ _ _ _ => trivial)
    (fun _ _ _ sound taken => sound.call taken) ?_
    (sound_of_composed (new_composed capacity retxTimeout isn)) rfl done trivial
  intro sender made next sound agrees taken _
  rw [agree_iff (sound.call taken).ordered]
  exact sound.confused_iff ((agree_iff sound.ordered).mp agrees) taken

/-- Two FINs, and an acknowledgment of everything at once. -/
theorem classifiers_agree_together :
    let start := new ⟨8, by decide⟩ 1000 ⟨0⟩
    let calls : List SenderCall :=
      [.fillWindow, .endInput, .ackReceived ⟨0⟩ 3, .tick 1000, .ackReceived ⟨3⟩ 9, .setError]
    (Exists fun final => run call start calls = .ok final) ∧
      forall before reached, before <+: calls -> run call start before = .ok reached ->
        reached.Agree := by
  intro start calls
  have checked : endsIn call (fun _ => true) start calls = true := by decide +kernel
  rcases run_of_endsIn checked with ⟨final, done, _⟩
  refine ⟨⟨final, done⟩, ?_⟩
  exact (classifiers_agree_iff _ _ _ calls final done).mp (by decide +kernel)

/-- Three FINs, and an acknowledgment of the SYN alone: the sender takes its FIN
for acknowledged, the connection waits for that. -/
theorem classifiers_disagree :
    let start := new ⟨8, by decide⟩ 1000 ⟨0⟩
    let calls : List SenderCall := [.fillWindow, .endInput, .ackReceived ⟨0⟩ 4, .ackReceived ⟨1⟩ 4]
    Exists fun final => run call start calls = .ok final ∧
      final.state = .finAcked ∧ TCPState.senderSummary final = .finSent ∧ ¬ final.Agree := by
  intro start calls
  have checked : endsIn call (fun final => decide (final.state = .finAcked ∧
      TCPState.senderSummary final = .finSent ∧ ¬ final.Agree)) start calls = true := by
    decide +kernel
  rcases run_of_endsIn checked with ⟨final, done, facts⟩
  exact ⟨final, done, of_decide_eq_true facts⟩

end TCPSender
end Tcp
end Sponge
