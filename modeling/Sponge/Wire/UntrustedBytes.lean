import Sponge.Foundation.Simulation
import Sponge.Wire.Adapter
import Sponge.Wire.Decoding

namespace Sponge
namespace Wire

open Foundation Tcp

/-!
# Parsing untrusted bytes

Whatever bytes arrive, the parsers of a datagram and of the segment in it access
nothing outside their buffers and throw nothing, although they go on after some
errors and the length fields can lie.  The accesses through `Buffer` are faults of
the model; the view that the header's checksum is taken of is not checked by the
code, and is compared with the datagram's size.
-/

namespace NetParser

/-- The public operations of a parser. -/
inductive Call where
  | u8
  | u16
  | u32
  | removePrefix (n : Nat)
deriving DecidableEq, Repr

/-- Perform a call.  The answer is the integer read, and zero for a skip. -/
def call (p : NetParser) : Call -> Except WireFault (NetParser × Nat)
  | .u8 => do
      let (value, p) <- p.u8
      return (p, value.toNat)
  | .u16 => do
      let (value, p) <- p.u16
      return (p, value.toNat)
  | .u32 => do
      let (value, p) <- p.u32
      return (p, value.toNat)
  | .removePrefix n => do
      let p <- p.removePrefix n
      return (p, 0)

/-- The bytes that a call takes off. -/
def Call.width : Call -> Nat
  | .u8 => 1
  | .u16 => 2
  | .u32 => 4
  | .removePrefix n => n

@[simp] theorem checkSize_buffer (p : NetParser) (n : Nat) :
    (p.checkSize n).buffer = p.buffer := by
  unfold checkSize
  split
  · rfl
  · rfl

/-- An error stays, though it can become another one. -/
theorem checkSize_of_failed {p : NetParser} (failed : p.hasError = true) (n : Nat) :
    (p.checkSize n).hasError = true := by
  rw [hasError_iff] at failed ⊢
  unfold checkSize
  split
  · exact nofun
  · exact failed

theorem peek_of_hasError {p : NetParser} (failed : p.hasError = true) (n : Nat) : p.peek n = 0 :=
  if_pos (checkSize_of_failed failed n)

/-- With an error a skip keeps the buffer, and the error. -/
theorem skip_of_hasError {p : NetParser} (failed : p.hasError = true) (n : Nat) :
    (p.skip n).buffer = p.buffer ∧ (p.skip n).hasError = true := by
  have still := checkSize_of_failed failed n
  unfold skip
  rw [if_pos still]
  exact ⟨p.checkSize_buffer n, still⟩

/-- A call takes its bytes off, if it can, and answers zero if there is an error. -/
theorem call_eq (p : NetParser) (made : Call) :
    Exists fun answer => p.call made = .ok (p.skip made.width, answer) ∧
      (p.hasError = true -> answer = 0) := by
  cases made with
  | u8 =>
      refine ⟨(UInt8.ofNat (p.peek 1)).toNat, ?_, fun failed => ?_⟩
      · simp only [call, u8_eq, bind, Except.bind, pure, Except.pure, Call.width]
      · simp only [peek_of_hasError failed]
        rfl
  | u16 =>
      refine ⟨(UInt16.ofNat (p.peek 2)).toNat, ?_, fun failed => ?_⟩
      · simp only [call, u16_eq, bind, Except.bind, pure, Except.pure, Call.width]
      · simp only [peek_of_hasError failed]
        rfl
  | u32 =>
      refine ⟨(UInt32.ofNat (p.peek 4)).toNat, ?_, fun failed => ?_⟩
      · simp only [call, u32_eq, bind, Except.bind, pure, Except.pure, Call.width]
      · simp only [peek_of_hasError failed]
        rfl
  | removePrefix n =>
      refine ⟨0, ?_, fun _ => rfl⟩
      simp only [call, removePrefix_eq, bind, Except.bind, pure, Except.pure, Call.width]

/-- No calls on a parser fault. -/
theorem play_call_ok (p : NetParser) (calls : List Call) :
    Exists fun answers => Exists fun final => play call p calls = (answers, .ok final) := by
  induction calls generalizing p with
  | nil => exact ⟨[], p, rfl⟩
  | cons made calls ih =>
      rcases p.call_eq made with ⟨answer, taken, _⟩
      rcases ih (p.skip made.width) with ⟨answers, final, rest⟩
      refine ⟨answer :: answers, final, ?_⟩
      unfold play
      rw [taken]
      dsimp only
      rw [rest]

/-- After an error all reads return zero and consume nothing. -/
theorem play_call_of_hasError {p : NetParser} (failed : p.hasError = true) (calls : List Call) :
    Exists fun final => play call p calls = (List.replicate calls.length 0, .ok final) ∧
      final.buffer = p.buffer ∧ final.hasError = true := by
  induction calls generalizing p with
  | nil => exact ⟨p, rfl, rfl, failed⟩
  | cons made calls ih =>
      rcases p.call_eq made with ⟨answer, taken, none⟩
      rcases skip_of_hasError failed made.width with ⟨same, still⟩
      rcases ih still with ⟨final, rest, buffer, error⟩
      refine ⟨final, ?_, buffer.trans same, error⟩
      unfold play
      rw [taken, none failed]
      dsimp only
      rw [rest]
      rfl

theorem skip_suffix (p : NetParser) (n : Nat) : (p.skip n).buffer <:+ p.buffer := by
  unfold skip
  split
  · exact ⟨[], p.checkSize_buffer n⟩
  · exact List.drop_suffix n p.buffer

theorem skips_suffix (p : NetParser) (widths : List Nat) :
    (p.skips widths).buffer <:+ p.buffer := by
  induction widths generalizing p with
  | nil => exact List.suffix_refl _
  | cons width widths ih => exact (ih (p.skip width)).trans (p.skip_suffix width)

end NetParser

/-- The result of a parse whose checksum was computed: all earlier tests passed. -/
def Summed (result : ParseResult) : Prop :=
  result = .noError ∨ result = .badChecksum

theorem fieldTests_ok (bytes : List UInt8) (header : IPv4Header) (p : NetParser) :
    Exists fun result => Exists fun rest =>
      fieldTests bytes header p = .ok (header, result, rest) ∧ rest.buffer <:+ p.buffer ∧
        (Summed result -> 4 * header.hlen.toNat ≤ bytes.length) := by
  unfold fieldTests
  dsimp only
  split
  · refine ⟨_, _, rfl, List.suffix_refl _, ?_⟩
    rintro (clean | bad)
    · cases clean
    · cases bad
  · rename_i room
    have inside : 4 * header.hlen.toNat ≤ bytes.length := Nat.le_of_not_lt room
    split
    · exact ⟨_, _, rfl, List.suffix_refl _, fun _ => inside⟩
    · split
      · exact ⟨_, _, rfl, List.suffix_refl _, fun _ => inside⟩
      · split
        · exact ⟨_, _, rfl, List.suffix_refl _, fun _ => inside⟩
        · split
          · exact ⟨_, _, rfl, p.skip_suffix _, fun _ => inside⟩
          · split
            · exact ⟨_, _, rfl, p.skip_suffix _, fun _ => inside⟩
            · exact ⟨_, _, rfl, p.skip_suffix _, fun _ => inside⟩

/-- The header's parser never faults, leaves a rest of the bytes, and sums up only
bytes of the datagram. -/
theorem IPv4Header.parse_ok (other : IPv4Header) (bytes : List UInt8) :
    Exists fun header => Exists fun result => Exists fun p =>
      other.parse ⟨bytes, .noError⟩ = .ok (header, result, p) ∧ p.buffer <:+ bytes ∧
        (Summed result -> 4 * header.hlen.toNat ≤ bytes.length) := by
  by_cases long : 20 ≤ bytes.length
  · have behind : (behindFields ⟨bytes, .noError⟩).buffer <:+ bytes :=
      NetParser.skips_suffix ⟨bytes, .noError⟩ _
    rcases fieldTests_ok bytes (fieldsAhead ⟨bytes, .noError⟩) (behindFields ⟨bytes, .noError⟩) with
      ⟨result, rest, tested, suffix, inside⟩
    refine ⟨_, result, rest, ?_, suffix.trans behind, inside⟩
    rw [fields_parse_eq other long, tested]
  · refine ⟨other, .packetTooShort, ⟨bytes, .noError⟩, ?_, List.suffix_refl _, ?_⟩
    · exact if_pos (Nat.lt_of_not_le long)
    · rintro (clean | bad)
      · cases clean
      · cases bad

/-- The datagram's parser never faults, and its payload is one buffer. -/
theorem IPv4Datagram.parse_ok (other : IPv4Datagram) (bytes : List UInt8) :
    Exists fun datagram => Exists fun result => Exists fun payload =>
      other.parse bytes = .ok (datagram, result) ∧ datagram.payload = .ofBuffer payload ∧
        payload <:+ bytes := by
  rcases other.header.parse_ok bytes with ⟨header, result, p, parsed, suffix, _⟩
  unfold IPv4Datagram.parse
  simp only [parsed, bind, Except.bind, pure, Except.pure]
  split
  · exact ⟨_, _, _, rfl, rfl, suffix⟩
  · exact ⟨_, _, _, rfl, rfl, suffix⟩

/-- The segment's parser never faults, whatever the sum of the pseudo-header. -/
theorem segment_parse_ok (other : TCPSegment) (bytes : List UInt8)
    (datagramLayerChecksum : UInt32) :
    Exists fun segment => Exists fun result =>
      other.parse bytes datagramLayerChecksum = .ok (segment, result) := by
  by_cases verifies : Verifies datagramLayerChecksum bytes
  · exact ⟨_, _, segment_parse_eq other verifies (header_parse_eq ⟨bytes, .noError⟩)⟩
  · refine ⟨other, .badChecksum, ?_⟩
    unfold TCPSegment.parse
    exact if_pos verifies

/-- The adapter never faults on a datagram whose payload is one buffer. -/
theorem TCPOverIPv4Adapter.unwrapTcpInIp_ok (adapter : TCPOverIPv4Adapter)
    {datagram : IPv4Datagram} {payload : List UInt8} (single : datagram.payload = .ofBuffer payload) :
    Exists fun answer => adapter.unwrapTcpInIp datagram = .ok answer := by
  have contiguous : datagram.payload.toBuffer = .ok payload := by
    rw [single]
    rfl
  rcases segment_parse_ok {} payload datagram.header.pseudoCksum with ⟨segment, result, parsed⟩
  unfold unwrapTcpInIp
  rw [contiguous]
  simp only [bind, Except.bind, pure, Except.pure, parsed]
  repeat' split
  all_goals exact ⟨_, rfl⟩

/-- Any bytes pass through the parsers of the datagram and of the segment without
a fault, the checksum of the header is taken of bytes of the datagram, and a
parser that has met an error reads zeros and takes nothing off any more. -/
theorem untrusted_bytes_stay_inside (bytes : List UInt8) :
    (forall other : IPv4Header,
      Exists fun header => Exists fun result => Exists fun p =>
        other.parse ⟨bytes, .noError⟩ = .ok (header, result, p) ∧
          (Summed result -> 4 * header.hlen.toNat ≤ bytes.length)) ∧
    (forall other : IPv4Datagram,
      Exists fun datagram => Exists fun result => Exists fun payload =>
        other.parse bytes = .ok (datagram, result) ∧
          datagram.payload.toBuffer = .ok payload ∧ payload <:+ bytes ∧
          (forall (segment : TCPSegment) (datagramLayerChecksum : UInt32),
            Exists fun received => Exists fun result =>
              segment.parse payload datagramLayerChecksum = .ok (received, result)) ∧
          (forall adapter : TCPOverIPv4Adapter,
            Exists fun answer => adapter.unwrapTcpInIp datagram = .ok answer)) ∧
    (forall (p : NetParser) (calls : List NetParser.Call),
      Exists fun answers => Exists fun final =>
        play NetParser.call p calls = (answers, .ok final) ∧
          (p.hasError = true ->
            answers = List.replicate calls.length 0 ∧ final.buffer = p.buffer ∧
              final.hasError = true)) := by
  refine ⟨?_, ?_, ?_⟩
  · intro other
    rcases other.parse_ok bytes with ⟨header, result, p, parsed, _, inside⟩
    exact ⟨header, result, p, parsed, inside⟩
  · intro other
    rcases other.parse_ok bytes with ⟨datagram, result, payload, parsed, single, suffix⟩
    have contiguous : datagram.payload.toBuffer = .ok payload := by
      rw [single]
      rfl
    exact ⟨datagram, result, payload, parsed, contiguous, suffix,
      fun segment sum => segment_parse_ok segment payload sum,
      fun adapter => adapter.unwrapTcpInIp_ok single⟩
  · intro p calls
    by_cases failed : p.hasError = true
    · rcases NetParser.play_call_of_hasError failed calls with ⟨final, played, buffer, still⟩
      exact ⟨_, final, played, fun _ => ⟨rfl, buffer, still⟩⟩
    · rcases p.play_call_ok calls with ⟨answers, final, played⟩
      exact ⟨answers, final, played, fun fails => absurd fails failed⟩

/-- A header length of sixty bytes in a datagram of twenty is found out before
anything is summed. -/
example : (IPv4Header.parse {} ⟨[0x4f, 0, 0, 20] ++ List.replicate 16 0, .noError⟩).map
    (fun parsed => parsed.2.1) = .ok .packetTooShort := by
  decide +kernel

end Wire
end Sponge
