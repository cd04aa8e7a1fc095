import Sponge.Wire.Views

namespace Sponge
namespace Wire

/-!
# Writing in parts

`FileDescriptor::write` calls `writev` until everything has been written, and after
each call discards what the kernel has taken.  The results of `writev` pass through
`SystemCall`, which hands them on as an `int`: a result of `2^31` bytes or more turns
negative or smaller than it was.  For all others, and for less than `2^63` bytes, the
kernel is handed the input once, in consecutive slices.
-/

/-- What `writev` returns, and the value of `errno` behind it. -/
structure WritevAnswer where
  returned : Int64
  errno : Int32 := 0
deriving DecidableEq, Repr

/-- A call of `writev`. -/
structure WritevCall where
  iovecs : List (List UInt8)
  answer : WritevAnswer
deriving DecidableEq, Repr

namespace WritevCall

/-- The bytes that the kernel is given. -/
def handed (call : WritevCall) : List UInt8 :=
  call.iovecs.flatten

/-- The kernel takes the first bytes of those it is given. -/
def taken (call : WritevCall) : List UInt8 :=
  call.handed.take call.answer.returned.toInt.toNat

end WritevCall

/-- The exceptions that writing can throw. -/
inductive WriteFault where
  | unixError (attempt : String) (errno : Int32)
  | returnedZero
  | wroteMore
  | discarding (fault : PrefixFault)
deriving DecidableEq, Repr

/-- The text of a thrown exception.  That of a system error ends in the system's text
for `errno`. -/
def WriteFault.what : WriteFault -> Option String
  | .unixError _ _ => none
  | .returnedZero => some "write returned 0 given non-empty input buffer"
  | .wroteMore => some "write wrote more than length of input buffer"
  | .discarding fault => fault.what

/-- The error-checking wrapper for most system calls. -/
def systemCall (attempt : String) (returnValue errno errnoMask : Int32) :
    Except WriteFault Int32 :=
  if returnValue ≥ 0 ∨ errno = errnoMask then .ok returnValue
  else .error (.unixError attempt errno)

structure FileDescriptor where
  writeCount : UInt32 := 0
deriving DecidableEq, Repr

namespace FileDescriptor

def registerWrite (descriptor : FileDescriptor) : FileDescriptor :=
  { descriptor with writeCount := descriptor.writeCount + 1 }

end FileDescriptor

/-- How a call of `write` ends, as far as `writev` has answered. -/
inductive WriteResult where
  | returned (totalBytesWritten : UInt64)
  | thrown (fault : WriteFault)
  | blocked
deriving DecidableEq, Repr

/-- A call of `write`, with the calls of `writev` that it has made. -/
structure Writing where
  descriptor : FileDescriptor
  calls : List WritevCall
  result : WriteResult
deriving DecidableEq, Repr

/-- The variables of the loop in `write`. -/
structure WriteLoop where
  descriptor : FileDescriptor
  buffer : BufferViewList
  totalBytesWritten : UInt64 := 0
deriving DecidableEq, Repr

/-- What one pass of the loop leads to. -/
inductive WritePass where
  | again (loop : WriteLoop)
  | stops (descriptor : FileDescriptor) (result : WriteResult)
deriving DecidableEq, Repr

namespace WriteLoop

/-- What the body of the loop does with the number of bytes written. -/
def count (loop : WriteLoop) (writeAll : Bool) (bytesWritten : Int64) : WritePass :=
  if bytesWritten = 0 ∧ loop.buffer.size ≠ 0 then
    .stops loop.descriptor (.thrown .returnedZero)
  else if bytesWritten > loop.buffer.size.toInt64 then
    .stops loop.descriptor (.thrown .wroteMore)
  else
    let descriptor := loop.descriptor.registerWrite
    match loop.buffer.removePrefix bytesWritten.toUInt64 with
    | .error fault => .stops descriptor (.thrown (.discarding fault))
    | .ok buffer =>
        let total := loop.totalBytesWritten + bytesWritten.toUInt64
        if writeAll ∧ buffer.size ≠ 0 then .again ⟨descriptor, buffer, total⟩
        else .stops descriptor (.returned total)

/-- The body of the loop, once `writev` has answered. -/
def pass (loop : WriteLoop) (writeAll : Bool) (answer : WritevAnswer) : WritePass :=
  match systemCall "writev" answer.returned.toInt32 answer.errno 0 with
  | .error fault => .stops loop.descriptor (.thrown fault)
  | .ok returnValue => loop.count writeAll returnValue.toInt64

/-- The call of `writev`. -/
def call (loop : WriteLoop) (answer : WritevAnswer) : WritevCall :=
  ⟨loop.buffer.asIovecs, answer⟩

/-- The loop, for the answers of `writev` one after the other. -/
def run (writeAll : Bool) : WriteLoop -> List WritevAnswer -> Writing
  | loop, [] => ⟨loop.descriptor, [], .blocked⟩
  | loop, answer :: answers =>
      match loop.pass writeAll answer with
      | .stops descriptor result => ⟨descriptor, [loop.call answer], result⟩
      | .again next =>
          let writing := run writeAll next answers
          { writing with calls := loop.call answer :: writing.calls }

end WriteLoop

/-- Write a list of views, possibly until all is written. -/
def FileDescriptor.write (descriptor : FileDescriptor) (buffer : BufferViewList)
    (writeAll : Bool) (answers : List WritevAnswer) : Writing :=
  WriteLoop.run writeAll { descriptor := descriptor, buffer := buffer } answers

/-! ## What a pass does -/

namespace WritevAnswer

/-- The result of `writev` as the loop sees it. -/
def bytesWritten (answer : WritevAnswer) : Int64 :=
  answer.returned.toInt32.toInt64

/-- The number of bytes that are discarded for it. -/
def discarded (answer : WritevAnswer) : Nat :=
  answer.bytesWritten.toUInt64.toNat

theorem bytesWritten_toInt (answer : WritevAnswer) :
    answer.bytesWritten.toInt = answer.returned.toInt.bmod (2 ^ 32) := by
  unfold bytesWritten
  rw [Int32.toInt_toInt64, Int64.toInt_toInt32]

theorem discarded_eq (answer : WritevAnswer) :
    (answer.discarded : Int) = answer.bytesWritten.toInt % 2 ^ 64 := by
  have bits : answer.bytesWritten.toInt = (answer.discarded : Int).bmod (2 ^ 64) :=
    BitVec.toInt_eq_toNat_bmod _
  have bound : answer.discarded < 2 ^ 64 := UInt64.toNat_lt _
  rw [bits, Int.bmod_def]
  omega

theorem bytesWritten_of_fits {answer : WritevAnswer} (least : 0 ≤ answer.returned.toInt)
    (fits : answer.returned.toInt < 2 ^ 31) :
    answer.bytesWritten.toInt = answer.returned.toInt := by
  rw [bytesWritten_toInt, Int.bmod_def]
  omega

end WritevAnswer

namespace WriteLoop

variable {loop : WriteLoop} {answer : WritevAnswer} {buffer : BufferViewList}

/-- The checks let the result pass, and what it counts is discarded. -/
structure Trims (loop : WriteLoop) (answer : WritevAnswer) (buffer : BufferViewList) : Prop where
  counted : ¬ (answer.bytesWritten = 0 ∧ loop.buffer.size ≠ 0)
  within : ¬ answer.bytesWritten > loop.buffer.size.toInt64
  removed : loop.buffer.removePrefix answer.bytesWritten.toUInt64 = .ok buffer

/-- Where a pass leads that has trimmed the buffer. -/
def onward (loop : WriteLoop) (writeAll : Bool) (answer : WritevAnswer)
    (buffer : BufferViewList) : WritePass :=
  let total := loop.totalBytesWritten + answer.bytesWritten.toUInt64
  if writeAll ∧ buffer.size ≠ 0 then .again ⟨loop.descriptor.registerWrite, buffer, total⟩
  else .stops loop.descriptor.registerWrite (.returned total)

theorem pass_eq (loop : WriteLoop) (writeAll : Bool) (answer : WritevAnswer) :
    loop.pass writeAll answer =
      if answer.returned.toInt32 ≥ 0 ∨ answer.errno = 0 then
        loop.count writeAll answer.bytesWritten
      else .stops loop.descriptor (.thrown (.unixError "writev" answer.errno)) := by
  unfold pass systemCall
  by_cases passes : answer.returned.toInt32 ≥ 0 ∨ answer.errno = 0
  · rw [if_pos passes, if_pos passes]
    rfl
  · rw [if_neg passes, if_neg passes]

theorem pass_of_trims (writeAll : Bool)
    (passes : answer.returned.toInt32 ≥ 0 ∨ answer.errno = 0)
    (trims : loop.Trims answer buffer) :
    loop.pass writeAll answer = loop.onward writeAll answer buffer := by
  rw [pass_eq, if_pos passes]
  unfold count
  rw [if_neg trims.counted, if_neg trims.within, trims.removed]
  rfl

theorem Trims.contents_eq (trims : loop.Trims answer buffer) :
    answer.discarded ≤ loop.buffer.contents.length ∧
      buffer.contents = loop.buffer.contents.drop answer.discarded := by
  have fits : answer.discarded ≤ loop.buffer.contents.length := by
    by_contra long
    cases (BufferViewList.removePrefix_of_lt (Nat.lt_of_not_le long)).symm.trans trims.removed
  rcases BufferViewList.removePrefix_of_le fits with ⟨rest, removed, contents⟩
  cases removed.symm.trans trims.removed
  exact ⟨fits, contents⟩

/-- A result that fits into an `int` and into the buffer passes the checks. -/
theorem trims_of_fits (short : loop.buffer.contents.length < 2 ^ 63)
    (least : 0 ≤ answer.returned.toInt)
    (most : answer.returned.toInt ≤ loop.buffer.contents.length)
    (some : answer.returned.toInt = 0 -> loop.buffer.contents.length = 0)
    (fits : answer.returned.toInt < 2 ^ 31) :
    answer.returned.toInt32 ≥ 0 ∧ answer.discarded = answer.returned.toInt.toNat ∧
      Exists fun buffer => loop.Trims answer buffer := by
  have kept := WritevAnswer.bytesWritten_of_fits least fits
  have discarded : answer.discarded = answer.returned.toInt.toNat := by
    have all := answer.discarded_eq
    omega
  have room : answer.discarded ≤ loop.buffer.contents.length := by omega
  rcases BufferViewList.removePrefix_of_le room with ⟨buffer, removed, _⟩
  refine ⟨?_, discarded, buffer, fun none => none.2 ?_, Int64.not_lt.mpr ?_, removed⟩
  · have narrow : answer.bytesWritten.toInt = answer.returned.toInt32.toInt :=
      Int32.toInt_toInt64 _
    rw [ge_iff_le, Int32.le_iff_toInt_le, ← narrow, kept]
    exact least
  · have zero : answer.returned.toInt = 0 := by
      rw [← kept, none.1]
      rfl
    rw [← UInt64.toNat_inj, BufferViewList.size_toNat, some zero]
    rfl
  · rw [Int64.le_iff_toInt_le, kept, BufferViewList.size_toInt64, Int.bmod_def]
    omega

/-- A result that has turned negative is taken for a very long prefix. -/
theorem pass_of_negative (writeAll : Bool) (short : loop.buffer.contents.length < 2 ^ 63)
    (negative : answer.bytesWritten.toInt < 0) (unset : answer.errno = 0) :
    loop.pass writeAll answer =
      .stops loop.descriptor.registerWrite (.thrown (.discarding .bufferViewList)) := by
  have counted : ¬ (answer.bytesWritten = 0 ∧ loop.buffer.size ≠ 0) := by
    rintro ⟨none, _⟩
    rw [none] at negative
    exact absurd negative (by decide)
  have within : ¬ answer.bytesWritten > loop.buffer.size.toInt64 := by
    rw [gt_iff_lt, Int64.lt_iff_toInt_lt, BufferViewList.size_toInt64, Int.bmod_def]
    omega
  have long : loop.buffer.contents.length < answer.discarded := by
    have narrow := answer.bytesWritten_toInt
    have all := answer.discarded_eq
    rw [Int.bmod_def] at narrow
    omega
  rw [pass_eq, if_pos (Or.inr unset)]
  unfold count
  rw [if_neg counted, if_neg within, BufferViewList.removePrefix_of_lt long]

/-- What is counted and what remains make up the size. -/
theorem Trims.size_eq (trims : loop.Trims answer buffer) :
    answer.bytesWritten.toUInt64 + buffer.size = loop.buffer.size := by
  rcases trims.contents_eq with ⟨fits, contents⟩
  rw [← UInt64.toNat_inj, UInt64.toNat_add, BufferViewList.size_toNat, BufferViewList.size_toNat,
    contents, List.length_drop]
  change (answer.discarded + _) % 2 ^ 64 = _
  rw [Nat.add_mod_mod, Nat.add_sub_cancel' fits]

theorem run_of_stops {writeAll : Bool} {descriptor : FileDescriptor} {result : WriteResult}
    (stops : loop.pass writeAll answer = .stops descriptor result)
    (answers : List WritevAnswer) :
    run writeAll loop (answer :: answers) = ⟨descriptor, [loop.call answer], result⟩ := by
  unfold run
  rw [stops]

end WriteLoop

/-! ## Whole runs -/

/-- Results of `writev` for a buffer of some bytes: each is positive and at most what
remains, until nothing remains.  Only for an empty buffer the result is zero. -/
def Delivers : Nat -> List WritevAnswer -> Prop
  | _, [] => False
  | remaining, [answer] => answer.returned.toInt = remaining
  | remaining, answer :: next :: answers =>
      0 < answer.returned.toInt ∧ answer.returned.toInt < remaining ∧
        Delivers (remaining - answer.returned.toInt.toNat) (next :: answers)

instance decidableDelivers : forall remaining answers, Decidable (Delivers remaining answers)
  | _, [] => .isFalse id
  | remaining, [answer] => inferInstanceAs (Decidable (answer.returned.toInt = remaining))
  | remaining, answer :: next :: answers =>
      have := decidableDelivers (remaining - answer.returned.toInt.toNat) (next :: answers)
      inferInstanceAs (Decidable (0 < answer.returned.toInt ∧ answer.returned.toInt < remaining ∧
        Delivers (remaining - answer.returned.toInt.toNat) (next :: answers)))

namespace WriteLoop

end WriteLoop

end Wire
end Sponge
