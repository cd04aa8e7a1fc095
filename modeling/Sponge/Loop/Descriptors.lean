import Sponge.Wire.PartialWrites

namespace Sponge
namespace Loop

open Wire

/-!
# File descriptors with their flags and counters

All copies of a `FileDescriptor` share one `FDWrapper`.  It knows whether the end of
file has been read and whether the descriptor has been closed, and it counts the
reads and writes.  What the kernel does is an answer to the system call: how many bytes
there are, or which error.  It never takes or returns more than was asked for.
-/

structure FDWrapper where
  fd : Int32
  eof : Bool := false
  closed : Bool := false
  readCount : UInt32 := 0
  writeCount : UInt32 := 0
deriving DecidableEq, Repr

/-- The kernel's answer to `read`: an error, or bytes up to the size asked for. -/
inductive ReadAnswer where
  | failed (errno : Int32)
  | returned (bytes : List UInt8)
deriving DecidableEq, Repr

/-- The kernel's answer to `writev`: an error, or as much as it takes at most. -/
inductive WriteAnswer where
  | failed (errno : Int32)
  | took (most : Nat)
deriving DecidableEq, Repr

/-- The kernel's answer to a call that returns nothing else. -/
inductive CallAnswer where
  | failed (errno : Int32)
  | succeeded
deriving DecidableEq, Repr

/-- The exceptions of a descriptor.  A call that the kernel has not answered is blocked. -/
inductive DescriptorFault where
  | writing (fault : WriteFault)
  | readMore
  | lengthError
  | oversized
  | tooBig
  | format (fault : WireFault)
  | blocked
deriving DecidableEq, Repr

def DescriptorFault.what : DescriptorFault -> Option String
  | .writing fault => fault.what
  | .readMore => some "read() read more than requested"
  | .lengthError => none
  | .oversized => some "recvfrom (oversized datagram)"
  | .tooBig => some "datagram payload too big for sendmsg()"
  | .format fault => fault.what
  | .blocked => none

namespace ReadAnswer

/-- What is in the buffer behind the call. -/
def bytes (answer : ReadAnswer) (size : Nat) : List UInt8 :=
  match answer with
  | .failed _ => []
  | .returned bytes => bytes.take size

def returnValue (answer : ReadAnswer) (size : Nat) : Int64 :=
  match answer with
  | .failed _ => -1
  | .returned _ => .ofNat (answer.bytes size).length

def errno : ReadAnswer -> Int32
  | .failed errno => errno
  | .returned _ => 0

end ReadAnswer

namespace WriteAnswer

/-- The bytes that the kernel takes. -/
def taken (answer : WriteAnswer) (data : List UInt8) : List UInt8 :=
  match answer with
  | .failed _ => []
  | .took most => data.take most

/-- What is taken is as much from the front as is taken. -/
theorem taken_eq_take (answer : WriteAnswer) (bytes : List UInt8) (length : Nat) :
    answer.taken (bytes.take length) =
      bytes.take (answer.taken (bytes.take length)).length := by
  cases answer with
  | failed errno => rfl
  | took most =>
      change (bytes.take length).take most = bytes.take ((bytes.take length).take most).length
      rw [List.take_take, List.length_take, List.take_eq_take_iff]
      omega

theorem taken_length_le (answer : WriteAnswer) (data : List UInt8) :
    (answer.taken data).length ≤ data.length := by
  cases answer with
  | failed errno => exact Nat.zero_le _
  | took most => exact List.length_take_le' _ _

def toWritev (answer : WriteAnswer) (data : List UInt8) : WritevAnswer :=
  match answer with
  | .failed errno => { returned := -1, errno := errno }
  | .took _ => { returned := .ofNat (answer.taken data).length }

end WriteAnswer

namespace CallAnswer

def returnValue : CallAnswer -> Int32
  | .failed _ => -1
  | .succeeded => 0

def errno : CallAnswer -> Int32
  | .failed errno => errno
  | .succeeded => 0

end CallAnswer

namespace FDWrapper

def registerRead (wrapper : FDWrapper) : FDWrapper :=
  { wrapper with readCount := wrapper.readCount + 1 }

def registerWrite (wrapper : FDWrapper) : FDWrapper :=
  { wrapper with writeCount := wrapper.writeCount + 1 }

/-- The maximum size of a read. -/
def bufferSize : Nat :=
  1024 * 1024

/-- Read up to `limit` bytes. -/
def read (wrapper : FDWrapper) (limit : Nat) (answer : ReadAnswer) :
    Except DescriptorFault (List UInt8 × FDWrapper) :=
  let sizeToRead := min bufferSize limit
  match systemCall "read" (answer.returnValue sizeToRead).toInt32 answer.errno 0 with
  | .error fault => .error (.writing fault)
  | .ok returnValue =>
      let bytesRead := returnValue.toInt64
      let noted := if limit > 0 ∧ bytesRead = 0 then { wrapper with eof := true } else wrapper
      if bytesRead > .ofNat sizeToRead then .error .readMore
      else if bytesRead < 0 then .error .lengthError
      else .ok ((answer.bytes sizeToRead).take bytesRead.toInt.toNat, noted.registerRead)

/-- Write a string, as much of it as the kernel takes at once. -/
def write (wrapper : FDWrapper) (data : List UInt8) (answer : WriteAnswer) :
    Except DescriptorFault (UInt64 × FDWrapper) :=
  let writing := FileDescriptor.write { writeCount := wrapper.writeCount }
    (BufferViewList.ofString data) false [answer.toWritev data]
  match writing.result with
  | .returned totalBytesWritten =>
      .ok (totalBytesWritten, { wrapper with writeCount := writing.descriptor.writeCount })
  | .thrown fault => .error (.writing fault)
  | .blocked => .error .blocked

def close (wrapper : FDWrapper) (answer : CallAnswer) : Except DescriptorFault FDWrapper :=
  match systemCall "close" answer.returnValue answer.errno 0 with
  | .error fault => .error (.writing fault)
  | .ok _ => .ok { wrapper with eof := true, closed := true }

/-- Shut a socket down for writing. -/
def shutdownWrite (wrapper : FDWrapper) (answer : CallAnswer) : Except DescriptorFault FDWrapper :=
  match systemCall "shutdown" answer.returnValue answer.errno 0 with
  | .error fault => .error (.writing fault)
  | .ok _ => .ok wrapper.registerWrite

/-! ## What the calls do -/

variable {wrapper next : FDWrapper}

/-- A count that goes on by one or two is another one. -/
theorem counted (n : UInt32) : n ≠ n + 1 ∧ n ≠ n + 1 + 1 := by
  constructor <;> intro same <;> have := congrArg UInt32.toNat same <;>
    simp only [UInt32.toNat_add, UInt32.toNat_one] at this <;> omega

/-- A number of bytes that fits into an `int` comes through the system call. -/
theorem narrowed {n : Nat} (small : n < 2 ^ 31) :
    (Int64.ofNat n).toInt32.toInt64 = .ofNat n := by
  rw [← Int64.toInt_inj, Int32.toInt_toInt64, Int64.toInt_toInt32,
    Int64.toInt_ofNat_of_lt (by omega), Int.bmod_def]
  omega

theorem systemCall_zero (attempt : String) (returnValue : Int32) :
    systemCall attempt returnValue 0 0 = .ok returnValue :=
  if_pos (Or.inr rfl)

theorem systemCall_failed (attempt : String) (errno : Int32) :
    systemCall attempt (-1) errno 0 =
      if errno = 0 then .ok (-1) else .error (.unixError attempt errno) := by
  have negative : ¬ (-1 : Int32) ≥ 0 := by decide
  unfold systemCall
  simp only [negative, false_or]

/-- A read that the kernel answers returns the bytes it is given.  No bytes mean the end
of the file, unless none were asked for. -/
theorem read_returned (wrapper : FDWrapper) (limit : Nat) (bytes : List UInt8) :
    wrapper.read limit (.returned bytes) =
      .ok (bytes.take (min bufferSize limit),
        { wrapper.registerRead with
          eof := wrapper.eof ||
            decide (limit > 0 ∧ bytes.take (min bufferSize limit) = []) }) := by
  have size : (bytes.take (min bufferSize limit)).length ≤ min bufferSize limit :=
    List.length_take_le _ _
  have room : min bufferSize limit ≤ 1048576 := Nat.min_le_left _ _
  unfold read
  change (match systemCall "read" (Int64.ofNat (bytes.take (min bufferSize limit)).length).toInt32
    0 0 with
    | .error fault => _
    | .ok returnValue => _) = _
  rw [systemCall_zero]
  dsimp only
  rw [narrowed (by omega)]
  have most : ¬ Int64.ofNat (bytes.take (min bufferSize limit)).length >
      .ofNat (min bufferSize limit) := by
    rw [gt_iff_lt, Int64.lt_iff_toInt_lt, Int64.toInt_ofNat_of_lt (by omega),
      Int64.toInt_ofNat_of_lt (by omega)]
    omega
  have least : ¬ Int64.ofNat (bytes.take (min bufferSize limit)).length < 0 := by
    rw [Int64.lt_iff_toInt_lt, Int64.toInt_ofNat_of_lt (by omega), Int64.toInt_zero]
    omega
  have none : Int64.ofNat (bytes.take (min bufferSize limit)).length = 0 <->
      bytes.take (min bufferSize limit) = [] := by
    rw [← Int64.toInt_inj, Int64.toInt_ofNat_of_lt (by omega), Int64.toInt_zero,
      ← List.length_eq_zero_iff]
    omega
  rw [if_neg most, if_neg least, Int64.toInt_ofNat_of_lt (by omega), Int.toNat_natCast]
  change Except.ok ((bytes.take (min bufferSize limit)).take _, _) = _
  rw [List.take_of_length_le (Nat.le_refl _)]
  by_cases ends : limit > 0 ∧ bytes.take (min bufferSize limit) = []
  · rw [if_pos ⟨ends.1, none.mpr ends.2⟩, decide_eq_true ends, Bool.or_true]
    rfl
  · rw [if_neg fun other => ends ⟨other.1, none.mp other.2⟩, decide_eq_false ends, Bool.or_false]
    rfl

theorem read_failed (wrapper : FDWrapper) (limit : Nat) (errno : Int32) :
    Exists fun fault => wrapper.read limit (.failed errno) = .error fault := by
  have called : systemCall "read"
      ((ReadAnswer.failed errno).returnValue (min bufferSize limit)).toInt32
      (ReadAnswer.failed errno).errno 0 =
        if errno = 0 then .ok (-1) else .error (.unixError "read" errno) :=
    systemCall_failed "read" errno
  unfold read
  dsimp only
  rw [called]
  by_cases unset : errno = 0
  · -- Without an error number the negative result is the new size of the string.
    have most : ¬ (-1 : Int32).toInt64 > .ofNat (min bufferSize limit) := by
      have room : min bufferSize limit ≤ 1048576 := Nat.min_le_left _ _
      rw [gt_iff_lt, Int64.lt_iff_toInt_lt, Int64.toInt_ofNat_of_lt (by omega)]
      change ¬ ((min bufferSize limit : Nat) : Int) < -1
      omega
    rw [if_pos unset]
    dsimp only
    rw [if_neg most, if_pos (by decide)]
    exact ⟨_, rfl⟩
  · rw [if_neg unset]
    exact ⟨_, rfl⟩

theorem read_not_format {limit : Nat} {answer : ReadAnswer} {fault : WireFault} :
    wrapper.read limit answer ≠ .error (.format fault) := by
  intro failed
  unfold read at failed
  dsimp only at failed
  repeat' split at failed
  all_goals cases failed

theorem write_not_format {data : List UInt8} {answer : WriteAnswer} {fault : WireFault} :
    wrapper.write data answer ≠ .error (.format fault) := by
  intro failed
  unfold write at failed
  dsimp only at failed
  repeat' split at failed
  all_goals cases failed

theorem shutdownWrite_not_format {answer : CallAnswer} {fault : WireFault} :
    wrapper.shutdownWrite answer ≠ .error (.format fault) := by
  intro failed
  unfold shutdownWrite at failed
  split at failed
  · cases failed
  · cases failed

theorem shutdownWrite_ok {answer : CallAnswer} (done : wrapper.shutdownWrite answer = .ok next) :
    next = wrapper.registerWrite := by
  unfold shutdownWrite at done
  split at done
  · cases done
  · cases done
    rfl

/-- The call of `writev` for a string. -/
def writeLoop (wrapper : FDWrapper) (data : List UInt8) : WriteLoop where
  descriptor := { writeCount := wrapper.writeCount }
  buffer := BufferViewList.ofString data

theorem write_of_thrown {data : List UInt8} {answer : WriteAnswer} {descriptor : FileDescriptor}
    {fault : WriteFault}
    (stops : (wrapper.writeLoop data).pass false (answer.toWritev data) =
      .stops descriptor (.thrown fault)) :
    wrapper.write data answer = .error (.writing fault) := by
  have run : FileDescriptor.write { writeCount := wrapper.writeCount }
      (BufferViewList.ofString data) false [answer.toWritev data] = _ :=
    WriteLoop.run_of_stops stops []
  unfold write
  rw [run]

theorem write_failed (wrapper : FDWrapper) {data : List UInt8} (errno : Int32)
    (small : data.length < 2 ^ 31) :
    Exists fun fault => wrapper.write data (.failed errno) = .error fault := by
  have sized : (wrapper.writeLoop data).buffer.contents.length < 2 ^ 63 := by
    unfold writeLoop
    rw [BufferViewList.ofString_contents]
    omega
  have negative : (-1 : Int64).toInt32.toInt64.toInt < 0 := by decide
  by_cases unset : errno = 0
  · exact ⟨_, write_of_thrown (WriteLoop.pass_of_negative false sized negative unset)⟩
  · have fails : ¬ (((WriteAnswer.failed errno).toWritev data).returned.toInt32 ≥ 0 ∨
        ((WriteAnswer.failed errno).toWritev data).errno = 0) := by
      rintro (nonneg | zero)
      · have negative : ¬ (-1 : Int64).toInt32 ≥ 0 := by decide
        exact negative nonneg
      · exact unset zero
    have stops : (wrapper.writeLoop data).pass false ((WriteAnswer.failed errno).toWritev data) =
        .stops { writeCount := wrapper.writeCount } (.thrown (.unixError "writev" errno)) := by
      rw [WriteLoop.pass_eq, if_neg fails]
      rfl
    exact ⟨_, write_of_thrown stops⟩

/-- A write throws and the kernel has taken nothing, or what it has taken is counted. -/
theorem write_cases (wrapper : FDWrapper) {data : List UInt8} (answer : WriteAnswer)
    (small : data.length < 2 ^ 31) :
    (Exists fun fault => wrapper.write data answer = .error fault ∧ answer.taken data = []) ∨
      wrapper.write data answer =
        .ok (.ofNat (answer.taken data).length, wrapper.registerWrite) := by
  cases answer with
  | failed errno =>
      rcases wrapper.write_failed errno small with ⟨fault, failed⟩
      exact Or.inl ⟨fault, failed, rfl⟩
  | took most =>
      have sized : (wrapper.writeLoop data).buffer.contents.length = data.length := by
        unfold writeLoop
        rw [BufferViewList.ofString_contents]
      have fits : (data.take most).length ≤ data.length := List.length_take_le' _ _
      have returned : ((WriteAnswer.took most).toWritev data).returned.toInt =
          (data.take most).length := by
        change (Int64.ofNat (data.take most).length).toInt = _
        rw [Int64.toInt_ofNat_of_lt (by omega)]
      by_cases none : (data.take most).length = 0 ∧ data.length ≠ 0
      · left
        have zero : ((WriteAnswer.took most).toWritev data).returned = 0 := by
          rw [← Int64.toInt_inj, returned, none.1]
          rfl
        have some : (wrapper.writeLoop data).buffer.size ≠ 0 := by
          rw [ne_eq, ← UInt64.toNat_inj, BufferViewList.size_toNat, sized]
          change ¬ data.length % 2 ^ 64 = 0
          omega
        have stops : (wrapper.writeLoop data).pass false ((WriteAnswer.took most).toWritev data) =
            .stops { writeCount := wrapper.writeCount } (.thrown .returnedZero) := by
          have unset : ((WriteAnswer.took most).toWritev data).errno = 0 := rfl
          rw [WriteLoop.pass_eq, if_pos (Or.inr unset)]
          unfold WritevAnswer.bytesWritten
          rw [zero]
          exact if_pos ⟨by decide, some⟩
        exact ⟨_, write_of_thrown stops, List.length_eq_zero_iff.mp none.1⟩
      · right
        rcases @WriteLoop.trims_of_fits (wrapper.writeLoop data)
          ((WriteAnswer.took most).toWritev data) (by omega) (by omega) (by omega)
          (by omega) (by omega) with ⟨passes, discarded, buffer, trims⟩
        have stops := WriteLoop.pass_of_trims false (Or.inl passes) trims
        unfold WriteLoop.onward at stops
        dsimp only at stops
        rw [if_neg (fun again => Bool.false_ne_true again.1)] at stops
        have run : FileDescriptor.write { writeCount := wrapper.writeCount }
            (BufferViewList.ofString data) false [(WriteAnswer.took most).toWritev data] = _ :=
          WriteLoop.run_of_stops stops []
        have total : 0 + ((WriteAnswer.took most).toWritev data).bytesWritten.toUInt64 =
            .ofNat (data.take most).length := by
          rw [UInt64.zero_add, ← UInt64.toNat_inj, UInt64.toNat_ofNat']
          change WritevAnswer.discarded _ = _
          omega
        unfold write
        rw [run]
        change Except.ok (0 + _, _) = _
        rw [total]
        rfl

theorem write_ok {data : List UInt8} {answer : WriteAnswer} {count : UInt64}
    (small : data.length < 2 ^ 31) (done : wrapper.write data answer = .ok (count, next)) :
    count = .ofNat (answer.taken data).length ∧ next = wrapper.registerWrite := by
  rcases wrapper.write_cases answer small with ⟨fault, failed, _⟩ | wrote
  · cases failed.symm.trans done
  · cases wrote.symm.trans done
    exact ⟨rfl, rfl⟩

end FDWrapper
end Loop
end Sponge
