import Sponge.Foundation.BigEndian

namespace Sponge
namespace Wire

open Foundation

/-!
# Buffers, and reading and writing integers in network byte order

A buffer is the byte string it shows; that several buffers share one storage
cannot be observed.  A `NetParser` takes integers off the front of a buffer.
Its first error stays, and once there is one it consumes nothing more.
Accesses outside a buffer are faults, so that their absence can be stated.
-/

/-- The exceptions that parsing and serializing can throw. -/
inductive WireFault where
  | viewOutOfRange
  | bufferRemovePrefix
  | manyBuffers
  | tcpHeaderTooShort
  | wrongIPVersion
  | ipHeaderTooShort
  | payloadWrongSize
deriving DecidableEq, Repr

/-- The text of a thrown exception.  That of a bad index into a view is up to
the standard library. -/
def WireFault.what : WireFault -> Option String
  | .viewOutOfRange => none
  | .bufferRemovePrefix => some "Buffer::remove_prefix"
  | .manyBuffers => some
      "BufferList: please use concatenate() to combine a multi-Buffer BufferList into one Buffer"
  | .tcpHeaderTooShort => some "TCP header too short"
  | .wrongIPVersion => some "wrong IP version"
  | .ipHeaderTooShort => some "IP header too short"
  | .payloadWrongSize => some "IPv4Datagram::serialize: payload is wrong size"

/-! ## Buffers -/

namespace Buffer

/-- The byte at a location. -/
def byteAt (buffer : List UInt8) (n : Nat) : Except WireFault UInt8 :=
  match buffer[n]? with
  | some byte => .ok byte
  | none => .error .viewOutOfRange

/-- Discard the first bytes. -/
def removePrefix (buffer : List UInt8) (n : Nat) : Except WireFault (List UInt8) :=
  if n > buffer.length then .error .bufferRemovePrefix else .ok (buffer.drop n)

theorem removePrefix_append {skipped : List UInt8} {n : Nat} (length : skipped.length = n)
    (rest : List UInt8) : removePrefix (skipped ++ rest) n = .ok rest := by
  unfold removePrefix
  rw [if_neg (by simp [length]), List.drop_left' length]

end Buffer

/-- A discontiguous string. -/
structure BufferList where
  buffers : List (List UInt8) := []
deriving DecidableEq, Repr

namespace BufferList

def ofBuffer (buffer : List UInt8) : BufferList :=
  ⟨[buffer]⟩

def append (list other : BufferList) : BufferList :=
  ⟨other.buffers.foldl (fun buffers buffer => buffers ++ [buffer]) list.buffers⟩

/-- The conversion to a buffer, which throws unless the list is contiguous. -/
def toBuffer (list : BufferList) : Except WireFault (List UInt8) :=
  match list.buffers with
  | [] => .ok []
  | [buffer] => .ok buffer
  | _ => .error .manyBuffers

def concatenate (list : BufferList) : List UInt8 :=
  list.buffers.foldl (fun ret buffer => ret ++ buffer) []

def size (list : BufferList) : Nat :=
  list.buffers.foldl (fun ret buffer => ret + buffer.length) 0

theorem append_buffers (list other : BufferList) :
    (list.append other).buffers = list.buffers ++ other.buffers := by
  have pushed (front buffers : List (List UInt8)) :
      buffers.foldl (fun list buffer => list ++ [buffer]) front = front ++ buffers := by
    induction buffers generalizing front with
    | nil => rw [List.foldl_nil, List.append_nil]
    | cons buffer buffers ih =>
        rw [List.foldl_cons, ih, List.append_assoc, List.singleton_append]
  exact pushed list.buffers other.buffers

theorem concatenate_eq (list : BufferList) : list.concatenate = list.buffers.flatten := by
  unfold concatenate
  rw [List.foldl_append_eq_append, List.nil_append]
  simp

theorem size_eq (list : BufferList) : list.size = list.concatenate.length := by
  rw [concatenate_eq]
  have counted (buffers : List (List UInt8)) (total : Nat) :
      buffers.foldl (fun ret buffer => ret + buffer.length) total =
        total + buffers.flatten.length := by
    induction buffers generalizing total with
    | nil => rfl
    | cons buffer buffers ih => simp [ih, Nat.add_assoc]
  unfold size
  rw [counted, Nat.zero_add]

end BufferList

/-! ## Parsing -/

/-- The result of parsing or unparsing. -/
inductive ParseResult where
  | noError
  | badChecksum
  | packetTooShort
  | wrongIPVersion
  | headerTooShort
  | truncatedPacket
  | unsupported
deriving DecidableEq, Repr

structure NetParser where
  buffer : List UInt8
  error : ParseResult := .noError
deriving DecidableEq, Repr

namespace NetParser

def hasError (p : NetParser) : Bool :=
  p.error ≠ .noError

/-- Check that there is enough data for the next token. -/
def checkSize (p : NetParser) (size : Nat) : NetParser :=
  if size > p.buffer.length then { p with error := .packetTooShort } else p

/-- The loop that puts an integer of a width together, with the bytes still
to be read and the integer so far. -/
def parseLoop (p : NetParser) (len : Nat) : Nat -> Nat -> Except WireFault Nat
  | 0, ret => .ok ret
  | left + 1, ret => do
      let byte <- Buffer.byteAt p.buffer (len - (left + 1))
      p.parseLoop len left ((ret * 256 + byte.toNat) % 256 ^ len)

/-- Generic integer parsing; zero once there is an error. -/
def parseInt (p : NetParser) (len : Nat) : Except WireFault (Nat × NetParser) :=
  if (p.checkSize len).hasError then .ok (0, p.checkSize len)
  else do
    let ret <- (p.checkSize len).parseLoop len len 0
    let buffer <- Buffer.removePrefix (p.checkSize len).buffer len
    return (ret, { p.checkSize len with buffer := buffer })

def u32 (p : NetParser) : Except WireFault (UInt32 × NetParser) := do
  let (ret, p) <- p.parseInt 4
  return (UInt32.ofNat ret, p)

def u16 (p : NetParser) : Except WireFault (UInt16 × NetParser) := do
  let (ret, p) <- p.parseInt 2
  return (UInt16.ofNat ret, p)

def u8 (p : NetParser) : Except WireFault (UInt8 × NetParser) := do
  let (ret, p) <- p.parseInt 1
  return (UInt8.ofNat ret, p)

/-- Remove bytes from the buffer. -/
def removePrefix (p : NetParser) (n : Nat) : Except WireFault NetParser :=
  if (p.checkSize n).hasError then .ok (p.checkSize n)
  else do
    let buffer <- Buffer.removePrefix (p.checkSize n).buffer n
    return { p.checkSize n with buffer := buffer }

theorem checkSize_of_le {p : NetParser} {size : Nat} (enough : size ≤ p.buffer.length) :
    p.checkSize size = p :=
  if_neg (Nat.not_lt_of_le enough)

/-- The loop reads what stands in front, behind what it has read already. -/
theorem parseLoop_append (before bytes rest : List UInt8) :
    (NetParser.mk (before ++ bytes ++ rest) .noError).parseLoop (before ++ bytes).length
        bytes.length (fromBigEndian 0 before) =
      .ok (fromBigEndian 0 (before ++ bytes)) := by
  induction bytes generalizing before with
  | nil => simp [parseLoop]
  | cons byte bytes ih =>
      have found : Buffer.byteAt (before ++ byte :: bytes ++ rest)
          ((before ++ byte :: bytes).length - (bytes.length + 1)) = .ok byte := by
        simp [Buffer.byteAt]
      have shifted : before ++ byte :: bytes = (before ++ [byte]) ++ bytes := by simp
      have next : fromBigEndian 0 before * 256 + byte.toNat = fromBigEndian 0 (before ++ [byte]) := by
        simp [fromBigEndian]
      have small : fromBigEndian 0 (before ++ [byte]) < 256 ^ (before ++ byte :: bytes).length := by
        have bound := fromBigEndian_lt (before ++ [byte]) (Nat.pow_pos (n := 0) (Nat.succ_pos 255))
        refine Nat.lt_of_lt_of_le bound (Nat.pow_le_pow_right (Nat.succ_pos 255) ?_)
        simp
      rw [List.length_cons, parseLoop, found]
      change NetParser.parseLoop _ _ _ _ = _
      rw [next, Nat.mod_eq_of_lt small, shifted]
      exact ih (before ++ [byte])

/-- The integer in front of the buffer is read and taken off. -/
theorem parseInt_append {bytes : List UInt8} {len : Nat} (length : bytes.length = len)
    (rest : List UInt8) :
    (NetParser.mk (bytes ++ rest) .noError).parseInt len =
      .ok (fromBigEndian 0 bytes, ⟨rest, .noError⟩) := by
  have enough : len ≤ (bytes ++ rest).length := by simp [length]
  have loop := parseLoop_append [] bytes rest
  simp only [List.nil_append, length, fromBigEndian_nil] at loop
  unfold parseInt
  rw [checkSize_of_le enough, if_neg (by simp [hasError]), loop,
    Buffer.removePrefix_append length]
  rfl

/-- A written integer is read back, and what follows it is left. -/
theorem parseInt_bigEndian {len value : Nat} (small : value < 256 ^ len) (rest : List UInt8) :
    (NetParser.mk (bigEndian len value ++ rest) .noError).parseInt len =
      .ok (value, ⟨rest, .noError⟩) := by
  rw [parseInt_append (bigEndian_length len value), fromBigEndian_bigEndian, Nat.zero_mul,
    Nat.zero_add, Nat.mod_eq_of_lt small]

@[simp] theorem u32_bigEndian (value : UInt32) (rest : List UInt8) :
    (NetParser.mk (bigEndian 4 value.toNat ++ rest) .noError).u32 =
      .ok (value, ⟨rest, .noError⟩) := by
  unfold u32
  rw [parseInt_bigEndian value.toNat_lt]
  simp [bind, Except.bind, pure, Except.pure]

@[simp] theorem u16_bigEndian (value : UInt16) (rest : List UInt8) :
    (NetParser.mk (bigEndian 2 value.toNat ++ rest) .noError).u16 =
      .ok (value, ⟨rest, .noError⟩) := by
  unfold u16
  rw [parseInt_bigEndian value.toNat_lt]
  simp [bind, Except.bind, pure, Except.pure]

@[simp] theorem u8_bigEndian (value : UInt8) (rest : List UInt8) :
    (NetParser.mk (bigEndian 1 value.toNat ++ rest) .noError).u8 =
      .ok (value, ⟨rest, .noError⟩) := by
  unfold u8
  rw [parseInt_bigEndian value.toNat_lt]
  simp [bind, Except.bind, pure, Except.pure]

/-- What taking bytes off does to a parser. -/
def skip (p : NetParser) (n : Nat) : NetParser :=
  if (p.checkSize n).hasError then p.checkSize n else { p with buffer := p.buffer.drop n }

/-- The integer that is read next; zero if there is an error. -/
def peek (p : NetParser) (len : Nat) : Nat :=
  if (p.checkSize len).hasError then 0 else fromBigEndian 0 (p.buffer.take len)

@[simp] theorem hasError_iff (p : NetParser) : p.hasError = true <-> p.error ≠ .noError :=
  decide_eq_true_iff

/-- Without an error the check has found enough data. -/
theorem checkSize_of_hasError {p : NetParser} {n : Nat} (fine : ¬ (p.checkSize n).hasError = true) :
    n ≤ p.buffer.length ∧ p.error = .noError := by
  rw [hasError_iff, not_not] at fine
  unfold checkSize at fine
  split at fine
  · cases fine
  · rename_i enough
    exact ⟨Nat.le_of_not_lt enough, fine⟩

theorem removePrefix_eq (p : NetParser) (n : Nat) : p.removePrefix n = .ok (p.skip n) := by
  unfold removePrefix skip
  split
  · rfl
  · rename_i fine
    have enough := (checkSize_of_hasError fine).1
    rw [checkSize_of_le enough]
    unfold Buffer.removePrefix
    rw [if_neg (Nat.not_lt_of_le enough)]
    rfl

/-- Reading an integer never faults. -/
theorem parseInt_eq (p : NetParser) (len : Nat) : p.parseInt len = .ok (p.peek len, p.skip len) := by
  by_cases failed : (p.checkSize len).hasError = true
  · unfold parseInt peek skip
    rw [if_pos failed, if_pos failed, if_pos failed]
  · rcases checkSize_of_hasError failed with ⟨enough, clean⟩
    have reads := parseInt_append (List.length_take_of_le enough) (p.buffer.drop len)
    rw [List.take_append_drop, ← clean] at reads
    unfold peek skip
    rw [if_neg failed, if_neg failed]
    exact reads

theorem u32_eq (p : NetParser) : p.u32 = .ok (UInt32.ofNat (p.peek 4), p.skip 4) := by
  unfold u32
  rw [parseInt_eq]
  rfl

theorem u16_eq (p : NetParser) : p.u16 = .ok (UInt16.ofNat (p.peek 2), p.skip 2) := by
  unfold u16
  rw [parseInt_eq]
  rfl

theorem u8_eq (p : NetParser) : p.u8 = .ok (UInt8.ofNat (p.peek 1), p.skip 1) := by
  unfold u8
  rw [parseInt_eq]
  rfl

theorem peek_of_le {buffer : List UInt8} {len : Nat} (enough : len ≤ buffer.length) :
    (NetParser.mk buffer .noError).peek len = fromBigEndian 0 (buffer.take len) := by
  unfold peek
  rw [checkSize_of_le enough]
  rfl

/-- A parser from which a number of bytes have been taken off, or which has
met an error on the way. -/
structure Consumed (p : NetParser) (n : Nat) (q : NetParser) : Prop where
  error_iff : q.error = .noError <-> p.error = .noError ∧ n ≤ p.buffer.length
  buffer_eq : q.error = .noError -> q.buffer = p.buffer.drop n

theorem consumed_refl (p : NetParser) : p.Consumed 0 p :=
  ⟨⟨fun clean => ⟨clean, Nat.zero_le _⟩, fun both => both.1⟩, fun _ => rfl⟩

theorem Consumed.skip {p q : NetParser} {n : Nat} (consumed : p.Consumed n q) (m : Nat) :
    p.Consumed (n + m) (q.skip m) := by
  by_cases failed : (q.checkSize m).hasError = true
  · have same : q.skip m = q.checkSize m := if_pos failed
    have broken : ¬ (q.skip m).error = .noError := by
      rw [same]
      exact (hasError_iff _).mp failed
    refine ⟨⟨fun clean => absurd clean broken, ?_⟩, fun clean => absurd clean broken⟩
    rintro ⟨clean, enough⟩
    have before := consumed.error_iff.mpr ⟨clean, by omega⟩
    have length : m ≤ q.buffer.length := by
      rw [consumed.buffer_eq before, List.length_drop]
      omega
    rw [checkSize_of_le length, hasError_iff] at failed
    exact absurd before failed
  · rcases checkSize_of_hasError failed with ⟨enough, clean⟩
    have before := consumed.error_iff.mp clean
    have same : q.skip m = { q with buffer := q.buffer.drop m } := if_neg failed
    rw [consumed.buffer_eq clean, List.length_drop] at enough
    rw [same]
    refine ⟨⟨fun _ => ⟨before.1, by omega⟩, fun _ => clean⟩, fun _ => ?_⟩
    rw [← List.drop_drop, ← consumed.buffer_eq clean]

/-- With enough data there is no error, and the rest is left. -/
theorem Consumed.eq_of_le {buffer : List UInt8} {n : Nat} {q : NetParser}
    (consumed : Consumed ⟨buffer, .noError⟩ n q) (enough : n ≤ buffer.length) :
    q = ⟨buffer.drop n, .noError⟩ := by
  have clean := consumed.error_iff.mpr ⟨rfl, enough⟩
  have rest := consumed.buffer_eq clean
  cases q
  dsimp only at clean rest
  rw [clean, rest]

/-- Several reads or skips, one after the other. -/
def skips (p : NetParser) (widths : List Nat) : NetParser :=
  widths.foldl skip p

theorem consumed_skips (p : NetParser) (widths : List Nat) :
    p.Consumed widths.sum (p.skips widths) := by
  have onward (q : NetParser) (n : Nat) (consumed : p.Consumed n q) :
      p.Consumed (n + widths.sum) (q.skips widths) := by
    induction widths generalizing q n with
    | nil => exact consumed
    | cons width widths ih =>
        rw [List.sum_cons, ← Nat.add_assoc]
        exact ih (q.skip width) (n + width) (consumed.skip width)
  have all := onward p 0 p.consumed_refl
  rwa [Nat.zero_add] at all

theorem removePrefix_append {skipped : List UInt8} {n : Nat} (length : skipped.length = n)
    (rest : List UInt8) :
    (NetParser.mk (skipped ++ rest) .noError).removePrefix n = .ok ⟨rest, .noError⟩ := by
  have enough : n ≤ (skipped ++ rest).length := by simp [length]
  unfold removePrefix
  rw [checkSize_of_le enough, if_neg (by simp [hasError]), Buffer.removePrefix_append length]
  rfl

end NetParser

/-! ## Unparsing -/

namespace NetUnparser

/-- The loop that writes an integer, with the bytes still to be written. -/
def unparseLoop (val : Nat) : Nat -> List UInt8 -> List UInt8
  | 0, s => s
  | left + 1, s => unparseLoop val left (s ++ [UInt8.ofNat (val >>> (left * 8) &&& 0xff)])

def u32 (s : List UInt8) (val : UInt32) : List UInt8 :=
  unparseLoop val.toNat 4 s

def u16 (s : List UInt8) (val : UInt16) : List UInt8 :=
  unparseLoop val.toNat 2 s

def u8 (s : List UInt8) (val : UInt8) : List UInt8 :=
  unparseLoop val.toNat 1 s

theorem unparseLoop_eq (val left : Nat) (s : List UInt8) :
    unparseLoop val left s = s ++ bigEndian left val := by
  induction left generalizing s with
  | zero => simp [unparseLoop, bigEndian]
  | succ left ih =>
      have digit : UInt8.ofNat (val >>> (left * 8) &&& 0xff) = UInt8.ofNat (val / 256 ^ left) := by
        apply UInt8.toNat_inj.mp
        have low : val >>> (left * 8) &&& 0xff = val / 256 ^ left % 256 := by
          rw [Nat.and_two_pow_sub_one_eq_mod _ 8, Nat.shiftRight_eq_div_pow, Nat.mul_comm,
            Nat.pow_mul]
        rw [low, UInt8.toNat_ofNat', UInt8.toNat_ofNat', Nat.mod_mod]
      rw [unparseLoop, ih, digit, bigEndian, List.append_assoc, List.singleton_append]

@[simp] theorem u32_eq (s : List UInt8) (val : UInt32) : u32 s val = s ++ bigEndian 4 val.toNat :=
  unparseLoop_eq _ _ _

@[simp] theorem u16_eq (s : List UInt8) (val : UInt16) : u16 s val = s ++ bigEndian 2 val.toNat :=
  unparseLoop_eq _ _ _

@[simp] theorem u8_eq (s : List UInt8) (val : UInt8) : u8 s val = s ++ bigEndian 1 val.toNat :=
  unparseLoop_eq _ _ _

end NetUnparser
end Wire
end Sponge
