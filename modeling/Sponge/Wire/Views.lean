import Sponge.Wire.Parsing

namespace Sponge
namespace Wire

/-!
# Discarding bytes from the front of a discontiguous string

A `BufferList` owns its chunks, a `BufferViewList` looks at the chunks of others.
Both have the same `remove_prefix`: it pops chunks as long as the prefix covers
them, and trims the one in which the prefix ends.  `size` is summed up in 64 bits,
while the loop counts down the bytes it meets, so that the two agree on what is too
long a prefix short of `2^64` bytes.
-/

/-- The exceptions that discarding bytes can throw. -/
inductive PrefixFault where
  | buffer (fault : WireFault)
  | bufferList
  | bufferViewList
deriving DecidableEq, Repr

def PrefixFault.what : PrefixFault -> Option String
  | .buffer fault => fault.what
  | .bufferList => some "BufferList::remove_prefix"
  | .bufferViewList => some "BufferListView::remove_prefix"

/-! ## Chunks -/

/-- The sum of the chunks' sizes, as a `size_t`. -/
def chunksSize (chunks : List (List UInt8)) : UInt64 :=
  chunks.foldl (fun ret chunk => ret + UInt64.ofNat chunk.length) 0

/-- The loop of `remove_prefix`, with the function that trims a chunk and the
exception for a prefix that is too long. -/
def removePrefixLoop (trim : List UInt8 -> Nat -> Except PrefixFault (List UInt8))
    (fault : PrefixFault) : Nat -> List (List UInt8) -> Except PrefixFault (List (List UInt8))
  | n, [] => if 0 < n then .error fault else .ok []
  | n, front :: rest =>
      if 0 < n then
        if n < front.length then do
          let trimmed <- trim front n
          return trimmed :: rest
        else removePrefixLoop trim fault (n - front.length) rest
      else .ok (front :: rest)

theorem chunksSize_toNat (chunks : List (List UInt8)) :
    (chunksSize chunks).toNat = chunks.flatten.length % 2 ^ 64 := by
  have counted (total : UInt64) :
      (chunks.foldl (fun ret chunk => ret + UInt64.ofNat chunk.length) total).toNat =
        (total.toNat + chunks.flatten.length) % 2 ^ 64 := by
    induction chunks generalizing total with
    | nil => simp
    | cons chunk chunks ih =>
        rw [List.foldl_cons, ih]
        simp [Nat.add_assoc]
  unfold chunksSize
  rw [counted]
  simp

section

variable {trim : List UInt8 -> Nat -> Except PrefixFault (List UInt8)} {fault : PrefixFault}

/-- A prefix that is no longer than the chunks together is discarded. -/
theorem removePrefixLoop_of_le
    (trims : forall chunk n, n < chunk.length -> trim chunk n = .ok (chunk.drop n))
    {chunks : List (List UInt8)} {n : Nat} (fits : n ≤ chunks.flatten.length) :
    Exists fun rest => removePrefixLoop trim fault n chunks = .ok rest ∧
      rest.flatten = chunks.flatten.drop n := by
  induction chunks generalizing n with
  | nil =>
      have none : n = 0 := Nat.eq_zero_of_le_zero fits
      subst none
      exact ⟨[], rfl, rfl⟩
  | cons front rest ih =>
      unfold removePrefixLoop
      rw [List.flatten_cons, List.length_append] at fits
      by_cases some : 0 < n
      · rw [if_pos some]
        by_cases inside : n < front.length
        · rw [if_pos inside, trims front n inside]
          refine ⟨front.drop n :: rest, rfl, ?_⟩
          rw [List.flatten_cons, List.flatten_cons, List.drop_append_of_le_length inside.le]
        · rw [if_neg inside]
          have covered : front.length ≤ n := Nat.le_of_not_lt inside
          rcases ih (n := n - front.length) (by omega) with ⟨left, removed, contents⟩
          refine ⟨left, removed, ?_⟩
          rw [contents, List.flatten_cons, List.drop_append, List.drop_of_length_le covered,
            List.nil_append]
      · rw [if_neg some]
        have none : n = 0 := Nat.eq_zero_of_not_pos some
        subst none
        exact ⟨front :: rest, rfl, rfl⟩

/-- A prefix that is longer throws. -/
theorem removePrefixLoop_of_lt {chunks : List (List UInt8)} {n : Nat}
    (long : chunks.flatten.length < n) : removePrefixLoop trim fault n chunks = .error fault := by
  induction chunks generalizing n with
  | nil =>
      unfold removePrefixLoop
      exact if_pos long
  | cons front rest ih =>
      rw [List.flatten_cons, List.length_append] at long
      unfold removePrefixLoop
      rw [if_pos (by omega), if_neg (by omega)]
      exact ih (by omega)

end

namespace BufferList

/-- `Buffer::remove_prefix` on the buffer in front. -/
def trimFront (buffer : List UInt8) (n : Nat) : Except PrefixFault (List UInt8) :=
  match Buffer.removePrefix buffer n with
  | .error fault => .error (.buffer fault)
  | .ok trimmed => .ok trimmed

/-- Discard the first bytes of the string. -/
def removePrefix (list : BufferList) (n : UInt64) : Except PrefixFault BufferList := do
  let buffers <- removePrefixLoop trimFront .bufferList n.toNat list.buffers
  return ⟨buffers⟩

end BufferList

/-! ## Lists of views -/

/-- A view of a discontiguous string.  A view is the bytes it shows. -/
structure BufferViewList where
  views : List (List UInt8)
deriving DecidableEq, Repr

namespace BufferViewList

/-- The views of a string. -/
def ofString (str : List UInt8) : BufferViewList :=
  ⟨[str]⟩

/-- One view for each buffer. -/
def ofBufferList (list : BufferList) : BufferViewList :=
  ⟨list.buffers⟩

def size (list : BufferViewList) : UInt64 :=
  chunksSize list.views

/-- `remove_prefix` of a `string_view`. -/
def trimFront (view : List UInt8) (n : Nat) : Except PrefixFault (List UInt8) :=
  .ok (view.drop n)

/-- Discard the first bytes of the string. -/
def removePrefix (list : BufferViewList) (n : UInt64) : Except PrefixFault BufferViewList := do
  let views <- removePrefixLoop trimFront .bufferViewList n.toNat list.views
  return ⟨views⟩

/-- The memory that the views show, for a system call. -/
def asIovecs (list : BufferViewList) : List (List UInt8) :=
  list.views

/-- All bytes of the views. -/
def contents (list : BufferViewList) : List UInt8 :=
  list.views.flatten

theorem ofString_contents (str : List UInt8) : (ofString str).contents = str :=
  List.append_nil str

theorem size_toNat (list : BufferViewList) :
    list.size.toNat = list.contents.length % 2 ^ 64 :=
  chunksSize_toNat list.views

/-- The size as an `ssize_t`. -/
theorem size_toInt64 (list : BufferViewList) :
    list.size.toInt64.toInt = (list.contents.length : Int).bmod (2 ^ 64) := by
  have bits : list.size.toInt64.toInt = (list.size.toNat : Int).bmod (2 ^ 64) :=
    BitVec.toInt_eq_toNat_bmod _
  rw [bits, size_toNat, Int.bmod_def, Int.bmod_def]
  omega

theorem removePrefix_of_le {list : BufferViewList} {n : UInt64}
    (fits : n.toNat ≤ list.contents.length) :
    Exists fun rest => list.removePrefix n = .ok rest ∧
      rest.contents = list.contents.drop n.toNat := by
  have trims : forall view n, n < view.length -> trimFront view n = .ok (view.drop n) :=
    fun _ _ _ => rfl
  rcases removePrefixLoop_of_le trims fits with ⟨rest, removed, contents⟩
  refine ⟨⟨rest⟩, ?_, contents⟩
  unfold removePrefix
  rw [removed]
  rfl

theorem removePrefix_of_lt {list : BufferViewList} {n : UInt64}
    (long : list.contents.length < n.toNat) :
    list.removePrefix n = .error .bufferViewList := by
  unfold removePrefix
  rw [removePrefixLoop_of_lt long]
  rfl

end BufferViewList
end Wire
end Sponge
