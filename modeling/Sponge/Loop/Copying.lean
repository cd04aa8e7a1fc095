import Sponge.Loop.StreamCopy

namespace Sponge
namespace Loop

open Bytes Foundation Wire

/-!
# What is copied

Whatever the kernel answers and wherever an exception is thrown, what has been written
is the beginning of what has been read, in both ways.
-/

namespace Flow

/-- What has been taken and what is still in the stream are the beginning of what has been
delivered, and all of it as long as the input has not ended. -/
structure Ordered (flow : Flow) : Prop where
  begins : flow.taken ++ flow.stream.contents <+: flow.delivered
  whole : flow.stream.endFlag = false -> flow.taken ++ flow.stream.contents = flow.delivered

/-- The stream behind a read. -/
theorem read_stream (stream : ByteStream) (bytes : List UInt8) (ends : Bool) :
    (if ends then (stream.write bytes).1.endInput else (stream.write bytes).1).capacity =
        stream.capacity ∧
      (if ends then (stream.write bytes).1.endInput else (stream.write bytes).1).error =
        stream.error ∧
      (if ends then (stream.write bytes).1.endInput else (stream.write bytes).1).contents =
        stream.contents ++ stream.accepted bytes ∧
      (if ends then (stream.write bytes).1.endInput else (stream.write bytes).1).endFlag =
        (stream.endFlag || ends) := by
  have contents := stream.write_contents bytes
  have ended := stream.write_endFlag bytes
  cases ends with
  | false => exact ⟨stream.write_capacity bytes, stream.write_error bytes, contents, by simp⟩
  | true => exact ⟨stream.write_capacity bytes, stream.write_error bytes, contents, by simp; rfl⟩

/-- The bytes of a read are in the stream or behind its end. -/
theorem Ordered.read {flow : Flow} (ordered : Ordered flow) {bytes : List UInt8}
    (fits : bytes.length ≤ flow.stream.remainingCapacity) (ends : Bool) :
    Ordered { flow with
      stream := if ends then (flow.stream.write bytes).1.endInput else (flow.stream.write bytes).1
      delivered := flow.delivered ++ bytes } := by
  rcases read_stream flow.stream bytes ends with ⟨_, _, contents, endFlag⟩
  refine ⟨?_, fun opened => ?_⟩
  · dsimp only
    rw [contents]
    cases ended : flow.stream.endFlag with
    | false =>
        have whole : flow.taken ++ (flow.stream.contents ++ flow.stream.accepted bytes) =
            flow.delivered ++ bytes := by
          rw [flow.stream.accepted_eq_self ended fits, ← List.append_assoc, ordered.whole ended]
        exact whole ▸ List.prefix_rfl
    | true =>
        rw [ByteStream.accepted_of_ended ended, List.append_nil]
        exact ordered.begins.trans (List.prefix_append _ _)
  · dsimp only at opened ⊢
    have before : flow.stream.endFlag = false := (Bool.or_eq_false_iff.mp (endFlag ▸ opened)).1
    rw [contents, flow.stream.accepted_eq_self before fits, ← List.append_assoc,
      ordered.whole before]

theorem Ordered.written {flow : Flow} (ordered : Ordered flow) (n : Nat) :
    Ordered { flow with
      stream := flow.stream.popOutput n, taken := flow.taken ++ flow.stream.contents.take n } := by
  have same : flow.taken ++ flow.stream.contents.take n ++ (flow.stream.popOutput n).contents =
      flow.taken ++ flow.stream.contents := by
    rw [ByteStream.popOutput_contents, List.append_assoc, List.take_append_drop]
  refine ⟨?_, fun opened => ?_⟩
  · dsimp only
    rw [same]
    exact ordered.begins
  · dsimp only
    rw [same]
    exact ordered.whole opened

end Flow

namespace StreamCopy

variable {copy next : StreamCopy} {way other : Way} {kernel : Kernel} {fd : FDWrapper}

/-! ## Reading and updating the two ways -/

@[simp] theorem withKernel_flow : (copy.withKernel kernel).flow way = copy.flow way := by
  cases way <;> rfl

@[simp] theorem withKernel_source : (copy.withKernel kernel).source way = copy.source way := by
  cases way <;> rfl

@[simp] theorem withKernel_sink : (copy.withKernel kernel).sink way = copy.sink way := by
  cases way <;> rfl

@[simp] theorem withFlow_flow {flow : Flow} : (copy.withFlow way flow).flow way = flow := by
  cases way <;> rfl

theorem withFlow_flow_ne {flow : Flow} (different : other ≠ way) :
    (copy.withFlow way flow).flow other = copy.flow other := by
  cases way <;> cases other <;> first | rfl | exact absurd rfl different

@[simp] theorem withFlow_source {flow : Flow} :
    (copy.withFlow way flow).source other = copy.source other := by
  cases way <;> cases other <;> rfl

@[simp] theorem withFlow_sink {flow : Flow} :
    (copy.withFlow way flow).sink other = copy.sink other := by
  cases way <;> cases other <;> rfl

@[simp] theorem withSource_flow : (copy.withSource way fd).flow other = copy.flow other := by
  cases way <;> cases other <;> rfl

@[simp] theorem withSource_source : (copy.withSource way fd).source way = fd := by
  cases way <;> rfl

theorem withSource_source_ne (different : other ≠ way) :
    (copy.withSource way fd).source other = copy.source other := by
  cases way <;> cases other <;> first | rfl | exact absurd rfl different

/-- The socket is also a sink. -/
theorem withSource_sink_closed (same : fd.closed = (copy.source way).closed) :
    ((copy.withSource way fd).sink other).closed = (copy.sink other).closed := by
  cases way <;> cases other <;> first | rfl | exact same

@[simp] theorem withSink_flow : (copy.withSink way fd).flow other = copy.flow other := by
  cases way <;> cases other <;> rfl

@[simp] theorem withSink_sink : (copy.withSink way fd).sink way = fd := by
  cases way <;> rfl

theorem withSink_sink_ne (different : other ≠ way) :
    (copy.withSink way fd).sink other = copy.sink other := by
  cases way <;> cases other <;> first | rfl | exact absurd rfl different

/-- The socket is also a source. -/
theorem withSink_source_eof (same : way = .outbound -> fd.eof = (copy.sink way).eof) :
    ((copy.withSink way fd).source other).eof = (copy.source other).eof := by
  cases way <;> cases other <;> first | rfl | exact same rfl

theorem withSink_source_closed (same : way = .outbound -> fd.closed = (copy.sink way).closed) :
    ((copy.withSink way fd).source other).closed = (copy.source other).closed := by
  cases way <;> cases other <;> first | rfl | exact same rfl

/-! ## What the callbacks do -/

/-- The bytes have been read. -/
def hasRead (copy : StreamCopy) (way : Way) (kernel : Kernel) (bytes : List UInt8)
    (ends : Bool) : StreamCopy :=
  let stream := ((copy.flow way).stream.write bytes).1
  ((copy.withKernel kernel).withSource way
    { (copy.source way).registerRead with eof := ends }).withFlow way
      { copy.flow way with
        stream := if ends then stream.endInput else stream
        delivered := (copy.flow way).delivered ++ bytes }

/-- That many bytes have been written. -/
def hasWritten (copy : StreamCopy) (way : Way) (kernel : Kernel) (n : Nat) : StreamCopy :=
  ((copy.withKernel kernel).withSink way (copy.sink way).registerWrite).withFlow way
    { copy.flow way with
      stream := (copy.flow way).stream.popOutput n
      taken := (copy.flow way).taken ++ (copy.flow way).stream.contents.take n }

def hasFinished (copy : StreamCopy) (way : Way) (kernel : Kernel) : StreamCopy :=
  let sink := match way with
    | .outbound => copy.socket.registerWrite
    | .inbound => { copy.output with eof := true, closed := true }
  ((copy.withKernel kernel).withSink way sink).withFlow way
    { copy.flow way with shutdown := true }

theorem readInto_cases (way : Way) (copy : StreamCopy) :
    (Exists fun fault => Exists fun kernel =>
      readInto way copy = .error (fault, copy.withKernel kernel)) ∨
      Exists fun kernel => Exists fun bytes => Exists fun ends =>
        bytes.length ≤ (copy.flow way).stream.remainingCapacity ∧
          ((copy.source way).eof = true -> ends = true) ∧
          readInto way copy = .ok (copy.hasRead way kernel bytes ends) := by
  unfold readInto
  cases copy.kernel.reads with
  | nil => exact Or.inl ⟨_, copy.kernel, rfl⟩
  | cons answer reads =>
      dsimp only
      cases answer with
      | failed errno =>
          rcases (copy.source way).read_failed (copy.flow way).stream.remainingCapacity errno with
            ⟨fault, failed⟩
          rw [failed]
          exact Or.inl ⟨fault, _, rfl⟩
      | returned bytes =>
          rw [FDWrapper.read_returned]
          refine Or.inr ⟨_, _, _, ?_, ?_, rfl⟩
          · exact (List.length_take_le _ _).trans (Nat.min_le_right _ _)
          · intro ended
            rw [ended, Bool.true_or]

theorem finish_cases (way : Way) (copy : StreamCopy) :
    (Exists fun fault => Exists fun kernel =>
      finish way copy = .error (fault, copy.withKernel kernel)) ∨
      Exists fun kernel => finish way copy = .ok (copy.hasFinished way kernel) := by
  unfold finish
  cases copy.kernel.calls with
  | nil => exact Or.inl ⟨_, copy.kernel, rfl⟩
  | cons answer calls =>
      cases way with
      | outbound =>
          dsimp only
          unfold FDWrapper.shutdownWrite
          cases systemCall "shutdown" answer.returnValue answer.errno 0 with
          | error fault => exact Or.inl ⟨_, _, rfl⟩
          | ok returned => exact Or.inr ⟨_, rfl⟩
      | inbound =>
          dsimp only
          unfold FDWrapper.close
          cases systemCall "close" answer.returnValue answer.errno 0 with
          | error fault => exact Or.inl ⟨_, _, rfl⟩
          | ok returned => exact Or.inr ⟨_, rfl⟩

/-- The bytes that the kernel takes leave the stream, and behind the last of them the sink
is shut. -/
theorem writeFrom_cases (way : Way) (copy : StreamCopy) :
    (Exists fun fault => Exists fun kernel =>
      writeFrom way copy = .error (fault, copy.withKernel kernel)) ∨
      Exists fun kernel => Exists fun n =>
        writeFrom way copy =
          if ((copy.hasWritten way kernel n).flow way).stream.eof then
            finish way (copy.hasWritten way kernel n)
          else .ok (copy.hasWritten way kernel n) := by
  unfold writeFrom
  cases copy.kernel.writes with
  | nil => exact Or.inl ⟨_, copy.kernel, rfl⟩
  | cons answer writes =>
      dsimp only
      have limit : min maxCopyLength (copy.flow way).stream.bufferSize ≤ 65536 :=
        Nat.min_le_left _ _
      rw [ByteStream.peekOutput_eq]
      have short : ((copy.flow way).stream.contents.take
          (min maxCopyLength (copy.flow way).stream.bufferSize)).length ≤ 65536 :=
        (List.length_take_le _ _).trans limit
      rcases (copy.sink way).write_cases answer
        (Nat.lt_of_le_of_lt short (by decide)) with ⟨fault, failed, _⟩ | wrote
      · rw [failed]
        exact Or.inl ⟨fault, _, rfl⟩
      · right
        rw [wrote]
        have same := answer.taken_eq_take (copy.flow way).stream.contents
          (min maxCopyLength (copy.flow way).stream.bufferSize)
        have small := answer.taken_length_le ((copy.flow way).stream.contents.take
          (min maxCopyLength (copy.flow way).stream.bufferSize))
        generalize (answer.taken ((copy.flow way).stream.contents.take
          (min maxCopyLength (copy.flow way).stream.bufferSize))).length = n at same small ⊢
        have count : (UInt64.ofNat n).toNat = n := by
          rw [UInt64.toNat_ofNat']
          omega
        refine ⟨{ copy.kernel with writes := writes }, n, ?_⟩
        dsimp only
        rw [same, count]
        unfold hasWritten
        rw [withFlow_flow]

/-! ## Safety -/

def Ordered (copy : StreamCopy) : Prop :=
  forall way, (copy.flow way).Ordered

/-- It is enough to look at the way on which something has been done. -/
theorem Ordered.of_way (ordered : copy.Ordered) (own : (next.flow way).Ordered)
    (others : forall other, other ≠ way -> next.flow other = copy.flow other) : next.Ordered := by
  intro other
  by_cases same : other = way
  · rw [same]
    exact own
  · rw [others other same]
    exact ordered other

theorem Ordered.withKernel (ordered : copy.Ordered) (kernel : Kernel) :
    (copy.withKernel kernel).Ordered := by
  intro way
  rw [withKernel_flow]
  exact ordered way

@[simp] theorem hasRead_flow (bytes : List UInt8) (ends : Bool) :
    (copy.hasRead way kernel bytes ends).flow way =
      { copy.flow way with
        stream := if ends then ((copy.flow way).stream.write bytes).1.endInput
          else ((copy.flow way).stream.write bytes).1
        delivered := (copy.flow way).delivered ++ bytes } :=
  withFlow_flow

@[simp] theorem hasWritten_flow (n : Nat) :
    (copy.hasWritten way kernel n).flow way =
      { copy.flow way with
        stream := (copy.flow way).stream.popOutput n
        taken := (copy.flow way).taken ++ (copy.flow way).stream.contents.take n } :=
  withFlow_flow

@[simp] theorem hasFinished_flow :
    (copy.hasFinished way kernel).flow way = { copy.flow way with shutdown := true } :=
  withFlow_flow

theorem hasRead_flow_ne {bytes : List UInt8} {ends : Bool} (different : other ≠ way) :
    (copy.hasRead way kernel bytes ends).flow other = copy.flow other := by
  unfold hasRead
  rw [withFlow_flow_ne different, withSource_flow, withKernel_flow]

theorem hasWritten_flow_ne {n : Nat} (different : other ≠ way) :
    (copy.hasWritten way kernel n).flow other = copy.flow other := by
  unfold hasWritten
  rw [withFlow_flow_ne different, withSink_flow, withKernel_flow]

theorem hasFinished_flow_ne (different : other ≠ way) :
    (copy.hasFinished way kernel).flow other = copy.flow other := by
  unfold hasFinished
  rw [withFlow_flow_ne different, withSink_flow, withKernel_flow]

theorem readInto_ordered (way : Way) : Keeps Ordered (readInto way) := by
  intro copy ordered
  rcases readInto_cases way copy with ⟨fault, kernel, failed⟩ | ⟨kernel, bytes, ends, fits, _, done⟩
  · rw [failed]
    exact ordered.withKernel kernel
  · rw [done]
    refine ordered.of_way  ?_ fun other => hasRead_flow_ne
    exact hasRead_flow bytes ends ▸ (ordered way).read fits ends

theorem finish_ordered (way : Way) : Keeps Ordered (finish way) := by
  intro copy ordered
  rcases finish_cases way copy with ⟨fault, kernel, failed⟩ | ⟨kernel, done⟩
  · rw [failed]
    exact ordered.withKernel kernel
  · rw [done]
    refine ordered.of_way  ?_ fun other => hasFinished_flow_ne
    exact hasFinished_flow ▸ ⟨(ordered way).begins, (ordered way).whole⟩

theorem writeFrom_ordered (way : Way) : Keeps Ordered (writeFrom way) := by
  intro copy ordered
  rcases writeFrom_cases way copy with ⟨fault, kernel, failed⟩ | ⟨kernel, n, done⟩
  · rw [failed]
    exact ordered.withKernel kernel
  · have written : (copy.hasWritten way kernel n).Ordered := by
      refine ordered.of_way  ?_ fun other => hasWritten_flow_ne
      exact hasWritten_flow n ▸ (ordered way).written n
    rw [done]
    split
    · exact finish_ordered way _ written
    · exact written

theorem endInput_ordered (way : Way) : Keeps Ordered (endInput way) := by
  intro copy ordered
  refine ordered.of_way  ?_ fun other different => withFlow_flow_ne different
  exact withFlow_flow ▸ ⟨(ordered way).begins, nofun⟩

/-! ## Runs -/

/-- Where the loop is, or where it was when something was thrown. -/
def reached : Except (LoopFault DescriptorFault × EventLoop DescriptorFault StreamCopy)
    (WaitResult × EventLoop DescriptorFault StreamCopy) -> EventLoop DescriptorFault StreamCopy
  | .ok returned => returned.2
  | .error thrown => thrown.2

theorem loopUntilExit_does (loop : EventLoop DescriptorFault StreamCopy)
    (answers : List PollAnswer) :
    Exists fun deeds => loop.Does deeds (reached (loopUntilExit loop answers)) := by
  induction answers generalizing loop with
  | nil => exact ⟨[], .idle⟩
  | cons answer answers ih =>
      have ends := loop.wait_ends answer
      unfold loopUntilExit
      cases waits : loop.waitNextEvent answer with
      | error thrown =>
          rw [waits] at ends
          rcases ends with ⟨_, deeds, waits⟩
          exact ⟨deeds, waits.does⟩
      | ok returned =>
          rw [waits] at ends
          rcases ends with ⟨deeds, waits, _⟩
          rcases returned with ⟨result, next⟩
          have onward : Exists fun deeds =>
              loop.Does deeds (reached (loopUntilExit next answers)) := by
            rcases ih next with ⟨more, acts⟩
            exact ⟨deeds ++ more, Acts.trans waits.does acts⟩
          cases result with
          | exit => exact ⟨deeds, waits.does⟩
          | success => exact onward
          | timeout => exact onward

theorem rule_cases {rule : CopyRule} (member : rule ∈ rules) :
    Exists fun way => rule = readRule way ∨ rule = writeRule way := by
  simp only [rules, List.mem_cons, List.not_mem_nil, or_false] at member
  rcases member with rfl | rfl | rfl | rfl
  · exact ⟨.outbound, Or.inl rfl⟩
  · exact ⟨.outbound, Or.inr rfl⟩
  · exact ⟨.inbound, Or.inl rfl⟩
  · exact ⟨.inbound, Or.inr rfl⟩

theorem start_ordered (socket : FDWrapper) (kernel : Kernel) : (start socket kernel).Ordered := by
  have empty : Flow.Ordered { stream := .new bufferSize } :=
    ⟨ByteStream.new_contents bufferSize ▸ List.prefix_rfl,
      fun _ => ByteStream.new_contents bufferSize⟩
  intro way
  cases way with
  | outbound => exact empty
  | inbound => exact empty

theorem hasFinished_writeCount (copy : StreamCopy) (way : Way) (kernel : Kernel) :
    ((copy.hasFinished way kernel).sink way).writeCount = (copy.sink way).writeCount + 1 ∨
      ((copy.hasFinished way kernel).sink way).writeCount = (copy.sink way).writeCount := by
  cases way with
  | outbound => exact Or.inl rfl
  | inbound => exact Or.inr rfl

/-- A callback that returns has read or written its descriptor. -/
theorem callback_services {rule : CopyRule} (member : rule ∈ rules) {world next : StreamCopy}
    (done : rule.callback world = .ok next) : rule.serviceCount world ≠ rule.serviceCount next := by
  rcases rule_cases member with ⟨way, rfl | rfl⟩
  · change readInto way world = _ at done
    rcases readInto_cases way world with ⟨_, _, failed⟩ | ⟨kernel, bytes, ends, _, _, read⟩
    · cases failed.symm.trans done
    · cases read.symm.trans done
      have count : ((world.hasRead way kernel bytes ends).source way).readCount =
          (world.source way).readCount + 1 := by
        unfold hasRead
        rw [withFlow_source, withSource_source]
        rfl
      change (world.source way).readCount ≠ _
      rw [show Rule.serviceCount (readRule way) _ = _ from count]
      exact (FDWrapper.counted _).1
  · change writeFrom way world = _ at done
    rcases writeFrom_cases way world with ⟨_, _, failed⟩ | ⟨kernel, n, wrote⟩
    · cases failed.symm.trans done
    · have count : ((world.hasWritten way kernel n).sink way).writeCount =
          (world.sink way).writeCount + 1 := by
        unfold hasWritten
        rw [withFlow_sink, withSink_sink]
        rfl
      have services {last : StreamCopy}
          (shut : (last.sink way).writeCount = (world.sink way).writeCount + 1 ∨
            (last.sink way).writeCount = (world.sink way).writeCount + 1 + 1) :
          (world.sink way).writeCount ≠ (last.sink way).writeCount := by
        rcases shut with once | twice
        · exact once ▸ (FDWrapper.counted _).1
        · exact twice ▸ (FDWrapper.counted _).2
      rw [wrote] at done
      split at done
      · rcases finish_cases way (world.hasWritten way kernel n) with ⟨_, _, failed⟩ | ⟨_, shut⟩
        · cases failed.symm.trans done
        · cases shut.symm.trans done
          have finished := hasFinished_writeCount (world.hasWritten way kernel n) way
          rw [count] at finished
          exact services (finished _).symm
      · cases done
        exact services (Or.inl count)

/-- The copying never waits busily. -/
theorem not_busy (loop : EventLoop DescriptorFault StreamCopy)
    (known : forall rule, rule ∈ loop.rules -> rule ∈ rules) (answers : List PollAnswer)
    (last : EventLoop DescriptorFault StreamCopy) :
    loopUntilExit loop answers ≠ .error (.busyWait, last) := by
  induction answers generalizing loop with
  | nil => exact nofun
  | cons answer answers ih =>
      have ends := loop.wait_ends answer
      have idle := loop.wait_not_busy answer
        (fun rule member world next done same =>
          callback_services (known rule member) done same.1) last
      unfold loopUntilExit
      cases waits : loop.waitNextEvent answer with
      | error thrown =>
          rw [waits] at idle
          exact fun busy => idle (by cases busy; rfl)
      | ok returned =>
          rw [waits] at ends
          rcases ends with ⟨deeds, waits, _⟩
          rcases returned with ⟨result, next⟩
          have onward := ih next fun rule member =>
            known rule (Acts.sublist waits.does |>.subset member)
          cases result with
          | exit => exact nofun
          | success => exact onward
          | timeout => exact onward

/-- **What is written is the beginning of what has been read.**  Whatever the kernel answers
to the calls and polls, and also when one of them throws, in both ways the bytes written so
far are the first of those read so far, in the same order.  The loop never complains of a
busy wait. -/
theorem writes_what_was_read (socket : FDWrapper) (kernel : Kernel) (answers : List PollAnswer) :
    (forall way,
      ((reached (loopUntilExit (eventLoop socket kernel) answers)).world.flow way).taken <+:
        ((reached (loopUntilExit (eventLoop socket kernel) answers)).world.flow way).delivered) ∧
      forall last, loopUntilExit (eventLoop socket kernel) answers ≠ .error (.busyWait, last) := by
  rcases loopUntilExit_does (eventLoop socket kernel) answers with ⟨deeds, acts⟩
  have calling (rule : CopyRule) (member : rule ∈ rules) : Keeps Ordered rule.callback := by
    rcases rule_cases member with ⟨way, rfl | rfl⟩
    · exact readInto_ordered way
    · exact writeFrom_ordered way
  have dropping (rule : CopyRule) (member : rule ∈ rules) : Keeps Ordered rule.cancel := by
    rcases rule_cases member with ⟨way, rfl | rfl⟩
    · exact endInput_ordered way
    · exact endInput_ordered way
  have ordered := acts.invariant calling dropping (start_ordered socket kernel)
  refine ⟨fun way => (List.prefix_append _ _).trans (ordered way).begins, fun last => ?_⟩
  exact not_busy (eventLoop socket kernel) (fun rule member => member) answers last

end StreamCopy
end Loop
end Sponge
