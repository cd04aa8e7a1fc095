import Sponge.Loop.Copying

namespace Sponge
namespace Loop

open Bytes Foundation Wire

/-!
# When the copying completes

A rule that reads is only left idle when there is no room, and a rule that writes when
there is nothing to write.  So when nothing is left to poll, the rules that read are gone,
and everything that has been read has been written, unless a rule that writes has hung up.
The order of the rules matters: a cancellation while the entries are set up does not
concern the rules that have their entries already.
-/

namespace StreamCopy

variable {copy next : StreamCopy} {way other : Way} {kernel : Kernel}

/-- How far a way has come, with whether its rules are still installed.  As long as the
writing rule is there nothing is lost, and the input has only ended at the end of the
source.  If it is quiet, nothing hangs up, and a rule is only gone when it has done its
work. -/
structure Underway (quiet reads writes : Prop) (copy : StreamCopy) (way : Way) : Prop where
  capacity : (copy.flow way).stream.capacity = 1048576
  noError : (copy.flow way).stream.error = false
  opened : (copy.source way).closed = false
  whole : writes ∨ (copy.flow way).shutdown = true ->
    (copy.flow way).taken ++ (copy.flow way).stream.contents = (copy.flow way).delivered
  reading : writes ∨ (copy.flow way).shutdown = true ->
    (copy.flow way).stream.endFlag = true -> (copy.source way).eof = true ∨ ¬ reads
  ended : ¬ reads -> (copy.flow way).stream.endFlag = true
  finished : (copy.flow way).shutdown = true -> (copy.flow way).stream.eof = true
  closing : (copy.sink way).closed = true -> (copy.flow way).shutdown = true
  undisturbed : quiet -> (reads ∨ (copy.source way).eof = true) ∧
    (writes ∨ (copy.flow way).shutdown = true)

variable {quiet reads writes : Prop}

/-- What has been done on the other way does not matter. -/
theorem Underway.frame (underway : Underway quiet reads writes copy other)
    (flow : next.flow other = copy.flow other)
    (eof : (next.source other).eof = (copy.source other).eof)
    (closed : (next.source other).closed = (copy.source other).closed)
    (sink : (next.sink other).closed = (copy.sink other).closed) :
    Underway quiet reads writes next other where
  capacity := flow ▸ underway.capacity
  noError := flow ▸ underway.noError
  opened := closed.trans underway.opened
  whole := flow ▸ underway.whole
  reading := by
    rw [flow, eof]
    exact underway.reading
  ended := flow ▸ underway.ended
  finished := flow ▸ underway.finished
  closing := by
    rw [flow, sink]
    exact underway.closing
  undisturbed := by
    rw [flow, eof]
    exact underway.undisturbed

theorem hasRead_sink_closed {bytes : List UInt8} {ends : Bool} :
    ((copy.hasRead way kernel bytes ends).sink other).closed = (copy.sink other).closed := by
  unfold hasRead
  rw [withFlow_sink, withSource_sink_closed, withKernel_sink]
  rw [withKernel_source]
  rfl

theorem Underway.read {bytes : List UInt8} {ends : Bool}
    (underway : Underway quiet reads writes copy way) (installed : reads)
    (pending : (copy.source way).eof = false)
    (fits : bytes.length ≤ (copy.flow way).stream.remainingCapacity) :
    Underway quiet reads writes (copy.hasRead way kernel bytes ends) way := by
  have source : (copy.hasRead way kernel bytes ends).source way =
      { (copy.source way).registerRead with eof := ends } := by
    unfold hasRead
    rw [withFlow_source, withSource_source]
  -- Behind the end of the source the rule is not called any more.
  have unended (there : writes ∨ (copy.flow way).shutdown = true) :
      (copy.flow way).stream.endFlag = false := by
    refine Bool.eq_false_iff.mpr fun ended => ?_
    rcases underway.reading there ended with eof | gone
    · exact absurd (eof.symm.trans pending) (by decide)
    · exact gone installed
  have running : (copy.flow way).shutdown = false := by
    refine Bool.eq_false_iff.mpr fun shut => ?_
    have ended := (ByteStream.eof_iff _).mp (underway.finished shut)
    exact absurd (ended.1.symm.trans (unended (Or.inr shut))) (by decide)
  rcases Flow.read_stream (copy.flow way).stream bytes ends with
    ⟨capacity, error, contents, endFlag⟩
  constructor
  · rw [hasRead_flow]
    exact capacity.trans underway.capacity
  · rw [hasRead_flow]
    exact error.trans underway.noError
  · rw [source]
    exact underway.opened
  · rw [hasRead_flow]
    intro there
    dsimp only
    rw [contents, ByteStream.accepted_eq_self _ (unended there) fits, ← List.append_assoc,
      underway.whole there]
  · rw [hasRead_flow, source]
    intro there ended
    rw [endFlag, unended there] at ended
    exact Or.inl ended
  · exact fun gone => absurd installed gone
  · rw [hasRead_flow]
    exact fun shut => absurd (running.symm.trans shut) (by decide)
  · rw [hasRead_flow, hasRead_sink_closed]
    exact underway.closing
  · rw [hasRead_flow]
    exact fun still => ⟨Or.inl installed, (underway.undisturbed still).2⟩

theorem Underway.read_other {bytes : List UInt8} {ends : Bool}
    (underway : Underway quiet reads writes copy other) (different : other ≠ way) :
    Underway quiet reads writes (copy.hasRead way kernel bytes ends) other := by
  have source : (copy.hasRead way kernel bytes ends).source other = copy.source other := by
    unfold hasRead
    rw [withFlow_source, withSource_source_ne different, withKernel_source]
  exact underway.frame (hasRead_flow_ne different) (congrArg _ source) (congrArg _ source)
    hasRead_sink_closed

theorem hasWritten_descriptors {n : Nat} :
    ((copy.hasWritten way kernel n).source other).eof = (copy.source other).eof ∧
      ((copy.hasWritten way kernel n).source other).closed = (copy.source other).closed ∧
      ((copy.hasWritten way kernel n).sink other).closed = (copy.sink other).closed := by
  unfold hasWritten
  rw [withFlow_source, withFlow_sink]
  refine ⟨?_, ?_, ?_⟩
  · rw [withSink_source_eof, withKernel_source]
    exact fun _ => (congrArg FDWrapper.eof withKernel_sink).symm
  · rw [withSink_source_closed, withKernel_source]
    exact fun _ => (congrArg FDWrapper.closed withKernel_sink).symm
  · by_cases same : other = way
    · rw [same, withSink_sink]
      rfl
    · rw [withSink_sink_ne same, withKernel_sink]

theorem Underway.written (underway : Underway quiet reads writes copy other) (way : Way)
    (kernel : Kernel) (n : Nat) :
    Underway quiet reads writes (copy.hasWritten way kernel n) other := by
  rcases @hasWritten_descriptors copy way other kernel n with ⟨eof, closed, sink⟩
  by_cases different : other ≠ way
  · exact underway.frame (hasWritten_flow_ne different) eof closed sink
  have same := not_not.mp different
  subst same
  constructor
  · rw [hasWritten_flow]
    exact underway.capacity
  · rw [hasWritten_flow]
    exact underway.noError
  · exact closed.trans underway.opened
  · rw [hasWritten_flow]
    intro there
    dsimp only
    rw [ByteStream.popOutput_contents, List.append_assoc, List.take_append_drop]
    exact underway.whole there
  · rw [hasWritten_flow, eof]
    exact underway.reading
  · rw [hasWritten_flow]
    exact underway.ended
  · rw [hasWritten_flow]
    intro shut
    have before := (ByteStream.eof_iff _).mp (underway.finished shut)
    refine (ByteStream.eof_iff _).mpr ⟨before.1, ?_⟩
    rw [ByteStream.popOutput_bufferSize, before.2, Nat.zero_sub]
  · rw [hasWritten_flow, sink]
    exact underway.closing
  · rw [hasWritten_flow, eof]
    exact underway.undisturbed

theorem hasFinished_source :
    ((copy.hasFinished way kernel).source other).eof = (copy.source other).eof ∧
      ((copy.hasFinished way kernel).source other).closed = (copy.source other).closed := by
  cases way <;> cases other <;> exact ⟨rfl, rfl⟩

theorem hasFinished_sink_ne (different : other ≠ way) :
    (copy.hasFinished way kernel).sink other = copy.sink other := by
  unfold hasFinished
  rw [withFlow_sink, withSink_sink_ne different, withKernel_sink]

theorem Underway.finish (underway : Underway quiet reads writes copy other) (way : Way)
    (installed : other = way -> writes) (kernel : Kernel)
    (eof : (copy.flow way).stream.eof = true) :
    Underway quiet reads writes (copy.hasFinished way kernel) other := by
  rcases @hasFinished_source copy way other kernel with ⟨source, closed⟩
  by_cases different : other ≠ way
  · exact underway.frame (hasFinished_flow_ne different) source closed
      (congrArg _ (hasFinished_sink_ne different))
  have same := not_not.mp different
  subst same
  have there : writes ∨ (copy.flow other).shutdown = true := Or.inl (installed rfl)
  constructor
  · rw [hasFinished_flow]
    exact underway.capacity
  · rw [hasFinished_flow]
    exact underway.noError
  · exact closed.trans underway.opened
  · rw [hasFinished_flow]
    exact fun _ => underway.whole there
  · rw [hasFinished_flow, source]
    exact fun _ => underway.reading there
  · rw [hasFinished_flow]
    exact underway.ended
  · rw [hasFinished_flow]
    exact fun _ => eof
  · rw [hasFinished_flow]
    exact fun _ => rfl
  · rw [hasFinished_flow, source]
    exact fun still => ⟨(underway.undisturbed still).1, Or.inr rfl⟩

/-- The input of the byte stream has been ended. -/
def hasEnded (copy : StreamCopy) (way : Way) : StreamCopy :=
  copy.withFlow way { copy.flow way with stream := (copy.flow way).stream.endInput }

@[simp] theorem hasEnded_flow :
    (copy.hasEnded way).flow way =
      { copy.flow way with stream := (copy.flow way).stream.endInput } :=
  withFlow_flow

@[simp] theorem hasEnded_source : (copy.hasEnded way).source other = copy.source other :=
  withFlow_source

@[simp] theorem hasEnded_sink : (copy.hasEnded way).sink other = copy.sink other :=
  withFlow_sink

theorem Underway.end_other (underway : Underway quiet reads writes copy other)
    (different : other ≠ way) : Underway quiet reads writes (copy.hasEnded way) other := by
  refine underway.frame (withFlow_flow_ne different) ?_ ?_ ?_
  · rw [hasEnded_source]
  · rw [hasEnded_source]
  · rw [hasEnded_sink]

/-- A rule of the way is cancelled. -/
theorem Underway.cancel (underway : Underway quiet reads writes copy way) {reads' writes' : Prop}
    (onward : writes' -> writes)
    (drops : (¬ reads' ∧ (quiet -> (copy.source way).eof = true)) ∨ (reads' <-> reads) ∧ ¬ writes')
    (still : quiet -> writes' ∨ (copy.flow way).shutdown = true) :
    Underway quiet reads' writes' (copy.hasEnded way) way := by
  have before (there : writes' ∨ (copy.flow way).shutdown = true) :
      writes ∨ (copy.flow way).shutdown = true := there.imp_left onward
  constructor
  · rw [hasEnded_flow]
    exact underway.capacity
  · rw [hasEnded_flow]
    exact underway.noError
  · rw [hasEnded_source]
    exact underway.opened
  · rw [hasEnded_flow]
    exact fun there => underway.whole (before there)
  · rw [hasEnded_flow, hasEnded_source]
    intro there _
    rcases drops with ⟨gone, _⟩ | ⟨same, gone⟩
    · exact Or.inr gone
    · -- The writing rule has done its work, and the input had ended before.
      have shut := there.resolve_left gone
      have ended := (ByteStream.eof_iff _).mp (underway.finished shut)
      rw [same]
      exact underway.reading (before there) ended.1
  · rw [hasEnded_flow]
    exact fun _ => rfl
  · rw [hasEnded_flow]
    intro shut
    exact (ByteStream.eof_iff _).mpr
      ⟨rfl, ((ByteStream.eof_iff _).mp (underway.finished shut)).2⟩
  · rw [hasEnded_flow, hasEnded_sink]
    exact underway.closing
  · rw [hasEnded_flow, hasEnded_source]
    intro undisturbed
    refine ⟨?_, still undisturbed⟩
    rcases drops with ⟨_, eof⟩ | ⟨same, _⟩
    · exact Or.inr (eof undisturbed)
    · rw [same]
      exact (underway.undisturbed undisturbed).1

/-! ## The order of the rules -/

theorem readRule_ne_writeRule (first second : Way) : readRule first ≠ writeRule second := by
  intro same
  cases congrArg Rule.direction same

/-- A world in which the descriptors can be told apart. -/
def apart : StreamCopy :=
  start { fd := 3 } ⟨[], [], []⟩

theorem readRule_inj {first second : Way} (same : readRule first = readRule second) :
    first = second := by
  have fds : ((readRule first).fd apart).fd = ((readRule second).fd apart).fd := by rw [same]
  cases first <;> cases second <;> first | rfl | exact absurd fds (by decide)

theorem writeRule_inj {first second : Way} (same : writeRule first = writeRule second) :
    first = second := by
  have fds : ((writeRule first).fd apart).fd = ((writeRule second).fd apart).fd := by rw [same]
  cases first <;> cases second <;> first | rfl | exact absurd fds (by decide)

/-- No rule comes twice, and the rule that writes comes behind the one that reads. -/
def Behind (first second : CopyRule) : Prop :=
  first ≠ second ∧ forall way, first = writeRule way -> second ≠ readRule way

theorem rules_behind : rules.Pairwise Behind := by
  have other : writeRule .outbound ≠ writeRule .inbound := fun same => nomatch writeRule_inj same
  have reads : readRule .outbound ≠ readRule .inbound := fun same => nomatch readRule_inj same
  have across (first second : Way) : writeRule first ≠ readRule second :=
    (readRule_ne_writeRule second first).symm
  simp only [rules, readInput, writeSocket, readSocket, writeOutput, List.pairwise_cons,
    List.mem_cons, List.not_mem_nil, or_false, forall_eq_or_imp, forall_eq, List.Pairwise.nil,
    and_true, false_imp_iff, implies_true, Behind]
  refine ⟨⟨⟨readRule_ne_writeRule _ _, ?_⟩, ⟨reads, ?_⟩, ⟨readRule_ne_writeRule _ _, ?_⟩⟩,
    ⟨⟨across _ _, ?_⟩, ⟨other, ?_⟩⟩, ⟨readRule_ne_writeRule _ _, ?_⟩⟩
  · exact fun way same => absurd same (readRule_ne_writeRule _ _)
  · exact fun way same => absurd same (readRule_ne_writeRule _ _)
  · exact fun way same => absurd same (readRule_ne_writeRule _ _)
  · intro way same again
    cases writeRule_inj same
    cases readRule_inj again
  · exact fun way same => across _ _
  · exact fun way same => absurd same (readRule_ne_writeRule _ _)

section

variable {kept ahead : List CopyRule} {rule : CopyRule}

theorem gone_of_order (order : (kept ++ rule :: ahead).Sublist rules) :
    rule ∉ kept ++ ahead := by
  have apart := rules_behind.sublist order
  rw [List.pairwise_append, List.pairwise_cons] at apart
  intro member
  rcases List.mem_append.mp member with early | late
  · exact (apart.2.2 rule early rule List.mem_cons_self).1 rfl
  · exact (apart.2.1.1 rule late).1 rfl

theorem mem_iff_of_ne {other : CopyRule} (different : other ≠ rule) :
    other ∈ kept ++ ahead <-> other ∈ kept ++ rule :: ahead := by
  simp [different]

/-! ## The invariant of the loop -/

/-- The two ways in the middle of the loops. -/
structure Progress (quiet : Prop) (kept ahead : List CopyRule) (copy : StreamCopy) : Prop where
  order : (kept ++ ahead).Sublist rules
  underway : forall way,
    Underway quiet (readRule way ∈ kept ++ ahead) (writeRule way ∈ kept ++ ahead) copy way

/-- Before polling, the sources of the rules that are kept have not ended.  If there is
nothing to poll, these rules are not interested. -/
structure Setup (quiet : Prop) (somethingToPoll : Bool) (kept ahead : List CopyRule)
    (copy : StreamCopy) : Prop extends Progress quiet kept ahead copy where
  pending : forall way, readRule way ∈ kept -> (copy.source way).eof = false
  idle : somethingToPoll = false -> forall rule, rule ∈ kept -> rule.interest copy = false

/-- Behind the poll, the sources of the rules that are still ahead have not ended. -/
structure Service (quiet : Prop) (kept ahead : List CopyRule) (copy : StreamCopy) : Prop
    extends Progress quiet kept ahead copy where
  pending : forall way, readRule way ∈ ahead -> (copy.source way).eof = false

theorem Progress.shift (progress : Progress quiet kept (rule :: ahead) copy) :
    Progress quiet (kept ++ [rule]) ahead copy := by
  have same : kept ++ [rule] ++ ahead = kept ++ rule :: ahead := by simp
  refine ⟨?_, ?_⟩
  · rw [same]
    exact progress.order
  · rw [same]
    exact progress.underway

theorem Progress.rule_cases (progress : Progress quiet kept (rule :: ahead) copy) :
    Exists fun way => rule = readRule way ∨ rule = writeRule way :=
  StreamCopy.rule_cases (progress.order.subset (List.mem_append_right _ List.mem_cons_self))

theorem Progress.dropped (progress : Progress quiet kept (rule :: ahead) copy)
    (works : quiet -> rule.defunct copy = true) (done : rule.cancel copy = .ok next) :
    Progress quiet kept ahead next := by
  have gone := gone_of_order progress.order
  have order := ((List.Sublist.refl kept).append (List.sublist_cons_self rule ahead)).trans
    progress.order
  refine ⟨order, fun other => ?_⟩
  rcases progress.rule_cases with ⟨way, rfl | rfl⟩
  · cases done
    have writes : writeRule other ∈ kept ++ ahead <-> writeRule other ∈ kept ++ readRule way :: ahead :=
      mem_iff_of_ne (readRule_ne_writeRule _ _).symm
    by_cases same : other = way
    · subst same
      refine (progress.underway other).cancel writes.mp (Or.inl ⟨gone, fun still => ?_⟩) ?_
      · have defunct := works still
        unfold Rule.defunct at defunct
        change (true && (copy.source other).eof || (copy.source other).closed) = true at defunct
        rw [(progress.underway other).opened] at defunct
        simpa using defunct
      · intro still
        rw [writes]
        exact ((progress.underway other).undisturbed still).2
    · have different : readRule other ≠ readRule way := fun equal => same (readRule_inj equal)
      rw [mem_iff_of_ne different, writes]
      exact (progress.underway other).end_other same
  · cases done
    have reads : readRule other ∈ kept ++ ahead <-> readRule other ∈ kept ++ writeRule way :: ahead :=
      mem_iff_of_ne (readRule_ne_writeRule _ _)
    by_cases same : other = way
    · subst same
      refine (progress.underway other).cancel (fun there => absurd there gone)
        (Or.inr ⟨reads, gone⟩) fun still => Or.inr ?_
      have defunct := works still
      exact (progress.underway other).closing defunct
    · have different : writeRule other ≠ writeRule way := fun equal => same (writeRule_inj equal)
      rw [mem_iff_of_ne different, reads]
      exact (progress.underway other).end_other same

theorem Progress.called (progress : Progress quiet kept (rule :: ahead) copy)
    (pending : forall way, rule = readRule way -> (copy.source way).eof = false)
    (done : rule.callback copy = .ok next) : Progress quiet kept (rule :: ahead) next := by
  refine ⟨progress.order, fun other => ?_⟩
  have underway := progress.underway other
  rcases progress.rule_cases with ⟨way, rfl | rfl⟩
  · change readInto way copy = _ at done
    rcases readInto_cases way copy with ⟨_, _, failed⟩ | ⟨kernel, bytes, ends, fits, _, read⟩
    · cases failed.symm.trans done
    · cases read.symm.trans done
      by_cases same : other = way
      · subst same
        have installed : readRule other ∈ kept ++ readRule other :: ahead :=
          List.mem_append_right _ List.mem_cons_self
        exact underway.read installed (pending other rfl) fits
      · exact underway.read_other same
  · change writeFrom way copy = _ at done
    rcases writeFrom_cases way copy with ⟨_, _, failed⟩ | ⟨kernel, n, wrote⟩
    · cases failed.symm.trans done
    · have written := underway.written way kernel n
      rw [wrote] at done
      split at done
      next eof =>
        rcases finish_cases way (copy.hasWritten way kernel n) with ⟨_, _, failed⟩ | ⟨last, shut⟩
        · cases failed.symm.trans done
        · cases shut.symm.trans done
          have installed (same : other = way) :
              writeRule other ∈ kept ++ writeRule way :: ahead :=
            same ▸ List.mem_append_right _ List.mem_cons_self
          exact written.finish way installed last eof
      next =>
        cases done
        exact written

end

theorem Service.setup {loop : EventLoop DescriptorFault StreamCopy}
    (service : Service quiet loop.rules [] loop.world) :
    Setup quiet false [] loop.rules loop.world := by
  refine ⟨⟨?_, ?_⟩, nofun, nofun⟩
  · rw [List.nil_append, ← List.append_nil loop.rules]
    exact service.order
  · rw [List.nil_append, ← List.append_nil loop.rules]
    exact service.underway

/-- Everything that has been read has been written, and the sink has been shut. -/
def Complete (copy : StreamCopy) (way : Way) : Prop :=
  (copy.flow way).shutdown = true ∧ (copy.flow way).taken = (copy.flow way).delivered

theorem Underway.complete (underway : Underway quiet reads writes copy way)
    (shut : (copy.flow way).shutdown = true) : copy.Complete way := by
  refine ⟨shut, ?_⟩
  have emptied := ((ByteStream.eof_iff _).mp (underway.finished shut)).2
  have whole := underway.whole (Or.inr shut)
  rwa [(ByteStream.contents_eq_nil_iff _).mpr emptied, List.append_nil] at whole

/-- A reading rule that is left and not interested has no room. -/
theorem Setup.gone {left : List CopyRule} (setup : Setup quiet false left [] copy)
    (emptied : (copy.flow way).stream.bufferSize = 0) : readRule way ∉ left ++ [] := by
  intro member
  rw [List.append_nil] at member
  have bored := setup.idle rfl (readRule way) member
  have room : (copy.flow way).stream.remainingCapacity > 0 := by
    unfold ByteStream.remainingCapacity
    rw [(setup.underway way).capacity, emptied]
    decide
  unfold readRule at bored
  dsimp only at bored
  rw [(setup.underway way).noError, (setup.underway way.other).noError,
    decide_eq_true room] at bored
  cases bored

/-- A writing rule that is left and not interested has written everything: the buffer is
empty, and so the rule that reads is gone. -/
theorem Setup.shut {left : List CopyRule} (setup : Setup quiet false left [] copy)
    (member : writeRule way ∈ left) : (copy.flow way).shutdown = true := by
  have idle := setup.idle rfl (writeRule way) member
  rcases Bool.or_eq_false_iff.mp idle with ⟨empty, shut⟩
  have emptied : (copy.flow way).stream.bufferSize = 0 := by
    refine (ByteStream.bufferEmpty_iff _).mp ?_
    simpa using empty
  have eof : (copy.flow way).stream.eof = true :=
    (ByteStream.eof_iff _).mpr ⟨(setup.underway way).ended (setup.gone emptied), emptied⟩
  rw [eof] at shut
  simpa using shut

end StreamCopy
end Loop
end Sponge
