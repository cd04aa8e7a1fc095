import Sponge.Foundation.Runs
import Sponge.Loop.EventLoop
import Mathlib.Data.List.Forall2

namespace Sponge
namespace Loop

open Foundation Wire PollFlag

/-!
# What waiting does

A call of `wait_next_event` makes the rules act, one after the other: some are cancelled
and erased, and some of the others are called, each of them once at most and in the order
of the list.  Everything a rule does has a reason that was found for this very rule: the
counter never leaves the vector of entries, and it never strays from the iterator.
-/

variable {Fault World : Type}

namespace EventLoop

/-- The rules act and lead from one loop to the other. -/
def Does (loop : EventLoop Fault World) (deeds : List (Rule Fault World × Deed))
    (reached : EventLoop Fault World) : Prop :=
  Acts Rule.callback Rule.cancel loop.rules loop.world deeds reached.rules reached.world

/-- This is the world at some time while the rules act. -/
def Passes (loop : EventLoop Fault World) (deeds : List (Rule Fault World × Deed))
    (seen : World) : Prop :=
  Exists fun before => Exists fun rules => before <+: deeds ∧ loop.Does before ⟨rules, seen⟩

/-- The rules that are called. -/
def called (deeds : List (Rule Fault World × Deed)) : List (Rule Fault World) :=
  (deeds.filter fun deed => deed.2 = .called).map Prod.fst

/-- Why a rule acts, with the worlds that were passed through and what was reported for
it.  Only a rule that is ready for what it was interested in is called.  It is cancelled
at the end of file, on a closed descriptor or on a hangup. -/
inductive Reason (rule : Rule Fault World) (passes : World -> Prop) (reported : UInt16 -> Prop) :
    Deed -> Prop
  | ready {seen : World} {revents : UInt16} (passed : passes seen)
      (alive : rule.defunct seen = false) (interested : rule.interest seen = true)
      (reports : reported revents) (ready : revents &&& rule.direction.events ≠ 0) :
      Reason rule passes reported .called
  | defunct {seen : World} {deed : Deed} (cancels : deed ≠ .called) (passed : passes seen)
      (defunct : rule.defunct seen = true) : Reason rule passes reported deed
  | hungUp {seen : World} {revents : UInt16} {deed : Deed} (cancels : deed ≠ .called)
      (passed : passes seen) (alive : rule.defunct seen = false)
      (interested : rule.interest seen = true) (reports : reported revents)
      (hup : revents &&& pollHup ≠ 0) (ready : revents &&& rule.direction.events = 0) :
      Reason rule passes reported deed

/-- What was reported for a rule of the list. -/
def Reported (answer : PollAnswer) (armed : List (Rule Fault World)) (rule : Rule Fault World)
    (revents : UInt16) : Prop :=
  Exists fun i => armed[i]? = some rule ∧ answer.revents i = revents

variable {loop reached : EventLoop Fault World} {deeds more : List (Rule Fault World × Deed)}
  {kept rules armed : List (Rule Fault World)} {rule : Rule Fault World} {seen world next : World}

theorem Passes.mono (passes : loop.Passes deeds seen) (before : deeds <+: more) :
    loop.Passes more seen := by
  rcases passes with ⟨first, rules, inside, does⟩
  exact ⟨first, rules, inside.trans before, does⟩

theorem Does.passes (does : loop.Does deeds reached) : loop.Passes deeds reached.world :=
  ⟨deeds, reached.rules, List.prefix_rfl, does⟩

theorem Does.calls (does : loop.Does deeds ⟨kept ++ rule :: rules, world⟩) :
    loop.Does (deeds ++ [(rule, .called)]) ⟨kept ++ rule :: rules, (rule.callback world).reached⟩ :=
  Acts.calls does

theorem Does.drops (does : loop.Does deeds ⟨kept ++ rule :: rules, world⟩)
    (done : rule.cancel world = .ok next) :
    loop.Does (deeds ++ [(rule, .dropped)]) ⟨kept ++ rules, next⟩ :=
  Acts.drops does done

theorem Does.keeps {thrown : Fault × World}
    (does : loop.Does deeds ⟨kept ++ rule :: rules, world⟩)
    (failed : rule.cancel world = .error thrown) :
    loop.Does (deeds ++ [(rule, .kept)]) ⟨kept ++ rule :: rules, thrown.2⟩ :=
  Acts.keeps does failed

/-! ## Before polling -/

/-- A rule and the entry that was made for it. -/
def Entered (loop : EventLoop Fault World) (deeds : List (Rule Fault World × Deed))
    (rule : Rule Fault World) (pollfd : Pollfd) : Prop :=
  Exists fun seen => loop.Passes deeds seen ∧ rule.defunct seen = false ∧ pollfd = rule.pollfd seen

/-- What the first loop has done: the rules it keeps have their entries, and the others were
defunct. -/
structure Arming (loop : EventLoop Fault World) (deeds : List (Rule Fault World × Deed))
    (kept : List (Rule Fault World)) (pollfds : List Pollfd) (somethingToPoll : Bool)
    (reached : EventLoop Fault World) : Prop where
  does : loop.Does deeds reached
  entries : List.Forall₂ (loop.Entered deeds) kept pollfds
  cancels : forall rule deed, (rule, deed) ∈ deeds -> deed ≠ .called ∧
    Exists fun seen => loop.Passes deeds seen ∧ rule.defunct seen = true
  something_iff : somethingToPoll = true <->
    Exists fun pollfd => pollfd ∈ pollfds ∧ pollfd.events ≠ 0

theorem Arming.extend {pollfds : List Pollfd} {somethingToPoll : Bool} {deed : Deed}
    (arming : loop.Arming deeds kept pollfds somethingToPoll ⟨rules, world⟩)
    (defunct : rule.defunct world = true)
    (does : loop.Does (deeds ++ [(rule, deed)]) reached) (cancels : deed ≠ .called) :
    loop.Arming (deeds ++ [(rule, deed)]) kept pollfds somethingToPoll reached := by
  have before : deeds <+: deeds ++ [(rule, deed)] := List.prefix_append _ _
  refine ⟨does, ?_, ?_, arming.something_iff⟩
  · refine arming.entries.imp fun rule pollfd entered => ?_
    rcases entered with ⟨seen, passes, alive, entry⟩
    exact ⟨seen, passes.mono before, alive, entry⟩
  · intro other otherDeed member
    rcases List.mem_append.mp member with early | last
    · rcases arming.cancels other otherDeed early with ⟨cancels, seen, passes, defunct⟩
      exact ⟨cancels, seen, passes.mono before, defunct⟩
    · cases List.mem_singleton.mp last
      exact ⟨cancels, world, arming.does.passes.mono before, defunct⟩

theorem direction_events_ne (direction : Direction) : direction.events ≠ 0 := by
  cases direction <;> decide

theorem Arming.enter {pollfds : List Pollfd} {somethingToPoll : Bool}
    (arming : loop.Arming deeds kept pollfds somethingToPoll ⟨kept ++ rule :: rules, world⟩)
    (alive : rule.defunct world = false) :
    loop.Arming deeds (kept ++ [rule]) (pollfds ++ [rule.pollfd world])
      (somethingToPoll || rule.interest world) ⟨kept ++ [rule] ++ rules, world⟩ := by
  refine ⟨?_, ?_, arming.cancels, ?_⟩
  · rw [List.append_assoc]
    exact arming.does
  · exact List.rel_append arming.entries (.cons ⟨world, arming.does.passes, alive, rfl⟩ .nil)
  · have asked : (rule.pollfd world).events ≠ 0 <-> rule.interest world = true := by
      unfold Rule.pollfd
      cases rule.interest world
      · simp
      · simpa using direction_events_ne rule.direction
    rw [Bool.or_eq_true, arming.something_iff, ← asked]
    simp [or_and_right, exists_or]

theorem arm_spec {pollfds : List Pollfd} {somethingToPoll : Bool}
    (arming : loop.Arming deeds kept pollfds somethingToPoll ⟨kept ++ rules, world⟩) :
    match arm kept pollfds somethingToPoll rules world with
    | .ok armed => Exists fun deeds =>
        loop.Arming deeds armed.loop.rules armed.pollfds armed.somethingToPoll armed.loop
    | .error (fault, reached) => Exists fun deeds => Exists fun kept => Exists fun pollfds =>
        Exists fun somethingToPoll => Exists fun thrown => fault = .thrown thrown ∧
          loop.Arming deeds kept pollfds somethingToPoll reached := by
  induction rules generalizing kept pollfds somethingToPoll world deeds with
  | nil =>
      rw [List.append_nil] at arming
      exact ⟨deeds, arming⟩
  | cons rule rules ih =>
      unfold arm
      by_cases defunct : rule.defunct world = true
      · rw [if_pos defunct]
        cases cancelled : rule.cancel world with
        | error thrown =>
            have does := arming.does.keeps cancelled
            exact ⟨_, kept, pollfds, somethingToPoll, _, rfl, arming.extend defunct does nofun⟩
        | ok next =>
            have does := arming.does.drops cancelled
            exact ih (arming.extend defunct does nofun)
      · rw [if_neg defunct]
        exact ih (arming.enter (Bool.eq_false_iff.mpr defunct))

/-! ## Behind the poll -/

/-- What the rules have done so far, each for a reason, when the second loop has gone
through those it keeps. -/
structure Serving (loop : EventLoop Fault World) (armed : List (Rule Fault World))
    (answer : PollAnswer) (deeds : List (Rule Fault World × Deed)) (kept : List (Rule Fault World))
    (reached : EventLoop Fault World) : Prop where
  does : loop.Does deeds reached
  once : (called deeds).Sublist kept
  reasons : forall rule deed, (rule, deed) ∈ deeds ->
    Reason rule (loop.Passes deeds) (Reported answer armed rule) deed

variable {answer : PollAnswer} {pollfds : List Pollfd}

theorem Reason.mono {passes later : World -> Prop} {reported : UInt16 -> Prop} {deed : Deed}
    (reason : Reason rule passes reported deed) (onward : forall seen, passes seen -> later seen) :
    Reason rule later reported deed := by
  cases reason with
  | ready passed alive interested reports ready =>
      exact .ready (onward _ passed) alive interested reports ready
  | defunct cancels passed defunct => exact .defunct cancels (onward _ passed) defunct
  | hungUp cancels passed alive interested reports hup ready =>
      exact .hungUp cancels (onward _ passed) alive interested reports hup ready

theorem Serving.extend {deed : Deed} {others : List (Rule Fault World)}
    (serving : loop.Serving armed answer deeds kept ⟨rules, world⟩)
    (reason : Reason rule (loop.Passes deeds) (Reported answer armed rule) deed)
    (does : loop.Does (deeds ++ [(rule, deed)]) reached)
    (once : (called (deeds ++ [(rule, deed)])).Sublist others) :
    loop.Serving armed answer (deeds ++ [(rule, deed)]) others reached := by
  have onward (seen : World) (passes : loop.Passes deeds seen) :
      loop.Passes (deeds ++ [(rule, deed)]) seen := passes.mono (List.prefix_append _ _)
  refine ⟨does, once, fun other otherDeed member => ?_⟩
  rcases List.mem_append.mp member with early | last
  · exact (serving.reasons other otherDeed early).mono onward
  · cases List.mem_singleton.mp last
    exact reason.mono onward

theorem called_append_called (deeds : List (Rule Fault World × Deed)) (rule : Rule Fault World) :
    called (deeds ++ [(rule, .called)]) = called deeds ++ [rule] := by
  simp [called]

theorem called_append_cancelled (deeds : List (Rule Fault World × Deed))
    (rule : Rule Fault World) {deed : Deed} (cancels : deed ≠ .called) :
    called (deeds ++ [(rule, deed)]) = called deeds := by
  simp [called, cancels]

/-- The entry that the counter finds is that of the rule at the iterator. -/
theorem entry_found (answer : PollAnswer) {i : Nat}
    (entries : List.Forall₂ (loop.Entered deeds) armed pollfds) (found : armed[i]? = some rule) :
    Exists fun seen => loop.Passes deeds seen ∧ rule.defunct seen = false ∧
      (answer.pollfds pollfds)[i]? =
        some { rule.pollfd seen with revents := answer.revents i } := by
  rcases List.getElem?_eq_some_iff.mp found with ⟨inside, rfl⟩
  have room : i < pollfds.length := entries.length_eq ▸ inside
  rcases entries.get inside room with ⟨seen, passes, alive, entry⟩
  refine ⟨seen, passes, alive, answer.pollfds_getElem? ?_ rfl⟩
  rw [List.getElem?_eq_getElem room]
  exact congrArg some entry

/-- Something is asked for only if the rule was interested. -/
theorem pollfd_events (interested : (rule.pollfd seen).events ≠ 0) :
    rule.interest seen = true ∧ (rule.pollfd seen).events = rule.direction.events := by
  unfold Rule.pollfd at interested ⊢
  cases asked : rule.interest seen with
  | false =>
      rw [asked] at interested
      exact absurd rfl interested
  | true => exact ⟨rfl, rfl⟩

theorem reason_of_ready {i : Nat} (found : armed[i]? = some rule)
    (passes : loop.Passes deeds seen) (alive : rule.defunct seen = false)
    (ready : Pollfd.pollReady { rule.pollfd seen with revents := answer.revents i } = true) :
    Reason rule (loop.Passes deeds) (Reported answer armed rule) .called := by
  have both : answer.revents i &&& (rule.pollfd seen).events ≠ 0 := of_decide_eq_true ready
  have interested : (rule.pollfd seen).events ≠ 0 := by
    intro none
    rw [none] at both
    simp at both
  rcases pollfd_events interested with ⟨asked, events⟩
  exact .ready passes alive asked ⟨i, found, rfl⟩ (events ▸ both)

theorem reason_of_hungUp {i : Nat} {deed : Deed} (found : armed[i]? = some rule)
    (passes : loop.Passes deeds seen) (alive : rule.defunct seen = false)
    (hungUp : Pollfd.hungUp { rule.pollfd seen with revents := answer.revents i } = true)
    (cancels : deed ≠ .called) :
    Reason rule (loop.Passes deeds) (Reported answer armed rule) deed := by
  have all : (answer.revents i &&& pollHup ≠ 0 ∧ (rule.pollfd seen).events ≠ 0) ∧
      answer.revents i &&& (rule.pollfd seen).events = 0 := by
    simpa [Pollfd.hungUp, Pollfd.pollReady] using hungUp
  rcases pollfd_events all.1.2 with ⟨asked, events⟩
  exact .hungUp cancels passes alive asked ⟨i, found, rfl⟩ all.1.1 (events ▸ all.2)

/-- Every callback has returned, and it has read or written its descriptor or has lost
interest. -/
def Settled (loop : EventLoop Fault World) (deeds : List (Rule Fault World × Deed)) : Prop :=
  forall before after rule, deeds = before ++ (rule, .called) :: after ->
    Exists fun rules => Exists fun world => Exists fun next => loop.Does before ⟨rules, world⟩ ∧
      rule.callback world = .ok next ∧
        ¬ (rule.serviceCount world = rule.serviceCount next ∧ rule.interest next = true)

theorem Settled.extend {deed : Deed} (settled : loop.Settled deeds)
    (does : loop.Does deeds ⟨rules, world⟩)
    (settles : deed = .called -> Exists fun next => rule.callback world = .ok next ∧
      ¬ (rule.serviceCount world = rule.serviceCount next ∧ rule.interest next = true)) :
    loop.Settled (deeds ++ [(rule, deed)]) := by
  intro before after other split
  rcases List.eq_nil_or_concat after with rfl | ⟨rest, last, rfl⟩
  · rcases List.append_inj' split rfl with ⟨rfl, same⟩
    cases same
    rcases settles rfl with ⟨next, returned, progress⟩
    exact ⟨rules, world, next, does, returned, progress⟩
  · rw [List.concat_eq_append, ← List.cons_append, ← List.append_assoc] at split
    exact settled before rest other (List.append_inj' split rfl).1

/-- What a turn of the second loop does, and where it leads. -/
inductive Turn (pollfds : List Pollfd) (kept : List (Rule Fault World)) (idx : Nat)
    (rule : Rule Fault World) (rules : List (Rule Fault World)) (world : World)
    (result : Except (LoopFault Fault × EventLoop Fault World) (EventLoop Fault World)) : Prop
  | outside (entry : pollfds[idx]? = none)
      (same : result = .error (.outOfRange, ⟨kept ++ rule :: rules, world⟩))
  | broken (same : result = .error (.polledDescriptor, ⟨kept ++ rule :: rules, world⟩))
  | cancelThrows {pollfd : Pollfd} {thrown : Fault × World} (entry : pollfds[idx]? = some pollfd)
      (hungUp : pollfd.hungUp = true) (cancelled : rule.cancel world = .error thrown)
      (same : result = .error (.thrown thrown.1, ⟨kept ++ rule :: rules, thrown.2⟩))
  | cancels {pollfd : Pollfd} {next : World} (entry : pollfds[idx]? = some pollfd)
      (hungUp : pollfd.hungUp = true) (cancelled : rule.cancel world = .ok next)
      (same : result = serve pollfds kept (idx + 1) rules next)
  | callThrows {pollfd : Pollfd} {thrown : Fault × World} (entry : pollfds[idx]? = some pollfd)
      (ready : pollfd.pollReady = true) (called : rule.callback world = .error thrown)
      (same : result = .error (.thrown thrown.1, ⟨kept ++ rule :: rules, thrown.2⟩))
  | busy {pollfd : Pollfd} {next : World} (entry : pollfds[idx]? = some pollfd)
      (ready : pollfd.pollReady = true) (called : rule.callback world = .ok next)
      (idle : rule.serviceCount world = rule.serviceCount next ∧ rule.interest next = true)
      (same : result = .error (.busyWait, ⟨kept ++ rule :: rules, next⟩))
  | calls {pollfd : Pollfd} {next : World} (entry : pollfds[idx]? = some pollfd)
      (ready : pollfd.pollReady = true) (called : rule.callback world = .ok next)
      (progress : ¬ (rule.serviceCount world = rule.serviceCount next ∧ rule.interest next = true))
      (same : result = serve pollfds (kept ++ [rule]) (idx + 1) rules next)
  | passes (same : result = serve pollfds (kept ++ [rule]) (idx + 1) rules world)

theorem serve_turn (pollfds : List Pollfd) (kept : List (Rule Fault World)) (idx : Nat)
    (rule : Rule Fault World) (rules : List (Rule Fault World)) (world : World) :
    Turn pollfds kept idx rule rules world (serve pollfds kept idx (rule :: rules) world) := by
  conv => arg 7; unfold serve
  cases entry : pollfds[idx]? with
  | none => exact .outside entry rfl
  | some pollfd =>
      dsimp only
      by_cases broken : pollfd.pollError = true
      · rw [if_pos broken]
        exact .broken rfl
      rw [if_neg broken]
      by_cases hungUp : pollfd.hungUp = true
      · rw [if_pos hungUp]
        cases cancelled : rule.cancel world with
        | error thrown => exact .cancelThrows entry hungUp cancelled rfl
        | ok next => exact .cancels entry hungUp cancelled rfl
      rw [if_neg hungUp]
      by_cases ready : pollfd.pollReady = true
      · rw [if_pos ready]
        cases called : rule.callback world with
        | error thrown => exact .callThrows entry ready called rfl
        | ok next =>
            dsimp only
            by_cases idle : rule.serviceCount world = rule.serviceCount next ∧
                rule.interest next = true
            · rw [if_pos idle]
              exact .busy entry ready called idle rfl
            · rw [if_neg idle]
              exact .calls entry ready called idle rfl
      · rw [if_neg ready]
        exact .passes rfl

theorem serve_spec {before : List (Rule Fault World × Deed)} {idx : Nat}
    (entries : List.Forall₂ (loop.Entered before) armed pollfds) (inside : before <+: deeds)
    (left : armed.drop idx = rules)
    (serving : loop.Serving armed answer deeds kept ⟨kept ++ rules, world⟩)
    (settled : loop.Settled deeds) :
    match serve (answer.pollfds pollfds) kept idx rules world with
    | .ok reached => Exists fun deeds =>
        loop.Serving armed answer deeds reached.rules reached ∧ loop.Settled deeds
    | .error (fault, reached) => fault ≠ .outOfRange ∧
        Exists fun deeds => loop.Serving armed answer deeds reached.rules reached := by
  induction rules generalizing kept idx world deeds with
  | nil =>
      rw [List.append_nil] at serving
      exact ⟨deeds, serving, settled⟩
  | cons rule rules ih =>
      have found : armed[idx]? = some rule := by
        rw [← List.head?_drop, left]
        rfl
      have rest : armed.drop (idx + 1) = rules := by
        rw [← List.drop_drop, left]
        rfl
      rcases entry_found answer entries found with ⟨seen, passed, alive, entry⟩
      have passes := passed.mono inside
      have onward (deed : Deed) : before <+: deeds ++ [(rule, deed)] :=
        inside.trans (List.prefix_append _ _)
      have grows : kept.Sublist (kept ++ rule :: rules) := List.sublist_append_left _ _
      have here : kept ++ [rule] ++ rules = kept ++ rule :: rules := by simp
      have once : (called (deeds ++ [(rule, .called)])).Sublist (kept ++ [rule]) := by
        rw [called_append_called]
        exact serving.once.append (List.Sublist.refl _)
      have within : (called (deeds ++ [(rule, .called)])).Sublist (kept ++ rule :: rules) :=
        here ▸ once.trans (List.sublist_append_left _ _)
      have asReady {pollfd : Pollfd} (other : (answer.pollfds pollfds)[idx]? = some pollfd)
          (ready : pollfd.pollReady = true) :
          Reason rule (loop.Passes deeds) (Reported answer armed rule) .called := by
        cases entry.symm.trans other
        exact reason_of_ready found passes alive ready
      have asHungUp {pollfd : Pollfd} {deed : Deed}
          (other : (answer.pollfds pollfds)[idx]? = some pollfd) (hungUp : pollfd.hungUp = true)
          (cancels : deed ≠ .called) :
          Reason rule (loop.Passes deeds) (Reported answer armed rule) deed := by
        cases entry.symm.trans other
        exact reason_of_hungUp found passes alive hungUp cancels
      cases serve_turn (answer.pollfds pollfds) kept idx rule rules world with
      | outside other same => cases entry.symm.trans other
      | broken same =>
          rw [same]
          exact ⟨nofun, deeds, serving.does, serving.once.trans grows, serving.reasons⟩
      | cancelThrows other hungUp cancelled same =>
          have cancels : Deed.kept ≠ .called := nofun
          rw [same]
          exact ⟨nofun, _, serving.extend (asHungUp other hungUp cancels)
            (serving.does.keeps cancelled)
            (called_append_cancelled deeds rule cancels ▸ serving.once.trans grows)⟩
      | cancels other hungUp cancelled same =>
          have cancels : Deed.dropped ≠ .called := nofun
          rw [same]
          exact ih (onward .dropped) rest (serving.extend (asHungUp other hungUp cancels)
            (serving.does.drops cancelled)
            (called_append_cancelled deeds rule cancels ▸ serving.once))
            (settled.extend serving.does nofun)
      | callThrows other ready calls same =>
          have does := serving.does.calls
          rw [calls] at does
          rw [same]
          exact ⟨nofun, _, serving.extend (asReady other ready) does within⟩
      | busy other ready calls idle same =>
          have does := serving.does.calls
          rw [calls] at does
          rw [same]
          exact ⟨nofun, _, serving.extend (asReady other ready) does within⟩
      | calls other ready calls progress same =>
          have does := serving.does.calls
          rw [calls, ← here] at does
          rw [same]
          exact ih (onward .called) rest (serving.extend (asReady other ready) does once)
            (settled.extend serving.does fun _ => ⟨_, calls, progress⟩)
      | passes same =>
          rw [same]
          refine ih inside rest ⟨here ▸ serving.does, ?_, serving.reasons⟩ settled
          exact serving.once.trans (List.sublist_append_left _ _)

/-! ## A whole call -/

/-- A call makes the rules act.  Those it calls remain, and it calls them in the order of
the list, each once.  Everything is done for a reason, where the reports are those for the
rules that are left after the first loop. -/
structure Waits (loop : EventLoop Fault World) (answer : PollAnswer)
    (deeds : List (Rule Fault World × Deed)) (reached : EventLoop Fault World) : Prop where
  does : loop.Does deeds reached
  once : (called deeds).Sublist reached.rules
  reasons : Exists fun armed : List (Rule Fault World) => armed.Sublist loop.rules ∧
    forall rule deed, (rule, deed) ∈ deeds ->
      Reason rule (loop.Passes deeds) (Reported answer armed rule) deed

/-- A call that returns has settled everything, and one that throws has not missed an entry. -/
def Ends (loop : EventLoop Fault World) (answer : PollAnswer) :
    Except (LoopFault Fault × EventLoop Fault World) (WaitResult × EventLoop Fault World) -> Prop
  | .ok (_, reached) => Exists fun deeds => loop.Waits answer deeds reached ∧ loop.Settled deeds
  | .error (fault, reached) =>
      fault ≠ .outOfRange ∧ Exists fun deeds => loop.Waits answer deeds reached

theorem Serving.waits (serving : loop.Serving armed answer deeds reached.rules reached)
    (part : armed.Sublist loop.rules) : loop.Waits answer deeds reached :=
  ⟨serving.does, serving.once, armed, part, serving.reasons⟩

/-- Before polling only defunct rules act. -/
theorem Arming.serving {somethingToPoll : Bool}
    (arming : loop.Arming deeds kept pollfds somethingToPoll reached) (answer : PollAnswer)
    (others : List (Rule Fault World)) :
    loop.Serving armed answer deeds others reached ∧ loop.Settled deeds := by
  refine ⟨⟨arming.does, ?_, fun rule deed member => ?_⟩, ?_⟩
  · have none : called deeds = [] := by
      unfold called
      rw [List.map_eq_nil_iff, List.filter_eq_nil_iff]
      intro deed member
      simpa using (arming.cancels deed.1 deed.2 member).1
    rw [none]
    exact List.nil_sublist _
  · rcases arming.cancels rule deed member with ⟨cancels, seen, passes, defunct⟩
    exact .defunct cancels passes defunct
  · intro before after rule split
    have member : (rule, Deed.called) ∈ deeds := by
      rw [split]
      exact List.mem_append_right _ List.mem_cons_self
    exact absurd rfl (arming.cancels rule .called member).1

/-- Behind the poll the rules are gone through, or nothing more is done. -/
theorem polled_cases (loop : EventLoop Fault World) (pollfds : List Pollfd)
    (answer : PollAnswer) :
    loop.polled pollfds answer = .ok (.timeout, loop) ∨
      (answer = .failed eintr ∧ loop.polled pollfds answer = .ok (.exit, loop)) ∨
      loop.polled pollfds answer =
        (serve (answer.pollfds pollfds) [] 0 loop.rules loop.world).map
          fun served => (.success, served) := by
  unfold polled
  cases returns : systemCall "poll" (answer.returnValue pollfds) answer.errno 0 with
  | ok returnValue =>
      dsimp only
      by_cases none : returnValue = 0
      · exact Or.inl (if_pos none)
      · exact Or.inr (Or.inr (if_neg none))
  | error fault =>
      right
      dsimp only
      by_cases interrupted : answer.errno = eintr
      · left
        refine ⟨?_, if_pos interrupted⟩
        cases answer with
        | failed errno => exact congrArg PollAnswer.failed interrupted
        | reported revents => cases interrupted
      · exact Or.inr (if_neg interrupted)

/-- A call sets up the entries, and then it polls or leaves. -/
theorem wait_cases (loop : EventLoop Fault World) (answer : PollAnswer) :
    (Exists fun thrown => arm [] [] false loop.rules loop.world = .error thrown ∧
        loop.waitNextEvent answer = .error thrown) ∨
      Exists fun armed => arm [] [] false loop.rules loop.world = .ok armed ∧
        loop.waitNextEvent answer =
          if armed.somethingToPoll then armed.loop.polled armed.pollfds answer
          else .ok (.exit, armed.loop) := by
  unfold waitNextEvent
  cases arm [] [] false loop.rules loop.world with
  | error thrown => exact Or.inl ⟨thrown, rfl, rfl⟩
  | ok armed => exact Or.inr ⟨armed, rfl, rfl⟩

/-- Whatever the callbacks do and whatever is reported, a call makes the rules act in order,
each for a reason of its own, and it settles what it has begun unless something throws. -/
theorem wait_ends (loop : EventLoop Fault World) (answer : PollAnswer) :
    loop.Ends answer (loop.waitNextEvent answer) := by
  have start : loop.Arming [] [] [] false ⟨[] ++ loop.rules, loop.world⟩ :=
    ⟨.idle, .nil, nofun, by simp⟩
  have sets := arm_spec start
  rcases loop.wait_cases answer with ⟨thrown, arms, throws⟩ | ⟨armed, arms, goes⟩
  · rw [arms] at sets
    rw [throws]
    rcases sets with ⟨deeds, kept, pollfds, something, fault, isThrown, arming⟩
    refine ⟨?_, deeds, (arming.serving answer _).1.waits (List.nil_sublist _)⟩
    rw [isThrown]
    exact nofun
  · rw [arms] at sets
    rcases sets with ⟨deeds, arming⟩
    have part := Acts.sublist arming.does
    have leaves (result : WaitResult) : loop.Ends answer (.ok (result, armed.loop)) := by
      rcases arming.serving answer armed.loop.rules with ⟨serving, settled⟩
      exact ⟨deeds, serving.waits part, settled⟩
    rw [goes]
    by_cases something : armed.somethingToPoll = true
    · rw [if_pos something]
      rcases armed.loop.polled_cases armed.pollfds answer with timeout | ⟨_, exit⟩ | serves
      · rw [timeout]
        exact leaves .timeout
      · rw [exit]
        exact leaves .exit
      · rcases arming.serving answer [] with ⟨serving, settled⟩
        have all : armed.loop.rules.drop 0 = armed.loop.rules := rfl
        have served := serve_spec arming.entries List.prefix_rfl all serving settled
        rw [serves]
        cases result : serve (answer.pollfds armed.pollfds) [] 0 armed.loop.rules
            armed.loop.world with
        | error thrown =>
            rw [result] at served
            rcases served with ⟨inside, deeds, serving⟩
            exact ⟨inside, deeds, serving.waits part⟩
        | ok final =>
            rw [result] at served
            rcases served with ⟨deeds, serving, settled⟩
            exact ⟨deeds, serving.waits part, settled⟩
    · rw [if_neg something]
      exact leaves .exit

/-! ## Invariants of a call -/

/-- An invariant of the two loops.  It may refer to the rules that a loop has gone through,
to those that are still ahead, and before polling to whether there is something to poll.
Behind the poll a rule is only cancelled if there is a hangup. -/
structure Invariant (hangs : Prop)
    (setup : Bool -> List (Rule Fault World) -> List (Rule Fault World) -> World -> Prop)
    (service : List (Rule Fault World) -> List (Rule Fault World) -> World -> Prop) : Prop where
  enters : forall {somethingToPoll kept rule rules world},
    setup somethingToPoll kept (rule :: rules) world -> rule.defunct world = false ->
      setup (somethingToPoll || rule.interest world) (kept ++ [rule]) rules world
  cancels : forall {somethingToPoll kept rule rules world next},
    setup somethingToPoll kept (rule :: rules) world -> rule.defunct world = true ->
      rule.cancel world = .ok next -> setup somethingToPoll kept rules next
  polls : forall {somethingToPoll kept world},
    setup somethingToPoll kept [] world -> service [] kept world
  passes : forall {kept rule rules world},
    service kept (rule :: rules) world -> service (kept ++ [rule]) rules world
  drops : forall {kept rule rules world next}, hangs ->
    service kept (rule :: rules) world -> rule.cancel world = .ok next -> service kept rules next
  calls : forall {kept rule rules world next},
    service kept (rule :: rules) world -> rule.callback world = .ok next ->
      service (kept ++ [rule]) rules next

section

variable {hangs : Prop}
  {setup : Bool -> List (Rule Fault World) -> List (Rule Fault World) -> World -> Prop}
  {service : List (Rule Fault World) -> List (Rule Fault World) -> World -> Prop}

theorem Invariant.arm (invariant : Invariant hangs setup service) {somethingToPoll : Bool}
    {result : Armed Fault World} (start : setup somethingToPoll kept rules world)
    (done : arm kept pollfds somethingToPoll rules world = .ok result) :
    setup result.somethingToPoll result.loop.rules [] result.loop.world := by
  induction rules generalizing kept pollfds somethingToPoll world with
  | nil =>
      cases done
      exact start
  | cons rule rules ih =>
      unfold EventLoop.arm at done
      by_cases defunct : rule.defunct world = true
      · rw [if_pos defunct] at done
        cases cancelled : rule.cancel world with
        | error thrown =>
            rw [cancelled] at done
            cases done
        | ok next =>
            rw [cancelled] at done
            exact ih (invariant.cancels start defunct cancelled) done
      · rw [if_neg defunct] at done
        exact ih (invariant.enters start (Bool.eq_false_iff.mpr defunct)) done

theorem Invariant.pass (invariant : Invariant hangs setup service) (start : service kept rules world) :
    service (kept ++ rules) [] world := by
  induction rules generalizing kept with
  | nil => rwa [List.append_nil]
  | cons rule rules ih =>
      have onward := ih (invariant.passes start)
      rwa [List.append_assoc] at onward

theorem Invariant.serve (invariant : Invariant hangs setup service) {idx : Nat}
    (hangups : forall (i : Nat) (pollfd : Pollfd), pollfds[i]? = some pollfd -> pollfd.hungUp = true ->
      hangs)
    (start : service kept rules world)
    (done : serve pollfds kept idx rules world = .ok reached) :
    service reached.rules [] reached.world := by
  induction rules generalizing kept idx world with
  | nil =>
      cases done
      exact start
  | cons rule rules ih =>
      cases serve_turn pollfds kept idx rule rules world with
      | outside _ same | broken same | cancelThrows _ _ _ same | callThrows _ _ _ same
      | busy _ _ _ _ same => cases same.symm.trans done
      | cancels entry hungUp cancelled same =>
          exact ih (invariant.drops (hangups _ _ entry hungUp) start cancelled)
            (same.symm.trans done)
      | calls _ _ called _ same => exact ih (invariant.calls start called) (same.symm.trans done)
      | passes same => exact ih (invariant.passes start) (same.symm.trans done)

/-- A rule is hung up only if a hangup is reported. -/
theorem hangs_of_hungUp (answer : PollAnswer)
    (entries : List.Forall₂ (loop.Entered deeds) armed pollfds) (i : Nat) (pollfd : Pollfd)
    (entry : (answer.pollfds pollfds)[i]? = some pollfd)
    (hungUp : pollfd.hungUp = true) : answer.Hangs := by
  have inside : i < armed.length := by
    rw [entries.length_eq, ← answer.pollfds_length]
    exact (List.getElem?_eq_some_iff.mp entry).1
  rcases entry_found answer entries (List.getElem?_eq_getElem inside) with
    ⟨seen, _, _, found⟩
  cases found.symm.trans entry
  have all : (answer.revents i &&& pollHup ≠ 0 ∧ (armed[i].pollfd seen).events ≠ 0) ∧
      answer.revents i &&& (armed[i].pollfd seen).events = 0 := by
    simpa [Pollfd.hungUp, Pollfd.pollReady] using hungUp
  exact ⟨i, all.1.1⟩

/-- A call keeps an invariant of its loops.  If it says that there is nothing to do, then
because there is nothing to poll, or it has been interrupted. -/
theorem Invariant.wait (invariant : Invariant answer.Hangs setup service) {result : WaitResult}
    (start : setup false [] loop.rules loop.world)
    (done : loop.waitNextEvent answer = .ok (result, reached)) :
    service reached.rules [] reached.world ∧
      (result = .exit -> setup false reached.rules [] reached.world ∨ answer = .failed eintr) := by
  rcases loop.wait_cases answer with ⟨thrown, _, throws⟩ | ⟨armed, arms, goes⟩
  · cases done.symm.trans throws
  · have begun : loop.Arming [] [] [] false ⟨[] ++ loop.rules, loop.world⟩ :=
      ⟨.idle, .nil, nofun, by simp⟩
    have enters := arm_spec begun
    rw [arms] at enters
    rcases enters with ⟨deeds, arming⟩
    have sets := invariant.arm start arms
    have left : service armed.loop.rules [] armed.loop.world :=
      invariant.pass (invariant.polls sets)
    rw [goes] at done
    by_cases something : armed.somethingToPoll = true
    · rw [if_pos something] at done
      rcases armed.loop.polled_cases armed.pollfds answer with timeout | ⟨failed, exit⟩ | serves
      · cases timeout.symm.trans done
        exact ⟨left, nofun⟩
      · cases exit.symm.trans done
        exact ⟨left, fun _ => Or.inr failed⟩
      · rw [serves] at done
        cases served : EventLoop.serve (answer.pollfds armed.pollfds) [] 0 armed.loop.rules
            armed.loop.world with
        | error thrown =>
            rw [served] at done
            cases done
        | ok last =>
            rw [served] at done
            cases done
            have hangups := hangs_of_hungUp answer arming.entries
            exact ⟨invariant.serve hangups (invariant.polls sets) served, nofun⟩
    · rw [if_neg something] at done
      cases done
      rw [Bool.eq_false_iff.mpr something] at sets
      exact ⟨left, fun _ => Or.inl sets⟩

/-- A fault comes from a rule in a world in which the invariant holds. -/
inductive Throws
    (setup : Bool -> List (Rule Fault World) -> List (Rule Fault World) -> World -> Prop)
    (service : List (Rule Fault World) -> List (Rule Fault World) -> World -> Prop)
    (thrown : Fault × World) : Prop
  | armed {somethingToPoll : Bool} {kept rules : List (Rule Fault World)} {rule : Rule Fault World}
      {world : World} (holds : setup somethingToPoll kept (rule :: rules) world)
      (cancelled : rule.cancel world = .error thrown)
  | dropped {kept rules : List (Rule Fault World)} {rule : Rule Fault World} {world : World}
      (holds : service kept (rule :: rules) world) (cancelled : rule.cancel world = .error thrown)
  | called {kept rules : List (Rule Fault World)} {rule : Rule Fault World} {world : World}
      (holds : service kept (rule :: rules) world) (called : rule.callback world = .error thrown)

theorem Invariant.arm_thrown (invariant : Invariant hangs setup service) {somethingToPoll : Bool}
    {fault : Fault} (start : setup somethingToPoll kept rules world)
    (done : EventLoop.arm kept pollfds somethingToPoll rules world =
      .error (.thrown fault, reached)) : Throws setup service (fault, reached.world) := by
  induction rules generalizing kept pollfds somethingToPoll world with
  | nil => cases done
  | cons rule rules ih =>
      unfold EventLoop.arm at done
      by_cases defunct : rule.defunct world = true
      · rw [if_pos defunct] at done
        cases cancelled : rule.cancel world with
        | error thrown =>
            rw [cancelled] at done
            cases done
            exact .armed start cancelled
        | ok next =>
            rw [cancelled] at done
            exact ih (invariant.cancels start defunct cancelled) done
      · rw [if_neg defunct] at done
        exact ih (invariant.enters start (Bool.eq_false_iff.mpr defunct)) done

theorem Invariant.serve_thrown (invariant : Invariant hangs setup service) {idx : Nat}
    {fault : Fault}
    (hangups : forall (i : Nat) (pollfd : Pollfd), pollfds[i]? = some pollfd -> pollfd.hungUp = true ->
      hangs)
    (start : service kept rules world)
    (done : EventLoop.serve pollfds kept idx rules world = .error (.thrown fault, reached)) :
    Throws setup service (fault, reached.world) := by
  induction rules generalizing kept idx world with
  | nil => cases done
  | cons rule rules ih =>
      cases serve_turn pollfds kept idx rule rules world with
      | outside _ same | broken same | busy _ _ _ _ same => cases same.symm.trans done
      | cancelThrows _ _ cancelled same =>
          cases same.symm.trans done
          exact .dropped start cancelled
      | callThrows _ _ called same =>
          cases same.symm.trans done
          exact .called start called
      | cancels entry hungUp cancelled same =>
          exact ih (invariant.drops (hangups _ _ entry hungUp) start cancelled)
            (same.symm.trans done)
      | calls _ _ called _ same => exact ih (invariant.calls start called) (same.symm.trans done)
      | passes same => exact ih (invariant.passes start) (same.symm.trans done)

theorem Invariant.wait_thrown (invariant : Invariant answer.Hangs setup service) {fault : Fault}
    (start : setup false [] loop.rules loop.world)
    (done : loop.waitNextEvent answer = .error (.thrown fault, reached)) :
    Throws setup service (fault, reached.world) := by
  rcases loop.wait_cases answer with ⟨thrown, arms, throws⟩ | ⟨armed, arms, goes⟩
  · cases throws.symm.trans done
    exact invariant.arm_thrown start arms
  · have begun : loop.Arming [] [] [] false ⟨[] ++ loop.rules, loop.world⟩ :=
      ⟨.idle, .nil, nofun, by simp⟩
    have enters := arm_spec begun
    rw [arms] at enters
    rcases enters with ⟨deeds, arming⟩
    have sets := invariant.arm start arms
    rw [goes] at done
    by_cases something : armed.somethingToPoll = true
    · rw [if_pos something] at done
      rcases armed.loop.polled_cases armed.pollfds answer with timeout | ⟨_, exit⟩ | serves
      · cases timeout.symm.trans done
      · cases exit.symm.trans done
      · rw [serves] at done
        cases served : EventLoop.serve (answer.pollfds armed.pollfds) [] 0 armed.loop.rules
            armed.loop.world with
        | ok last =>
            rw [served] at done
            cases done
        | error thrown =>
            rw [served] at done
            cases done
            have hangups := hangs_of_hungUp answer arming.entries
            exact invariant.serve_thrown hangups (invariant.polls sets) served
    · rw [if_neg something] at done
      cases done

end

/-- Behind a busy wait is a callback that has returned without having done anything. -/
theorem idle_of_busy {idx : Nat} {last : EventLoop Fault World}
    (busy : serve pollfds kept idx rules world = .error (.busyWait, last)) :
    Exists fun rule => rule ∈ rules ∧ Exists fun world => Exists fun next =>
      rule.callback world = .ok next ∧ rule.serviceCount world = rule.serviceCount next ∧
        rule.interest next = true := by
  induction rules generalizing kept idx world with
  | nil => cases busy
  | cons rule rules ih =>
      have later {kept : List (Rule Fault World)} {idx : Nat} {world : World}
          (busy : serve pollfds kept idx rules world = .error (.busyWait, last)) :
          Exists fun other => other ∈ rule :: rules ∧ Exists fun world => Exists fun next =>
            other.callback world = .ok next ∧ other.serviceCount world = other.serviceCount next ∧
              other.interest next = true := by
        rcases ih busy with ⟨other, member, idle⟩
        exact ⟨other, List.mem_cons_of_mem _ member, idle⟩
      cases serve_turn pollfds kept idx rule rules world with
      | outside _ same | broken same | cancelThrows _ _ _ same | callThrows _ _ _ same =>
          cases same.symm.trans busy
      | busy _ _ called idle same =>
          exact ⟨rule, List.mem_cons_self, _, _, called, idle.1, idle.2⟩
      | cancels _ _ _ same | calls _ _ _ _ same | passes same =>
          exact later (same.symm.trans busy)

/-- If no callback returns without having read or written its descriptor or lost interest,
then no call throws for a busy wait. -/
theorem wait_not_busy (loop : EventLoop Fault World) (answer : PollAnswer)
    (services : forall rule, rule ∈ loop.rules -> forall world next,
      rule.callback world = .ok next ->
        ¬ (rule.serviceCount world = rule.serviceCount next ∧ rule.interest next = true))
    (last : EventLoop Fault World) : loop.waitNextEvent answer ≠ .error (.busyWait, last) := by
  intro busy
  have start : loop.Arming [] [] [] false ⟨[] ++ loop.rules, loop.world⟩ :=
    ⟨.idle, .nil, nofun, by simp⟩
  have sets := arm_spec start
  rcases loop.wait_cases answer with ⟨thrown, arms, throws⟩ | ⟨armed, arms, goes⟩
  · rw [arms] at sets
    rcases sets with ⟨_, _, _, _, fault, isThrown, _⟩
    cases throws.symm.trans busy
    cases isThrown
  · rw [arms] at sets
    rcases sets with ⟨deeds, arming⟩
    rw [goes] at busy
    by_cases something : armed.somethingToPoll = true
    · rw [if_pos something] at busy
      rcases armed.loop.polled_cases armed.pollfds answer with timeout | ⟨_, exit⟩ | serves
      · cases timeout.symm.trans busy
      · cases exit.symm.trans busy
      · rw [serves] at busy
        cases served : serve (answer.pollfds armed.pollfds) [] 0 armed.loop.rules
            armed.loop.world with
        | ok final =>
            rw [served] at busy
            cases busy
        | error thrown =>
            rw [served] at busy
            cases busy
            rcases idle_of_busy served with ⟨rule, member, world, next, returned, idle⟩
            exact services rule (arming.does.sublist.subset member) world next returned idle
    · rw [if_neg something] at busy
      cases busy

/-! ## Runs -/

/-- One call after the other, until one throws. -/
def step (loop : EventLoop Fault World) (answer : PollAnswer) :
    Handled (LoopFault Fault) (EventLoop Fault World) :=
  (loop.waitNextEvent answer).map Prod.snd

theorem step_does (loop : EventLoop Fault World) (answer : PollAnswer) :
    Exists fun deeds => loop.Does deeds (loop.step answer).reached := by
  have ends := loop.wait_ends answer
  unfold step
  cases waits : loop.waitNextEvent answer with
  | error thrown =>
      rw [waits] at ends
      rcases ends with ⟨_, deeds, waits⟩
      exact ⟨deeds, waits.does⟩
  | ok returned =>
      rw [waits] at ends
      rcases ends with ⟨deeds, waits, _⟩
      exact ⟨deeds, waits.does⟩

/-- In a run the rules act, too. -/
theorem run_does (loop : EventLoop Fault World) (answers : List PollAnswer) :
    Exists fun deeds => loop.Does deeds (Handled.reached (run step loop answers)) := by
  induction answers generalizing loop with
  | nil => exact ⟨[], .idle⟩
  | cons answer answers ih =>
      rcases loop.step_does answer with ⟨deeds, does⟩
      cases taken : loop.step answer with
      | error thrown =>
          rw [taken] at does
          have stops : run step loop (answer :: answers) = .error thrown := by
            unfold run
            rw [taken]
          rw [stops]
          exact ⟨deeds, does⟩
      | ok next =>
          rw [taken] at does
          rcases ih next with ⟨more, onward⟩
          rw [run_after taken]
          exact ⟨deeds ++ more, Acts.trans does onward⟩

/-- **A rule is cancelled at most once, and that is the last of it.**  In every run of calls
the rules that are gone are those that have been cancelled, the others are still there in
the same order, and behind its cancellation a rule is never called or cancelled again. -/
theorem run_cancels_once (loop : EventLoop Fault World) (distinct : loop.rules.Nodup)
    (answers : List PollAnswer) :
    Exists fun deeds => loop.Does deeds (Handled.reached (run step loop answers)) ∧
      (Handled.reached (run step loop answers)).rules.Sublist loop.rules ∧
      (forall rule, rule ∈ loop.rules ->
        (rule ∉ (Handled.reached (run step loop answers)).rules <->
          (rule, Deed.dropped) ∈ deeds)) ∧
      forall before after rule, deeds = before ++ (rule, .dropped) :: after ->
        forall deed, (rule, deed) ∉ after := by
  rcases loop.run_does answers with ⟨deeds, does⟩
  refine ⟨deeds, does, does.sublist, fun rule member => does.gone_iff distinct member, ?_⟩
  intro before after rule split
  exact does.dropped_once distinct split

/-- A rule that does nothing. -/
def resting (direction : Direction) : Rule Empty FDWrapper where
  fd := id
  direction := direction
  callback := .ok
  interest := fun _ => false
  cancel := .ok

def restingPair : EventLoop Empty FDWrapper where
  rules := [resting .input, resting .output]
  world := { fd := 0, eof := true }

theorem restingPair_cancels_once : Exists fun deeds =>
    restingPair.Does deeds (Handled.reached (run step restingPair [.reported []])) ∧
      (resting .output ∉ (Handled.reached (run step restingPair [.reported []])).rules <->
        (resting .output, Deed.dropped) ∈ deeds) := by
  have apart : resting .input ≠ resting .output := fun same => nomatch congrArg Rule.direction same
  have distinct : restingPair.rules.Nodup := by simp [restingPair, apart]
  rcases restingPair.run_cancels_once distinct [.reported []] with ⟨deeds, does, _, gone, _⟩
  exact ⟨deeds, does, gone (resting .output) (by simp [restingPair])⟩

end EventLoop
end Loop
end Sponge
