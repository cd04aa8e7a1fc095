import Mathlib.Algebra.GroupWithZero.Nat
import Mathlib.Tactic.Common

namespace Sponge
namespace Foundation

/-!
# Finite runs of a fallible step function

A component is driven by a list of operations.  Each operation either
produces the next state or a fault, and a fault stops the run.  Quantifying
over every list of operations covers every state a run passes through, since
a prefix of a run is a run.

The rules below turn a fact about one step into a fact about whole runs.
They name no component: states, operations and faults are arbitrary types.
-/

variable {State Label Fault : Type}

/-- Perform the operations one after the other, stopping at the first fault. -/
def run (step : State -> Label -> Except Fault State) : State -> List Label -> Except Fault State
  | state, [] => .ok state
  | state, label :: labels =>
      match step state label with
      | .ok next => run step next labels
      | .error fault => .error fault

/-- Every step of the run meets a condition on the state before the step
and the operation performed. -/
def RunMeets (step : State -> Label -> Except Fault State) (condition : State -> Label -> Prop) :
    State -> List Label -> Prop
  | _, [] => True
  | state, label :: labels =>
      condition state label ∧
        match step state label with
        | .ok next => RunMeets step condition next labels
        | .error _ => True

theorem run_cons {step : State -> Label -> Except Fault State} {state final : State}
    {label : Label} {labels : List Label} (done : run step state (label :: labels) = .ok final) :
    Exists fun next => step state label = .ok next ∧ run step next labels = .ok final := by
  unfold run at done
  cases taken : step state label with
  | ok next =>
      rw [taken] at done
      exact ⟨next, rfl, done⟩
  | error fault =>
      rw [taken] at done
      cases done

/-- A run behind a step that was taken. -/
theorem run_after {step : State -> Label -> Except Fault State} {state next : State}
    {label : Label} (taken : step state label = .ok next) (labels : List Label) :
    run step state (label :: labels) = run step next labels := by
  conv_lhs => unfold run
  rw [taken]

/-- A run behind a run. -/
theorem run_append {step : State -> Label -> Except Fault State} {state middle : State}
    {first : List Label} (done : run step state first = .ok middle) (second : List Label) :
    run step state (first ++ second) = run step middle second := by
  induction first generalizing state with
  | nil =>
      cases done
      rfl
  | cons label labels ih =>
      rcases run_cons done with ⟨next, taken, rest⟩
      rw [List.cons_append, run_after taken]
      exact ih rest

theorem RunMeets.head {step : State -> Label -> Except Fault State}
    {condition : State -> Label -> Prop} {state : State} {label : Label} {labels : List Label}
    (meets : RunMeets step condition state (label :: labels)) : condition state label :=
  meets.1

theorem RunMeets.tail {step : State -> Label -> Except Fault State}
    {condition : State -> Label -> Prop} {state next : State} {label : Label}
    {labels : List Label} (meets : RunMeets step condition state (label :: labels))
    (taken : step state label = .ok next) : RunMeets step condition next labels := by
  have rest := meets.2
  rw [taken] at rest
  exact rest

/-- A condition that always holds restricts no run. -/
theorem runMeets_of_forall {step : State -> Label -> Except Fault State}
    {condition : State -> Label -> Prop} (always : forall state label, condition state label)
    (state : State) (labels : List Label) : RunMeets step condition state labels := by
  induction labels generalizing state with
  | nil => exact trivial
  | cons label labels ih =>
      refine ⟨always state label, ?_⟩
      cases step state label with
      | ok next => exact ih next
      | error fault => exact trivial

/-- What every step preserves, every run preserves. -/
theorem run_invariant {step : State -> Label -> Except Fault State} (invariant : State -> Prop)
    (preserved : forall state label next, invariant state -> step state label = .ok next ->
      invariant next)
    {state final : State} {labels : List Label} (start : invariant state)
    (done : run step state labels = .ok final) : invariant final := by
  induction labels generalizing state with
  | nil =>
      cases done
      exact start
  | cons label labels ih =>
      rcases run_cons done with ⟨next, taken, rest⟩
      exact ih (preserved state label next start taken) rest

/-- What every step meeting the condition preserves, every run whose steps
all meet it preserves. -/
theorem run_invariant_of_meets {step : State -> Label -> Except Fault State}
    {condition : State -> Label -> Prop} (invariant : State -> Prop)
    (preserved : forall state label next, invariant state -> condition state label ->
      step state label = .ok next -> invariant next)
    {state final : State} {labels : List Label} (start : invariant state)
    (meets : RunMeets step condition state labels)
    (done : run step state labels = .ok final) : invariant final := by
  induction labels generalizing state with
  | nil =>
      cases done
      exact start
  | cons label labels ih =>
      rcases run_cons done with ⟨next, taken, rest⟩
      exact ih (preserved state label next start meets.head taken) (meets.tail taken) rest

/-- A bound that a step can only lose holds all along a run that ends
within it. -/
theorem run_bound {step : State -> Label -> Except Fault State} (bound : State -> Prop)
    (backward : forall state label next, step state label = .ok next -> bound next -> bound state)
    {state final : State} {labels : List Label}
    (done : run step state labels = .ok final) (within : bound final) : bound state := by
  induction labels generalizing state with
  | nil =>
      cases done
      exact within
  | cons label labels ih =>
      rcases run_cons done with ⟨next, taken, rest⟩
      exact backward state label next taken (ih rest)

/-- The invariant rule for runs that end within a bound: the step need only
preserve the invariant when its result is still within the bound, and may
use the step's condition. -/
theorem run_invariant_within {step : State -> Label -> Except Fault State}
    {condition : State -> Label -> Prop} (bound invariant : State -> Prop)
    (backward : forall state label next, step state label = .ok next -> bound next -> bound state)
    (preserved : forall state label next, invariant state -> condition state label ->
      step state label = .ok next -> bound next -> invariant next)
    {state final : State} {labels : List Label} (start : invariant state)
    (meets : RunMeets step condition state labels)
    (done : run step state labels = .ok final) (within : bound final) : invariant final := by
  induction labels generalizing state with
  | nil =>
      cases done
      exact start
  | cons label labels ih =>
      rcases run_cons done with ⟨next, taken, rest⟩
      have nextWithin := run_bound bound backward rest within
      exact ih (preserved state label next start meets.head taken nextWithin)
        (meets.tail taken) rest

/-- If, from a good state, a step leads to a good state exactly when it meets
the condition, then a run passes through good states only exactly when all its
steps meet the condition.  All this may rest on a guard that the steps of the run
satisfy. -/
theorem runMeets_iff_guarded {step : State -> Label -> Except Fault State}
    {guard condition : State -> Label -> Prop} (bound invariant good : State -> Prop)
    (backward : forall state label next, step state label = .ok next -> bound next -> bound state)
    (preserved : forall state label next, invariant state -> guard state label ->
      step state label = .ok next -> good next -> invariant next)
    (exactly : forall state label next, invariant state -> good state -> guard state label ->
      step state label = .ok next -> bound next -> (condition state label <-> good next))
    {state final : State} {labels : List Label} (start : invariant state) (first : good state)
    (guarded : RunMeets step guard state labels)
    (done : run step state labels = .ok final) (within : bound final) :
    RunMeets step condition state labels <->
      forall before reached, before <+: labels -> run step state before = .ok reached ->
        good reached := by
  induction labels generalizing state with
  | nil =>
      constructor
      · intro _ before reached inside arrives
        rw [List.prefix_nil.mp inside] at arrives
        cases arrives
        exact first
      · intro _
        exact trivial
  | cons label labels ih =>
      rcases run_cons done with ⟨next, taken, rest⟩
      have nextWithin := run_bound bound backward rest within
      have here := exactly state label next start first guarded.head taken nextWithin
      have kept := preserved state label next start guarded.head taken
      have onward := guarded.tail taken
      constructor
      · intro meets before reached inside arrives
        have nextGood := here.mp meets.head
        cases before with
        | nil =>
            cases arrives
            exact first
        | cons other before =>
            rcases List.cons_prefix_cons.mp inside with ⟨rfl, inner⟩
            rw [run_after taken] at arrives
            exact (ih (kept nextGood) nextGood onward rest).mp (meets.tail taken) before reached
              inner arrives
      · intro everywhere
        have onStep (before : List Label) (reached : State) (inner : before <+: labels)
            (arrives : run step next before = .ok reached) : good reached := by
          apply everywhere (label :: before) reached (List.cons_prefix_cons.mpr ⟨rfl, inner⟩)
          rw [run_after taken]
          exact arrives
        have nextGood := onStep [] next List.nil_prefix rfl
        refine ⟨here.mpr nextGood, ?_⟩
        rw [taken]
        exact (ih (kept nextGood) nextGood onward rest).mpr onStep

/-- The same without a guard. -/
theorem runMeets_iff {step : State -> Label -> Except Fault State}
    {condition : State -> Label -> Prop} (bound invariant good : State -> Prop)
    (backward : forall state label next, step state label = .ok next -> bound next -> bound state)
    (preserved : forall state label next, invariant state -> step state label = .ok next ->
      invariant next)
    (exactly : forall state label next, invariant state -> good state ->
      step state label = .ok next -> bound next -> (condition state label <-> good next))
    {state final : State} {labels : List Label} (start : invariant state) (first : good state)
    (done : run step state labels = .ok final) (within : bound final) :
    RunMeets step condition state labels <->
      forall before reached, before <+: labels -> run step state before = .ok reached ->
        good reached :=
  runMeets_iff_guarded bound invariant good backward
    (fun state label next kept _ taken _ => preserved state label next kept taken)
    (fun state label next kept here _ taken below =>
      exactly state label next kept here taken below)
    start first (runMeets_of_forall (fun _ _ => trivial) state labels) done within

/-- The same for what holds between an earlier and a later state: if a step meets
the condition exactly when its two states are related, then all steps of a run
meet it exactly when every state is related to every later one. -/
theorem runMeets_iff_related {step : State -> Label -> Except Fault State}
    {condition : State -> Label -> Prop} (bound invariant : State -> Prop)
    (related : State -> State -> Prop) (refl : forall state, related state state)
    (trans : forall first second third, related first second -> related second third ->
      related first third)
    (backward : forall state label next, step state label = .ok next -> bound next -> bound state)
    (preserved : forall state label next, invariant state -> step state label = .ok next ->
      invariant next)
    (exactly : forall state label next, invariant state -> step state label = .ok next ->
      bound next -> (condition state label <-> related state next))
    {state final : State} {labels : List Label} (start : invariant state)
    (done : run step state labels = .ok final) (within : bound final) :
    RunMeets step condition state labels <->
      forall before after middle reached, before ++ after <+: labels ->
        run step state before = .ok middle -> run step middle after = .ok reached ->
          related middle reached := by
  induction labels generalizing state with
  | nil =>
      constructor
      · intro _ before after middle reached inside arrives onward
        rcases List.append_eq_nil_iff.mp (List.prefix_nil.mp inside) with ⟨rfl, rfl⟩
        cases arrives
        cases onward
        exact refl state
      · intro _
        exact trivial
  | cons label labels ih =>
      rcases run_cons done with ⟨next, taken, rest⟩
      have nextWithin := run_bound bound backward rest within
      have here := exactly state label next start taken nextWithin
      have kept := preserved state label next start taken
      constructor
      · intro meets before after middle reached inside arrives onward
        have later := (ih kept rest).mp (meets.tail taken)
        cases before with
        | nil =>
            cases arrives
            cases after with
            | nil =>
                cases onward
                exact refl state
            | cons other after =>
                rcases List.cons_prefix_cons.mp inside with ⟨rfl, inner⟩
                rw [run_after taken] at onward
                exact trans state next reached (here.mp meets.head)
                  (later [] after next reached inner rfl onward)
        | cons other before =>
            rcases List.cons_prefix_cons.mp inside with ⟨rfl, inner⟩
            rw [run_after taken] at arrives
            exact later before after middle reached inner arrives onward
      · intro everywhere
        refine ⟨here.mpr (everywhere [] [label] state next
          (List.prefix_append [label] labels) rfl (run_after taken [])), ?_⟩
        rw [taken]
        refine (ih kept rest).mpr ?_
        intro before after middle reached inner arrives onward
        apply everywhere (label :: before) after middle reached
          (List.cons_prefix_cons.mpr ⟨rfl, inner⟩) _ onward
        rw [run_after taken]
        exact arrives

/-- The same for what is observed of the single operations: if one meets the
condition exactly when it is seen to behave, then all operations of a run meet it
exactly when each, performed in the state the ones before it reach, behaves. -/
theorem runMeets_iff_performed {step : State -> Label -> Except Fault State}
    {condition : State -> Label -> Prop} (bound invariant : State -> Prop)
    (behaves : State -> Label -> Prop)
    (backward : forall state label next, step state label = .ok next -> bound next -> bound state)
    (preserved : forall state label next, invariant state -> step state label = .ok next ->
      invariant next)
    (exactly : forall state label next, invariant state -> step state label = .ok next ->
      bound next -> (condition state label <-> behaves state label))
    {state final : State} {labels : List Label} (start : invariant state)
    (done : run step state labels = .ok final) (within : bound final) :
    RunMeets step condition state labels <->
      forall before label reached, before ++ [label] <+: labels ->
        run step state before = .ok reached -> behaves reached label := by
  induction labels generalizing state with
  | nil =>
      constructor
      · intro _ before label reached inside arrives
        exact absurd (List.prefix_nil.mp inside) (by simp)
      · intro _
        exact trivial
  | cons label labels ih =>
      rcases run_cons done with ⟨next, taken, rest⟩
      have nextWithin := run_bound bound backward rest within
      have here := exactly state label next start taken nextWithin
      have later := ih (preserved state label next start taken) rest
      constructor
      · intro meets before last reached inside arrives
        cases before with
        | nil =>
            rcases List.cons_prefix_cons.mp inside with ⟨rfl, _⟩
            cases arrives
            exact here.mp meets.head
        | cons other before =>
            rcases List.cons_prefix_cons.mp inside with ⟨rfl, inner⟩
            rw [run_after taken] at arrives
            exact later.mp (meets.tail taken) before last reached inner arrives
      · intro everywhere
        refine ⟨here.mpr (everywhere [] label state (List.prefix_append [label] labels) rfl), ?_⟩
        rw [taken]
        refine later.mpr ?_
        intro before last reached inner arrives
        apply everywhere (label :: before) last reached (List.cons_prefix_cons.mpr ⟨rfl, inner⟩)
        rw [run_after taken]
        exact arrives

/-- What every operation that meets the condition does, every operation of a run
does whose operations all meet it. -/
theorem performed_of_meets {step : State -> Label -> Except Fault State}
    {condition : State -> Label -> Prop} (invariant : State -> Prop)
    (behaves : State -> Label -> State -> Prop)
    (each : forall state label next, invariant state -> condition state label ->
      step state label = .ok next -> invariant next ∧ behaves state label next)
    {state : State} {labels : List Label} (start : invariant state)
    (meets : RunMeets step condition state labels) :
    forall before label reached next, before ++ [label] <+: labels ->
      run step state before = .ok reached -> step reached label = .ok next ->
        behaves reached label next := by
  induction labels generalizing state with
  | nil =>
      intro before label reached next inside
      exact absurd (List.prefix_nil.mp inside) (by simp)
  | cons first labels ih =>
      intro before label reached next inside arrives taken
      cases before with
      | nil =>
          rcases List.cons_prefix_cons.mp inside with ⟨rfl, _⟩
          cases arrives
          exact (each _ _ _ start meets.head taken).2
      | cons other before =>
          rcases List.cons_prefix_cons.mp inside with ⟨rfl, inner⟩
          rcases run_cons arrives with ⟨middle, begins, onward⟩
          have kept := (each _ _ _ start meets.head begins).1
          exact ih kept (meets.tail begins) before label reached next inner onward taken

/-- Two runs of the same operations keep a relation that every pair of steps
respects. -/
theorem run_related {step : State -> Label -> Except Fault State}
    (related : State -> State -> Prop)
    (respected : forall state other label next otherNext, related state other ->
      step state label = .ok next -> step other label = .ok otherNext -> related next otherNext)
    {state other final otherFinal : State} {labels : List Label} (start : related state other)
    (done : run step state labels = .ok final)
    (otherDone : run step other labels = .ok otherFinal) : related final otherFinal := by
  induction labels generalizing state other with
  | nil =>
      cases done
      cases otherDone
      exact start
  | cons label labels ih =>
      rcases run_cons done with ⟨next, taken, rest⟩
      rcases run_cons otherDone with ⟨otherNext, otherTaken, otherRest⟩
      exact ih (respected state other label next otherNext start taken otherTaken) rest otherRest

/-- A run pays for its steps.  While the state waits, each step takes its cost out of the
budget, or the wait is over for good; so a run that costs more than the budget ends the wait. -/
theorem run_spends {step : State -> Label -> Except Fault State} (waits settled : State -> Prop)
    (budget : State -> Nat) (cost : Label -> Nat)
    (stays : forall state label next, settled state -> step state label = .ok next -> settled next)
    {state final : State} {labels : List Label}
    (pays : forall state label next, label ∈ labels -> waits state ->
      step state label = .ok next ->
        waits next ∧ budget next + cost label ≤ budget state ∨ settled next)
    (start : waits state) (done : run step state labels = .ok final) :
    waits final ∧ budget final + (labels.map cost).sum ≤ budget state ∨ settled final := by
  induction labels generalizing state with
  | nil =>
      cases done
      exact Or.inl ⟨start, Nat.le_refl _⟩
  | cons label labels ih =>
      rcases run_cons done with ⟨next, taken, rest⟩
      rcases pays state label next List.mem_cons_self start taken with ⟨still, spent⟩ | ended
      · have later := ih
          (fun state label next member => pays state label next (List.mem_cons_of_mem _ member))
          still rest
        refine later.imp_left fun ⟨last, left⟩ => ⟨last, ?_⟩
        rw [List.map_cons, List.sum_cons]
        omega
      · exact Or.inr (run_invariant settled stays ended rest)

/-- The converse.  While the reserve exceeds what a step costs the step meets the condition, and
then it takes no more than its cost out of the reserve; so a run that costs less than the reserve
meets the condition throughout. -/
theorem run_lasts {step : State -> Label -> Except Fault State}
    {guard condition : State -> Label -> Prop} (holds : State -> Prop) (reserve : State -> Nat)
    (cost : Label -> Nat)
    (meets : forall state label, holds state -> guard state label -> cost label < reserve state ->
      condition state label)
    (lasts : forall state label next, holds state -> guard state label ->
      condition state label -> step state label = .ok next ->
        holds next ∧ reserve state ≤ reserve next + cost label)
    {state : State} {labels : List Label} (start : holds state)
    (guarded : RunMeets step guard state labels)
    (early : (labels.map cost).sum < reserve state) : RunMeets step condition state labels := by
  induction labels generalizing state with
  | nil => exact trivial
  | cons label labels ih =>
      rw [List.map_cons, List.sum_cons] at early
      have here := meets state label start guarded.head (by omega)
      refine ⟨here, ?_⟩
      cases taken : step state label with
      | error fault => exact trivial
      | ok next =>
          rcases lasts state label next start guarded.head here taken with ⟨still, left⟩
          exact ih still (guarded.tail taken) (by omega)

/-- A run goes through, or it stops at a fault in a state it has reached. -/
theorem run_or_stops (step : State -> Label -> Except Fault State) (state : State)
    (labels : List Label) :
    (Exists fun final => run step state labels = .ok final) ∨
      Exists fun before => Exists fun label => Exists fun reached => Exists fun fault =>
        before ++ [label] <+: labels ∧ run step state before = .ok reached ∧
          step reached label = .error fault := by
  induction labels generalizing state with
  | nil => exact Or.inl ⟨state, rfl⟩
  | cons label labels ih =>
      cases taken : step state label with
      | error fault =>
          exact Or.inr ⟨[], label, state, fault, List.prefix_append [label] labels, rfl, taken⟩
      | ok next =>
          rw [run_after taken]
          rcases ih next with through | ⟨before, other, reached, fault, inside, done, failed⟩
          · exact Or.inl through
          · refine Or.inr ⟨label :: before, other, reached, fault, ?_, ?_, failed⟩
            · exact List.cons_prefix_cons.mpr ⟨rfl, inside⟩
            · rw [run_after taken]
              exact done

instance decidableRunMeets (step : State -> Label -> Except Fault State)
    (condition : State -> Label -> Prop)
    [decision : forall state label, Decidable (condition state label)] :
    forall state labels, Decidable (RunMeets step condition state labels)
  | _, [] => .isTrue trivial
  | state, label :: labels =>
      match decision state label with
      | .isFalse fails => .isFalse (fun meets => fails meets.head)
      | .isTrue holds =>
          match taken : step state label with
          | .error _ => .isTrue ⟨holds, by rw [taken]; trivial⟩
          | .ok next =>
              match decidableRunMeets step condition next labels with
              | .isTrue rest => .isTrue ⟨holds, by rw [taken]; exact rest⟩
              | .isFalse fails => .isFalse (fun meets => fails (meets.tail taken))

/-- Perform a concrete run and check the state it ends in. -/
def endsIn (step : State -> Label -> Except Fault State) (check : State -> Bool)
    (state : State) (labels : List Label) : Bool :=
  match run step state labels with
  | .ok final => check final
  | .error _ => false

theorem run_of_endsIn {step : State -> Label -> Except Fault State} {check : State -> Bool}
    {state : State} {labels : List Label} (checked : endsIn step check state labels = true) :
    Exists fun final => run step state labels = .ok final ∧ check final = true := by
  unfold endsIn at checked
  cases done : run step state labels with
  | ok final =>
      rw [done] at checked
      exact ⟨final, rfl, checked⟩
  | error fault =>
      rw [done] at checked
      cases checked

end Foundation
end Sponge
