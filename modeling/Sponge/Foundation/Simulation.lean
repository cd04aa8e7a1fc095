import Mathlib.Tactic.Common

namespace Sponge
namespace Foundation

/-!
# Machines that answer, and simulations between them

A machine takes an operation and either faults or gives an answer and its next
state.  Playing a list of operations collects the answers up to the first
fault.  If one machine simulates another step by step, then the two give the
same answers to every list of operations, up to a translation of operations
and answers.  Nothing here refers to a particular machine.
-/

variable {State Other Label OtherLabel Answer OtherAnswer Fault : Type}

/-- The answers to a list of operations, and how the play ends. -/
def play (step : State -> Label -> Except Fault (State × Answer)) :
    State -> List Label -> List Answer × Except Fault State
  | state, [] => ([], .ok state)
  | state, label :: labels =>
      match step state label with
      | .error fault => ([], .error fault)
      | .ok (next, answer) =>
          ((answer :: (play step next labels).1), (play step next labels).2)

/-- Every step of the play meets a condition on the state before it and the
operation performed. -/
def PlayMeets (step : State -> Label -> Except Fault (State × Answer))
    (condition : State -> Label -> Prop) : State -> List Label -> Prop
  | _, [] => True
  | state, label :: labels =>
      condition state label ∧
        match step state label with
        | .ok (next, _) => PlayMeets step condition next labels
        | .error _ => True

theorem PlayMeets.tail {step : State -> Label -> Except Fault (State × Answer)}
    {condition : State -> Label -> Prop} {state next : State} {answer : Answer} {label : Label}
    {labels : List Label} (meets : PlayMeets step condition state (label :: labels))
    (taken : step state label = .ok (next, answer)) : PlayMeets step condition next labels := by
  have rest := meets.2
  rw [taken] at rest
  exact rest

instance decidablePlayMeets (step : State -> Label -> Except Fault (State × Answer))
    (condition : State -> Label -> Prop)
    [decision : forall state label, Decidable (condition state label)] :
    forall state labels, Decidable (PlayMeets step condition state labels)
  | _, [] => .isTrue trivial
  | state, label :: labels =>
      match decision state label with
      | .isFalse fails => .isFalse (fun meets => fails meets.1)
      | .isTrue holds =>
          match taken : step state label with
          | .error _ => .isTrue ⟨holds, by rw [taken]; trivial⟩
          | .ok (next, _) =>
              match decidablePlayMeets step condition next labels with
              | .isTrue rest => .isTrue ⟨holds, by rw [taken]; exact rest⟩
              | .isFalse fails => .isFalse (fun meets => fails (meets.tail taken))

/-- Two outcomes agree: both are the same fault, or both are states in the
relation. -/
inductive EndsAlike (relation : State -> Other -> Prop) :
    Except Fault State -> Except Fault Other -> Prop
  | fault (fault : Fault) : EndsAlike relation (.error fault) (.error fault)
  | state {next : State} {other : Other} (related : relation next other) :
      EndsAlike relation (.ok next) (.ok other)

/-- Two steps agree: both fault alike, or the answers correspond and the
next states are in the relation. -/
inductive AnswersAlike (relation : State -> Other -> Prop) (translate : Answer -> OtherAnswer) :
    Except Fault (State × Answer) -> Except Fault (Other × OtherAnswer) -> Prop
  | fault (fault : Fault) : AnswersAlike relation translate (.error fault) (.error fault)
  | answer {next : State} {other : Other} (answer : Answer) (related : relation next other) :
      AnswersAlike relation translate (.ok (next, answer)) (.ok (other, translate answer))

/-- The rule for simulations under a condition on the steps taken. -/
theorem play_simulates_of_meets {step : State -> Label -> Except Fault (State × Answer)}
    {otherStep : Other -> OtherLabel -> Except Fault (Other × OtherAnswer)}
    (relation : State -> Other -> Prop) (rename : Label -> OtherLabel)
    (translate : Answer -> OtherAnswer) {condition : State -> Label -> Prop}
    (simulates : forall state other label, relation state other -> condition state label ->
      AnswersAlike relation translate (step state label) (otherStep other (rename label)))
    {state : State} {other : Other} (start : relation state other) {labels : List Label}
    (meets : PlayMeets step condition state labels) :
    (play otherStep other (labels.map rename)).1 = (play step state labels).1.map translate ∧
      EndsAlike relation (play step state labels).2
        (play otherStep other (labels.map rename)).2 := by
  induction labels generalizing state other with
  | nil => exact ⟨rfl, .state start⟩
  | cons label labels ih =>
      have alike := simulates state other label start meets.1
      have onward := meets.2
      unfold play
      rw [List.map_cons]
      dsimp only
      generalize step state label = outcome at alike onward
      generalize otherStep other (rename label) = otherOutcome at alike
      cases alike with
      | fault fault => exact ⟨rfl, .fault fault⟩
      | answer answer related =>
          rcases ih related onward with ⟨answers, ends⟩
          refine ⟨?_, ends⟩
          dsimp only
          rw [answers, List.map_cons]

theorem playMeets_of_forall {step : State -> Label -> Except Fault (State × Answer)}
    {condition : State -> Label -> Prop} (always : forall state label, condition state label)
    (state : State) (labels : List Label) : PlayMeets step condition state labels := by
  induction labels generalizing state with
  | nil => exact trivial
  | cons label labels ih =>
      refine ⟨always state label, ?_⟩
      cases step state label with
      | error fault => exact trivial
      | ok result => exact ih result.1

/-- The rule for simulations: what one step respects, every play respects. -/
theorem play_simulates {step : State -> Label -> Except Fault (State × Answer)}
    {otherStep : Other -> OtherLabel -> Except Fault (Other × OtherAnswer)}
    (relation : State -> Other -> Prop) (rename : Label -> OtherLabel)
    (translate : Answer -> OtherAnswer)
    (simulates : forall state other label, relation state other ->
      AnswersAlike relation translate (step state label) (otherStep other (rename label)))
    {state : State} {other : Other} (start : relation state other) (labels : List Label) :
    (play otherStep other (labels.map rename)).1 = (play step state labels).1.map translate ∧
      EndsAlike relation (play step state labels).2
        (play otherStep other (labels.map rename)).2 := by
  have unrestricted : PlayMeets step (fun _ _ => True) state labels :=
    playMeets_of_forall (fun _ _ => trivial) state labels
  exact play_simulates_of_meets relation rename translate
    (fun state other label related _ => simulates state other label related) start unrestricted

end Foundation
end Sponge
