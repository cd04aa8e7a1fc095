import Mathlib.Tactic.Common

namespace Sponge
namespace Foundation

/-!
# Handlers that come and go

Handlers act on a state they share.  A handler can be called any number of times, and
it can be dropped, which is the last thing it does.  Both may throw, and what was done
up to there stays done.  An invariant that calling and dropping keep holds whatever
the handlers do in whatever order, and a handler that has been dropped does nothing
more.  Nothing here refers to particular handlers.
-/

variable {Handler State Fault : Type}

/-- The outcome of a method that may throw.  A thrown exception comes with the state that
had been reached. -/
abbrev Handled (Fault State : Type) := Except (Fault × State) State

def Handled.reached : Handled Fault State -> State
  | .ok state => state
  | .error thrown => thrown.2

/-- The method keeps the invariant, whether it returns or throws. -/
def Keeps (invariant : State -> Prop) (method : State -> Handled Fault State) : Prop :=
  forall state, invariant state -> invariant (method state).reached

theorem Keeps.of_ok {invariant : State -> Prop} {method : State -> Handled Fault State}
    (keeps : Keeps invariant method) {state next : State} (start : invariant state)
    (done : method state = .ok next) : invariant next := by
  have kept := keeps state start
  rw [done] at kept
  exact kept

theorem Keeps.of_error {invariant : State -> Prop} {method : State -> Handled Fault State}
    (keeps : Keeps invariant method) {state : State} {thrown : Fault × State}
    (start : invariant state) (failed : method state = .error thrown) : invariant thrown.2 := by
  have kept := keeps state start
  rw [failed] at kept
  exact kept

/-- The method has returned in a state with a property, or what it has thrown has another one. -/
def Handled.Ends (after : State -> Prop) (throws : Fault × State -> Prop) :
    Handled Fault State -> Prop
  | .ok next => after next
  | .error thrown => throws thrown

theorem Handled.Ends.imp {after later : State -> Prop} {throws : Fault × State -> Prop}
    {outcome : Handled Fault State} (ends : outcome.Ends after throws)
    (onward : forall next, after next -> later next) : outcome.Ends later throws := by
  cases outcome with
  | ok next => exact onward next ends
  | error thrown => exact ends

/-- From a state with a property the method ends like this. -/
def Ensures (before after : State -> Prop) (throws : Fault × State -> Prop)
    (method : State -> Handled Fault State) : Prop :=
  forall state, before state -> (method state).Ends after throws

/-- What a handler does.  If dropping it throws, the handler stays. -/
inductive Deed where
  | called
  | dropped
  | kept
deriving DecidableEq, Repr

/-- The handlers act, one deed after the other. -/
inductive Acts (call drop : Handler -> State -> Handled Fault State) (handlers : List Handler)
    (start : State) : List (Handler × Deed) -> List Handler -> State -> Prop
  | idle : Acts call drop handlers start [] handlers start
  | calls {before after : List Handler} {handler : Handler} {state : State}
      {deeds : List (Handler × Deed)}
      (acts : Acts call drop handlers start deeds (before ++ handler :: after) state) :
      Acts call drop handlers start (deeds ++ [(handler, .called)]) (before ++ handler :: after)
        (call handler state).reached
  | drops {before after : List Handler} {handler : Handler} {state next : State}
      {deeds : List (Handler × Deed)}
      (acts : Acts call drop handlers start deeds (before ++ handler :: after) state)
      (done : drop handler state = .ok next) :
      Acts call drop handlers start (deeds ++ [(handler, .dropped)]) (before ++ after) next
  | keeps {before after : List Handler} {handler : Handler} {state : State}
      {thrown : Fault × State} {deeds : List (Handler × Deed)}
      (acts : Acts call drop handlers start deeds (before ++ handler :: after) state)
      (failed : drop handler state = .error thrown) :
      Acts call drop handlers start (deeds ++ [(handler, .kept)]) (before ++ handler :: after)
        thrown.2

namespace Acts

variable {call drop : Handler -> State -> Handled Fault State} {handlers left final : List Handler}
  {handler : Handler} {start middle state : State} {deeds more : List (Handler × Deed)}

theorem trans (first : Acts call drop handlers start deeds left middle)
    (second : Acts call drop left middle more final state) :
    Acts call drop handlers start (deeds ++ more) final state := by
  induction second with
  | idle =>
      rw [List.append_nil]
      exact first
  | calls _ ih =>
      rw [← List.append_assoc]
      exact .calls ih
  | drops _ done ih =>
      rw [← List.append_assoc]
      exact .drops ih done
  | keeps _ failed ih =>
      rw [← List.append_assoc]
      exact .keeps ih failed

/-- Who is left was there before, in the same order. -/
theorem sublist (acts : Acts call drop handlers start deeds left state) :
    left.Sublist handlers := by
  induction acts with
  | idle => exact List.Sublist.refl _
  | calls _ ih => exact ih
  | drops _ _ ih =>
      exact ((List.Sublist.refl _).append (List.sublist_cons_self _ _)).trans ih
  | keeps _ _ ih => exact ih

/-- Whoever is still there was there from the beginning. -/
theorem mem_of_mem (acts : Acts call drop handlers start deeds (left ++ handler :: final) state) :
    handler ∈ handlers :=
  acts.sublist.subset (List.mem_append_right _ List.mem_cons_self)

/-- An invariant that every handler keeps holds whatever the handlers do. -/
theorem invariant {invariant : State -> Prop}
    (calling : forall handler, handler ∈ handlers -> Keeps invariant (call handler))
    (dropping : forall handler, handler ∈ handlers -> Keeps invariant (drop handler))
    (acts : Acts call drop handlers start deeds left state) (holds : invariant start) :
    invariant state := by
  induction acts with
  | idle => exact holds
  | calls acts kept => exact calling _ acts.mem_of_mem _ kept
  | drops acts done kept => exact (dropping _ acts.mem_of_mem).of_ok kept done
  | keeps acts failed kept => exact (dropping _ acts.mem_of_mem).of_error kept failed

/-- Only handlers that were there act. -/
theorem mem_of_deed (acts : Acts call drop handlers start deeds left state) :
    forall handler deed, (handler, deed) ∈ deeds -> handler ∈ handlers := by
  induction acts with
  | idle =>
      intro handler deed member
      cases member
  | calls acts ih | drops acts _ ih | keeps acts _ ih =>
      intro handler deed member
      rcases List.mem_append.mp member with early | last
      · exact ih handler deed early
      · cases List.mem_singleton.mp last
        exact acts.mem_of_mem

/-- A handler is gone exactly if it has been dropped. -/
theorem gone_iff (acts : Acts call drop handlers start deeds left state)
    (distinct : handlers.Nodup) (member : handler ∈ handlers) :
    handler ∉ left <-> (handler, Deed.dropped) ∈ deeds := by
  induction acts with
  | idle => simp [member]
  | calls _ ih => simpa using ih
  | keeps _ _ ih => simpa using ih
  | @drops before after last _ _ _ acts _ others =>
      have single := acts.sublist.nodup distinct
      by_cases same : handler = last
      · subst same
        have apart := (List.nodup_cons.mp (List.perm_middle.nodup_iff.mp single)).1
        simpa using apart
      · simpa [same] using others

/-- Whoever has been dropped does nothing more. -/
theorem dropped_once (acts : Acts call drop handlers start deeds left state)
    (distinct : handlers.Nodup) {before after : List (Handler × Deed)}
    (split : deeds = before ++ (handler, .dropped) :: after) :
    forall deed, (handler, deed) ∉ after := by
  have gone : handler ∈ handlers := by
    refine acts.mem_of_deed handler .dropped ?_
    rw [split]
    exact List.mem_append_right _ List.mem_cons_self
  induction acts generalizing after with
  | idle => simp at split
  | calls acts ih | keeps acts _ ih | drops acts _ ih =>
      intro deed later
      rcases List.eq_nil_or_concat after with rfl | ⟨rest, last, rfl⟩
      · cases later
      · rw [List.concat_eq_append, ← List.cons_append, ← List.append_assoc] at split
        rcases List.append_inj' split rfl with ⟨inner, ends⟩
        rw [List.concat_eq_append] at later
        rcases List.mem_append.mp later with early | final
        · exact ih inner deed early
        · -- The last deed is done by one who is still there, and the handler is not.
          have mem : (handler, Deed.dropped) ∈ before ++ (handler, .dropped) :: rest :=
            List.mem_append_right _ List.mem_cons_self
          rw [← inner] at mem
          refine (acts.gone_iff distinct gone).mpr mem ?_
          cases List.mem_singleton.mp final
          cases ends
          simp

end Acts
end Foundation
end Sponge
