import Mathlib.Tactic.Common

namespace Sponge
namespace Foundation

/-!
# Countdowns in step

A list of items, each with its own countdown.  If every countdown is started
at the same period and all are reset together, then along the list, oldest
first, they never decrease and never exceed the period.  Such countdowns are
in step: the first one decides for all of them, so one timer would do.
-/

variable {Item : Type} {remaining : Item -> Nat}

structure InStep (remaining : Item -> Nat) (period : Nat) (items : List Item) : Prop where
  ordered : items.Pairwise (fun item later => remaining item ≤ remaining later)
  bounded : forall item, item ∈ items -> remaining item ≤ period

theorem InStep.nil (period : Nat) : InStep remaining period [] :=
  ⟨.nil, fun _ member => nomatch member⟩

/-- Countdowns that were all reset are in step. -/
theorem InStep.of_uniform {period : Nat} {items : List Item}
    (uniform : forall item, item ∈ items -> remaining item = period) :
    InStep remaining period items where
  ordered := List.pairwise_of_forall_mem_list fun item member later laterMember =>
    Nat.le_of_eq ((uniform item member).trans (uniform later laterMember).symm)
  bounded := fun item member => Nat.le_of_eq (uniform item member)

/-- Countdowns that are started later join at the end. -/
theorem InStep.append {period : Nat} {items : List Item} (inStep : InStep remaining period items)
    {later : List Item} (started : forall item, item ∈ later -> remaining item = period) :
    InStep remaining period (items ++ later) where
  ordered := by
    rw [List.pairwise_append]
    refine ⟨inStep.ordered, (InStep.of_uniform started).ordered, ?_⟩
    intro earlier member item joined
    rw [started item joined]
    exact inStep.bounded earlier member
  bounded := by
    intro item member
    rcases List.mem_append.mp member with earlier | joined
    · exact inStep.bounded item earlier
    · exact Nat.le_of_eq (started item joined)

theorem InStep.head_le {period : Nat} {first : Item} {rest : List Item}
    (inStep : InStep remaining period (first :: rest)) {item : Item}
    (member : item ∈ first :: rest) : remaining first ≤ remaining item := by
  rcases List.mem_cons.mp member with rfl | later
  · exact Nat.le_refl _
  · exact (List.pairwise_cons.mp inStep.ordered).1 item later

/-- The first countdown decides: if it has not expired, none has. -/
theorem InStep.none_expired {period elapsed : Nat} {first : Item} {rest : List Item}
    (inStep : InStep remaining period (first :: rest)) (running : remaining first > elapsed)
    {item : Item} (member : item ∈ first :: rest) : remaining item > elapsed :=
  Nat.lt_of_lt_of_le running (inStep.head_le member)

/-- Countdowns in step stay in step while none expires. -/
theorem InStep.map {period elapsed : Nat} {items : List Item}
    (inStep : InStep remaining period items) {tick : Item -> Item}
    (ticked : forall item, item ∈ items -> remaining (tick item) = remaining item - elapsed) :
    InStep remaining period (items.map tick) where
  ordered := by
    rw [List.pairwise_map]
    refine List.Pairwise.imp_of_mem ?_ inStep.ordered
    intro item later member laterMember ordered
    rw [ticked item member, ticked later laterMember]
    exact Nat.sub_le_sub_right ordered elapsed
  bounded := by
    intro other member
    rcases List.mem_map.mp member with ⟨item, inside, rfl⟩
    rw [ticked item inside]
    exact Nat.le_trans (Nat.sub_le _ _) (inStep.bounded item inside)

end Foundation
end Sponge
