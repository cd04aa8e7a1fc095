import Mathlib.Tactic.Common

namespace Sponge
namespace Foundation

/-!
# A bounded queue

The queue keeps every item it has ever accepted, in order, and how many of
them have been removed again.  The others are waiting.  At most `capacity`
items wait at any time, so an offer is accepted only as far as there is room,
and not at all once the queue has been closed.
-/

structure BoundedQueue (Item : Type) where
  capacity : Nat
  accepted : List Item
  removed : Nat
  closed : Bool
  removed_le : removed ≤ accepted.length
  fits : accepted.length - removed ≤ capacity

namespace BoundedQueue

variable {Item : Type}

def empty (capacity : Nat) : BoundedQueue Item where
  capacity := capacity
  accepted := []
  removed := 0
  closed := false
  removed_le := Nat.le_refl 0
  fits := Nat.zero_le capacity

/-- The items that have not been removed, oldest first. -/
def waiting (queue : BoundedQueue Item) : List Item :=
  queue.accepted.drop queue.removed

def room (queue : BoundedQueue Item) : Nat :=
  queue.capacity - queue.waiting.length

/-- The leading items of an offer that the queue accepts. -/
def admits (queue : BoundedQueue Item) (items : List Item) : List Item :=
  if queue.closed then [] else items.take queue.room

theorem waiting_length (queue : BoundedQueue Item) :
    queue.waiting.length = queue.accepted.length - queue.removed :=
  List.length_drop

theorem admits_length_le (queue : BoundedQueue Item) (items : List Item) :
    (queue.admits items).length ≤ queue.room := by
  unfold admits
  split
  · exact Nat.zero_le _
  · rw [List.length_take]
    exact Nat.min_le_left _ _

def offer (queue : BoundedQueue Item) (items : List Item) : BoundedQueue Item :=
  { queue with
    accepted := queue.accepted ++ queue.admits items
    removed_le := by
      rw [List.length_append]
      exact Nat.le_trans queue.removed_le (Nat.le_add_right _ _)
    fits := by
      have admitted := queue.admits_length_le items
      have before := queue.removed_le
      have fits := queue.fits
      unfold room at admitted
      rw [waiting_length] at admitted
      rw [List.length_append]
      omega }

/-- Remove the oldest items, as many as there are. -/
def remove (queue : BoundedQueue Item) (count : Nat) : BoundedQueue Item :=
  { queue with
    removed := queue.removed + min count queue.waiting.length
    removed_le := by
      have := queue.removed_le
      rw [waiting_length]
      omega
    fits := by
      have := queue.fits
      omega }

def close (queue : BoundedQueue Item) : BoundedQueue Item :=
  { queue with closed := true }

theorem waiting_offer (queue : BoundedQueue Item) (items : List Item) :
    (queue.offer items).waiting = queue.waiting ++ queue.admits items := by
  unfold waiting offer
  exact List.drop_append_of_le_length queue.removed_le

theorem waiting_remove (queue : BoundedQueue Item) (count : Nat) :
    (queue.remove count).waiting = queue.waiting.drop count := by
  change queue.accepted.drop (queue.removed + min count queue.waiting.length) =
    (queue.accepted.drop queue.removed).drop count
  rw [List.drop_drop, List.drop_eq_drop_iff, waiting_length]
  omega

/-- What was removed and what is waiting make up what was accepted. -/
theorem removed_append_waiting (queue : BoundedQueue Item) :
    queue.accepted.take queue.removed ++ queue.waiting = queue.accepted :=
  List.take_append_drop _ _

end BoundedQueue
end Foundation
end Sponge
