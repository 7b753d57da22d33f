import PricePublisher.Queue

/-!
# Offers to bounded queues

An offer appends its value to an open queue with room and leaves every other queue as it
is.
-/

namespace PricePublisher.Queue

variable {α : Type}

/-- An open queue with room takes what it is offered. -/
theorem push_eq {queue : Queue α} (isOpen : queue.isOpen = true) (room : queue.isFull = false)
    (value : α) : queue.push value = { queue with items := queue.items ++ [value] } := by
  simp [push, delivery, isOpen, room]

theorem push_isOpen (queue : Queue α) (value : α) : (queue.push value).isOpen = queue.isOpen := by
  unfold push
  split <;> rfl

theorem push_capacity (queue : Queue α) (value : α) :
    (queue.push value).capacity = queue.capacity := by
  unfold push
  split <;> rfl

/-- What a queue does with a value that it is offered. -/
theorem push_eq_ite {queue : Queue α} {capacity : Nat} (bounded : queue.capacity = capacity)
    (value : α) :
    queue.push value =
      if queue.isOpen && queue.items.length < capacity then
        { queue with items := queue.items ++ [value] }
      else queue := by
  subst bounded
  rcases queue with ⟨capacity, items, isOpen⟩
  cases isOpen with
  | false => rfl
  | true =>
      by_cases room : items.length < capacity
      · simp [push, delivery, isFull, room, Nat.not_le_of_lt room]
      · simp [push, delivery, isFull, room, Nat.le_of_not_lt room]

/-- A queue only ever grows at its end by an offer. -/
theorem items_push (queue : Queue α) (value : α) :
    (queue.push value).items =
      queue.items ++ (queue.push value).items.drop queue.items.length := by
  unfold push
  split
  · rw [List.drop_left]
  · rw [List.drop_length, List.append_nil]

end PricePublisher.Queue
