/-!
# Bounded queues

A queue hands values from producers to one consumer in order.  Offering a value
never waits: a full queue and a queue whose consumer is gone refuse it.
-/

namespace PricePublisher

/-- What becomes of a value that is offered to a queue. -/
inductive Delivery where
  | accepted
  | full
  /-- The consumer is gone. -/
  | closed
deriving DecidableEq, Repr

/-- Values on their way to a consumer, oldest first. -/
structure Queue (α : Type) where
  capacity : Nat
  items : List α
  /-- Whether the consumer is still there. -/
  isOpen : Bool
deriving DecidableEq, Repr

namespace Queue

variable {α : Type}

/-- A queue without values. -/
def ofCapacity (capacity : Nat) : Queue α :=
  ⟨capacity, [], true⟩

/-- Whether a queue holds as many values as it can. -/
def isFull (queue : Queue α) : Bool :=
  queue.capacity ≤ queue.items.length

/-- What becomes of a value that is offered now. -/
def delivery (queue : Queue α) : Delivery :=
  if !queue.isOpen then .closed
  else if queue.isFull then .full
  else .accepted

/-- The queue after a value has been offered. -/
def push (queue : Queue α) (value : α) : Queue α :=
  match queue.delivery with
  | .accepted => { queue with items := queue.items ++ [value] }
  | _ => queue

/-- Offer a value so many times: how often it was accepted, and the queue afterwards. -/
def pushTimes (queue : Queue α) (value : α) : Nat → Nat × Queue α
  | 0 => (0, queue)
  | times + 1 =>
      match queue.delivery with
      | .accepted =>
          let (accepted, filled) := (queue.push value).pushTimes value times
          (accepted + 1, filled)
      | _ => (0, queue)

/-- Take the oldest values, at most so many. -/
def take (queue : Queue α) (count : Nat) : List α × Queue α :=
  (queue.items.take count, { queue with items := queue.items.drop count })

/-- The queue once its consumer is gone, and with it all values. -/
def close (queue : Queue α) : Queue α :=
  { queue with items := [], isOpen := false }

end Queue

end PricePublisher
