import PricePublisher.Proofs.Broker.Ownership
import PricePublisher.Proofs.Queue

/-!
# What a broadcast does to the queues

A batch is offered once to the queue of each connection that the table refers
to.  Every other connection stays as it is, and of an addressed one only the
queue and the throttle change.
-/

namespace PricePublisher

namespace BrokerTable

theorem offerTo_queue
    (now : Nat) (batch : SignedBatch) (connection : BrokerConnection) :
    (offerTo now batch connection).2.queue = connection.queue.push batch := by
  unfold offerTo
  cases connection.queue.delivery <;> rfl

theorem offerTo_url
    (now : Nat) (batch : SignedBatch) (connection : BrokerConnection) :
    (offerTo now batch connection).2.url = connection.url := by
  unfold offerTo
  cases connection.queue.delivery <;> rfl

theorem offerTo_handle
    (now : Nat) (batch : SignedBatch) (connection : BrokerConnection) :
    (offerTo now batch connection).2.handle = connection.handle := by
  unfold offerTo
  cases connection.queue.delivery <;> rfl

theorem length_offerToAll
    (now : Nat) (batch : SignedBatch) (entries : List (String × Nat))
    (connections : List BrokerConnection) :
    (offerToAll now batch entries connections).2.length = connections.length := by
  induction entries generalizing connections with
  | nil => rfl
  | cons entry rest induction =>
      unfold offerToAll
      split
      · exact induction connections
      · exact (induction _).trans List.length_set

/-- A batch is offered to the addressed connections, each once, and to no other. -/
theorem getElem?_offerToAll
    (now : Nat) (batch : SignedBatch)
    {entries : List (String × Nat)} (distinct : (entries.map Prod.snd).Nodup)
    (connections : List BrokerConnection) (number : Nat) :
    (offerToAll now batch entries connections).2[number]? =
      (connections[number]?).map fun connection =>
        if number ∈ entries.map Prod.snd then (offerTo now batch connection).2
        else connection := by
  induction entries generalizing connections with
  | nil => simp [offerToAll]
  | cons entry rest induction =>
      rcases entry with ⟨url, addressed⟩
      obtain ⟨absent, distinct⟩ := List.nodup_cons.mp distinct
      unfold offerToAll
      cases found : connections[addressed]? with
      | none =>
          have later := induction distinct connections
          by_cases same : number = addressed
          · subst same
            simp only [later, found, Option.map_none]
          · simp only [later, List.map_cons, List.mem_cons, same, false_or]
      | some connection =>
          have later := induction distinct
            (connections.set addressed (offerTo now batch connection).2)
          simp only [later, List.getElem?_set, List.map_cons, List.mem_cons]
          by_cases same : number = addressed
          · subst same
            have inside := (List.getElem?_eq_some_iff.mp found).1
            simp only [if_true, inside, found, Option.map_some, true_or, if_neg absent]
          · simp only [if_neg (Ne.symm same), same, false_or]

/-- If each entry refers to a connection for its address, none is referred to twice. -/
theorem live_nodup_of_refers
    {table : BrokerTable} (ascending : Keyed.Ascending table.live)
    (refers : ∀ (url : String) (number : Nat), Keyed.get? table.live url = some number →
      ∃ connection, table.connections[number]? = some connection ∧ connection.url = url) :
    (table.live.map Prod.snd).Nodup := by
  refine ascending.nodup.map_on ?_
  rintro ⟨url, number⟩ member ⟨other, _⟩ otherMember rfl
  rcases refers url number (ascending.mem_iff.mp member) with ⟨connection, found, rfl⟩
  rcases refers other number (ascending.mem_iff.mp otherMember) with ⟨_, again, rfl⟩
  rw [found] at again
  cases again
  rfl

end BrokerTable

namespace Owned

variable {table : BrokerTable} {lifecycles : List Lifecycle}

/-- The table refers to no connection twice. -/
theorem live_nodup (owned : Owned table lifecycles) :
    (table.live.map Prod.snd).Nodup := by
  refine BrokerTable.live_nodup_of_refers owned.ascending ?_
  intro url number live
  obtain ⟨entry, found, url_eq, _⟩ := owned.live_open url number live
  exact ⟨entry, found, url_eq⟩

/-- A broadcast reaches exactly what the table refers to. -/
theorem getElem?_broadcast
    (owned : Owned table lifecycles) (now : Nat) (batch : SignedBatch)
    (number : Nat) :
    (table.broadcast now batch).2.connections[number]? =
      (table.connections[number]?).map fun connection =>
        if number ∈ table.live.map Prod.snd then
          (BrokerTable.offerTo now batch connection).2
        else connection :=
  BrokerTable.getElem?_offerToAll now batch owned.live_nodup table.connections number

theorem broadcast
    (owned : Owned table lifecycles) (now : Nat) (batch : SignedBatch) :
    Owned (table.broadcast now batch).2 lifecycles := by
  refine owned.of_queues rfl _ (owned.getElem?_broadcast now batch) ?_
  intro connection entry _
  split
  · rw [BrokerTable.offerTo_url, BrokerTable.offerTo_handle, BrokerTable.offerTo_queue,
      Queue.push_isOpen]
    exact ⟨rfl, rfl, rfl⟩
  · exact ⟨rfl, rfl, rfl⟩

end Owned

end PricePublisher
