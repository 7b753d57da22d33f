import PricePublisher.Proofs.Broker.Broadcast

/-!
# Runs of a broker table

Connections are entered into the table and removed from it, consumers take batches or
go away, and batches are broadcast, in any order of these moves.  A broadcast addresses
the live connections in an order of its own each time.

In every table that a run leads to, an entry refers to a connection for its address, and
so no connection is referred to twice.
-/

namespace PricePublisher

open Keyed (Ascending)

/-- What never changes of a connection. -/
def BrokerConnection.fixed (connection : BrokerConnection) : String × Nat :=
  (connection.url, connection.queue.capacity)

/-- What happens to a table or to the consumers of its connections. -/
inductive TableMove where
  | openConnection (url : String) (id : Nat)
  | enter (number : Nat)
  | remove (url : String) (id : Nat)
  | close (number : Nat)
  | drain (number count : Nat)
  | dropConsumer (number : Nat)
  | broadcast (now : Nat) (batch : SignedBatch) (order : List (String × Nat))

namespace BrokerTable

/-- Enter a connection in place of another one for its address. -/
def enter (table : BrokerTable) (number : Nat) : BrokerTable :=
  match table.connections[number]? with
  | none => table
  | some connection => { table with live := Keyed.insert connection.url number table.live }

/-- The consumer of a connection's queue takes the oldest batches, at most so many. -/
def drain (table : BrokerTable) (number count : Nat) : BrokerTable :=
  table.modify number fun connection =>
    { connection with queue := (connection.queue.take count).2 }

/-- Opening a connection is entering a new one. -/
theorem openConnection_eq_enter (table : BrokerTable) (url : String) (id : Nat) :
    table.openConnection url id =
      enter { table with connections := table.connections ++ [.opened url id] }
        table.connections.length := by
  simp [enter, openConnection, BrokerConnection.opened]

/-- The table after a move. -/
def after (table : BrokerTable) : TableMove → BrokerTable
  | .openConnection url id => table.openConnection url id
  | .enter number => table.enter number
  | .remove url id => (table.remove url id).2
  | .close number => table.close number
  | .drain number count => table.drain number count
  | .dropConsumer number => table.dropConsumer number
  | .broadcast now batch order => (table.broadcastIn now batch order).2

end BrokerTable

/-- Moves are about connections that exist, and a broadcast addresses all live ones. -/
def TableMove.IsPossible (table : BrokerTable) : TableMove → Prop
  | .openConnection _ _ => True
  | .enter number => number < table.connections.length
  | .remove _ _ => True
  | .close number => number < table.connections.length
  | .drain number _ => number < table.connections.length
  | .dropConsumer number => number < table.connections.length
  | .broadcast _ _ order => order.Perm table.live

instance (table : BrokerTable) (move : TableMove) : Decidable (move.IsPossible table) :=
  match move with
  | .openConnection _ _ => .isTrue trivial
  | .remove _ _ => .isTrue trivial
  | .enter number => inferInstanceAs (Decidable (number < table.connections.length))
  | .close number => inferInstanceAs (Decidable (number < table.connections.length))
  | .drain number _ => inferInstanceAs (Decidable (number < table.connections.length))
  | .dropConsumer number => inferInstanceAs (Decidable (number < table.connections.length))
  | .broadcast _ _ order => inferInstanceAs (Decidable (order.Perm table.live))

/--
A run from the empty table: the moves with the tables in which they were made, oldest
first, and the table to which they lead.
-/
inductive TableRun : List (BrokerTable × TableMove) → BrokerTable → Prop
  | start : TableRun [] .empty
  | move {past : List (BrokerTable × TableMove)} {table : BrokerTable}
      (run : TableRun past table) (move : TableMove) (possible : move.IsPossible table) :
      TableRun (past ++ [(table, move)]) (table.after move)

namespace BrokerTable

theorem getElem?_drain (table : BrokerTable) (drained count number : Nat) :
    (table.drain drained count).connections[number]? =
      (table.connections[number]?).map fun connection =>
        if drained = number then { connection with queue := (connection.queue.take count).2 }
        else connection :=
  table.getElem?_modify drained number _

theorem fixed_offerTo (now : Nat) (batch : SignedBatch) (connection : BrokerConnection) :
    (offerTo now batch connection).2.fixed = connection.fixed := by
  unfold BrokerConnection.fixed
  rw [offerTo_url, offerTo_queue, Queue.push_capacity]

/-- What holds of every table that a run leads to. -/
structure Sound (table : BrokerTable) : Prop where
  ascending : Ascending table.live
  refers : ∀ (url : String) (number : Nat), Keyed.get? table.live url = some number →
    ∃ connection, table.connections[number]? = some connection ∧ connection.url = url
  bounded : ∀ (number : Nat) (connection : BrokerConnection),
    table.connections[number]? = some connection →
    connection.queue.capacity = connectionQueueCapacity

namespace Sound

variable {table : BrokerTable}

theorem empty : Sound .empty where
  ascending := Keyed.ascending_nil
  refers := nofun
  bounded := nofun

/-- Each entry refers to a connection of its own. -/
theorem live_nodup (sound : table.Sound) : (table.live.map Prod.snd).Nodup :=
  live_nodup_of_refers sound.ascending sound.refers

/-- Whatever its order, a broadcast reaches exactly the live connections. -/
theorem getElem?_broadcastIn
    (sound : table.Sound) {order : List (String × Nat)} (ordered : order.Perm table.live)
    (now : Nat) (batch : SignedBatch) (number : Nat) :
    (table.broadcastIn now batch order).2.connections[number]? =
      (table.connections[number]?).map fun connection =>
        if number ∈ table.live.map Prod.snd then (offerTo now batch connection).2
        else connection := by
  have numbers := ordered.map Prod.snd
  have distinct : (order.map Prod.snd).Nodup := numbers.nodup_iff.mpr sound.live_nodup
  simp only [← numbers.mem_iff]
  exact getElem?_offerToAll now batch distinct table.connections number

theorem enter (sound : table.Sound) (number : Nat) : (table.enter number).Sound := by
  unfold BrokerTable.enter
  cases found : table.connections[number]? with
  | none => exact sound
  | some connection =>
      constructor
      · exact sound.ascending.insert _ _
      · intro url other referred
        rw [Keyed.get?_insert] at referred
        by_cases same : url = connection.url
        · rw [if_pos same] at referred
          cases referred
          exact ⟨connection, found, same.symm⟩
        · rw [if_neg same] at referred
          exact sound.refers url other referred
      · exact sound.bounded

/-- A new connection is referred to by no entry until it is entered. -/
theorem append (sound : table.Sound) (url : String) (id : Nat) :
    Sound { table with connections := table.connections ++ [.opened url id] } where
  ascending := sound.ascending
  refers := by
    intro other number referred
    rcases sound.refers other number referred with ⟨connection, found, same⟩
    refine ⟨connection, ?_, same⟩
    rw [List.getElem?_append_left (List.getElem?_eq_some_iff.mp found).1]
    exact found
  bounded := by
    intro number connection found
    rcases List.mem_append.mp (List.mem_of_getElem? found) with old | new
    · rcases List.getElem?_of_mem old with ⟨position, there⟩
      exact sound.bounded position connection there
    · cases List.mem_singleton.mp new
      rfl

/-- Entries may go, and connections may change all but address and capacity. -/
theorem of_change
    (sound : table.Sound) {next : BrokerTable}
    (fewer : ∃ keep, next.live = table.live.filter keep)
    (change : Nat → BrokerConnection → BrokerConnection)
    (changed : ∀ number : Nat,
      next.connections[number]? = table.connections[number]?.map (change number))
    (fixed : ∀ number connection, (change number connection).fixed = connection.fixed) :
    next.Sound where
  ascending := by
    rcases fewer with ⟨keep, fewer⟩
    rw [fewer]
    exact sound.ascending.filter keep
  refers := by
    intro url number referred
    have there : (url, number) ∈ table.live := by
      rcases fewer with ⟨keep, fewer⟩
      have member := Keyed.mem_of_get? referred
      rw [fewer] at member
      exact List.mem_of_mem_filter member
    rcases sound.refers url number (sound.ascending.mem_iff.mp there) with
      ⟨connection, found, rfl⟩
    refine ⟨change number connection, ?_, congrArg Prod.fst (fixed number connection)⟩
    rw [changed, found]
    rfl
  bounded := by
    intro number entry here
    rw [changed] at here
    rcases Option.map_eq_some_iff.mp here with ⟨connection, found, rfl⟩
    exact (congrArg Prod.snd (fixed number connection)).trans
      (sound.bounded number connection found)

theorem after
    (sound : table.Sound) {move : TableMove} (possible : move.IsPossible table) :
    (table.after move).Sound := by
  cases move with
  | openConnection url id =>
      change (table.openConnection url id).Sound
      rw [openConnection_eq_enter]
      exact (sound.append url id).enter _
  | enter number => exact sound.enter number
  | remove url id =>
      apply sound.of_change (exists_filter_of_remove table url id) fun _ connection => connection
      · intro number
        rw [remove_connections]
        exact Option.map_id'.symm
      · intro number connection
        rfl
  | close number =>
      apply sound.of_change (exists_filter_of_close table number) _ (getElem?_close table number)
      intro other connection
      split <;> rfl
  | drain number count =>
      have same : (table.drain number count).live = table.live := rfl
      apply sound.of_change (exists_filter_of_eq same) _ (getElem?_drain table number count)
      intro other connection
      split <;> rfl
  | dropConsumer number =>
      have same : (table.dropConsumer number).live = table.live := rfl
      apply sound.of_change (exists_filter_of_eq same) _ (getElem?_dropConsumer table number)
      intro other connection
      split <;> rfl
  | broadcast now batch order =>
      have same : (table.broadcastIn now batch order).2.live = table.live := rfl
      apply sound.of_change (exists_filter_of_eq same) _
        (sound.getElem?_broadcastIn possible now batch)
      intro other connection
      split
      · exact fixed_offerTo now batch connection
      · rfl

end Sound

end BrokerTable

theorem TableRun.sound
    {past : List (BrokerTable × TableMove)} {table : BrokerTable} (run : TableRun past table) :
    table.Sound := by
  induction run with
  | start => exact .empty
  | move run move possible induction => exact induction.after possible

end PricePublisher
