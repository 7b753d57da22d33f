import PricePublisher.Connection.Handle
import PricePublisher.Feed.FanIn
import PricePublisher.Text.Quoted
import PricePublisher.Wire.SignedUpdate

/-!
# The broker table

The table holds, for each broker's address, the connection that was opened last
and has neither been closed nor removed.  Batches are offered to the queue of
every connection in the table, and a slow broker never delays another.

Connections are numbered in the order in which they are opened; the table refers
to them by these numbers, because a connection outlives its entry.
-/

namespace PricePublisher

/-- How many batches may wait for one connection. -/
def connectionQueueCapacity : Nat := 4096

/-- The producer's side of a connection to a broker. -/
structure BrokerConnection where
  url : String
  handle : ConnectionHandle
  queue : Queue SignedBatch
  /-- Limits the reports about the full queue. -/
  throttle : Throttle

namespace BrokerConnection

/-- A connection that has just been opened. -/
def opened (url : String) (id : Nat) : BrokerConnection :=
  ⟨url, .opened id, .ofCapacity connectionQueueCapacity, Feed.freshThrottle⟩

/-- The description of a connection in diagnostics. -/
def description (connection : BrokerConnection) : String :=
  "OutgoingConnection \x7b broker_url: " ++ Text.quoted connection.url ++ ", handle: "
    ++ connection.handle.description ++ " \x7d"

end BrokerConnection

/-- All connections that were opened, and the numbers of the live ones by address. -/
structure BrokerTable where
  connections : List BrokerConnection
  live : List (String × Nat)

/-- What offering a batch to all brokers results in. -/
structure Broadcast where
  delivered : Nat
  /-- The addresses of brokers whose queues are full. -/
  dropped : List String
  notices : List Notice

namespace BrokerTable

/-- The table without connections. -/
def empty : BrokerTable := ⟨[], []⟩

/-- How many connections are live. -/
def size (table : BrokerTable) : Nat :=
  table.live.length

/-- Whether there is a live connection for an address. -/
def contains (table : BrokerTable) (url : String) : Bool :=
  Keyed.contains table.live url

/-- The live connection for an address. -/
def find? (table : BrokerTable) (url : String) : Option BrokerConnection := do
  table.connections[← Keyed.get? table.live url]?

/-- The addresses and identifiers of the live connections. -/
def entries (table : BrokerTable) : List (String × Nat) :=
  table.live.filterMap fun (url, number) =>
    table.connections[number]?.map fun connection => (url, connection.handle.id)

/-- Open a connection in place of an older one for the address. -/
def openConnection (table : BrokerTable) (url : String) (id : Nat) : BrokerTable where
  connections := table.connections ++ [.opened url id]
  live := Keyed.insert url table.connections.length table.live

/-- The number of the connection that was opened last with an identifier. -/
def lastNumber? (table : BrokerTable) (id : Nat) : Option Nat :=
  (List.range table.connections.length).reverse.find? fun number =>
    table.connections[number]?.any fun connection => connection.handle.id == id

/-- Whether the live connection for an address has the given identifier. -/
def maps (table : BrokerTable) (url : String) (id : Nat) : Bool :=
  (table.find? url).any fun connection => connection.handle.id == id

/-- Remove the connection for an address if it has the given identifier. -/
def remove (table : BrokerTable) (url : String) (id : Nat) : Bool × BrokerTable :=
  if table.maps url id then (true, { table with live := Keyed.erase url table.live })
  else (false, table)

/-- Change the connection of a given number. -/
def modify (table : BrokerTable) (number : Nat)
    (change : BrokerConnection → BrokerConnection) : BrokerTable :=
  { table with connections := table.connections.modify number change }

/-- Close a connection; the first close removes its entry. -/
def close (table : BrokerTable) (number : Nat) : BrokerTable :=
  match table.connections[number]? with
  | none => table
  | some connection =>
      let (cleanup, handle) := connection.handle.close
      let closed := table.modify number fun connection => { connection with handle := handle }
      if cleanup then (closed.remove connection.url handle.id).2 else closed

/-- The consumer of a connection's queue goes away. -/
def dropConsumer (table : BrokerTable) (number : Nat) : BrokerTable :=
  table.modify number fun connection => { connection with queue := connection.queue.close }

/-- What is reported when a full queue misses a batch. -/
def droppedNotice : Notice :=
  ⟨.error, "Broker queue full, dropping signed batch"⟩

/-- Ask whether a full queue of a connection may be reported now. -/
def requestReport (connection : BrokerConnection) (now : Nat) : Bool × BrokerConnection :=
  let (granted, throttle) := connection.throttle.request now
  (granted, { connection with throttle := throttle })

/-- Offer a batch to one connection. -/
def offerTo (now : Nat) (batch : SignedBatch) (connection : BrokerConnection) :
    Broadcast × BrokerConnection :=
  let pushed := { connection with queue := connection.queue.push batch }
  match connection.queue.delivery with
  | .accepted => (⟨1, [], []⟩, pushed)
  | .full =>
      let (granted, asked) := requestReport pushed now
      (⟨0, [connection.url], if granted then [droppedNotice] else []⟩, asked)
  | .closed => (⟨0, [], []⟩, pushed)

/-- Offer a batch to the connections of the given entries. -/
def offerToAll (now : Nat) (batch : SignedBatch) :
    List (String × Nat) → List BrokerConnection → Broadcast × List BrokerConnection
  | [], connections => (⟨0, [], []⟩, connections)
  | (_, number) :: entries, connections =>
      match connections[number]? with
      | none => offerToAll now batch entries connections
      | some connection =>
          let (result, connection) := offerTo now batch connection
          let (rest, connections) :=
            offerToAll now batch entries (connections.set number connection)
          (⟨result.delivered + rest.delivered, result.dropped ++ rest.dropped,
            result.notices ++ rest.notices⟩, connections)

/-- Offer a batch to the given entries, in their order. -/
def broadcastIn (table : BrokerTable) (now : Nat) (batch : SignedBatch)
    (order : List (String × Nat)) : Broadcast × BrokerTable :=
  let (result, connections) := offerToAll now batch order table.connections
  (result, { table with connections := connections })

/-- Offer a batch to every live connection; the order of the entries is not specified. -/
def broadcast (table : BrokerTable) (now : Nat) (batch : SignedBatch) :
    Broadcast × BrokerTable :=
  table.broadcastIn now batch table.live

end BrokerTable

end PricePublisher
