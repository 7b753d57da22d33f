import PricePublisher.Proofs.Broker.TableRuns

/-!
# Isolation of brokers

A slow broker must not hold up or rob another one.  A broadcast appends its batch to the
queues of exactly the live connections whose consumers are there and whose queues have
room, in whatever order it takes them, and its result counts each live connection once.

What becomes of one connection therefore depends on its own events alone: the batches
that are offered to it while it is live, what its consumer takes and whether its consumer
is gone.  The main theorem says this of any run, and of any two runs that agree on the
events of one connection each.
-/

namespace PricePublisher

namespace BrokerConnection

/-- Whether the consumer is there and the queue has room. -/
def admits (connection : BrokerConnection) : Bool :=
  connection.queue.isOpen && connection.queue.items.length < connectionQueueCapacity

/-- Whether the consumer is there and the queue has no room. -/
def isFull (connection : BrokerConnection) : Bool :=
  connection.queue.isOpen && connectionQueueCapacity ≤ connection.queue.items.length

variable {connection : BrokerConnection}

theorem delivery_accepted
    (bounded : connection.queue.capacity = connectionQueueCapacity) :
    decide (connection.queue.delivery = .accepted) = connection.admits := by
  unfold Queue.delivery Queue.isFull admits
  rw [bounded]
  cases connection.queue.isOpen with
  | false => rfl
  | true =>
      by_cases room : connection.queue.items.length < connectionQueueCapacity
      · simp [room, Nat.not_le_of_lt room]
      · simp [room, Nat.le_of_not_lt room]

theorem delivery_full
    (bounded : connection.queue.capacity = connectionQueueCapacity) :
    decide (connection.queue.delivery = .full) = connection.isFull := by
  unfold Queue.delivery Queue.isFull isFull
  rw [bounded]
  cases connection.queue.isOpen with
  | false => rfl
  | true =>
      by_cases full : connectionQueueCapacity ≤ connection.queue.items.length
      · simp [full]
      · simp [full]

/-- A connection admits a batch, or it is full, or its consumer is gone. -/
theorem length_filter_add (connections : List BrokerConnection) :
    (connections.filter admits).length + (connections.filter isFull).length +
        (connections.filter fun connection => !connection.queue.isOpen).length =
      connections.length := by
  induction connections with
  | nil => rfl
  | cons connection rest induction =>
      have cases : connection.admits = true ∧ connection.isFull = false ∧
            connection.queue.isOpen = true ∨
          connection.admits = false ∧ connection.isFull = true ∧
            connection.queue.isOpen = true ∨
          connection.admits = false ∧ connection.isFull = false ∧
            connection.queue.isOpen = false := by
        unfold admits isFull
        cases connection.queue.isOpen with
        | false => simp
        | true => simp [Nat.lt_or_ge]
      rcases cases with ⟨admits, full, isOpen⟩ | ⟨admits, full, isOpen⟩ | ⟨admits, full, isOpen⟩ <;>
        simp only [List.filter_cons, admits, full, isOpen, List.length_cons] <;>
        simp <;> omega

end BrokerConnection

namespace BrokerTable

/-! ## The result of a broadcast -/

/-- The live connections. -/
def registered (table : BrokerTable) : List BrokerConnection :=
  table.live.filterMap fun entry => table.connections[entry.2]?

theorem offerToAll_result
    (now : Nat) (batch : SignedBatch) {entries : List (String × Nat)}
    (distinct : (entries.map Prod.snd).Nodup) (connections : List BrokerConnection) :
    let addressed := entries.filterMap fun entry => connections[entry.2]?
    let result := (offerToAll now batch entries connections).1
    result.delivered =
        (addressed.filter fun connection => connection.queue.delivery = .accepted).length ∧
      result.dropped =
        (addressed.filter fun connection => connection.queue.delivery = .full).map
          BrokerConnection.url := by
  induction entries generalizing connections with
  | nil => exact ⟨rfl, rfl⟩
  | cons entry rest induction =>
      rcases entry with ⟨url, number⟩
      rcases List.nodup_cons.mp distinct with ⟨absent, distinct⟩
      unfold offerToAll
      cases found : connections[number]? with
      | none => simpa [found] using induction distinct connections
      | some connection =>
          -- A changed connection is not read again, since no number comes twice.
          have others : ∀ changed,
              (rest.filterMap fun entry => (connections.set number changed)[entry.2]?) =
                rest.filterMap fun entry => connections[entry.2]? := by
            intro changed
            apply List.filterMap_congr
            intro other member
            apply List.getElem?_set_ne
            rintro rfl
            exact absent (List.mem_map.mpr ⟨other, member, rfl⟩)
          rcases induction distinct (connections.set number (offerTo now batch connection).2)
            with ⟨delivered, dropped⟩
          rw [others] at delivered dropped
          unfold offerTo at delivered dropped ⊢
          cases outcome : connection.queue.delivery <;>
            simp_all [Nat.add_comm]

theorem Sound.registered_urls
    {table : BrokerTable} (sound : table.Sound) :
    table.registered.map BrokerConnection.url = Keyed.keys table.live := by
  have entry : ∀ entry ∈ table.live,
      table.connections[entry.2]?.map BrokerConnection.url = some entry.1 := by
    rintro ⟨url, number⟩ member
    rcases sound.refers url number (sound.ascending.mem_iff.mp member) with
      ⟨connection, found, rfl⟩
    rw [found]
    rfl
  rw [registered, List.map_filterMap, List.filterMap_congr entry]
  exact congrFun List.filterMap_eq_map table.live

theorem Sound.length_registered
    {table : BrokerTable} (sound : table.Sound) : table.registered.length = table.size := by
  rw [← List.length_map BrokerConnection.url, sound.registered_urls, Keyed.keys, List.length_map]
  rfl

/--
The queue of a connection.  A connection that has not been opened yet counts as one with
a fresh queue.
-/
def queueOf (table : BrokerTable) (number : Nat) : Queue SignedBatch :=
  (table.connections[number]?.map BrokerConnection.queue).getD
    (.ofCapacity connectionQueueCapacity)

/-- Whether a connection is live, its consumer is there and its queue has room. -/
def admits (table : BrokerTable) (number : Nat) : Bool :=
  number ∈ table.live.map Prod.snd && (table.queueOf number).isOpen &&
    (table.queueOf number).items.length < connectionQueueCapacity

/-- What a broadcast does to a table, and what its result says about it. -/
structure FansOut (table : BrokerTable) (batch : SignedBatch) (result : Broadcast)
    (next : BrokerTable) : Prop where
  live : next.live = table.live
  opened : next.connections.length = table.connections.length
  queue : ∀ number, next.queueOf number =
    if table.admits number then
      { table.queueOf number with items := (table.queueOf number).items ++ [batch] }
    else table.queueOf number
  delivered : result.delivered = (table.registered.filter BrokerConnection.admits).length
  dropped : result.dropped.Perm
    ((table.registered.filter BrokerConnection.isFull).map BrokerConnection.url)
  distinct : result.dropped.Nodup
  complete : result.delivered + result.dropped.length +
      (table.registered.filter fun connection => !connection.queue.isOpen).length =
    table.size

theorem Sound.capacity_queueOf {table : BrokerTable} (sound : table.Sound) (number : Nat) :
    (table.queueOf number).capacity = connectionQueueCapacity := by
  unfold queueOf
  cases found : table.connections[number]? with
  | none => rfl
  | some connection => exact sound.bounded number connection found

/-- Only connections that have been opened are live. -/
theorem Sound.opened_of_live {table : BrokerTable} (sound : table.Sound) {number : Nat}
    (live : number ∈ table.live.map Prod.snd) :
    ∃ connection, table.connections[number]? = some connection := by
  rcases List.mem_map.mp live with ⟨⟨url, _⟩, member, rfl⟩
  rcases sound.refers url _ (sound.ascending.mem_iff.mp member) with ⟨connection, found, _⟩
  exact ⟨connection, found⟩

theorem Sound.queueOf_broadcastIn
    {table : BrokerTable} (sound : table.Sound) {order : List (String × Nat)}
    (ordered : order.Perm table.live) (now : Nat) (batch : SignedBatch) (number : Nat) :
    (table.broadcastIn now batch order).2.queueOf number =
      if number ∈ table.live.map Prod.snd then (table.queueOf number).push batch
      else table.queueOf number := by
  unfold queueOf
  rw [sound.getElem?_broadcastIn ordered]
  cases found : table.connections[number]? with
  | none =>
      rw [if_neg]
      · rfl
      · intro live
        rcases sound.opened_of_live live with ⟨connection, opened⟩
        rw [found] at opened
        cases opened
  | some connection =>
      by_cases live : number ∈ table.live.map Prod.snd
      · simp only [if_pos live, Option.map_some, Option.getD_some, offerTo_queue]
      · simp only [if_neg live, Option.map_some, Option.getD_some]

theorem Sound.fansOut
    {table : BrokerTable} (sound : table.Sound) {order : List (String × Nat)}
    (ordered : order.Perm table.live) (now : Nat) (batch : SignedBatch) :
    table.FansOut batch (table.broadcastIn now batch order).1
      (table.broadcastIn now batch order).2 := by
  have distinct : (order.map Prod.snd).Nodup :=
    (ordered.map Prod.snd).nodup_iff.mpr sound.live_nodup
  have addressed :
      (order.filterMap fun entry => table.connections[entry.2]?).Perm table.registered :=
    ordered.filterMap _
  have bounded : ∀ connection ∈ order.filterMap fun entry => table.connections[entry.2]?,
      connection.queue.capacity = connectionQueueCapacity := by
    intro connection member
    rcases List.mem_filterMap.mp member with ⟨entry, _, found⟩
    exact sound.bounded entry.2 connection found
  rcases offerToAll_result now batch distinct table.connections with ⟨counted, listed⟩
  rw [List.filter_congr fun connection member =>
    BrokerConnection.delivery_accepted (bounded connection member)] at counted
  rw [List.filter_congr fun connection member =>
    BrokerConnection.delivery_full (bounded connection member)] at listed
  have delivered : (table.broadcastIn now batch order).1.delivered =
      (table.registered.filter BrokerConnection.admits).length :=
    counted.trans (addressed.filter _).length_eq
  have dropped : (table.broadcastIn now batch order).1.dropped.Perm
      ((table.registered.filter BrokerConnection.isFull).map BrokerConnection.url) := by
    rw [show (table.broadcastIn now batch order).1.dropped = _ from listed]
    exact (addressed.filter _).map _
  constructor
  · rfl
  · exact length_offerToAll now batch order table.connections
  · intro number
    rw [sound.queueOf_broadcastIn ordered, Queue.push_eq_ite (sound.capacity_queueOf number)]
    unfold admits
    by_cases live : number ∈ table.live.map Prod.snd
    · simp only [live, if_true, decide_true, Bool.true_and]
    · simp only [live, if_false, decide_false, Bool.false_and, Bool.false_eq_true]
  · exact delivered
  · exact dropped
  · have urls : (table.registered.map BrokerConnection.url).Nodup := by
      rw [sound.registered_urls]
      exact sound.ascending.keys_nodup
    exact dropped.nodup_iff.mpr (urls.sublist (List.filter_sublist.map _))
  · rw [delivered, dropped.length_eq, List.length_map, BrokerConnection.length_filter_add,
      sound.length_registered]

end BrokerTable

/-! ## The events of one connection -/

/-- What happens to one connection. -/
inductive ConnectionEvent where
  /-- A batch is broadcast while the connection is live. -/
  | offered (batch : SignedBatch)
  | drained (count : Nat)
  | abandoned

/-- What a move means for one connection. -/
def ownEvent? (number : Nat) : BrokerTable × TableMove → Option ConnectionEvent
  | (table, .broadcast _ batch _) =>
      if number ∈ table.live.map Prod.snd then some (.offered batch) else none
  | (_, .drain drained count) => if drained = number then some (.drained count) else none
  | (_, .dropConsumer dropped) => if dropped = number then some .abandoned else none
  | _ => none

/-- What a connection has accepted: what its queue has grown by in each broadcast. -/
def acceptedBy (number : Nat) (past : List (BrokerTable × TableMove)) : List SignedBatch :=
  past.flatMap fun
    | (table, .broadcast now batch order) =>
        ((table.broadcastIn now batch order).2.queueOf number).items.drop
          (table.queueOf number).items.length
    | _ => []

/-- What the consumer of a connection has taken. -/
def takenFrom (number : Nat) (past : List (BrokerTable × TableMove)) : List SignedBatch :=
  past.flatMap fun
    | (table, .drain drained count) =>
        if drained = number then ((table.queueOf number).take count).1 else []
    | _ => []

/-- The batches that are broadcast while a connection admits them. -/
def admittedBy (number : Nat) (past : List (BrokerTable × TableMove)) : List SignedBatch :=
  past.filterMap fun
    | (table, .broadcast _ batch _) => if table.admits number then some batch else none
    | _ => none

/-- All batches that are broadcast. -/
def broadcasts (past : List (BrokerTable × TableMove)) : List SignedBatch :=
  past.filterMap fun
    | (_, .broadcast _ batch _) => some batch
    | _ => none

/-- A queue with what it has accepted and what has been taken from it. -/
structure Inbox where
  queue : Queue SignedBatch
  accepted : List SignedBatch
  taken : List SignedBatch

namespace Inbox

def fresh : Inbox :=
  ⟨.ofCapacity connectionQueueCapacity, [], []⟩

def follow (inbox : Inbox) : ConnectionEvent → Inbox
  | .offered batch =>
      { inbox with
        queue := inbox.queue.push batch
        accepted :=
          inbox.accepted ++ (inbox.queue.push batch).items.drop inbox.queue.items.length }
  | .drained count =>
      { inbox with
        queue := (inbox.queue.take count).2
        taken := inbox.taken ++ (inbox.queue.take count).1 }
  | .abandoned => { inbox with queue := inbox.queue.close }

/-- What is left of all that was accepted waits in the queue while the consumer is there. -/
structure Fits (inbox : Inbox) : Prop where
  waits : inbox.queue.isOpen = true → inbox.taken ++ inbox.queue.items = inbox.accepted
  taken : inbox.taken <+: inbox.accepted
  abandoned : inbox.queue.isOpen = false → inbox.queue.items = []

theorem Fits.follow {inbox : Inbox} (fits : inbox.Fits) (event : ConnectionEvent) :
    (inbox.follow event).Fits := by
  rcases fits with ⟨waits, front, empty⟩
  cases event with
  | offered batch =>
      constructor
      · intro isOpen
        have waiting := waits ((inbox.queue.push_isOpen batch).symm.trans isOpen)
        change inbox.taken ++ (inbox.queue.push batch).items = inbox.accepted ++ _
        rw [← waiting, List.append_assoc, ← inbox.queue.items_push]
      · exact front.trans (List.prefix_append _ _)
      · intro closed
        have refused : inbox.queue.isOpen = false :=
          (inbox.queue.push_isOpen batch).symm.trans closed
        change (inbox.queue.push batch).items = []
        rw [Queue.push_eq_ite rfl, refused]
        exact empty refused
  | drained count =>
      have whole := List.take_append_drop count inbox.queue.items
      constructor
      · intro isOpen
        change (inbox.taken ++ inbox.queue.items.take count) ++ inbox.queue.items.drop count = _
        rw [List.append_assoc, whole]
        exact waits isOpen
      · change inbox.taken ++ inbox.queue.items.take count <+: inbox.accepted
        cases isOpen : inbox.queue.isOpen with
        | true =>
            refine ⟨inbox.queue.items.drop count, ?_⟩
            rw [List.append_assoc, whole]
            exact waits isOpen
        | false =>
            rw [empty isOpen, List.take_nil, List.append_nil]
            exact front
      · intro closed
        change inbox.queue.items.drop count = []
        rw [empty closed, List.drop_nil]
  | abandoned => exact ⟨nofun, front, fun _ => rfl⟩

theorem Fits.foldl {inbox : Inbox} (fits : inbox.Fits) (events : List ConnectionEvent) :
    (events.foldl Inbox.follow inbox).Fits := by
  induction events generalizing inbox with
  | nil => exact fits
  | cons event rest induction => exact induction (fits.follow event)

end Inbox

variable {past : List (BrokerTable × TableMove)} {table : BrokerTable}

theorem BrokerTable.queueOf_openConnection
    (table : BrokerTable) (url : String) (id number : Nat) :
    (table.openConnection url id).queueOf number = table.queueOf number := by
  unfold queueOf openConnection
  rcases Nat.lt_trichotomy number table.connections.length with old | rfl | later
  · rw [List.getElem?_append_left old]
  · simp [BrokerConnection.opened]
  · rw [List.getElem?_eq_none, List.getElem?_eq_none]
    · exact later.le
    · rw [List.length_append]
      exact later

/-- A change of one connection reaches the queue of that one alone. -/
theorem BrokerTable.queueOf_modify
    {table : BrokerTable} {modified : Nat} (opened : modified < table.connections.length)
    {change : BrokerConnection → BrokerConnection}
    (changeQueue : Queue SignedBatch → Queue SignedBatch)
    (same : ∀ connection, (change connection).queue = changeQueue connection.queue)
    (number : Nat) :
    (table.modify modified change).queueOf number =
      if modified = number then changeQueue (table.queueOf number)
      else table.queueOf number := by
  have found := List.getElem?_eq_getElem opened
  unfold queueOf
  rw [getElem?_modify]
  by_cases own : modified = number
  · subst own
    simp only [found, if_true, Option.map_some, Option.getD_some, same]
  · simp only [if_neg own, Option.map_id']

theorem BrokerTable.queueOf_close (table : BrokerTable) (closed number : Nat) :
    (table.close closed).queueOf number = table.queueOf number := by
  have same : (BrokerConnection.queue ∘ fun entry : BrokerConnection =>
      if closed = number then { entry with handle := entry.handle.close.2 } else entry) =
        BrokerConnection.queue := by
    funext entry
    simp only [Function.comp_apply]
    split <;> rfl
  rw [BrokerTable.queueOf, BrokerTable.getElem?_close, Option.map_map, same]
  rfl

/-- A move does to the queue of a connection what it means for the connection. -/
theorem inbox_after
    (sound : table.Sound) {move : TableMove} (possible : move.IsPossible table)
    (number : Nat) (accepted taken : List SignedBatch) :
    (⟨(table.after move).queueOf number, accepted ++ acceptedBy number [(table, move)],
        taken ++ takenFrom number [(table, move)]⟩ : Inbox) =
      (ownEvent? number (table, move)).toList.foldl Inbox.follow
        ⟨table.queueOf number, accepted, taken⟩ := by
  have unchanged : ∀ next : BrokerTable, next.queueOf number = table.queueOf number →
      (⟨next.queueOf number, accepted ++ [], taken ++ []⟩ : Inbox) =
        ⟨table.queueOf number, accepted, taken⟩ := by
    intro next same
    rw [same, List.append_nil, List.append_nil]
  cases move with
  | openConnection url id => exact unchanged _ (table.queueOf_openConnection url id number)
  | enter entered =>
      apply unchanged (table.enter entered)
      unfold BrokerTable.enter
      split <;> rfl
  | remove url id =>
      apply unchanged (table.remove url id).2
      rw [BrokerTable.queueOf, BrokerTable.remove_connections]
      rfl
  | close closed => exact unchanged _ (table.queueOf_close closed number)
  | drain drained count =>
      have taking : (table.drain drained count).queueOf number = _ :=
        BrokerTable.queueOf_modify possible (fun queue => (queue.take count).2) (fun _ => rfl)
          number
      by_cases own : drained = number
      · subst own
        simp only [if_true] at taking
        simp [ownEvent?, acceptedBy, takenFrom, Inbox.follow, BrokerTable.after, taking]
      · simp only [if_neg own] at taking
        simp [ownEvent?, acceptedBy, takenFrom, BrokerTable.after, own, taking]
  | dropConsumer dropped =>
      have closing : (table.dropConsumer dropped).queueOf number = _ :=
        BrokerTable.queueOf_modify possible Queue.close (fun _ => rfl) number
      by_cases own : dropped = number
      · subst own
        simp only [if_true] at closing
        simp [ownEvent?, acceptedBy, takenFrom, Inbox.follow, BrokerTable.after, closing]
      · simp only [if_neg own] at closing
        simp [ownEvent?, acceptedBy, takenFrom, BrokerTable.after, own, closing]
  | broadcast now batch order =>
      have offering := sound.queueOf_broadcastIn possible now batch number
      by_cases live : number ∈ table.live.map Prod.snd
      · rw [if_pos live] at offering
        simp only [ownEvent?, acceptedBy, takenFrom, Inbox.follow, BrokerTable.after, if_pos live,
          offering, List.flatMap_cons, List.flatMap_nil, List.append_nil, Option.toList_some,
          List.foldl_cons, List.foldl_nil]
      · rw [if_neg live] at offering
        simp only [ownEvent?, acceptedBy, takenFrom, BrokerTable.after, if_neg live, offering,
          List.flatMap_cons, List.flatMap_nil, List.append_nil, Option.toList_none,
          List.foldl_nil, List.drop_length]

/-- The events of a connection decide on its queue and on all that goes through it. -/
theorem inbox_of_run (run : TableRun past table) (number : Nat) :
    (past.filterMap (ownEvent? number)).foldl Inbox.follow Inbox.fresh =
      ⟨table.queueOf number, acceptedBy number past, takenFrom number past⟩ := by
  induction run with
  | start => rfl
  | @move past table run move possible induction =>
      have last := inbox_after run.sound possible number (acceptedBy number past)
        (takenFrom number past)
      rw [List.filterMap_append, List.foldl_append, induction]
      have single : [(table, move)].filterMap (ownEvent? number) =
          (ownEvent? number (table, move)).toList := by
        cases event : ownEvent? number (table, move) <;> simp [event]
      rw [single, ← last]
      simp only [acceptedBy, takenFrom, List.flatMap_append]

/-- What a queue accepts is what is broadcast while the connection admits it. -/
theorem acceptedBy_eq (run : TableRun past table) (number : Nat) :
    acceptedBy number past = admittedBy number past := by
  induction run with
  | start => rfl
  | @move past table run move possible induction =>
      have single : acceptedBy number [(table, move)] = admittedBy number [(table, move)] := by
        cases move with
        | broadcast now batch order =>
            have queue := (run.sound.fansOut possible now batch).queue number
            by_cases admits : table.admits number = true
            · simp [acceptedBy, admittedBy, queue, admits]
            · simp [acceptedBy, admittedBy, queue, admits]
        | _ => rfl
      calc acceptedBy number (past ++ [(table, move)])
          = acceptedBy number past ++ acceptedBy number [(table, move)] := List.flatMap_append
        _ = admittedBy number past ++ admittedBy number [(table, move)] := by
            rw [induction, single]
        _ = admittedBy number (past ++ [(table, move)]) := List.filterMap_append.symm

theorem admittedBy_sublist (number : Nat) (past : List (BrokerTable × TableMove)) :
    (admittedBy number past).Sublist (broadcasts past) := by
  induction past with
  | nil => exact .slnil
  | cons entry rest induction =>
      rcases entry with ⟨table, move⟩
      cases move with
      | broadcast now batch order =>
          cases admits : table.admits number with
          | true => simpa [admittedBy, broadcasts, admits] using induction
          | false => simpa [admittedBy, broadcasts, admits] using induction.cons batch
      | _ => exact induction

/--
Each broadcast, in whatever order it takes the live connections, reaches the queues of
exactly those that admit it, and counts every live connection once: as delivered, by the
address of a full one, or as one whose consumer is gone.

So a connection accepts exactly what is broadcast while it admits it, in the order of the
broadcasts and each at most once.  Its consumer takes a front of that, and the queue holds
the rest.  In two runs in which the same happens to one connection each, these two accept
the same and the same is taken from them.
-/
theorem isolates_connections (run : TableRun past table) :
    (∀ (now : Nat) (batch : SignedBatch) (order : List (String × Nat)),
        order.Perm table.live →
        table.FansOut batch (table.broadcastIn now batch order).1
          (table.broadcastIn now batch order).2) ∧
      (∀ number : Nat,
        acceptedBy number past = admittedBy number past ∧
          (acceptedBy number past).Sublist (broadcasts past) ∧
          takenFrom number past <+: acceptedBy number past ∧
          ((table.queueOf number).isOpen = true →
            takenFrom number past ++ (table.queueOf number).items = acceptedBy number past)) ∧
      ∀ (other : List (BrokerTable × TableMove)) (last : BrokerTable), TableRun other last →
        ∀ number counterpart : Nat,
          past.filterMap (ownEvent? number) = other.filterMap (ownEvent? counterpart) →
          acceptedBy number past = acceptedBy counterpart other ∧
            takenFrom number past = takenFrom counterpart other := by
  refine ⟨?_, ?_, ?_⟩
  · intro now batch order ordered
    exact run.sound.fansOut ordered now batch
  · intro number
    have fresh : Inbox.fresh.Fits := ⟨fun _ => rfl, List.prefix_rfl, fun _ => rfl⟩
    have fits := fresh.foldl (past.filterMap (ownEvent? number))
    rw [inbox_of_run run] at fits
    have accepted := acceptedBy_eq run number
    refine ⟨accepted, ?_, fits.taken, fits.waits⟩
    rw [accepted]
    exact admittedBy_sublist number past
  · intro other last otherRun number counterpart same
    have inbox := inbox_of_run run number
    rw [same, inbox_of_run otherRun counterpart] at inbox
    exact ⟨(congrArg Inbox.accepted inbox).symm, (congrArg Inbox.taken inbox).symm⟩

/-- A broker whose consumer is gone costs its neighbour nothing, whichever is taken first. -/
theorem isolates_connections_from_abandoned :
    ∃ (past : List (BrokerTable × TableMove)) (table : BrokerTable),
      TableRun past table ∧ past.length = 5 ∧ broadcasts past = [[]] ∧
        acceptedBy 0 past = [[]] ∧ takenFrom 0 past <+: [[]] ∧ acceptedBy 1 past = [] := by
  have opened := (TableRun.start.move (.openConnection "a" 0) trivial).move
    (.openConnection "b" 1) trivial
  have abandoned := opened.move (.dropConsumer 1) (by decide +kernel)
  have run := (abandoned.move (.broadcast 0 [] [("b", 1), ("a", 0)]) (by decide +kernel)).move
    (.drain 0 1) (by decide +kernel)
  rcases isolates_connections run with ⟨_, connections, _⟩
  rcases connections 0 with ⟨accepted, _, front, _⟩
  rcases connections 1 with ⟨refused, _, _, _⟩
  rw [accepted] at front
  exact ⟨_, _, run, rfl, rfl, accepted.trans rfl, front, refused.trans rfl⟩

end PricePublisher
