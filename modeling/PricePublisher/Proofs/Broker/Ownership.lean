import PricePublisher.Proofs.Broker.Turns
import PricePublisher.Proofs.Keyed

/-!
# Who owns a connection

A connection is held by the lifecycle that opened it, from when it is entered
into the table until the lifecycle lets go of it.  The table refers to it only
while that lifecycle is connected; so a connection that has been closed is never
offered anything, and no other lifecycle can touch it.

`effect_of_step?` lists once what a step of a lifecycle can do.  The invariant
`Owned` is kept by each of these effects, by reconciling with a new list, by the
end of all connections and by whatever changes only the queues.
-/

namespace PricePublisher

open Keyed (Ascending)

/-- The connection that a lifecycle has opened and not yet let go of. -/
def LifecyclePhase.held? : LifecyclePhase → Option Nat
  | .connected connection => some connection
  | .closing connection => some connection
  | .stopped connection => some connection
  | _ => none

theorem LifecyclePhase.held_of_written
    {phase : LifecyclePhase} {connection : Nat}
    (written : phase.written? = some connection) :
    phase.held? = some connection := by
  cases phase with
  | connected _ => exact written
  | closing _ => exact written
  | _ => cases written

theorem ConnectionHandle.close_id (handle : ConnectionHandle) :
    handle.close.2.id = handle.id := by
  unfold close
  split <;> rfl

namespace BrokerTable

theorem remove_connections
    (table : BrokerTable) (url : String) (id : Nat) :
    (table.remove url id).2.connections = table.connections := by
  unfold remove
  split <;> rfl

/-- A change of one connection leaves the others as they are. -/
theorem getElem?_modify
    (table : BrokerTable) (modified connection : Nat)
    (change : BrokerConnection → BrokerConnection) :
    (table.modify modified change).connections[connection]? =
      (table.connections[connection]?).map fun entry =>
        if modified = connection then change entry else entry :=
  List.getElem?_modify _ _ _ _

/-- Closing a connection changes nothing but its handle. -/
theorem getElem?_close
    (table : BrokerTable) (closed connection : Nat) :
    (table.close closed).connections[connection]? =
      (table.connections[connection]?).map fun entry =>
        if closed = connection then { entry with handle := entry.handle.close.2 }
        else entry := by
  unfold close
  cases found : table.connections[closed]? with
  | none =>
      by_cases same : closed = connection
      · subst same
        simp [found]
      · simp [same]
  | some entry =>
      have modified :
          (table.modify closed fun other =>
              { other with handle := entry.handle.close.2 }).connections[connection]? =
            (table.connections[connection]?).map fun other =>
              if closed = connection then { other with handle := other.handle.close.2 }
              else other := by
        rw [getElem?_modify]
        by_cases same : closed = connection
        · subst same
          simp [found]
        · simp [same]
      rw [← modified]
      by_cases cleanup : entry.handle.close.1 = true
      · simp only [cleanup, if_true, remove_connections]
      · simp only [cleanup]
        rfl

theorem length_close (table : BrokerTable) (closed : Nat) :
    (table.close closed).connections.length = table.connections.length := by
  unfold close
  cases table.connections[closed]? with
  | none => rfl
  | some entry =>
      by_cases cleanup : entry.handle.close.1 = true
      · simp only [cleanup, if_true, remove_connections]
        exact List.length_modify _ _ _
      · simp only [cleanup]
        exact List.length_modify _ _ _

theorem getElem?_dropConsumer
    (table : BrokerTable) (dropped connection : Nat) :
    (table.dropConsumer dropped).connections[connection]? =
      (table.connections[connection]?).map fun entry =>
        if dropped = connection then { entry with queue := entry.queue.close }
        else entry :=
  table.getElem?_modify dropped connection _

/-- An entry that a connection is opened for stands behind all that there were. -/
theorem openConnection_cases
    {table : BrokerTable} {url : String} {id connection : Nat} {entry : BrokerConnection}
    (found : (table.openConnection url id).connections[connection]? = some entry) :
    (connection = table.connections.length ∧ entry = .opened url id) ∨
      table.connections[connection]? = some entry :=
  Positions.concat_cases found

theorem getElem?_openConnection_of_some
    {table : BrokerTable} {connection : Nat} {entry : BrokerConnection}
    (found : table.connections[connection]? = some entry) (url : String) (id : Nat) :
    (table.openConnection url id).connections[connection]? = some entry :=
  (List.getElem?_append_left (List.getElem?_eq_some_iff.mp found).1).trans found

/-- The new connection is live for its address, and the others are as they were. -/
theorem live_openConnection_cases
    {table : BrokerTable} {opened url : String} {id connection : Nat}
    (live : Keyed.get? (table.openConnection opened id).live url = some connection) :
    (url = opened ∧ connection = table.connections.length) ∨
      (url ≠ opened ∧ Keyed.get? table.live url = some connection) := by
  change Keyed.get? (Keyed.insert opened _ table.live) url = some connection at live
  rw [Keyed.get?_insert] at live
  by_cases same : url = opened
  · rw [if_pos same] at live
    exact .inl ⟨same, (Option.some.inj live).symm⟩
  · rw [if_neg same] at live
    exact .inr ⟨same, live⟩

/-! ## Entries that go -/

theorem exists_filter_of_eq {table next : BrokerTable} (same : next.live = table.live) :
    ∃ keep, next.live = table.live.filter keep := by
  refine ⟨fun _ => true, ?_⟩
  rw [same, List.filter_eq_self.mpr fun _ _ => rfl]

theorem exists_filter_of_remove (table : BrokerTable) (url : String) (id : Nat) :
    ∃ keep, (table.remove url id).2.live = table.live.filter keep := by
  unfold remove
  split
  · exact ⟨_, rfl⟩
  · exact exists_filter_of_eq rfl

theorem exists_filter_of_close (table : BrokerTable) (number : Nat) :
    ∃ keep, (table.close number).live = table.live.filter keep := by
  unfold close
  cases table.connections[number]? with
  | none => exact exists_filter_of_eq rfl
  | some connection =>
      simp only
      split
      · exact exists_filter_of_remove _ _ _
      · exact exists_filter_of_eq rfl

end BrokerTable

/-- Connections belong to the lifecycles that opened them. -/
structure Owned (table : BrokerTable) (lifecycles : List Lifecycle) : Prop where
  ascending : Ascending table.live
  identified : ∀ (connection : Nat) (entry : BrokerConnection),
    table.connections[connection]? = some entry → entry.handle.id = connection
  held : ∀ (number : Nat) (lifecycle : Lifecycle) (connection : Nat),
    lifecycles[number]? = some lifecycle →
    lifecycle.phase.held? = some connection →
    ∃ entry, table.connections[connection]? = some entry ∧ entry.url = lifecycle.url
  /-- No two lifecycles hold one connection. -/
  alone : ∀ (first second : Nat) (lifecycle other : Lifecycle) (connection : Nat),
    lifecycles[first]? = some lifecycle →
    lifecycles[second]? = some other →
    lifecycle.phase.held? = some connection →
    other.phase.held? = some connection →
    first = second
  /-- What the table refers to has not been closed. -/
  live_open : ∀ (url : String) (connection : Nat),
    Keyed.get? table.live url = some connection →
    ∃ entry, table.connections[connection]? = some entry ∧ entry.url = url ∧
      entry.handle.cleanupPending = true ∧ entry.queue.isOpen = true
  /-- The lifecycle of what the table refers to is connected. -/
  live_connected : ∀ (url : String) (connection : Nat),
    Keyed.get? table.live url = some connection →
    ∃ (number : Nat) (lifecycle : Lifecycle),
      lifecycles[number]? = some lifecycle ∧ lifecycle.url = url ∧
        lifecycle.phase = .connected connection

theorem owned_empty : Owned .empty [] where
  ascending := Keyed.ascending_nil
  identified := nofun
  held := nofun
  alone := nofun
  live_open := nofun
  live_connected := nofun

namespace Owned

variable {table : BrokerTable} {lifecycles : List Lifecycle}

/-- The table refers to a connection under one address only. -/
theorem url_eq
    (owned : Owned table lifecycles)
    {url : String} {connection : Nat} {entry : BrokerConnection}
    (live : Keyed.get? table.live url = some connection)
    (found : table.connections[connection]? = some entry) :
    entry.url = url := by
  obtain ⟨other, present, url_eq, _, _⟩ := owned.live_open url connection live
  rw [found] at present
  rw [Option.some.inj present]
  exact url_eq

/-- The identifier of an entry is the number of its connection. -/
theorem entries_eq (owned : Owned table lifecycles) :
    table.entries = table.live := by
  refine (List.filterMap_congr fun listed member => ?_).trans (List.filterMap_some)
  obtain ⟨url, connection⟩ := listed
  obtain ⟨entry, found, _⟩ :=
    owned.live_open url connection (owned.ascending.mem_iff.mp member)
  simp only [found, Option.map_some, owned.identified connection entry found]

theorem mem_entries_iff
    (owned : Owned table lifecycles) {url : String} {connection : Nat} :
    (url, connection) ∈ table.entries ↔ Keyed.get? table.live url = some connection := by
  rw [owned.entries_eq, owned.ascending.mem_iff]

/-! ## Changes of the table -/

/--
Connections stay owned when entries go, and when connections change in neither address
nor identifier.  Only a connection that no entry refers to may come to be closed.
-/
theorem of_change
    (owned : Owned table lifecycles) {next : BrokerTable}
    (fewer : ∃ keep, next.live = table.live.filter keep)
    (change : Nat → BrokerConnection → BrokerConnection)
    (changed : ∀ connection : Nat,
      next.connections[connection]? = table.connections[connection]?.map (change connection))
    (same : ∀ (connection : Nat) (entry : BrokerConnection),
      table.connections[connection]? = some entry →
      (change connection entry).url = entry.url ∧
        (change connection entry).handle.id = entry.handle.id)
    (opens : ∀ (url : String) (connection : Nat) (entry : BrokerConnection),
      Keyed.get? next.live url = some connection →
      table.connections[connection]? = some entry →
      (change connection entry).handle.cleanupPending = entry.handle.cleanupPending ∧
        (change connection entry).queue.isOpen = entry.queue.isOpen) :
    Owned next lifecycles := by
  have forward : ∀ {connection : Nat} {entry : BrokerConnection},
      table.connections[connection]? = some entry →
      next.connections[connection]? = some (change connection entry) := by
    intro connection entry found
    rw [changed, found, Option.map_some]
  have earlier : ∀ {url : String} {connection : Nat},
      Keyed.get? next.live url = some connection →
      Keyed.get? table.live url = some connection := by
    intro url connection live
    obtain ⟨keep, filtered⟩ := fewer
    have member := Keyed.mem_of_get? live
    rw [filtered] at member
    exact owned.ascending.mem_iff.mp (List.mem_of_mem_filter member)
  constructor
  · obtain ⟨keep, filtered⟩ := fewer
    rw [filtered]
    exact owned.ascending.filter keep
  · intro connection entry found
    rw [changed] at found
    obtain ⟨old, present, rfl⟩ := Option.map_eq_some_iff.mp found
    exact (same connection old present).2.trans (owned.identified connection old present)
  · intro number lifecycle connection found holds
    obtain ⟨entry, present, url⟩ := owned.held number lifecycle connection found holds
    exact ⟨_, forward present, (same connection entry present).1.trans url⟩
  · exact owned.alone
  · intro url connection live
    obtain ⟨entry, present, entry_url, pending, isOpen⟩ :=
      owned.live_open url connection (earlier live)
    obtain ⟨same_pending, same_open⟩ := opens url connection entry live present
    exact ⟨_, forward present, (same connection entry present).1.trans entry_url,
      same_pending.trans pending, same_open.trans isOpen⟩
  · intro url connection live
    exact owned.live_connected url connection (earlier live)

/-- Connections stay owned when only their queues and throttles change. -/
theorem of_queues
    (owned : Owned table lifecycles) {next : BrokerTable} (live : next.live = table.live)
    (change : Nat → BrokerConnection → BrokerConnection)
    (changed : ∀ connection : Nat,
      next.connections[connection]? = table.connections[connection]?.map (change connection))
    (same : ∀ (connection : Nat) (entry : BrokerConnection),
      table.connections[connection]? = some entry →
      (change connection entry).url = entry.url ∧
        (change connection entry).handle = entry.handle ∧
        (change connection entry).queue.isOpen = entry.queue.isOpen) :
    Owned next lifecycles := by
  refine owned.of_change (BrokerTable.exists_filter_of_eq live) change changed ?_ ?_
  · intro connection entry found
    obtain ⟨url, handle, _⟩ := same connection entry found
    exact ⟨url, congrArg ConnectionHandle.id handle⟩
  · intro url connection entry _ found
    obtain ⟨_, handle, isOpen⟩ := same connection entry found
    exact ⟨congrArg ConnectionHandle.cleanupPending handle, isOpen⟩

/-- What is live after a connection was closed was live before and is another one. -/
theorem live_close
    (owned : Owned table lifecycles)
    {closed connection : Nat} {url : String}
    (live : Keyed.get? (table.close closed).live url = some connection) :
    Keyed.get? table.live url = some connection ∧ connection ≠ closed := by
  unfold BrokerTable.close at live
  cases found : table.connections[closed]? with
  | none =>
      rw [found] at live
      refine ⟨live, ?_⟩
      rintro rfl
      obtain ⟨entry, present, _⟩ := owned.live_open url connection live
      rw [found] at present
      cases present
  | some entry =>
      rw [found] at live
      by_cases pending : entry.handle.cleanupPending = true
      · simp only [ConnectionHandle.close, pending, if_true, BrokerTable.remove] at live
        split at live
        next maps =>
          have erased : url ≠ entry.url ∧ Keyed.get? table.live url = some connection := by
            rw [BrokerTable.modify, Keyed.get?_erase] at live
            exact Option.ite_none_left_eq_some.mp live
          refine ⟨erased.2, ?_⟩
          rintro rfl
          exact erased.1 (owned.url_eq erased.2 found).symm
        next maps =>
          have before : Keyed.get? table.live url = some connection := live
          refine ⟨before, ?_⟩
          rintro rfl
          refine maps ?_
          have same_url := owned.url_eq before found
          simp [BrokerTable.maps, BrokerTable.find?, BrokerTable.modify, same_url, before,
            found]
      · simp only [ConnectionHandle.close, pending] at live
        have before : Keyed.get? table.live url = some connection := live
        refine ⟨before, ?_⟩
        rintro rfl
        obtain ⟨other, present, _, open_, _⟩ := owned.live_open url connection before
        rw [found] at present
        rw [← Option.some.inj present] at open_
        exact pending open_

/-- What is live stays live when another connection is closed. -/
theorem live_of_close_ne
    (owned : Owned table lifecycles)
    {closed connection : Nat} {url : String}
    (live : Keyed.get? table.live url = some connection) (other : connection ≠ closed) :
    Keyed.get? (table.close closed).live url = some connection := by
  unfold BrokerTable.close
  cases found : table.connections[closed]? with
  | none => exact live
  | some entry =>
      by_cases pending : entry.handle.cleanupPending = true
      · simp only [ConnectionHandle.close, pending, if_true, BrokerTable.remove]
        split
        next maps =>
          have different : url ≠ entry.url := by
            rintro rfl
            obtain ⟨held, present, _⟩ := owned.live_open _ connection live
            have held_id := owned.identified connection held present
            have closed_id := owned.identified closed entry found
            simp [BrokerTable.maps, BrokerTable.find?, BrokerTable.modify, live,
              present, other.symm, held_id, closed_id] at maps
            exact other maps
          rw [BrokerTable.modify, Keyed.get?_erase, if_neg different]
          exact live
        next => exact live
      · simp only [ConnectionHandle.close, pending]
        exact live

theorem close (owned : Owned table lifecycles) (closed : Nat) :
    Owned (table.close closed) lifecycles := by
  refine owned.of_change (table.exists_filter_of_close closed) _
    (table.getElem?_close closed) ?_ ?_
  · intro connection entry _
    split
    · exact ⟨rfl, ConnectionHandle.close_id _⟩
    · exact ⟨rfl, rfl⟩
  · intro url connection entry live _
    have other := (owned.live_close live).2
    rw [if_neg (Ne.symm other)]
    exact ⟨rfl, rfl⟩

/-- The consumer of a connection that is not live may go away. -/
theorem dropConsumer
    (owned : Owned table lifecycles) {dropped : Nat}
    (gone : ∀ url, Keyed.get? table.live url ≠ some dropped) :
    Owned (table.dropConsumer dropped) lifecycles := by
  refine owned.of_change (BrokerTable.exists_filter_of_eq rfl) _
    (table.getElem?_dropConsumer dropped) ?_ ?_
  · intro connection entry _
    split <;> exact ⟨rfl, rfl⟩
  · intro url connection entry live _
    have other : dropped ≠ connection := by
      rintro rfl
      exact gone url live
    rw [if_neg other]
    exact ⟨rfl, rfl⟩

/-! ## Changes of lifecycles -/

/-- A connection that is held has been opened. -/
theorem held_lt
    (owned : Owned table lifecycles)
    {number connection : Nat} {lifecycle : Lifecycle}
    (found : lifecycles[number]? = some lifecycle)
    (holds : lifecycle.phase.held? = some connection) :
    connection < table.connections.length := by
  obtain ⟨_, present, _⟩ := owned.held number lifecycle connection found holds
  exact (List.getElem?_eq_some_iff.mp present).1

/--
Connections stay owned when lifecycles take hold of no others, and those that are
connected by what the table refers to stay so.
-/
theorem of_lifecycles
    (owned : Owned table lifecycles) {others : List Lifecycle}
    (held : ∀ {number : Nat} {later : Lifecycle} {connection : Nat},
      others[number]? = some later → later.phase.held? = some connection →
      ∃ before, lifecycles[number]? = some before ∧ before.url = later.url ∧
        before.phase.held? = some connection)
    (connected : ∀ {url : String} {connection number : Nat} {before : Lifecycle},
      Keyed.get? table.live url = some connection →
      lifecycles[number]? = some before → before.phase = .connected connection →
      ∃ later, others[number]? = some later ∧ later.url = before.url ∧
        later.phase = .connected connection) :
    Owned table others where
  ascending := owned.ascending
  identified := owned.identified
  held := by
    intro number later connection found holds
    obtain ⟨before, present, url, held_before⟩ := held found holds
    obtain ⟨entry, kept, entry_url⟩ :=
      owned.held number before connection present held_before
    exact ⟨entry, kept, entry_url.trans url⟩
  alone := by
    intro first second one other connection firstFound secondFound firstHolds secondHolds
    obtain ⟨before, present, _, held_before⟩ := held firstFound firstHolds
    obtain ⟨also, presentToo, _, heldToo⟩ := held secondFound secondHolds
    exact owned.alone first second before also connection present presentToo held_before
      heldToo
  live_open := owned.live_open
  live_connected := by
    intro url connection live
    obtain ⟨number, before, found, url_eq, phase⟩ :=
      owned.live_connected url connection live
    obtain ⟨later, present, same_url, same_phase⟩ := connected live found phase
    exact ⟨number, later, present, same_url.trans url_eq, same_phase⟩

/-- A lifecycle that is in a phase without or with its own connection keeps all owned. -/
theorem setPhase
    (owned : Owned table lifecycles)
    {number : Nat} {lifecycle : Lifecycle} {phase : LifecyclePhase}
    (current : lifecycles[number]? = some lifecycle)
    (holds : ∀ connection, phase.held? = some connection →
      lifecycle.phase.held? = some connection)
    (gone : ∀ url connection, lifecycle.phase = .connected connection →
      Keyed.get? table.live url ≠ some connection) :
    Owned table (lifecycles.modify number fun lifecycle => lifecycle.inPhase phase) := by
  refine owned.of_lifecycles ?_ ?_
  · intro other later connection found held
    rcases Positions.modify_cases current found with ⟨rfl, rfl⟩ | ⟨_, before⟩
    · exact ⟨lifecycle, current, rfl, holds connection held⟩
    · exact ⟨later, before, rfl, held⟩
  · intro url connection other before live found connected
    have different : number ≠ other := by
      rintro rfl
      rw [current] at found
      cases found
      exact gone url connection connected live
    exact ⟨before, (List.getElem?_modify_ne _ _ different).trans found, rfl, connected⟩

/-- A lifecycle goes on with its connection, which nothing refers to any more. -/
theorem setPhase_of_held
    (owned : Owned table lifecycles)
    {number connection : Nat} {lifecycle : Lifecycle} {phase : LifecyclePhase}
    (current : lifecycles[number]? = some lifecycle)
    (before : lifecycle.phase.held? = some connection)
    (after : phase.held? = some connection)
    (gone : lifecycle.phase = .connected connection →
      ∀ url, Keyed.get? table.live url ≠ some connection) :
    Owned table (lifecycles.modify number fun lifecycle => lifecycle.inPhase phase) := by
  refine owned.setPhase current ?_ ?_
  · intro other held
    rw [after] at held
    exact before.trans held
  · intro url other connected
    rw [connected] at before
    cases before
    exact gone connected url

/-- A lifecycle that is not connected goes on without a connection. -/
theorem setPhase_of_free
    (owned : Owned table lifecycles)
    {number : Nat} {lifecycle : Lifecycle} {phase : LifecyclePhase}
    (current : lifecycles[number]? = some lifecycle)
    (unconnected : ∀ connection, lifecycle.phase ≠ .connected connection)
    (after : phase.held? = none) :
    Owned table (lifecycles.modify number fun lifecycle => lifecycle.inPhase phase) := by
  refine owned.setPhase current ?_ ?_
  · intro other held
    rw [after] at held
    cases held
  · intro url other connected
    exact absurd connected (unconnected other)

/-- Nobody but its opener holds a connection that has just been opened. -/
theorem holder_cases
    (owned : Owned table lifecycles)
    {number other connection : Nat} {lifecycle holder : Lifecycle}
    (current : lifecycles[number]? = some lifecycle)
    (found : (lifecycles.modify number fun lifecycle =>
      lifecycle.inPhase (.connected table.connections.length))[other]? = some holder)
    (holds : holder.phase.held? = some connection) :
    (number = other ∧ connection = table.connections.length) ∨
      (connection < table.connections.length ∧ lifecycles[other]? = some holder) := by
  rcases Positions.modify_cases current found with ⟨same, rfl⟩ | ⟨_, before⟩
  · exact .inl ⟨same, (Option.some.inj holds).symm⟩
  · exact .inr ⟨owned.held_lt before holds, before⟩

/-- A lifecycle that holds nothing comes to own a connection that it opens. -/
theorem enter
    (owned : Owned table lifecycles)
    {number : Nat} {lifecycle : Lifecycle}
    (current : lifecycles[number]? = some lifecycle)
    (free : lifecycle.phase.held? = none) :
    Owned (table.openConnection lifecycle.url table.connections.length)
      (lifecycles.modify number fun lifecycle =>
        lifecycle.inPhase (.connected table.connections.length)) := by
  have opened :
      (table.openConnection lifecycle.url
          table.connections.length).connections[table.connections.length]? =
        some (.opened lifecycle.url table.connections.length) :=
    List.getElem?_concat_length
  have changed :
      (lifecycles.modify number fun lifecycle =>
          lifecycle.inPhase (.connected table.connections.length))[number]? =
        some (lifecycle.inPhase (.connected table.connections.length)) := by
    rw [List.getElem?_modify_eq, current]
    rfl
  constructor
  · exact owned.ascending.insert _ _
  · intro connection entry found
    rcases BrokerTable.openConnection_cases found with ⟨rfl, rfl⟩ | before
    · rfl
    · exact owned.identified connection entry before
  · intro other holder connection found holds
    rcases Positions.modify_cases current found with ⟨rfl, rfl⟩ | ⟨_, before⟩
    · cases holds
      exact ⟨_, opened, rfl⟩
    · obtain ⟨entry, present, url⟩ := owned.held other holder connection before holds
      exact ⟨entry, BrokerTable.getElem?_openConnection_of_some present _ _, url⟩
  · intro first second one other connection firstFound secondFound firstHolds secondHolds
    rcases owned.holder_cases current firstFound firstHolds with
      ⟨rfl, atEnd⟩ | ⟨before, firstBefore⟩
    · rcases owned.holder_cases current secondFound secondHolds with
        ⟨rfl, _⟩ | ⟨before, _⟩
      · rfl
      · exact absurd before (Nat.not_lt_of_ge (Nat.le_of_eq atEnd.symm))
    · rcases owned.holder_cases current secondFound secondHolds with
        ⟨_, atEnd⟩ | ⟨_, secondBefore⟩
      · exact absurd before (Nat.not_lt_of_ge (Nat.le_of_eq atEnd.symm))
      · exact owned.alone first second one other connection firstBefore secondBefore
          firstHolds secondHolds
  · intro url connection live
    rcases BrokerTable.live_openConnection_cases live with ⟨same, rfl⟩ | ⟨_, live⟩
    · exact ⟨_, opened, same.symm, rfl, rfl⟩
    · obtain ⟨entry, present, rest⟩ := owned.live_open url connection live
      exact ⟨entry, BrokerTable.getElem?_openConnection_of_some present _ _, rest⟩
  · intro url connection live
    rcases BrokerTable.live_openConnection_cases live with ⟨same, rfl⟩ | ⟨_, live⟩
    · exact ⟨number, _, changed, same.symm, rfl⟩
    · obtain ⟨other, holder, found, url_eq, connected⟩ :=
        owned.live_connected url connection live
      have different : number ≠ other := by
        rintro rfl
        rw [current] at found
        cases found
        rw [connected] at free
        cases free
      exact ⟨other, holder, (List.getElem?_modify_ne _ _ different).trans found, url_eq,
        connected⟩

end Owned

namespace ConnectionManager

variable {manager next : ConnectionManager}

/-- All connections of a manager are owned. -/
def IsOwned (manager : ConnectionManager) : Prop :=
  Owned manager.table manager.lifecycles

theorem isOwned_fresh
    (publisherKey : String) (auth : Option String) (reconnectDelay : Duration) :
    IsOwned (fresh publisherKey auth reconnectDelay) :=
  owned_empty

/-! ## What a step of a lifecycle can do -/

/-- The ways in which a step of a lifecycle changes a manager. -/
inductive Effect
    (manager : ConnectionManager) (number : Nat) (lifecycle : Lifecycle) :
    LifecycleStep → ConnectionManager → Prop where
  | moved (step : LifecycleStep) (phase : LifecyclePhase)
      (before : lifecycle.phase.held? = none) (after : phase.held? = none) :
      Effect manager number lifecycle step (manager.setPhase number phase)
  | entered (dialed : lifecycle.phase = .dialed) :
      Effect manager number lifecycle .enter (manager.enter number lifecycle)
  | closed (connection : Nat) (connected : lifecycle.phase = .connected connection)
      (cancelled : manager.isCancelled lifecycle = true) :
      Effect manager number lifecycle .cancel
        ((manager.closeConnection connection).setPhase number (.closing connection))
  | lost (step : LifecycleStep) (connection : Nat)
      (connected : lifecycle.phase = .connected connection) (broken : step.breaksOff = true) :
      Effect manager number lifecycle step
        ((manager.closeConnection connection).setPhase number (.stopped connection))
  | replaced (connection : Nat) (connected : lifecycle.phase = .connected connection)
      (gone : manager.isReplaced connection = true)
      (idle : manager.isIdle connection = true) :
      Effect manager number lifecycle .exhaust
        (manager.setPhase number (.stopped connection))
  | failed (step : LifecycleStep) (connection : Nat)
      (closing : lifecycle.phase = .closing connection) (broken : step.breaksOff = true) :
      Effect manager number lifecycle step
        (manager.setPhase number (.stopped connection))
  | emptied (connection : Nat) (closing : lifecycle.phase = .closing connection)
      (idle : manager.isIdle connection = true) :
      Effect manager number lifecycle .exhaust
        (manager.setPhase number (.stopped connection))
  | left (connection : Nat) (phase : LifecyclePhase)
      (stopped : lifecycle.phase = .stopped connection)
      (after : phase.held? = none) :
      Effect manager number lifecycle .leave
        ((manager.leave connection).setPhase number phase)

/-- Every turn of a lifecycle has one of the listed effects. -/
theorem Turn.effect
    {lifecycle : Lifecycle} {step : LifecycleStep} {table : BrokerTable}
    {phase : LifecyclePhase}
    (turn : Turn manager lifecycle step table phase) (number : Nat) :
    Effect manager number lifecycle step (manager.turned number table phase) := by
  have without : (manager.resting lifecycle).held? = none := by
    unfold resting
    split <;> rfl
  cases turn with
  | dial connecting => exact .moved .dial .dialed (by rw [connecting]; rfl) rfl
  | refuse connecting => exact .moved .refuse _ (by rw [connecting]; rfl) without
  | enter dialed => exact .entered dialed
  | close connection connected cancelled => exact .closed connection connected cancelled
  | lose _ connection connected broken => exact .lost _ connection connected broken
  | yield connection connected replaced idle =>
      exact .replaced connection connected replaced idle
  | fail _ connection closing broken => exact .failed _ connection closing broken
  | flush connection closing idle => exact .emptied connection closing idle
  | leave connection stopped => exact .left connection _ stopped without
  | retry waiting => exact .moved .retry .connecting (by rw [waiting]; rfl) rfl
  | quit unconnected cancelled =>
      refine .moved .cancel .ended ?_ rfl
      rcases unconnected with connecting | waiting
      · rw [connecting]
        rfl
      · rw [waiting]
        rfl

/-- Every step of a lifecycle has one of the listed effects. -/
theorem effect_of_step?
    {number : Nat} {step : LifecycleStep} {notices : List Notice}
    (taken : manager.step? number step = some (notices, next)) :
    ∃ lifecycle, manager.lifecycles[number]? = some lifecycle ∧
      Effect manager number lifecycle step next := by
  obtain ⟨lifecycle, table, phase, found, turn, rfl⟩ := turn_of_step? taken
  exact ⟨lifecycle, found, turn.effect number⟩

/-- A lifecycle that is connected finds no entry of its connection once it is closed. -/
theorem IsOwned.not_live_of_close
    (owned : manager.IsOwned) (connection : Nat) (url : String) :
    Keyed.get? (manager.table.close connection).live url ≠ some connection := by
  intro live
  exact (Owned.live_close owned live).2 rfl

/-- What another connection has replaced is not live. -/
theorem not_live_of_isReplaced
    {connection : Nat} (gone : manager.isReplaced connection = true) (url : String) :
    Keyed.get? manager.table.live url ≠ some connection := by
  intro live
  have other := List.all_eq_true.mp gone _ (Keyed.mem_of_get? live)
  simp at other

theorem IsOwned.effect
    (owned : manager.IsOwned)
    {number : Nat} {lifecycle : Lifecycle} {step : LifecycleStep}
    (found : manager.lifecycles[number]? = some lifecycle)
    (effect : Effect manager number lifecycle step next) :
    next.IsOwned := by
  cases effect with
  | moved step phase before after =>
      refine Owned.setPhase_of_free owned found (fun connection connected => ?_) after
      rw [connected] at before
      cases before
  | entered dialed => exact Owned.enter owned found (by rw [dialed]; rfl)
  | closed connection connected cancelled =>
      exact (Owned.close owned connection).setPhase_of_held found (by rw [connected]; rfl) rfl
        fun _ => owned.not_live_of_close connection
  | lost step connection connected broken =>
      exact (Owned.close owned connection).setPhase_of_held found (by rw [connected]; rfl) rfl
        fun _ => owned.not_live_of_close connection
  | replaced connection connected gone idle =>
      exact Owned.setPhase_of_held owned found (by rw [connected]; rfl) rfl
        fun _ => not_live_of_isReplaced gone
  | failed step connection closing broken =>
      refine Owned.setPhase_of_held owned found (by rw [closing]; rfl) rfl fun connected => ?_
      rw [closing] at connected
      cases connected
  | emptied connection closing idle =>
      refine Owned.setPhase_of_held owned found (by rw [closing]; rfl) rfl fun connected => ?_
      rw [closing] at connected
      cases connected
  | left connection phase stopped after =>
      have dropped : Owned ((manager.table.close connection).dropConsumer connection)
          manager.lifecycles :=
        (Owned.close owned connection).dropConsumer
          (owned.not_live_of_close connection)
      refine dropped.setPhase_of_free found (fun other connected => ?_) after
      rw [stopped] at connected
      cases connected

/-! ## Reconciling leaves connections alone -/

/-- One manager differs from another by filters, removals and started lifecycles. -/
structure Extends (next manager : ConnectionManager) : Prop where
  table : next.table = manager.table
  kept : ∀ (number : Nat) (lifecycle : Lifecycle),
    manager.lifecycles[number]? = some lifecycle →
    ∃ later, next.lifecycles[number]? = some later ∧ later.url = lifecycle.url ∧
      later.phase = lifecycle.phase
  added : ∀ (number : Nat) (later : Lifecycle),
    next.lifecycles[number]? = some later →
    (∃ lifecycle, manager.lifecycles[number]? = some lifecycle ∧
      later.url = lifecycle.url ∧ later.phase = lifecycle.phase) ∨
    later.phase = .connecting
  /-- A lifecycle that is to end is not revived. -/
  cancelled : ∀ (number : Nat) (lifecycle later : Lifecycle),
    manager.lifecycles[number]? = some lifecycle →
    next.lifecycles[number]? = some later →
    manager.isCancelled lifecycle = true →
    next.isCancelled later = true

theorem Extends.refl (manager : ConnectionManager) : manager.Extends manager where
  table := rfl
  kept := fun _ lifecycle found => ⟨lifecycle, found, rfl, rfl⟩
  added := fun _ lifecycle found => .inl ⟨lifecycle, found, rfl, rfl⟩
  cancelled := by
    intro number lifecycle later found reached cancelled
    rw [found] at reached
    cases reached
    exact cancelled

theorem Extends.trans
    {first second third : ConnectionManager}
    (late : third.Extends second) (early : second.Extends first) :
    third.Extends first where
  table := late.table.trans early.table
  kept := by
    intro number lifecycle found
    obtain ⟨middle, present, url, phase⟩ := early.kept number lifecycle found
    obtain ⟨last, reached, same_url, same_phase⟩ := late.kept number middle present
    exact ⟨last, reached, same_url.trans url, same_phase.trans phase⟩
  added := by
    intro number last found
    rcases late.added number last found with ⟨middle, present, url, phase⟩ | fresh
    · rcases early.added number middle present with ⟨first, old, same_url, same_phase⟩ | fresh
      · exact .inl ⟨first, old, url.trans same_url, phase.trans same_phase⟩
      · exact .inr (phase.trans fresh)
    · exact .inr fresh
  cancelled := by
    intro number lifecycle last found reached cancelled
    obtain ⟨middle, present, _⟩ := early.kept number lifecycle found
    exact late.cancelled number middle last present reached
      (early.cancelled number lifecycle middle found present cancelled)

theorem IsOwned.extends
    (owned : manager.IsOwned) (extended : next.Extends manager) :
    next.IsOwned := by
  unfold IsOwned
  rw [extended.table]
  refine Owned.of_lifecycles owned ?_ ?_
  · intro number later connection found held
    rcases extended.added number later found with ⟨before, present, url, phase⟩ | fresh
    · exact ⟨before, present, url.symm, phase ▸ held⟩
    · rw [fresh] at held
      cases held
  · intro url connection number before _ found connected
    obtain ⟨later, present, same_url, same_phase⟩ := extended.kept number before found
    exact ⟨later, present, same_url, same_phase.trans connected⟩

/-- Changing a lifecycle in neither address nor phase extends a manager. -/
theorem extends_modify
    (manager : ConnectionManager) (number : Nat) (change : Lifecycle → Lifecycle)
    (tracked : List (String × Nat))
    (same_url : ∀ lifecycle, (change lifecycle).url = lifecycle.url)
    (same_phase : ∀ lifecycle, (change lifecycle).phase = lifecycle.phase)
    (removed : ∀ lifecycle, lifecycle.isRemoved = true → (change lifecycle).isRemoved = true) :
    Extends { manager with
      lifecycles := manager.lifecycles.modify number change, tracked := tracked }
      manager := by
  have reached : ∀ other : Nat,
      (manager.lifecycles.modify number change)[other]? =
        (manager.lifecycles[other]?).map fun lifecycle =>
          if number = other then change lifecycle else lifecycle :=
    fun other => List.getElem?_modify _ _ _ _
  have same : ∀ (other : Nat) (lifecycle : Lifecycle),
      (if number = other then change lifecycle else lifecycle).url = lifecycle.url ∧
        (if number = other then change lifecycle else lifecycle).phase = lifecycle.phase ∧
        (lifecycle.isRemoved = true →
          (if number = other then change lifecycle else lifecycle).isRemoved = true) := by
    intro other lifecycle
    split
    · exact ⟨same_url lifecycle, same_phase lifecycle, removed lifecycle⟩
    · exact ⟨rfl, rfl, id⟩
  constructor
  · rfl
  · intro other lifecycle found
    obtain ⟨url, phase, _⟩ := same other lifecycle
    exact ⟨_, (reached other).trans (congrArg _ found), url, phase⟩
  · intro other later found
    obtain ⟨lifecycle, present, rfl⟩ :=
      Option.map_eq_some_iff.mp ((reached other).symm.trans found)
    obtain ⟨url, phase, _⟩ := same other lifecycle
    exact .inl ⟨lifecycle, present, url, phase⟩
  · intro other lifecycle later found after cancelled
    obtain ⟨before, present, rfl⟩ :=
      Option.map_eq_some_iff.mp ((reached other).symm.trans after)
    cases found.symm.trans present
    refine Bool.or_eq_true_iff.mpr ((Bool.or_eq_true_iff.mp cancelled).imp ?_ id)
    exact (same other lifecycle).2.2

theorem extends_start
    (manager : ConnectionManager) (url : String) (filter : AssetFilter) :
    (manager.start url filter).Extends manager := by
  have kept : ∀ {number : Nat} {lifecycle : Lifecycle},
      manager.lifecycles[number]? = some lifecycle →
      (manager.start url filter).lifecycles[number]? = some lifecycle :=
    fun found => (List.getElem?_append_left (List.getElem?_eq_some_iff.mp found).1).trans found
  constructor
  · rfl
  · intro number lifecycle found
    exact ⟨lifecycle, kept found, rfl, rfl⟩
  · intro number later found
    rcases Positions.concat_cases found with ⟨_, rfl⟩ | before
    · exact .inr rfl
    · exact .inl ⟨later, before, rfl, rfl⟩
  · intro number lifecycle later found after cancelled
    cases (kept found).symm.trans after
    exact cancelled

theorem extends_adopt (manager : ConnectionManager) (entry : String × AssetFilter) :
    (manager.adopt entry).Extends manager := by
  unfold adopt
  split
  · unfold replaceFilter
    split
    · exact .refl manager
    · exact extends_modify manager _ _ _ (fun _ => rfl) (fun _ => rfl) (fun _ gone => gone)
  · exact extends_start manager entry.1 entry.2

theorem extends_removeBroker (manager : ConnectionManager) (url : String) :
    (manager.removeBroker url).Extends manager := by
  unfold removeBroker
  split
  · exact .refl manager
  · exact extends_modify manager _ _ _ (fun _ => rfl) (fun _ => rfl) (fun _ _ => rfl)

/-- What extends a manager at each item extends it after all. -/
theorem extends_foldl
    {α : Type} (change : ConnectionManager → α → ConnectionManager)
    (extended : ∀ manager item, (change manager item).Extends manager)
    (items : List α) (manager : ConnectionManager) :
    (items.foldl change manager).Extends manager := by
  induction items generalizing manager with
  | nil => exact .refl manager
  | cons item rest induction =>
      exact (induction (change manager item)).trans (extended manager item)

theorem extends_reconcile
    (manager : ConnectionManager) (desired : Registry.Subscriptions) :
    (manager.reconcile desired).2.Extends manager := by
  have adopted := extends_foldl adopt extends_adopt desired manager
  have removed := extends_foldl removeBroker extends_removeBroker
    (manager.summarize desired).removed (desired.foldl adopt manager)
  exact removed.trans adopted

theorem extends_refresh
    (manager : ConnectionManager)
    (answer : Except RegistryError Registry.Subscriptions) :
    (manager.refresh answer).2.Extends manager := by
  cases answer with
  | error cause => exact .refl manager
  | ok desired => exact extends_reconcile manager desired

theorem extends_shutDown (manager : ConnectionManager) :
    manager.shutDown.Extends manager where
  table := rfl
  kept := fun _ lifecycle found => ⟨lifecycle, found, rfl, rfl⟩
  added := fun _ lifecycle found => .inl ⟨lifecycle, found, rfl, rfl⟩
  cancelled := fun _ _ _ _ _ _ => Bool.or_true _

end ConnectionManager

end PricePublisher
