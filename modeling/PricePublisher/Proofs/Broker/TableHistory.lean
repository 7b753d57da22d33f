import PricePublisher.Proofs.Broker.TableRuns

/-!
# The broker table after a history of calls

Connections are opened, closed and removed in any order, and a connection may be closed
again, or removed under an identifier that has long been replaced.  After all of it the
table holds for each address the connection that was opened last, unless that very
connection has been closed or removed since.  Late closes of replaced connections find
another identifier under their address and leave it alone.

The history alone says which connections these are (`IsCurrent`); the state of the table
follows from it by one step for each call.
-/

namespace PricePublisher

open Keyed (Ascending)

/-- What is asked of a table. -/
inductive TableCall where
  | openConnection (url : String) (id : Nat)
  /-- Close the connection with an identifier, perhaps not for the first time. -/
  | close (id : Nat)
  | remove (url : String) (id : Nat)
deriving DecidableEq

namespace TableCall

/-- The identifier of the connection that a call opens. -/
def openedId? : TableCall → Option Nat
  | .openConnection _ id => some id
  | _ => none

/-- A call after which a connection is not the one for its address. -/
def Ends (url : String) (id : Nat) : TableCall → Prop
  | .openConnection other _ => other = url
  | .close closed => closed = id
  | .remove other removed => other = url ∧ removed = id

end TableCall

/-- The identifiers of the connections that some calls open, oldest first. -/
def openedIds (calls : List TableCall) : List Nat :=
  calls.filterMap TableCall.openedId?

/-- A connection was opened, and no later call ends its place in the table. -/
def IsCurrent (calls : List TableCall) (url : String) (id : Nat) : Prop :=
  ∃ before after, calls = before ++ .openConnection url id :: after ∧
    ∀ call ∈ after, ¬ call.Ends url id

theorem not_isCurrent_nil (url : String) (id : Nat) : ¬ IsCurrent [] url id := by
  rintro ⟨before, after, none, -⟩
  exact List.append_ne_nil_of_right_ne_nil _ (List.cons_ne_nil _ _) none.symm

/-- One more call makes a connection current or leaves it so. -/
theorem isCurrent_concat
    {calls : List TableCall} {call : TableCall} {url : String} {id : Nat} :
    IsCurrent (calls ++ [call]) url id ↔
      call = .openConnection url id ∨ IsCurrent calls url id ∧ ¬ call.Ends url id := by
  constructor
  · rintro ⟨before, after, equal, kept⟩
    rcases List.eq_nil_or_concat' after with rfl | ⟨earlier, last, rfl⟩
    · exact .inl (List.append_inj_right' equal rfl |> List.singleton_inj.mp)
    · rw [← List.cons_append, ← List.append_assoc] at equal
      have same : call = last := List.singleton_inj.mp (List.append_inj_right' equal rfl)
      subst same
      refine .inr ⟨⟨before, earlier, List.append_inj_left' equal rfl, ?_⟩, ?_⟩
      · exact fun call member => kept call (List.mem_append_left _ member)
      · exact kept call (List.mem_append_right _ List.mem_cons_self)
  · rintro (rfl | ⟨⟨before, after, rfl, kept⟩, lasts⟩)
    · exact ⟨calls, [], rfl, nofun⟩
    · refine ⟨before, after ++ [call], by rw [List.append_assoc, List.cons_append], ?_⟩
      intro later member
      rcases List.mem_append.mp member with early | last
      · exact kept later early
      · rw [List.mem_singleton.mp last]
        exact lasts

namespace BrokerTable

variable {table : BrokerTable} {calls : List TableCall} {url : String} {id number : Nat}

/-- The table after a call. -/
def afterCall (table : BrokerTable) : TableCall → BrokerTable
  | .openConnection url id => table.openConnection url id
  | .close id =>
      match table.lastNumber? id with
      | none => table
      | some number => table.close number
  | .remove url id => (table.remove url id).2

/-- The table after calls in a row. -/
def afterCalls (table : BrokerTable) (calls : List TableCall) : BrokerTable :=
  calls.foldl afterCall table

/-- The live connections. -/
def snapshot (table : BrokerTable) : List BrokerConnection :=
  table.live.filterMap fun (_, number) => table.connections[number]?

theorem afterCalls_concat (table : BrokerTable) (calls : List TableCall) (call : TableCall) :
    table.afterCalls (calls ++ [call]) = (table.afterCalls calls).afterCall call := by
  rw [afterCalls, List.foldl_append]
  rfl

/-! ## What is found under an address -/

theorem maps_iff_exists :
    table.maps url id = true ↔
      ∃ number connection, Keyed.get? table.live url = some number ∧
        table.connections[number]? = some connection ∧ connection.handle.id = id := by
  rw [maps, Option.any_eq_true]
  constructor
  · rintro ⟨connection, found, same⟩
    obtain ⟨number, live, there⟩ := Option.bind_eq_some_iff.mp found
    exact ⟨number, connection, live, there, beq_iff_eq.mp same⟩
  · rintro ⟨number, connection, live, there, same⟩
    exact ⟨connection, Option.bind_eq_some_iff.mpr ⟨number, live, there⟩, beq_iff_eq.mpr same⟩

theorem contains_iff_exists_maps (sound : table.Sound) :
    table.contains url = true ↔ ∃ id, table.maps url id = true := by
  rw [contains, Keyed.contains_iff_exists]
  constructor
  · rintro ⟨number, live⟩
    obtain ⟨connection, there, -⟩ := sound.refers url number live
    exact ⟨_, maps_iff_exists.mpr ⟨number, connection, live, there, rfl⟩⟩
  · rintro ⟨id, maps⟩
    obtain ⟨number, connection, live, -⟩ := maps_iff_exists.mp maps
    exact ⟨number, live⟩

theorem maps_openConnection (sound : table.Sound) (other : String) (opened : Nat) :
    (table.openConnection other opened).maps url id = true ↔
      other = url ∧ opened = id ∨ other ≠ url ∧ table.maps url id = true := by
  rw [maps_iff_exists, maps_iff_exists]
  simp only [openConnection, Keyed.get?_insert]
  by_cases same : url = other
  · subst same
    simp [BrokerConnection.opened, ConnectionHandle.opened]
  · simp only [if_neg same, Ne.symm same, false_and, ne_eq, not_false_eq_true, true_and, false_or]
    refine exists_congr fun number => exists_congr fun connection => and_congr_right fun live => ?_
    obtain ⟨old, there, -⟩ := sound.refers url number live
    rw [List.getElem?_append_left (List.getElem?_eq_some_iff.mp there).1]

theorem remove_fst (table : BrokerTable) (url : String) (id : Nat) :
    (table.remove url id).1 = table.maps url id := by
  rw [remove]
  split
  next maps => exact maps.symm
  next absent => exact (Bool.eq_false_iff.mpr absent).symm

theorem maps_remove (table : BrokerTable) (other : String) (removed : Nat) :
    (table.remove other removed).2.maps url id = true ↔
      table.maps url id = true ∧ ¬ (other = url ∧ removed = id) := by
  rw [remove]
  split
  next evicted =>
    rw [maps_iff_exists]
    simp only [Keyed.get?_erase]
    by_cases same : url = other
    · subst same
      simp only [if_true, reduceCtorEq, false_and, exists_false, true_and, false_iff, not_and,
        not_not]
      intro maps
      obtain ⟨number, connection, live, there, named⟩ := maps_iff_exists.mp maps
      obtain ⟨found, held, foundLive, foundThere, foundNamed⟩ := maps_iff_exists.mp evicted
      cases live.symm.trans foundLive
      cases there.symm.trans foundThere
      exact foundNamed.symm.trans named
    · simp only [if_neg same, Ne.symm same, false_and, not_false_eq_true, and_true, maps_iff_exists]
  next absent =>
    refine ⟨fun maps => ⟨maps, ?_⟩, And.left⟩
    rintro ⟨rfl, rfl⟩
    exact absent maps

/-- Connections may change as long as their identifiers stay. -/
theorem maps_modify (table : BrokerTable) (number : Nat)
    {change : BrokerConnection → BrokerConnection}
    (same : ∀ connection, table.connections[number]? = some connection →
      (change connection).handle.id = connection.handle.id) :
    (table.modify number change).maps url id = table.maps url id := by
  have identifiers : ∀ other : Nat, ((table.connections.modify number change)[other]?).any
        (fun connection => connection.handle.id == id) =
      (table.connections[other]?).any fun connection => connection.handle.id == id := by
    intro other
    rw [List.getElem?_modify]
    cases found : table.connections[other]? with
    | none => rfl
    | some connection =>
        by_cases changed : number = other
        · subst changed
          simp [same connection found]
        · simp [changed]
  have live : (table.modify number change).live = table.live := rfl
  rw [maps, maps, find?, find?, live]
  cases Keyed.get? table.live url with
  | none => rfl
  | some other => exact identifiers other

/-- The first close of a connection removes it under its own address and identifier. -/
theorem maps_close {connection : BrokerConnection}
    (found : table.connections[number]? = some connection) :
    (table.close number).maps url id = true ↔
      table.maps url id = true ∧
        ¬ (connection.handle.cleanupPending = true ∧ connection.url = url ∧
          connection.handle.id = id) := by
  have closed : ∀ (url : String) (id : Nat),
      (table.modify number fun other => { other with handle := connection.handle.close.2 }).maps
        url id = table.maps url id := by
    intro url id
    apply maps_modify
    intro other there
    cases found.symm.trans there
    exact connection.handle.close_id
  rw [close, found]
  simp only
  split
  next cleanup =>
    have pending : connection.handle.cleanupPending = true := by
      rw [ConnectionHandle.close] at cleanup
      split at cleanup
      next pending => exact pending
      next => cases cleanup
    rw [maps_remove, closed, connection.handle.close_id]
    simp only [pending, true_and]
  next kept =>
    have ran : ¬ connection.handle.cleanupPending = true := by
      intro pending
      rw [ConnectionHandle.close, if_pos pending] at kept
      exact kept rfl
    rw [closed]
    exact ⟨fun maps => ⟨maps, fun cleanup => ran cleanup.1⟩, And.left⟩

theorem identifiers_close (table : BrokerTable) (number : Nat) :
    (table.close number).connections.map (fun connection => connection.handle.id) =
      table.connections.map fun connection => connection.handle.id := by
  refine List.ext_getElem? fun other => ?_
  rw [List.getElem?_map, List.getElem?_map, getElem?_close, Option.map_map]
  refine congrArg (Option.map · _) (funext fun connection => ?_)
  rw [Function.comp_apply]
  split
  · exact connection.handle.close_id
  · rfl

/-! ## The number of a connection -/

theorem exists_of_lastNumber? (last : table.lastNumber? id = some number) :
    ∃ connection, table.connections[number]? = some connection ∧ connection.handle.id = id := by
  rw [lastNumber?] at last
  have named := List.find?_some last
  obtain ⟨connection, there, same⟩ := (Option.any_eq_true _ _).mp named
  exact ⟨connection, there, beq_iff_eq.mp same⟩

theorem id_ne_of_lastNumber? (none : table.lastNumber? id = none)
    {connection : BrokerConnection} (there : table.connections[number]? = some connection) :
    connection.handle.id ≠ id := by
  intro same
  have inside := (List.getElem?_eq_some_iff.mp there).1
  have never := List.find?_eq_none.mp none number
    (List.mem_reverse.mpr (List.mem_range.mpr inside))
  rw [there] at never
  exact never (beq_iff_eq.mpr same)

/-! ## The state in terms of the history -/

/-- What is live when some entries have gone was live before. -/
theorem live_of_fewer (sound : table.Sound) {next : BrokerTable}
    (fewer : ∃ keep, next.live = table.live.filter keep)
    (live : Keyed.get? next.live url = some number) :
    Keyed.get? table.live url = some number := by
  obtain ⟨keep, kept⟩ := fewer
  have member := Keyed.mem_of_get? live
  rw [kept] at member
  exact sound.ascending.mem_iff.mp (List.mem_of_mem_filter member)

/-- A table holds what the calls so far say, and its connections can still be closed. -/
structure Mirrors (table : BrokerTable) (calls : List TableCall) : Prop where
  sound : table.Sound
  identifiers : table.connections.map (fun connection => connection.handle.id) = openedIds calls
  pending : ∀ (url : String) (number : Nat) (connection : BrokerConnection),
    Keyed.get? table.live url = some number → table.connections[number]? = some connection →
    connection.handle.cleanupPending = true
  maps_iff : ∀ url id, table.maps url id = true ↔ IsCurrent calls url id

theorem mirrors_empty : Mirrors .empty [] where
  sound := .empty
  identifiers := rfl
  pending := nofun
  maps_iff url id := iff_of_false nofun (not_isCurrent_nil url id)

namespace Mirrors

/-- The identifiers of an opened connection and of another one differ. -/
theorem number_eq (mirrors : table.Mirrors calls) (distinct : (openedIds calls).Nodup)
    {first second : Nat} {connection other : BrokerConnection}
    (there : table.connections[first]? = some connection)
    (here : table.connections[second]? = some other)
    (same : connection.handle.id = other.handle.id) : first = second := by
  rw [← mirrors.identifiers] at distinct
  have inside := (List.getElem?_eq_some_iff.mp there).1
  refine (List.getElem?_inj (by rwa [List.length_map]) distinct).mp ?_
  rw [List.getElem?_map, List.getElem?_map, there, here, Option.map_some, Option.map_some, same]

theorem openConnection (mirrors : table.Mirrors calls) (url : String) (id : Nat) :
    (table.openConnection url id).Mirrors (calls ++ [.openConnection url id]) where
  sound :=
    mirrors.sound.after (show TableMove.IsPossible table (.openConnection url id) from trivial)
  identifiers := by
    rw [BrokerTable.openConnection, List.map_append, mirrors.identifiers]
    simp [openedIds, TableCall.openedId?, BrokerConnection.opened, ConnectionHandle.opened]
  pending := by
    intro other number connection live there
    rcases live_openConnection_cases live with ⟨_, rfl⟩ | ⟨_, live⟩
    · have opened : some connection = some (.opened url id) :=
        there.symm.trans List.getElem?_concat_length
      cases opened
      rfl
    · obtain ⟨old, found, -⟩ := mirrors.sound.refers other number live
      have same : some old = some connection :=
        (getElem?_openConnection_of_some found url id).symm.trans there
      exact mirrors.pending other number connection live (found.trans same)
  maps_iff other named := by
    rw [maps_openConnection mirrors.sound, isCurrent_concat, mirrors.maps_iff,
      TableCall.openConnection.injEq, TableCall.Ends]
    exact or_congr Iff.rfl and_comm

theorem remove (mirrors : table.Mirrors calls) (url : String) (id : Nat) :
    (table.remove url id).2.Mirrors (calls ++ [.remove url id]) where
  sound := mirrors.sound.after (show TableMove.IsPossible table (.remove url id) from trivial)
  identifiers := by
    rw [remove_connections, mirrors.identifiers]
    simp [openedIds, TableCall.openedId?]
  pending := by
    intro other number connection live there
    rw [remove_connections] at there
    have before := live_of_fewer mirrors.sound (exists_filter_of_remove table url id) live
    exact mirrors.pending other number connection before there
  maps_iff other named := by
    rw [maps_remove, mirrors.maps_iff, isCurrent_concat, TableCall.Ends]
    simp only [reduceCtorEq, false_or]

/-- A connection that has been closed is not live. -/
theorem not_live_of_close (mirrors : table.Mirrors calls) {connection : BrokerConnection}
    (found : table.connections[number]? = some connection) (url : String) :
    Keyed.get? (table.close number).live url ≠ some number := by
  intro live
  have before := live_of_fewer mirrors.sound (exists_filter_of_close table number) live
  obtain ⟨other, there, own⟩ := mirrors.sound.refers url number before
  cases found.symm.trans there
  have changed := getElem?_close table number number
  rw [found, Option.map_some, if_pos rfl] at changed
  have maps := maps_iff_exists.mpr ⟨number, _, live, changed, connection.handle.close_id⟩
  exact ((maps_close found).mp maps).2
    ⟨mirrors.pending url number connection before found, own, rfl⟩

/-- A close takes a connection out of the table wherever it is found. -/
theorem maps_close_iff (mirrors : table.Mirrors calls) (distinct : (openedIds calls).Nodup)
    {connection : BrokerConnection} (found : table.connections[number]? = some connection) :
    (table.close number).maps url id = true ↔
      table.maps url id = true ∧ ¬ connection.handle.id = id := by
  rw [maps_close found]
  refine and_congr_right fun maps => not_congr ⟨fun cleanup => cleanup.2.2, ?_⟩
  rintro rfl
  -- No other connection has the identifier, so the address leads to the one that is closed.
  obtain ⟨current, entry, live, there, same⟩ := maps_iff_exists.mp maps
  cases mirrors.number_eq distinct there found same
  obtain ⟨held, here, own⟩ := mirrors.sound.refers url number live
  cases found.symm.trans here
  exact ⟨mirrors.pending url number connection live found, own, rfl⟩

theorem closeNumber (mirrors : table.Mirrors calls) (distinct : (openedIds calls).Nodup)
    {connection : BrokerConnection} (found : table.connections[number]? = some connection) :
    (table.close number).Mirrors (calls ++ [.close connection.handle.id]) where
  sound := by
    have possible : TableMove.IsPossible table (.close number) :=
      (List.getElem?_eq_some_iff.mp found).1
    exact mirrors.sound.after possible
  identifiers := by
    rw [identifiers_close, mirrors.identifiers]
    simp [openedIds, TableCall.openedId?]
  pending := by
    intro url other entry live there
    have different : number ≠ other := by
      rintro rfl
      exact mirrors.not_live_of_close found url live
    have before := live_of_fewer mirrors.sound (exists_filter_of_close table number) live
    rw [getElem?_close] at there
    simp only [if_neg different, Option.map_id'] at there
    exact mirrors.pending url other entry before there
  maps_iff url named := by
    rw [mirrors.maps_close_iff distinct found, isCurrent_concat, mirrors.maps_iff,
      TableCall.Ends]
    simp only [reduceCtorEq, false_or]

/-- Nothing is closed under an identifier that no connection has. -/
theorem closeUnknown (mirrors : table.Mirrors calls) (unknown : table.lastNumber? id = none) :
    table.Mirrors (calls ++ [.close id]) where
  sound := mirrors.sound
  identifiers := by
    rw [mirrors.identifiers]
    simp [openedIds, TableCall.openedId?]
  pending := mirrors.pending
  maps_iff url named := by
    rw [isCurrent_concat, mirrors.maps_iff, TableCall.Ends]
    simp only [reduceCtorEq, false_or]
    refine ⟨fun current => ⟨current, ?_⟩, And.left⟩
    rintro rfl
    obtain ⟨number, connection, -, there, same⟩ :=
      maps_iff_exists.mp ((mirrors.maps_iff url id).mpr current)
    exact id_ne_of_lastNumber? unknown there same

theorem close (mirrors : table.Mirrors calls) (distinct : (openedIds calls).Nodup) (id : Nat) :
    (table.afterCall (.close id)).Mirrors (calls ++ [.close id]) := by
  rw [BrokerTable.afterCall]
  cases last : table.lastNumber? id with
  | none => exact mirrors.closeUnknown last
  | some number =>
      obtain ⟨connection, found, rfl⟩ := exists_of_lastNumber? last
      exact mirrors.closeNumber distinct found

theorem afterCall (mirrors : table.Mirrors calls) (distinct : (openedIds calls).Nodup)
    (call : TableCall) : (table.afterCall call).Mirrors (calls ++ [call]) := by
  cases call with
  | openConnection url id => exact mirrors.openConnection url id
  | close id => exact mirrors.close distinct id
  | remove url id => exact mirrors.remove url id

end Mirrors

theorem mirrors_afterCalls (distinct : (openedIds calls).Nodup) :
    (empty.afterCalls calls).Mirrors calls := by
  induction calls using List.reverseRecOn with
  | nil => exact mirrors_empty
  | append_singleton calls call induction =>
      have earlier : (openedIds calls).Nodup := by
        rw [openedIds, List.filterMap_append] at distinct
        exact distinct.of_append_left
      rw [afterCalls_concat]
      exact (induction earlier).afterCall earlier call

/-! ## What a table shows -/

/-- Every entry is that of a connection under its own address. -/
theorem entries_eq_snapshot (sound : table.Sound) :
    table.entries =
      table.snapshot.map fun connection => (connection.url, connection.handle.id) := by
  rw [entries, snapshot, List.map_filterMap]
  refine List.filterMap_congr ?_
  rintro ⟨url, number⟩ member
  obtain ⟨connection, there, rfl⟩ :=
    sound.refers url number (sound.ascending.mem_iff.mp member)
  simp only [there, Option.map_some]

theorem keys_entries (sound : table.Sound) : Keyed.keys table.entries = Keyed.keys table.live := by
  rw [Keyed.keys, Keyed.keys, entries, List.map_filterMap, ← List.filterMap_eq_map]
  refine List.filterMap_congr ?_
  rintro ⟨url, number⟩ member
  obtain ⟨connection, there, -⟩ := sound.refers url number (sound.ascending.mem_iff.mp member)
  simp only [there, Option.map_some, Function.comp_apply]

theorem ascending_entries (sound : table.Sound) : Ascending table.entries := by
  have rising := sound.ascending.keys_rising
  rw [← keys_entries sound] at rising
  exact List.pairwise_map.mp rising

theorem length_snapshot (sound : table.Sound) : table.snapshot.length = table.size := by
  have keys := congrArg List.length (keys_entries sound)
  rw [entries_eq_snapshot sound, Keyed.keys, Keyed.keys, List.length_map, List.length_map,
    List.length_map] at keys
  exact keys

theorem mem_entries_iff_maps (sound : table.Sound) :
    (url, id) ∈ table.entries ↔ table.maps url id = true := by
  rw [entries, List.mem_filterMap, maps_iff_exists]
  constructor
  · rintro ⟨⟨other, number⟩, member, shown⟩
    obtain ⟨connection, there, same⟩ := Option.map_eq_some_iff.mp shown
    cases same
    exact ⟨number, connection, sound.ascending.mem_iff.mp member, there, rfl⟩
  · rintro ⟨number, connection, live, there, rfl⟩
    refine ⟨(url, number), sound.ascending.mem_iff.mpr live, ?_⟩
    simp only [there, Option.map_some]

/-- A removal takes away the entry with the given address and identifier, and no other. -/
theorem entries_remove (sound : table.Sound) (url : String) (id : Nat) :
    (table.remove url id).2.entries = table.entries.filter fun entry => entry != (url, id) := by
  have possible : TableMove.IsPossible table (.remove url id) := trivial
  have removed : (table.remove url id).2.Sound := sound.after possible
  refine (ascending_entries removed).ext ((ascending_entries sound).filter _) fun other => ?_
  refine Option.ext fun named => ?_
  rw [← (ascending_entries removed).mem_iff, ← ((ascending_entries sound).filter _).mem_iff,
    List.mem_filter, mem_entries_iff_maps removed, mem_entries_iff_maps sound, maps_remove,
    bne_iff_ne, ne_eq, Prod.mk.injEq, @eq_comm _ url, @eq_comm _ id]

/--
After any calls that open connections under identifiers of their own, a table maps an
address to the connection that was opened last for it and has neither been closed nor
removed since, and to nothing if there is none.  A removal succeeds exactly for such a
connection and takes away its entry alone.  The size, the entries and the connections of
the table all show this one set, each connection under its own address.
-/
theorem table_follows_history {calls : List TableCall} (distinct : (openedIds calls).Nodup) :
    let table := empty.afterCalls calls
    (∀ url id, table.maps url id = true ↔ IsCurrent calls url id) ∧
    (∀ url id, ((table.remove url id).1 = true ↔ IsCurrent calls url id) ∧
      (table.remove url id).2.entries = table.entries.filter fun entry => entry != (url, id)) ∧
    (∀ url, table.contains url = true ↔ ∃ id, IsCurrent calls url id) ∧
    Ascending table.entries ∧
    (∀ url id, (url, id) ∈ table.entries ↔ IsCurrent calls url id) ∧
    table.entries =
      table.snapshot.map (fun connection => (connection.url, connection.handle.id)) ∧
    table.snapshot.length = table.size := by
  intro table
  have mirrors : table.Mirrors calls := mirrors_afterCalls distinct
  refine ⟨mirrors.maps_iff, ?_, ?_, ascending_entries mirrors.sound, ?_,
    entries_eq_snapshot mirrors.sound, length_snapshot mirrors.sound⟩
  · intro url id
    rw [remove_fst, mirrors.maps_iff]
    exact ⟨Iff.rfl, entries_remove mirrors.sound url id⟩
  · intro url
    rw [contains_iff_exists_maps mirrors.sound]
    exact exists_congr fun id => mirrors.maps_iff url id
  · intro url id
    rw [mem_entries_iff_maps mirrors.sound, mirrors.maps_iff]

/-- A connection that has been replaced is closed twice, and another one is removed. -/
def lateCloses : List TableCall :=
  [.openConnection "wss://first.example" 1, .openConnection "wss://second.example" 2,
    .openConnection "wss://first.example" 3, .close 1, .remove "wss://first.example" 1, .close 1,
    .remove "wss://second.example" 2, .close 2]

theorem table_follows_lateCloses :
    (openedIds lateCloses).Nodup ∧
      IsCurrent lateCloses "wss://first.example" 3 ∧
      ¬ IsCurrent lateCloses "wss://first.example" 1 ∧
      ¬ IsCurrent lateCloses "wss://second.example" 2 ∧
      ((empty.afterCalls lateCloses).remove "wss://first.example" 3).1 = true ∧
      (empty.afterCalls lateCloses).size = 1 := by
  have distinct : (openedIds lateCloses).Nodup := by decide
  have follows := table_follows_history distinct
  refine ⟨distinct, (follows.1 _ _).mp (by decide +kernel), fun current => ?_,
    fun current => ?_, (follows.2.1 _ _).1.mpr ((follows.1 _ _).mp (by decide +kernel)),
    by decide +kernel⟩
  · have maps := (follows.1 _ _).mpr current
    revert maps
    decide +kernel
  · have maps := (follows.1 _ _).mpr current
    revert maps
    decide +kernel

end BrokerTable

end PricePublisher
