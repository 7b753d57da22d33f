import PricePublisher.Proofs.Broker.Ownership

/-!
# Open sockets

The socket of a connection is open as long as a writer is at work.  A socket
that has been closed is not opened again.  If a writer fails only when nothing is
queued, then whatever is queued for a connection is queued for an open socket:
no lifecycle lets go of a queue that holds a batch.
-/

namespace PricePublisher

namespace ConnectionManager

variable
  {manager next : ConnectionManager} {number connection : Nat}
  {lifecycle : Lifecycle} {step : LifecycleStep}

/-- The writer of a connection is at work. -/
def IsWriting (manager : ConnectionManager) (connection : Nat) : Prop :=
  ∃ (number : Nat) (lifecycle : Lifecycle),
    manager.lifecycles[number]? = some lifecycle ∧
      lifecycle.phase.written? = some connection

/-- What is queued for a connection is queued for an open socket. -/
def IsSilent (manager : ConnectionManager) (connection : Nat) : Prop :=
  ¬ manager.IsWriting connection →
    ∀ entry, manager.table.connections[connection]? = some entry →
      entry.queue.items = []

theorem isIdle_iff :
    manager.isIdle connection = true ↔
      ∀ entry, manager.table.connections[connection]? = some entry →
        entry.queue.items = [] := by
  unfold isIdle
  cases manager.table.connections[connection]? with
  | none => simp
  | some entry => simp

/-- Reconciling neither opens nor closes a socket. -/
theorem Extends.isWriting
    (extended : next.Extends manager) :
    next.IsWriting connection ↔ manager.IsWriting connection := by
  constructor
  · rintro ⟨number, later, found, written⟩
    rcases extended.added number later found with ⟨lifecycle, present, _, phase⟩ | fresh
    · exact ⟨number, lifecycle, present, phase ▸ written⟩
    · rw [fresh] at written
      cases written
  · rintro ⟨number, lifecycle, found, written⟩
    obtain ⟨later, present, _, phase⟩ := extended.kept number lifecycle found
    exact ⟨number, later, present, phase ▸ written⟩

theorem Extends.isSilent
    (extended : next.Extends manager) (silent : manager.IsSilent connection) :
    next.IsSilent connection := by
  intro closed entry found
  rw [extended.isWriting] at closed
  rw [extended.table] at found
  exact silent closed entry found

/-! ## Steps of lifecycles -/

/-- A lifecycle that takes a step leaves the others as they are. -/
theorem Effect.lifecycle_of_ne
    (effect : Effect manager number lifecycle step next)
    {other : Nat} (different : number ≠ other) :
    next.lifecycles[other]? = manager.lifecycles[other]? := by
  cases effect with
  | _ => exact List.getElem?_modify_ne _ _ different

/-- The phase that a lifecycle comes into with a step. -/
theorem Effect.written
    (effect : Effect manager number lifecycle step next)
    (found : manager.lifecycles[number]? = some lifecycle)
    {later : Lifecycle} (after : next.lifecycles[number]? = some later)
    (written : later.phase.written? = some connection) :
    lifecycle.phase.written? = some connection ∨
      connection = manager.table.connections.length := by
  have of_modify : ∀ {lifecycles : List Lifecycle} {phase : LifecyclePhase},
      lifecycles[number]? = some lifecycle →
      (lifecycles.modify number fun lifecycle => lifecycle.inPhase phase)[number]? =
        some later →
      later.phase = phase := by
    intro lifecycles phase found after
    rw [List.getElem?_modify_eq, found] at after
    cases after
    rfl
  cases effect with
  | moved step phase before free =>
      rw [of_modify found after] at written
      rw [LifecyclePhase.held_of_written written] at free
      cases free
  | entered dialed =>
      rw [of_modify found after] at written
      cases written
      exact .inr rfl
  | closed other connected cancelled =>
      rw [of_modify found after] at written
      rw [connected]
      exact .inl written
  | lost step other connected broken =>
      rw [of_modify found after] at written
      cases written
  | replaced other connected gone idle =>
      rw [of_modify found after] at written
      cases written
  | failed step other closing broken =>
      rw [of_modify found after] at written
      cases written
  | emptied other closing idle =>
      rw [of_modify found after] at written
      cases written
  | left other phase stopped free =>
      rw [of_modify found after] at written
      rw [LifecyclePhase.held_of_written written] at free
      cases free

/-- Connections are never forgotten. -/
theorem Effect.length_le (effect : Effect manager number lifecycle step next) :
    manager.table.connections.length ≤ next.table.connections.length := by
  cases effect with
  | entered dialed =>
      change _ ≤ (manager.table.connections ++ [_]).length
      rw [List.length_append]
      exact Nat.le_add_right _ _
  | closed other connected cancelled =>
      exact Nat.le_of_eq (manager.table.length_close other).symm
  | lost step other connected broken => exact Nat.le_of_eq (manager.table.length_close other).symm
  | left other phase stopped free =>
      refine Nat.le_of_eq ?_
      change _ = ((manager.table.close other).connections.modify other _).length
      rw [List.length_modify, BrokerTable.length_close]
  | _ => exact Nat.le_refl _

/-- A socket that has been closed stays closed. -/
theorem Effect.not_isWriting
    (effect : Effect manager number lifecycle step next)
    (found : manager.lifecycles[number]? = some lifecycle)
    (opened : connection < manager.table.connections.length)
    (closed : ¬ manager.IsWriting connection) :
    ¬ next.IsWriting connection := by
  rintro ⟨other, later, after, written⟩
  by_cases same : number = other
  · subst same
    rcases effect.written found after written with before | fresh
    · exact closed ⟨number, lifecycle, found, before⟩
    · exact absurd fresh (Nat.ne_of_lt opened)
  · rw [effect.lifecycle_of_ne same] at after
    exact closed ⟨other, later, after, written⟩

/-- A writer that stops when nothing is queued leaves nothing. -/
theorem Effect.idle_of_stopped
    (effect : Effect manager number lifecycle step next)
    (found : manager.lifecycles[number]? = some lifecycle)
    (undisturbed : step.breaksOff = true → manager.isIdle connection = true)
    (writing : lifecycle.phase.written? = some connection)
    (closed : ¬ next.IsWriting connection) :
    manager.isIdle connection = true := by
  cases effect with
  | moved step phase free after =>
      rw [LifecyclePhase.held_of_written writing] at free
      cases free
  | entered dialed =>
      rw [dialed] at writing
      cases writing
  | closed other connected cancelled =>
      rw [connected] at writing
      cases writing
      refine absurd ⟨number, lifecycle.inPhase (.closing connection), ?_, rfl⟩ closed
      change (manager.lifecycles.modify number _)[number]? = _
      rw [List.getElem?_modify_eq, found]
      rfl
  | lost step other connected broken => exact undisturbed broken
  | replaced other connected gone idle =>
      rw [connected] at writing
      cases writing
      exact idle
  | failed step other closing broken => exact undisturbed broken
  | emptied other closing idle =>
      rw [closing] at writing
      cases writing
      exact idle
  | left other phase stopped free =>
      rw [stopped] at writing
      cases writing

/-- A connection whose writer has stopped has no other writer. -/
theorem IsOwned.not_isWriting_of_stopped
    (owned : manager.IsOwned)
    (found : manager.lifecycles[number]? = some lifecycle)
    (stopped : lifecycle.phase = .stopped connection) :
    ¬ manager.IsWriting connection := by
  rintro ⟨other, writer, present, written⟩
  have held : lifecycle.phase.held? = some connection := by
    rw [stopped]
    rfl
  have same := owned.alone number other lifecycle writer connection found present held
    (LifecyclePhase.held_of_written written)
  subst same
  rw [found] at present
  cases present
  rw [stopped] at written
  cases written

/-- A step of a lifecycle takes nothing from a queue. -/
theorem Effect.entry
    (effect : Effect manager number lifecycle step next)
    (owned : manager.IsOwned) (silent : manager.IsSilent connection)
    (found : manager.lifecycles[number]? = some lifecycle)
    {entry : BrokerConnection}
    (present : manager.table.connections[connection]? = some entry) :
    ∃ later, next.table.connections[connection]? = some later ∧
      later.url = entry.url ∧ later.queue.items = entry.queue.items := by
  have of_close : ∀ closed : Nat, ∃ later,
      (manager.table.close closed).connections[connection]? = some later ∧
        later.url = entry.url ∧ later.queue = entry.queue := by
    intro closed
    rw [BrokerTable.getElem?_close, present]
    refine ⟨_, rfl, ?_, ?_⟩
    · split <;> rfl
    · split <;> rfl
  cases effect with
  | moved step phase free after => exact ⟨entry, present, rfl, rfl⟩
  | replaced other connected gone idle => exact ⟨entry, present, rfl, rfl⟩
  | failed step other closing broken => exact ⟨entry, present, rfl, rfl⟩
  | emptied other closing idle => exact ⟨entry, present, rfl, rfl⟩
  | entered dialed =>
      exact ⟨entry, BrokerTable.getElem?_openConnection_of_some present _ _, rfl, rfl⟩
  | closed other connected cancelled =>
      obtain ⟨later, kept, url, queue⟩ := of_close other
      exact ⟨later, kept, url, congrArg Queue.items queue⟩
  | lost step other connected broken =>
      obtain ⟨later, kept, url, queue⟩ := of_close other
      exact ⟨later, kept, url, congrArg Queue.items queue⟩
  | left other phase stopped free =>
      obtain ⟨later, kept, url, queue⟩ := of_close other
      change ∃ dropped, ((manager.table.close other).dropConsumer other).connections[
        connection]? = some dropped ∧ _
      rw [BrokerTable.getElem?_dropConsumer, kept]
      refine ⟨_, rfl, ?_, ?_⟩
      · rw [← url]
        split <;> rfl
      · rw [← queue]
        split
        next same =>
          subst same
          have closed := owned.not_isWriting_of_stopped found stopped
          rw [queue, silent closed entry present]
          rfl
        next => rfl

/-- A connection that is new after a step has nothing queued. -/
theorem Effect.items_of_fresh
    (effect : Effect manager number lifecycle step next)
    (fresh : manager.table.connections.length ≤ connection)
    {entry : BrokerConnection}
    (present : next.table.connections[connection]? = some entry) :
    entry.queue.items = [] := by
  have none := List.getElem?_eq_none fresh
  cases effect with
  | entered dialed =>
      rcases BrokerTable.openConnection_cases present with ⟨_, rfl⟩ | before
      · rfl
      · rw [none] at before
        cases before
  | closed other connected cancelled =>
      change (manager.table.close other).connections[connection]? = _ at present
      rw [BrokerTable.getElem?_close, none] at present
      cases present
  | lost step other connected broken =>
      change (manager.table.close other).connections[connection]? = _ at present
      rw [BrokerTable.getElem?_close, none] at present
      cases present
  | left other phase stopped free =>
      change ((manager.table.close other).dropConsumer other).connections[connection]? = _
        at present
      rw [BrokerTable.getElem?_dropConsumer, BrokerTable.getElem?_close, none] at present
      cases present
  | _ =>
      change manager.table.connections[connection]? = _ at present
      rw [none] at present
      cases present

/-- An undisturbed step leaves what is queued to open sockets. -/
theorem Effect.isSilent
    (effect : Effect manager number lifecycle step next)
    (owned : manager.IsOwned) (silent : manager.IsSilent connection)
    (found : manager.lifecycles[number]? = some lifecycle)
    (undisturbed : step.breaksOff = true → lifecycle.phase.written? = some connection →
      manager.isIdle connection = true) :
    next.IsSilent connection := by
  intro closed entry present
  cases before : manager.table.connections[connection]? with
  | none => exact effect.items_of_fresh (List.getElem?_eq_none_iff.mp before) present
  | some old =>
      obtain ⟨later, kept, _, items⟩ := effect.entry owned silent found before
      rw [present] at kept
      cases kept
      rw [items]
      by_cases writing : manager.IsWriting connection
      · obtain ⟨other, writer, writes, written⟩ := writing
        have same : number = other := by
          by_contra different
          exact closed
            ⟨other, writer, (effect.lifecycle_of_ne different).trans writes, written⟩
        subst same
        rw [found] at writes
        cases writes
        have idle := effect.idle_of_stopped found
          (fun fails => undisturbed fails written) written closed
        exact isIdle_iff.mp idle old before
      · exact silent writing old before

end ConnectionManager

end PricePublisher
