import PricePublisher.Proofs.Broker.Broadcast

/-!
# The history of a manager

New lists of brokers, steps of lifecycles, broadcasts, writes and the end of all
connections come in any order.  The history remembers which lifecycle has opened
each connection, because a lifecycle forgets its connection when it lets go of it.

`effect_of_move?` lists what can happen, and `Sound` collects what therefore holds
after every history: connections are owned, whoever holds one has opened it, and a
connection has been closed exactly if its cleanup has run.
-/

namespace PricePublisher

/-- What can happen to a manager. -/
inductive ManagerMove where
  /-- The registry lists the brokers anew. -/
  | reconcile (desired : Registry.Subscriptions)
  | lifecycle (number : Nat) (step : LifecycleStep)
  /-- A batch is offered to every live connection. -/
  | broadcast (now : Nat) (batch : SignedBatch)
  /-- The writer of a lifecycle's connection takes the next batch from the queue. -/
  | write (number : Nat)
  | shutDown

/-- Whether the registry lists the brokers anew. -/
def ManagerMove.isReconcile : ManagerMove → Bool
  | .reconcile _ => true
  | _ => false

namespace ConnectionManager

/-- The oldest batch that is queued for a connection is taken from the queue. -/
def takeNext (manager : ConnectionManager) (connection : Nat) : ConnectionManager :=
  { manager with
    table := manager.table.modify connection fun entry =>
      { entry with queue := (entry.queue.take 1).2 } }

/-- The manager after something has happened, if it can happen. -/
def move? (manager : ConnectionManager) : ManagerMove → Option ConnectionManager
  | .reconcile desired => some (manager.reconcile desired).2
  | .lifecycle number step => (manager.step? number step).map Prod.snd
  | .broadcast now batch =>
      some { manager with table := (manager.table.broadcast now batch).2 }
  | .write number => do
      let lifecycle ← manager.lifecycles[number]?
      return manager.takeNext (← lifecycle.phase.written?)
  | .shutDown => some manager.shutDown

/-- The numbers of the lifecycles that opened the connections, in the same order. -/
def observe (openers : List Nat) : ManagerMove → List Nat
  | .lifecycle number .enter => openers ++ [number]
  | _ => openers

/-- Admitted things happen to a manager, in any order. -/
inductive Moves
    (admits : ManagerMove → Prop) (start : ConnectionManager) (past : List Nat) :
    ConnectionManager → List Nat → Prop where
  | refl : Moves admits start past start past
  | move {manager next : ConnectionManager} {openers : List Nat} {move : ManagerMove}
      (before : Moves admits start past manager openers)
      (taken : manager.move? move = some next)
      (admitted : admits move) :
      Moves admits start past next (observe openers move)

variable
  {manager next : ConnectionManager} {openers : List Nat} {lifecycle : Lifecycle}
  {step : LifecycleStep} {table : BrokerTable} {phase : LifecyclePhase}

theorem observe_of_ne
    (other : step ≠ .enter) (openers : List Nat) (number : Nat) :
    observe openers (.lifecycle number step) = openers := by
  cases step with
  | enter => exact absurd rfl other
  | _ => rfl

/-- The ways in which a manager changes when something happens. -/
inductive MoveEffect (manager : ConnectionManager) :
    ManagerMove → ConnectionManager → Prop where
  | reconciled (desired : Registry.Subscriptions) :
      MoveEffect manager (.reconcile desired) (manager.reconcile desired).2
  | stepped (number : Nat) (step : LifecycleStep) (lifecycle : Lifecycle)
      (table : BrokerTable) (phase : LifecyclePhase)
      (found : manager.lifecycles[number]? = some lifecycle)
      (turn : Turn manager lifecycle step table phase) :
      MoveEffect manager (.lifecycle number step) (manager.turned number table phase)
  | broadcast (now : Nat) (batch : SignedBatch) :
      MoveEffect manager (.broadcast now batch)
        { manager with table := (manager.table.broadcast now batch).2 }
  | wrote (number connection : Nat) :
      MoveEffect manager (.write number) (manager.takeNext connection)
  | shutDown : MoveEffect manager .shutDown manager.shutDown

theorem effect_of_move?
    {move : ManagerMove} (taken : manager.move? move = some next) :
    MoveEffect manager move next := by
  cases move with
  | reconcile desired =>
      cases taken
      exact .reconciled desired
  | lifecycle number step =>
      obtain ⟨⟨notices, after⟩, possible, equal⟩ := Option.map_eq_some_iff.mp taken
      obtain ⟨lifecycle, table, phase, found, turn, reached⟩ := turn_of_step? possible
      rw [← equal, reached]
      exact .stepped number step lifecycle table phase found turn
  | broadcast now batch =>
      cases taken
      exact .broadcast now batch
  | write number =>
      obtain ⟨lifecycle, _, possible⟩ := Option.bind_eq_some_iff.mp taken
      obtain ⟨connection, _, equal⟩ := Option.bind_eq_some_iff.mp possible
      cases equal
      exact .wrote number connection
  | shutDown =>
      cases taken
      exact .shutDown

/-! ## Closed connections -/

end ConnectionManager

theorem ConnectionHandle.close_agrees
    {handle : ConnectionHandle} (agrees : handle.isClosed = !handle.cleanupPending) :
    handle.close.2.isClosed = !handle.close.2.cleanupPending := by
  unfold close
  split
  · rfl
  · exact agrees

/-- A connection has been closed exactly if its cleanup has run. -/
def BrokerTable.HandlesAgree (table : BrokerTable) : Prop :=
  ∀ (connection : Nat) (entry : BrokerConnection),
    table.connections[connection]? = some entry →
    entry.handle.isClosed = !entry.handle.cleanupPending

namespace BrokerTable.HandlesAgree

variable {table next : BrokerTable}

/-- Handles agree when each of them agreed before or has been closed since. -/
theorem of_handles
    (agree : table.HandlesAgree)
    (same : ∀ (connection : Nat) (entry : BrokerConnection),
      next.connections[connection]? = some entry →
      ∃ before, table.connections[connection]? = some before ∧
        (entry.handle = before.handle ∨ entry.handle = before.handle.close.2)) :
    next.HandlesAgree := by
  intro connection entry found
  obtain ⟨before, present, kept | closed⟩ := same connection entry found
  · rw [kept]
    exact agree connection before present
  · rw [closed]
    exact ConnectionHandle.close_agrees (agree connection before present)

theorem openConnection
    (agree : table.HandlesAgree) (url : String) (id : Nat) :
    (table.openConnection url id).HandlesAgree := by
  intro connection entry found
  rcases openConnection_cases found with ⟨_, rfl⟩ | before
  · rfl
  · exact agree connection entry before

theorem close
    (agree : table.HandlesAgree) (closed : Nat) :
    (table.close closed).HandlesAgree := by
  apply agree.of_handles
  intro connection entry found
  rw [getElem?_close] at found
  obtain ⟨before, present, equal⟩ := Option.map_eq_some_iff.mp found
  refine ⟨before, present, ?_⟩
  rw [← equal]
  split
  · exact .inr rfl
  · exact .inl rfl

/-- Handles agree after a change of a connection that leaves its handle alone. -/
theorem modify
    (agree : table.HandlesAgree) (number : Nat)
    {change : BrokerConnection → BrokerConnection}
    (same : ∀ entry, (change entry).handle = entry.handle) :
    (table.modify number change).HandlesAgree := by
  apply agree.of_handles
  intro connection entry found
  rw [getElem?_modify] at found
  obtain ⟨before, present, equal⟩ := Option.map_eq_some_iff.mp found
  refine ⟨before, present, .inl ?_⟩
  rw [← equal]
  split
  · exact same before
  · rfl

end BrokerTable.HandlesAgree

namespace ConnectionManager

variable
  {manager next : ConnectionManager} {openers : List Nat} {lifecycle : Lifecycle}
  {step : LifecycleStep} {table : BrokerTable} {phase : LifecyclePhase}

theorem Turn.handlesAgree
    (turn : Turn manager lifecycle step table phase)
    (agree : manager.table.HandlesAgree) :
    table.HandlesAgree := by
  cases turn with
  | enter dialed => exact agree.openConnection _ _
  | close connection connected cancelled => exact agree.close connection
  | lose step connection connected broken => exact agree.close connection
  | leave connection stopped => exact (agree.close connection).modify _ fun _ => rfl
  | _ => exact agree

/-! ## What holds after every history -/

/-- A turn opens a connection, or it opens none and takes hold of none. -/
theorem Turn.opens
    (turn : Turn manager lifecycle step table phase) :
    (step = .enter ∧
        table.connections.length = manager.table.connections.length + 1 ∧
        phase = .connected manager.table.connections.length) ∨
      (step ≠ .enter ∧
        table.connections.length = manager.table.connections.length ∧
        ∀ connection, phase.held? = some connection →
          lifecycle.phase.held? = some connection) := by
  have rests : ∀ connection, (manager.resting lifecycle).held? ≠ some connection := by
    intro connection
    unfold resting
    split <;> nofun
  cases turn with
  | dial connecting => exact .inr ⟨nofun, rfl, nofun⟩
  | refuse connecting =>
      exact .inr ⟨nofun, rfl, fun connection held => absurd held (rests connection)⟩
  | enter dialed => exact .inl ⟨rfl, List.length_append, rfl⟩
  | close connection connected cancelled =>
      exact .inr ⟨nofun, BrokerTable.length_close _ _, fun _ held => connected ▸ held⟩
  | lose step connection connected broken =>
      exact .inr ⟨LifecycleStep.ne_enter_of_breaksOff broken, BrokerTable.length_close _ _,
        fun _ held => connected ▸ held⟩
  | yield connection connected replaced idle =>
      exact .inr ⟨nofun, rfl, fun _ held => connected ▸ held⟩
  | fail step connection closing broken =>
      exact .inr ⟨LifecycleStep.ne_enter_of_breaksOff broken, rfl,
        fun _ held => closing ▸ held⟩
  | flush connection closing idle =>
      exact .inr ⟨nofun, rfl, fun _ held => closing ▸ held⟩
  | leave connection stopped =>
      refine .inr ⟨nofun, ?_, fun other held => absurd held (rests other)⟩
      exact (List.length_modify _ _ _).trans (BrokerTable.length_close _ _)
  | retry waiting => exact .inr ⟨nofun, rfl, nofun⟩
  | quit unconnected cancelled => exact .inr ⟨nofun, rfl, nofun⟩

/-- What holds of a manager after every history. -/
structure Sound (manager : ConnectionManager) (openers : List Nat) : Prop where
  owned : manager.IsOwned
  handles : manager.table.HandlesAgree
  length : openers.length = manager.table.connections.length
  /-- Whoever holds a connection has opened it. -/
  opener : ∀ (number : Nat) (lifecycle : Lifecycle) (connection : Nat),
    manager.lifecycles[number]? = some lifecycle →
    lifecycle.phase.held? = some connection →
    openers[connection]? = some number

theorem sound_fresh
    (publisherKey : String) (auth : Option String) (reconnectDelay : Duration) :
    Sound (fresh publisherKey auth reconnectDelay) [] where
  owned := isOwned_fresh publisherKey auth reconnectDelay
  handles := nofun
  length := rfl
  opener := nofun

theorem Sound.of_extends
    (sound : Sound manager openers) (extended : next.Extends manager) :
    Sound next openers where
  owned := sound.owned.extends extended
  handles := by
    rw [extended.table]
    exact sound.handles
  length := by
    rw [extended.table]
    exact sound.length
  opener := by
    intro number later connection found held
    rcases extended.added number later found with ⟨before, present, _, same⟩ | fresh
    · exact sound.opener number before connection present (same ▸ held)
    · rw [fresh] at held
      cases held

theorem Sound.turned
    (sound : Sound manager openers) {number : Nat}
    (found : manager.lifecycles[number]? = some lifecycle)
    (turn : Turn manager lifecycle step table phase) :
    Sound (manager.turned number table phase) (observe openers (.lifecycle number step)) := by
  have owned : (manager.turned number table phase).IsOwned :=
    sound.owned.effect found (turn.effect number)
  have handles : table.HandlesAgree := turn.handlesAgree sound.handles
  -- Either there is a new connection with a new opener, or all openers stay the same.
  rcases turn.opens with ⟨rfl, grown, connected⟩ | ⟨other, kept, holds⟩
  · refine ⟨owned, handles, ?_, ?_⟩
    · change (openers ++ [number]).length = table.connections.length
      rw [List.length_append, List.length_singleton, sound.length, grown]
    · intro holder later connection after held
      change (openers ++ [number])[connection]? = some holder
      rcases turned_cases found after with ⟨rfl, rfl⟩ | ⟨_, before⟩
      · rw [connected] at held
        cases held
        rw [← sound.length]
        exact List.getElem?_concat_length
      · have opened := sound.opener holder later connection before held
        have inside := (List.getElem?_eq_some_iff.mp opened).1
        rw [List.getElem?_append_left inside]
        exact opened
  · rw [observe_of_ne other]
    refine ⟨owned, handles, sound.length.trans kept.symm, ?_⟩
    intro holder later connection after held
    rcases turned_cases found after with ⟨rfl, rfl⟩ | ⟨_, before⟩
    · exact sound.opener number lifecycle connection found (holds connection held)
    · exact sound.opener holder later connection before held

theorem Sound.broadcast
    (sound : Sound manager openers) (now : Nat) (batch : SignedBatch) :
    Sound { manager with table := (manager.table.broadcast now batch).2 } openers where
  owned := Owned.broadcast sound.owned now batch
  handles := by
    apply sound.handles.of_handles
    intro connection entry found
    rw [Owned.getElem?_broadcast sound.owned] at found
    obtain ⟨before, present, equal⟩ := Option.map_eq_some_iff.mp found
    refine ⟨before, present, .inl ?_⟩
    rw [← equal]
    split
    · exact BrokerTable.offerTo_handle now batch before
    · rfl
  length := sound.length.trans
    (BrokerTable.length_offerToAll now batch manager.table.live manager.table.connections).symm
  opener := sound.opener

theorem Sound.takeNext
    (sound : Sound manager openers) (connection : Nat) :
    Sound (manager.takeNext connection) openers where
  owned := by
    refine Owned.of_queues sound.owned rfl _
      (manager.table.getElem?_modify connection · _) fun other entry _ => ?_
    split <;> exact ⟨rfl, rfl, rfl⟩
  handles := sound.handles.modify connection fun _ => rfl
  length := sound.length.trans (List.length_modify _ _ _).symm
  opener := sound.opener

theorem Sound.move
    (sound : Sound manager openers) {move : ManagerMove}
    (effect : MoveEffect manager move next) :
    Sound next (observe openers move) := by
  cases effect with
  | reconciled desired => exact sound.of_extends (extends_reconcile manager desired)
  | stepped number step lifecycle table phase found turn => exact sound.turned found turn
  | broadcast now batch => exact sound.broadcast now batch
  | wrote number connection => exact sound.takeNext connection
  | shutDown => exact sound.of_extends (extends_shutDown manager)

theorem Moves.sound
    {admits : ManagerMove → Prop} {start : ConnectionManager} {past : List Nat}
    (moves : Moves admits start past manager openers) (sound : Sound start past) :
    Sound manager openers := by
  induction moves with
  | refl => exact sound
  | move _ taken _ induction => exact induction.move (effect_of_move? taken)

end ConnectionManager

end PricePublisher
