import PricePublisher.Proofs.Broker.ManagerHistory

/-!
# The table refers to open connections only

Whatever happens to a manager, each entry of its table is the open connection of a
lifecycle that is connected.  So a lifecycle without a connection, or one that has
closed its connection, has no entry, and the table is empty as soon as all
lifecycles have ended.

After all connections are ended, each step brings a lifecycle closer to its end,
and every lifecycle that has not ended can take one.  So all of them can end.
-/

namespace PricePublisher

/-- How many steps a lifecycle that is to end takes at most. -/
def LifecyclePhase.remaining : LifecyclePhase → Nat
  | .waiting => 6
  | .connecting => 5
  | .dialed => 4
  | .connected _ => 3
  | .closing _ => 2
  | .stopped _ => 1
  | .ended => 0

namespace ConnectionManager

variable {manager next : ConnectionManager} {openers : List Nat}

/-! ## Entries -/

/-- An entry of the table is a connection that a lifecycle has opened. -/
def OwnsEntry
    (manager : ConnectionManager) (openers : List Nat) (number : Nat)
    (entry : String × Nat) : Prop :=
  entry ∈ manager.table.entries ∧ openers[entry.2]? = some number

/-- A lifecycle is connected to a broker by an open connection. -/
structure IsConnected
    (manager : ConnectionManager) (number : Nat) (url : String) (connection : Nat) :
    Prop where
  lifecycle : ∃ lifecycle, manager.lifecycles[number]? = some lifecycle ∧
    lifecycle.url = url ∧ lifecycle.phase = .connected connection
  connection : ∃ entry, manager.table.connections[connection]? = some entry ∧
    entry.url = url ∧ entry.handle.id = connection ∧ entry.handle.isClosed = false

/-- The lifecycle that has opened an entry is connected by it. -/
theorem Sound.isConnected
    (sound : Sound manager openers) {url : String} {connection : Nat}
    (listed : (url, connection) ∈ manager.table.entries) :
    ∃ number, openers[connection]? = some number ∧
      manager.IsConnected number url connection := by
  have live := sound.owned.mem_entries_iff.mp listed
  obtain ⟨number, lifecycle, found, same_url, connected⟩ :=
    sound.owned.live_connected url connection live
  obtain ⟨entry, present, entry_url, pending, _⟩ :=
    sound.owned.live_open url connection live
  refine ⟨number, ?_, ⟨lifecycle, found, same_url, connected⟩, entry, present, entry_url, ?_, ?_⟩
  · exact sound.opener number lifecycle connection found (by rw [connected]; rfl)
  · exact sound.owned.identified connection entry present
  · rw [sound.handles connection entry present, pending]
    rfl

theorem Sound.isConnected_of_owns
    (sound : Sound manager openers) {number : Nat} {entry : String × Nat}
    (owns : manager.OwnsEntry openers number entry) :
    manager.IsConnected number entry.1 entry.2 := by
  obtain ⟨opener, opened, connected⟩ := sound.isConnected owns.1
  rw [owns.2, Option.some.injEq] at opened
  exact opened ▸ connected

/-! ## Ending all connections -/

/-- All lifecycles have ended. -/
def HasEnded (manager : ConnectionManager) : Prop :=
  ∀ lifecycle ∈ manager.lifecycles, lifecycle.hasEnded = true

/-- How many steps the lifecycles of a manager take at most when all are to end. -/
def remaining (manager : ConnectionManager) : Nat :=
  manager.lifecycles.foldr (fun lifecycle total => lifecycle.phase.remaining + total) 0

theorem Sound.entries_eq_nil
    (sound : Sound manager openers) (ended : manager.HasEnded) :
    manager.table.entries = [] := by
  refine List.eq_nil_iff_forall_not_mem.mpr fun entry listed => ?_
  obtain ⟨number, _, connected⟩ := sound.isConnected listed
  obtain ⟨lifecycle, found, _, phase⟩ := connected.lifecycle
  have done := ended lifecycle (List.mem_of_getElem? found)
  rw [Lifecycle.hasEnded, phase] at done
  cases done

/-- No broker is listed anew between two lists. -/
theorem Moves.tracked_eq_nil
    {start : ConnectionManager} {past : List Nat}
    (moves : Moves (fun move => move.isReconcile = false) start past manager openers)
    (untracked : start.tracked = []) :
    manager.tracked = [] := by
  induction moves with
  | refl => exact untracked
  | move _ taken between induction =>
      cases effect_of_move? taken with
      | reconciled desired => cases between
      | stepped number step lifecycle table phase found turn => exact induction
      | broadcast now batch => exact induction
      | wrote number connection => exact induction
      | shutDown => rfl

/-- Each step of a lifecycle that is to end brings it closer to its end. -/
theorem Turn.remaining_lt
    {lifecycle : Lifecycle} {step : LifecycleStep} {table : BrokerTable}
    {phase : LifecyclePhase}
    (turn : Turn manager lifecycle step table phase)
    (cancelled : manager.isCancelled lifecycle = true) :
    phase.remaining < lifecycle.phase.remaining := by
  have rests : manager.resting lifecycle = .ended := by
    rw [resting, if_pos cancelled]
  cases turn with
  | dial connecting => simp [connecting, LifecyclePhase.remaining]
  | refuse connecting => simp [connecting, rests, LifecyclePhase.remaining]
  | enter dialed => simp [dialed, LifecyclePhase.remaining]
  | close connection connected _ => simp [connected, LifecyclePhase.remaining]
  | lose step connection connected _ => simp [connected, LifecyclePhase.remaining]
  | yield connection connected _ _ => simp [connected, LifecyclePhase.remaining]
  | fail step connection closing _ => simp [closing, LifecyclePhase.remaining]
  | flush connection closing _ => simp [closing, LifecyclePhase.remaining]
  | leave connection stopped => simp [stopped, rests, LifecyclePhase.remaining]
  | retry waiting => simp [waiting, LifecyclePhase.remaining]
  | quit unconnected _ =>
      rcases unconnected with connecting | waiting
      · simp [connecting, LifecyclePhase.remaining]
      · simp [waiting, LifecyclePhase.remaining]

/-- A lifecycle that is to end and has not ended can take a step. -/
theorem exists_move_of_cancelled
    {number : Nat} {lifecycle : Lifecycle}
    (found : manager.lifecycles[number]? = some lifecycle)
    (cancelled : manager.isCancelled lifecycle = true)
    (unended : lifecycle.hasEnded = false) :
    ∃ step, (manager.move? (.lifecycle number step)).isSome = true := by
  cases phase : lifecycle.phase with
  | connecting => exact ⟨.cancel, by simp [move?, step?, found, phase, cancelled]⟩
  | dialed => exact ⟨.enter, by simp [move?, step?, found, phase]⟩
  | connected connection => exact ⟨.cancel, by simp [move?, step?, found, phase, cancelled]⟩
  | closing connection =>
      -- The deadline for closing passes if something stays queued.
      by_cases idle : manager.isIdle connection = true
      · exact ⟨.exhaust, by simp [move?, step?, found, phase, idle]⟩
      · exact ⟨.expire, by simp [move?, step?, found, phase, idle]⟩
  | stopped connection => exact ⟨.leave, by simp [move?, step?, found, phase]⟩
  | waiting => exact ⟨.cancel, by simp [move?, step?, found, phase, cancelled]⟩
  | ended =>
      rw [Lifecycle.hasEnded, phase] at unended
      cases unended

theorem remaining_turned_lt
    {number : Nat} {lifecycle : Lifecycle} {step : LifecycleStep} {table : BrokerTable}
    {phase : LifecyclePhase}
    (found : manager.lifecycles[number]? = some lifecycle)
    (turn : Turn manager lifecycle step table phase)
    (cancelled : manager.isCancelled lifecycle = true) :
    (manager.turned number table phase).remaining < manager.remaining :=
  Positions.foldr_modify_lt found (turn.remaining_lt cancelled)

/-- After all connections are ended, all lifecycles can end. -/
theorem Moves.exists_hasEnded
    {start : ConnectionManager} {past : List Nat}
    (moves : Moves (fun move => move.isReconcile = false) start past manager openers)
    (shut : manager.isShutDown = true) :
    ∃ later laterOpeners,
      Moves (fun move => move.isReconcile = false) start past later laterOpeners ∧
        later.HasEnded := by
  -- On the steps that are left: whatever step a lifecycle takes, fewer are left after it.
  induction steps : manager.remaining using Nat.strong_induction_on
    generalizing manager openers with
  | _ steps induction =>
      by_cases ended : manager.HasEnded
      · exact ⟨manager, openers, moves, ended⟩
      · simp only [HasEnded, not_forall] at ended
        obtain ⟨lifecycle, member, unended⟩ := ended
        obtain ⟨number, found⟩ := List.mem_iff_getElem?.mp member
        have cancelled : manager.isCancelled lifecycle = true := by
          rw [isCancelled, shut, Bool.or_true]
        obtain ⟨step, possible⟩ := exists_move_of_cancelled found cancelled
          (Bool.eq_false_of_not_eq_true unended)
        obtain ⟨next, taken⟩ := Option.isSome_iff_exists.mp possible
        have reached := moves.move taken rfl
        cases effect_of_move? taken with
        | stepped _ _ current table phase present turn =>
            rw [found] at present
            cases present
            have closer := remaining_turned_lt found turn cancelled
            exact induction _ (steps ▸ closer) reached shut rfl

/-! ## Every reachable state -/

/-- How the table of a manager follows its lifecycles. -/
structure TableFollows (manager : ConnectionManager) (openers : List Nat) : Prop where
  /-- Each entry is the open connection of a connected lifecycle, which has opened it. -/
  connected : ∀ url connection, (url, connection) ∈ manager.table.entries →
    ∃ number, manager.OwnsEntry openers number (url, connection) ∧
      manager.IsConnected number url connection
  /-- A lifecycle that is not connected owns no entry. -/
  unconnected : ∀ number lifecycle, manager.lifecycles[number]? = some lifecycle →
    (∀ connection, lifecycle.phase ≠ .connected connection) →
    ∀ entry, ¬ manager.OwnsEntry openers number entry
  single : ∀ number first second,
    manager.OwnsEntry openers number first → manager.OwnsEntry openers number second →
    first = second
  /-- When all lifecycles have ended after all connections were, nothing is left. -/
  empty : ∀ later laterOpeners,
    Moves (fun move => move.isReconcile = false) manager.shutDown openers later laterOpeners →
    later.HasEnded → later.table.entries = [] ∧ later.trackedBrokers = []
  ends : ∃ later laterOpeners,
    Moves (fun move => move.isReconcile = false) manager.shutDown openers later laterOpeners ∧
      later.HasEnded

/-- After every history the table refers to nothing but connections in use. -/
theorem table_follows_lifecycles
    {publisherKey : String} {auth : Option String} {reconnectDelay : Duration}
    (moves : Moves (fun _ => True) (fresh publisherKey auth reconnectDelay) []
      manager openers) :
    TableFollows manager openers := by
  have sound := moves.sound (sound_fresh _ _ _)
  constructor
  case connected =>
    intro url connection listed
    obtain ⟨number, opened, connected⟩ := sound.isConnected listed
    exact ⟨number, ⟨listed, opened⟩, connected⟩
  case unconnected =>
    intro number lifecycle found unconnected entry owns
    obtain ⟨other, present, _, phase⟩ := (sound.isConnected_of_owns owns).lifecycle
    rw [found] at present
    cases present
    exact unconnected entry.2 phase
  case single =>
    intro number first second ownsFirst ownsSecond
    obtain ⟨lifecycle, found, url, phase⟩ := (sound.isConnected_of_owns ownsFirst).lifecycle
    obtain ⟨other, present, same_url, same_phase⟩ :=
      (sound.isConnected_of_owns ownsSecond).lifecycle
    rw [found] at present
    cases present
    rw [phase, LifecyclePhase.connected.injEq] at same_phase
    exact Prod.ext (url.symm.trans same_url) same_phase
  case empty =>
    intro later laterOpeners rest ended
    have after := rest.sound (sound.of_extends (extends_shutDown manager))
    refine ⟨after.entries_eq_nil ended, ?_⟩
    rw [trackedBrokers, rest.tracked_eq_nil rfl]
    rfl
  case ends => exact Moves.refl.exists_hasEnded rfl

/-- A lifecycle has lost one connection and is connected by another. -/
theorem table_follows_reconnected_lifecycle :
    ∃ manager openers,
      Moves (fun _ => True) (fresh "0xabc" none .zero) [] manager openers ∧
      manager.table.entries = [("ws://broker", 1)] ∧ openers = [0, 0] ∧
      TableFollows manager openers := by
  have start : Moves (fun _ => True)
    (fresh "0xabc" none .zero) [] (fresh "0xabc" none .zero) [] := .refl
  have listed := start.move
    (show move? _ (.reconcile [("ws://broker", .ofList ["*"])]) = some _ from rfl) trivial
  have dialed := listed.move (show move? _ (.lifecycle 0 .dial) = some _ from rfl) trivial
  have entered := dialed.move (show move? _ (.lifecycle 0 .enter) = some _ from rfl) trivial
  have lost := entered.move (show move? _ (.lifecycle 0 .lose) = some _ from rfl) trivial
  have left := lost.move (show move? _ (.lifecycle 0 .leave) = some _ from rfl) trivial
  have retried := left.move (show move? _ (.lifecycle 0 .retry) = some _ from rfl) trivial
  have redialed := retried.move (show move? _ (.lifecycle 0 .dial) = some _ from rfl) trivial
  have reentered := redialed.move (show move? _ (.lifecycle 0 .enter) = some _ from rfl) trivial
  exact ⟨_, _, reentered, rfl, rfl, table_follows_lifecycles reentered⟩

end ConnectionManager

end PricePublisher
