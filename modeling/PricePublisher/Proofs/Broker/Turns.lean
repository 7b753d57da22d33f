import PricePublisher.Broker.Manager
import PricePublisher.Proofs.Positions

/-!
# The turns of a lifecycle

`turn_of_step?` lists what a step of a lifecycle does to the table and to the
phase of the lifecycle.  A step touches neither the list of brokers nor another
lifecycle, and only a lifecycle that is to end does end.
-/

namespace PricePublisher

/-- Whether a writer that takes this step stops for good, whatever is queued for it. -/
def LifecycleStep.breaksOff : LifecycleStep → Bool
  | .lose | .fail | .expire => true
  | .dial | .refuse | .enter | .exhaust | .leave | .retry | .cancel => false

theorem LifecycleStep.ne_enter_of_breaksOff
    {step : LifecycleStep} (broken : step.breaksOff = true) :
    step ≠ .enter := by
  rintro rfl
  cases broken

namespace ConnectionManager

/-- The phase of a lifecycle that has just been left without a connection. -/
def resting (manager : ConnectionManager) (lifecycle : Lifecycle) : LifecyclePhase :=
  if manager.isCancelled lifecycle then .ended else .waiting

/-- A manager whose table has changed and one of whose lifecycles is in another phase. -/
def turned
    (manager : ConnectionManager) (number : Nat) (table : BrokerTable)
    (phase : LifecyclePhase) :
    ConnectionManager :=
  { manager with table := table }.setPhase number phase

/-- The table and the phase to which a step of a lifecycle leads. -/
inductive Turn
    (manager : ConnectionManager) (lifecycle : Lifecycle) :
    LifecycleStep → BrokerTable → LifecyclePhase → Prop where
  | dial (connecting : lifecycle.phase = .connecting) :
      Turn manager lifecycle .dial manager.table .dialed
  | refuse (connecting : lifecycle.phase = .connecting) :
      Turn manager lifecycle .refuse manager.table (manager.resting lifecycle)
  | enter (dialed : lifecycle.phase = .dialed) :
      Turn manager lifecycle .enter
        (manager.table.openConnection lifecycle.url manager.table.connections.length)
        (.connected manager.table.connections.length)
  | close (connection : Nat) (connected : lifecycle.phase = .connected connection)
      (cancelled : manager.isCancelled lifecycle = true) :
      Turn manager lifecycle .cancel (manager.table.close connection) (.closing connection)
  | lose (step : LifecycleStep) (connection : Nat)
      (connected : lifecycle.phase = .connected connection) (broken : step.breaksOff = true) :
      Turn manager lifecycle step (manager.table.close connection) (.stopped connection)
  | yield (connection : Nat) (connected : lifecycle.phase = .connected connection)
      (replaced : manager.isReplaced connection = true)
      (idle : manager.isIdle connection = true) :
      Turn manager lifecycle .exhaust manager.table (.stopped connection)
  | fail (step : LifecycleStep) (connection : Nat)
      (closing : lifecycle.phase = .closing connection) (broken : step.breaksOff = true) :
      Turn manager lifecycle step manager.table (.stopped connection)
  | flush (connection : Nat) (closing : lifecycle.phase = .closing connection)
      (idle : manager.isIdle connection = true) :
      Turn manager lifecycle .exhaust manager.table (.stopped connection)
  | leave (connection : Nat) (stopped : lifecycle.phase = .stopped connection) :
      Turn manager lifecycle .leave
        ((manager.table.close connection).dropConsumer connection)
        (manager.resting lifecycle)
  | retry (waiting : lifecycle.phase = .waiting) :
      Turn manager lifecycle .retry manager.table .connecting
  | quit (unconnected : lifecycle.phase = .connecting ∨ lifecycle.phase = .waiting)
      (cancelled : manager.isCancelled lifecycle = true) :
      Turn manager lifecycle .cancel manager.table .ended

variable {manager next : ConnectionManager} {number : Nat} {notices : List Notice}

theorem turned_of_rest
    {lifecycle : Lifecycle} {reported : List Notice}
    (rested : manager.rest number lifecycle reported = (notices, next)) :
    next = manager.setPhase number (manager.resting lifecycle) := by
  unfold rest at rested
  unfold resting
  split at rested
  next cancelled =>
    cases rested
    rw [if_pos cancelled]
  next active =>
    cases rested
    rw [if_neg active]

/-- Every step of a lifecycle is one of its turns. -/
theorem turn_of_step?
    {step : LifecycleStep}
    (taken : manager.step? number step = some (notices, next)) :
    ∃ lifecycle table phase,
      manager.lifecycles[number]? = some lifecycle ∧
        Turn manager lifecycle step table phase ∧
        next = manager.turned number table phase := by
  rcases Option.bind_eq_some_iff.mp taken with ⟨lifecycle, found, possible⟩
  clear taken
  split at possible
  next connecting =>
    cases possible
    exact ⟨lifecycle, _, _, found, .dial connecting, rfl⟩
  next connecting =>
    have rested := turned_of_rest (Option.some.inj possible)
    exact ⟨lifecycle, _, _, found, .refuse connecting, rested⟩
  next connecting =>
    obtain ⟨cancelled, equal⟩ := Option.ite_none_right_eq_some.mp possible
    cases equal
    exact ⟨lifecycle, _, _, found, .quit (.inl connecting) cancelled, rfl⟩
  next dialed =>
    cases possible
    exact ⟨lifecycle, _, _, found, .enter dialed, rfl⟩
  next connection connected =>
    obtain ⟨cancelled, equal⟩ := Option.ite_none_right_eq_some.mp possible
    cases equal
    exact ⟨lifecycle, _, _, found, .close connection connected cancelled, rfl⟩
  next connection connected =>
    cases possible
    exact ⟨lifecycle, _, _, found, .lose .lose connection connected rfl, rfl⟩
  next connection connected =>
    obtain ⟨_, equal⟩ := Option.ite_none_left_eq_some.mp possible
    cases equal
    exact ⟨lifecycle, _, _, found, .lose .fail connection connected rfl, rfl⟩
  next connection connected =>
    obtain ⟨condition, equal⟩ := Option.ite_none_right_eq_some.mp possible
    obtain ⟨replaced, idle⟩ := Bool.and_eq_true_iff.mp condition
    cases equal
    exact ⟨lifecycle, _, _, found, .yield connection connected replaced idle, rfl⟩
  next connection closing =>
    cases possible
    exact ⟨lifecycle, _, _, found, .fail .lose connection closing rfl, rfl⟩
  next connection closing =>
    obtain ⟨_, equal⟩ := Option.ite_none_left_eq_some.mp possible
    cases equal
    exact ⟨lifecycle, _, _, found, .fail .fail connection closing rfl, rfl⟩
  next connection closing =>
    obtain ⟨_, equal⟩ := Option.ite_none_left_eq_some.mp possible
    cases equal
    exact ⟨lifecycle, _, _, found, .fail .expire connection closing rfl, rfl⟩
  next connection closing =>
    obtain ⟨idle, equal⟩ := Option.ite_none_right_eq_some.mp possible
    cases equal
    exact ⟨lifecycle, _, _, found, .flush connection closing idle, rfl⟩
  next connection stopped =>
    have rested := turned_of_rest (Option.some.inj possible)
    exact ⟨lifecycle, _, _, found, .leave connection stopped, rested⟩
  next waiting =>
    cases possible
    exact ⟨lifecycle, _, _, found, .retry waiting, rfl⟩
  next waiting =>
    obtain ⟨cancelled, equal⟩ := Option.ite_none_right_eq_some.mp possible
    cases equal
    exact ⟨lifecycle, _, _, found, .quit (.inr waiting) cancelled, rfl⟩
  next => cases possible

/-- Only a lifecycle that is to end comes to its end. -/
theorem Turn.cancelled_of_ended
    {lifecycle : Lifecycle} {step : LifecycleStep} {table : BrokerTable}
    {phase : LifecyclePhase}
    (turn : Turn manager lifecycle step table phase) (ended : phase = .ended) :
    manager.isCancelled lifecycle = true := by
  have of_resting : manager.resting lifecycle = .ended →
      manager.isCancelled lifecycle = true := by
    unfold resting
    split
    next cancelled => exact fun _ => cancelled
    next => nofun
  cases turn with
  | refuse connecting => exact of_resting ended
  | leave connection stopped => exact of_resting ended
  | quit unconnected cancelled => exact cancelled
  | _ => cases ended

@[simp]
theorem turned_table
    (manager : ConnectionManager) (number : Nat) (table : BrokerTable)
    (phase : LifecyclePhase) :
    (manager.turned number table phase).table = table :=
  rfl

/-- A turn puts one lifecycle into another phase. -/
theorem getElem?_turned
    (manager : ConnectionManager) (number other : Nat) (table : BrokerTable)
    (phase : LifecyclePhase) :
    (manager.turned number table phase).lifecycles[other]? =
      (manager.lifecycles[other]?).map fun lifecycle =>
        if number = other then lifecycle.inPhase phase else lifecycle :=
  List.getElem?_modify _ _ _ _

theorem turned_cases
    {lifecycle later : Lifecycle} {number other : Nat} {table : BrokerTable}
    {phase : LifecyclePhase}
    (found : manager.lifecycles[number]? = some lifecycle)
    (after : (manager.turned number table phase).lifecycles[other]? = some later) :
    (number = other ∧ later = lifecycle.inPhase phase) ∨
      (number ≠ other ∧ manager.lifecycles[other]? = some later) :=
  Positions.modify_cases found after

end ConnectionManager

end PricePublisher
