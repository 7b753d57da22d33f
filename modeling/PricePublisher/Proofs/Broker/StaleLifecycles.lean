import PricePublisher.Proofs.Broker.ManagerHistory

/-!
# Stale lifecycles

When a broker is removed and listed anew, its old lifecycle may still be at work
while a newer one has its connection in the table.  The old lifecycle then does not
touch this connection, with one exception: if it has still opened a socket, it
enters a connection for it, and the entry of the newer connection is gone.

An old lifecycle that no longer dials therefore leaves the connections of all others
alone for good.  The exception does occur: at the end of this module it leaves a
broker without an entry although the broker is connected.
-/

namespace PricePublisher

/-- Whether a lifecycle that is to end opens no connection anymore. -/
def LifecyclePhase.opensNoMore : LifecyclePhase → Bool
  | .connecting | .dialed | .waiting => false
  | .connected _ | .closing _ | .stopped _ | .ended => true

namespace ConnectionManager

variable
  {manager next : ConnectionManager} {openers : List Nat} {lifecycle : Lifecycle}
  {step : LifecycleStep} {table : BrokerTable} {phase : LifecyclePhase}

/-! ## Connections of others -/

/-- A step that opens no connection leaves the entries of other lifecycles alone. -/
theorem Sound.listed_of_turn
    (sound : Sound manager openers) {number : Nat}
    (found : manager.lifecycles[number]? = some lifecycle)
    (turn : Turn manager lifecycle step table phase)
    {url : String} {connection : Nat}
    (live : Keyed.get? manager.table.live url = some connection)
    (foreign : openers[connection]? ≠ some number) (other : step ≠ .enter) :
    Keyed.get? table.live url = some connection := by
  -- A lifecycle closes only what it holds, and it has opened that itself.
  have different : ∀ held, lifecycle.phase.held? = some held → connection ≠ held := by
    rintro held holds rfl
    exact foreign (sound.opener number lifecycle connection found holds)
  cases turn with
  | enter dialed => exact absurd rfl other
  | close held connected cancelled =>
      exact Owned.live_of_close_ne sound.owned live (different held (by rw [connected]; rfl))
  | lose step held connected _ =>
      exact Owned.live_of_close_ne sound.owned live (different held (by rw [connected]; rfl))
  | leave held stopped =>
      exact Owned.live_of_close_ne sound.owned live (different held (by rw [stopped]; rfl))
  | _ => exact live

/-- A step of a lifecycle keeps the entries of others exactly if it opens no connection. -/
theorem Sound.listed_iff
    (sound : Sound manager openers) {number : Nat}
    (found : manager.lifecycles[number]? = some lifecycle)
    {notices : List Notice}
    (taken : manager.step? number step = some (notices, next))
    {connection : Nat}
    (listed : (lifecycle.url, connection) ∈ manager.table.entries)
    (foreign : openers[connection]? ≠ some number) :
    (lifecycle.url, connection) ∈ next.table.entries ↔ step ≠ .enter := by
  obtain ⟨current, table, phase, present, turn, rfl⟩ := turn_of_step? taken
  cases found.symm.trans present
  have after := sound.turned found turn
  have live := sound.owned.mem_entries_iff.mp listed
  rw [after.owned.mem_entries_iff, turned_table]
  constructor
  · rintro kept rfl
    cases turn with
    | enter dialed =>
        have inside : connection < manager.table.connections.length := by
          obtain ⟨entry, held, _⟩ := sound.owned.live_open _ connection live
          exact (List.getElem?_eq_some_iff.mp held).1
        rw [BrokerTable.openConnection, Keyed.get?_insert_self, Option.some.injEq] at kept
        exact Nat.ne_of_gt inside kept
    | lose _ _ _ broken | fail _ _ _ broken => cases broken
  · exact sound.listed_of_turn found turn live foreign

/-! ## Lifecycles that open no more connections -/

/-- A lifecycle is to end and opens no connection anymore. -/
def IsRetired (manager : ConnectionManager) (number : Nat) : Prop :=
  ∃ lifecycle, manager.lifecycles[number]? = some lifecycle ∧
    manager.isCancelled lifecycle = true ∧ lifecycle.phase.opensNoMore = true

variable {number : Nat}

theorem IsRetired.of_extends
    (retired : manager.IsRetired number) (extended : next.Extends manager) :
    next.IsRetired number := by
  obtain ⟨lifecycle, found, cancelled, opens⟩ := retired
  obtain ⟨later, reached, _, same⟩ := extended.kept number lifecycle found
  exact ⟨later, reached, extended.cancelled number lifecycle later found reached cancelled,
    same ▸ opens⟩

theorem Turn.opensNoMore
    (turn : Turn manager lifecycle step table phase)
    (cancelled : manager.isCancelled lifecycle = true)
    (opens : lifecycle.phase.opensNoMore = true) :
    phase.opensNoMore = true := by
  cases turn with
  | dial connecting => rw [connecting] at opens; cases opens
  | refuse connecting => rw [connecting] at opens; cases opens
  | retry waiting => rw [waiting] at opens; cases opens
  | leave connection stopped => rw [resting, if_pos cancelled]; rfl
  | _ => rfl

theorem IsRetired.turned
    (retired : manager.IsRetired number) {turning : Nat}
    (found : manager.lifecycles[turning]? = some lifecycle)
    (turn : Turn manager lifecycle step table phase) :
    (manager.turned turning table phase).IsRetired number := by
  obtain ⟨before, present, cancelled, opens⟩ := retired
  rw [IsRetired, getElem?_turned, present]
  refine ⟨_, rfl, ?_, ?_⟩
  · split <;> exact cancelled
  · split
    next same =>
      subst same
      cases found.symm.trans present
      exact turn.opensNoMore cancelled opens
    next => exact opens

theorem IsRetired.move
    (retired : manager.IsRetired number) {move : ManagerMove}
    (effect : MoveEffect manager move next) :
    next.IsRetired number := by
  cases effect with
  | reconciled desired => exact retired.of_extends (extends_reconcile manager desired)
  | stepped turning step lifecycle table phase found turn => exact retired.turned found turn
  | broadcast now batch => exact retired
  | wrote writing connection => exact retired
  | shutDown => exact retired.of_extends (extends_shutDown manager)

theorem Moves.isRetired
    {admits : ManagerMove → Prop} {start : ConnectionManager} {past : List Nat}
    (moves : Moves admits start past manager openers) (retired : start.IsRetired number) :
    manager.IsRetired number := by
  induction moves with
  | refl => exact retired
  | move _ taken _ induction => exact induction.move (effect_of_move? taken)

theorem IsRetired.step_ne_enter
    (retired : manager.IsRetired number) {notices : List Notice}
    (taken : manager.step? number step = some (notices, next)) :
    step ≠ .enter := by
  obtain ⟨lifecycle, found, _, opens⟩ := retired
  obtain ⟨current, table, phase, present, turn, _⟩ := turn_of_step? taken
  cases found.symm.trans present
  rintro rfl
  cases turn with
  | enter dialed => rw [dialed] at opens; cases opens
  | lose _ _ _ broken | fail _ _ _ broken => cases broken

/-! ## Old lifecycles of a broker -/

/--
Let a newer lifecycle of a broker have its connection in the table while an older one
is to end.  Of all steps of the older one, only entering a connection for a socket
that it has still opened takes the place of the newer connection.  Once it opens no
more connections, it leaves the entries of all others alone for good.
-/
theorem only_entering_disturbs_newer
    {publisherKey : String} {auth : Option String} {reconnectDelay : Duration}
    {older newer connection : Nat}
    (moves : Moves (fun _ => True) (fresh publisherKey auth reconnectDelay) []
      manager openers)
    (found : manager.lifecycles[older]? = some lifecycle)
    (cancelled : manager.isCancelled lifecycle = true)
    (listed : (lifecycle.url, connection) ∈ manager.table.entries)
    (opened : openers[connection]? = some newer) (different : older ≠ newer) :
    (∀ step notices next, manager.step? older step = some (notices, next) →
      ((lifecycle.url, connection) ∈ next.table.entries ↔ step ≠ .enter)) ∧
    (lifecycle.phase.opensNoMore = true →
      ∀ later laterOpeners,
        Moves (fun _ => True) manager openers later laterOpeners →
        ∀ entry ∈ later.table.entries, laterOpeners[entry.2]? ≠ some older →
        ∀ step notices next, later.step? older step = some (notices, next) →
          entry ∈ next.table.entries) := by
  have sound := moves.sound (sound_fresh _ _ _)
  constructor
  · intro step notices next taken
    refine sound.listed_iff found taken listed ?_
    rw [opened, Ne, Option.some.injEq]
    exact Ne.symm different
  · intro opens later laterOpeners rest entry held foreign step notices next taken
    have after := rest.sound sound
    have retired := rest.isRetired ⟨lifecycle, found, cancelled, opens⟩
    have entering := retired.step_ne_enter taken
    obtain ⟨current, table, phase, present, turn, rfl⟩ := turn_of_step? taken
    have live := after.owned.mem_entries_iff.mp held
    exact (after.turned present turn).owned.mem_entries_iff.mpr
      (after.listed_of_turn present turn live foreign entering)

/-- A list of one broker. -/
def onlyBroker : Registry.Subscriptions :=
  [("ws://broker", .ofList ["*"])]

/-- The first lifecycle of the broker after it was removed from the list. -/
def removedLifecycle (phase : LifecyclePhase) : Lifecycle :=
  ⟨"ws://broker", .ofList ["*"], true, phase⟩

/-- A connected lifecycle is to end, and the newer one of its broker is connected too. -/
theorem closing_keeps_newer :
    ∃ manager openers,
      Moves (fun _ => True) (fresh "0xabc" none .zero) [] manager openers ∧
      manager.lifecycles[0]? = some (removedLifecycle (.connected 0)) ∧
      openers = [0, 1] ∧ ("ws://broker", 1) ∈ manager.table.entries ∧
      ∃ notices next, manager.step? 0 .cancel = some (notices, next) ∧
        ("ws://broker", 1) ∈ next.table.entries ∧
        ∃ more last, next.step? 0 .lose = some (more, last) ∧
          ("ws://broker", 1) ∈ last.table.entries := by
  have start : Moves (fun _ => True)
    (fresh "0xabc" none .zero) [] (fresh "0xabc" none .zero) [] := .refl
  have listed := start.move (show move? _ (.reconcile onlyBroker) = some _ from rfl) trivial
  have dialed := listed.move (show move? _ (.lifecycle 0 .dial) = some _ from rfl) trivial
  have entered := dialed.move (show move? _ (.lifecycle 0 .enter) = some _ from rfl) trivial
  have removed := entered.move (show move? _ (.reconcile []) = some _ from rfl) trivial
  have relisted := removed.move (show move? _ (.reconcile onlyBroker) = some _ from rfl) trivial
  have redialed := relisted.move (show move? _ (.lifecycle 1 .dial) = some _ from rfl) trivial
  have reentered := redialed.move (show move? _ (.lifecycle 1 .enter) = some _ from rfl) trivial
  have undisturbed := only_entering_disturbs_newer reentered
    (show _ = some (removedLifecycle (.connected 0)) from rfl) rfl
    (List.mem_singleton.mpr rfl) rfl Nat.zero_ne_one
  have kept := (undisturbed.1 .cancel _ _ rfl).mpr nofun
  have left := undisturbed.2 rfl _ _
    (Moves.refl.move (show move? _ (.lifecycle 0 .cancel) = some _ from rfl) trivial)
    _ kept nofun .lose _ _ rfl
  exact ⟨_, _, reentered, rfl, rfl, List.mem_singleton.mpr rfl, _, _, rfl, kept, _, _, rfl, left⟩

/--
A broker is removed and listed anew while its first lifecycle dials.  The second one
is connected when the first one enters its connection and closes it: now the broker
has no entry, although the second lifecycle is still connected.
-/
theorem stale_lifecycle_evicts_newer :
    ∃ manager openers,
      Moves (fun _ => True) (fresh "0xabc" none .zero) [] manager openers ∧
      manager.lifecycles[0]? = some (removedLifecycle .dialed) ∧
      openers = [1] ∧ ("ws://broker", 0) ∈ manager.table.entries ∧
      ∃ notices next, manager.step? 0 .enter = some (notices, next) ∧
        ("ws://broker", 0) ∉ next.table.entries ∧
        ∃ more last, next.step? 0 .cancel = some (more, last) ∧
          last.table.entries = [] ∧
          last.lifecycles.map Lifecycle.phase = [.closing 1, .connected 0] := by
  have start : Moves (fun _ => True)
    (fresh "0xabc" none .zero) [] (fresh "0xabc" none .zero) [] := .refl
  have listed := start.move (show move? _ (.reconcile onlyBroker) = some _ from rfl) trivial
  have removed := listed.move (show move? _ (.reconcile []) = some _ from rfl) trivial
  have relisted := removed.move (show move? _ (.reconcile onlyBroker) = some _ from rfl) trivial
  have dialed := relisted.move (show move? _ (.lifecycle 1 .dial) = some _ from rfl) trivial
  have entered := dialed.move (show move? _ (.lifecycle 1 .enter) = some _ from rfl) trivial
  -- The socket of the removed lifecycle is opened only now.
  have stale := entered.move (show move? _ (.lifecycle 0 .dial) = some _ from rfl) trivial
  refine ⟨_, _, stale, rfl, rfl, List.mem_singleton.mpr rfl, _, _, rfl, ?_,
    _, _, rfl, rfl, rfl⟩
  intro kept
  cases List.mem_singleton.mp kept

end ConnectionManager

end PricePublisher
