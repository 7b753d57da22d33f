import PricePublisher.Proofs.Broker.Listing

/-!
# What reconciling with a list of brokers does

Before all connections are ended, let the registry list the brokers anew, after
whatever has happened.  Then exactly the brokers of the list are listed, each with
one lifecycle that is not to end.  New brokers get a lifecycle, known ones keep
theirs together with its connection, and the lifecycles of all others are to end.

A lifecycle reads the filter from the newest list, and so does the writer of every
connection that it has opened or will open before the next list.  `Follows` puts all
of this together.
-/

namespace PricePublisher

open Keyed (Ascending)

namespace ConnectionManager

variable {manager next : ConnectionManager} {desired : Registry.Subscriptions}

/-- A lifecycle of a broker that is not to end. -/
def IsActive (manager : ConnectionManager) (url : String) (number : Nat) : Prop :=
  ∃ lifecycle, manager.lifecycles[number]? = some lifecycle ∧
    lifecycle.url = url ∧ manager.isCancelled lifecycle = false

namespace Listed

theorem isCancelled_eq (listed : manager.Listed) (lifecycle : Lifecycle) :
    manager.isCancelled lifecycle = lifecycle.isRemoved := by
  rw [isCancelled, listed.running, Bool.or_false]

/-- The active lifecycle of a broker is the one that is listed. -/
theorem isActive_iff
    (listed : manager.Listed) {url : String} {number : Nat} :
    manager.IsActive url number ↔ Keyed.get? manager.tracked url = some number := by
  rw [listed.active, activeUrl?_eq_some_iff]
  simp only [IsActive, listed.isCancelled_eq]

/-- After reconciling, an active lifecycle has the filter that the list has for its broker. -/
theorem filter_of_active
    (listed : manager.Listed) (ascending : Ascending desired)
    {lifecycle : Lifecycle} (member : lifecycle ∈ (manager.reconcile desired).2.lifecycles)
    (alive : lifecycle.isRemoved = false) :
    Keyed.get? desired lifecycle.url = some lifecycle.filter := by
  rw [listed.lifecycles_reconcile ascending.keys_nodup] at member
  rcases List.mem_append.mp member with old | new
  · obtain ⟨before, _, rfl⟩ := List.mem_map.mp old
    unfold Lifecycle.reconciled at alive ⊢
    cases known : Keyed.contains desired before.url with
    | false =>
        rw [known] at alive
        cases alive
    | true =>
        rw [known, if_pos rfl, Lifecycle.adopted_isRemoved] at alive
        obtain ⟨filter, found⟩ := Keyed.contains_iff_exists.mp known
        rw [if_pos rfl, Lifecycle.adopted_of_listed alive found]
        exact found
  · obtain ⟨entry, listedEntry, rfl⟩ := List.mem_map.mp new
    exact ascending.mem_iff.mp (List.mem_filter.mp listedEntry).1

/-- A broker that stays listed keeps its lifecycle, up to the filter. -/
theorem getElem?_reconcile
    (listed : manager.Listed) (ascending : Ascending desired)
    {url : String} {number : Nat} {lifecycle : Lifecycle} {filter : AssetFilter}
    (tracked : Keyed.get? manager.tracked url = some number)
    (found : manager.lifecycles[number]? = some lifecycle)
    (wanted : Keyed.get? desired url = some filter) :
    (manager.reconcile desired).2.lifecycles[number]? =
      some { lifecycle with filter := filter } := by
  obtain ⟨current, present, same_url, alive⟩ := listed.exists_lifecycle tracked
  rw [found] at present
  cases present
  have known : Keyed.contains desired lifecycle.url = true :=
    Keyed.contains_iff_exists.mpr ⟨filter, same_url ▸ wanted⟩
  have inside : number < (manager.lifecycles.map (Lifecycle.reconciled desired)).length := by
    rw [List.length_map]
    exact (List.getElem?_eq_some_iff.mp found).1
  rw [listed.lifecycles_reconcile ascending.keys_nodup, List.getElem?_append_left inside,
    List.getElem?_map, found, Option.map_some, Lifecycle.reconciled, if_pos known,
    Lifecycle.adopted_of_listed alive (same_url ▸ wanted)]

/-- After reconciling, the brokers of the list are listed. -/
theorem contains_reconcile
    (listed : manager.Listed) (ascending : Ascending desired) (url : String) :
    Keyed.contains (manager.reconcile desired).2.tracked url =
      Keyed.contains desired url := by
  have after := listed.reconcile desired
  rw [Bool.eq_iff_iff, Keyed.contains_iff_exists, Keyed.contains_iff_exists]
  constructor
  · rintro ⟨number, tracked⟩
    obtain ⟨lifecycle, found, rfl, alive⟩ := after.exists_lifecycle tracked
    exact ⟨_, listed.filter_of_active ascending (List.mem_of_getElem? found) alive⟩
  · rintro ⟨filter, wanted⟩
    cases tracked : Keyed.get? manager.tracked url with
    | some number =>
        obtain ⟨lifecycle, found, same_url, alive⟩ := listed.exists_lifecycle tracked
        have kept := listed.getElem?_reconcile ascending tracked found wanted
        exact ⟨number, (after.active url number).mpr
          (activeUrl?_eq_some_iff.mpr ⟨_, kept, same_url, alive⟩)⟩
    | none =>
        have fresh := Keyed.contains_eq_false_iff.mpr tracked
        have started : Lifecycle.started url filter ∈
            (manager.reconcile desired).2.lifecycles := by
          rw [listed.lifecycles_reconcile ascending.keys_nodup]
          refine List.mem_append_right _ (List.mem_map.mpr ⟨(url, filter), ?_, rfl⟩)
          exact List.mem_filter.mpr ⟨Keyed.mem_of_get? wanted, by rw [fresh]; rfl⟩
        obtain ⟨number, found⟩ := List.mem_iff_getElem?.mp started
        exact ⟨number, (after.active url number).mpr
          (activeUrl?_eq_some_iff.mpr ⟨_, found, rfl, rfl⟩)⟩

end Listed

/-! ## Filters between two lists -/

/-- What happens between two lists leaves the brokers and filters of lifecycles alone. -/
theorem MoveEffect.exists_later
    {move : ManagerMove} (effect : MoveEffect manager move next)
    (between : move.isReconcile = false)
    {number : Nat} {lifecycle : Lifecycle}
    (found : manager.lifecycles[number]? = some lifecycle) :
    ∃ later, next.lifecycles[number]? = some later ∧
      later.url = lifecycle.url ∧ later.filter = lifecycle.filter := by
  cases effect with
  | reconciled desired => cases between
  | stepped turning step current table phase present turn =>
      rw [getElem?_turned, found]
      refine ⟨_, rfl, ?_, ?_⟩
      · split <;> rfl
      · split <;> rfl
  | broadcast now batch => exact ⟨lifecycle, found, rfl, rfl⟩
  | wrote writing connection => exact ⟨lifecycle, found, rfl, rfl⟩
  | shutDown => exact ⟨lifecycle, found, rfl, rfl⟩

theorem Moves.exists_later
    {start : ConnectionManager} {past openers : List Nat}
    (moves : Moves (fun move => move.isReconcile = false) start past manager openers)
    {number : Nat} {lifecycle : Lifecycle}
    (found : start.lifecycles[number]? = some lifecycle) :
    ∃ later, manager.lifecycles[number]? = some later ∧
      later.url = lifecycle.url ∧ later.filter = lifecycle.filter := by
  induction moves with
  | refl => exact ⟨lifecycle, found, rfl, rfl⟩
  | move _ taken between induction =>
      obtain ⟨middle, present, url, filter⟩ := induction
      obtain ⟨later, reached, same_url, same_filter⟩ :=
        (effect_of_move? taken).exists_later between present
      exact ⟨later, reached, same_url.trans url, same_filter.trans filter⟩

/-- Between two lists, whoever writes to a connection has the filter of its opener. -/
theorem Moves.filter_eq_of_writer
    {start : ConnectionManager} {past openers : List Nat}
    (moves : Moves (fun move => move.isReconcile = false) start past manager openers)
    (sound : Sound start past)
    {number connection : Nat} {lifecycle writer : Lifecycle}
    (found : start.lifecycles[number]? = some lifecycle)
    (opened : openers[connection]? = some number)
    (member : writer ∈ manager.lifecycles)
    (written : writer.phase.written? = some connection) :
    writer.filter = lifecycle.filter := by
  -- The writer's lifecycle holds the connection, so it is the one that has opened it.
  obtain ⟨holder, present⟩ := List.mem_iff_getElem?.mp member
  have opens := (moves.sound sound).opener holder writer connection present
    (LifecyclePhase.held_of_written written)
  rw [opened, Option.some.injEq] at opens
  obtain ⟨later, reached, _, filter⟩ := moves.exists_later found
  rw [opens, present, Option.some.injEq] at reached
  exact reached ▸ filter

/-! ## Reconciling -/

/-- How a manager follows a new list of brokers. -/
structure Follows
    (manager : ConnectionManager) (openers : List Nat) (desired : Registry.Subscriptions)
    (summary : ReconcileSummary) (next : ConnectionManager) : Prop where
  tracked : next.trackedBrokers = Keyed.keys desired
  /-- Of all lifecycles that a listed broker ever had, one is not to end. -/
  active : ∀ url ∈ next.trackedBrokers, ∃! number, next.IsActive url number
  cancelled : ∀ lifecycle ∈ next.lifecycles,
    lifecycle.url ∉ next.trackedBrokers → next.isCancelled lifecycle = true
  started : ∀ url, url ∈ summary.started ↔
    url ∈ Keyed.keys desired ∧ url ∉ manager.trackedBrokers
  updated : ∀ url, url ∈ summary.updated ↔
    url ∈ Keyed.keys desired ∧ url ∈ manager.trackedBrokers
  removed : ∀ url, url ∈ summary.removed ↔
    url ∈ manager.trackedBrokers ∧ url ∉ Keyed.keys desired
  started_rising : summary.started.Pairwise (· < ·)
  updated_rising : summary.updated.Pairwise (· < ·)
  removed_rising : summary.removed.Pairwise (· < ·)
  /-- A broker that stays keeps its lifecycle, which differs at most in the filter. -/
  kept : ∀ url ∈ summary.updated, ∃ number lifecycle filter,
    manager.IsActive url number ∧ next.IsActive url number ∧
      manager.lifecycles[number]? = some lifecycle ∧
      next.lifecycles[number]? = some { lifecycle with filter := filter }
  /-- Connections are neither closed, entered into the table nor removed from it. -/
  table : next.table = manager.table
  /-- Until the next list, the filter of the list counts for all connections of a broker. -/
  filters : ∀ url filter number,
    Keyed.get? desired url = some filter → next.IsActive url number →
    ∀ later laterOpeners,
      Moves (fun move => move.isReconcile = false) next openers later laterOpeners →
      (∃ lifecycle, later.lifecycles[number]? = some lifecycle ∧
        lifecycle.url = url ∧ lifecycle.filter = filter) ∧
      ∀ connection, laterOpeners[connection]? = some number →
        ∀ writer ∈ later.lifecycles,
          writer.phase.written? = some connection → writer.filter = filter

/-- Before all connections are ended, a manager follows every list of brokers. -/
theorem reconcile_follows_list
    {publisherKey : String} {auth : Option String} {reconnectDelay : Duration}
    {openers : List Nat}
    (moves : Moves (fun move => move ≠ .shutDown)
      (fresh publisherKey auth reconnectDelay) [] manager openers)
    (ascending : Ascending desired) :
    Follows manager openers desired
      (manager.reconcile desired).1 (manager.reconcile desired).2 := by
  have listed := moves.listed (listed_fresh _ _ _)
  have after := listed.reconcile desired
  have sound := (moves.sound (sound_fresh _ _ _)).of_extends (extends_reconcile manager desired)
  have rising := ascending.keys_rising
  have running : ∀ url, manager.isRunning url = true ↔ url ∈ manager.trackedBrokers := by
    intro url
    rw [listed.isRunning_eq, Keyed.contains_iff_mem_keys, trackedBrokers]
  constructor
  case tracked =>
    exact after.ascending.keys_eq ascending (listed.contains_reconcile ascending)
  case active =>
    intro url member
    obtain ⟨number, tracked⟩ :=
      Keyed.contains_iff_exists.mp (Keyed.contains_iff_mem_keys.mpr member)
    refine ⟨number, after.isActive_iff.mpr tracked, fun other active => ?_⟩
    have same := after.isActive_iff.mp active
    rw [tracked] at same
    exact (Option.some.inj same).symm
  case cancelled =>
    intro lifecycle member absent
    rw [after.isCancelled_eq]
    refine after.isRemoved_of_untracked member ?_
    rwa [trackedBrokers, ← Keyed.contains_iff_mem_keys, Bool.not_eq_true,
      Keyed.contains_eq_false_iff] at absent
  case started =>
    intro url
    rw [reconcile, summarize, List.mem_filter, Bool.not_eq_true', ← Bool.not_eq_true, running]
  case updated =>
    intro url
    rw [reconcile, summarize, List.mem_filter, running]
  case removed =>
    intro url
    rw [reconcile, summarize, List.mem_filter, Bool.not_eq_true', ← Bool.not_eq_true,
      Keyed.contains_iff_mem_keys]
  case started_rising => exact rising.filter _
  case updated_rising => exact rising.filter _
  case removed_rising => exact listed.ascending.keys_rising.filter _
  case kept =>
    intro url member
    obtain ⟨wanted, runs⟩ := List.mem_filter.mp member
    rw [listed.isRunning_eq] at runs
    obtain ⟨number, tracked⟩ := Keyed.contains_iff_exists.mp runs
    obtain ⟨filter, found⟩ :=
      Keyed.contains_iff_exists.mp (Keyed.contains_iff_mem_keys.mpr wanted)
    obtain ⟨lifecycle, present, same_url, alive⟩ := listed.exists_lifecycle tracked
    have kept := listed.getElem?_reconcile ascending tracked present found
    refine ⟨number, lifecycle, filter, listed.isActive_iff.mpr tracked, ?_, present, kept⟩
    exact ⟨_, kept, same_url, (after.isCancelled_eq _).trans alive⟩
  case table => exact (extends_reconcile manager desired).table
  case filters =>
    intro url filter number wanted active later laterOpeners moves
    obtain ⟨lifecycle, found, same_url, alive⟩ := active
    rw [after.isCancelled_eq] at alive
    have has := listed.filter_of_active ascending (List.mem_of_getElem? found) alive
    rw [same_url, wanted, Option.some.injEq] at has
    obtain ⟨last, reached, last_url, last_filter⟩ := moves.exists_later found
    refine ⟨⟨last, reached, last_url.trans same_url, last_filter.trans has.symm⟩, ?_⟩
    intro connection opened writer member written
    rw [moves.filter_eq_of_writer sound found opened member written, has]

/-- A list that drops the first of two brokers, changes the second and has a new one. -/
def changedBrokers : Registry.Subscriptions :=
  [("ws://b", .ofList ["ETH"]), ("ws://c", .ofList ["*"])]

theorem ascending_changedBrokers : Ascending changedBrokers :=
  List.pairwise_pair.mpr (by decide)

/-- One of two brokers is connected and the other in backoff, when the list changes. -/
theorem follows_list_while_waiting :
    ∃ manager openers,
      Moves (fun move => move ≠ .shutDown) (fresh "0xabc" none .zero) [] manager openers ∧
      Ascending changedBrokers ∧
      manager.lifecycles.map Lifecycle.phase = [.connected 0, .waiting] ∧
      (manager.reconcile changedBrokers).1 = ⟨["ws://c"], ["ws://a"], ["ws://b"]⟩ ∧
      Follows manager openers changedBrokers
        (manager.reconcile changedBrokers).1 (manager.reconcile changedBrokers).2 := by
  have start : Moves (fun move => move ≠ .shutDown)
    (fresh "0xabc" none .zero) [] (fresh "0xabc" none .zero) [] := .refl
  have listed := start.move
    (show move? _ (.reconcile [("ws://a", .ofList ["*"]), ("ws://b", .ofList ["BTC"])]) =
      some _ from rfl) nofun
  have dialed := listed.move (show move? _ (.lifecycle 0 .dial) = some _ from rfl) nofun
  have entered := dialed.move (show move? _ (.lifecycle 0 .enter) = some _ from rfl) nofun
  have refused := entered.move (show move? _ (.lifecycle 1 .refuse) = some _ from rfl) nofun
  exact ⟨_, _, refused, ascending_changedBrokers, rfl, rfl,
    reconcile_follows_list refused ascending_changedBrokers⟩

end ConnectionManager

end PricePublisher
