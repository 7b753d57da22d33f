import PricePublisher.Proofs.Broker.ManagerHistory

/-!
# Which brokers are listed

Until all connections are ended, the listed brokers are those with a lifecycle that
has not been removed, and none of these lifecycles has ended: `Listed` says so and
is kept by whatever happens.

So reconciling finds the lifecycle of every listed broker alive.
`Listed.lifecycles_reconcile` gives all lifecycles afterwards in one equation: those
there were, with new filters or removed, and then one for each new broker.
-/

namespace PricePublisher

open Keyed (Ascending)

namespace Lifecycle

/-- A lifecycle whose broker is removed. -/
def removed (lifecycle : Lifecycle) : Lifecycle :=
  { lifecycle with isRemoved := true }

/-- A lifecycle with the filter that a list has for its broker, unless it was removed. -/
def adopted (listed : Registry.Subscriptions) (lifecycle : Lifecycle) : Lifecycle :=
  if lifecycle.isRemoved then lifecycle
  else
    match Keyed.get? listed lifecycle.url with
    | none => lifecycle
    | some filter => { lifecycle with filter := filter }

/-- A lifecycle after reconciling with a list. -/
def reconciled (listed : Registry.Subscriptions) (lifecycle : Lifecycle) : Lifecycle :=
  if Keyed.contains listed lifecycle.url then lifecycle.adopted listed
  else lifecycle.removed

variable {lifecycle : Lifecycle} {listed : Registry.Subscriptions}

@[simp]
theorem adopted_nil (lifecycle : Lifecycle) :
    lifecycle.adopted [] = lifecycle := by
  simp [adopted]

theorem adopted_of_isRemoved
    (gone : lifecycle.isRemoved = true) (listed : Registry.Subscriptions) :
    lifecycle.adopted listed = lifecycle := by
  rw [adopted, if_pos gone]

theorem adopted_of_not_listed (absent : Keyed.get? listed lifecycle.url = none) :
    lifecycle.adopted listed = lifecycle := by
  simp [adopted, absent]

theorem adopted_of_listed
    (active : lifecycle.isRemoved = false)
    {filter : AssetFilter} (found : Keyed.get? listed lifecycle.url = some filter) :
    lifecycle.adopted listed = { lifecycle with filter := filter } := by
  simp [adopted, active, found]

@[simp]
theorem adopted_url (listed : Registry.Subscriptions) (lifecycle : Lifecycle) :
    (lifecycle.adopted listed).url = lifecycle.url := by
  unfold adopted
  split
  · rfl
  · split <;> rfl

@[simp]
theorem adopted_phase (listed : Registry.Subscriptions) (lifecycle : Lifecycle) :
    (lifecycle.adopted listed).phase = lifecycle.phase := by
  unfold adopted
  split
  · rfl
  · split <;> rfl

@[simp]
theorem adopted_isRemoved (listed : Registry.Subscriptions) (lifecycle : Lifecycle) :
    (lifecycle.adopted listed).isRemoved = lifecycle.isRemoved := by
  unfold adopted
  split
  · rfl
  · split <;> rfl

theorem adopted_singleton (entry : String × AssetFilter) (lifecycle : Lifecycle) :
    lifecycle.adopted [entry] =
      if lifecycle.url = entry.1 ∧ lifecycle.isRemoved = false then
        { lifecycle with filter := entry.2 }
      else lifecycle := by
  cases gone : lifecycle.isRemoved with
  | true => simp [adopted, gone]
  | false => by_cases same : lifecycle.url = entry.1 <;> simp [adopted, gone, Keyed.get?_cons, same]

theorem removed_of_isRemoved (gone : lifecycle.isRemoved = true) :
    lifecycle.removed = lifecycle := by
  cases lifecycle with
  | mk url filter isRemoved phase =>
      cases gone
      rfl

/-- Entries of a list are adopted one after the other. -/
theorem adopted_cons
    {entry : String × AssetFilter} (fresh : Keyed.get? listed entry.1 = none)
    (lifecycle : Lifecycle) :
    lifecycle.adopted (entry :: listed) = (lifecycle.adopted [entry]).adopted listed := by
  cases gone : lifecycle.isRemoved with
  | true => simp only [adopted_of_isRemoved gone]
  | false =>
      by_cases same : lifecycle.url = entry.1
      · have first : lifecycle.adopted [entry] = { lifecycle with filter := entry.2 } :=
          adopted_of_listed gone (by rw [Keyed.get?_cons, if_pos same])
        have both : lifecycle.adopted (entry :: listed) =
            { lifecycle with filter := entry.2 } :=
          adopted_of_listed gone (by rw [Keyed.get?_cons, if_pos same])
        have nothing : Keyed.get? listed
            ({ lifecycle with filter := entry.2 } : Lifecycle).url = none :=
          same ▸ fresh
        rw [first, both, adopted_of_not_listed nothing]
      · have first : lifecycle.adopted [entry] = lifecycle :=
          adopted_of_not_listed (by rw [Keyed.get?_cons, if_neg same, Keyed.get?_nil])
        rw [first]
        simp only [adopted, gone, Keyed.get?_cons, if_neg same]

end Lifecycle

namespace ConnectionManager

variable {manager next : ConnectionManager}

/-- The broker of a lifecycle that has not been removed. -/
def activeUrl? (manager : ConnectionManager) (number : Nat) : Option String := do
  let lifecycle ← manager.lifecycles[number]?
  if lifecycle.isRemoved then none else some lifecycle.url

theorem activeUrl?_eq_some_iff
    {number : Nat} {url : String} :
    manager.activeUrl? number = some url ↔
      ∃ lifecycle, manager.lifecycles[number]? = some lifecycle ∧
        lifecycle.url = url ∧ lifecycle.isRemoved = false := by
  unfold activeUrl?
  constructor
  · intro active
    obtain ⟨lifecycle, found, rest⟩ := Option.bind_eq_some_iff.mp active
    obtain ⟨alive, same⟩ := Option.ite_none_left_eq_some.mp rest
    exact ⟨lifecycle, found, Option.some.inj same, Bool.eq_false_of_not_eq_true alive⟩
  · rintro ⟨lifecycle, found, rfl, alive⟩
    rw [found]
    exact if_neg (Bool.eq_false_iff.mp alive)

theorem activeUrl?_start
    (manager : ConnectionManager) (url : String) (filter : AssetFilter) (number : Nat) :
    (manager.start url filter).activeUrl? number =
      if number = manager.lifecycles.length then some url else manager.activeUrl? number := by
  unfold activeUrl?
  change ((manager.lifecycles ++ [.started url filter])[number]?).bind _ = _
  rcases Nat.lt_trichotomy number manager.lifecycles.length with inside | last | beyond
  · rw [List.getElem?_append_left inside, if_neg (Nat.ne_of_lt inside)]
    rfl
  · rw [last, List.getElem?_concat_length, if_pos rfl]
    rfl
  · rw [if_neg (Nat.ne_of_gt beyond), List.getElem?_eq_none (Nat.le_of_lt beyond),
      List.getElem?_eq_none]
    · rfl
    · rw [List.length_append, List.length_singleton]
      exact beyond

/-- The lifecycles that a list of brokers causes to be started. -/
def startedFor (manager : ConnectionManager) (desired : Registry.Subscriptions) :
    List Lifecycle :=
  (desired.filter fun entry => !Keyed.contains manager.tracked entry.1).map fun entry =>
    .started entry.1 entry.2

/-- The listed brokers are those with a lifecycle that is neither removed nor at its end. -/
structure Listed (manager : ConnectionManager) : Prop where
  ascending : Ascending manager.tracked
  running : manager.isShutDown = false
  active : ∀ (url : String) (number : Nat),
    Keyed.get? manager.tracked url = some number ↔ manager.activeUrl? number = some url
  removed : ∀ (number : Nat) (lifecycle : Lifecycle),
    manager.lifecycles[number]? = some lifecycle →
    lifecycle.phase = .ended → lifecycle.isRemoved = true

theorem listed_fresh
    (publisherKey : String) (auth : Option String) (reconnectDelay : Duration) :
    Listed (fresh publisherKey auth reconnectDelay) where
  ascending := Keyed.ascending_nil
  running := rfl
  active := fun _ _ => Iff.intro nofun nofun
  removed := nofun

namespace Listed

/-- The lifecycle of a listed broker. -/
theorem exists_lifecycle
    (listed : manager.Listed) {url : String} {number : Nat}
    (tracked : Keyed.get? manager.tracked url = some number) :
    ∃ lifecycle, manager.lifecycles[number]? = some lifecycle ∧
      lifecycle.url = url ∧ lifecycle.isRemoved = false :=
  activeUrl?_eq_some_iff.mp ((listed.active url number).mp tracked)

/-- The lifecycles of a broker that is not listed have been removed. -/
theorem isRemoved_of_untracked
    (listed : manager.Listed) {lifecycle : Lifecycle}
    (member : lifecycle ∈ manager.lifecycles)
    (untracked : Keyed.get? manager.tracked lifecycle.url = none) :
    lifecycle.isRemoved = true := by
  obtain ⟨number, found⟩ := List.mem_iff_getElem?.mp member
  by_contra alive
  have active : manager.activeUrl? number = some lifecycle.url :=
    activeUrl?_eq_some_iff.mpr ⟨lifecycle, found, rfl, Bool.eq_false_of_not_eq_true alive⟩
  rw [(listed.active _ number).mpr active] at untracked
  cases untracked

/-- Of the lifecycles of one broker, all but the listed one have been removed. -/
theorem number_eq
    (listed : manager.Listed) {url : String} {number other : Nat} {lifecycle : Lifecycle}
    (tracked : Keyed.get? manager.tracked url = some number)
    (found : manager.lifecycles[other]? = some lifecycle)
    (same : lifecycle.url = url) (alive : lifecycle.isRemoved = false) :
    number = other := by
  have active : manager.activeUrl? other = some url :=
    activeUrl?_eq_some_iff.mpr ⟨lifecycle, found, same, alive⟩
  rw [(listed.active url other).mpr active] at tracked
  exact (Option.some.inj tracked).symm

/-- The lifecycle of a listed broker is running. -/
theorem isRunning_eq (listed : manager.Listed) (url : String) :
    manager.isRunning url = Keyed.contains manager.tracked url := by
  rw [Keyed.contains_eq_isSome, isRunning, lifecycleOf?]
  cases tracked : Keyed.get? manager.tracked url with
  | none => rfl
  | some number =>
      obtain ⟨lifecycle, found, _, alive⟩ := listed.exists_lifecycle tracked
      have unended : lifecycle.hasEnded = false := by
        refine decide_eq_false fun ended => ?_
        rw [listed.removed number lifecycle found ended] at alive
        cases alive
      simp [found, unended]

/-- What changes neither the list nor the removals keeps brokers listed. -/
theorem of_active
    (listed : manager.Listed)
    (tracked : next.tracked = manager.tracked)
    (running : next.isShutDown = manager.isShutDown)
    (active : ∀ number, next.activeUrl? number = manager.activeUrl? number)
    (removed : ∀ (number : Nat) (lifecycle : Lifecycle),
      next.lifecycles[number]? = some lifecycle →
      lifecycle.phase = .ended → lifecycle.isRemoved = true) :
    next.Listed where
  ascending := tracked ▸ listed.ascending
  running := running.trans listed.running
  active := by
    intro url number
    rw [tracked, active]
    exact listed.active url number
  removed := removed

/-! ## Starting, updating and removing -/

/-- Changing the lifecycle of a listed broker changes all that were not removed. -/
theorem modify_of_tracked
    (listed : manager.Listed) {url : String} {number : Nat}
    (tracked : Keyed.get? manager.tracked url = some number)
    (change : Lifecycle → Lifecycle) :
    manager.lifecycles.modify number change =
      manager.lifecycles.map fun lifecycle =>
        if lifecycle.url = url ∧ lifecycle.isRemoved = false then change lifecycle
        else lifecycle := by
  apply List.ext_getElem?
  intro other
  rw [List.getElem?_modify, List.getElem?_map]
  cases found : manager.lifecycles[other]? with
  | none => rfl
  | some lifecycle =>
      have condition : number = other ↔
          lifecycle.url = url ∧ lifecycle.isRemoved = false := by
        constructor
        · rintro rfl
          obtain ⟨current, present, same_url, alive⟩ := listed.exists_lifecycle tracked
          rw [found] at present
          cases present
          exact ⟨same_url, alive⟩
        · rintro ⟨same_url, alive⟩
          exact listed.number_eq tracked found same_url alive
      simp only [Option.map_eq_map, Option.map_some, condition]

/-- No lifecycle of a broker that is not listed is changed. -/
theorem map_of_untracked
    (listed : manager.Listed) {url : String}
    (untracked : Keyed.get? manager.tracked url = none)
    (change : Lifecycle → Lifecycle) :
    (manager.lifecycles.map fun lifecycle =>
        if lifecycle.url = url ∧ lifecycle.isRemoved = false then change lifecycle
        else lifecycle) =
      manager.lifecycles := by
  refine (List.map_congr_left fun lifecycle member => if_neg ?_).trans (List.map_id _)
  rintro ⟨same_url, alive⟩
  rw [listed.isRemoved_of_untracked member (same_url ▸ untracked)] at alive
  cases alive

/-- A broker that is listed already gets another filter. -/
theorem adopt_of_tracked
    (listed : manager.Listed) {entry : String × AssetFilter} {number : Nat}
    (tracked : Keyed.get? manager.tracked entry.1 = some number) :
    manager.adopt entry =
      { manager with lifecycles := manager.lifecycles.map (Lifecycle.adopted [entry]) } := by
  have runs : manager.isRunning entry.1 = true := by
    rw [listed.isRunning_eq]
    exact Keyed.contains_iff_exists.mpr ⟨number, tracked⟩
  simp only [adopt, if_pos runs, replaceFilter, tracked, listed.modify_of_tracked tracked,
    ← Lifecycle.adopted_singleton]

/-- For a broker that is not listed a lifecycle is started. -/
theorem adopt_of_untracked
    (listed : manager.Listed) {entry : String × AssetFilter}
    (untracked : Keyed.get? manager.tracked entry.1 = none) :
    manager.adopt entry = manager.start entry.1 entry.2 := by
  have runs : ¬ manager.isRunning entry.1 = true := by
    rw [listed.isRunning_eq, Keyed.contains_eq_false_iff.mpr untracked]
    exact Bool.false_ne_true
  rw [adopt, if_neg runs]

theorem start
    (listed : manager.Listed) {url : String} (filter : AssetFilter)
    (untracked : Keyed.get? manager.tracked url = none) :
    (manager.start url filter).Listed where
  ascending := listed.ascending.insert _ _
  running := listed.running
  active := by
    intro other number
    change Keyed.get? (Keyed.insert url manager.lifecycles.length manager.tracked) other =
      some number ↔ _
    rw [Keyed.get?_insert, activeUrl?_start]
    by_cases same : other = url
    · subst same
      rw [if_pos rfl]
      by_cases last : number = manager.lifecycles.length
      · simp [last]
      · have inactive : manager.activeUrl? number ≠ some other := by
          rw [Ne, ← listed.active, untracked]
          nofun
        simp [last, Ne.symm last, inactive]
    · rw [if_neg same, listed.active]
      by_cases last : number = manager.lifecycles.length
      · subst last
        have beyond : manager.activeUrl? manager.lifecycles.length = none := by
          rw [activeUrl?, List.getElem?_eq_none (Nat.le_refl _)]
          rfl
        simp [beyond, Ne.symm same]
      · rw [if_neg last]
  removed := by
    intro number lifecycle found ended
    rcases Positions.concat_cases found with ⟨_, rfl⟩ | before
    · cases ended
    · exact listed.removed number lifecycle before ended

theorem adopt (listed : manager.Listed) (entry : String × AssetFilter) :
    (manager.adopt entry).Listed := by
  cases tracked : Keyed.get? manager.tracked entry.1 with
  | none =>
      rw [listed.adopt_of_untracked tracked]
      exact listed.start entry.2 tracked
  | some number =>
      rw [listed.adopt_of_tracked tracked]
      refine listed.of_active rfl rfl ?_ ?_
      · intro other
        simp only [activeUrl?, List.getElem?_map]
        cases manager.lifecycles[other]? with
        | none => rfl
        | some lifecycle =>
            simp only [Option.map_some, Option.bind_eq_bind, Option.bind_some,
              Lifecycle.adopted_isRemoved, Lifecycle.adopted_url]
      · intro other lifecycle found ended
        rw [List.getElem?_map] at found
        obtain ⟨before, present, equal⟩ := Option.map_eq_some_iff.mp found
        rw [← equal, Lifecycle.adopted_phase] at ended
        rw [← equal, Lifecycle.adopted_isRemoved]
        exact listed.removed other before present ended

/-- Removing a broker removes all its lifecycles. -/
theorem removeBroker_eq
    (listed : manager.Listed) (url : String) :
    manager.removeBroker url =
      { manager with
        lifecycles := manager.lifecycles.map fun lifecycle =>
          if lifecycle.url = url then lifecycle.removed else lifecycle
        tracked := Keyed.erase url manager.tracked } := by
  -- Removing a lifecycle again changes nothing, so only the active one counts.
  have lifecycles_eq :
      (manager.lifecycles.map fun lifecycle =>
        if lifecycle.url = url then lifecycle.removed else lifecycle) =
      manager.lifecycles.map fun lifecycle =>
        if lifecycle.url = url ∧ lifecycle.isRemoved = false then lifecycle.removed
        else lifecycle := by
    refine List.map_congr_left fun lifecycle _ => ?_
    cases gone : lifecycle.isRemoved with
    | true => simp [Lifecycle.removed_of_isRemoved gone]
    | false => simp
  cases tracked : Keyed.get? manager.tracked url with
  | none =>
      have absent : Keyed.erase url manager.tracked = manager.tracked := by
        refine List.filter_eq_self.mpr fun entry member => ?_
        exact bne_iff_ne.mpr (Ne.symm (Keyed.get?_eq_none_iff.mp tracked entry member))
      simp only [removeBroker, tracked, lifecycles_eq, listed.map_of_untracked tracked, absent]
  | some number =>
      simp only [removeBroker, tracked, lifecycles_eq]
      rw [← listed.modify_of_tracked tracked]
      rfl

theorem cases_of_removing
    {lifecycles : List Lifecycle} {url : String} {number : Nat} {later : Lifecycle}
    (found : (lifecycles.map fun lifecycle =>
        if lifecycle.url = url then lifecycle.removed else lifecycle)[number]? = some later) :
    (later.url = url ∧ later.isRemoved = true) ∨
      (later.url ≠ url ∧ lifecycles[number]? = some later) := by
  rw [List.getElem?_map] at found
  obtain ⟨before, present, equal⟩ := Option.map_eq_some_iff.mp found
  by_cases same : before.url = url
  · rw [if_pos same] at equal
    exact .inl (equal ▸ ⟨same, rfl⟩)
  · rw [if_neg same] at equal
    exact .inr (equal ▸ ⟨same, present⟩)

theorem removeBroker (listed : manager.Listed) (url : String) :
    (manager.removeBroker url).Listed := by
  rw [listed.removeBroker_eq]
  constructor
  · exact listed.ascending.erase url
  · exact listed.running
  · intro other number
    rw [Keyed.get?_erase, activeUrl?_eq_some_iff]
    by_cases same : other = url
    · simp only [same, if_true, reduceCtorEq, false_iff]
      rintro ⟨later, found, same_url, alive⟩
      rcases cases_of_removing found with ⟨_, gone⟩ | ⟨different, _⟩
      · rw [gone] at alive
        cases alive
      · exact different same_url
    · rw [if_neg same, listed.active, activeUrl?_eq_some_iff]
      constructor
      · rintro ⟨lifecycle, found, rfl, alive⟩
        refine ⟨lifecycle, ?_, rfl, alive⟩
        rw [List.getElem?_map, found, Option.map_some, if_neg same]
      · rintro ⟨later, found, rfl, alive⟩
        rcases cases_of_removing found with ⟨removed, _⟩ | ⟨_, before⟩
        · exact absurd removed same
        · exact ⟨later, before, rfl, alive⟩
  · intro number later found ended
    rcases cases_of_removing found with ⟨_, gone⟩ | ⟨_, before⟩
    · exact gone
    · exact listed.removed number later before ended

/-! ## Reconciling -/

theorem foldl_adopt
    (listed : manager.Listed) (desired : Registry.Subscriptions) :
    (desired.foldl ConnectionManager.adopt manager).Listed :=
  List.foldlRecOn desired _ listed fun _ before entry _ => before.adopt entry

theorem foldl_removeBroker
    (listed : manager.Listed) (urls : List String) :
    (urls.foldl ConnectionManager.removeBroker manager).Listed :=
  List.foldlRecOn urls _ listed fun _ before url _ => before.removeBroker url

theorem reconcile
    (listed : manager.Listed) (desired : Registry.Subscriptions) :
    (manager.reconcile desired).2.Listed :=
  (listed.foldl_adopt desired).foldl_removeBroker _

theorem lifecycles_foldl_adopt
    (listed : manager.Listed)
    {desired : Registry.Subscriptions} (distinct : (Keyed.keys desired).Nodup) :
    (desired.foldl ConnectionManager.adopt manager).lifecycles =
      manager.lifecycles.map (Lifecycle.adopted desired) ++
        manager.startedFor desired := by
  induction desired generalizing manager with
  | nil =>
      have unchanged : Lifecycle.adopted [] = id := funext Lifecycle.adopted_nil
      simp [startedFor, unchanged]
  | cons entry rest induction =>
      -- The other entries neither update nor start what the first one does.
      obtain ⟨absent, distinct⟩ := List.nodup_cons.mp distinct
      have fresh : Keyed.get? rest entry.1 = none := by
        rw [Keyed.get?_eq_none_iff]
        intro other member same
        exact absent (same ▸ List.mem_map_of_mem member)
      have composed : Lifecycle.adopted rest ∘ Lifecycle.adopted [entry] =
          Lifecycle.adopted (entry :: rest) :=
        funext fun lifecycle => (Lifecycle.adopted_cons fresh lifecycle).symm
      rw [List.foldl_cons, induction (listed.adopt entry) distinct]
      cases tracked : Keyed.get? manager.tracked entry.1 with
      | some number =>
          have known : Keyed.contains manager.tracked entry.1 = true :=
            Keyed.contains_iff_exists.mpr ⟨number, tracked⟩
          rw [listed.adopt_of_tracked tracked]
          simp only [List.map_map, composed, startedFor, List.filter_cons, known,
            Bool.not_true, Bool.false_eq_true, if_false]
      | none =>
          have unknown : Keyed.contains manager.tracked entry.1 = false :=
            Keyed.contains_eq_false_iff.mpr tracked
          have kept : manager.lifecycles.map (Lifecycle.adopted (entry :: rest)) =
              manager.lifecycles.map (Lifecycle.adopted rest) := by
            have single := funext (Lifecycle.adopted_singleton entry)
            rw [← composed, ← List.map_map, single, listed.map_of_untracked tracked]
          have begun : (Lifecycle.started entry.1 entry.2).adopted rest =
              .started entry.1 entry.2 :=
            Lifecycle.adopted_of_not_listed fresh
          have others : (manager.start entry.1 entry.2).startedFor rest =
              manager.startedFor rest := by
            refine congrArg _ (List.filter_congr fun other member => ?_)
            have different : other.1 ≠ entry.1 := by
              intro same
              exact absent (same ▸ List.mem_map_of_mem member)
            change (!Keyed.contains (Keyed.insert _ _ _) other.1) = _
            rw [Keyed.contains_eq_isSome, Keyed.get?_insert, if_neg different,
              ← Keyed.contains_eq_isSome]
          rw [listed.adopt_of_untracked tracked, others, kept]
          simp [ConnectionManager.start, startedFor, begun, unknown]

theorem lifecycles_foldl_removeBroker
    (listed : manager.Listed) (urls : List String) :
    (urls.foldl ConnectionManager.removeBroker manager).lifecycles =
      manager.lifecycles.map fun lifecycle =>
        if lifecycle.url ∈ urls then lifecycle.removed else lifecycle := by
  induction urls generalizing manager with
  | nil => simp
  | cons url rest induction =>
      rw [List.foldl_cons, induction (listed.removeBroker url), listed.removeBroker_eq,
        List.map_map]
      refine List.map_congr_left fun lifecycle _ => ?_
      by_cases same : lifecycle.url = url
      · by_cases later : url ∈ rest <;>
          simp [same, later, Lifecycle.removed]
      · simp [same]

/-- All lifecycles after a reconciliation: those there were, and one for each new broker. -/
theorem lifecycles_reconcile
    (listed : manager.Listed)
    {desired : Registry.Subscriptions} (distinct : (Keyed.keys desired).Nodup) :
    (manager.reconcile desired).2.lifecycles =
      manager.lifecycles.map (Lifecycle.reconciled desired) ++
        manager.startedFor desired := by
  have dropped : ∀ url, url ∈ (manager.summarize desired).removed ↔
      Keyed.contains manager.tracked url = true ∧ Keyed.contains desired url = false := by
    intro url
    rw [summarize, List.mem_filter, Bool.not_eq_true', trackedBrokers,
      Keyed.contains_iff_mem_keys]
  change ((manager.summarize desired).removed.foldl ConnectionManager.removeBroker
    (desired.foldl ConnectionManager.adopt manager)).lifecycles = _
  rw [(listed.foldl_adopt desired).lifecycles_foldl_removeBroker,
    listed.lifecycles_foldl_adopt distinct, List.map_append, List.map_map]
  refine congrArg₂ _ (List.map_congr_left fun lifecycle member => ?_) ?_
  · simp only [Function.comp_apply, Lifecycle.adopted_url, dropped, Lifecycle.reconciled]
    cases known : Keyed.contains desired lifecycle.url with
    | true => simp
    | false =>
        have unchanged : lifecycle.adopted desired = lifecycle :=
          Lifecycle.adopted_of_not_listed (Keyed.contains_eq_false_iff.mp known)
        rw [unchanged]
        cases tracked : Keyed.contains manager.tracked lifecycle.url with
        | true => simp
        | false =>
            have gone : lifecycle.isRemoved = true :=
              listed.isRemoved_of_untracked member (Keyed.contains_eq_false_iff.mp tracked)
            simp [Lifecycle.removed_of_isRemoved gone]
  · refine (List.map_congr_left fun lifecycle member => if_neg ?_).trans (List.map_id _)
    obtain ⟨entry, listedEntry, rfl⟩ := List.mem_map.mp member
    have known : Keyed.contains desired entry.1 = true :=
      Keyed.contains_iff_mem_keys.mpr
        (List.mem_map_of_mem (List.mem_filter.mp listedEntry).1)
    rw [dropped]
    rintro ⟨_, unknown⟩
    change Keyed.contains desired entry.1 = false at unknown
    rw [known] at unknown
    cases unknown

/-! ## What happens between reconciliations -/

theorem turned
    (listed : manager.Listed) {number : Nat} {lifecycle : Lifecycle} {step : LifecycleStep}
    {table : BrokerTable} {phase : LifecyclePhase}
    (found : manager.lifecycles[number]? = some lifecycle)
    (turn : Turn manager lifecycle step table phase) :
    (manager.turned number table phase).Listed := by
  refine listed.of_active rfl rfl ?_ ?_
  · intro other
    rw [activeUrl?, activeUrl?, getElem?_turned]
    cases manager.lifecycles[other]? with
    | none => rfl
    | some current =>
        simp only [Option.map_some, Option.bind_eq_bind, Option.bind_some]
        split <;> rfl
  · intro other later after ended
    rcases turned_cases found after with ⟨rfl, rfl⟩ | ⟨_, before⟩
    · have cancelled := turn.cancelled_of_ended ended
      rw [isCancelled, listed.running, Bool.or_false] at cancelled
      exact cancelled
    · exact listed.removed other later before ended

theorem move
    (listed : manager.Listed) {move : ManagerMove}
    (effect : MoveEffect manager move next) (open_ : move ≠ .shutDown) :
    next.Listed := by
  cases effect with
  | reconciled desired => exact listed.reconcile desired
  | stepped number step lifecycle table phase found turn => exact listed.turned found turn
  | broadcast now batch => exact listed.of_active rfl rfl (fun _ => rfl) listed.removed
  | wrote number connection => exact listed.of_active rfl rfl (fun _ => rfl) listed.removed
  | shutDown => exact absurd rfl open_

end Listed

theorem Moves.listed
    {start : ConnectionManager} {past openers : List Nat}
    (moves : Moves (fun move => move ≠ .shutDown) start past manager openers)
    (listed : start.Listed) :
    manager.Listed := by
  induction moves with
  | refl => exact listed
  | move _ taken admitted induction => exact induction.move (effect_of_move? taken) admitted

end ConnectionManager

end PricePublisher
