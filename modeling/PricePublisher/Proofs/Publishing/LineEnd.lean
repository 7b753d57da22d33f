import PricePublisher.Proofs.Price.Signed
import PricePublisher.Proofs.Publishing.BatchContents
import PricePublisher.Proofs.Publishing.JobConservation

/-!
# How a signing line ends

A line that is left alone stops after a bounded number of steps, because every
step that it takes by itself leaves less to do.  If its queue is closed and its
batches are taken, nothing is left in it when it stops: the last step of the
last worker lets the batcher hand over what it holds.

The main theorem joins this with what holds in every state on the way: each
accepted job is in one place, and each batch holds what signing its jobs gave.
-/

namespace PricePublisher

namespace SigningLine

variable
  {line next : SigningLine} {history later : LineHistory} {step : SigningStep}
  {signer : Signer} {oracle : String} {workers : Nat}

/-! ## A line whose batches are taken -/

/-- The last entry of an asset in batches, of which the oldest is first. -/
def lastEntryOf (batches : List JobBatch) (asset : String) : Option SignedJob :=
  batches.reverse.findSome? fun batch => Keyed.get? batch asset

/-- The last of some results that has a given asset. -/
def lastResultOf (results : List SignedJob) (asset : String) : Option SignedJob :=
  results.reverse.find? fun result => result.signed.asset == asset

@[simp]
theorem lastEntryOf_snoc (batches : List JobBatch) (batch : JobBatch) (asset : String) :
    lastEntryOf (batches ++ [batch]) asset =
      (Keyed.get? batch asset).or (lastEntryOf batches asset) := by
  unfold lastEntryOf
  rw [List.reverse_append, List.reverse_singleton, List.singleton_append,
    List.findSome?_cons]
  cases Keyed.get? batch asset <;> rfl

theorem lastEntryOf_snoc_nil (batches : List JobBatch) (asset : String) :
    lastEntryOf (batches ++ [[]]) asset = lastEntryOf batches asset := by
  rw [lastEntryOf_snoc, Keyed.get?_nil, Option.none_or]

@[simp]
theorem lastResultOf_snoc (results : List SignedJob) (result : SignedJob) (asset : String) :
    lastResultOf (results ++ [result]) asset =
      if result.signed.asset = asset then some result else lastResultOf results asset := by
  unfold lastResultOf
  rw [List.reverse_append, List.reverse_singleton, List.singleton_append,
    List.find?_cons]
  by_cases same : result.signed.asset = asset
  · simp [same]
  · simp [same, beq_eq_false_iff_ne.mpr same]

/-- What holds of a line as long as somebody takes its batches. -/
structure Attended (line : SigningLine) (history : LineHistory) : Prop where
  /-- The batcher does not stop before the workers have. -/
  ended : line.isBatching = false →
    line.allStopped = true ∧ line.results = [] ∧ line.batch = []
  /-- The workers do not stop before the queue is closed and empty. -/
  stopped : ∀ worker : Nat, line.workers[worker]? = some .stopped →
    line.isOpen = false ∧ line.queue = []
  abandoned : history.abandoned = []
  last_entries : ∀ asset,
    lastEntryOf (line.batches ++ [line.batch]) asset =
      lastResultOf history.collectedResults asset

theorem attended_start (signer : Signer) (oracle : String) (workers : Nat) :
    Attended (fresh signer oracle workers) .empty where
  ended := by simp [fresh]
  stopped := by
    intro worker found
    obtain ⟨_, idle⟩ := List.getElem?_eq_some_iff.mp found
    simp [fresh] at idle
  abandoned := rfl
  last_entries := fun _ => rfl

/-- While a worker has not stopped, the batcher goes on. -/
theorem Attended.batching
    (attended : Attended line history)
    {worker : Nat} {state : SigningWorker}
    (found : line.workers[worker]? = some state) (active : state.isStopped = false) :
    line.isBatching = true := by
  by_contra ceased
  obtain ⟨allStopped, _, _⟩ := attended.ended (Bool.not_eq_true _ ▸ ceased)
  have stopped := List.all_eq_true.mp allStopped state (List.mem_of_getElem? found)
  rw [active] at stopped
  cases stopped

/-- The consumer does not come back. -/
theorem Effect.consumed
    (effect : Effect line history step next later) (consumed : next.hasConsumer = true) :
    line.hasConsumer = true := by
  cases effect with
  | loseConsumer => cases consumed
  | finished batching ended emptied taken => exact taken
  | _ => exact consumed

/-- Nothing but the loss of the consumer takes it away. -/
theorem Effect.consumed_of_ne
    (effect : Effect line history step next later) (kept : step ≠ .loseConsumer)
    (consumed : line.hasConsumer = true) :
    next.hasConsumer = true := by
  cases effect with
  | loseConsumer => exact absurd rfl kept
  | finished batching ended emptied _ => split <;> exact consumed
  | _ => exact consumed

theorem Attended.ended_effect
    (attended : Attended line history) (consumed : line.hasConsumer = true)
    (effect : Effect line history step next later)
    (ceased : next.isBatching = false) :
    next.allStopped = true ∧ next.results = [] ∧ next.batch = [] := by
  -- A step of a worker that has not stopped cannot come after the batcher's end.
  have active : ∀ {worker : Nat} {state : SigningWorker},
      line.workers[worker]? = some state → state.isStopped = false →
      line.isBatching = false → False := by
    intro worker state found active ceased
    rw [attended.batching found active] at ceased
    cases ceased
  cases effect with
  | take worker job rest idle queued => exact (active idle rfl ceased).elim
  | signed worker job signed signing succeeds => exact (active signing rfl ceased).elim
  | failed worker job cause signing fails => exact (active signing rfl ceased).elim
  | passed worker result passing batching => exact (active passing rfl ceased).elim
  | stopped worker idle closed drained => exact (active idle rfl ceased).elim
  | gaveUp worker result passing gone => exact (active passing rfl ceased).elim
  | collected result rest waiting batching =>
      have stillBatching : line.isBatching = false := ceased
      rw [batching] at stillBatching
      cases stillBatching
  | handedOver batching filled _ =>
      have stillBatching : line.isBatching = false := ceased
      rw [batching] at stillBatching
      cases stillBatching
  | finished batching ended emptied _ =>
      refine ⟨?_, rfl, rfl⟩
      rw [← ended]
      split <;> rfl
  | lost step batching gone =>
      rw [consumed] at gone
      cases gone
  | _ => exact attended.ended ceased

theorem Attended.stopped_effect
    (attended : Attended line history)
    (effect : Effect line history step next later)
    (worker : Nat) (found : next.workers[worker]? = some .stopped) :
    next.isOpen = false ∧ next.queue = [] := by
  have before : ∀ {changed : Nat} {state : SigningWorker}, state ≠ .stopped →
      (line.setWorker changed state).workers[worker]? = some .stopped →
      line.isOpen = false ∧ line.queue = [] := by
    intro changed state other found
    rcases Positions.set_cases found with ⟨_, same⟩ | earlier
    · exact absurd same.symm other
    · exact attended.stopped worker earlier
  cases effect with
  | accept selected isOpen =>
      have closed := (attended.stopped worker found).1
      rw [isOpen] at closed
      cases closed
  | closeQueue => exact ⟨rfl, (attended.stopped worker found).2⟩
  | take worker job rest idle queued =>
      have drained := (before (by simp) found).2
      rw [queued] at drained
      cases drained
  | signed worker job signed signing succeeds => exact before (by simp) found
  | failed worker job cause signing fails => exact before (by simp) found
  | passed worker result passing batching => exact before (by simp) found
  | stopped worker idle closed drained => exact ⟨closed, drained⟩
  | gaveUp worker result passing gone =>
      rw [attended.batching passing rfl] at gone
      cases gone
  | finished batching ended emptied _ =>
      by_cases filled : line.batch.isEmpty = true
      · simp only [filled, if_true] at found ⊢
        exact attended.stopped worker found
      · simp only [if_neg filled] at found ⊢
        exact attended.stopped worker found
  | _ => exact attended.stopped worker found

theorem Attended.abandoned_effect
    (attended : Attended line history) (consumed : line.hasConsumer = true)
    (effect : Effect line history step next later) :
    later.abandoned = [] := by
  cases effect with
  | gaveUp worker result passing gone =>
      rw [attended.batching passing rfl] at gone
      cases gone
  | lost step batching gone =>
      rw [consumed] at gone
      cases gone
  | _ => exact attended.abandoned

/-- The last entries stay the last results when batches are handed over. -/
theorem Attended.last_entries_effect
    (attended : Attended line history) (consumed : line.hasConsumer = true)
    (effect : Effect line history step next later) (asset : String) :
    lastEntryOf (next.batches ++ [next.batch]) asset =
      lastResultOf later.collectedResults asset := by
  have last := attended.last_entries asset
  cases effect with
  | collected result rest waiting batching =>
      rw [lastEntryOf_snoc] at last ⊢
      simp only [LineHistory.collectedResults, List.map_append, List.map_cons,
        List.map_nil, lastResultOf_snoc, collectResult] at last ⊢
      by_cases same : asset = result.signed.asset
      · rw [same, Keyed.get?_insert_self, if_pos rfl, Option.some_or]
      · rw [Keyed.get?_insert, if_neg same, if_neg (Ne.symm same)]
        exact last
  | handedOver batching filled _ =>
      rw [← last]
      exact lastEntryOf_snoc_nil (line.batches ++ [line.batch]) asset
  | finished batching ended emptied _ =>
      rw [← last]
      by_cases filled : line.batch = []
      · simp [filled, withoutBatcher]
      · simp only [List.isEmpty_iff, if_neg filled]
        exact lastEntryOf_snoc_nil (line.batches ++ [line.batch]) asset
  | lost step batching gone =>
      rw [consumed] at gone
      cases gone
  | _ => exact last

theorem Run.attended
    (run : Run signer oracle workers line history) (consumed : line.hasConsumer = true) :
    Attended line history := by
  induction run with
  | start => exact attended_start signer oracle workers
  | @step earlier next history step notices run taken induction =>
      have effect := effect_of_step? taken history
      have before := Effect.consumed effect consumed
      have attended := induction before
      exact ⟨attended.ended_effect before effect, attended.stopped_effect effect,
        attended.abandoned_effect before effect,
        attended.last_entries_effect before effect⟩

/-! ## A line that is left alone stops -/

/-- A line goes on for a number of steps that it takes by itself. -/
inductive LeftAlone (line : SigningLine) (history : LineHistory) :
    Nat → SigningLine → LineHistory → Prop where
  | refl : LeftAlone line history 0 line history
  | step {count : Nat} {middle next : SigningLine} {between : LineHistory}
      {step : SigningStep} {notices : List Notice}
      (before : LeftAlone line history count middle between)
      (internal : step.isInternal = true)
      (taken : middle.step? step = some (notices, next)) :
      LeftAlone line history (count + 1) next (middle.observe between step)

/-- A line has nothing to do by itself. -/
def Halted (line : SigningLine) : Prop :=
  ∀ step : SigningStep, step.isInternal = true → line.step? step = none

/-- How many steps a line can still take by itself, at most. -/
def stepsLeft (line : SigningLine) : Nat :=
  line.workers.foldr (fun worker total => workLeftOf worker + total) 0
    + 5 * line.queue.length + 2 * line.results.length + line.batch.length
    + line.isBatching.toNat

theorem stepsLeft_le_workLeft (line : SigningLine) :
    line.stepsLeft ≤ line.workLeft := by
  have flag := Bool.toNat_le line.isBatching
  unfold stepsLeft workLeft
  omega

/-- Every step that a line takes by itself leaves less to do. -/
theorem Effect.stepsLeft_lt
    (effect : Effect line history step next later) (internal : step.isInternal = true) :
    next.stepsLeft < line.stepsLeft := by
  cases effect with
  | accept selected isOpen => cases internal
  | closeQueue => cases internal
  | loseConsumer => cases internal
  | take worker job rest idle queued =>
      have changed := Positions.foldr_set_add workLeftOf idle (.signing job)
      simp only [stepsLeft, setWorker, queued, List.length_cons, workLeftOf] at changed ⊢
      omega
  | signed worker job signed signing succeeds =>
      have changed := Positions.foldr_set_add workLeftOf signing (.passing ⟨job, signed⟩)
      simp only [stepsLeft, setWorker, workLeftOf] at changed ⊢
      omega
  | failed worker job cause signing fails =>
      have changed := Positions.foldr_set_add workLeftOf signing .idle
      simp only [stepsLeft, setWorker, workLeftOf] at changed ⊢
      omega
  | passed worker result passing batching =>
      have changed := Positions.foldr_set_add workLeftOf passing .idle
      simp only [stepsLeft, setWorker, workLeftOf, List.length_append,
        List.length_singleton] at changed ⊢
      omega
  | stopped worker idle closed drained =>
      have changed := Positions.foldr_set_add workLeftOf idle .stopped
      simp only [stepsLeft, setWorker, workLeftOf] at changed ⊢
      omega
  | gaveUp worker result passing gone =>
      have changed := Positions.foldr_set_add workLeftOf passing .stopped
      simp only [stepsLeft, setWorker, workLeftOf] at changed ⊢
      omega
  | collected result rest waiting batching =>
      have grown := Keyed.length_insert_le result.signed.asset result line.batch
      simp only [stepsLeft, collectResult, waiting, List.length_cons]
      omega
  | handedOver batching filled consumed =>
      have entries := List.length_pos_iff.mpr filled
      simp only [stepsLeft, withoutBatch, List.length_nil]
      omega
  | finished batching ended emptied consumed =>
      by_cases filled : line.batch.isEmpty = true
      · simp only [stepsLeft, withoutBatcher, batching, if_pos filled, List.length_nil,
          Bool.toNat_false, Bool.toNat_true]
        omega
      · simp only [stepsLeft, withoutBatcher, withoutBatch, batching, if_neg filled,
          List.length_nil, Bool.toNat_false, Bool.toNat_true]
        omega
  | lost step batching gone =>
      simp only [stepsLeft, withoutBatcher, batching, List.length_nil, Bool.toNat_false,
        Bool.toNat_true]
      omega

theorem LeftAlone.count_add_stepsLeft_le
    {count : Nat} (alone : LeftAlone line history count next later) :
    count + next.stepsLeft ≤ line.stepsLeft := by
  induction alone with
  | refl => exact Nat.le_of_eq (Nat.zero_add _)
  | step before internal taken induction =>
      have less := (effect_of_step? taken .empty).stepsLeft_lt internal
      omega

/-- Put a step in front of the steps that a line takes by itself. -/
theorem LeftAlone.cons
    {count : Nat} {middle : SigningLine} {notices : List Notice}
    (internal : step.isInternal = true)
    (taken : line.step? step = some (notices, middle))
    (after : LeftAlone middle (line.observe history step) count next later) :
    LeftAlone line history (count + 1) next later := by
  induction after with
  | refl => exact .step .refl internal taken
  | step _ stepInternal stepTaken induction =>
      exact .step induction stepInternal stepTaken

/-- A line that is left alone can come to a halt. -/
theorem exists_halted (line : SigningLine) (history : LineHistory) :
    ∃ count next later, LeftAlone line history count next later ∧ next.Halted := by
  induction bound : line.stepsLeft using Nat.strong_induction_on
    generalizing line history with
  | h _ induction =>
      by_cases halted : line.Halted
      · exact ⟨0, line, history, .refl, halted⟩
      · unfold Halted at halted
        push Not at halted
        obtain ⟨step, internal, possible⟩ := halted
        obtain ⟨⟨notices, middle⟩, taken⟩ := Option.ne_none_iff_exists'.mp possible
        have less := (effect_of_step? taken history).stepsLeft_lt internal
        obtain ⟨count, next, later, after, halted⟩ :=
          induction _ (bound ▸ less) middle (line.observe history step) rfl
        exact ⟨count + 1, next, later, after.cons internal taken, halted⟩

theorem Run.leftAlone
    {count : Nat} (run : Run signer oracle workers line history)
    (alone : LeftAlone line history count next later) :
    Run signer oracle workers next later := by
  induction alone with
  | refl => exact run
  | step _ _ taken induction => exact .step induction taken

/-- No step that a line takes by itself opens or closes it. -/
theorem Effect.kept
    (effect : Effect line history step next later) (internal : step.isInternal = true) :
    next.isOpen = line.isOpen ∧ next.hasConsumer = line.hasConsumer := by
  cases effect with
  | accept selected isOpen => cases internal
  | closeQueue => cases internal
  | loseConsumer => cases internal
  | finished batching ended emptied consumed => split <;> exact ⟨rfl, rfl⟩
  | _ => exact ⟨rfl, rfl⟩

/-- A line that is closed stays so. -/
theorem Effect.closed
    (effect : Effect line history step next later) (closed : line.isOpen = false) :
    next.isOpen = false := by
  cases effect with
  | accept selected isOpen =>
      rw [closed] at isOpen
      cases isOpen
  | closeQueue => rfl
  | finished batching ended emptied consumed => split <;> exact closed
  | _ => exact closed

theorem LeftAlone.kept
    {count : Nat} (alone : LeftAlone line history count next later) :
    next.isOpen = line.isOpen ∧ next.hasConsumer = line.hasConsumer := by
  induction alone with
  | refl => exact ⟨rfl, rfl⟩
  | step _ internal taken induction =>
      have kept := (effect_of_step? taken .empty).kept internal
      exact ⟨kept.1.trans induction.1, kept.2.trans induction.2⟩

/-- A closed line whose workers and batcher have stopped. -/
structure HasEnded (line : SigningLine) : Prop where
  closed : line.isOpen = false
  ended : line.isBatching = false
  stopped : line.allStopped = true

/-- A line that has ended takes no step. -/
theorem HasEnded.no_effect
    (ceased : line.HasEnded) (effect : Effect line history step next later) :
    step = .closeQueue ∨ step = .loseConsumer := by
  have stopped : ∀ {worker : Nat} {state : SigningWorker},
      line.workers[worker]? = some state → state.isStopped = true := by
    intro worker state found
    exact List.all_eq_true.mp ceased.stopped state (List.mem_of_getElem? found)
  have gone : line.isBatching = true → False := by
    intro batching
    rw [ceased.ended] at batching
    cases batching
  cases effect with
  | accept selected isOpen =>
      rw [ceased.closed] at isOpen
      cases isOpen
  | closeQueue => exact .inl rfl
  | loseConsumer => exact .inr rfl
  | take worker job rest idle queued => cases stopped idle
  | signed worker job signed signing succeeds => cases stopped signing
  | failed worker job cause signing fails => cases stopped signing
  | passed worker result passing batching => cases stopped passing
  | stopped worker idle closed drained => cases stopped idle
  | gaveUp worker result passing lost => cases stopped passing
  | collected result rest waiting batching => exact (gone batching).elim
  | handedOver batching filled consumed => exact (gone batching).elim
  | finished batching ended emptied consumed => exact (gone batching).elim
  | lost step batching consumerGone => exact (gone batching).elim

/-! ## Nothing is left when a closed line stops -/

/-- A line has signed and handed over all that it can. -/
structure Settled
    (signer : Signer) (oracle : String) (line : SigningLine) (history : LineHistory) :
    Prop where
  queue : line.queue = []
  workers : ∀ worker ∈ line.workers, worker = .stopped
  results : line.results = []
  batch : line.batch = []
  /-- Every job that can be signed has been. -/
  completed : ∀ job ∈ history.accepted, ∀ signed,
    job.selected.sign signer oracle = .ok signed → ⟨job, signed⟩ ∈ history.completed
  /-- The last entry of an asset is the last complete signing of it. -/
  last_entries : ∀ asset,
    lastEntryOf line.batches asset = lastResultOf history.completed asset
  /-- So an asset with a complete signing is in some batch. -/
  handed_over : ∀ result ∈ history.completed,
    ∃ batch ∈ line.batches, ∃ last, Keyed.get? batch result.signed.asset = some last ∧
      lastResultOf history.completed result.signed.asset = some last

/-- A worker of a halted line that is closed has stopped. -/
theorem Halted.stopped
    (halted : line.Halted) (closed : line.isOpen = false)
    {worker : Nat} {state : SigningWorker} (found : line.workers[worker]? = some state) :
    state = .stopped := by
  cases state with
  | stopped => rfl
  | idle =>
      cases queued : line.queue with
      | nil =>
          have blocked := halted (.stop worker) rfl
          simp [step?, found, closed, queued] at blocked
      | cons job rest =>
          have blocked := halted (.take worker) rfl
          simp [step?, found, queued] at blocked
  | signing job =>
      have blocked := halted (.sign worker) rfl
      simp [step?, found] at blocked
  | passing result =>
      cases batching : line.isBatching with
      | false =>
          have blocked := halted (.stop worker) rfl
          simp [step?, found, batching] at blocked
      | true =>
          cases waiting : line.results with
          | nil =>
              have blocked := halted (.pass worker) rfl
              simp [step?, found, batching, hasRoomForResult, waiting,
                signingQueueCapacity] at blocked
          | cons first rest =>
              have blocked := halted .collect rfl
              simp [step?, batching, waiting] at blocked

/-- The batcher of a halted line whose workers have stopped has stopped too. -/
theorem Halted.not_batching
    (halted : line.Halted) (ended : line.allStopped = true) :
    line.isBatching = false := by
  by_contra batching
  have batching : line.isBatching = true := Bool.not_eq_false _ ▸ batching
  cases waiting : line.results with
  | nil =>
      have blocked := halted .finish rfl
      by_cases filled : line.batch = []
      · simp [step?, batching, ended, waiting, filled] at blocked
      · cases consumed : line.hasConsumer <;>
          simp [step?, batching, ended, waiting, filled, consumed] at blocked
  | cons first rest =>
      have blocked := halted .collect rfl
      simp [step?, batching, waiting] at blocked

theorem Effect.workers_length (effect : Effect line history step next later) :
    next.workers.length = line.workers.length := by
  cases effect with
  | take => exact List.length_set
  | signed => exact List.length_set
  | failed => exact List.length_set
  | passed => exact List.length_set
  | stopped => exact List.length_set
  | gaveUp => exact List.length_set
  | finished batching ended emptied consumed => split <;> rfl
  | _ => rfl

theorem Run.workers_length (run : Run signer oracle workers line history) :
    line.workers.length = workers := by
  induction run with
  | start => exact List.length_replicate
  | step _ taken induction =>
      exact (effect_of_step? taken .empty).workers_length.trans induction

/-- What was collected had been complete. -/
theorem Filed.completed_of_collected
    (filed : Filed line history) {window : Nat} {result : SignedJob}
    (collected : ⟨window, result⟩ ∈ history.collected) :
    result ∈ history.completed := by
  obtain ⟨lost, completed, _⟩ := filed.in_order
  rw [completed]
  exact List.mem_append_left _ (List.mem_map_of_mem collected)

/-- A complete signing of a job is the one that signing it gives. -/
theorem Genuine.eq_of_completed
    (genuine : Genuine signer oracle line history)
    {result : SignedJob} (completed : result ∈ history.completed)
    {signed : SignedUpdate}
    (succeeds : result.job.selected.sign signer oracle = .ok signed) :
    result = ⟨result.job, signed⟩ := by
  have same := (genuine.completed result completed).symm.trans succeeds
  rw [← Except.ok.inj same]

/-- A line that has ended while its batches were taken holds nothing. -/
theorem Run.emptied
    (positive : 0 < workers)
    (run : Run signer oracle workers line history)
    (consumed : line.hasConsumer = true) (ceased : line.HasEnded) :
    line.queue = [] ∧ (∀ worker ∈ line.workers, worker = .stopped) ∧
      line.results = [] ∧ line.batch = [] := by
  have attended := run.attended consumed
  have stopped : ∀ worker ∈ line.workers, worker = .stopped := by
    intro worker member
    have stops := List.all_eq_true.mp ceased.stopped worker member
    cases worker with
    | stopped => rfl
    | _ => cases stops
  have first : 0 < line.workers.length := run.workers_length ▸ positive
  have found := List.getElem?_eq_getElem first
  rw [stopped _ (List.getElem_mem first)] at found
  obtain ⟨_, drained⟩ := attended.stopped 0 found
  obtain ⟨_, emptied, flushed⟩ := attended.ended ceased.ended
  exact ⟨drained, stopped, emptied, flushed⟩

/-- Where a job that can be signed has come to when a line has ended. -/
theorem Run.destination
    (positive : 0 < workers)
    (run : Run signer oracle workers line history)
    (consumed : line.hasConsumer = true) (ceased : line.HasEnded)
    {job : Job} (accepted : job ∈ history.accepted)
    {signed : SignedUpdate} (succeeds : job.selected.sign signer oracle = .ok signed) :
    (∃ overwritten ∈ history.overwritten, overwritten.old = ⟨job, signed⟩) ∨
      ∃ batch ∈ line.batches, (signed.asset, ⟨job, signed⟩) ∈ batch := by
  obtain ⟨drained, stopped, emptied, flushed⟩ := run.emptied positive consumed ceased
  have filed := run.filed
  have genuine := run.genuine
  obtain ⟨place, placed, _⟩ := run.conserved.existsUnique_place accepted
  cases place with
  | queued => simp [jobsAt, drained] at placed
  | held worker =>
      cases found : line.workers[worker]? with
      | none => simp [jobsAt, found] at placed
      | some state =>
          have ended := stopped state (List.mem_of_getElem? found)
          simp [jobsAt, found, ended, SigningWorker.jobs] at placed
  | signed => simp [jobsAt, emptied] at placed
  | openBatch => simp [jobsAt, flushed, JobBatch.jobs] at placed
  | handedOver index =>
      cases found : line.batches[index]? with
      | none => simp [jobsAt, found] at placed
      | some batch =>
          simp only [jobsAt, found, Option.elim_some] at placed
          obtain ⟨entry, member, rfl⟩ := List.mem_map.mp placed
          have collectedIn := (filed.batches index batch found).2
          have completed := filed.completed_of_collected (collectedIn.collected entry member)
          have same := genuine.eq_of_completed completed succeeds
          have asset := collectedIn.filed entry member
          refine .inr ⟨batch, List.mem_of_getElem? found, ?_⟩
          rw [← same]
          rw [same] at asset
          rw [← asset]
          exact member
  | failed =>
      obtain ⟨cause, fails⟩ := genuine.failed job placed
      rw [fails] at succeeds
      cases succeeds
  | overwritten =>
      obtain ⟨overwritten, member, rfl⟩ := List.mem_map.mp placed
      have completed := filed.completed_of_collected
        (filed.overwritten overwritten member).old_collected
      exact .inl ⟨overwritten, member, genuine.eq_of_completed completed succeeds⟩
  | abandoned =>
      have none : job ∈ history.abandoned := placed
      rw [(run.attended consumed).abandoned] at none
      cases none

/-- When a line has ended, each job that can be signed is complete. -/
theorem Run.completed_of_hasEnded
    (positive : 0 < workers)
    (run : Run signer oracle workers line history)
    (consumed : line.hasConsumer = true) (ceased : line.HasEnded)
    {job : Job} (accepted : job ∈ history.accepted)
    {signed : SignedUpdate} (succeeds : job.selected.sign signer oracle = .ok signed) :
    ⟨job, signed⟩ ∈ history.completed := by
  have filed := run.filed
  rcases run.destination positive consumed ceased accepted succeeds with
    ⟨overwritten, member, same⟩ | ⟨batch, handedOver, member⟩
  · rw [← same]
    exact filed.completed_of_collected (filed.overwritten overwritten member).old_collected
  · obtain ⟨index, found⟩ := List.mem_iff_getElem?.mp handedOver
    exact filed.completed_of_collected
      ((filed.batches index batch found).2.collected _ member)

/-- A closed line that has come to a halt has ended. -/
theorem Halted.hasEnded
    (halted : line.Halted) (closed : line.isOpen = false) :
    line.HasEnded := by
  have ended : line.allStopped = true := by
    refine List.all_eq_true.mpr ?_
    intro worker member
    obtain ⟨index, found⟩ := List.mem_iff_getElem?.mp member
    rw [halted.stopped closed found]
    rfl
  exact ⟨closed, halted.not_batching ended, ended⟩

/-- Nothing is left in a closed line that has come to a halt. -/
theorem Run.settled
    (positive : 0 < workers)
    (run : Run signer oracle workers line history)
    (closed : line.isOpen = false) (consumed : line.hasConsumer = true)
    (halted : line.Halted) :
    Settled signer oracle line history := by
  have ceased := halted.hasEnded closed
  obtain ⟨drained, stopped, emptied, flushed⟩ := run.emptied positive consumed ceased
  have last_entries : ∀ asset,
      lastEntryOf line.batches asset = lastResultOf history.completed asset := by
    intro asset
    have last := (run.attended consumed).last_entries asset
    rw [flushed, lastEntryOf_snoc_nil] at last
    rw [last, run.filed.completed_eq (.inr consumed), emptied, List.append_nil]
  refine ⟨drained, stopped, emptied, flushed, ?_, last_entries, ?_⟩
  · intro job accepted signed succeeds
    exact run.completed_of_hasEnded positive consumed ceased accepted succeeds
  · intro result completed
    have some_last :
        (lastResultOf history.completed result.signed.asset).isSome = true := by
      refine List.find?_isSome.mpr ⟨result, List.mem_reverse.mpr completed, ?_⟩
      exact beq_self_eq_true _
    obtain ⟨last, found⟩ := Option.isSome_iff_exists.mp some_last
    have entry := (last_entries result.signed.asset).trans found
    obtain ⟨batch, member, held⟩ := List.exists_of_findSome?_eq_some entry
    exact ⟨batch, List.mem_reverse.mp member, last, held, found⟩

/-! ## What a line guarantees -/

/--
Each accepted job is in one place and there once, and what makes it be there is
as the place says.
-/
structure Accounted
    (signer : Signer) (oracle : String) (line : SigningLine) (history : LineHistory) :
    Prop where
  one_place : ∀ job ∈ history.accepted, ∃! place, job ∈ line.jobsAt history place
  once : ∀ place, (line.jobsAt history place).Nodup
  accepted : ∀ place, ∀ job ∈ line.jobsAt history place, job ∈ history.accepted
  failed : ∀ job ∈ history.failed,
    ∃ cause, job.selected.sign signer oracle = .error cause
  overwritten : ∀ overwritten ∈ history.overwritten, overwritten.Justified history
  /-- Nothing is lost with the batcher while its batches are taken. -/
  abandoned : line.hasConsumer = true → history.abandoned = []
  batches : ∀ batch ∈ line.batches, batch ≠ [] ∧ ∀ entry ∈ batch,
    entry.1 = entry.2.signed.asset ∧ entry.2.job ∈ history.accepted ∧
      entry.2.Succeeds signer oracle ∧
      entry.2.signed.MadeFrom entry.2.job.selected signer oracle

theorem Run.accounted (run : Run signer oracle workers line history) :
    Accounted signer oracle line history where
  one_place := fun _ accepted => run.conserved.existsUnique_place accepted
  once := run.conserved.nodup_jobsAt
  accepted := fun _ _ placed => run.conserved.accepted_of_placed placed
  failed := run.genuine.failed
  overwritten := run.filed.overwritten
  abandoned := fun consumed => (run.attended consumed).abandoned
  batches := by
    intro batch member
    obtain ⟨index, found⟩ := List.mem_iff_getElem?.mp member
    obtain ⟨filled, collectedIn⟩ := run.filed.batches index batch found
    refine ⟨filled, fun entry entered => ?_⟩
    have placed : entry.2.job ∈ line.jobsAt history (.handedOver index) := by
      simp only [jobsAt, found, Option.elim_some]
      exact List.mem_map_of_mem entered
    have completed :=
      run.filed.completed_of_collected (collectedIn.collected entry entered)
    have succeeds := run.genuine.completed entry.2 completed
    exact ⟨collectedIn.filed entry entered, run.conserved.accepted_of_placed placed,
      succeeds, SignedUpdate.madeFrom succeeds⟩

/--
In every state of a signing line each accepted job is accounted for.  A line
that is left alone takes a bounded number of steps; if it is closed and its
batches are taken, it can come to a halt, and wherever it does, all that can be
signed has been handed over.
-/
theorem Run.accounts_for_every_job
    (positive : 0 < workers) (run : Run signer oracle workers line history) :
    Accounted signer oracle line history ∧
      (∀ count next later, LeftAlone line history count next later →
        Accounted signer oracle next later ∧ count ≤ line.workLeft) ∧
      (line.isOpen = false → line.hasConsumer = true →
        (∃ count next later, LeftAlone line history count next later ∧ next.Halted) ∧
        ∀ count next later, LeftAlone line history count next later → next.Halted →
          Settled signer oracle next later) := by
  refine ⟨run.accounted, ?_, ?_⟩
  · intro count next later alone
    have bound := alone.count_add_stepsLeft_le
    have enough := line.stepsLeft_le_workLeft
    exact ⟨(run.leftAlone alone).accounted, by omega⟩
  · intro closed consumed
    refine ⟨exists_halted line history, ?_⟩
    intro count next later alone halted
    obtain ⟨isOpen, hasConsumer⟩ := alone.kept
    exact (run.leftAlone alone).settled positive (isOpen.trans closed)
      (hasConsumer.trans consumed) halted

/-- A signer that signs whatever it is given. -/
def willingSigner : Signer where
  publisherKey := "0x01"
  scheme := .stark
  sign := fun timestamp asset _ => .ok ⟨⟨.stark "0x1" "0x2", timestamp, "0x3"⟩, asset⟩

/-- An update of one asset at a time. -/
def zeroAt (timestamp : Int) : TriggeredUpdate :=
  ⟨⟨timestamp, "BTCUSD", .zero, none⟩, .delta⟩

/-- A line that overwrites a result and then ends. -/
theorem accounts_for_an_overwritten_job :
    0 < 1 ∧ ∃ line history,
      Run willingSigner "oracle" 1 line history ∧ history.overwritten.length = 1 ∧
        Accounted willingSigner "oracle" line history ∧
        Settled willingSigner "oracle" line history := by
  have started : Run willingSigner "oracle" 1 _ _ := .start
  have first := started.step (show step? _ (.accept (zeroAt 1)) = some ([], _) from rfl)
  have second := first.step (show step? _ (.accept (zeroAt 2)) = some ([], _) from rfl)
  have taken := second.step (show step? _ (.take 0) = some ([], _) from rfl)
  have signed := taken.step (show step? _ (.sign 0) = some ([], _) from rfl)
  have passed := signed.step (show step? _ (.pass 0) = some ([], _) from rfl)
  have collected := passed.step (show step? _ .collect = some ([], _) from rfl)
  have taken := collected.step (show step? _ (.take 0) = some ([], _) from rfl)
  have signed := taken.step (show step? _ (.sign 0) = some ([], _) from rfl)
  have passed := signed.step (show step? _ (.pass 0) = some ([], _) from rfl)
  have collected := passed.step (show step? _ .collect = some ([], _) from rfl)
  have closed := collected.step (show step? _ .closeQueue = some ([], _) from rfl)
  have stopped := closed.step (show step? _ (.stop 0) = some ([], _) from rfl)
  have ended := stopped.step (show step? _ .finish = some ([], _) from rfl)
  obtain ⟨accounted, _, settles⟩ := Run.accounts_for_every_job (by decide) ended
  refine ⟨by decide, _, _, ended, rfl, accounted, ?_⟩
  refine (settles rfl rfl).2 0 _ _ .refl ?_
  intro step internal
  cases step with
  | accept => cases internal
  | closeQueue => cases internal
  | loseConsumer => cases internal
  | take worker => cases worker <;> rfl
  | sign worker => cases worker <;> rfl
  | pass worker => cases worker <;> rfl
  | stop worker => cases worker <;> rfl
  | collect => rfl
  | handOver => rfl
  | finish => rfl

end SigningLine

end PricePublisher
