import PricePublisher.Publishing.SigningLine

/-!
# The history of a signing line

A signing line forgets what it is done with: a job that cannot be signed, a
result that makes room for a later one of its asset, everything that a batcher
held whose consumer went away.  This module keeps a history beside the line, in
which all of that is written down, so that one can say where each accepted job
has come to.

A window is the time between two batches that are handed over.  It is named by
the number of batches before it.

The history only observes: it is computed from the line before a step and the
step.  `effect_of_step?` lists once what a step can do to both.
-/

namespace PricePublisher

/-- A result that was put into the open batch. -/
structure CollectedResult where
  /-- The window in which it was. -/
  window : Nat
  result : SignedJob

/-- A result that made room in the open batch for another one of its asset. -/
structure OverwrittenResult where
  old : SignedJob
  new : SignedJob
  /-- The window in which it did. -/
  window : Nat

/-- What has happened to jobs and results so far; each list has the oldest first. -/
structure LineHistory where
  accepted : List Job
  /-- The jobs whose signing has failed. -/
  failed : List Job
  /-- The signings that are complete: their results were passed on. -/
  completed : List SignedJob
  collected : List CollectedResult
  overwritten : List OverwrittenResult
  /-- The jobs that were lost with a batcher whose consumer was gone. -/
  abandoned : List Job

/-- The history before any step. -/
def LineHistory.empty : LineHistory :=
  ⟨[], [], [], [], [], []⟩

/-- The job that a worker holds. -/
def SigningWorker.jobs : SigningWorker → List Job
  | .signing job => [job]
  | .passing result => [result.job]
  | _ => []

/-- The jobs whose results are in a batch. -/
def JobBatch.jobs (batch : JobBatch) : List Job :=
  batch.map fun entry => entry.2.job

namespace SigningLine

/-- The window that a line is in. -/
def window (line : SigningLine) : Nat :=
  line.batches.length

/-- The jobs whose results the batcher holds or is yet to collect. -/
def batcherJobs (line : SigningLine) : List Job :=
  line.results.map SignedJob.job ++ line.batch.jobs

/-- What the open batch gives up for a result. -/
def overwrittenBy (line : SigningLine) (result : SignedJob) : List OverwrittenResult :=
  (Keyed.get? line.batch result.signed.asset).toList.map fun old =>
    ⟨old, result, line.window⟩

/-- The history after a step of a line. -/
def observe (line : SigningLine) (history : LineHistory) : SigningStep → LineHistory
  | .accept selected =>
      { history with accepted := history.accepted ++ [⟨line.accepted, selected⟩] }
  | .sign worker =>
      match line.workers[worker]? with
      | some (.signing job) =>
          match job.selected.sign line.signer line.oracle with
          | .ok _ => history
          | .error _ => { history with failed := history.failed ++ [job] }
      | _ => history
  | .pass worker =>
      match line.workers[worker]? with
      | some (.passing result) =>
          { history with completed := history.completed ++ [result] }
      | _ => history
  | .stop worker =>
      match line.workers[worker]? with
      | some (.passing result) =>
          { history with abandoned := history.abandoned ++ [result.job] }
      | _ => history
  | .collect =>
      match line.results with
      | result :: _ =>
          { history with
            collected := history.collected ++ [⟨line.window, result⟩]
            overwritten := history.overwritten ++ line.overwrittenBy result }
      | [] => history
  | .handOver =>
      if line.hasConsumer then history
      else { history with abandoned := history.abandoned ++ line.batcherJobs }
  | .finish =>
      if line.hasConsumer then history
      else { history with abandoned := history.abandoned ++ line.batcherJobs }
  | _ => history

/--
A line and its history can be reached from a line with a number of workers that
has seen no job, by steps in any order.
-/
inductive Run (signer : Signer) (oracle : String) (workers : Nat) :
    SigningLine → LineHistory → Prop where
  | start : Run signer oracle workers (fresh signer oracle workers) .empty
  | step {line next : SigningLine} {history : LineHistory} {step : SigningStep}
      {notices : List Notice}
      (run : Run signer oracle workers line history)
      (taken : line.step? step = some (notices, next)) :
      Run signer oracle workers next (line.observe history step)

/-! ## What a step can do -/

/-- The ways in which a step changes a line and its history. -/
inductive Effect (line : SigningLine) (history : LineHistory) :
    SigningStep → SigningLine → LineHistory → Prop where
  | accept (selected : TriggeredUpdate)
      (isOpen : line.isOpen = true) :
      Effect line history (.accept selected) (line.accept selected)
        { history with accepted := history.accepted ++ [⟨line.accepted, selected⟩] }
  | closeQueue :
      Effect line history .closeQueue { line with isOpen := false } history
  | take (worker : Nat) (job : Job) (rest : List Job)
      (idle : line.workers[worker]? = some .idle)
      (queued : line.queue = job :: rest) :
      Effect line history (.take worker)
        { line.setWorker worker (.signing job) with queue := rest } history
  | signed (worker : Nat) (job : Job) (signed : SignedUpdate)
      (signing : line.workers[worker]? = some (.signing job))
      (succeeds : job.selected.sign line.signer line.oracle = .ok signed) :
      Effect line history (.sign worker)
        (line.setWorker worker (.passing ⟨job, signed⟩)) history
  | failed (worker : Nat) (job : Job) (cause : SigningError)
      (signing : line.workers[worker]? = some (.signing job))
      (fails : job.selected.sign line.signer line.oracle = .error cause) :
      Effect line history (.sign worker) (line.setWorker worker .idle)
        { history with failed := history.failed ++ [job] }
  | passed (worker : Nat) (result : SignedJob)
      (passing : line.workers[worker]? = some (.passing result))
      (batching : line.isBatching = true) :
      Effect line history (.pass worker)
        { line.setWorker worker .idle with results := line.results ++ [result] }
        { history with completed := history.completed ++ [result] }
  | stopped (worker : Nat)
      (idle : line.workers[worker]? = some .idle)
      (closed : line.isOpen = false) (drained : line.queue = []) :
      Effect line history (.stop worker) (line.setWorker worker .stopped) history
  | gaveUp (worker : Nat) (result : SignedJob)
      (passing : line.workers[worker]? = some (.passing result))
      (batcherGone : line.isBatching = false) :
      Effect line history (.stop worker) (line.setWorker worker .stopped)
        { history with abandoned := history.abandoned ++ [result.job] }
  | collected (result : SignedJob) (rest : List SignedJob)
      (waiting : line.results = result :: rest)
      (batching : line.isBatching = true) :
      Effect line history .collect (line.collectResult result rest)
        { history with
          collected := history.collected ++ [⟨line.window, result⟩]
          overwritten := history.overwritten ++ line.overwrittenBy result }
  | handedOver (batching : line.isBatching = true) (filled : line.batch ≠ [])
      (consumed : line.hasConsumer = true) :
      Effect line history .handOver line.withoutBatch history
  | finished (batching : line.isBatching = true) (ended : line.allStopped = true)
      (emptied : line.results = []) (consumed : line.hasConsumer = true) :
      Effect line history .finish
        (if line.batch.isEmpty then line else line.withoutBatch).withoutBatcher
        history
  | lost (step : SigningStep) (batching : line.isBatching = true)
      (consumerGone : line.hasConsumer = false) :
      Effect line history step line.withoutBatcher
        { history with abandoned := history.abandoned ++ line.batcherJobs }
  | loseConsumer :
      Effect line history .loseConsumer { line with hasConsumer := false } history

/-- Every step has one of the listed effects. -/
theorem effect_of_step?
    {line next : SigningLine} {step : SigningStep} {notices : List Notice}
    (taken : line.step? step = some (notices, next)) (history : LineHistory) :
    Effect line history step next (line.observe history step) := by
  cases step with
  | accept selected =>
      simp only [step?, Option.ite_none_right_eq_some, Bool.and_eq_true] at taken
      obtain ⟨⟨isOpen, _⟩, equal⟩ := taken
      cases equal
      exact .accept selected isOpen
  | closeQueue =>
      cases taken
      exact .closeQueue
  | take worker =>
      simp only [step?] at taken
      split at taken
      next job rest idle queued =>
        cases taken
        exact .take worker job rest idle queued
      next => cases taken
  | sign worker =>
      simp only [step?] at taken
      split at taken
      next job signing =>
        simp only [observe, signing]
        simp only [signJob] at taken
        cases outcome : job.selected.sign line.signer line.oracle with
        | ok signed =>
            rw [outcome] at taken
            cases taken
            exact .signed worker job signed signing outcome
        | error cause =>
            rw [outcome] at taken
            cases taken
            exact .failed worker job cause signing outcome
      next => cases taken
  | pass worker =>
      simp only [step?] at taken
      split at taken
      next result passing =>
        simp only [Option.ite_none_right_eq_some, Bool.and_eq_true] at taken
        obtain ⟨⟨batching, _⟩, equal⟩ := taken
        cases equal
        simp only [observe, passing]
        exact .passed worker result passing batching
      next => cases taken
  | stop worker =>
      simp only [step?] at taken
      split at taken
      next idle =>
        simp only [Option.ite_none_right_eq_some, Bool.and_eq_true,
          Bool.not_eq_true', List.isEmpty_iff] at taken
        obtain ⟨⟨closed, drained⟩, equal⟩ := taken
        cases equal
        simp only [observe, idle]
        exact .stopped worker idle closed drained
      next result passing =>
        simp only [Option.ite_none_left_eq_some, Bool.not_eq_true] at taken
        obtain ⟨batcherGone, equal⟩ := taken
        cases equal
        simp only [observe, passing]
        exact .gaveUp worker result passing batcherGone
      next => cases taken
  | collect =>
      simp only [step?] at taken
      split at taken
      next result rest waiting =>
        simp only [Option.ite_none_right_eq_some] at taken
        obtain ⟨batching, equal⟩ := taken
        cases equal
        simp only [observe, waiting]
        exact .collected result rest waiting batching
      next => cases taken
  | handOver =>
      simp only [step?, Option.ite_none_left_eq_some, Bool.or_eq_true,
        Bool.not_eq_true', not_or, Bool.not_eq_false, List.isEmpty_iff] at taken
      obtain ⟨⟨batching, filled⟩, taken⟩ := taken
      by_cases consumed : line.hasConsumer = true
      · rw [if_pos consumed] at taken
        cases taken
        simp only [observe, consumed, if_true]
        exact .handedOver batching filled consumed
      · rw [if_neg consumed] at taken
        cases taken
        simp only [observe, if_neg consumed]
        exact .lost .handOver batching (Bool.not_eq_true _ ▸ consumed)
  | finish =>
      simp only [step?, Option.ite_none_left_eq_some, Bool.or_eq_true,
        Bool.not_eq_true', not_or, Bool.not_eq_false, List.isEmpty_iff] at taken
      obtain ⟨⟨⟨batching, ended⟩, emptied⟩, taken⟩ := taken
      by_cases consumed : line.hasConsumer = true
      · have reached :
            next =
              (if line.batch.isEmpty then line else line.withoutBatch).withoutBatcher := by
          by_cases filled : line.batch = []
          · simp only [filled, if_true] at taken
            cases taken
            simp [filled]
          · simp only [if_neg filled, consumed, if_true] at taken
            cases taken
            simp [filled]
        subst reached
        simp only [observe, consumed, if_true]
        exact .finished batching ended emptied consumed
      · have reached : next = line.withoutBatcher := by
          by_cases filled : line.batch = []
          · simp only [filled, if_true] at taken
            cases taken
            rfl
          · simp only [if_neg filled, if_neg consumed] at taken
            cases taken
            rfl
        subst reached
        simp only [observe, if_neg consumed]
        exact .lost .finish batching (Bool.not_eq_true _ ▸ consumed)
  | loseConsumer =>
      cases taken
      exact .loseConsumer

end SigningLine

end PricePublisher
