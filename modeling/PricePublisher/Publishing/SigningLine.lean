import PricePublisher.Notice
import PricePublisher.Wire.SignedUpdate

/-!
# The signing line

Selected updates become jobs in a bounded queue.  Workers take jobs from it, sign
them and pass the results on; a job whose signing fails is dropped with a notice.
One batcher collects the results into the open batch, in which the latest result
of an asset counts, and hands the batch over from time to time.

When the queue is closed the workers stop once it is empty, and when all have
stopped the batcher collects what is left, hands over the last batch and stops.

Nothing but the steps below changes a line, and they may come in any order that
their conditions admit.
-/

namespace PricePublisher

/-- How many jobs may wait to be signed, and how many results to be collected. -/
def signingQueueCapacity : Nat := 4096

/-- A selected update that was accepted for signing. -/
structure Job where
  /-- The jobs of a line are numbered in the order in which they are accepted. -/
  number : Nat
  selected : TriggeredUpdate

/-- A job with what signing it has resulted in. -/
structure SignedJob where
  job : Job
  signed : SignedUpdate

/-- What a worker is doing. -/
inductive SigningWorker where
  | idle
  | signing (job : Job)
  /-- It waits until there is room for its result. -/
  | passing (result : SignedJob)
  | stopped

/-- Whether a worker has stopped. -/
def SigningWorker.isStopped : SigningWorker → Bool
  | .stopped => true
  | _ => false

/-- Results under their assets. -/
abbrev JobBatch := List (String × SignedJob)

/-- The signed updates in a batch of results. -/
def JobBatch.toSignedBatch (batch : JobBatch) : SignedBatch :=
  Keyed.mapValues SignedJob.signed batch

/-- The state of a signing line. -/
structure SigningLine where
  signer : Signer
  oracle : String
  /-- How many jobs have been accepted. -/
  accepted : Nat
  /-- Whether further jobs may be accepted. -/
  isOpen : Bool
  queue : List Job
  workers : List SigningWorker
  results : List SignedJob
  /-- The open batch. -/
  batch : JobBatch
  isBatching : Bool
  /-- Whether somebody takes the batches. -/
  hasConsumer : Bool
  /-- The batches that were handed over, oldest first. -/
  batches : List JobBatch

/-- A step of a signing line. -/
inductive SigningStep where
  | accept (selected : TriggeredUpdate)
  | closeQueue
  | take (worker : Nat)
  | sign (worker : Nat)
  | pass (worker : Nat)
  | stop (worker : Nat)
  | collect
  | handOver
  | finish
  | loseConsumer

/-- Whether a step is one that the line takes by itself. -/
def SigningStep.isInternal : SigningStep → Bool
  | .accept _ => false
  | .closeQueue => false
  | .loseConsumer => false
  | _ => true

namespace SigningLine

/-- The line before any job, with a number of workers. -/
def fresh (signer : Signer) (oracle : String) (workers : Nat) : SigningLine where
  signer := signer
  oracle := oracle
  accepted := 0
  isOpen := true
  queue := []
  workers := List.replicate workers .idle
  results := []
  batch := []
  isBatching := true
  hasConsumer := true
  batches := []

/-! ## Notices -/

/-- What is reported about a job that cannot be signed. -/
def signingFailedNotice : Notice :=
  ⟨.error, "Failed to sign update"⟩

/-- What is reported when nobody takes a batch. -/
def consumerGoneNotice : Notice :=
  ⟨.warning, "Batch consumer gone, stopping batcher"⟩

/-- What is reported when nobody takes the last batch. -/
def consumerGoneAtEndNotice : Notice :=
  ⟨.warning, "Batch consumer gone before final flush"⟩

/-! ## Steps -/

/-- Whether there is room for another job. -/
def hasRoom (line : SigningLine) : Bool :=
  line.queue.length < signingQueueCapacity

/-- Whether there is room for another result. -/
def hasRoomForResult (line : SigningLine) : Bool :=
  line.results.length < signingQueueCapacity

/-- Whether every worker has stopped. -/
def allStopped (line : SigningLine) : Bool :=
  line.workers.all SigningWorker.isStopped

/-- The line after a worker has changed what it does. -/
def setWorker (line : SigningLine) (worker : Nat) (state : SigningWorker) : SigningLine :=
  { line with workers := line.workers.set worker state }

/-- Put a job at the end of the queue. -/
def accept (line : SigningLine) (selected : TriggeredUpdate) : SigningLine :=
  { line with
    accepted := line.accepted + 1
    queue := line.queue ++ [⟨line.accepted, selected⟩] }

/-- Sign a job, or drop it with a notice. -/
def signJob (line : SigningLine) (worker : Nat) (job : Job) : List Notice × SigningLine :=
  match job.selected.sign line.signer line.oracle with
  | .ok signed => ([], line.setWorker worker (.passing ⟨job, signed⟩))
  | .error _ => ([signingFailedNotice], line.setWorker worker .idle)

/-- Put a result into the open batch, in place of an earlier one of its asset. -/
def collectResult (line : SigningLine) (result : SignedJob) (rest : List SignedJob) :
    SigningLine :=
  { line with
    results := rest
    batch := Keyed.insert result.signed.asset result line.batch }

/-- The line after its batch has been handed over. -/
def withoutBatch (line : SigningLine) : SigningLine :=
  { line with batch := [], batches := line.batches ++ [line.batch] }

/-- The line after its batcher has stopped; what it held is lost. -/
def withoutBatcher (line : SigningLine) : SigningLine :=
  { line with isBatching := false, results := [], batch := [] }

/-- Take a step, if its condition holds: what is reported, and the line afterwards. -/
def step? (line : SigningLine) : SigningStep → Option (List Notice × SigningLine)
  | .accept selected =>
      if line.isOpen && line.hasRoom then some ([], line.accept selected) else none
  | .closeQueue => some ([], { line with isOpen := false })
  | .take worker =>
      match line.workers[worker]?, line.queue with
      | some .idle, job :: rest =>
          some ([], { line.setWorker worker (.signing job) with queue := rest })
      | _, _ => none
  | .sign worker =>
      match line.workers[worker]? with
      | some (.signing job) => some (line.signJob worker job)
      | _ => none
  | .pass worker =>
      match line.workers[worker]? with
      | some (.passing result) =>
          if line.isBatching && line.hasRoomForResult then
            some ([], { line.setWorker worker .idle with results := line.results ++ [result] })
          else none
      | _ => none
  | .stop worker =>
      match line.workers[worker]? with
      | some .idle =>
          if !line.isOpen && line.queue.isEmpty then some ([], line.setWorker worker .stopped)
          else none
      | some (.passing _) =>
          if line.isBatching then none else some ([], line.setWorker worker .stopped)
      | _ => none
  | .collect =>
      match line.results with
      | result :: rest =>
          if line.isBatching then some ([], line.collectResult result rest) else none
      | [] => none
  | .handOver =>
      if !line.isBatching || line.batch.isEmpty then none
      else if line.hasConsumer then some ([], line.withoutBatch)
      else some ([consumerGoneNotice], line.withoutBatcher)
  | .finish =>
      if !line.isBatching || !line.allStopped || !line.results.isEmpty then none
      else if line.batch.isEmpty then some ([], line.withoutBatcher)
      else if line.hasConsumer then some ([], line.withoutBatch.withoutBatcher)
      else some ([consumerGoneAtEndNotice], line.withoutBatcher)
  | .loseConsumer => some ([], { line with hasConsumer := false })

/-- Take steps in a row; `none` if the condition of one does not hold. -/
def run? (line : SigningLine) : List SigningStep → Option (List Notice × SigningLine)
  | [] => some ([], line)
  | step :: steps => do
      let (notices, next) ← line.step? step
      let (more, last) ← next.run? steps
      return (notices ++ more, last)

/-! ## A line that is left alone -/

/-- The first worker in a given state. -/
def findWorker? (line : SigningLine) (matching : SigningWorker → Bool) : Option Nat :=
  line.workers.findIdx? matching

/-- The step that a line takes next when it is left alone, if anything is left to do. -/
def nextStep? (line : SigningLine) : Option SigningStep :=
  let passing := line.findWorker? fun
    | .passing _ => true
    | _ => false
  let signing := line.findWorker? fun
    | .signing _ => true
    | _ => false
  let idle := line.findWorker? fun
    | .idle => true
    | _ => false
  if line.isBatching && !line.results.isEmpty then some .collect
  else if let some worker := passing then
    some (if line.isBatching then .pass worker else .stop worker)
  else if let some worker := signing then some (.sign worker)
  else if let (some worker, false) := (idle, line.queue.isEmpty) then some (.take worker)
  else if let (some worker, false) := (idle, line.isOpen) then some (.stop worker)
  else if line.isBatching && line.allStopped then some .finish
  else if line.isBatching && !line.batch.isEmpty then some .handOver
  else none

/-- How much a worker may still do with what it has. -/
def workLeftOf : SigningWorker → Nat
  | .idle => 1
  | .signing _ => 5
  | .passing _ => 4
  | .stopped => 0

/-- A bound on the steps that a line takes when it is left alone. -/
def workLeft (line : SigningLine) : Nat :=
  5 * line.queue.length + 2 * line.results.length + line.batch.length + 2
    + line.workers.foldr (fun worker total => workLeftOf worker + total) 0

/-- Let a line take up to so many steps. -/
def settleFor (line : SigningLine) : Nat → List Notice × SigningLine
  | 0 => ([], line)
  | steps + 1 =>
      match line.nextStep?.bind line.step? with
      | none => ([], line)
      | some (notices, next) =>
          let (more, last) := next.settleFor steps
          (notices ++ more, last)

/-- Let a line do all that it can do alone. -/
def settle (line : SigningLine) : List Notice × SigningLine :=
  line.settleFor line.workLeft

/-- Accept a selected update as soon as there is room. -/
def submit (line : SigningLine) (selected : TriggeredUpdate) : List Notice × SigningLine :=
  match line.step? (.accept selected) with
  | some result => result
  | none =>
      let (notices, settled) := line.settle
      match settled.step? (.accept selected) with
      | some (_, accepted) => (notices, accepted)
      | none => (notices, settled)

/-- Accept selected updates, in order. -/
def submitAll (line : SigningLine) : List TriggeredUpdate → List Notice × SigningLine
  | [] => ([], line)
  | selected :: rest =>
      let (notices, next) := line.submit selected
      let (more, last) := next.submitAll rest
      (notices ++ more, last)

/-- Accept nothing more, and let the line come to its end. -/
def close (line : SigningLine) : List Notice × SigningLine :=
  { line with isOpen := false }.settle

/-- Take the batches that were handed over. -/
def takeBatches (line : SigningLine) : List SignedBatch × SigningLine :=
  (line.batches.map JobBatch.toSignedBatch, { line with batches := [] })

end SigningLine

end PricePublisher
