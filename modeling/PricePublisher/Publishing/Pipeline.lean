import PricePublisher.Broker.Manager
import PricePublisher.Broker.Writer
import PricePublisher.Publishing.Processor

/-!
# Publishing pipelines

A pipeline publishes under one signature scheme.  Updates run through its
processor, the batches that come out are offered to every live broker, and the
writer of each connection sends the part that the broker takes.

When the input ends the processor finishes first, then the last batches are
offered, and only then are the connections closed, each after its writer has sent
what was queued for it.
-/

namespace PricePublisher

/-- How far a pipeline is on its way to its end. -/
inductive PipelineStage where
  | running
  /-- The input has ended; the processor finishes and the last batches are offered. -/
  | draining
  /-- All batches have been offered; the connections are closed. -/
  | closing
deriving DecidableEq, Repr

/-- A frame that was sent to a broker. -/
structure SentFrame where
  url : String
  connection : Nat
  /-- What the frame holds. -/
  batch : SignedBatch

/-- The text of a frame. -/
def SentFrame.text (frame : SentFrame) : String :=
  frame.batch.messageText

/-- A publishing pipeline. -/
structure Pipeline where
  processor : Processor
  manager : ConnectionManager
  stage : PipelineStage
  /-- What was sent, oldest first. -/
  frames : List SentFrame

/-- A step of a pipeline. -/
inductive PipelineStep where
  /-- A step of the processor other than stopping. -/
  | process (step : ProcessorStep)
  /-- The brokers are updated with an answer of the registry. -/
  | refresh (answer : Except RegistryError Registry.Subscriptions)
  /-- A step of the lifecycle of a given number. -/
  | lifecycle (number : Nat) (step : LifecycleStep)
  /-- The oldest batch is offered to the brokers. -/
  | forward (now : Nat)
  /-- The writer of a lifecycle's connection sends the next batch. -/
  | write (number : Nat)
  | endInput
  | endForwarding

namespace Pipeline

/-- A pipeline without brokers that has seen no update. -/
def fresh (processor : Processor) (manager : ConnectionManager) : Pipeline :=
  ⟨processor, manager, .running, []⟩

/-! ## Steps -/

/-- Offer a batch to the brokers. -/
def offer (pipeline : Pipeline) (now : Nat) (batch : SignedBatch) : List Notice × Pipeline :=
  let (result, table) := pipeline.manager.table.broadcast now batch
  (result.notices, { pipeline with manager := { pipeline.manager with table := table } })

/-- Offer the oldest batch to the brokers. -/
def forward? (pipeline : Pipeline) (now : Nat) : Option (List Notice × Pipeline) :=
  match pipeline.processor.line.batches with
  | [] => none
  | batch :: rest =>
      let line := { pipeline.processor.line with batches := rest }
      some <|
        { pipeline with processor := { pipeline.processor with line := line } }.offer now
          batch.toSignedBatch

/-- The frame that sends a batch through a connection, unless its broker takes none of it. -/
def frame? (lifecycle : Lifecycle) (connection : Nat) (batch : SignedBatch) :
    Option SentFrame :=
  (lifecycle.filter.selection? batch).map fun selected =>
    ⟨lifecycle.url, connection, selected⟩

/-- Send up to so many batches that are queued for a lifecycle's connection. -/
def send (pipeline : Pipeline) (lifecycle : Lifecycle) (count : Nat) : Pipeline :=
  match lifecycle.phase.written? with
  | none => pipeline
  | some number =>
      match pipeline.manager.table.connections[number]? with
      | none => pipeline
      | some connection =>
          let (batches, queue) := connection.queue.take count
          let table := pipeline.manager.table.modify number fun connection =>
            { connection with queue := queue }
          { pipeline with
            manager := { pipeline.manager with table := table }
            frames := pipeline.frames ++ batches.filterMap (frame? lifecycle number) }

/-- Send the next batch that is queued for the connection of a lifecycle. -/
def write? (pipeline : Pipeline) (number : Nat) : Option Pipeline := do
  let lifecycle ← pipeline.manager.lifecycles[number]?
  return pipeline.send lifecycle 1

/-- Let a lifecycle take a step. -/
def stepLifecycle? (pipeline : Pipeline) (number : Nat) (step : LifecycleStep) :
    Option (List Notice × Pipeline) :=
  (pipeline.manager.step? number step).map fun (notices, manager) =>
    (notices, { pipeline with manager := manager })

/-- Whether the processor has finished and every batch has been offered. -/
def isDrained (pipeline : Pipeline) : Bool :=
  !pipeline.processor.line.isBatching && pipeline.processor.line.allStopped
    && pipeline.processor.line.batches.isEmpty

/-- Let the processor take a step other than stopping. -/
def process? (pipeline : Pipeline) (step : ProcessorStep) :
    Option (List Notice × Pipeline) :=
  match step with
  | .stop => none
  | step =>
      (pipeline.processor.step? step).map fun (notices, processor) =>
        (notices, { pipeline with processor := processor })

/-- Take a step, if its condition holds: what is reported, and the pipeline afterwards. -/
def step? (pipeline : Pipeline) : PipelineStep → Option (List Notice × Pipeline)
  | .process step => pipeline.process? step
  | .refresh answer =>
      if pipeline.stage = .closing then none
      else
        let (notices, manager) := pipeline.manager.refresh answer
        some (notices, { pipeline with manager := manager })
  | .lifecycle number step => pipeline.stepLifecycle? number step
  | .forward now => pipeline.forward? now
  | .write number => (pipeline.write? number).map fun next => ([], next)
  | .endInput =>
      if pipeline.stage = .running then
        (pipeline.processor.step? .stop).map fun (notices, processor) =>
          (notices, { pipeline with processor := processor, stage := .draining })
      else none
  | .endForwarding =>
      if pipeline.stage = .draining && pipeline.isDrained then
        some ([], { pipeline with
          manager := pipeline.manager.shutDown
          stage := .closing })
      else none

/-! ## A pipeline that is left alone in between -/

/-- Offer batches to the brokers, and let every writer send what is queued. -/
def publishAll (pipeline : Pipeline) (now : Nat) : List SignedBatch → List Notice × Pipeline
  | [] => ([], pipeline)
  | batch :: batches =>
      let (notices, offered) := pipeline.offer now batch
      let sent := offered.manager.lifecycles.foldl
        (fun pipeline lifecycle => pipeline.send lifecycle connectionQueueCapacity) offered
      let (more, last) := sent.publishAll now batches
      (notices ++ more, last)

/-- Let the processor do something and the line come to rest, and publish what comes out. -/
def during (pipeline : Pipeline) (now : Nat) (act : Processor → List Notice × Processor) :
    List Notice × Pipeline :=
  let (batches, notices, processor) := pipeline.processor.during act
  let (published, next) := { pipeline with processor := processor }.publishAll now batches
  (notices ++ published, next)

/-- Take in updates, check for changes, and publish what is signed. -/
def receiveAll (pipeline : Pipeline) (now : Nat) (updates : List PriceUpdate) :
    List Notice × Pipeline :=
  let (received, next) := pipeline.during now fun processor => processor.receiveAll updates
  let (checked, last) := next.during now fun processor => processor.selectDelta.submitPending
  (received ++ checked, last)

/-- Let the input end, and everything after it in order. -/
def finish (pipeline : Pipeline) (now : Nat) (reaches : String → Bool) :
    List Notice × Pipeline :=
  let (finished, drained) := pipeline.during now Processor.finish
  let (closed, manager) := drained.manager.shutDown.settle reaches
  (finished ++ closed, { drained with manager := manager, stage := .closing })

end Pipeline

end PricePublisher
