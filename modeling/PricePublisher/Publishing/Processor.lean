import PricePublisher.Publishing.SigningLine
import PricePublisher.Publishing.TriggerEngine

/-!
# Processing updates

A processor keeps the trigger engine and feeds what it selects to the signing
line: at once for every update, or at regular checks for what has changed enough,
and at the ticks of a clock for all assets.  It goes on only when the line has
accepted all that was selected.  When it stops, the line signs what it has
accepted and hands over the last batch.
-/

namespace PricePublisher

/-- The trigger engine and the signing line behind it. -/
structure Processor where
  engine : TriggerEngine
  line : SigningLine
  /-- What has been selected and not yet been accepted by the line. -/
  pending : List TriggeredUpdate

/-- A step of a processor. -/
inductive ProcessorStep where
  | receive (update : PriceUpdate)
  | checkDelta
  | tickClock (now : Int)
  /-- The line accepts the first selected update that is pending. -/
  | submit
  /-- A step of the signing line. -/
  | sign (step : SigningStep)
  /-- Nothing more is received. -/
  | stop

namespace Processor

/-- The processor that has seen no update. -/
def fresh (signer : Signer) (oracle : String) (threshold : Float) (signsEveryUpdate : Bool)
    (workers : Nat) : Processor :=
  ⟨.fresh threshold signsEveryUpdate, .fresh signer oracle workers, []⟩

/-! ## Steps -/

/-- Whether a processor takes in updates, checks and ticks. -/
def isListening (processor : Processor) : Bool :=
  processor.line.isOpen && processor.pending.isEmpty

/-- Keep an update, and select it if every update is signed. -/
def record (processor : Processor) (update : PriceUpdate) : Processor :=
  { processor with
    engine := processor.engine.record update
    pending := processor.pending ++ processor.engine.immediate update }

/-- Select what has changed enough, unless every update is signed anyway. -/
def selectDelta (processor : Processor) : Processor :=
  if processor.engine.signsEveryUpdate then processor
  else
    let (selected, engine) := processor.engine.deltaCheck
    { processor with engine := engine, pending := processor.pending ++ selected }

/-- Select all assets. -/
def selectAll (processor : Processor) (now : Int) : Processor :=
  { processor with pending := processor.pending ++ processor.engine.clockTick now }

/-- Take a step of the signing line, if its condition holds. -/
def stepLine? (processor : Processor) (step : SigningStep) :
    Option (List Notice × Processor) :=
  (processor.line.step? step).map fun (notices, line) =>
    (notices, { processor with line := line })

/-- Take a step, if its condition holds: what is reported, and the processor afterwards. -/
def step? (processor : Processor) : ProcessorStep → Option (List Notice × Processor)
  | .receive update =>
      if processor.isListening then some ([], processor.record update) else none
  | .checkDelta => if processor.isListening then some ([], processor.selectDelta) else none
  | .tickClock now =>
      if processor.isListening then some ([], processor.selectAll now) else none
  | .submit =>
      match processor.pending with
      | [] => none
      | selected :: rest =>
          (processor.stepLine? (.accept selected)).map fun (notices, next) =>
            (notices, { next with pending := rest })
  | .sign step => if step.isInternal then processor.stepLine? step else none
  | .stop => if processor.isListening then processor.stepLine? .closeQueue else none

/-! ## A processor whose line is left alone in between -/

/-- Have the line accept all that is pending. -/
def submitPending (processor : Processor) : List Notice × Processor :=
  let (notices, line) := processor.line.submitAll processor.pending
  (notices, { processor with line := line, pending := [] })

/-- Take in updates, in order. -/
def receiveAll (processor : Processor) : List PriceUpdate → List Notice × Processor
  | [] => ([], processor)
  | update :: updates =>
      let (notices, next) := (processor.record update).submitPending
      let (more, last) := next.receiveAll updates
      (notices ++ more, last)

/-- Let the line do what it can. -/
def settle (processor : Processor) : List Notice × Processor :=
  let (notices, line) := processor.line.settle
  (notices, { processor with line := line })

/-- Stop, and let the line sign what it has accepted. -/
def finish (processor : Processor) : List Notice × Processor :=
  let (notices, line) := processor.line.close
  (notices, { processor with line := line })

/--
Let a processor do something and its line come to rest: the batches that come
out, and what is reported.
-/
def during (processor : Processor) (act : Processor → List Notice × Processor) :
    List SignedBatch × List Notice × Processor :=
  let (acted, active) := act processor
  let (settled, rested) := active.settle
  let (batches, line) := rested.line.takeBatches
  (batches, acted ++ settled, { rested with line := line })

end Processor

end PricePublisher
