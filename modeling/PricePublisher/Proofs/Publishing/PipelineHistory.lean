import PricePublisher.Proofs.Broker.Broadcast
import PricePublisher.Proofs.Publishing.LineEnd
import PricePublisher.Publishing.Pipeline

/-!
# The history of a pipeline

A pipeline takes the batches away from its signing line as it offers them to the
brokers.  Its history remembers them.  If they are put back, the line of the
pipeline is one that takes steps of its own and no others: `Steps.line_run` says
so, and all that is known of signing lines holds of pipelines.

`effect_of_step?` lists once what a step of a pipeline can do.
-/

namespace PricePublisher

namespace SigningLine

/-- A line with batches that it has handed over before all others. -/
def following (earlier : List JobBatch) (line : SigningLine) : SigningLine :=
  { line with batches := earlier ++ line.batches }

/-- What a line does in a step does not depend on the batches that were taken from it. -/
theorem step?_following
    (earlier : List JobBatch) (line : SigningLine) (step : SigningStep) :
    (following earlier line).step? step =
      (line.step? step).map fun answer => (answer.1, following earlier answer.2) := by
  have behind : ∀ batch : JobBatch,
      (earlier ++ line.batches) ++ [batch] = earlier ++ (line.batches ++ [batch]) :=
    fun batch => List.append_assoc _ _ _
  cases step with
  | accept selected =>
      simp only [step?, apply_ite (Option.map _), Option.map_some, Option.map_none]
      rfl
  | closeQueue => rfl
  | take worker =>
      simp only [step?, following]
      split
      next job rest idle queued => rfl
      next => rfl
  | sign worker =>
      simp only [step?, following]
      split
      next job signing =>
        simp only [signJob]
        cases job.selected.sign line.signer line.oracle <;> rfl
      next => rfl
  | pass worker =>
      simp only [step?, following]
      split
      next result passing =>
        simp only [apply_ite (Option.map _), Option.map_some, Option.map_none]
        rfl
      next => rfl
  | stop worker =>
      simp only [step?, following]
      split
      next idle =>
        simp only [apply_ite (Option.map _), Option.map_some, Option.map_none]
        rfl
      next result passing =>
        simp only [apply_ite (Option.map _), Option.map_some, Option.map_none]
        rfl
      next => rfl
  | collect =>
      simp only [step?, following]
      split
      next result rest waiting =>
        simp only [apply_ite (Option.map _), Option.map_some, Option.map_none]
        rfl
      next => rfl
  | handOver =>
      simp only [step?, following, withoutBatch, behind, apply_ite (Option.map _),
        Option.map_some, Option.map_none]
      rfl
  | finish =>
      simp only [step?, following, withoutBatch, behind, apply_ite (Option.map _),
        Option.map_some, Option.map_none]
      rfl
  | loseConsumer => rfl

theorem step?_following_of_some
    (earlier : List JobBatch) {line next : SigningLine} {step : SigningStep}
    {notices : List Notice}
    (taken : line.step? step = some (notices, next)) :
    (following earlier line).step? step = some (notices, following earlier next) := by
  rw [step?_following, taken]
  rfl

end SigningLine

/-! ## The steps of a pipeline -/

namespace Processor

/-- The step of its signing line that a processor takes with a step of its own. -/
def lineStep? (processor : Processor) : ProcessorStep → Option SigningStep
  | .submit => processor.pending.head?.map .accept
  | .sign step => some step
  | .stop => some .closeQueue
  | _ => none

variable {processor next : Processor} {step : ProcessorStep} {notices : List Notice}

/-- Recording and selecting leave the line alone, and all else is a step of it. -/
theorem line_of_step? (taken : processor.step? step = some (notices, next)) :
    (processor.lineStep? step = none ∧ next.line = processor.line) ∨
      ∃ lineStep, processor.lineStep? step = some lineStep ∧
        lineStep ≠ .loseConsumer ∧
        processor.line.step? lineStep = some (notices, next.line) := by
  have of_stepLine : ∀ {lineStep : SigningStep} {reported : List Notice}
      {middle : Processor}, processor.stepLine? lineStep = some (reported, middle) →
      processor.line.step? lineStep = some (reported, middle.line) := by
    intro lineStep reported middle taken
    obtain ⟨⟨reported, line⟩, possible, equal⟩ := Option.map_eq_some_iff.mp taken
    cases equal
    exact possible
  cases step with
  | receive update =>
      obtain ⟨_, equal⟩ := Option.ite_none_right_eq_some.mp taken
      cases equal
      exact .inl ⟨rfl, rfl⟩
  | checkDelta =>
      obtain ⟨_, equal⟩ := Option.ite_none_right_eq_some.mp taken
      cases equal
      refine .inl ⟨rfl, ?_⟩
      unfold selectDelta
      split <;> rfl
  | tickClock now =>
      obtain ⟨_, equal⟩ := Option.ite_none_right_eq_some.mp taken
      cases equal
      exact .inl ⟨rfl, rfl⟩
  | submit =>
      simp only [step?] at taken
      cases waiting : processor.pending with
      | nil =>
          rw [waiting] at taken
          cases taken
      | cons selected rest =>
          rw [waiting] at taken
          obtain ⟨⟨reported, middle⟩, possible, equal⟩ := Option.map_eq_some_iff.mp taken
          have accepted := of_stepLine possible
          cases equal
          refine .inr ⟨.accept selected, ?_, by simp, accepted⟩
          rw [lineStep?, waiting]
          rfl
  | sign lineStep =>
      obtain ⟨internal, possible⟩ := Option.ite_none_right_eq_some.mp taken
      refine .inr ⟨lineStep, rfl, ?_, of_stepLine possible⟩
      rintro rfl
      cases internal
  | stop =>
      obtain ⟨_, possible⟩ := Option.ite_none_right_eq_some.mp taken
      exact .inr ⟨.closeQueue, rfl, by simp, of_stepLine possible⟩

/-- A processor whose line has ended takes no step. -/
theorem rests_of_hasEnded
    (ended : processor.line.HasEnded)
    (taken : processor.step? step = some (notices, next)) :
    False := by
  have deaf : processor.isListening = false := by
    simp [isListening, ended.closed]
  have of_line : ∀ {lineStep : SigningStep} {reported : List Notice} {line : SigningLine},
      processor.line.step? lineStep = some (reported, line) →
      lineStep = .closeQueue ∨ lineStep = .loseConsumer :=
    fun possible => ended.no_effect (SigningLine.effect_of_step? possible .empty)
  cases step with
  | receive update => simp [step?, deaf] at taken
  | checkDelta => simp [step?, deaf] at taken
  | tickClock now => simp [step?, deaf] at taken
  | stop => simp [step?, deaf] at taken
  | submit =>
      rcases line_of_step? taken with ⟨none, _⟩ | ⟨lineStep, some, _, possible⟩
      · cases waiting : processor.pending with
        | nil => simp [step?, waiting] at taken
        | cons selected rest => simp [lineStep?, waiting] at none
      · obtain ⟨selected, _, rfl⟩ := Option.map_eq_some_iff.mp some
        rcases of_line possible with equal | equal <;> cases equal
  | sign lineStep =>
      obtain ⟨internal, _⟩ := Option.ite_none_right_eq_some.mp taken
      rcases line_of_step? taken with ⟨none, _⟩ | ⟨_, some, _, possible⟩
      · cases none
      · cases some
        rcases of_line possible with rfl | rfl <;> cases internal

/-- A line that is closed stays so. -/
theorem closed_of_step?
    (taken : processor.step? step = some (notices, next))
    (closed : processor.line.isOpen = false) :
    next.line.isOpen = false := by
  rcases line_of_step? taken with ⟨_, same⟩ | ⟨lineStep, _, _, possible⟩
  · rw [same]
    exact closed
  · exact (SigningLine.effect_of_step? possible .empty).closed closed

theorem closed_of_stop (taken : processor.step? .stop = some (notices, next)) :
    next.line.isOpen = false := by
  obtain ⟨_, possible⟩ := Option.ite_none_right_eq_some.mp taken
  obtain ⟨⟨reported, line⟩, closing, equal⟩ := Option.map_eq_some_iff.mp possible
  cases closing
  cases equal
  rfl

end Processor

/-- What has happened in a pipeline so far. -/
structure PipelineHistory where
  line : LineHistory
  /-- The batches that were offered to the brokers, oldest first. -/
  forwarded : List JobBatch

/-- The history before any step. -/
def PipelineHistory.empty : PipelineHistory :=
  ⟨.empty, []⟩

namespace Pipeline

/-- The step of its signing line that a pipeline takes with a step of its own. -/
def lineStep? (pipeline : Pipeline) : PipelineStep → Option SigningStep
  | .process step => pipeline.processor.lineStep? step
  | .endInput => some .closeQueue
  | _ => none

/-- The batches that a step offers to the brokers. -/
def offered (pipeline : Pipeline) : PipelineStep → List JobBatch
  | .forward _ => pipeline.processor.line.batches.take 1
  | _ => []

/-- The signing line with all batches that it has ever handed over. -/
def wholeLine (pipeline : Pipeline) (history : PipelineHistory) : SigningLine :=
  pipeline.processor.line.following history.forwarded

/-- The history after a step of a pipeline. -/
def observe
    (pipeline : Pipeline) (history : PipelineHistory) (step : PipelineStep) :
    PipelineHistory where
  line :=
    match pipeline.lineStep? step with
    | none => history.line
    | some lineStep => (pipeline.wholeLine history).observe history.line lineStep
  forwarded := history.forwarded ++ pipeline.offered step

/-- A pipeline goes on by steps that are admitted, in any order. -/
inductive Steps
    (admits : Pipeline → PipelineStep → Prop) (start : Pipeline)
    (past : PipelineHistory) : Pipeline → PipelineHistory → Prop where
  | refl : Steps admits start past start past
  | step {pipeline next : Pipeline} {history : PipelineHistory} {step : PipelineStep}
      {notices : List Notice}
      (before : Steps admits start past pipeline history)
      (taken : pipeline.step? step = some (notices, next))
      (admitted : admits pipeline step) :
      Steps admits start past next (pipeline.observe history step)

theorem Steps.trans
    {admits : Pipeline → PipelineStep → Prop}
    {first middle last : Pipeline} {past between history : PipelineHistory}
    (early : Steps admits first past middle between)
    (late : Steps admits middle between last history) :
    Steps admits first past last history := by
  induction late with
  | refl => exact early
  | step _ taken admitted induction => exact .step induction taken admitted

theorem Steps.mono
    {admits weaker : Pipeline → PipelineStep → Prop}
    {start last : Pipeline} {past history : PipelineHistory}
    (steps : Steps admits start past last history)
    (weakened : ∀ pipeline step, admits pipeline step → weaker pipeline step) :
    Steps weaker start past last history := by
  induction steps with
  | refl => exact .refl
  | step _ taken admitted induction => exact .step induction taken (weakened _ _ admitted)

/-- The ways in which a step changes a pipeline. -/
inductive Effect (pipeline : Pipeline) : PipelineStep → Pipeline → Prop where
  | processed (step : ProcessorStep) (processor : Processor) (notices : List Notice)
      (taken : pipeline.processor.step? step = some (notices, processor)) :
      Effect pipeline (.process step) { pipeline with processor := processor }
  | refreshed (answer : Except RegistryError Registry.Subscriptions)
      (early : pipeline.stage ≠ .closing) :
      Effect pipeline (.refresh answer)
        { pipeline with manager := (pipeline.manager.refresh answer).2 }
  | lifecycled (number : Nat) (step : LifecycleStep) (lifecycle : Lifecycle)
      (manager : ConnectionManager)
      (found : pipeline.manager.lifecycles[number]? = some lifecycle)
      (effect : ConnectionManager.Effect pipeline.manager number lifecycle step manager) :
      Effect pipeline (.lifecycle number step) { pipeline with manager := manager }
  | forwarded (now : Nat) (batch : JobBatch) (rest : List JobBatch)
      (waiting : pipeline.processor.line.batches = batch :: rest) :
      Effect pipeline (.forward now)
        { pipeline with
          processor := { pipeline.processor with
            line := { pipeline.processor.line with batches := rest } }
          manager := { pipeline.manager with
            table := (pipeline.manager.table.broadcast now batch.toSignedBatch).2 } }
  | wrote (number : Nat) (lifecycle : Lifecycle)
      (found : pipeline.manager.lifecycles[number]? = some lifecycle) :
      Effect pipeline (.write number) (pipeline.send lifecycle 1)
  | inputEnded (processor : Processor) (notices : List Notice)
      (running : pipeline.stage = .running)
      (taken : pipeline.processor.step? .stop = some (notices, processor)) :
      Effect pipeline .endInput
        { pipeline with processor := processor, stage := .draining }
  | forwardingEnded (draining : pipeline.stage = .draining)
      (drained : pipeline.isDrained = true) :
      Effect pipeline .endForwarding
        { pipeline with manager := pipeline.manager.shutDown, stage := .closing }

variable
  {pipeline next : Pipeline} {step : PipelineStep} {notices : List Notice}

/-- Every step has one of the listed effects. -/
theorem effect_of_step? (taken : pipeline.step? step = some (notices, next)) :
    Effect pipeline step next := by
  cases step with
  | process step =>
      have possible : (pipeline.processor.step? step).map (fun answer =>
          (answer.1, { pipeline with processor := answer.2 })) =
            some (notices, next) := by
        cases step with
        | stop => cases taken
        | _ => exact taken
      obtain ⟨⟨reported, processor⟩, processed, equal⟩ :=
        Option.map_eq_some_iff.mp possible
      cases equal
      exact .processed step processor _ processed
  | refresh answer =>
      obtain ⟨early, equal⟩ := Option.ite_none_left_eq_some.mp taken
      cases equal
      exact .refreshed answer early
  | lifecycle number step =>
      obtain ⟨⟨reported, manager⟩, possible, equal⟩ := Option.map_eq_some_iff.mp taken
      obtain ⟨lifecycle, found, effect⟩ := ConnectionManager.effect_of_step? possible
      cases equal
      exact .lifecycled number step lifecycle manager found effect
  | forward now =>
      simp only [step?, forward?] at taken
      split at taken
      next => cases taken
      next batch rest waiting =>
        cases taken
        exact .forwarded now batch rest waiting
  | write number =>
      obtain ⟨written, possible, equal⟩ := Option.map_eq_some_iff.mp taken
      obtain ⟨lifecycle, found, sent⟩ := Option.bind_eq_some_iff.mp possible
      cases equal
      cases sent
      exact .wrote number lifecycle found
  | endInput =>
      obtain ⟨running, possible⟩ := Option.ite_none_right_eq_some.mp taken
      obtain ⟨⟨reported, processor⟩, stopped, equal⟩ :=
        Option.map_eq_some_iff.mp possible
      cases equal
      exact .inputEnded processor _ running stopped
  | endForwarding =>
      obtain ⟨condition, equal⟩ := Option.ite_none_right_eq_some.mp taken
      obtain ⟨draining, drained⟩ := Bool.and_eq_true_iff.mp condition
      cases equal
      exact .forwardingEnded (of_decide_eq_true draining) drained

/-! ## The line of a pipeline -/

/-- A step of a pipeline is a step of its whole line, or none. -/
theorem wholeLine_of_effect
    (effect : Effect pipeline step next) (history : PipelineHistory) :
    (pipeline.lineStep? step = none ∧
        next.wholeLine (pipeline.observe history step) = pipeline.wholeLine history) ∨
      ∃ lineStep reported, pipeline.lineStep? step = some lineStep ∧
        lineStep ≠ .loseConsumer ∧
        (pipeline.wholeLine history).step? lineStep =
          some (reported, next.wholeLine (pipeline.observe history step)) := by
  cases effect with
  | processed step processor notices taken =>
      simp only [wholeLine, observe, offered, List.append_nil]
      rcases Processor.line_of_step? taken with ⟨none, same⟩ | ⟨lineStep, some, kept, line⟩
      · exact .inl ⟨none, by rw [same]⟩
      · exact .inr ⟨lineStep, notices, some, kept,
          SigningLine.step?_following_of_some history.forwarded line⟩
  | refreshed answer early =>
      refine .inl ⟨rfl, ?_⟩
      simp only [wholeLine, observe, offered, List.append_nil]
  | lifecycled number step lifecycle manager found effect =>
      refine .inl ⟨rfl, ?_⟩
      simp only [wholeLine, observe, offered, List.append_nil]
  | forwarded now batch rest waiting =>
      refine .inl ⟨rfl, ?_⟩
      simp [wholeLine, observe, offered, SigningLine.following, waiting]
  | wrote number lifecycle found =>
      refine .inl ⟨rfl, ?_⟩
      simp only [wholeLine, observe, offered, List.append_nil]
      unfold send
      split
      · rfl
      · split <;> rfl
  | inputEnded processor notices running taken =>
      simp only [wholeLine, observe, offered, List.append_nil]
      rcases Processor.line_of_step? taken with ⟨none, same⟩ | ⟨lineStep, some, kept, line⟩
      · cases none
      · exact .inr ⟨lineStep, notices, some, kept,
          SigningLine.step?_following_of_some history.forwarded line⟩
  | forwardingEnded draining drained =>
      refine .inl ⟨rfl, ?_⟩
      simp only [wholeLine, observe, offered, List.append_nil]

section

variable
  {admits : Pipeline → PipelineStep → Prop} {start : Pipeline}
  {past history : PipelineHistory}
  {signer : Signer} {oracle : String} {workers : Nat}

/-- The whole line of a pipeline is one that takes steps of its own. -/
theorem Steps.line_run
    (steps : Steps admits start past pipeline history)
    (run : SigningLine.Run signer oracle workers (start.wholeLine past) past.line) :
    SigningLine.Run signer oracle workers (pipeline.wholeLine history) history.line := by
  induction steps with
  | refl => exact run
  | @step pipeline next history step notices before taken admitted induction =>
      rcases wholeLine_of_effect (effect_of_step? taken) history with
        ⟨none, same⟩ | ⟨lineStep, reported, some, kept, possible⟩
      · rw [same]
        simp only [observe, none]
        exact induction
      · have observed : (pipeline.observe history step).line =
            (pipeline.wholeLine history).observe history.line lineStep := by
          simp only [observe, some]
        rw [observed]
        exact .step induction possible

/-- Nobody stops taking the batches of a pipeline's line. -/
theorem Steps.hasConsumer
    (steps : Steps admits start past pipeline history)
    (consumed : start.processor.line.hasConsumer = true) :
    pipeline.processor.line.hasConsumer = true := by
  induction steps with
  | refl => exact consumed
  | @step pipeline next history step notices before taken admitted induction =>
      rcases wholeLine_of_effect (effect_of_step? taken) history with
        ⟨none, same⟩ | ⟨lineStep, reported, some, kept, possible⟩
      · have same := congrArg SigningLine.hasConsumer same
        exact same.trans induction
      · have effect := SigningLine.effect_of_step? possible .empty
        have line_consumed : (pipeline.wholeLine history).hasConsumer = true := induction
        exact effect.consumed_of_ne kept line_consumed

end

/-! ## The stages of a pipeline -/

/-- The stages of a pipeline come in order. -/
structure Staged (pipeline : Pipeline) : Prop where
  closed : pipeline.stage ≠ .running → pipeline.processor.line.isOpen = false
  ended : pipeline.stage = .closing → pipeline.processor.line.HasEnded
  offered : pipeline.stage = .closing → pipeline.processor.line.batches = []

theorem staged_fresh
    (processor : Processor) (manager : ConnectionManager) :
    Staged (fresh processor manager) where
  closed := fun later => absurd rfl later
  ended := nofun
  offered := nofun

theorem Staged.effect
    (staged : Staged pipeline) (effect : Effect pipeline step next) :
    Staged next := by
  cases effect with
  | processed step processor notices taken =>
      constructor
      · intro late
        exact Processor.closed_of_step? taken (staged.closed late)
      · intro closing
        exact (Processor.rests_of_hasEnded (staged.ended closing) taken).elim
      · intro closing
        exact (Processor.rests_of_hasEnded (staged.ended closing) taken).elim
  | refreshed answer early => exact ⟨staged.closed, staged.ended, staged.offered⟩
  | lifecycled number step lifecycle manager found effect =>
      exact ⟨staged.closed, staged.ended, staged.offered⟩
  | forwarded now batch rest waiting =>
      have early : pipeline.stage ≠ .closing := by
        intro closing
        rw [staged.offered closing] at waiting
        cases waiting
      constructor
      · exact staged.closed
      · intro closing
        exact absurd closing early
      · intro closing
        exact absurd closing early
  | wrote number lifecycle found =>
      unfold send
      split
      · exact staged
      · split
        · exact staged
        · exact ⟨staged.closed, staged.ended, staged.offered⟩
  | inputEnded processor notices running taken =>
      constructor
      · intro _
        exact Processor.closed_of_stop taken
      · nofun
      · nofun
  | forwardingEnded draining drained =>
      have closed : pipeline.processor.line.isOpen = false := by
        apply staged.closed
        rw [draining]
        nofun
      simp only [isDrained, Bool.and_eq_true, Bool.not_eq_true', List.isEmpty_iff]
        at drained
      exact ⟨fun _ => closed, fun _ => ⟨closed, drained.1.1, drained.1.2⟩,
        fun _ => drained.2⟩

theorem Steps.staged
    {admits : Pipeline → PipelineStep → Prop} {start : Pipeline}
    {past history : PipelineHistory}
    (steps : Steps admits start past pipeline history) (staged : Staged start) :
    Staged pipeline := by
  induction steps with
  | refl => exact staged
  | step _ taken _ induction => exact induction.effect (effect_of_step? taken)

end Pipeline

end PricePublisher
