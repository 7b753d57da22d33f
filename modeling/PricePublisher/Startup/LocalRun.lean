import PricePublisher.Broker.Writer
import PricePublisher.Feed.Reader
import PricePublisher.Publishing.Processor
import PricePublisher.Publishing.Workers
import PricePublisher.Startup.Plan

/-!
# Publishing without a network

The program can be run on texts alone: each line that comes in is the message of
one client, and what would be sent goes out as lines, the replies to the client as
well as the signed batches of every pipeline, unfiltered.
-/

namespace PricePublisher.Startup

/-- One processor for each scheme. -/
structure LocalRun where
  processors : List Processor

/-- What a step of a local run results in. -/
structure LocalStep where
  run : LocalRun
  lines : List String
  notices : List Notice

namespace LocalRun

/-- The processor for a signer under some settings. -/
def processorFor (settings : Settings.CheckedSettings) (signer : Signer) : Processor :=
  .fresh signer settings.keys.oracle settings.changeThreshold settings.signEveryUpdate
    (signingWorkerCount 1 settings.schemes.length)

/-- The start of a local run. -/
def ofPlan (plan : Plan) : LocalRun :=
  ⟨plan.signers.map (processorFor plan.settings)⟩

/-- Let every processor do something, and collect what they publish. -/
def during (act : Processor → List Notice × Processor) : List Processor → LocalStep
  | [] => ⟨⟨[]⟩, [], []⟩
  | processor :: others =>
      let (batches, notices, next) := processor.during act
      let rest := during act others
      { run := ⟨next :: rest.run.processors⟩
        lines := batches.map SignedBatch.messageText ++ rest.lines
        notices := notices ++ rest.notices }

/-- Take in updates and check for changes. -/
def receive (updates : List PriceUpdate) (processor : Processor) : List Notice × Processor :=
  let (received, next) := processor.receiveAll updates
  let (checked, last) := next.selectDelta.submitPending
  (received ++ checked, last)

/-- Take in a line. -/
def onLine (run : LocalRun) (line : String) : LocalStep :=
  match Feed.Pushed.ofText line with
  | .undecodable => ⟨run, [Feed.parseErrorReply], [Feed.undecodableNotice]⟩
  | .ignored => ⟨run, [], []⟩
  | .prices updates failed =>
      let step := during (receive updates) run.processors
      if failed then
        { step with
          lines := Feed.parseErrorReply :: step.lines
          notices := Feed.unusableNotice :: step.notices }
      else step

/-- Let every processor finish. -/
def finish (run : LocalRun) : LocalStep :=
  during Processor.finish run.processors

end LocalRun

end PricePublisher.Startup
