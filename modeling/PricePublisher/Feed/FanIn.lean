import PricePublisher.Notice
import PricePublisher.Price.Update
import PricePublisher.Queue
import PricePublisher.Throttle
import PricePublisher.Time.Duration

/-!
# Offering updates to pipelines

Each update is offered to the queue of every pipeline.  A full queue misses it,
which is reported as often as a throttle allows; a queue whose pipeline has ended
misses it silently.
-/

namespace PricePublisher.Feed

/-- The least time between two reports about full queues. -/
def fullQueueReportPeriod : Duration := .ofSeconds 10

/-- The throttle of a fresh connection. -/
def freshThrottle : Throttle :=
  .ofPeriod fullQueueReportPeriod.toNanoseconds

/-- What is reported when a full queue misses an update. -/
def droppedNotice : Notice :=
  ⟨.error, "Dropped incoming price update, pipeline queue full"⟩

/-- The queues of pipelines, with the throttle for reports about them. -/
structure Inlets where
  queues : List (Queue PriceUpdate)
  throttle : Throttle

/-- The queues of the given capacities, without updates. -/
def Inlets.ofCapacities (capacities : List Nat) : Inlets :=
  ⟨capacities.map .ofCapacity, freshThrottle⟩

/-- Report a full queue if the throttle grants it. -/
def reportFull (now : Nat) (throttle : Throttle) : List Notice × Throttle :=
  let (granted, throttle) := throttle.request now
  (if granted then [droppedNotice] else [], throttle)

/-- What offering an update to some queues results in. -/
structure FanIn where
  queues : List (Queue PriceUpdate)
  throttle : Throttle
  missed : Nat
  notices : List Notice

/-- Offer an update to queues at a given time. -/
def fanIn (now : Nat) (update : PriceUpdate) :
    List (Queue PriceUpdate) → Throttle → FanIn
  | [], throttle => ⟨[], throttle, 0, []⟩
  | queue :: queues, throttle =>
      let (reports, throttle) :=
        match queue.delivery with
        | .full => reportFull now throttle
        | _ => ([], throttle)
      let rest := fanIn now update queues throttle
      { queues := queue.push update :: rest.queues
        throttle := rest.throttle
        missed := rest.missed + (if queue.delivery = .accepted then 0 else 1)
        notices := reports ++ rest.notices }

/-- Offer an update to every pipeline. -/
def Inlets.offer (inlets : Inlets) (now : Nat) (update : PriceUpdate) :
    List Notice × Inlets :=
  let result := fanIn now update inlets.queues inlets.throttle
  (result.notices, ⟨result.queues, result.throttle⟩)

/-- Offer updates to every pipeline, in order. -/
def Inlets.offerAll (now : Nat) : List PriceUpdate → Inlets → List Notice × Inlets
  | [], inlets => ([], inlets)
  | update :: updates, inlets =>
      let (notices, inlets) := inlets.offer now update
      let (more, inlets) := offerAll now updates inlets
      (notices ++ more, inlets)

end PricePublisher.Feed
