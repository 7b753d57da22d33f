import PricePublisher.Connection.Message
import PricePublisher.Proofs.Feed.Interleaving

/-!
# What pipelines receive from a feed

While a feed is read, the consumers of the pipelines drain and close their channels, and
other feeds offer updates to the same channels.  A log tells all of this in order: every
event around the feed, with the updates that the feed offers to the pipelines then.

A log is written without a look at any queue.  It says what is done to each channel, and
from this it follows what the consumer of the channel gets (`Receives`).
-/

namespace PricePublisher.Feed

/-- What happens around a feed. -/
inductive FeedEvent where
  | arrival (now : Nat) (arrival : Arrival)
  /-- A consumer or another feed acts on the channel of a pipeline. -/
  | elsewhere (move : ChannelMove)

/-- Events in order, each with the updates that the feed offers to every pipeline then. -/
abbrev FeedLog := List (FeedEvent × List PriceUpdate)

/-- The log of events at which nothing is offered. -/
def quiet (events : List FeedEvent) : FeedLog :=
  events.map fun event => (event, [])

/-- What an event and the offers that come with it do to a channel. -/
def FeedEvent.actsOn (number : Nat) (updates : List PriceUpdate) : FeedEvent → List ChannelAct
  | .arrival now _ => updates.map (.offered now)
  | .elsewhere move => if move.number = number then [move.act] else []

/-- What is done to a channel, according to a log. -/
def channelActs (number : Nat) (log : FeedLog) : List ChannelAct :=
  log.flatMap fun entry => entry.1.actsOn number entry.2

/--
What a consumer has drained and what still waits for it are, in order, what waited at
first and the updates that were offered while the channel was open and not full.  Only a
consumer that goes away loses something of this.
-/
structure Receives
    (queue : Queue PriceUpdate) (acts : List ChannelAct) (final : Queue PriceUpdate) :
    Prop where
  front : takenBy queue acts ++ final.items <+: queue.items ++ receivedBy queue acts
  whole : .abandoned ∉ acts →
    takenBy queue acts ++ final.items = queue.items ++ receivedBy queue acts

theorem receives_changeAll (queue : Queue PriceUpdate) (acts : List ChannelAct) :
    Receives queue acts (changeAll queue acts) :=
  ⟨takenBy_isPrefix queue acts, takenBy_append_items queue⟩

/-- What is left for a consumer that stays: all but what it has drained. -/
theorem Receives.items_eq_drop {queue final : Queue PriceUpdate} {acts : List ChannelAct}
    (receives : Receives queue acts final) (stays : .abandoned ∉ acts) :
    final.items = (queue.items ++ receivedBy queue acts).drop (takenBy queue acts).length := by
  rw [← receives.whole stays, List.drop_left]

@[simp]
theorem quiet_nil : quiet [] = [] :=
  rfl

@[simp]
theorem quiet_cons (event : FeedEvent) (events : List FeedEvent) :
    quiet (event :: events) = (event, []) :: quiet events :=
  rfl

theorem channelActs_append (number : Nat) (early late : FeedLog) :
    channelActs number (early ++ late) = channelActs number early ++ channelActs number late :=
  List.flatMap_append

theorem channelActs_single (number : Nat) (event : FeedEvent) (updates : List PriceUpdate) :
    channelActs number [(event, updates)] = event.actsOn number updates :=
  List.flatMap_singleton _ _

/-- What waits for a consumer is lost only by a move of its own. -/
theorem elsewhere_mem_of_abandoned {number : Nat} {log : FeedLog}
    (gone : .abandoned ∈ channelActs number log) :
    .elsewhere ⟨number, .abandoned⟩ ∈ log.map Prod.fst := by
  rcases List.mem_flatMap.mp gone with ⟨⟨event, updates⟩, logged, acted⟩
  refine List.mem_map.mpr ⟨(event, updates), logged, ?_⟩
  cases event with
  | arrival now arrival =>
      rcases List.mem_map.mp acted with ⟨update, _, offered⟩
      cases offered
  | elsewhere move =>
      rcases move with ⟨other, act⟩
      by_cases own : other = number
      · simp only [FeedEvent.actsOn, if_pos own, List.mem_singleton] at acted
        rw [own, acted]
      · simp [FeedEvent.actsOn, own] at acted

theorem map_fst_quiet (events : List FeedEvent) : (quiet events).map Prod.fst = events :=
  List.map_map.trans (List.map_id events)

theorem changeAll_append (queue : Queue PriceUpdate) (early late : List ChannelAct) :
    changeAll queue (early ++ late) = changeAll (changeAll queue early) late :=
  List.foldl_append

/-- A call of `fanIn` pushes the update to every queue. -/
theorem queues_fanIn (now : Nat) (update : PriceUpdate) (queues : List (Queue PriceUpdate))
    (throttle : Throttle) :
    (fanIn now update queues throttle).queues = queues.map fun queue => queue.push update := by
  induction queues generalizing throttle with
  | nil => rfl
  | cons queue rest induction =>
      rw [fanIn_cons, List.map_cons, induction]

namespace Inlets

/-- A consumer or another feed acts on a channel. -/
def act (inlets : Inlets) (move : ChannelMove) : Inlets :=
  { inlets with
    queues := inlets.queues.modify move.number fun queue => move.act.change queue }

/-- The queues of one state come from those of another by what a log tells. -/
def Follows (start : Inlets) (log : FeedLog) (last : Inlets) : Prop :=
  ∀ number : Nat, last.queues[number]? =
    (start.queues[number]?).map fun queue => changeAll queue (channelActs number log)

theorem getElem?_offerAll (now : Nat) (updates : List PriceUpdate) (inlets : Inlets)
    (number : Nat) :
    (offerAll now updates inlets).2.queues[number]? =
      (inlets.queues[number]?).map fun queue => changeAll queue (updates.map (.offered now)) := by
  induction updates generalizing inlets with
  | nil => exact Option.map_id'.symm
  | cons update rest induction =>
      have offered : (inlets.offer now update).2.queues = inlets.queues.map fun queue =>
          queue.push update := queues_fanIn now update inlets.queues inlets.throttle
      have later := induction (inlets.offer now update).2
      rw [offered, List.getElem?_map, Option.map_map] at later
      exact later

namespace Follows

variable {start middle last : Inlets}

theorem refl (inlets : Inlets) : inlets.Follows [] inlets :=
  fun _ => Option.map_id'.symm

theorem trans {early late : FeedLog}
    (first : start.Follows early middle) (second : middle.Follows late last) :
    start.Follows (early ++ late) last := by
  intro number
  rw [second number, first number, Option.map_map, channelActs_append]
  exact congrArg (Option.map · _) (funext fun queue => (changeAll_append queue _ _).symm)

theorem cons {event : FeedEvent} {updates : List PriceUpdate} {log : FeedLog}
    (first : start.Follows [(event, updates)] middle) (rest : middle.Follows log last) :
    start.Follows ((event, updates) :: log) last :=
  first.trans rest

theorem offerAll
    (inlets : Inlets) (now : Nat) (arrival : Arrival) (updates : List PriceUpdate) :
    inlets.Follows [(.arrival now arrival, updates)] (Inlets.offerAll now updates inlets).2 := by
  intro number
  rw [channelActs_single]
  exact getElem?_offerAll now updates inlets number

/-- An arrival at which nothing is offered changes no queue. -/
theorem arrival (inlets : Inlets) (now : Nat) (arrival : Arrival) :
    inlets.Follows [(.arrival now arrival, [])] inlets :=
  fun _ => Option.map_id'.symm

theorem elsewhere (inlets : Inlets) (move : ChannelMove) :
    inlets.Follows [(.elsewhere move, [])] (inlets.act move) := by
  intro number
  rw [channelActs_single, act, List.getElem?_modify]
  refine congrArg (Option.map · _) (funext fun queue => ?_)
  rw [FeedEvent.actsOn]
  split <;> rfl

/-- Each pipeline receives what the log tells about its channel. -/
theorem receives {log : FeedLog} (follows : start.Follows log last) {number : Nat}
    {queue : Queue PriceUpdate} (found : start.queues[number]? = some queue) :
    ∃ final, last.queues[number]? = some final ∧
      Receives queue (channelActs number log) final := by
  refine ⟨_, ?_, receives_changeAll queue _⟩
  rw [follows number, found, Option.map_some]

end Follows

end Inlets

end PricePublisher.Feed
