import PricePublisher.Feed.Puller
import PricePublisher.Proofs.Feed.Offers

/-!
# A session with a provider

A session reads answers: what arrives, without pings and pongs.  The first answer is
the greeting, whatever it is.  If there is a subscription it is sent then, once, and
the next answer has to be a text.  Of the answers that are left, the session takes the
longest front of texts that can be read, and offers the usable elements of each.

The session is over as soon as the response to a subscription is no text, or one of
the later answers is no text that can be read; it offers nothing from there on.
-/

namespace PricePublisher

/-- The update that a pulled element reports, if its price is a decimal. -/
def PulledPrice.update? (pulled : PulledPrice) : Option PriceUpdate :=
  pulled.toUpdate.toOption

namespace Feed

/-- The answer that something arriving makes to a read, unless it is passed over. -/
def FeedEvent.answer? : FeedEvent → Option (Except ReadError String)
  | .arrival _ incoming => incoming.answer?
  | .elsewhere _ => none

/-- Only what arrives makes an answer. -/
theorem FeedEvent.exists_arrival_of_answer
    {event : FeedEvent} {answer : Except ReadError String}
    (answered : event.answer? = some answer) :
    ∃ now arrival, event = .arrival now arrival ∧ arrival.answer? = some answer := by
  cases event with
  | arrival now arrival => exact ⟨now, arrival, rfl, answered⟩
  | elsewhere move => cases answered

/-- The updates in an answer with prices, unless it is no text that can be read. -/
def readUpdates? : Except ReadError String → Option (List PriceUpdate)
  | .ok content =>
      (pulledMessage? content).map fun message =>
        (message.data.getD []).filterMap PulledPrice.update?
  | .error _ => none

/-- The updates in each answer of the longest front of answers that can all be read. -/
def frontUpdatesOf (answers : List (Except ReadError String)) : List (List PriceUpdate) :=
  ((answers.map readUpdates?).takeWhile Option.isSome).map fun updates => updates.getD []

/-- The answers that are left for prices after the response to a subscription. -/
def afterResponse : List (Except ReadError String) → List (Except ReadError String)
  | .ok _ :: answers => answers
  | _ => []

/-- The answers that are left for prices after the greeting and, if there is one, the response. -/
def priceAnswers (subscribes : Bool) (answers : List (Except ReadError String)) :
    List (Except ReadError String) :=
  if subscribes then afterResponse (answers.drop 1) else answers.drop 1

/-- Whether the response to a subscription has failed. -/
def responseFails : List (Except ReadError String) → Bool
  | .error _ :: _ => true
  | _ => false

/-- Whether an answer that should hold prices cannot be read. -/
def pricesFail (answers : List (Except ReadError String)) : Bool :=
  answers.any fun answer => (readUpdates? answer).isNone

/-- The log of events whose answers, one after the other, make the feed offer such updates. -/
def answersLog : List FeedEvent → List (List PriceUpdate) → FeedLog
  | [], _ => []
  | event :: events, offers =>
      match event.answer? with
      | none => (event, []) :: answersLog events offers
      | some _ => (event, offers.headD []) :: answersLog events offers.tail

theorem map_fst_answersLog (events : List FeedEvent) (offers : List (List PriceUpdate)) :
    (answersLog events offers).map Prod.fst = events := by
  induction events generalizing offers with
  | nil => rfl
  | cons event rest induction =>
      rw [answersLog]
      cases event.answer? with
      | none => exact congrArg (event :: ·) (induction offers)
      | some answer => exact congrArg (event :: ·) (induction offers.tail)

theorem collectPulled_eq (elements : List PulledPrice) :
    (collectPulled elements).1 = elements.filterMap PulledPrice.update? := by
  induction elements with
  | nil => rfl
  | cons pulled rest induction =>
      unfold collectPulled
      rw [List.filterMap_cons, ← induction]
      cases converted : pulled.toUpdate with
      | ok update => simp [PulledPrice.update?, converted, Except.toOption]
      | error cause => simp [PulledPrice.update?, converted, Except.toOption]

namespace PullSession

/-- The requests that a session sends and its state after events, when all writes succeed. -/
def following (limit : Duration) : PullSession → List FeedEvent → List String × PullSession
  | session, [] => ([], session)
  | session, .arrival now arrival :: events =>
      let step := session.step now limit .ready arrival
      let (requests, last) := step.session.following limit events
      (step.requests ++ requests, last)
  | session, .elsewhere move :: events =>
      { session with inlets := session.inlets.act move }.following limit events

/-- Arrivals at one time are a case of this. -/
theorem run_eq_following
    (session : PullSession) (now : Nat) (limit : Duration) (arrivals : List Arrival) :
    ((session.run now limit .ready arrivals).requests,
        (session.run now limit .ready arrivals).session) =
      session.following limit (arrivals.map (.arrival now)) := by
  induction arrivals generalizing session with
  | nil => rfl
  | cons arrival rest induction =>
      simp only [run, List.map_cons, following, ← induction]

variable {limit : Duration} {session : PullSession}

/-! ## One phase at a time -/

/--
What a session has done after events, said by its requests, the updates that it offers at
its answers, and its end.
-/
structure Does
    (limit : Duration) (session : PullSession) (events : List FeedEvent)
    (requests : List String) (offers : List (List PriceUpdate)) (ended : Bool) : Prop where
  requests : (session.following limit events).1 = requests
  offers : session.inlets.Follows (answersLog events offers)
    (session.following limit events).2.inlets
  ended : (session.following limit events).2.phase = .ended ↔ ended = true

/-- Events that make no answer leave a session as it is, up to the queues. -/
theorem Does.cons_of_no_answer
    {event : FeedEvent} {events : List FeedEvent} {requests : List String}
    {offers : List (List PriceUpdate)} {ended : Bool}
    (passed : event.answer? = none)
    (rest : ∀ inlets, Does limit { session with inlets := inlets } events requests offers ended) :
    Does limit session (event :: events) requests offers ended := by
  have log : answersLog (event :: events) offers = (event, []) :: answersLog events offers := by
    rw [answersLog, passed]
  cases event with
  | elsewhere move =>
      rcases rest (session.inlets.act move) with ⟨sent, followed, ended⟩
      exact ⟨sent, log ▸ (Inlets.Follows.elsewhere _ move).cons followed, ended⟩
  | arrival now arrival =>
      have unchanged : session.following limit (.arrival now arrival :: events) =
          session.following limit events := by
        have control : arrival.answer? = none := passed
        simp [following, step, control]
      rcases rest session.inlets with ⟨sent, followed, ended⟩
      constructor
      · rw [unchanged]
        exact sent
      · rw [unchanged, log]
        exact (Inlets.Follows.arrival _ now arrival).cons followed
      · rw [unchanged]
        exact ended

/-- An answer does what it does, and then the session goes on. -/
theorem Does.cons_of_answer
    {now : Nat} {arrival : Arrival} {events : List FeedEvent}
    {answer : Except ReadError String} {next : PullSession} {sent requests : List String}
    {notices : List Notice} {offers : List (List PriceUpdate)} {ended : Bool}
    (answered : arrival.answer? = some answer)
    (read : session.onRead now limit .ready answer = ⟨next, sent, notices⟩)
    (followed : session.inlets.Follows [(.arrival now arrival, offers.headD [])] next.inlets)
    (rest : Does limit next events requests offers.tail ended) :
    Does limit session (.arrival now arrival :: events) (sent ++ requests) offers ended := by
  have stepped : session.step now limit .ready arrival = ⟨next, sent, notices⟩ := by
    rw [step, answered]
    exact read
  have log : answersLog (.arrival now arrival :: events) offers =
      (.arrival now arrival, offers.headD []) :: answersLog events offers.tail := by
    rw [answersLog, FeedEvent.answer?, answered]
  rcases rest with ⟨restSent, restFollowed, ended⟩
  constructor
  · rw [following, stepped, ← restSent]
  · rw [following, stepped, log]
    exact followed.cons restFollowed
  · rw [following, stepped]
    exact ended

theorem does_of_ended
    (ended : session.phase = .ended) (events : List FeedEvent) :
    Does limit session events [] [] true := by
  induction events generalizing session with
  | nil => exact ⟨rfl, .refl _, iff_of_true ended rfl⟩
  | cons event rest induction =>
      cases answered : event.answer? with
      | none => exact .cons_of_no_answer answered fun inlets => induction ended
      | some answer =>
          obtain ⟨now, arrival, rfl, answered⟩ := FeedEvent.exists_arrival_of_answer answered
          have idle : session.onRead now limit .ready answer = ⟨session, [], []⟩ := by
            simp [onRead, ended]
          exact .cons_of_answer answered idle (.arrival _ _ _) (induction ended)

/-- A session that takes prices ends at an answer that cannot be read. -/
theorem onRead_of_unreadable
    (now : Nat) (limit : Duration) {answer : Except ReadError String}
    (prices : session.phase = .prices) (unreadable : readUpdates? answer = none) :
    ∃ notices,
      session.onRead now limit .ready answer = ⟨session.inPhase .ended, [], notices⟩ := by
  rcases answer with cause | content
  · exact ⟨[cause.notice], by simp [onRead, prices]⟩
  · have failed : pulledMessage? content = none := Option.map_eq_none_iff.mp unreadable
    exact ⟨[undecodableNotice], by simp [onRead, prices, onPrices, pulledUpdates?, failed]⟩

/-- A session that takes prices offers the usable elements of an answer that can be read. -/
theorem onRead_of_readable
    (now : Nat) (limit : Duration) {answer : Except ReadError String}
    {updates : List PriceUpdate} (prices : session.phase = .prices)
    (readable : readUpdates? answer = some updates) :
    ∃ notices,
      session.onRead now limit .ready answer =
        ⟨{ session with inlets := (Inlets.offerAll now updates session.inlets).2 }, [],
          notices⟩ := by
  rcases answer with cause | content
  · cases readable
  · rcases Option.map_eq_some_iff.mp readable with ⟨message, decoded, rfl⟩
    refine ⟨(collectPulled (message.data.getD [])).2 ++ (Inlets.offerAll now
      ((message.data.getD []).filterMap PulledPrice.update?) session.inlets).1, ?_⟩
    simp only [onRead, prices, onPrices, pulledUpdates?, decoded, Option.map_some,
      collectPulled_eq]

/-- A session that takes prices offers the longest front of what can be read. -/
theorem does_of_prices
    (prices : session.phase = .prices) (events : List FeedEvent) :
    Does limit session events [] (frontUpdatesOf (events.filterMap FeedEvent.answer?))
      (pricesFail (events.filterMap FeedEvent.answer?)) := by
  induction events generalizing session with
  | nil =>
      refine ⟨rfl, .refl _, ?_⟩
      simp [following, prices, pricesFail]
  | cons event rest induction =>
      cases answered : event.answer? with
      | none =>
          rw [List.filterMap_cons_none answered]
          exact .cons_of_no_answer answered fun inlets => induction prices
      | some answer =>
          rw [List.filterMap_cons_some answered]
          obtain ⟨now, arrival, rfl, answered⟩ := FeedEvent.exists_arrival_of_answer answered
          cases offered : readUpdates? answer with
          | none =>
              rcases onRead_of_unreadable now limit prices offered with ⟨notices, read⟩
              have front : frontUpdatesOf (answer :: rest.filterMap FeedEvent.answer?) =
                  [] := by
                simp [frontUpdatesOf, offered]
              have fails : pricesFail (answer :: rest.filterMap FeedEvent.answer?) =
                  true := by
                simp [pricesFail, offered]
              rw [front, fails]
              exact .cons_of_answer answered read (.arrival _ _ _) (does_of_ended rfl rest)
          | some updates =>
              rcases onRead_of_readable now limit prices offered with ⟨notices, read⟩
              have front : frontUpdatesOf (answer :: rest.filterMap FeedEvent.answer?) =
                  updates :: frontUpdatesOf (rest.filterMap FeedEvent.answer?) := by
                simp [frontUpdatesOf, offered]
              have fails : pricesFail (answer :: rest.filterMap FeedEvent.answer?) =
                  pricesFail (rest.filterMap FeedEvent.answer?) := by
                simp [pricesFail, offered]
              rw [front, fails]
              exact .cons_of_answer answered read (.offerAll _ _ _ _) (induction prices)

/-- A session that waits for a response goes on if it is a text. -/
theorem does_of_response
    (response : session.phase = .response) (events : List FeedEvent) :
    Does limit session events []
      ([] :: frontUpdatesOf (afterResponse (events.filterMap FeedEvent.answer?)))
      (responseFails (events.filterMap FeedEvent.answer?) ||
        pricesFail (afterResponse (events.filterMap FeedEvent.answer?))) := by
  induction events generalizing session with
  | nil =>
      refine ⟨rfl, .refl _, ?_⟩
      simp [following, response, responseFails, afterResponse, pricesFail]
  | cons event rest induction =>
      cases answered : event.answer? with
      | none =>
          rw [List.filterMap_cons_none answered]
          exact .cons_of_no_answer answered fun inlets => induction response
      | some answer =>
          rw [List.filterMap_cons_some answered]
          obtain ⟨now, arrival, rfl, answered⟩ := FeedEvent.exists_arrival_of_answer answered
          rcases answer with cause | content
          · have read : session.onRead now limit .ready (.error cause) =
                ⟨session.inPhase .ended, [], [failedNotice]⟩ := by
              simp [onRead, response]
            exact .cons_of_answer answered read (.arrival _ _ _) (does_of_ended rfl rest)
          · have read : session.onRead now limit .ready (.ok content) =
                ⟨session.inPhase .prices, [], []⟩ := by
              simp [onRead, response]
            exact .cons_of_answer answered read (.arrival _ _ _) (does_of_prices rfl rest)

/-- The first answer is the greeting; it makes the session send its subscription. -/
theorem onRead_greeting
    (now : Nat) (limit : Duration) (greeting : session.phase = .greeting)
    (answer : Except ReadError String) :
    ∃ notices,
      session.onRead now limit .ready answer =
        ⟨session.inPhase (if session.subscription.isSome then .response else .prices),
          session.subscription.toList, notices⟩ := by
  rcases answer with cause | content
  · cases subscribed : session.subscription with
    | none => exact ⟨[greetingNotice], by simp [onRead, greeting, subscribe, subscribed]⟩
    | some request =>
        exact ⟨[greetingNotice],
          by simp [onRead, greeting, subscribe, subscribed, Sink.write]⟩
  · cases subscribed : session.subscription with
    | none => exact ⟨[], by simp [onRead, greeting, subscribe, subscribed]⟩
    | some request =>
        exact ⟨[], by simp [onRead, greeting, subscribe, subscribed, Sink.write]⟩

/-- What a whole session does. -/
theorem does_of_greeting
    (greeting : session.phase = .greeting) (events : List FeedEvent) :
    let answers := events.filterMap FeedEvent.answer?
    let subscribes := session.subscription.isSome
    Does limit session events
      (if answers = [] then [] else session.subscription.toList)
      (List.replicate (if subscribes then 2 else 1) [] ++
        frontUpdatesOf (priceAnswers subscribes answers))
      ((subscribes && responseFails (answers.drop 1)) ||
        pricesFail (priceAnswers subscribes answers)) := by
  -- Only events that make no answer use the induction; the first answer ends this phase.
  induction events generalizing session with
  | nil =>
      refine ⟨rfl, .refl _, ?_⟩
      cases subscribed : session.subscription <;>
        simp [following, greeting, responseFails, priceAnswers, afterResponse, pricesFail]
  | cons event rest induction =>
      intro answers subscribes
      cases answered : event.answer? with
      | none =>
          have same : answers = rest.filterMap FeedEvent.answer? :=
            List.filterMap_cons_none answered
          rw [same]
          exact .cons_of_no_answer answered fun inlets => induction greeting
      | some answer =>
          have first : answers = answer :: rest.filterMap FeedEvent.answer? :=
            List.filterMap_cons_some answered
          obtain ⟨now, arrival, rfl, answered⟩ := FeedEvent.exists_arrival_of_answer answered
          rcases onRead_greeting now limit greeting answer with ⟨notices, read⟩
          rw [first, if_neg (List.cons_ne_nil _ _),
            ← List.append_nil session.subscription.toList]
          cases subscribed : subscribes with
          | false =>
              rw [if_neg (ne_true_of_eq_false subscribed)] at read
              exact .cons_of_answer answered read (.arrival _ _ _)
                (does_of_prices rfl rest)
          | true =>
              rw [if_pos subscribed] at read
              exact .cons_of_answer answered read (.arrival _ _ _)
                (does_of_response rfl rest)

/--
What a session with a provider does, whatever state the channels are in and whatever the
consumers and other feeds do.  The first answer is the greeting, and any answer will do.  A
subscription that is not empty is sent once the greeting is there, and no other request ever;
the answer that follows it is its response.  Nothing is offered at these, and then, answer by
answer, the usable elements of the longest front of readable texts among the answers that are
left.  Each pipeline receives those that find its channel open and not full.  The session ends
exactly if the response is no text or one of the answers that are left cannot be read.
-/
theorem takes_slots_then_longest_front
    (limit : Duration) (subscription : Option String) (queues : List (Queue PriceUpdate))
    (events : List FeedEvent) :
    let answers := events.filterMap FeedEvent.answer?
    let configured := subscription.filter fun text => text ≠ ""
    let slots := if configured.isSome then 2 else 1
    let left := priceAnswers configured.isSome answers
    let log := answersLog events (List.replicate slots [] ++ frontUpdatesOf left)
    let (requests, last) := (opened subscription queues).following limit events
    requests = (if answers = [] then [] else configured.toList) ∧
      (∀ number queue, queues[number]? = some queue →
        ∃ final, last.inlets.queues[number]? = some final ∧
          Receives queue (channelActs number log) final) ∧
      (last.phase = .ended ↔
        (configured.isSome ∧ responseFails (answers.drop 1)) ∨ pricesFail left) := by
  intro answers configured slots left log
  have same : (opened subscription queues).subscription = configured := by
    have test : (fun text : String => !text.isEmpty) = fun text => decide (text ≠ "") := by
      funext text
      rw [Bool.eq_iff_iff]
      simp
    exact congrArg subscription.filter test
  rcases @does_of_greeting limit (opened subscription queues) rfl events with
    ⟨requests, followed, ended⟩
  rw [same] at requests followed ended
  refine ⟨requests, fun number queue found => followed.receives found, ended.trans ?_⟩
  rw [Bool.or_eq_true, Bool.and_eq_true]

/-- A message with prices, said by the assets and the written prices. -/
def pulledText (elements : List (String × String)) : String :=
  let written := elements.map fun (asset, price) =>
    "\x7b\"t\":1,\"a\":\"" ++ asset ++ "\",\"p\":" ++ price ++ "\x7d"
  "\x7b\"type\":\"update\",\"data\":[" ++ ",".intercalate written ++ "]\x7d"

/-- A provider that greets in binary and ends with a text that is no message. -/
def providerEvents : List FeedEvent := [
  .arrival 0 (.frame .ping),
  .arrival 1 (.frame (.binary "hello")),
  .arrival 2 (.frame (.text (pulledText [("R", "9")]))),
  .arrival 3 (.frame (.text (pulledText [("A", "1"), ("B", "1e30"), ("C", "2.5")]))),
  .elsewhere ⟨0, .drained 1⟩,
  .arrival 4 (.frame .pong),
  .arrival 5 (.frame (.text (pulledText [("D", "3"), ("E", "4")]))),
  .arrival 6 (.frame (.text "prices")),
  .arrival 7 (.frame (.text (pulledText [("F", "5")])))]

/--
The price `1e30` is no decimal, so its element is skipped.  The response looks like prices,
but nothing in it is offered, and nothing after the text that is no message.
-/
theorem takes_slots_then_longest_front_of_binary_greeting :
    let queues := [.ofCapacity 1, .ofCapacity 8]
    let (requests, last) :=
      (opened (some "subscribe") queues).following (.ofSeconds 1) providerEvents
    requests = ["subscribe"] ∧
      (∃ narrow wide, last.inlets.queues[0]? = some narrow ∧
        last.inlets.queues[1]? = some wide ∧
        narrow.items.map (·.asset) = ["D"] ∧
        wide.items.map (·.asset) = ["A", "C", "D", "E"]) ∧
      last.phase = .ended := by
  intro queues
  let offers := List.replicate 2 [] ++
    frontUpdatesOf (priceAnswers true (providerEvents.filterMap FeedEvent.answer?))
  have stays : ∀ number, .abandoned ∉ channelActs number (answersLog providerEvents offers) := by
    intro number gone
    have logged := elsewhere_mem_of_abandoned gone
    rw [map_fst_answersLog] at logged
    simp [providerEvents] at logged
  have fails : pricesFail
      (priceAnswers true (providerEvents.filterMap FeedEvent.answer?)) = true := by
    decide +kernel
  rcases takes_slots_then_longest_front (.ofSeconds 1) (some "subscribe") queues
    providerEvents with ⟨requests, receives, ended⟩
  rcases receives 0 _ rfl with ⟨narrow, narrowFound, narrowReceives⟩
  rcases receives 1 _ rfl with ⟨wide, wideFound, wideReceives⟩
  have narrowItems := congrArg (List.map (·.asset)) (narrowReceives.items_eq_drop (stays 0))
  have wideItems := congrArg (List.map (·.asset)) (wideReceives.items_eq_drop (stays 1))
  refine ⟨requests.trans (by decide), ⟨narrow, wide, narrowFound, wideFound, ?_, ?_⟩,
    ended.mpr (.inr fails)⟩
  · exact narrowItems.trans (by decide +kernel)
  · exact wideItems.trans (by decide +kernel)

end PullSession

end Feed

end PricePublisher
