import PricePublisher.Feed.ReaderSession
import PricePublisher.Proofs.Feed.Offers

/-!
# Serving a client frame by frame

Each text that a client sends has a result of its own: the updates at the front of
its elements, up to the first that is no price, and an answer if the text or one of
its elements is unusable.  What a client causes altogether is the concatenation of
these results, up to the first frame or failure that ends the reading.  No text ends
it.  At its end the connection has been closed, and the socket after all answers.

The updates are offered to each pipeline, and each receives those that find its channel
open and not full, whatever the other channels, the consumers and other feeds do.
-/

namespace PricePublisher

/-- The update that a pushed element reports, if it is a price. -/
def PushedPrice.update? (pushed : PushedPrice) : Option PriceUpdate :=
  pushed.toUpdate.toOption

namespace Feed

/-! ## The result of one text -/

/-- The updates of the longest front of elements that are all prices. -/
def frontUpdates (elements : List PushedPrice) : List PriceUpdate :=
  (elements.takeWhile fun pushed => pushed.update?.isSome).filterMap PushedPrice.update?

/-- The updates that a text makes a client offer. -/
def offeredBy (content : String) : List PriceUpdate :=
  match pushedMessage? content with
  | none => []
  | some message =>
      if message.kind = pricesKind then frontUpdates (message.data.getD []) else []

/-- The answers that a client gets to a text. -/
def answersTo (content : String) : List String :=
  match pushedMessage? content with
  | none => [parseErrorReply]
  | some message =>
      if message.kind = pricesKind ∧
          ∃ pushed ∈ message.data.getD [], pushed.update? = none then
        [parseErrorReply]
      else []

theorem usablePart_eq (elements : List PushedPrice) :
    usablePart elements =
      (frontUpdates elements, elements.any fun pushed => pushed.update?.isNone) := by
  induction elements with
  | nil => rfl
  | cons pushed rest induction =>
      unfold usablePart
      cases converted : pushed.toUpdate with
      | error cause =>
          have unusable : pushed.update? = none := by
            rw [PushedPrice.update?, converted]
            rfl
          simp [frontUpdates, unusable]
      | ok update =>
          have usable : pushed.update? = some update := by
            rw [PushedPrice.update?, converted]
            rfl
          simp [induction, frontUpdates, usable]

theorem Reader.onText_inlets (reader : Reader) (now : Nat) (content : String) :
    (reader.onText now content).reader =
      { reader with
        inlets := (Inlets.offerAll now (offeredBy content) reader.inlets).2 } := by
  unfold onText Pushed.ofText offeredBy
  cases pushedMessage? content with
  | none => rfl
  | some message =>
      by_cases prices : message.kind = pricesKind
      · simp only [if_pos prices, usablePart_eq]
        split <;> rfl
      · simp only [if_neg prices]
        rfl

theorem Reader.onText_replies (reader : Reader) (now : Nat) (content : String) :
    (reader.onText now content).replies = answersTo content := by
  unfold onText Pushed.ofText answersTo
  cases pushedMessage? content with
  | none => rfl
  | some message =>
      by_cases prices : message.kind = pricesKind
      · by_cases unusable : ∃ pushed ∈ message.data.getD [], pushed.update? = none
        · have failed :
              ((message.data.getD []).any fun pushed => pushed.update?.isNone) = true := by
            simpa using unusable
          simp only [if_pos prices, usablePart_eq, if_pos failed,
            if_pos (And.intro prices unusable)]
        · have passed :
              ¬ ((message.data.getD []).any fun pushed => pushed.update?.isNone) = true := by
            simpa using unusable
          have silent : ¬ (message.kind = pricesKind ∧
              ∃ pushed ∈ message.data.getD [], pushed.update? = none) :=
            fun both => unusable both.2
          simp only [if_pos prices, usablePart_eq, if_neg passed, if_neg silent]
      · have silent : ¬ (message.kind = pricesKind ∧
            ∃ pushed ∈ message.data.getD [], pushed.update? = none) :=
          fun both => prices both.1
        simp only [if_neg prices, if_neg silent]

/-! ## The result of all that arrives -/

namespace FeedEvent

/-- Whether something that arrives ends the reading: all but texts, pings and pongs do. -/
def endsReading : FeedEvent → Bool
  | .elsewhere _ => false
  | .arrival _ (.frame (.text _)) => false
  | .arrival _ (.frame .ping) => false
  | .arrival _ (.frame .pong) => false
  | .arrival _ _ => true

def offers : FeedEvent → List PriceUpdate
  | .arrival _ (.frame (.text content)) => offeredBy content
  | _ => []

def answers : FeedEvent → List String
  | .arrival _ (.frame (.text content)) => answersTo content
  | _ => []

end FeedEvent

namespace ReaderSession

/-- A session after an event, when all that is written gets through. -/
def after (limit : Duration) (session : ReaderSession) : FeedEvent → ReaderSession
  | .arrival now arrival => (session.take now limit .ready arrival).2
  | .elsewhere move =>
      { session with
        reader := { session.reader with inlets := session.reader.inlets.act move } }

variable {session : ReaderSession} {event : FeedEvent}

theorem reply_ready (session : ReaderSession) (limit : Duration) (replies : List String) :
    session.reply limit .ready replies =
      ([], { session with sent := session.sent ++ replies.map .text }) := by
  induction replies generalizing session with
  | nil => simp [reply]
  | cons text rest induction =>
      simp only [reply, Sink.write, induction, List.map_cons, List.append_assoc,
        List.singleton_append]

/-- What happens while a session goes on has its result and leaves the session open. -/
theorem after_of_open
    (limit : Duration) (isOpen : session.reader.isOpen = true)
    (continues : event.endsReading = false) :
    session.reader.inlets.Follows [(event, event.offers)]
        (session.after limit event).reader.inlets ∧
      (session.after limit event).sent = session.sent ++ event.answers.map .text ∧
      (session.after limit event).reader.isOpen = true ∧
      (session.after limit event).handle = session.handle := by
  have passed : ∀ now arrival, arrival.answer? = none →
      session.after limit (.arrival now arrival) = session := by
    intro now arrival control
    simp [after, take, isOpen, Reader.step, control, reply]
  cases event with
  | elsewhere move =>
      refine ⟨.elsewhere _ move, ?_, isOpen, rfl⟩
      exact (List.append_nil session.sent).symm
  | arrival now arrival =>
      cases arrival with
      | failure error => cases continues
      | frame frame =>
          cases frame with
          | text content =>
              have taken : session.after limit (.arrival now (.frame (.text content))) =
                  { session with
                    reader := (session.reader.onText now content).reader
                    sent := session.sent ++ (answersTo content).map .text } := by
                simp [after, take, isOpen, Reader.step, Arrival.answer?,
                  Reader.onText_inlets, Reader.onText_replies, reply_ready]
              rw [taken, Reader.onText_inlets]
              exact ⟨.offerAll _ _ _ _, rfl, isOpen, rfl⟩
          | ping =>
              rw [passed now _ rfl]
              exact ⟨.arrival _ _ _, (List.append_nil _).symm, isOpen, rfl⟩
          | pong =>
              rw [passed now _ rfl]
              exact ⟨.arrival _ _ _, (List.append_nil _).symm, isOpen, rfl⟩
          | _ => cases continues

/-- What ends a session offers nothing, and closes the connection and then the socket. -/
theorem after_of_ends
    (limit : Duration) (isOpen : session.reader.isOpen = true) (ends : event.endsReading = true) :
    session.reader.inlets.Follows [(event, [])] (session.after limit event).reader.inlets ∧
      (session.after limit event).sent = session.sent ++ [.close] ∧
      (session.after limit event).reader.isOpen = false ∧
      (session.after limit event).handle = session.handle.close.2 := by
  have finished : ∀ now arrival cause, arrival.answer? = some (.error cause) →
      session.after limit (.arrival now arrival) =
        { session with reader := session.reader.stop }.finish := by
    intro now arrival cause failed
    simp [after, take, isOpen, Reader.step, failed, Reader.stop]
  cases event with
  | elsewhere move => cases ends
  | arrival now arrival =>
      have failed : ∃ cause, arrival.answer? = some (.error cause) := by
        cases arrival with
        | failure error => cases error <;> exact ⟨_, rfl⟩
        | frame frame =>
            cases frame with
            | close => exact ⟨_, rfl⟩
            | binary content => exact ⟨_, rfl⟩
            | raw => exact ⟨_, rfl⟩
            | _ => cases ends
      rcases failed with ⟨cause, failed⟩
      rw [finished now arrival cause failed]
      exact ⟨.arrival _ _ _, rfl, rfl, rfl⟩

/-- A session that has ended neither offers nor sends anything. -/
theorem foldl_after_of_ended
    (ended : session.reader.isOpen = false) (limit : Duration) (events : List FeedEvent) :
    session.reader.inlets.Follows (quiet events)
        (events.foldl (after limit) session).reader.inlets ∧
      (events.foldl (after limit) session).sent = session.sent ∧
      (events.foldl (after limit) session).reader.isOpen = false ∧
      (events.foldl (after limit) session).handle = session.handle := by
  induction events generalizing session with
  | nil => exact ⟨.refl _, rfl, ended, rfl⟩
  | cons event rest induction =>
      cases event with
      | arrival now arrival =>
          have same : session.after limit (.arrival now arrival) = session := by
            simp [after, take, ended]
          rcases induction ended with ⟨followed, others⟩
          rw [List.foldl_cons, same]
          exact ⟨(Inlets.Follows.arrival _ now arrival).cons followed, others⟩
      | elsewhere move =>
          rcases @induction (session.after limit (.elsewhere move)) ended with
            ⟨followed, others⟩
          exact ⟨(Inlets.Follows.elsewhere _ move).cons followed, others⟩

/-- What a client makes a session offer: nothing any more once the reading has ended. -/
def servedLog (events : List FeedEvent) : FeedLog :=
  let read := events.takeWhile fun event => !event.endsReading
  let rest := events.dropWhile fun event => !event.endsReading
  read.map (fun event => (event, event.offers)) ++ quiet rest

theorem map_fst_servedLog (events : List FeedEvent) :
    (servedLog events).map Prod.fst = events := by
  rw [servedLog, List.map_append, map_fst_quiet, List.map_map]
  exact (congrArg (· ++ _) (List.map_id _)).trans List.takeWhile_append_dropWhile

/-- How a session ends that is open so far. -/
theorem foldl_after_of_open
    (isOpen : session.reader.isOpen = true) (limit : Duration) (events : List FeedEvent) :
    session.reader.inlets.Follows (servedLog events)
        (events.foldl (after limit) session).reader.inlets ∧
      (events.foldl (after limit) session).sent =
        session.sent ++
          ((events.takeWhile fun event => !event.endsReading).flatMap
            FeedEvent.answers).map .text ++
          (if events.any FeedEvent.endsReading then [.close] else []) ∧
      (events.foldl (after limit) session).reader.isOpen =
        !events.any FeedEvent.endsReading ∧
      (events.foldl (after limit) session).handle =
        if events.any FeedEvent.endsReading then session.handle.close.2
        else session.handle := by
  -- The session changes with each event, so the claim is proved for every open one.
  induction events generalizing session with
  | nil => simp [isOpen, servedLog, Inlets.Follows.refl]
  | cons event rest induction =>
      rw [List.foldl_cons]
      cases ends : event.endsReading with
      | false =>
          rcases after_of_open limit isOpen ends with
            ⟨followed, sent, stillOpen, handle⟩
          rcases induction stillOpen with ⟨restFollowed, restSent, restOpen, restHandle⟩
          have log : servedLog (event :: rest) = (event, event.offers) :: servedLog rest := by
            simp [servedLog, ends]
          refine ⟨?_, ?_, ?_, ?_⟩
          · rw [log]
            exact followed.cons restFollowed
          · simp [restSent, sent, ends]
          · simp [restOpen, ends]
          · simp [restHandle, handle, ends]
      | true =>
          rcases after_of_ends limit isOpen ends with ⟨followed, sent, ended, handle⟩
          rcases foldl_after_of_ended ended limit rest with
            ⟨restFollowed, restSent, restOpen, restHandle⟩
          have log : servedLog (event :: rest) = (event, []) :: quiet rest := by
            simp [servedLog, ends]
          refine ⟨?_, ?_, ?_, ?_⟩
          · rw [log]
            exact followed.cons restFollowed
          · simp [restSent, sent, ends]
          · simp [restOpen, ends]
          · simp [restHandle, handle, ends]

/--
A client is served frame by frame, whatever state the channels are in and whatever the
consumers and other feeds do.  Each pipeline is offered the updates of the texts before
the first thing that ends the reading, one after the other, and receives those that find
its channel open and not full.  The answers are those to the same texts.  Exactly if
something ends the reading, the connection is closed, and the socket is closed after the
answers.
-/
theorem serves_frame_by_frame
    (id : Nat) (limit : Duration) (queues : List (Queue PriceUpdate))
    (events : List FeedEvent) :
    let read := events.takeWhile fun event => !event.endsReading
    let rest := events.dropWhile fun event => !event.endsReading
    let log := read.map (fun event => (event, event.offers)) ++ quiet rest
    let ended := events.any FeedEvent.endsReading
    let session := events.foldl (after limit) (opened id queues)
    (∀ number queue, queues[number]? = some queue →
      ∃ final, session.reader.inlets.queues[number]? = some final ∧
        Receives queue (channelActs number log) final) ∧
      session.sent =
        (read.flatMap FeedEvent.answers).map .text ++ (if ended then [.close] else []) ∧
      session.reader.isOpen = !ended ∧
      session.handle.isClosed = ended := by
  intro read rest log ended session
  rcases @foldl_after_of_open (opened id queues) rfl limit events with
    ⟨followed, sent, isOpen, handle⟩
  refine ⟨fun number queue found => followed.receives found, sent, isOpen, ?_⟩
  rw [show session.handle = _ from handle]
  change (if ended then _ else _ : ConnectionHandle).isClosed = ended
  cases ended <;> rfl

/-- A message with prices, said by the assets and the texts of their values. -/
def pricesText (elements : List (String × String)) : String :=
  let written := elements.map fun (asset, value) =>
    "\x7b\"t\":1,\"a\":\"" ++ asset ++ "\",\"v\":\"" ++ value ++ "\"\x7d"
  "\x7b\"type\":\"prices\",\"data\":[" ++ ",".intercalate written ++ "]\x7d"

/-- A client that sends texts of every kind, and a consumer that drains one update. -/
def mixedEvents : List FeedEvent := [
  .arrival 0 (.frame .ping),
  .arrival 1 (.frame (.text "prices")),
  .arrival 2 (.frame (.text "\x7b\"type\":\"hello\"\x7d")),
  .arrival 3 (.frame (.text (pricesText [("A", "1"), ("B", "one"), ("C", "2")]))),
  .elsewhere ⟨0, .drained 1⟩,
  .arrival 4 (.frame (.text (pricesText [("D", "3"), ("E", "4")]))),
  .arrival 5 (.frame .close),
  .arrival 6 (.frame (.text (pricesText [("F", "5")])))]

/--
The second element of the first prices is unusable, so the third is not offered.  A channel
for one update has no room for a second one of the later prices.
-/
theorem serves_frame_by_frame_of_mixed_texts :
    let queues := [.ofCapacity 1, .ofCapacity 8]
    let session := mixedEvents.foldl (after (.ofSeconds 1)) (opened 0 queues)
    (∃ narrow wide, session.reader.inlets.queues[0]? = some narrow ∧
        session.reader.inlets.queues[1]? = some wide ∧
        narrow.items.map (·.asset) = ["D"] ∧ wide.items.map (·.asset) = ["A", "D", "E"]) ∧
      session.sent = [.text parseErrorReply, .text parseErrorReply, .close] ∧
      session.reader.isOpen = false ∧
      session.handle.isClosed = true := by
  intro queues
  have ended : mixedEvents.any FeedEvent.endsReading = true := by decide
  have stays : ∀ number, .abandoned ∉ channelActs number (servedLog mixedEvents) := by
    intro number gone
    have logged := elsewhere_mem_of_abandoned gone
    rw [map_fst_servedLog] at logged
    simp [mixedEvents] at logged
  rcases serves_frame_by_frame 0 (.ofSeconds 1) queues mixedEvents with
    ⟨receives, sent, isOpen, closed⟩
  rw [ended] at sent isOpen closed
  rcases receives 0 _ rfl with ⟨narrow, narrowFound, narrowReceives⟩
  rcases receives 1 _ rfl with ⟨wide, wideFound, wideReceives⟩
  have narrowItems := congrArg (List.map (·.asset)) (narrowReceives.items_eq_drop (stays 0))
  have wideItems := congrArg (List.map (·.asset)) (wideReceives.items_eq_drop (stays 1))
  refine ⟨⟨narrow, wide, narrowFound, wideFound, ?_, ?_⟩, ?_, isOpen, closed⟩
  · exact narrowItems.trans (by decide +kernel)
  · exact wideItems.trans (by decide +kernel)
  · exact sent.trans (by decide +kernel)

end ReaderSession

end Feed

end PricePublisher
