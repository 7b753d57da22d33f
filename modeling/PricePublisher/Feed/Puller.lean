import PricePublisher.Connection.Dial
import PricePublisher.Connection.Read
import PricePublisher.Connection.Write
import PricePublisher.Feed.FanIn
import PricePublisher.Feed.Message

/-!
# Pulling prices

A session with a provider starts with a greeting, whose content does not matter.
If a subscription is configured it is sent next, and its answer has to be a text.
From then on every text is a message with prices; the first arrival that is no
text, or a text that cannot be read, ends the session.

A session that ends is followed by another one after a delay.
-/

namespace PricePublisher.Feed

/-- How far a session has got. -/
inductive PullPhase where
  | greeting
  /-- A subscription has been sent. -/
  | response
  | prices
  | ended
deriving DecidableEq, Repr

/-- A session with a provider. -/
structure PullSession where
  /-- What to send after the greeting, if anything. -/
  subscription : Option String
  phase : PullPhase
  inlets : Inlets

/-- What a step of a session results in. -/
structure PullStep where
  session : PullSession
  requests : List String
  notices : List Notice

namespace PullSession

/-- A session that has just been opened; its throttle is fresh. -/
def opened (subscription : Option String) (queues : List (Queue PriceUpdate)) : PullSession :=
  ⟨subscription.filter fun text => !text.isEmpty, .greeting, ⟨queues, freshThrottle⟩⟩

/-- What is reported when the greeting is missing. -/
def greetingNotice : Notice :=
  ⟨.warning, "Failed to read connection message"⟩

/-- What is reported about a message that cannot be read. -/
def undecodableNotice : Notice :=
  ⟨.error, "Failed to decode pull-based message"⟩

/-- What is reported when a session fails. -/
def failedNotice : Notice :=
  ⟨.error, "Pull-based websocket session failed"⟩

/-- A session in another phase. -/
def inPhase (session : PullSession) (phase : PullPhase) : PullSession :=
  { session with phase := phase }

/-- Send the subscription, if there is one, after the greeting. -/
def subscribe (session : PullSession) (limit : Duration) (sink : Sink)
    (notices : List Notice) : PullStep :=
  match session.subscription with
  | none => ⟨session.inPhase .prices, [], notices⟩
  | some request =>
      match sink.write limit with
      | .ok _ => ⟨session.inPhase .response, [request], notices⟩
      | .error _ => ⟨session.inPhase .ended, [], notices ++ [failedNotice]⟩

/-- Take in a text with prices. -/
def onPrices (session : PullSession) (now : Nat) (text : String) : PullStep :=
  match pulledUpdates? text with
  | none => ⟨session.inPhase .ended, [], [undecodableNotice]⟩
  | some (updates, skipped) =>
      let (missed, inlets) := session.inlets.offerAll now updates
      ⟨{ session with inlets := inlets }, [], skipped ++ missed⟩

/-- Take in what a read answers. -/
def onRead (session : PullSession) (now : Nat) (limit : Duration) (sink : Sink)
    (answer : Except ReadError String) : PullStep :=
  match session.phase, answer with
  | .greeting, .ok _ => session.subscribe limit sink []
  | .greeting, .error _ => session.subscribe limit sink [greetingNotice]
  | .response, .ok _ => ⟨session.inPhase .prices, [], []⟩
  | .response, .error _ => ⟨session.inPhase .ended, [], [failedNotice]⟩
  | .prices, .ok text => session.onPrices now text
  | .prices, .error cause => ⟨session.inPhase .ended, [], [cause.notice]⟩
  | .ended, _ => ⟨session, [], []⟩

/-- Take in what arrives from the provider. -/
def step (session : PullSession) (now : Nat) (limit : Duration) (sink : Sink)
    (arrival : Arrival) : PullStep :=
  match arrival.answer? with
  | none => ⟨session, [], []⟩
  | some answer => session.onRead now limit sink answer

/-- Take in a list of arrivals. -/
def run (session : PullSession) (now : Nat) (limit : Duration) (sink : Sink) :
    List Arrival → PullStep
  | [] => ⟨session, [], []⟩
  | arrival :: rest =>
      let first := session.step now limit sink arrival
      let others := first.session.run now limit sink rest
      ⟨others.session, first.requests ++ others.requests, first.notices ++ others.notices⟩

end PullSession

/-- Where to pull prices from. -/
structure PullSource where
  url : String
  auth : Option String
  subscription : Option String
  reconnectDelay : Duration
  /-- The longest silence; zero waits forever. -/
  readTimeout : Duration

/-- Open a session: it fails with a notice if the provider is not reached. -/
def PullSource.openSession (source : PullSource) (reaches : DialRequest → Bool)
    (queues : List (Queue PriceUpdate)) : Except Notice PullSession :=
  match dial reaches source.url source.auth with
  | .ok _ => .ok (.opened source.subscription queues)
  | .error _ => .error PullSession.failedNotice

end PricePublisher.Feed
