import PricePublisher.Notice
import PricePublisher.Wire.Feed

/-!
# Messages of feeds

A message is an envelope around a list of elements.  A pushed message is taken
only if it says that it holds prices; of its elements those before the first
unusable one count.  A message from a pulled feed is taken whatever its type,
and an unusable element is skipped with a notice.
-/

namespace PricePublisher.Feed

open Json

/-- The type of a pushed message with prices. -/
def pricesKind : String := "prices"

/-- Read a pushed message. -/
def pushedMessage? (text : String) : Option (Envelope (List PushedPrice)) :=
  (Envelope.decoder (Decoder.list PushedPrice.decoder)).run? text

/-- Read a message from a pulled feed. -/
def pulledMessage? (text : String) : Option (Envelope (List PulledPrice)) :=
  (Envelope.decoder (Decoder.list PulledPrice.decoder)).run? text

/-- What is reported about an element that is skipped. -/
def skippedNotice : Notice :=
  ⟨.warning, "Skipping pull-based price update"⟩

/-- The updates that usable elements report, and a notice for each other one. -/
def collectPulled : List PulledPrice → List PriceUpdate × List Notice
  | [] => ([], [])
  | pulled :: rest =>
      let (updates, notices) := collectPulled rest
      match pulled.toUpdate with
      | .ok update => (update :: updates, notices)
      | .error _ => (updates, skippedNotice :: notices)

/-- The updates in a message from a pulled feed, and what is reported about it. -/
def pulledUpdates? (text : String) : Option (List PriceUpdate × List Notice) :=
  (pulledMessage? text).map fun message => collectPulled (message.data.getD [])

end PricePublisher.Feed
