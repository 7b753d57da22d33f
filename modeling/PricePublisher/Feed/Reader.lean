import PricePublisher.Connection.Read
import PricePublisher.Feed.FanIn
import PricePublisher.Feed.Message

/-!
# Reading pushed prices

A client connects and pushes messages.  A message that cannot be read, or holds
an element that is no price, is answered with an error; the elements before that
one still count.  Neither ends the reading.
-/

namespace PricePublisher.Feed

/-- The type of an answer that reports an error. -/
def errorKind : String := "error"

/-- What a client is told about an unusable message. -/
def parseErrorText : String := "failed to parse price update"

/-- The answer to an unusable message. -/
def parseErrorReply : String :=
  ((Envelope.ofError errorKind parseErrorText : Envelope Unit).toValue fun _ => .null).toText

/-- What is reported about a message that cannot be read. -/
def undecodableNotice : Notice :=
  ⟨.warning, "Failed to decode incoming message"⟩

/-- What is reported about an element that is no price. -/
def unusableNotice : Notice :=
  ⟨.warning, "Failed to convert incoming price update"⟩

/-- The updates before the first unusable element, and whether there is one. -/
def usablePart : List PushedPrice → List PriceUpdate × Bool
  | [] => ([], false)
  | pushed :: rest =>
      match pushed.toUpdate with
      | .error _ => ([], true)
      | .ok update =>
          let (updates, failed) := usablePart rest
          (update :: updates, failed)

/-- What a message asks for. -/
inductive Pushed where
  /-- It cannot be read. -/
  | undecodable
  /-- It holds something other than prices. -/
  | ignored
  /-- Updates, perhaps cut short by an unusable element. -/
  | prices (updates : List PriceUpdate) (failed : Bool)

/-- What the text of a message asks for. -/
def Pushed.ofText (text : String) : Pushed :=
  match pushedMessage? text with
  | none => .undecodable
  | some message =>
      if message.kind = pricesKind then
        let (updates, failed) := usablePart (message.data.getD [])
        .prices updates failed
      else .ignored

/-- The state of reading from one client. -/
structure Reader where
  inlets : Inlets
  isOpen : Bool

/-- What a step of reading results in. -/
structure ReaderStep where
  reader : Reader
  replies : List String
  notices : List Notice

namespace Reader

/-- The state in which a client has just connected. -/
def start (inlets : Inlets) : Reader :=
  ⟨inlets, true⟩

/-- End the reading. -/
def stop (reader : Reader) : Reader :=
  { reader with isOpen := false }

/-- Take in the text of a message. -/
def onText (reader : Reader) (now : Nat) (text : String) : ReaderStep :=
  match Pushed.ofText text with
  | .undecodable => ⟨reader, [parseErrorReply], [undecodableNotice]⟩
  | .ignored => ⟨reader, [], []⟩
  | .prices updates failed =>
      let (notices, inlets) := reader.inlets.offerAll now updates
      if failed then
        ⟨{ reader with inlets := inlets }, [parseErrorReply], notices ++ [unusableNotice]⟩
      else ⟨{ reader with inlets := inlets }, [], notices⟩

/-- Take in what arrives from the client. -/
def step (reader : Reader) (now : Nat) (arrival : Arrival) : ReaderStep :=
  if reader.isOpen then
    match arrival.answer? with
    | none => ⟨reader, [], []⟩
    | some (.ok text) => reader.onText now text
    | some (.error cause) => ⟨reader.stop, [], [cause.notice]⟩
  else ⟨reader, [], []⟩

end Reader

/-- The path under which clients push prices. -/
def publishPath : String := "/publish"

/-- The answer to a client that asks for a given path: nothing speaks against it, or why not. -/
def admission (path : String) : Except (Nat × String) Unit :=
  if path = publishPath then .ok () else .error (404, "not found")

end PricePublisher.Feed
