import PricePublisher.Connection.Message
import PricePublisher.Notice
import PricePublisher.Time.Duration

/-!
# Reading text frames

A read answers with the next text frame.  It passes over pings and pongs; every
other frame, a failure, the end of the connection and a silence that lasts too
long end the read.
-/

namespace PricePublisher

/-- Why a read has no text. -/
inductive ReadError where
  | timeout (limit : Duration)
  | closed
  | nonText
  | transport (cause : TransportError)
deriving DecidableEq, Repr

namespace ReadError

/-- The message about a read without text, where it does not depend on the network. -/
def message? : ReadError → Option String
  | .timeout limit => some ("timed out after " ++ limit.description ++ " waiting for next message")
  | .closed => some "connection closed by peer"
  | .nonText => some "non-text websocket message received"
  | .transport _ => none

/-- What is reported when a loop of reads ends. -/
def notice : ReadError → Notice
  | .closed => ⟨.debug, "Websocket connection closed, exiting read loop"⟩
  | .timeout _ => ⟨.warning, "Timed out waiting for next message, exiting read loop"⟩
  | .nonText => ⟨.warning, "Non-text websocket message received, exiting read loop"⟩
  | .transport _ => ⟨.warning, "Network error on websocket connection, exiting read loop"⟩

end ReadError

/-- What follows the last arrival. -/
inductive Ending where
  | closed
  | silence
deriving DecidableEq, Repr

/-- The answer to one arrival, unless it is passed over. -/
def Arrival.answer? : Arrival → Option (Except ReadError String)
  | .frame (.text content) => some (.ok content)
  | .frame .ping => none
  | .frame .pong => none
  | .frame .close => some (.error .closed)
  | .frame (.binary _) => some (.error .nonText)
  | .frame .raw => some (.error .nonText)
  | .failure .connectionClosed => some (.error .closed)
  | .failure cause => some (.error (.transport cause))

/-- The answer when nothing more arrives; `none` if the read waits forever. -/
def Ending.answer? (limit : Option Duration) : Ending → Option (Except ReadError String)
  | .closed => some (.error .closed)
  | .silence =>
      match limit with
      | some duration => if duration.isZero then none else some (.error (.timeout duration))
      | none => none

/-- Read the next text: the answer, and what is left to arrive. -/
def nextText (limit : Option Duration) (ending : Ending) :
    List Arrival → Option (Except ReadError String) × List Arrival
  | [] => (ending.answer? limit, [])
  | arrival :: rest =>
      match arrival.answer? with
      | some answer => (some answer, rest)
      | none => nextText limit ending rest

/-- The answers to several reads in a row. -/
def nextTexts (limit : Option Duration) (ending : Ending) :
    Nat → List Arrival → List (Option (Except ReadError String))
  | 0, _ => []
  | count + 1, arrivals =>
      let (answer, rest) := nextText limit ending arrivals
      answer :: nextTexts limit ending count rest

end PricePublisher
