import PricePublisher.Connection.Message
import PricePublisher.Notice
import PricePublisher.Time.Duration

/-!
# Writing text frames

A write either gets through within a time limit or fails.  The kinds of failure
differ only in what is reported about them.
-/

namespace PricePublisher

/-- Why a text was not written. -/
inductive WriteError where
  | timeout (limit : Duration)
  /-- The peer has gone away. -/
  | reset (cause : TransportError)
  | other (cause : TransportError)
  /-- The message has no text form. -/
  | unserializable
deriving DecidableEq, Repr

namespace WriteError

/-- The failure of a write that a transport failure makes. -/
def ofTransport : TransportError → WriteError
  | .connectionClosed => .reset .connectionClosed
  | .alreadyClosed => .reset .alreadyClosed
  | .reset => .reset .reset
  | .brokenPipe => .reset .brokenPipe
  | .aborted => .reset .aborted
  | .network => .other .network
  | .protocol => .other .protocol

/-- The message about a failed write, where it does not depend on the network. -/
def message? : WriteError → Option String
  | .timeout limit => some ("write timed out after " ++ limit.description)
  | _ => none

/-- What is reported about a failed write. -/
def notice : WriteError → Notice
  | .timeout _ => ⟨.warning, "Timed out writing websocket message"⟩
  | .reset _ => ⟨.warning, "Websocket connection closed while writing"⟩
  | .other _ => ⟨.error, "Failed to write websocket message"⟩
  | .unserializable => ⟨.error, "Failed to write websocket message"⟩

end WriteError

/-- How a connection takes what is written. -/
inductive Sink where
  | ready
  /-- It never takes anything. -/
  | stalled
  | failing (cause : TransportError)
deriving DecidableEq, Repr

/-- Write within a time limit. -/
def Sink.write (limit : Duration) : Sink → Except WriteError Unit
  | .ready => .ok ()
  | .stalled => .error (.timeout limit)
  | .failing cause => .error (.ofTransport cause)

/-- Write a message that has a text form, or complain that it has none. -/
def Sink.writeMessage (limit : Duration) (sink : Sink) (text? : Option String) :
    Except WriteError String :=
  match text? with
  | none => .error .unserializable
  | some text => (sink.write limit).map fun _ => text

end PricePublisher
