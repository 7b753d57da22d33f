/-!
# What arrives on a connection

A connection delivers frames of several kinds and may fail at any time.
-/

namespace PricePublisher

/-- A frame. -/
inductive Frame where
  | text (content : String)
  | binary (content : String)
  | ping
  | pong
  /-- The peer closes the connection. -/
  | close
  /-- A frame that has not been put together to a message. -/
  | raw
deriving DecidableEq, Repr

/-- A failure of a connection. -/
inductive TransportError where
  /-- The connection has been closed in good order. -/
  | connectionClosed
  /-- The connection was used after it had been closed. -/
  | alreadyClosed
  | reset
  | brokenPipe
  | aborted
  /-- Any other failure of the network. -/
  | network
  /-- The peer does not keep to the protocol. -/
  | protocol
deriving DecidableEq, Repr

/-- What a connection delivers next. -/
inductive Arrival where
  | frame (frame : Frame)
  | failure (error : TransportError)
deriving DecidableEq, Repr

end PricePublisher
