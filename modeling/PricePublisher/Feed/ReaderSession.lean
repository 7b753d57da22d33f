import PricePublisher.Connection.Handle
import PricePublisher.Connection.Write
import PricePublisher.Feed.Reader

/-!
# Serving a client

A client that pushes prices is served by one loop.  The loop reads what arrives,
offers the updates in it and answers unusable messages.  It ends when the reading
ends or when an answer cannot be written.  At its end the connection is closed first
and then the socket.
-/

namespace PricePublisher.Feed

/-- The loop that serves a client. -/
structure ReaderSession where
  reader : Reader
  handle : ConnectionHandle
  /-- The frames that were sent to the client, oldest first. -/
  sent : List Frame

namespace ReaderSession

/-- The session of a client that has just connected; its throttle is fresh. -/
def opened (id : Nat) (queues : List (Queue PriceUpdate)) : ReaderSession :=
  ⟨.start ⟨queues, freshThrottle⟩, .opened id, []⟩

/-- End the loop. -/
def finish (session : ReaderSession) : ReaderSession where
  reader := session.reader.stop
  handle := session.handle.close.2
  sent := session.sent ++ [.close]

/-- Send replies; one that cannot be written ends the loop. -/
def reply (session : ReaderSession) (limit : Duration) (sink : Sink) :
    List String → List Notice × ReaderSession
  | [] => ([], session)
  | text :: replies =>
      match sink.write limit with
      | .ok _ =>
          reply { session with sent := session.sent ++ [.text text] } limit sink replies
      | .error cause => ([cause.notice], session.finish)

/-- Take in what arrives from the client. -/
def take (session : ReaderSession) (now : Nat) (limit : Duration) (sink : Sink)
    (arrival : Arrival) : List Notice × ReaderSession :=
  if session.reader.isOpen then
    let result := session.reader.step now arrival
    let read := { session with reader := result.reader }
    if result.reader.isOpen then
      let (failures, replied) := read.reply limit sink result.replies
      (result.notices ++ failures, replied)
    else (result.notices, read.finish)
  else ([], session)

end ReaderSession

end PricePublisher.Feed
