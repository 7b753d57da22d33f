import PricePublisher.Broker.Writer

/-!
# The life of a writer

A writer waits for three things at once: the next batch, the closing of its
connection and what arrives from the broker.  Whichever comes first counts.  Once
the connection is closed, what is queued is still written, up to a deadline.  A
failure, the end of the broker's side and the last batch of a producer that has gone
away make the writer leave.  A writer that leaves closes the socket and stops.
-/

namespace PricePublisher

/-- How far a writer has got. -/
inductive WriterStage where
  | writing
  /-- The connection has been closed; what is queued is still written. -/
  | flushing
  /-- Nothing is written any more; the socket is still open. -/
  | leaving
  | stopped
deriving DecidableEq, Repr

/-- A writer with what it has sent to the broker. -/
structure WriterSession where
  writer : Writer
  stage : WriterStage
  /-- Oldest first. -/
  sent : List Frame

/-- What a writer does, and what happens to it. -/
inductive WriterMove where
  | offer (batch : SignedBatch)
  | replaceFilter (filter : AssetFilter)
  | closeConnection
  | dropProducer
  | arrival (arrival : Arrival)
  /-- Write the next batch to a socket that takes it or does not. -/
  | write (sink : Sink)
  | noticeClose
  /-- There is no batch, and there will be none. -/
  | exhaust
  | finishFlush
  /-- The deadline for what is queued is over. -/
  | expire
  | closeSocket

/-- Whether what arrives from a broker makes the writer leave. -/
def Arrival.endsWriting : Arrival → Bool
  | .frame .close => true
  | .frame _ => false
  | .failure _ => true

namespace WriterSession

/-- A writer that has not started. -/
def fresh (filter : AssetFilter) (capacity : Nat) : WriterSession :=
  ⟨.fresh filter capacity, .writing, []⟩

/-- Leave because of a failure, which closes the connection. -/
def fail (session : WriterSession) : WriterSession :=
  { session with writer := session.writer.closeConnection, stage := .leaving }

/-- Write the next batch.  The frame is made with the filter that is current now. -/
def writeNext (session : WriterSession) (limit : Duration) (sink : Sink) : WriterSession :=
  let (frames, writer) := session.writer.writeNext
  let next := { session with writer := writer }
  match frames, sink.write limit with
  | [], _ => next
  | _, .ok _ => { next with sent := session.sent ++ frames.map .text }
  | _, .error _ => next.fail

/-- Whether a batch can be written now. -/
def isReady (session : WriterSession) : Bool :=
  (session.stage = .writing || session.stage = .flushing) && !session.writer.queue.items.isEmpty

/-- The session after a move, if the move is possible. -/
def step? (session : WriterSession) (limit : Duration) : WriterMove → Option WriterSession
  | .offer batch =>
      if session.writer.producerGone then none
      else some { session with writer := (session.writer.offer batch).2 }
  | .replaceFilter filter =>
      some { session with writer := session.writer.replaceFilter filter }
  | .closeConnection => some { session with writer := session.writer.closeConnection }
  | .dropProducer => some { session with writer := session.writer.dropProducer }
  | .arrival arrival =>
      if session.stage = .writing then
        some (if arrival.endsWriting then session.fail else session)
      else none
  | .write sink => if session.isReady then some (session.writeNext limit sink) else none
  | .noticeClose =>
      if session.stage = .writing ∧ session.writer.isClosed then
        some { session with stage := .flushing }
      else none
  | .exhaust =>
      if session.stage = .writing ∧ session.writer.producerGone ∧
          session.writer.queue.items = [] then
        some { session with stage := .leaving }
      else none
  | .finishFlush =>
      if session.stage = .flushing ∧ session.writer.queue.items = [] then
        some { session with stage := .leaving }
      else none
  | .expire =>
      if session.stage = .flushing ∧ session.isReady then
        some { session with
          writer := { session.writer with queue := (session.writer.queue.take 1).2 }
          stage := .leaving }
      else none
  | .closeSocket =>
      if session.stage = .leaving then
        some {
          writer := session.writer.stop
          stage := .stopped
          sent := session.sent ++ [.close] }
      else none

end WriterSession

end PricePublisher
