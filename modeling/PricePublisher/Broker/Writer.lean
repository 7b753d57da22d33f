import PricePublisher.Broker.AssetFilter
import PricePublisher.Connection.Write
import PricePublisher.Connection.Read
import PricePublisher.Queue

/-!
# Writing to a broker

A writer takes batches from the queue of a connection and writes the part that
the broker's filter selects, unless that part is empty.  It stops when the
connection is closed, after it has written what is queued by then; when there
will be no more batches; and at once when the broker closes the connection or a
read or a write fails.
-/

namespace PricePublisher

/-- The type of a message with signed prices. -/
def signedPricesKind : String := "signed_prices"

/-- The text of the message with a batch. -/
def SignedBatch.messageText (batch : SignedBatch) : String :=
  ((Envelope.ofData signedPricesKind batch).toValue SignedBatch.toValue).toText

/-- The part of a batch that a filter selects, unless it is empty. -/
def AssetFilter.selection? (filter : AssetFilter) (batch : SignedBatch) :
    Option SignedBatch :=
  let selected := filter.select batch
  if selected.isEmpty then none else some selected

/-- The text of the message for a batch, unless the filter selects nothing. -/
def AssetFilter.render? (filter : AssetFilter) (batch : SignedBatch) : Option String :=
  (filter.selection? batch).map SignedBatch.messageText

/-- The state of writing to a broker. -/
structure Writer where
  filter : AssetFilter
  queue : Queue SignedBatch
  /-- Whether the connection has been closed. -/
  isClosed : Bool
  /-- Whether there will be no more batches. -/
  producerGone : Bool
  /-- Whether the writer has stopped and the socket is closed. -/
  hasStopped : Bool

namespace Writer

/-- A writer that has not started. -/
def fresh (filter : AssetFilter) (capacity : Nat) : Writer :=
  ⟨filter, .ofCapacity capacity, false, false, false⟩

/-- Queue a batch. -/
def offer (writer : Writer) (batch : SignedBatch) : Delivery × Writer :=
  (writer.queue.delivery, { writer with queue := writer.queue.push batch })

/-- Change the filter; it counts for all batches that are written from now on. -/
def replaceFilter (writer : Writer) (filter : AssetFilter) : Writer :=
  { writer with filter := filter }

/-- Close the connection. -/
def closeConnection (writer : Writer) : Writer :=
  { writer with isClosed := true }

/-- Say that there will be no more batches. -/
def dropProducer (writer : Writer) : Writer :=
  { writer with producerGone := true }

/-- Stop; nothing queued is written any more. -/
def stop (writer : Writer) : Writer :=
  { writer with hasStopped := true, queue := writer.queue.close }

/-- Write the next batch: the frames that this makes. -/
def writeNext (writer : Writer) : List String × Writer :=
  match writer.queue.items with
  | [] => ([], writer)
  | batch :: _ =>
      ((writer.filter.render? batch).toList, { writer with queue := (writer.queue.take 1).2 })

/-- The frames for all batches that are queued. -/
def queuedFrames (writer : Writer) : List String :=
  writer.queue.items.filterMap writer.filter.render?

/-- Write what is queued, and stop if the connection is closed or nothing can follow. -/
def settle (writer : Writer) : List String × Writer :=
  if writer.hasStopped then ([], writer)
  else
    let frames := writer.queuedFrames
    let emptied := { writer with queue := (writer.queue.take writer.queue.items.length).2 }
    if writer.isClosed || writer.producerGone then (frames, emptied.stop)
    else (frames, emptied)

/-- What is reported when reading from the broker fails. -/
def readFailedNotice : Notice :=
  ⟨.warning, "Broker connection failed"⟩

/-- Take in what arrives from the broker; data and control frames have no effect. -/
def onArrival (writer : Writer) (arrival : Arrival) : List Notice × Writer :=
  if writer.hasStopped then ([], writer)
  else
    match arrival with
    | .frame .close => ([], writer.closeConnection.stop)
    | .frame _ => ([], writer)
    | .failure _ => ([readFailedNotice], writer.closeConnection.stop)

end Writer

end PricePublisher
