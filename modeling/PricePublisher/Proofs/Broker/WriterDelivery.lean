import PricePublisher.Broker.Table
import PricePublisher.Proofs.Broker.WriterProgress
import PricePublisher.Proofs.Wire.SignedUpdate

/-!
# What a broker gets

A writer writes a frame for each accepted batch of which its filter selects something,
in order and once, and leaves nothing out that was accepted before its connection was
closed.  Once it is disturbed it sends nothing more, and in the end it always closes the
socket.

A frame reads as a message with the selected updates, if their numbers read back and
their metadata is nested at most 123 deep.  That there is such a bound and that numbers
have to read back cannot be helped: the frame has four containers around the metadata
and a reader takes no more than 127, and a reader rounds some numbers to a neighbour.
-/

namespace PricePublisher

open Json

variable {limit : Duration} {filter : AssetFilter} {capacity : Nat} {history : WriterHistory}
  {session : WriterSession}

/-- How deep metadata may be nested for a frame with it to be read. -/
def metadataRoom : Nat := nestingLimit - 4

theorem SignedBatch.run?_messageText
    {batch : SignedBatch} (legible : ∀ entry ∈ batch, entry.2.signedPrice.IsLegible) :
    (Envelope.decoder decoder).run? (messageText batch) =
      Envelope.decoder decoder nestingLimit
        ((Envelope.ofData signedPricesKind batch).toValue toValue).document := by
  have legible : ((Envelope.ofData signedPricesKind batch).toValue toValue).Legible := by
    apply Envelope.legible_toValue
    simpa [Envelope.ofData] using legible_toValue legible
  rw [Decoder.run?, messageText, legible.ofText?_toText]
  rfl

/--
The message with a batch, whatever the order in which its entries are printed, reads as such
a message with this batch.
-/
theorem SignedBatch.ReadsWithin.run?_messageText_of_perm
    {batch printed : SignedBatch} (within : ReadsWithin metadataRoom batch)
    (ascending : Keyed.Ascending batch) (permuted : printed.Perm batch) :
    (Envelope.decoder decoder).run? (messageText printed) =
      some (.ofData signedPricesKind batch) := by
  have legible : ∀ entry ∈ printed, entry.2.signedPrice.IsLegible := fun entry held =>
    (within entry (permuted.mem_iff.mp held)).isLegible
  have message : (Envelope.ofData signedPricesKind printed).toValue toValue =
      (Envelope.ofData signedPricesKind batch).toValue fun _ => toValue printed := rfl
  rw [SignedBatch.run?_messageText legible, message]
  apply Envelope.decoder_document
  · exact fun _ _ => nofun
  · rintro _ ⟨⟩
    exact decoder_document_of_perm ascending permuted within

/-- A filter that holds the wildcard selects all, any other what it names. -/
theorem AssetFilter.select_eq (filter : AssetFilter) (batch : SignedBatch) :
    filter.select batch =
      batch.filter fun entry => filter.assets.contains "*" || filter.assets.contains entry.1 :=
  rfl

/-- A filter that selects nothing makes no frame. -/
theorem AssetFilter.render?_eq (filter : AssetFilter) (batch : SignedBatch) :
    filter.render? batch =
      if filter.select batch = [] then none else some (filter.select batch).messageText := by
  unfold render? selection?
  cases filter.select batch <;> rfl

/-! ## A connection with one batch -/

def stamped : TimestampedSignature :=
  ⟨.evm "r" "s" "v", 0, "hash"⟩

theorem fits_stamped : stamped.Fits := by
  constructor <;> decide

/-- A batch with one price and its metadata. -/
def single (metadata : Object) : SignedBatch :=
  [("BTC", {
    oracle := "oracle"
    asset := "BTC"
    trigger := .clock
    signedPrice := {
      publisherKey := "key"
      externalAsset := "BTC"
      scheme := .evm
      price := ⟨"1"⟩
      timestampedSignature := stamped
      metadata := some metadata } })]

theorem isLegible_single {metadata : Object} (legible : (Value.object metadata).Legible) :
    ∀ entry ∈ single metadata, entry.2.signedPrice.IsLegible := by
  intro entry member
  cases List.mem_singleton.mp member
  constructor
  · exact fits_stamped
  · rintro _ ⟨⟩
    exact legible

theorem readsWithin_single
    {room : Nat} {metadata : Object} (within : (Value.object metadata).ReadsWithin room) :
    SignedBatch.ReadsWithin room (single metadata) := by
  intro entry member
  cases List.mem_singleton.mp member
  constructor
  · exact fits_stamped
  · rintro _ ⟨⟩
    exact within

/-- Objects inside each other, with so many around the innermost one. -/
def nested : Nat → Value
  | 0 => .object []
  | levels + 1 => .object [("a", nested levels)]

theorem readsWithin_nested (levels : Nat) : (nested levels).ReadsWithin (levels + 1) := by
  induction levels with
  | zero => exact .object .nil nofun
  | succ levels induction =>
      apply Value.ReadsWithin.object
      · exact List.pairwise_singleton _ _
      · intro field member
        cases List.mem_singleton.mp member
        exact induction

/-- The floating-point number in the metadata of `single`. -/
def rated (rate : Float) : Object :=
  [("rate", .number (.real rate))]

/-- What `rated` holds, read from a batch. -/
def rate? (batch : SignedBatch) : Option Number := do
  let update ← batch.lookup "BTC"
  let metadata ← update.signedPrice.metadata
  match metadata.lookup "rate" with
  | some (.number rate) => some rate
  | _ => none

theorem legible_rated : (Value.object (rated 1e-23)).Legible := by
  apply Value.Legible.object
  intro field member
  cases List.mem_singleton.mp member
  exact .number ⟨⟨false, ['1'], none, some (true, ['2', '3'])⟩, by decide +kernel⟩

namespace WriterSession

/-- A filter that selects everything. -/
def everything : AssetFilter :=
  ⟨["*"]⟩

/-- A writer that has written one batch and closed the socket. -/
def done (batch : SignedBatch) : WriterSession :=
  ⟨⟨everything, ⟨connectionQueueCapacity, [], false⟩, true, false, true⟩, .stopped,
    [.text batch.messageText, .close]⟩

/-- The session after moves, if each is possible in its turn. -/
def follow? (session : WriterSession) (limit : Duration) (moves : List WriterMove) :
    Option WriterSession :=
  moves.foldlM (fun session move => session.step? limit move) session

/-- One batch is queued, and the connection is closed before the writer starts. -/
theorem run_of_single (limit : Duration) (metadata : Object) :
    Run limit everything connectionQueueCapacity
      ⟨[single metadata], [], [(single metadata, everything)], false, everything⟩
      (done (single metadata)) := by
  have queued := (@Run.start limit everything connectionQueueCapacity).move
    (.offer (single metadata)) rfl
  have closed := (queued.move .closeConnection rfl).move .noticeClose rfl
  have written := closed.move (.write .ready) rfl
  exact (written.move .finishFlush rfl).move .closeSocket rfl

/-! ## Every run -/

/--
What a writer does in every run, with moves in any order: batches may be queued and the
connection closed before it starts.

The frames that were sent are those of the batches that were written, each made with the
filter that had been set last, and the closing of the socket is the last.  A frame reads as
what its filter selected, whatever the order in which the entries were printed.  Without a disturbance
what is accepted is written or still queued, in order.  What was accepted before the
connection was closed is then written when the writer leaves, and a later batch only
after it; if the connection has not been closed, all that was accepted is written.

A writer that was disturbed has closed its connection and sends nothing more.  A writer
that is to end has moves until it has stopped, and only finitely many.
-/
theorem writes_accepted_batches_once (run : Run limit filter capacity history session) :
    session.sent = history.frames ++ (if session.stage = .stopped then [.close] else []) ∧
      (history.disturbed = false → session.stage ≠ .stopped →
        history.written.map Prod.fst ++ session.writer.queue.items =
          history.early ++ history.late) ∧
      (history.disturbed = false → session.IsOver →
        history.early <+: history.written.map Prod.fst ∧
          history.written.map Prod.fst <+: history.early ++ history.late ∧
          (session.writer.isClosed = false →
            history.written.map Prod.fst = history.early)) ∧
      (∀ (batch : SignedBatch) (current : AssetFilter), (batch, current) ∈ history.written →
        let selected : SignedBatch := batch.filter fun entry =>
          current.assets.contains "*" || current.assets.contains entry.1
        current.render? batch = (if selected = [] then none else some selected.messageText) ∧
          (Keyed.Ascending batch → SignedBatch.ReadsWithin metadataRoom selected →
            ∀ printed : SignedBatch, printed.Perm selected →
              (Envelope.decoder SignedBatch.decoder).run? printed.messageText =
                some (.ofData "signed_prices" selected))) ∧
      (history.disturbed = true → session.writer.isClosed = true ∧ session.IsOver) ∧
      (session.IsOver → ∀ later, Leads limit session later →
        later.sent = session.sent ∨ later.sent = session.sent ++ [.close]) ∧
      (∀ move next, move.isOwn = true → session.step? limit move = some next →
        next.remaining < session.remaining) ∧
      (session.writer.isClosed = true ∨ session.writer.producerGone = true →
        session.stage ≠ .stopped →
        ∃ move next, move.isOwn = true ∧ session.step? limit move = some next ∧
          (session.observe limit history move).disturbed = history.disturbed) := by
  have accounted := run.accounted
  refine ⟨accounted.sent, accounted.waiting, ?_, ?_, accounted.disturbed_over, ?_, ?_, ?_⟩
  · intro undisturbed ended
    have early := accounted.early_written undisturbed ended
    have accepted := accounted.written_accepted undisturbed
    refine ⟨early, accepted, fun notClosed => ?_⟩
    have noneLate := accounted.late_eq_nil notClosed
    rw [noneLate, List.append_nil] at accepted
    exact accepted.eq_of_length_le early.length_le
  · intro batch current _ selected
    have same : current.select batch = selected := current.select_eq batch
    rw [current.render?_eq batch, same]
    exact ⟨rfl, fun ascending within _ => within.run?_messageText_of_perm (ascending.filter _)⟩
  · intro ended later leads
    rcases (leads.of_isOver ended).1 with ⟨_, same⟩ | ⟨_, _, closed⟩
    · exact .inl same
    · exact .inr closed
  · exact fun move next own taken => remaining_lt own taken
  · exact fun ended running => exists_own_move limit ended running history

/-- Metadata of 123 levels is the deepest that a reader takes. -/
theorem writes_accepted_batches_once_when_deep :
    let batch := single [("a", nested 121)]
    Run (.ofSeconds 10) everything connectionQueueCapacity
        ⟨[batch], [], [(batch, everything)], false, everything⟩ (done batch) ∧
      (done batch).sent = [.text batch.messageText, .close] ∧
      (Envelope.decoder SignedBatch.decoder).run? batch.messageText =
        some (.ofData "signed_prices" batch) := by
  have run := run_of_single (.ofSeconds 10) [("a", nested 121)]
  rcases writes_accepted_batches_once run with ⟨sent, _, _, read, _⟩
  refine ⟨run, sent, (read _ _ List.mem_cons_self).2 ?_ ?_ _ (.refl _)⟩
  · exact List.pairwise_singleton _ _
  · exact readsWithin_single (readsWithin_nested 122)

/--
A frame with metadata of 124 levels is sent but cannot be read, and one with `1e-23` in it
reads with another number.  A deadline may leave a batch out although every write has
succeeded, and what is accepted after the close may be written.
-/
theorem sends_unread_changed_and_late_batches :
    let moves (batch : SignedBatch) : List WriterMove :=
      [.offer batch, .closeConnection, .noticeClose, .write .ready, .finishFlush, .closeSocket]
    let deep := single [("a", nested 122)]
    let small := single (rated 1e-23)
    let begun := fresh everything connectionQueueCapacity
    (begun.follow? (.ofSeconds 10) (moves deep) = some (done deep) ∧
        (Envelope.decoder SignedBatch.decoder).run? deep.messageText = none) ∧
      (begun.follow? (.ofSeconds 10) (moves small) = some (done small) ∧
        (Envelope.decoder SignedBatch.decoder).run? small.messageText ≠
          some (.ofData "signed_prices" small)) ∧
      begun.follow? (.ofSeconds 10) [.offer small, .offer deep, .closeConnection, .noticeClose,
        .write .ready, .expire, .closeSocket] = some (done small) ∧
      begun.follow? (.ofSeconds 10) [.closeConnection, .offer small, .noticeClose,
        .write .ready, .finishFlush, .closeSocket] = some (done small) := by
  intro moves deep small begun
  refine ⟨⟨rfl, ?_⟩, ⟨rfl, ?_⟩, rfl, rfl⟩
  -- The texts are legible, so that only their documents have to be evaluated.
  · rw [SignedBatch.run?_messageText (isLegible_single (readsWithin_nested 123).legible)]
    exact Option.isNone_iff_eq_none.mp (by decide +kernel)
  · rw [SignedBatch.run?_messageText (isLegible_single legible_rated)]
    intro same
    have changed := congrArg (Option.map fun envelope => envelope.data.map rate?) same
    revert changed
    decide +kernel

end WriterSession

end PricePublisher
