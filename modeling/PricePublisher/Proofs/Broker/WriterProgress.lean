import Mathlib.Logic.Relation
import PricePublisher.Proofs.Broker.WriterHistory

/-!
# How a writer ends

A writer that leaves sends nothing but the closing of the socket.  As soon as its
connection has been closed or there will be no more batches, a writer always has a move
of its own until it has stopped, and each of its moves brings it closer to that.

What a writer is said to have done once it has settled is what its own moves do.
-/

namespace PricePublisher

/-- Whether a move is made by the writer itself. -/
def WriterMove.isOwn : WriterMove → Bool
  | .write _ => true
  | .noticeClose => true
  | .exhaust => true
  | .finishFlush => true
  | .expire => true
  | .closeSocket => true
  | _ => false

/-- How many stages a writer has before it. -/
def WriterStage.distance : WriterStage → Nat
  | .writing => 3
  | .flushing => 2
  | .leaving => 1
  | .stopped => 0

namespace WriterSession

/-- A bound on the moves of its own that a writer can still make. -/
def remaining (session : WriterSession) : Nat :=
  session.writer.queue.items.length + session.stage.distance

/-- One session comes after another by moves of any kind. -/
def Leads (limit : Duration) : WriterSession → WriterSession → Prop :=
  Relation.ReflTransGen fun session next => ∃ move, session.step? limit move = some next

variable {limit : Duration} {session next later : WriterSession} {history : WriterHistory}
  {move : WriterMove}

/-- All that can still happen to the socket of a writer that leaves is that it is closed. -/
theorem Effect.of_isOver
    {account : WriterHistory} (effect : Effect session history next account)
    (ended : session.IsOver) :
    (next.stage = session.stage ∧ next.sent = session.sent ∨
        session.stage = .leaving ∧ next.stage = .stopped ∧
          next.sent = session.sent ++ [.close]) ∧
      (session.writer.isClosed = true → next.writer.isClosed = true) := by
  cases effect with
  | accepted batch producing => exact ⟨.inl ⟨rfl, rfl⟩, id⟩
  | refiltered filter => exact ⟨.inl ⟨rfl, rfl⟩, id⟩
  | changed writer queue filter closed gone => exact ⟨.inl ⟨rfl, rfl⟩, closed⟩
  | stopped leaving => exact ⟨.inr ⟨leaving, rfl, rfl⟩, id⟩
  | written batch rest active queued => exact absurd ended (not_isOver_of_active active)
  | noticed writing closed => exact absurd ended (not_isOver_of_active (.inl writing))
  | finished active drained gone => exact absurd ended (not_isOver_of_active active)
  | disturbed writer filter active closed kept =>
      exact absurd ended (not_isOver_of_active active)

theorem Leads.of_isOver (leads : Leads limit session later) (ended : session.IsOver) :
    (later.stage = session.stage ∧ later.sent = session.sent ∨
        session.stage = .leaving ∧ later.stage = .stopped ∧
          later.sent = session.sent ++ [.close]) ∧
      (session.writer.isClosed = true → later.writer.isClosed = true) := by
  induction leads with
  | refl => exact ⟨.inl ⟨rfl, rfl⟩, id⟩
  | tail leads step induction =>
      rcases step with ⟨move, taken⟩
      have effect := effect_of_step? taken (.empty session.writer.filter)
      rcases induction with ⟨⟨stage, sent⟩ | ⟨leaving, stopped, sent⟩, closed⟩
      · have stillOver := ended
        rw [IsOver, ← stage] at stillOver
        rcases effect.of_isOver stillOver with ⟨change, kept⟩
        rw [stage, sent] at change
        exact ⟨change, kept ∘ closed⟩
      · rcases effect.of_isOver (.inr stopped) with ⟨change, kept⟩
        refine ⟨.inr ⟨leaving, ?_⟩, kept ∘ closed⟩
        rcases change with ⟨sameStage, sameSent⟩ | ⟨impossible, _⟩
        · exact ⟨sameStage.trans stopped, sameSent.trans sent⟩
        · rw [stopped] at impossible
          cases impossible

theorem writeNext_writer (session : WriterSession) (limit : Duration) (sink : Sink) :
    (session.writeNext limit sink).writer.queue = session.writer.writeNext.2.queue ∧
      ((session.writeNext limit sink).stage = session.stage ∨
        (session.writeNext limit sink).stage = .leaving) := by
  unfold writeNext
  rcases session.writer.writeNext with ⟨frames, writer⟩
  simp only
  split
  · exact ⟨rfl, .inl rfl⟩
  · exact ⟨rfl, .inl rfl⟩
  · exact ⟨rfl, .inr rfl⟩

theorem distance_leaving_lt (active : session.stage = .writing ∨ session.stage = .flushing) :
    WriterStage.leaving.distance < session.stage.distance := by
  rcases active with writing | flushing
  · rw [writing]
    decide
  · rw [flushing]
    decide

/-- A write shortens the queue, and leads to no earlier stage. -/
theorem remaining_writeNext_lt (ready : session.isReady = true) (sink : Sink) :
    (session.writeNext limit sink).remaining < session.remaining := by
  rcases active_of_isReady ready with ⟨active, batch, rest, queued⟩
  have taken : session.writer.writeNext.2.queue.items = rest := by
    simp [Writer.writeNext, Queue.take, queued]
  have shorter : rest.length < session.writer.queue.items.length := by
    rw [queued]
    exact Nat.lt_succ_self _
  have closer := distance_leaving_lt active
  unfold remaining
  rcases session.writeNext_writer limit sink with ⟨queue, same | leaving⟩
  · rw [queue, taken, same]
    omega
  · rw [queue, taken, leaving]
    omega

/-- Each move of its own brings a writer closer to its end. -/
theorem remaining_lt (own : move.isOwn = true) (taken : session.step? limit move = some next) :
    next.remaining < session.remaining := by
  cases move with
  | write sink =>
      simp only [step?, Option.ite_none_right_eq_some, Option.some.injEq] at taken
      rcases taken with ⟨ready, rfl⟩
      exact remaining_writeNext_lt ready sink
  | noticeClose =>
      simp only [step?, Option.ite_none_right_eq_some, Option.some.injEq] at taken
      rcases taken with ⟨⟨writing, _⟩, rfl⟩
      rw [remaining, remaining, writing]
      exact Nat.add_lt_add_left (Nat.lt_succ_self 2) _
  | exhaust =>
      simp only [step?, Option.ite_none_right_eq_some, Option.some.injEq] at taken
      rcases taken with ⟨⟨writing, _⟩, rfl⟩
      exact Nat.add_lt_add_left (distance_leaving_lt (.inl writing)) _
  | finishFlush =>
      simp only [step?, Option.ite_none_right_eq_some, Option.some.injEq] at taken
      rcases taken with ⟨⟨flushing, _⟩, rfl⟩
      exact Nat.add_lt_add_left (distance_leaving_lt (.inr flushing)) _
  | expire =>
      simp only [step?, Option.ite_none_right_eq_some, Option.some.injEq] at taken
      rcases taken with ⟨⟨flushing, _⟩, rfl⟩
      have fewer : (session.writer.queue.take 1).2.items.length ≤
          session.writer.queue.items.length := by
        rw [Queue.take, List.length_drop]
        exact Nat.sub_le _ _
      exact Nat.add_lt_add_of_le_of_lt fewer (distance_leaving_lt (.inr flushing))
  | closeSocket =>
      simp only [step?, Option.ite_none_right_eq_some, Option.some.injEq] at taken
      rcases taken with ⟨leaving, rfl⟩
      rw [remaining, remaining, leaving]
      exact Nat.add_lt_add_of_le_of_lt (Nat.zero_le _) (Nat.lt_succ_self 0)
  | _ => cases own

/-- A writer that is to end always has a move of its own that does not disturb it. -/
theorem exists_own_move
    (limit : Duration) (ended : session.writer.isClosed = true ∨ session.writer.producerGone = true)
    (running : session.stage ≠ .stopped) (history : WriterHistory) :
    ∃ move next, move.isOwn = true ∧ session.step? limit move = some next ∧
      (session.observe limit history move).disturbed = history.disturbed := by
  have write : session.isReady = true → ∃ move next, move.isOwn = true ∧
      session.step? limit move = some next ∧
        (session.observe limit history move).disturbed = history.disturbed := by
    intro ready
    refine ⟨.write .ready, _, rfl, if_pos ready, ?_⟩
    have succeeds : session.failsToWrite limit .ready = false := Bool.and_false _
    rw [observe, succeeds]
    rfl
  cases stage : session.stage with
  | stopped => exact absurd stage running
  | leaving => exact ⟨.closeSocket, _, rfl, if_pos stage, rfl⟩
  | writing =>
      cases items : session.writer.queue.items with
      | cons batch rest => exact write (by simp [isReady, stage, items])
      | nil =>
          rcases ended with closed | gone
          · exact ⟨.noticeClose, _, rfl, if_pos ⟨stage, closed⟩, rfl⟩
          · exact ⟨.exhaust, _, rfl, if_pos ⟨stage, gone, items⟩, rfl⟩
  | flushing =>
      cases items : session.writer.queue.items with
      | cons batch rest => exact write (by simp [isReady, stage, items])
      | nil => exact ⟨.finishFlush, _, rfl, if_pos ⟨stage, items⟩, rfl⟩

/-! ## What settling does -/

/-- What is queued can be written one after the other. -/
theorem leads_of_queued (limit : Duration) (writer : Writer) (sent : List Frame) :
    Leads limit ⟨writer, .writing, sent⟩
      ⟨{ writer with queue := { writer.queue with items := [] } }, .writing,
        sent ++ writer.queuedFrames.map .text⟩ := by
  rcases writer with ⟨filter, ⟨capacity, items, isOpen⟩, isClosed, gone, hasStopped⟩
  induction items generalizing sent with
  | nil =>
      simp only [Writer.queuedFrames, List.filterMap_nil, List.map_nil, List.append_nil]
      exact .refl
  | cons batch rest induction =>
      have later := induction (sent ++ (filter.render? batch).toList.map .text)
      have frames : sent ++ ((batch :: rest).filterMap filter.render?).map Frame.text =
          sent ++ (filter.render? batch).toList.map .text ++
            (rest.filterMap filter.render?).map .text := by
        cases rendered : filter.render? batch <;> simp [rendered]
      rw [Writer.queuedFrames, frames]
      refine .head ⟨.write .ready, ?_⟩ later
      cases rendered : filter.render? batch <;>
        simp [step?, isReady, writeNext, Writer.writeNext, Queue.take, rendered, Sink.write]

theorem Leads.noticeClose
    (leads : Leads limit session later) (writing : later.stage = .writing)
    (closed : later.writer.isClosed = true) :
    Leads limit session { later with stage := .flushing } :=
  leads.tail ⟨.noticeClose, if_pos ⟨writing, closed⟩⟩

theorem Leads.exhaust
    (leads : Leads limit session later) (writing : later.stage = .writing)
    (gone : later.writer.producerGone = true) (drained : later.writer.queue.items = []) :
    Leads limit session { later with stage := .leaving } :=
  leads.tail ⟨.exhaust, if_pos ⟨writing, gone, drained⟩⟩

theorem Leads.finishFlush
    (leads : Leads limit session later) (flushing : later.stage = .flushing)
    (drained : later.writer.queue.items = []) :
    Leads limit session { later with stage := .leaving } :=
  leads.tail ⟨.finishFlush, if_pos ⟨flushing, drained⟩⟩

theorem Leads.closeSocket
    (leads : Leads limit session later) (leaving : later.stage = .leaving) :
    Leads limit session ⟨later.writer.stop, .stopped, later.sent ++ [.close]⟩ :=
  leads.tail ⟨.closeSocket, if_pos leaving⟩

/-- A writer that settles has made moves of its own; it has stopped if it was to end. -/
theorem leads_settle
    (limit : Duration) {writer : Writer} (running : writer.hasStopped = false)
    (sent : List Frame) :
    let (frames, settled) := writer.settle
    Leads limit ⟨writer, .writing, sent⟩
      (if writer.isClosed || writer.producerGone then
        ⟨settled, .stopped, sent ++ frames.map .text ++ [.close]⟩
      else ⟨settled, .writing, sent ++ frames.map .text⟩) := by
  have drained := leads_of_queued limit writer sent
  have emptied : (writer.queue.take writer.queue.items.length).2 =
      { writer.queue with items := [] } := by
    rw [Queue.take, List.drop_length]
  simp only [Writer.settle, running, emptied, Bool.false_eq_true, if_false]
  cases closed : writer.isClosed with
  | true =>
      have flushed := (drained.noticeClose rfl closed).finishFlush rfl rfl
      simpa [closed, running] using flushed.closeSocket rfl
  | false =>
      cases gone : writer.producerGone with
      | true =>
          have ended := drained.exhaust rfl gone rfl
          simpa [closed, gone, running] using ended.closeSocket rfl
      | false => simpa [closed, gone, running] using drained

theorem onArrival_eq
    {writer : Writer} (running : writer.hasStopped = false) (arrival : Arrival) :
    (writer.onArrival arrival).2 =
      if arrival.endsWriting then writer.closeConnection.stop else writer := by
  cases arrival with
  | failure cause => simp [Writer.onArrival, running, Arrival.endsWriting]
  | frame frame => cases frame <;> simp [Writer.onArrival, running, Arrival.endsWriting]

/-- What arrives from a broker does what it is said to do, in two moves or none. -/
theorem leads_onArrival
    (limit : Duration) {writer : Writer} (running : writer.hasStopped = false)
    (sent : List Frame) (arrival : Arrival) :
    Leads limit ⟨writer, .writing, sent⟩
      (if arrival.endsWriting then ⟨(writer.onArrival arrival).2, .stopped, sent ++ [.close]⟩
      else ⟨(writer.onArrival arrival).2, .writing, sent⟩) := by
  have start : Leads limit ⟨writer, .writing, sent⟩ ⟨writer, .writing, sent⟩ := .refl
  rw [onArrival_eq running]
  cases ends : arrival.endsWriting with
  | false => exact start
  | true =>
      have left : Leads limit ⟨writer, .writing, sent⟩
          ⟨writer.closeConnection, .leaving, sent⟩ := by
        refine start.tail ⟨.arrival arrival, ?_⟩
        simp only [step?, ends, if_true]
        rfl
      exact left.closeSocket rfl

end WriterSession

end PricePublisher
