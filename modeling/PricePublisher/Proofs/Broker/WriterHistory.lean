import PricePublisher.Broker.WriterSession

/-!
# The history of a writer

A writer forgets what it has written and when its connection was closed.  This module
keeps a history beside it: the filter that was set last, the batches that were accepted
before the close and after it, those that were written, each with the filter that had been
set last, and whether the writer was disturbed.  A writer is disturbed by the end of the
broker's side, by a failed read or write, and by a deadline that ends before everything is
written.

`effect_of_step?` lists once what a move can do to both.  `Accounted` collects what
therefore holds after every run.
-/

namespace PricePublisher

/-- What has happened to batches so far; each list has the oldest first. -/
structure WriterHistory where
  /-- What was accepted while the connection had not been closed. -/
  early : List SignedBatch
  late : List SignedBatch
  /-- What was written, with the filter that had been set last. -/
  written : List (SignedBatch × AssetFilter)
  disturbed : Bool
  /-- The filter that was set last. -/
  filter : AssetFilter

namespace WriterHistory

/-- The history of a writer that starts with a filter. -/
def empty (filter : AssetFilter) : WriterHistory :=
  ⟨[], [], [], false, filter⟩

/-- Note a batch that is accepted when the connection has been closed or not. -/
def accept (history : WriterHistory) (isClosed : Bool) (batch : SignedBatch) :
    WriterHistory :=
  if isClosed then { history with late := history.late ++ [batch] }
  else { history with early := history.early ++ [batch] }

/-- The frames for what was written. -/
def frames (history : WriterHistory) : List Frame :=
  (history.written.filterMap fun entry => entry.2.render? entry.1).map .text

end WriterHistory

namespace WriterSession

/-- Whether the next batch has a frame that the socket does not take. -/
def failsToWrite (session : WriterSession) (limit : Duration) (sink : Sink) : Bool :=
  !session.writer.writeNext.1.isEmpty && !(sink.write limit).isOk

/-- The history after a move. -/
def observe (session : WriterSession) (limit : Duration) (history : WriterHistory) :
    WriterMove → WriterHistory
  | .offer batch =>
      if session.writer.queue.delivery = .accepted then
        history.accept session.writer.isClosed batch
      else history
  | .replaceFilter filter => { history with filter := filter }
  | .arrival (.frame .close) => { history with disturbed := true }
  | .arrival (.failure _) => { history with disturbed := true }
  | .write sink =>
      if session.failsToWrite limit sink then { history with disturbed := true }
      else { history with
        written := history.written ++
          (session.writer.queue.take 1).1.map fun batch => (batch, history.filter) }
  | .expire => { history with disturbed := true }
  | _ => history

/-- A history and a session that a writer can come to, by moves in any order. -/
inductive Run (limit : Duration) (filter : AssetFilter) (capacity : Nat) :
    WriterHistory → WriterSession → Prop where
  | start : Run limit filter capacity (.empty filter) (fresh filter capacity)
  | move {history : WriterHistory} {session next : WriterSession}
      (run : Run limit filter capacity history session) (move : WriterMove)
      (taken : session.step? limit move = some next) :
      Run limit filter capacity (session.observe limit history move) next

/-! ## What a move can do -/

/-- The ways in which a move changes a session and its history. -/
inductive Effect (session : WriterSession) (history : WriterHistory) :
    WriterSession → WriterHistory → Prop where
  | accepted (batch : SignedBatch) (producing : session.writer.producerGone = false) :
      Effect session history
        { session with
          writer := { session.writer with
            queue := { session.writer.queue with
              items := session.writer.queue.items ++ [batch] } } }
        (history.accept session.writer.isClosed batch)
  | refiltered (filter : AssetFilter) :
      Effect session history { session with writer := session.writer.replaceFilter filter }
        { history with filter := filter }
  | changed (writer : Writer) (queue : writer.queue = session.writer.queue)
      (filter : writer.filter = session.writer.filter)
      (closed : session.writer.isClosed = true → writer.isClosed = true)
      (gone : session.writer.producerGone = true → writer.producerGone = true) :
      Effect session history { session with writer := writer } history
  | written (batch : SignedBatch) (rest : List SignedBatch)
      (active : session.stage = .writing ∨ session.stage = .flushing)
      (queued : session.writer.queue.items = batch :: rest) :
      Effect session history
        { session with
          writer := { session.writer with
            queue := { session.writer.queue with items := rest } }
          sent := session.sent ++ (session.writer.filter.render? batch).toList.map .text }
        { history with written := history.written ++ [(batch, history.filter)] }
  | noticed (writing : session.stage = .writing) (closed : session.writer.isClosed = true) :
      Effect session history { session with stage := .flushing } history
  | finished (active : session.stage = .writing ∨ session.stage = .flushing)
      (drained : session.writer.queue.items = [])
      (ended : session.stage = .writing → session.writer.producerGone = true) :
      Effect session history { session with stage := .leaving } history
  | disturbed (writer : Writer) (filter : writer.filter = session.writer.filter)
      (active : session.stage = .writing ∨ session.stage = .flushing)
      (closed : session.stage = .writing → writer.isClosed = true)
      (kept : session.writer.isClosed = true → writer.isClosed = true) :
      Effect session history { session with writer := writer, stage := .leaving }
        { history with disturbed := true }
  | stopped (leaving : session.stage = .leaving) :
      Effect session history
        { writer := session.writer.stop
          stage := .stopped
          sent := session.sent ++ [.close] } history

variable {limit : Duration} {session next : WriterSession} {history : WriterHistory}

theorem active_of_isReady (ready : session.isReady = true) :
    (session.stage = .writing ∨ session.stage = .flushing) ∧
      ∃ batch rest, session.writer.queue.items = batch :: rest := by
  simp only [isReady, Bool.and_eq_true, Bool.or_eq_true, decide_eq_true_eq,
    Bool.not_eq_eq_eq_not, Bool.not_true, List.isEmpty_eq_false_iff_exists_mem] at ready
  rcases ready with ⟨active, _, member⟩
  refine ⟨active, ?_⟩
  cases items : session.writer.queue.items with
  | nil =>
      rw [items] at member
      cases member
  | cons batch rest => exact ⟨batch, rest, rfl⟩

/-- A refused offer changes nothing, an accepted one adds to the queue. -/
theorem effect_of_offer
    (producing : session.writer.producerGone = false) (batch : SignedBatch)
    (history : WriterHistory) :
    Effect session history { session with writer := (session.writer.offer batch).2 }
      (session.observe limit history (.offer batch)) := by
  by_cases delivered : session.writer.queue.delivery = .accepted
  · have queue : session.writer.queue.push batch =
        { session.writer.queue with items := session.writer.queue.items ++ [batch] } := by
      rw [Queue.push, delivered]
    rw [observe, if_pos delivered, Writer.offer, queue]
    exact .accepted batch producing
  · have queue : session.writer.queue.push batch = session.writer.queue := by
      unfold Queue.push
      split
      · next accepted => exact absurd accepted delivered
      · rfl
    rw [observe, if_neg delivered, Writer.offer, queue]
    exact .changed _ rfl rfl id id

theorem effect_of_write
    (ready : session.isReady = true) (sink : Sink) (history : WriterHistory) :
    Effect session history (session.writeNext limit sink)
      (session.observe limit history (.write sink)) := by
  rcases active_of_isReady ready with ⟨active, batch, rest, queued⟩
  have next : session.writer.writeNext =
      ((session.writer.filter.render? batch).toList,
        { session.writer with queue := { session.writer.queue with items := rest } }) := by
    simp [Writer.writeNext, Queue.take, queued]
  have first : (session.writer.queue.take 1).1 = [batch] := by
    rw [Queue.take, queued]
    rfl
  have written : Effect session history _ _ := .written batch rest active queued
  unfold writeNext observe failsToWrite
  rw [next, first]
  cases rendered : session.writer.filter.render? batch with
  | none =>
      simp [rendered] at written ⊢
      exact written
  | some text =>
      cases outcome : sink.write limit with
      | ok _ =>
          simp [rendered, outcome, Except.isOk, Except.toBool] at written ⊢
          exact written
      | error cause =>
          simp only [Option.toList_some, List.isEmpty_cons, Bool.not_false, outcome, Except.isOk,
            Except.toBool, Bool.and_self, if_true]
          exact .disturbed _ rfl active (fun _ => rfl) fun _ => rfl

theorem effect_of_arrival
    (writing : session.stage = .writing) (arrival : Arrival) (history : WriterHistory) :
    Effect session history (if arrival.endsWriting then session.fail else session)
      (session.observe limit history (.arrival arrival)) := by
  have fails : Effect session history session.fail { history with disturbed := true } :=
    .disturbed _ rfl (.inl writing) (fun _ => rfl) fun _ => rfl
  have passes : Effect session history session history :=
    .changed session.writer rfl rfl id id
  cases arrival with
  | failure cause => exact fails
  | frame frame =>
      cases frame with
      | close => exact fails
      | _ => exact passes

/-- Every move has one of the listed effects. -/
theorem effect_of_step?
    {move : WriterMove} (taken : session.step? limit move = some next)
    (history : WriterHistory) :
    Effect session history next (session.observe limit history move) := by
  cases move with
  | offer batch =>
      simp only [step?, Option.ite_none_left_eq_some, Option.some.injEq,
        Bool.not_eq_true] at taken
      rcases taken with ⟨producing, rfl⟩
      exact effect_of_offer producing batch history
  | replaceFilter filter =>
      cases taken
      exact .refiltered filter
  | closeConnection =>
      cases taken
      exact .changed _ rfl rfl (fun _ => rfl) id
  | dropProducer =>
      cases taken
      exact .changed _ rfl rfl id fun _ => rfl
  | arrival arrival =>
      simp only [step?, Option.ite_none_right_eq_some, Option.some.injEq] at taken
      rcases taken with ⟨writing, rfl⟩
      exact effect_of_arrival writing arrival history
  | write sink =>
      simp only [step?, Option.ite_none_right_eq_some, Option.some.injEq] at taken
      rcases taken with ⟨ready, rfl⟩
      exact effect_of_write ready sink history
  | noticeClose =>
      simp only [step?, Option.ite_none_right_eq_some, Option.some.injEq] at taken
      rcases taken with ⟨⟨writing, closed⟩, rfl⟩
      exact .noticed writing closed
  | exhaust =>
      simp only [step?, Option.ite_none_right_eq_some, Option.some.injEq] at taken
      rcases taken with ⟨⟨writing, gone, drained⟩, rfl⟩
      exact .finished (.inl writing) drained fun _ => gone
  | finishFlush =>
      simp only [step?, Option.ite_none_right_eq_some, Option.some.injEq] at taken
      rcases taken with ⟨⟨flushing, drained⟩, rfl⟩
      refine .finished (.inr flushing) drained fun writing => ?_
      rw [flushing] at writing
      cases writing
  | expire =>
      simp only [step?, Option.ite_none_right_eq_some, Option.some.injEq] at taken
      rcases taken with ⟨⟨flushing, _⟩, rfl⟩
      refine .disturbed _ rfl (.inr flushing) (fun writing => ?_) id
      rw [flushing] at writing
      cases writing
  | closeSocket =>
      simp only [step?, Option.ite_none_right_eq_some, Option.some.injEq] at taken
      rcases taken with ⟨leaving, rfl⟩
      exact .stopped leaving

/-! ## What holds after every run -/

/-- Nothing is written any more. -/
def IsOver (session : WriterSession) : Prop :=
  session.stage = .leaving ∨ session.stage = .stopped

/-- What a session has done, said by its history. -/
structure Accounted (history : WriterHistory) (session : WriterSession) : Prop where
  filter : session.writer.filter = history.filter
  sent : session.sent =
    history.frames ++ if session.stage = .stopped then [.close] else []
  late_closed : history.late ≠ [] → session.writer.isClosed = true
  flushing_closed : session.stage = .flushing → session.writer.isClosed = true
  over_ended : session.IsOver →
    session.writer.isClosed = true ∨ session.writer.producerGone = true
  disturbed_over : history.disturbed = true →
    session.writer.isClosed = true ∧ session.IsOver
  /-- What is accepted is written or still queued, until the socket is closed. -/
  waiting : history.disturbed = false → session.stage ≠ .stopped →
    history.written.map Prod.fst ++ session.writer.queue.items = history.early ++ history.late
  /-- What was accepted before the close is written before the writer leaves. -/
  early_written : history.disturbed = false → session.IsOver →
    history.early <+: history.written.map Prod.fst
  written_accepted : history.disturbed = false →
    history.written.map Prod.fst <+: history.early ++ history.late

theorem not_isOver_of_active
    (active : session.stage = .writing ∨ session.stage = .flushing) : ¬ session.IsOver := by
  unfold IsOver
  rcases active with writing | flushing
  · simp [writing]
  · simp [flushing]

theorem ne_stopped_of_active
    (active : session.stage = .writing ∨ session.stage = .flushing) :
    session.stage ≠ .stopped :=
  fun stopped => not_isOver_of_active active (.inr stopped)

theorem accounted_fresh (filter : AssetFilter) (capacity : Nat) :
    Accounted (.empty filter) (fresh filter capacity) where
  filter := rfl
  sent := rfl
  late_closed := fun late => absurd rfl late
  flushing_closed := nofun
  over_ended := fun ended => absurd ended (not_isOver_of_active (.inl rfl))
  disturbed_over := nofun
  waiting := fun _ _ => rfl
  early_written := fun _ ended => absurd ended (not_isOver_of_active (.inl rfl))
  written_accepted := fun _ => List.prefix_rfl

theorem Accounted.sent_eq
    (accounted : Accounted history session) (notStopped : session.stage ≠ .stopped) :
    session.sent = history.frames := by
  have sent := accounted.sent
  rw [if_neg notStopped, List.append_nil] at sent
  exact sent

theorem Accounted.late_eq_nil
    (accounted : Accounted history session) (notClosed : session.writer.isClosed = false) :
    history.late = [] := by
  cases late : history.late with
  | nil => rfl
  | cons first others =>
      rw [accounted.late_closed (late ▸ List.cons_ne_nil first others)] at notClosed
      cases notClosed

theorem Accounted.accepted_late
    (accounted : Accounted history session) (batch : SignedBatch)
    (closed : session.writer.isClosed = true) :
    Accounted { history with late := history.late ++ [batch] }
      { session with
        writer := { session.writer with
          queue := { session.writer.queue with
            items := session.writer.queue.items ++ [batch] } } } where
  filter := accounted.filter
  sent := accounted.sent
  late_closed := fun _ => closed
  flushing_closed := accounted.flushing_closed
  over_ended := accounted.over_ended
  disturbed_over := accounted.disturbed_over
  waiting := by
    intro undisturbed running
    change _ ++ (_ ++ _) = _ ++ (_ ++ _)
    rw [← List.append_assoc, accounted.waiting undisturbed running, List.append_assoc]
  early_written := accounted.early_written
  written_accepted := by
    intro undisturbed
    change _ <+: _ ++ (_ ++ _)
    rw [← List.append_assoc]
    exact (accounted.written_accepted undisturbed).trans (List.prefix_append _ _)

theorem Accounted.accepted_early
    (accounted : Accounted history session) (batch : SignedBatch)
    (notClosed : session.writer.isClosed = false)
    (producing : session.writer.producerGone = false) :
    Accounted { history with early := history.early ++ [batch] }
      { session with
        writer := { session.writer with
          queue := { session.writer.queue with
            items := session.writer.queue.items ++ [batch] } } } := by
  have noneLate := accounted.late_eq_nil notClosed
  have goesOn : ¬ session.IsOver := by
    intro ended
    rcases accounted.over_ended ended with closed | gone
    · rw [closed] at notClosed
      cases notClosed
    · rw [gone] at producing
      cases producing
  constructor
  · exact accounted.filter
  · exact accounted.sent
  · exact accounted.late_closed
  · exact accounted.flushing_closed
  · exact accounted.over_ended
  · exact accounted.disturbed_over
  · intro undisturbed running
    have waiting := accounted.waiting undisturbed running
    rw [noneLate, List.append_nil] at waiting
    change _ ++ (_ ++ _) = (_ ++ _) ++ history.late
    rw [← List.append_assoc, waiting, noneLate, List.append_nil]
  · exact fun _ ended => absurd ended goesOn
  · intro undisturbed
    have accepted := accounted.written_accepted undisturbed
    rw [noneLate, List.append_nil] at accepted
    change _ <+: (_ ++ _) ++ history.late
    rw [noneLate, List.append_nil]
    exact accepted.trans (List.prefix_append _ _)

theorem Accounted.written
    (accounted : Accounted history session) {batch : SignedBatch} {rest : List SignedBatch}
    (active : session.stage = .writing ∨ session.stage = .flushing)
    (queued : session.writer.queue.items = batch :: rest) :
    Accounted
      { history with written := history.written ++ [(batch, history.filter)] }
      { session with
        writer := { session.writer with
          queue := { session.writer.queue with items := rest } }
        sent := session.sent ++
          (session.writer.filter.render? batch).toList.map .text } := by
  have goesOn := not_isOver_of_active active
  have notStopped := ne_stopped_of_active active
  have waiting : history.disturbed = false →
      (history.written ++ [(batch, history.filter)]).map Prod.fst ++ rest =
        history.early ++ history.late := by
    intro undisturbed
    rw [List.map_append, List.append_assoc, ← accounted.waiting undisturbed notStopped, queued]
    rfl
  constructor
  · exact accounted.filter
  · change session.sent ++ _ = _ ++ if session.stage = .stopped then _ else _
    rw [if_neg notStopped, List.append_nil, accounted.sent_eq notStopped, WriterHistory.frames,
      WriterHistory.frames, List.filterMap_append, List.map_append, accounted.filter]
    cases rendered : history.filter.render? batch <;> simp [rendered]
  · exact accounted.late_closed
  · exact accounted.flushing_closed
  · exact accounted.over_ended
  · exact accounted.disturbed_over
  · exact fun undisturbed _ => waiting undisturbed
  · exact fun _ ended => absurd ended goesOn
  · exact fun undisturbed => ⟨rest, waiting undisturbed⟩

theorem Accounted.finished
    (accounted : Accounted history session)
    (active : session.stage = .writing ∨ session.stage = .flushing)
    (drained : session.writer.queue.items = [])
    (ended : session.stage = .writing → session.writer.producerGone = true) :
    Accounted history { session with stage := .leaving } := by
  have goesOn := not_isOver_of_active active
  have notStopped := ne_stopped_of_active active
  -- With nothing queued, all that was accepted has been written.
  have all : history.disturbed = false →
      history.written.map Prod.fst = history.early ++ history.late := by
    intro undisturbed
    rw [← accounted.waiting undisturbed notStopped, drained, List.append_nil]
  constructor
  · exact accounted.filter
  · exact (accounted.sent_eq notStopped).trans (List.append_nil _).symm
  · exact accounted.late_closed
  · exact nofun
  · intro _
    rcases active with writing | flushing
    · exact .inr (ended writing)
    · exact .inl (accounted.flushing_closed flushing)
  · exact fun disturbed => absurd (accounted.disturbed_over disturbed).2 goesOn
  · exact fun undisturbed _ => accounted.waiting undisturbed notStopped
  · intro undisturbed _
    rw [all undisturbed]
    exact List.prefix_append _ _
  · exact accounted.written_accepted

theorem Accounted.disturbed
    (accounted : Accounted history session) {writer : Writer}
    (filter : writer.filter = session.writer.filter)
    (active : session.stage = .writing ∨ session.stage = .flushing)
    (closed : session.stage = .writing → writer.isClosed = true)
    (kept : session.writer.isClosed = true → writer.isClosed = true) :
    Accounted { history with disturbed := true }
      { session with writer := writer, stage := .leaving } := by
  have notStopped := ne_stopped_of_active active
  have isClosed : writer.isClosed = true := by
    rcases active with writing | flushing
    · exact closed writing
    · exact kept (accounted.flushing_closed flushing)
  constructor
  · exact filter.trans accounted.filter
  · exact (accounted.sent_eq notStopped).trans (List.append_nil _).symm
  · exact fun _ => isClosed
  · exact nofun
  · exact fun _ => .inl isClosed
  · exact fun _ => ⟨isClosed, .inl rfl⟩
  · exact nofun
  · exact nofun
  · exact nofun

theorem Accounted.changed
    (accounted : Accounted history session) {writer : Writer}
    (queue : writer.queue = session.writer.queue)
    (filter : writer.filter = session.writer.filter)
    (closed : session.writer.isClosed = true → writer.isClosed = true)
    (gone : session.writer.producerGone = true → writer.producerGone = true) :
    Accounted history { session with writer := writer } where
  filter := filter.trans accounted.filter
  sent := accounted.sent
  late_closed := fun late => closed (accounted.late_closed late)
  flushing_closed := fun flushing => closed (accounted.flushing_closed flushing)
  over_ended := fun ended => (accounted.over_ended ended).imp closed gone
  disturbed_over := fun disturbed => (accounted.disturbed_over disturbed).imp_left closed
  waiting := by
    rw [queue]
    exact accounted.waiting
  early_written := accounted.early_written
  written_accepted := accounted.written_accepted

theorem Accounted.refiltered (accounted : Accounted history session) (filter : AssetFilter) :
    Accounted { history with filter := filter }
      { session with writer := session.writer.replaceFilter filter } :=
  { accounted with filter := rfl }

theorem Accounted.noticed
    (accounted : Accounted history session) (writing : session.stage = .writing)
    (closed : session.writer.isClosed = true) :
    Accounted history { session with stage := .flushing } := by
  have goesOn : ¬ IsOver { session with stage := .flushing } :=
    not_isOver_of_active (.inr rfl)
  have notStopped := ne_stopped_of_active (.inl writing)
  constructor
  · exact accounted.filter
  · exact (accounted.sent_eq notStopped).trans (List.append_nil _).symm
  · exact accounted.late_closed
  · exact fun _ => closed
  · exact fun ended => absurd ended goesOn
  · exact fun disturbed => absurd (accounted.disturbed_over disturbed).2
      (not_isOver_of_active (.inl writing))
  · exact fun undisturbed _ => accounted.waiting undisturbed notStopped
  · exact fun _ ended => absurd ended goesOn
  · exact accounted.written_accepted

theorem Accounted.stopped
    (accounted : Accounted history session) (leaving : session.stage = .leaving) :
    Accounted history
      { writer := session.writer.stop
        stage := .stopped
        sent := session.sent ++ [.close] } := by
  have ended : session.IsOver := .inl leaving
  constructor
  · exact accounted.filter
  · have notStopped : session.stage ≠ .stopped := by
      rw [leaving]
      exact nofun
    exact congrArg (· ++ [Frame.close]) (accounted.sent_eq notStopped)
  · exact accounted.late_closed
  · exact nofun
  · exact fun _ => accounted.over_ended ended
  · exact fun disturbed => ⟨(accounted.disturbed_over disturbed).1, .inr rfl⟩
  · exact fun _ running => absurd rfl running
  · exact fun undisturbed _ => accounted.early_written undisturbed ended
  · exact accounted.written_accepted

/-- The account is kept by whatever a move does. -/
theorem Accounted.of_effect
    {later : WriterHistory} (accounted : Accounted history session)
    (effect : Effect session history next later) : Accounted later next := by
  cases effect with
  | accepted batch producing =>
      cases closed : session.writer.isClosed with
      | true => exact accounted.accepted_late batch closed
      | false => exact accounted.accepted_early batch closed producing
  | refiltered filter => exact accounted.refiltered filter
  | changed writer queue filter closed gone => exact accounted.changed queue filter closed gone
  | written batch rest active queued => exact accounted.written active queued
  | noticed writing closed => exact accounted.noticed writing closed
  | finished active drained ended => exact accounted.finished active drained ended
  | disturbed writer filter active closed kept =>
      exact accounted.disturbed filter active closed kept
  | stopped leaving => exact accounted.stopped leaving

theorem Run.accounted
    {filter : AssetFilter} {capacity : Nat} (run : Run limit filter capacity history session) :
    Accounted history session := by
  induction run with
  | start => exact accounted_fresh filter capacity
  | move run move taken induction => exact induction.of_effect (effect_of_step? taken _)

end WriterSession

end PricePublisher
