import PricePublisher.Proofs.Broker.Sockets
import PricePublisher.Proofs.Publishing.PipelineHistory
import PricePublisher.Publishing.Workers

/-!
# Shutting down loses nothing

When the input of a pipeline ends, its processor signs what it has accepted, the
last batches are offered to the brokers, and only then are the connections
closed, each after its queue has been written.

A connection is served well if it is live with room in its queue whenever a
batch is offered, and if its writer does not break off while anything is queued:
neither because the broker closes the socket, nor because a write fails or the
deadline for closing passes.  The invariant says that each update which was offered
to such a connection either is in its queue, and the socket is open, or has been
written.  When all sockets are closed, everything has been written.

These conditions are needed: even if every write succeeds and no broker closes its socket
before the connections are closed, the last batches can be lost then.
-/

namespace PricePublisher

namespace Pipeline

open SigningLine (willingSigner)

/-- A frame that brings an update to the broker of a connection. -/
structure Brings
    (frame : SentFrame) (url : String) (connection : Nat) (signed : SignedUpdate) :
    Prop where
  url : frame.url = url
  connection : frame.connection = connection
  update : (signed.asset, signed) ∈ frame.batch

/-- A connection is live and has room in its queue. -/
def HasRoom (pipeline : Pipeline) (connection : Nat) : Prop :=
  ∃ url entry, Keyed.get? pipeline.manager.table.live url = some connection ∧
    pipeline.manager.table.connections[connection]? = some entry ∧
    entry.queue.isFull = false

/-- The writer of a connection is at work for the lifecycle of a given number. -/
def WritesFor (pipeline : Pipeline) (number connection : Nat) : Prop :=
  ∃ lifecycle, pipeline.manager.lifecycles[number]? = some lifecycle ∧
    lifecycle.phase.written? = some connection

/--
A step serves a connection well: a batch is offered only while it is live and has room,
its broker keeps the socket open while anything is queued, no write to it fails, the
deadline for closing it never passes, and its broker takes the asset of an update when the
batch of this update is about to be written.
-/
def Serves (connection : Nat) (signed : SignedUpdate) (pipeline : Pipeline) :
    PipelineStep → Prop
  | .forward _ => pipeline.HasRoom connection
  | .lifecycle number .lose =>
      pipeline.WritesFor number connection → pipeline.manager.isIdle connection = true
  | .lifecycle number .fail | .lifecycle number .expire =>
      ¬ pipeline.WritesFor number connection
  | .write number =>
      ∀ lifecycle, pipeline.manager.lifecycles[number]? = some lifecycle →
        lifecycle.phase.written? = some connection →
        ∀ entry batch rest,
          pipeline.manager.table.connections[connection]? = some entry →
          entry.queue.items = batch :: rest →
          (signed.asset, signed) ∈ batch →
          lifecycle.filter.accepts signed.asset = true
  | _ => True

/-- What was offered to a connection waits for its open socket or has been written. -/
structure Delivers
    (connection : Nat) (signed : SignedUpdate) (pipeline : Pipeline)
    (history : PipelineHistory) : Prop where
  owned : pipeline.manager.IsOwned
  silent : pipeline.manager.IsSilent connection
  unopened : pipeline.manager.table.connections.length ≤ connection →
    history.forwarded = []
  delivered : ∀ batch ∈ history.forwarded, ∀ entry,
    pipeline.manager.table.connections[connection]? = some entry →
    batch.toSignedBatch ∈ entry.queue.items ∨
      ((signed.asset, signed) ∈ batch.toSignedBatch →
        ∃ frame ∈ pipeline.frames, Brings frame entry.url connection signed)

variable
  {connection : Nat} {signed : SignedUpdate} {pipeline next : Pipeline}
  {history : PipelineHistory} {step : PipelineStep}

theorem delivers_fresh
    (connection : Nat) (signed : SignedUpdate) (processor : Processor) (publisherKey : String)
    (auth : Option String) (reconnectDelay : Duration) :
    Delivers connection signed
      (fresh processor (.fresh publisherKey auth reconnectDelay)) .empty where
  owned := ConnectionManager.isOwned_fresh publisherKey auth reconnectDelay
  silent := nofun
  unopened := fun _ => rfl
  delivered := nofun

/-- A frame that is made from a batch brings the updates that the broker takes. -/
theorem exists_brings_of_accepts
    {lifecycle : Lifecycle} {batch : SignedBatch}
    (member : (signed.asset, signed) ∈ batch)
    (accepts : lifecycle.filter.accepts signed.asset = true) :
    ∃ frame, frame? lifecycle connection batch = some frame ∧
      Brings frame lifecycle.url connection signed := by
  have selected : (signed.asset, signed) ∈ lifecycle.filter.select batch :=
    List.mem_filter.mpr ⟨member, accepts⟩
  have filled : (lifecycle.filter.select batch).isEmpty = false := by
    cases chosen : lifecycle.filter.select batch with
    | nil =>
        rw [chosen] at selected
        cases selected
    | cons first rest => rfl
  refine ⟨⟨lifecycle.url, connection, lifecycle.filter.select batch⟩, ?_, rfl, rfl, selected⟩
  simp [frame?, AssetFilter.selection?, filled]

/-- A writer that is served well breaks off only when nothing is queued for it. -/
theorem Serves.idle_of_breaksOff
    {number : Nat} {lifecycleStep : LifecycleStep}
    (serves : Serves connection signed pipeline (.lifecycle number lifecycleStep))
    (broken : lifecycleStep.breaksOff = true)
    (writing : pipeline.WritesFor number connection) :
    pipeline.manager.isIdle connection = true := by
  cases lifecycleStep with
  | lose => exact serves writing
  | fail => exact absurd writing serves
  | expire => exact absurd writing serves
  | _ => cases broken

/-! ## Each step keeps what is on its way -/

/-- Whatever leaves connections and frames alone keeps what is on its way. -/
theorem Delivers.of_extends
    (delivers : Delivers connection signed pipeline history)
    {later : PipelineHistory}
    (extended : next.manager.Extends pipeline.manager)
    (frames : next.frames = pipeline.frames)
    (forwarded : later.forwarded = history.forwarded) :
    Delivers connection signed next later where
  owned := delivers.owned.extends extended
  silent := extended.isSilent delivers.silent
  unopened := by
    rw [extended.table, forwarded]
    exact delivers.unopened
  delivered := by
    rw [extended.table, frames, forwarded]
    exact delivers.delivered

theorem Delivers.lifecycled
    (delivers : Delivers connection signed pipeline history)
    {number : Nat} {lifecycleStep : LifecycleStep} {lifecycle : Lifecycle}
    {manager : ConnectionManager}
    (found : pipeline.manager.lifecycles[number]? = some lifecycle)
    (effect : ConnectionManager.Effect pipeline.manager number lifecycle lifecycleStep
      manager)
    (serves : Serves connection signed pipeline (.lifecycle number lifecycleStep)) :
    Delivers connection signed { pipeline with manager := manager } history where
  owned := delivers.owned.effect found effect
  silent := by
    refine effect.isSilent delivers.owned delivers.silent found ?_
    intro broken writing
    exact serves.idle_of_breaksOff broken ⟨lifecycle, found, writing⟩
  unopened := by
    intro beyond
    rcases Nat.lt_or_ge connection pipeline.manager.table.connections.length with
      inside | unopened
    · obtain ⟨later, present, _⟩ := effect.entry delivers.owned delivers.silent found
        (List.getElem?_eq_getElem inside)
      have bound := (List.getElem?_eq_some_iff.mp present).1
      exact absurd bound (Nat.not_lt.mpr beyond)
    · exact delivers.unopened unopened
  delivered := by
    intro batch member entry present
    cases before : pipeline.manager.table.connections[connection]? with
    | none =>
        rw [delivers.unopened (List.getElem?_eq_none_iff.mp before)] at member
        cases member
    | some old =>
        obtain ⟨later, kept, url, items⟩ :=
          effect.entry delivers.owned delivers.silent found before
        rw [present] at kept
        cases kept
        rw [url, items]
        exact delivers.delivered batch member old before

theorem Delivers.forwarded
    (delivers : Delivers connection signed pipeline history)
    {now : Nat} {batch : JobBatch} {rest : List JobBatch}
    (waiting : pipeline.processor.line.batches = batch :: rest)
    (serves : Serves connection signed pipeline (.forward now)) :
    Delivers connection signed
      { pipeline with
        processor := { pipeline.processor with
          line := { pipeline.processor.line with batches := rest } }
        manager := { pipeline.manager with
          table := (pipeline.manager.table.broadcast now batch.toSignedBatch).2 } }
      (pipeline.observe history (.forward now)) := by
  obtain ⟨url, entry, live, present, room⟩ := serves
  have reached := Owned.getElem?_broadcast delivers.owned now batch.toSignedBatch connection
  have addressed : connection ∈ pipeline.manager.table.live.map Prod.snd :=
    List.mem_map_of_mem (Keyed.mem_of_get? live)
  rw [present, Option.map_some, if_pos addressed] at reached
  have isOpen : entry.queue.isOpen = true := by
    obtain ⟨other, kept, _, _, isOpen⟩ := delivers.owned.live_open url connection live
    rw [present] at kept
    cases kept
    exact isOpen
  have items : (BrokerTable.offerTo now batch.toSignedBatch entry).2.queue.items =
      entry.queue.items ++ [batch.toSignedBatch] := by
    rw [BrokerTable.offerTo_queue, Queue.push_eq isOpen room]
  constructor
  · exact Owned.broadcast delivers.owned now batch.toSignedBatch
  · intro closed
    obtain ⟨number, lifecycle, found, _, connected⟩ :=
      delivers.owned.live_connected url connection live
    refine absurd ⟨number, lifecycle, found, ?_⟩ closed
    rw [connected]
    rfl
  · intro beyond
    have inside := (List.getElem?_eq_some_iff.mp reached).1
    exact absurd inside (Nat.not_lt.mpr beyond)
  · intro other member later found
    change (pipeline.manager.table.broadcast now batch.toSignedBatch).2.connections[
      connection]? = some later at found
    rw [reached] at found
    cases found
    rw [items, BrokerTable.offerTo_url]
    simp only [observe, offered, waiting, List.take_succ_cons, List.take_zero] at member
    rcases List.mem_append.mp member with earlier | last
    · rcases delivers.delivered other earlier entry present with queued | written
      · exact .inl (List.mem_append_left _ queued)
      · exact .inr written
    · rw [List.mem_singleton.mp last]
      exact .inl (List.mem_append_right _ List.mem_cons_self)

/-- A pipeline whose writer of a connection has taken so many batches from its queue. -/
def afterWriting
    (pipeline : Pipeline) (lifecycle : Lifecycle) (number : Nat)
    (entry : BrokerConnection) (count : Nat) : Pipeline :=
  { pipeline with
    manager := { pipeline.manager with
      table := pipeline.manager.table.modify number fun connection =>
        { connection with queue := (entry.queue.take count).2 } }
    frames := pipeline.frames ++
      (entry.queue.take count).1.filterMap (frame? lifecycle number) }

/-- A writer that is at work sends from the queue of its connection, or does nothing. -/
theorem send_cases (pipeline : Pipeline) (lifecycle : Lifecycle) (count : Nat) :
    pipeline.send lifecycle count = pipeline ∨
      ∃ number entry, lifecycle.phase.written? = some number ∧
        pipeline.manager.table.connections[number]? = some entry ∧
        pipeline.send lifecycle count =
          pipeline.afterWriting lifecycle number entry count := by
  unfold send
  cases written : lifecycle.phase.written? with
  | none => exact .inl rfl
  | some number =>
      cases target : pipeline.manager.table.connections[number]? with
      | none => exact .inl (by simp only [target])
      | some entry => exact .inr ⟨number, entry, rfl, target, by simp only [target]; rfl⟩

/-- A writer leaves all queues but its own as they are. -/
theorem getElem?_afterWriting
    (pipeline : Pipeline) (lifecycle : Lifecycle) (number count : Nat)
    (entry : BrokerConnection) (other : Nat) :
    (pipeline.afterWriting lifecycle number entry count).manager.table.connections[other]? =
      (pipeline.manager.table.connections[other]?).map fun connection =>
        if number = other then { connection with queue := (entry.queue.take count).2 }
        else connection :=
  BrokerTable.getElem?_modify _ _ _ _

/-- The batch that a writer takes is written to the broker, if that takes its asset. -/
theorem exists_brings_afterWriting
    {lifecycle : Lifecycle} {target : Nat} {held : BrokerConnection}
    {first : SignedBatch} {rest : List SignedBatch}
    (items : held.queue.items = first :: rest)
    (entered : (signed.asset, signed) ∈ first)
    (accepts : lifecycle.filter.accepts signed.asset = true) :
    ∃ frame ∈ (pipeline.afterWriting lifecycle target held 1).frames,
      Brings frame lifecycle.url target signed := by
  obtain ⟨frame, made, brings⟩ : ∃ frame,
      frame? lifecycle target first = some frame ∧ Brings frame lifecycle.url target signed :=
    exists_brings_of_accepts entered accepts
  refine ⟨frame, List.mem_append_right _ (List.mem_filterMap.mpr ⟨first, ?_, made⟩), brings⟩
  simp [Queue.take, items]

/-- What waits for a writer is written when it comes to its head. -/
theorem Delivers.delivered_afterWriting
    (delivers : Delivers connection signed pipeline history)
    {number target : Nat} {lifecycle : Lifecycle} {held : BrokerConnection}
    (found : pipeline.manager.lifecycles[number]? = some lifecycle)
    (written : lifecycle.phase.written? = some target)
    (queued : pipeline.manager.table.connections[target]? = some held)
    (serves : Serves connection signed pipeline (.write number))
    {batch : JobBatch} (member : batch ∈ history.forwarded) {entry : BrokerConnection}
    (present : (pipeline.afterWriting lifecycle target held 1).manager.table.connections[
      connection]? = some entry) :
    batch.toSignedBatch ∈ entry.queue.items ∨
      ((signed.asset, signed) ∈ batch.toSignedBatch →
        ∃ frame ∈ (pipeline.afterWriting lifecycle target held 1).frames,
          Brings frame entry.url connection signed) := by
  rw [getElem?_afterWriting] at present
  obtain ⟨old, before, changed⟩ := Option.map_eq_some_iff.mp present
  have url : entry.url = old.url := by
    rw [← changed]
    split <;> rfl
  rw [url]
  rcases delivers.delivered batch member old before with waits | wrote
  · by_cases same : target = connection
    · subst same
      cases queued.symm.trans before
      rw [if_pos rfl] at changed
      subst changed
      cases items : held.queue.items with
      | nil =>
          rw [items] at waits
          cases waits
      | cons first rest =>
          rw [items] at waits
          rcases List.mem_cons.mp waits with head | tail
          · refine .inr fun entered => ?_
            rw [head] at entered
            have accepts := serves lifecycle found written held first rest queued items entered
            obtain ⟨owner, kept, owner_url⟩ := delivers.owned.held number lifecycle target
              found (LifecyclePhase.held_of_written written)
            cases queued.symm.trans kept
            rw [owner_url]
            exact exists_brings_afterWriting items entered accepts
          · refine .inl ?_
            simpa [Queue.take, items] using tail
    · rw [if_neg same] at changed
      exact .inl (changed ▸ waits)
  · refine .inr fun entered => ?_
    obtain ⟨frame, sent, brings⟩ := wrote entered
    exact ⟨frame, List.mem_append_left _ sent, brings⟩

theorem Delivers.wrote
    (delivers : Delivers connection signed pipeline history)
    {number : Nat} {lifecycle : Lifecycle}
    (found : pipeline.manager.lifecycles[number]? = some lifecycle)
    (serves : Serves connection signed pipeline (.write number)) :
    Delivers connection signed (pipeline.send lifecycle 1) history := by
  rcases pipeline.send_cases lifecycle 1 with same | ⟨target, held, written, queued, sent⟩
  · rw [same]
    exact delivers
  rw [sent]
  constructor
  · refine Owned.of_queues delivers.owned rfl _
      (pipeline.getElem?_afterWriting lifecycle target 1 held) fun other entry present => ?_
    by_cases same : target = other
    · subst same
      cases queued.symm.trans present
      rw [if_pos rfl]
      exact ⟨rfl, rfl, rfl⟩
    · rw [if_neg same]
      exact ⟨rfl, rfl, rfl⟩
  · intro closed entry present
    have different : target ≠ connection := by
      rintro rfl
      exact closed ⟨number, lifecycle, found, written⟩
    simp only [getElem?_afterWriting, if_neg different, Option.map_id'] at present
    exact delivers.silent closed entry present
  · intro beyond
    have kept : (pipeline.afterWriting lifecycle target held 1).manager.table.connections.length =
        pipeline.manager.table.connections.length := List.length_modify _ _ _
    exact delivers.unopened (kept ▸ beyond)
  · intro batch member entry present
    exact delivers.delivered_afterWriting found written queued serves member present

theorem Delivers.effect
    (delivers : Delivers connection signed pipeline history)
    (effect : Effect pipeline step next)
    (serves : Serves connection signed pipeline step) :
    Delivers connection signed next (pipeline.observe history step) := by
  cases effect with
  | processed step processor notices taken =>
      exact delivers.of_extends (.refl _) rfl (List.append_nil _)
  | refreshed answer early =>
      exact delivers.of_extends (ConnectionManager.extends_refresh _ answer) rfl
        (List.append_nil _)
  | lifecycled number step lifecycle manager found effect =>
      exact (delivers.lifecycled found effect serves).of_extends (.refl _) rfl
        (List.append_nil _)
  | forwarded now batch rest waiting => exact delivers.forwarded waiting serves
  | wrote number lifecycle found =>
      exact (delivers.wrote found serves).of_extends (.refl _) rfl (List.append_nil _)
  | inputEnded processor notices running taken =>
      exact delivers.of_extends (.refl _) rfl (List.append_nil _)
  | forwardingEnded draining drained =>
      exact delivers.of_extends (ConnectionManager.extends_shutDown _) rfl
        (List.append_nil _)

theorem Steps.delivers
    {start : Pipeline} {past : PipelineHistory}
    (steps : Steps (Serves connection signed) start past pipeline history)
    (delivers : Delivers connection signed start past) :
    Delivers connection signed pipeline history := by
  induction steps with
  | refl => exact delivers
  | step _ taken serves induction => exact induction.effect (effect_of_step? taken) serves

/-! ## A socket that has been closed -/

/-- A connection has been opened, and its socket has been closed since. -/
structure SocketClosed (pipeline : Pipeline) (connection : Nat) : Prop where
  opened : connection < pipeline.manager.table.connections.length
  closed : ¬ pipeline.manager.IsWriting connection

theorem SocketClosed.of_extends
    (socket : SocketClosed pipeline connection)
    (extended : next.manager.Extends pipeline.manager) :
    SocketClosed next connection where
  opened := by
    rw [extended.table]
    exact socket.opened
  closed := fun writing => socket.closed (extended.isWriting.mp writing)

/-- Nothing more is sent through a closed socket, and it stays closed. -/
theorem SocketClosed.effect
    (socket : SocketClosed pipeline connection) (effect : Effect pipeline step next) :
    SocketClosed next connection ∧
      ∀ frame ∈ next.frames, frame.connection = connection → frame ∈ pipeline.frames := by
  cases effect with
  | processed step processor notices taken =>
      exact ⟨socket.of_extends (.refl _), fun _ sent _ => sent⟩
  | refreshed answer early =>
      exact ⟨socket.of_extends (ConnectionManager.extends_refresh _ answer),
        fun _ sent _ => sent⟩
  | lifecycled number step lifecycle manager found effect =>
      refine ⟨⟨?_, effect.not_isWriting found socket.opened socket.closed⟩,
        fun _ sent _ => sent⟩
      exact Nat.lt_of_lt_of_le socket.opened effect.length_le
  | forwarded now batch rest waiting =>
      refine ⟨⟨?_, socket.closed⟩, fun _ sent _ => sent⟩
      change connection < (BrokerTable.offerToAll now batch.toSignedBatch
        pipeline.manager.table.live pipeline.manager.table.connections).2.length
      rw [BrokerTable.length_offerToAll]
      exact socket.opened
  | wrote number lifecycle found =>
      rcases pipeline.send_cases lifecycle 1 with same | ⟨target, held, written, _, sent⟩
      · rw [same]
        exact ⟨socket, fun _ sent _ => sent⟩
      rw [sent]
      refine ⟨⟨?_, socket.closed⟩, ?_⟩
      · change connection < (pipeline.manager.table.connections.modify target _).length
        rw [List.length_modify]
        exact socket.opened
      · intro frame wrote through
        rcases List.mem_append.mp wrote with earlier | fresh
        · exact earlier
        · obtain ⟨batch, _, made⟩ := List.mem_filterMap.mp fresh
          obtain ⟨selected, _, rfl⟩ := Option.map_eq_some_iff.mp made
          have same : target = connection := through
          subst same
          exact absurd ⟨number, lifecycle, found, written⟩ socket.closed
  | inputEnded processor notices running taken =>
      exact ⟨socket.of_extends (.refl _), fun _ sent _ => sent⟩
  | forwardingEnded draining drained =>
      exact ⟨socket.of_extends (ConnectionManager.extends_shutDown _),
        fun _ sent _ => sent⟩

theorem SocketClosed.steps
    {admits : Pipeline → PipelineStep → Prop} {start : Pipeline} {past : PipelineHistory}
    (socket : SocketClosed start connection)
    (steps : Steps admits start past pipeline history) :
    SocketClosed pipeline connection ∧
      ∀ frame ∈ pipeline.frames, frame.connection = connection → frame ∈ start.frames := by
  induction steps with
  | refl => exact ⟨socket, fun _ sent _ => sent⟩
  | step _ taken _ induction =>
      obtain ⟨closed, earlier⟩ := induction
      obtain ⟨stays, nothing⟩ := closed.effect (effect_of_step? taken)
      refine ⟨stays, ?_⟩
      intro frame sent through
      exact earlier frame (nothing frame sent through) through

/-! ## The end of a pipeline -/

/-- A pipeline without brokers that has seen no update, with at least one worker. -/
def initial
    (signer : Signer) (oracle : String) (threshold : Float) (signsEveryUpdate : Bool)
    (processors pipelines : Nat) (auth : Option String) (reconnectDelay : Duration) :
    Pipeline :=
  fresh
    (.fresh signer oracle threshold signsEveryUpdate
      (signingWorkerCount processors pipelines))
    (.fresh signer.publisherKey auth reconnectDelay)

/-- When a pipeline closes its connections, all that can be signed has been offered. -/
theorem Steps.offered
    {signer : Signer} {oracle : String} {threshold : Float} {signsEveryUpdate : Bool}
    {processors pipelines : Nat} {auth : Option String} {reconnectDelay : Duration}
    {admits : Pipeline → PipelineStep → Prop}
    (steps : Steps admits
      (initial signer oracle threshold signsEveryUpdate processors pipelines auth
        reconnectDelay)
      .empty pipeline history)
    (closing : pipeline.stage = .closing)
    {job : Job} (accepted : job ∈ history.line.accepted)
    {signed : SignedUpdate} (succeeds : job.selected.sign signer oracle = .ok signed) :
    (∃ overwritten ∈ history.line.overwritten,
        overwritten.old = ⟨job, signed⟩ ∧ overwritten.Justified history.line) ∨
      ∃ batch ∈ history.forwarded, (signed.asset, signed) ∈ batch.toSignedBatch := by
  have started : SigningLine.Run signer oracle (signingWorkerCount processors pipelines)
      (.fresh signer oracle (signingWorkerCount processors pipelines)) .empty := .start
  have run := steps.line_run started
  have staged := steps.staged (staged_fresh _ _)
  have consumed := steps.hasConsumer rfl
  have ended := staged.ended closing
  have ceased : (pipeline.wholeLine history).HasEnded :=
    ⟨ended.closed, ended.ended, ended.stopped⟩
  have positive : 0 < signingWorkerCount processors pipelines :=
    Nat.lt_of_lt_of_le Nat.zero_lt_one (Nat.le_max_left 1 _)
  rcases run.destination positive consumed ceased accepted succeeds with
    ⟨overwritten, member, same⟩ | ⟨batch, handedOver, member⟩
  · exact .inl ⟨overwritten, member, same, run.filed.overwritten overwritten member⟩
  · refine .inr ⟨batch, ?_, ?_⟩
    · change batch ∈ history.forwarded ++ pipeline.processor.line.batches at handedOver
      rw [staged.offered closing, List.append_nil] at handedOver
      exact handedOver
    · exact List.mem_map.mpr ⟨_, member, rfl⟩

/--
Once a pipeline is closing its connections, consider a connection that was
served well from the start and whose socket is closed.  Each accepted update
that could be signed was written to its broker before the socket was closed,
unless a later result took its place in a batch.
-/
theorem written_before_socket_closes
    {signer : Signer} {oracle : String} {threshold : Float} {signsEveryUpdate : Bool}
    {processors pipelines : Nat} {auth : Option String} {reconnectDelay : Duration}
    {closed last : Pipeline} {between history : PipelineHistory}
    {job : Job} {signed : SignedUpdate}
    (steps : Steps (Serves connection signed)
      (initial signer oracle threshold signsEveryUpdate processors pipelines auth
        reconnectDelay)
      .empty closed between)
    (socket : SocketClosed closed connection)
    (rest : Steps (Serves connection signed) closed between last history)
    (closing : last.stage = .closing)
    (accepted : job ∈ history.line.accepted)
    (succeeds : job.selected.sign signer oracle = .ok signed) :
    (∃ overwritten ∈ history.line.overwritten,
        overwritten.old = ⟨job, signed⟩ ∧ overwritten.Justified history.line) ∨
      ∃ entry, last.manager.table.connections[connection]? = some entry ∧
        ∃ frame ∈ closed.frames, Brings frame entry.url connection signed := by
  have whole := steps.trans rest
  rcases whole.offered closing accepted succeeds with overwritten | ⟨batch, offered, entered⟩
  · exact .inl overwritten
  · have delivers := whole.delivers (delivers_fresh _ _ _ _ _ _)
    obtain ⟨ended, earlier⟩ := socket.steps rest
    have present := List.getElem?_eq_getElem ended.opened
    refine .inr ⟨_, present, ?_⟩
    rcases delivers.delivered batch offered _ present with waits | wrote
    · rw [delivers.silent ended.closed _ present] at waits
      cases waits
    · obtain ⟨frame, sent, brings⟩ := wrote entered
      exact ⟨frame, earlier frame sent brings.connection, brings⟩

/-! ## What closing loses -/

/--
A step disturbs a connection neither by a full queue nor by a write that fails.  Before the
connections are closed its broker neither closes the socket nor is removed.
-/
def Undisturbed (connection : Nat) (pipeline : Pipeline) : PipelineStep → Prop
  | .forward _ => pipeline.HasRoom connection
  | .lifecycle number .lose | .lifecycle number .cancel =>
      pipeline.WritesFor number connection → pipeline.stage = .closing
  | .lifecycle number .fail => ¬ pipeline.WritesFor number connection
  | _ => True

/-- A step does not disturb a connection, and serves it well unless it is the lapse. -/
def ServesBut
    (lapse : PipelineStep) (connection : Nat) (signed : SignedUpdate) (pipeline : Pipeline)
    (step : PipelineStep) : Prop :=
  Undisturbed connection pipeline step ∧
    (step ≠ lapse → Serves connection signed pipeline step)

/-- A pipeline that signs every update, without brokers and before any update. -/
def unlisted : Pipeline :=
  initial willingSigner "oracle" 0.5 true 1 1 none .zero

/-- The only broker, with the assets that it takes. -/
def brokerTaking (assets : List String) : Registry.Subscriptions :=
  [("ws://broker", .ofList assets)]

/-- The job for an update of an asset. -/
def jobFor (number : Nat) (asset : String) : Job :=
  ⟨number, ⟨⟨number, asset, .zero, none⟩, .unspecified⟩⟩

/-- What the job for an update of an asset results in. -/
def signedFor (number : Nat) (asset : String) : SignedUpdate where
  oracle := "oracle"
  asset := asset
  trigger := .unspecified
  signedPrice :=
    { publisherKey := willingSigner.publisherKey
      externalAsset := asset
      scheme := willingSigner.scheme
      price := .ofDecimal .zero
      timestampedSignature := ⟨.stark "0x1" "0x2", number, "0x3"⟩
      metadata := none }

theorem sign_jobFor (number : Nat) (asset : String) :
    (jobFor number asset).selected.sign willingSigner "oracle" =
      .ok (signedFor number asset) :=
  rfl

/-- Three updates, each of which goes into a batch of its own. -/
def threeJobs : List Job :=
  [jobFor 0 "BTCUSD", jobFor 1 "ETHUSD", jobFor 2 "SOLUSD"]

/-- The only worker signs the next update, of some asset, and its result is collected. -/
def signingAlone (number : Nat) (asset : String) : List PipelineStep :=
  [.process (.receive (jobFor number asset).selected.update), .process .submit,
    .process (.sign (.take 0)), .process (.sign (.sign 0)), .process (.sign (.pass 0)),
    .process (.sign .collect)]

/-- Whether a step neither offers nor writes anything nor closes a socket early. -/
def isCalm : PipelineStep → Bool
  | .process _ | .refresh _ | .endInput | .endForwarding => true
  | .lifecycle _ .dial | .lifecycle _ .enter | .lifecycle _ .exhaust => true
  | _ => false

/-- A pipeline and its history after several steps, if these can be taken. -/
def stepAll? (pipeline : Pipeline) (history : PipelineHistory) :
    List PipelineStep → Option (Pipeline × PipelineHistory)
  | [] => some (pipeline, history)
  | step :: steps => do
      let (_, next) ← pipeline.step? step
      next.stepAll? (pipeline.observe history step) steps

/-- A step that is taken while a broker is served well, but for its filter at one write. -/
def ServesUnfiltered (pipeline : Pipeline) (step : PipelineStep) : Prop :=
  Serves 0 (signedFor 2 "SOLUSD") pipeline step ∧
    ServesBut (.write 0) 0 (signedFor 0 "BTCUSD") pipeline step

theorem servesUnfiltered_of_isCalm (pipeline : Pipeline) (calm : isCalm step = true) :
    pipeline.ServesUnfiltered step := by
  cases step with
  | lifecycle number lifecycleStep =>
      cases lifecycleStep with
      | dial | enter | exhaust => exact ⟨trivial, trivial, fun _ => trivial⟩
      | _ => cases calm
  | forward now => cases calm
  | write number => cases calm
  | _ => exact ⟨trivial, trivial, fun _ => trivial⟩

theorem servesUnfiltered_forward {now : Nat} (room : pipeline.HasRoom 0) :
    pipeline.ServesUnfiltered (.forward now) :=
  ⟨room, room, fun _ => room⟩

theorem servesUnfiltered_write
    {lifecycle : Lifecycle} (found : pipeline.manager.lifecycles[0]? = some lifecycle)
    (accepts : lifecycle.filter.accepts "SOLUSD" = true) :
    pipeline.ServesUnfiltered (.write 0) := by
  refine ⟨?_, trivial, fun other => absurd rfl other⟩
  intro writer present _ _ _ _ _ _ _
  cases found.symm.trans present
  exact accepts

theorem Steps.calmly
    {start last : Pipeline} {past later : PipelineHistory} (steps : List PipelineStep)
    (before : Steps ServesUnfiltered start past pipeline history)
    (calm : steps.all isCalm = true)
    (taken : pipeline.stepAll? history steps = some (last, later)) :
    Steps ServesUnfiltered start past last later := by
  induction steps generalizing pipeline history with
  | nil =>
      cases taken
      exact before
  | cons step rest induction =>
      obtain ⟨⟨notices, next⟩, possible, others⟩ := Option.bind_eq_some_iff.mp taken
      rw [List.all_cons, Bool.and_eq_true] at calm
      have admitted := servesUnfiltered_of_isCalm pipeline calm.1
      exact induction (.step before possible admitted) calm.2 others

/--
The updates were accepted and the only connection is closed.  Of each frame that was sent
through it, the assets are said.
-/
structure ClosedAfterThree
    (closed : Pipeline) (history : PipelineHistory) (sent : List (List String)) : Prop where
  closing : closed.stage = .closing
  phases : closed.manager.lifecycles.map Lifecycle.phase = [.stopped 0]
  filters : closed.manager.lifecycles.map Lifecycle.filter = [.ofList ["*"]]
  urls : closed.manager.table.connections.map BrokerConnection.url = ["ws://broker"]
  accepted : history.line.accepted = threeJobs
  kept : history.line.overwritten = []
  frames : closed.frames.map (fun frame => Keyed.keys frame.batch) = sent

/--
A broker takes another asset than that of the first batch when this comes to its turn, and
all assets later.  When its connection is closed the second batch and the last one are still
queued.  The second one is written then.  After that the last one may be written, or the
deadline passes, or the broker closes the socket.
-/
theorem exists_closedAfterThree :
    (∃ closed history,
      Steps ServesUnfiltered unlisted .empty closed history ∧
      ClosedAfterThree closed history [["ETHUSD"], ["SOLUSD"]]) ∧
    ∀ last ∈ [LifecycleStep.expire, .lose], ∃ closed history,
      Steps (ServesBut (.lifecycle 0 last) 0 (signedFor 2 "SOLUSD")) unlisted .empty closed
        history ∧
      ClosedAfterThree closed history [["ETHUSD"]] := by
  have start : Steps ServesUnfiltered unlisted .empty _ _ := .refl
  have first := start.calmly
    ([.refresh (.ok (brokerTaking ["SOLUSD"])), .lifecycle 0 .dial, .lifecycle 0 .enter] ++
      signingAlone 0 "BTCUSD" ++ [.process (.sign .handOver)]) rfl rfl
  have offered := first.step (show step? _ (.forward 0) = some ([], _) from rfl)
    (servesUnfiltered_forward ⟨"ws://broker", _, rfl, rfl, rfl⟩)
  have unread := offered.step (show step? _ (.write 0) = some ([], _) from rfl)
    (servesUnfiltered_write rfl rfl)
  have second := unread.calmly
    ([.refresh (.ok (brokerTaking ["*"]))] ++ signingAlone 1 "ETHUSD" ++
      [.process (.sign .handOver)]) rfl rfl
  have offered := second.step (show step? _ (.forward 0) = some ([], _) from rfl)
    (servesUnfiltered_forward ⟨"ws://broker", _, rfl, rfl, rfl⟩)
  have third := offered.calmly
    (signingAlone 2 "SOLUSD" ++
      [.endInput, .process (.sign (.stop 0)), .process (.sign .finish)]) rfl rfl
  have offered := third.step (show step? _ (.forward 0) = some ([], _) from rfl)
    (servesUnfiltered_forward ⟨"ws://broker", _, rfl, rfl, rfl⟩)
  have ended := offered.calmly [.endForwarding] rfl rfl
  have closing := ended.step (show step? _ (.lifecycle 0 .cancel) = some ([], _) from rfl)
    ⟨trivial, fun _ => rfl, fun _ => trivial⟩
  have wrote := closing.step (show step? _ (.write 0) = some ([], _) from rfl)
    (servesUnfiltered_write rfl rfl)
  refine ⟨?_, ?_⟩
  · have flushed := wrote.step (show step? _ (.write 0) = some ([], _) from rfl)
      (servesUnfiltered_write rfl rfl)
    have exhausted := flushed.calmly [.lifecycle 0 .exhaust] rfl rfl
    exact ⟨_, _, exhausted, rfl, rfl, rfl, rfl, rfl, rfl, rfl⟩
  · intro last member
    have before := wrote.mono fun pipeline step admitted =>
      (show ServesBut (.lifecycle 0 last) 0 (signedFor 2 "SOLUSD") pipeline step from
        ⟨admitted.2.1, fun _ => admitted.1⟩)
    rcases List.mem_pair.mp member with rfl | rfl
    · have expired := before.step
        (show step? _ (.lifecycle 0 .expire) = some ([], _) from rfl)
        ⟨trivial, fun other => absurd rfl other⟩
      exact ⟨_, _, expired, rfl, rfl, rfl, rfl, rfl, rfl, rfl⟩
    · have lost := before.step
        (show step? _ (.lifecycle 0 .lose) = some ([], _) from rfl)
        ⟨fun _ => rfl, fun other => absurd rfl other⟩
      exact ⟨_, _, lost, rfl, rfl, rfl, rfl, rfl, rfl, rfl⟩

/-- An accepted update was signed and not overwritten, and yet never got to its broker. -/
structure Loses
    (closed : Pipeline) (history : PipelineHistory) (connection : Nat) (job : Job)
    (signed : SignedUpdate) : Prop where
  socket : SocketClosed closed connection
  closing : closed.stage = .closing
  accepted : job ∈ history.line.accepted
  succeeds : job.selected.sign willingSigner "oracle" = .ok signed
  kept : history.line.overwritten = []
  taken : ∀ lifecycle ∈ closed.manager.lifecycles,
    lifecycle.filter.accepts signed.asset = true
  unwritten : ∀ frame ∈ closed.frames, ¬ Brings frame "ws://broker" connection signed

/--
In some run a connection is undisturbed, and served well but for one lapse, and an update is
lost.
-/
def LosesAfter (lapse : PipelineStep) : Prop :=
  ∃ closed history job signed,
    Steps (ServesBut lapse 0 signed) unlisted .empty closed history ∧
    Loses closed history 0 job signed

namespace ClosedAfterThree

variable {closed : Pipeline} {sent : List (List String)}

theorem socketClosed (ends : ClosedAfterThree closed history sent) : SocketClosed closed 0 := by
  constructor
  · have count := congrArg List.length ends.urls
    rw [List.length_map] at count
    rw [count]
    exact Nat.zero_lt_one
  · rintro ⟨number, lifecycle, found, written⟩
    have phase : lifecycle.phase ∈ closed.manager.lifecycles.map Lifecycle.phase :=
      List.mem_map_of_mem (List.mem_of_getElem? found)
    rw [ends.phases, List.mem_singleton] at phase
    rw [phase] at written
    cases written

/-- An asset that is in no frame is lost, although the broker takes it. -/
theorem loses
    (ends : ClosedAfterThree closed history sent) {job : Job}
    (member : job ∈ threeJobs)
    (succeeds : job.selected.sign willingSigner "oracle" = .ok signed)
    (absent : ∀ assets ∈ sent, signed.asset ∉ assets) :
    Loses closed history 0 job signed where
  socket := ends.socketClosed
  closing := ends.closing
  accepted := ends.accepted ▸ member
  succeeds := succeeds
  kept := ends.kept
  taken := by
    intro lifecycle listed
    have filter : lifecycle.filter ∈ closed.manager.lifecycles.map Lifecycle.filter :=
      List.mem_map_of_mem listed
    rw [ends.filters, List.mem_singleton] at filter
    rw [filter]
    rfl
  unwritten := by
    intro frame written brings
    have assets : Keyed.keys frame.batch ∈ sent :=
      ends.frames ▸ List.mem_map_of_mem written
    exact absent _ assets (List.mem_map_of_mem brings.update)

end ClosedAfterThree

/--
Conditions on writes, queues and what happens before the closing are not enough.  With a
single lapse, be it that the deadline for closing passes, that the broker closes the socket
then, or that it takes an asset only after the batch came to its turn, an update is lost.
-/
theorem single_lapse_loses_accepted_update :
    LosesAfter (.lifecycle 0 .expire) ∧ LosesAfter (.lifecycle 0 .lose) ∧
      LosesAfter (.write 0) := by
  obtain ⟨⟨flushed, past, calm, written⟩, brokenOff⟩ := exists_closedAfterThree
  have loses_last : ∀ last ∈ [LifecycleStep.expire, .lose], LosesAfter (.lifecycle 0 last) := by
    intro last member
    obtain ⟨closed, history, steps, ends⟩ := brokenOff last member
    exact ⟨closed, history, jobFor 2 "SOLUSD", signedFor 2 "SOLUSD", steps,
      ends.loses (by simp [threeJobs]) (sign_jobFor 2 "SOLUSD") (by decide)⟩
  refine ⟨loses_last .expire (by simp), loses_last .lose (by simp), ?_⟩
  exact ⟨flushed, past, jobFor 0 "BTCUSD", signedFor 0 "BTCUSD",
    calm.mono fun _ _ admitted => admitted.2,
    written.loses (by simp [threeJobs]) (sign_jobFor 0 "BTCUSD") (by decide)⟩

theorem last_batch_written_before_socket_closes :
    ∃ closed history job signed,
      Steps (Serves 0 signed) unlisted .empty closed history ∧
      SocketClosed closed 0 ∧ closed.stage = .closing ∧ job ∈ history.line.accepted ∧
      job.selected.sign willingSigner "oracle" = .ok signed ∧
      ∃ frame ∈ closed.frames, Brings frame "ws://broker" 0 signed := by
  obtain ⟨⟨closed, history, steps, ends⟩, _⟩ := exists_closedAfterThree
  have served := steps.mono fun _ _ admitted => admitted.1
  have member : jobFor 2 "SOLUSD" ∈ history.line.accepted := by
    rw [ends.accepted]
    simp [threeJobs]
  have succeeds := sign_jobFor 2 "SOLUSD"
  refine ⟨closed, history, _, _, served, ends.socketClosed, ends.closing, member, succeeds, ?_⟩
  rcases written_before_socket_closes served ends.socketClosed .refl ends.closing member
    succeeds with ⟨_, none, _⟩ | ⟨entry, found, frame, sent, brings⟩
  · rw [ends.kept] at none
    cases none
  · have url : entry.url ∈ closed.manager.table.connections.map BrokerConnection.url :=
      List.mem_map_of_mem (List.mem_of_getElem? found)
    rw [ends.urls, List.mem_singleton] at url
    rw [url] at brings
    exact ⟨frame, sent, brings⟩

end Pipeline

end PricePublisher
