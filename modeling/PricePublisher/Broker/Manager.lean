import PricePublisher.Broker.Lifecycle
import PricePublisher.Connection.Dial
import PricePublisher.Registry.Response
import PricePublisher.Time.Duration

/-!
# Managing connections to brokers

The manager keeps one lifecycle for each broker that the registry listed last.
Reconciling with a new list starts lifecycles for new brokers, replaces the
filters of known ones and removes the others.  If the registry does not answer,
nothing changes.

Lifecycles are numbered in the order in which they are started.  Reconciliations
and the steps of lifecycles may come in any order.
-/

namespace PricePublisher

/-- Brokers, their lifecycles and their connections. -/
structure ConnectionManager where
  publisherKey : String
  auth : Option String
  reconnectDelay : Duration
  table : BrokerTable
  /-- All lifecycles that were ever started. -/
  lifecycles : List Lifecycle
  /-- The number of the lifecycle for each broker that is listed. -/
  tracked : List (String × Nat)
  isShutDown : Bool

/-- What a reconciliation has changed; each list is in rising order. -/
structure ReconcileSummary where
  started : List String
  removed : List String
  updated : List String
deriving DecidableEq, Repr

/-- Whether a reconciliation has neither started nor removed a broker. -/
def ReconcileSummary.isNoop (summary : ReconcileSummary) : Bool :=
  summary.started.isEmpty && summary.removed.isEmpty

/-- A step of a lifecycle. -/
inductive LifecycleStep where
  /-- A socket is opened. -/
  | dial
  /-- No socket is opened. -/
  | refuse
  /-- The connection for the open socket is entered into the table. -/
  | enter
  /-- The writer stops because the broker closes the socket, or a read from it fails. -/
  | lose
  /-- The writer stops because a write fails or takes too long. -/
  | fail
  /-- The writer stops because the deadline for closing passes with something still queued. -/
  | expire
  /-- The writer stops because nothing is queued and nothing can follow. -/
  | exhaust
  /-- The lifecycle lets go of the connection whose writer has stopped. -/
  | leave
  /-- The wait is over. -/
  | retry
  /-- The lifecycle notices that the broker is removed. -/
  | cancel
deriving DecidableEq, Repr

namespace ConnectionManager

/-- The manager before any list of brokers. -/
def fresh (publisherKey : String) (auth : Option String) (reconnectDelay : Duration) :
    ConnectionManager where
  publisherKey := publisherKey
  auth := presentToken auth
  reconnectDelay := reconnectDelay
  table := .empty
  lifecycles := []
  tracked := []
  isShutDown := false

/-- The brokers that are listed, in rising order. -/
def trackedBrokers (manager : ConnectionManager) : List String :=
  Keyed.keys manager.tracked

/-- The lifecycle of a listed broker. -/
def lifecycleOf? (manager : ConnectionManager) (url : String) : Option Lifecycle := do
  manager.lifecycles[← Keyed.get? manager.tracked url]?

/-- Whether a broker is listed and its lifecycle has not ended. -/
def isRunning (manager : ConnectionManager) (url : String) : Bool :=
  (manager.lifecycleOf? url).any fun lifecycle => !lifecycle.hasEnded

/-! ## Reconciliation -/

/-- Start a lifecycle. -/
def start (manager : ConnectionManager) (url : String) (filter : AssetFilter) :
    ConnectionManager :=
  { manager with
    lifecycles := manager.lifecycles ++ [.started url filter]
    tracked := Keyed.insert url manager.lifecycles.length manager.tracked }

/-- Replace the filter of a broker. -/
def replaceFilter (manager : ConnectionManager) (url : String) (filter : AssetFilter) :
    ConnectionManager :=
  match Keyed.get? manager.tracked url with
  | none => manager
  | some number =>
      { manager with
        lifecycles := manager.lifecycles.modify number fun lifecycle =>
          { lifecycle with filter := filter } }

/-- Remove a broker. -/
def removeBroker (manager : ConnectionManager) (url : String) : ConnectionManager :=
  match Keyed.get? manager.tracked url with
  | none => manager
  | some number =>
      { manager with
        lifecycles := manager.lifecycles.modify number fun lifecycle =>
          { lifecycle with isRemoved := true }
        tracked := Keyed.erase url manager.tracked }

/-- Start or update one listed broker. -/
def adopt (manager : ConnectionManager) (entry : String × AssetFilter) : ConnectionManager :=
  if manager.isRunning entry.1 then manager.replaceFilter entry.1 entry.2
  else manager.start entry.1 entry.2

/-- What reconciling with a list of brokers changes. -/
def summarize (manager : ConnectionManager) (desired : Registry.Subscriptions) :
    ReconcileSummary where
  started := (Keyed.keys desired).filter fun url => !manager.isRunning url
  removed := manager.trackedBrokers.filter fun url => !Keyed.contains desired url
  updated := (Keyed.keys desired).filter manager.isRunning

/-- Make the listed brokers those of a new list. -/
def reconcile (manager : ConnectionManager) (desired : Registry.Subscriptions) :
    ReconcileSummary × ConnectionManager :=
  let summary := manager.summarize desired
  (summary, summary.removed.foldl removeBroker (desired.foldl adopt manager))

/-- Reconcile with what the registry answers, unless it answers with an error. -/
def update (manager : ConnectionManager)
    (answer : Except RegistryError Registry.Subscriptions) :
    Except RegistryError ReconcileSummary × ConnectionManager :=
  match answer with
  | .error cause => (.error cause, manager)
  | .ok desired =>
      let (summary, next) := manager.reconcile desired
      (.ok summary, next)

/-- What is reported when the registry does not answer at a regular update. -/
def updateFailedNotice : Notice :=
  ⟨.error, "Failed to get broker connections from registry"⟩

/-- Update at a regular time: only notice an error. -/
def refresh (manager : ConnectionManager)
    (answer : Except RegistryError Registry.Subscriptions) :
    List Notice × ConnectionManager :=
  match manager.update answer with
  | (.ok _, next) => ([], next)
  | (.error _, next) => ([updateFailedNotice], next)

/-- End all connections: no broker is listed any more. -/
def shutDown (manager : ConnectionManager) : ConnectionManager :=
  { manager with isShutDown := true, tracked := [] }

/-! ## Steps of lifecycles -/

/-- Whether a lifecycle is to end. -/
def isCancelled (manager : ConnectionManager) (lifecycle : Lifecycle) : Bool :=
  lifecycle.isRemoved || manager.isShutDown

/-- Put a lifecycle into another phase. -/
def setPhase (manager : ConnectionManager) (number : Nat) (phase : LifecyclePhase) :
    ConnectionManager :=
  { manager with
    lifecycles := manager.lifecycles.modify number fun lifecycle => lifecycle.inPhase phase }

/-- What a lifecycle does without a connection: it ends if it is to end, and else waits. -/
def rest (manager : ConnectionManager) (number : Nat) (lifecycle : Lifecycle)
    (notices : List Notice) : List Notice × ConnectionManager :=
  if manager.isCancelled lifecycle then (notices, manager.setPhase number .ended)
  else
    (notices ++ [Lifecycle.connectionLostNotice], manager.setPhase number .waiting)

/-- Enter a connection into the table; connections are numbered in order. -/
def enter (manager : ConnectionManager) (number : Nat) (lifecycle : Lifecycle) :
    ConnectionManager :=
  let connection := manager.table.connections.length
  { manager with table := manager.table.openConnection lifecycle.url connection }.setPhase
    number (.connected connection)

/-- Close a connection. -/
def closeConnection (manager : ConnectionManager) (connection : Nat) : ConnectionManager :=
  { manager with table := manager.table.close connection }

/-- Close a connection whose writer has stopped, and drop what is queued for it. -/
def leave (manager : ConnectionManager) (connection : Nat) : ConnectionManager :=
  { manager with table := (manager.table.close connection).dropConsumer connection }

/-- Whether another connection has taken the place of a connection in the table. -/
def isReplaced (manager : ConnectionManager) (connection : Nat) : Bool :=
  manager.table.live.all fun (_, number) => number != connection

/-- Whether nothing is queued for a connection. -/
def isIdle (manager : ConnectionManager) (connection : Nat) : Bool :=
  manager.table.connections[connection]?.all fun connection =>
    connection.queue.items.isEmpty

/-- Let a lifecycle take a step, if it can: what is reported, and the manager afterwards. -/
def step? (manager : ConnectionManager) (number : Nat) (step : LifecycleStep) :
    Option (List Notice × ConnectionManager) := do
  let lifecycle ← manager.lifecycles[number]?
  let isCancelled := manager.isCancelled lifecycle
  match lifecycle.phase, step with
  | .connecting, .dial => some ([], manager.setPhase number .dialed)
  | .connecting, .refuse =>
      some (manager.rest number lifecycle [Lifecycle.connectFailedNotice])
  | .connecting, .cancel =>
      if isCancelled then some ([], manager.setPhase number .ended) else none
  | .dialed, .enter => some ([], manager.enter number lifecycle)
  | .connected connection, .cancel =>
      if isCancelled then
        some ([], (manager.closeConnection connection).setPhase number (.closing connection))
      else none
  | .connected connection, .lose =>
      some ([], (manager.closeConnection connection).setPhase number (.stopped connection))
  | .connected connection, .fail =>
      if manager.isIdle connection then none
      else
        some ([], (manager.closeConnection connection).setPhase number (.stopped connection))
  | .connected connection, .exhaust =>
      if manager.isReplaced connection && manager.isIdle connection then
        some ([], manager.setPhase number (.stopped connection))
      else none
  | .closing connection, .lose =>
      some ([], manager.setPhase number (.stopped connection))
  | .closing connection, .fail | .closing connection, .expire =>
      if manager.isIdle connection then none
      else some ([], manager.setPhase number (.stopped connection))
  | .closing connection, .exhaust =>
      if manager.isIdle connection then
        some ([], manager.setPhase number (.stopped connection))
      else none
  | .stopped connection, .leave =>
      some ((manager.leave connection).rest number lifecycle [])
  | .waiting, .retry => some ([], manager.setPhase number .connecting)
  | .waiting, .cancel =>
      if isCancelled then some ([], manager.setPhase number .ended) else none
  | _, _ => none

/-! ## A manager that is left alone -/

/-- The step that a lifecycle takes next, given which brokers can be reached. -/
def nextStep? (manager : ConnectionManager) (reaches : String → Bool)
    (lifecycle : Lifecycle) : Option LifecycleStep :=
  let isCancelled := manager.isCancelled lifecycle
  match lifecycle.phase with
  | .connecting =>
      if isCancelled then some .cancel
      else if reaches lifecycle.url then some .dial
      else some .refuse
  | .dialed => some .enter
  | .connected connection =>
      if isCancelled then some .cancel
      else if manager.isReplaced connection then some .exhaust
      else none
  | .closing _ => some .exhaust
  | .stopped _ => some .leave
  | .waiting =>
      if isCancelled then some .cancel
      else if reaches lifecycle.url then some .retry
      else none
  | .ended => none

/-- Let one lifecycle take up to so many steps. -/
def settleLifecycle (manager : ConnectionManager) (reaches : String → Bool) (number : Nat) :
    Nat → List Notice × ConnectionManager
  | 0 => ([], manager)
  | steps + 1 =>
      let result := do
        let lifecycle ← manager.lifecycles[number]?
        manager.step? number (← manager.nextStep? reaches lifecycle)
      match result with
      | none => ([], manager)
      | some (notices, next) =>
          let (more, last) := next.settleLifecycle reaches number steps
          (notices ++ more, last)

/-- After so many steps a lifecycle that is left alone has come to rest. -/
def settlingSteps : Nat := 5

/-- Let the lifecycles of given numbers come to rest, one after the other. -/
def settleAll (manager : ConnectionManager) (reaches : String → Bool) :
    List Nat → List Notice × ConnectionManager
  | [] => ([], manager)
  | number :: numbers =>
      let (notices, next) := manager.settleLifecycle reaches number settlingSteps
      let (more, last) := next.settleAll reaches numbers
      (notices ++ more, last)

/-- Let every lifecycle come to rest, given which brokers can be reached. -/
def settle (manager : ConnectionManager) (reaches : String → Bool) :
    List Notice × ConnectionManager :=
  manager.settleAll reaches (List.range manager.lifecycles.length)

/-- Whether a broker can be reached, given which requests the network lets through. -/
def reachesBroker (manager : ConnectionManager) (reaches : DialRequest → Bool)
    (url : String) : Bool :=
  match dial reaches url manager.auth with
  | .ok _ => true
  | .error _ => false

/-- The description of a manager in diagnostics, which keeps the authorization secret. -/
def description (manager : ConnectionManager) : String :=
  "ConnectionManager \x7b publisher_key: " ++ Text.quoted manager.publisherKey
    ++ ", auth: " ++ Text.quotedOption (manager.auth.map fun _ => "<redacted>")
    ++ ", reconnect_delay: " ++ manager.reconnectDelay.description
    ++ ", live_connections: " ++ Nat.repr manager.table.size ++ " \x7d"

end ConnectionManager

end PricePublisher
