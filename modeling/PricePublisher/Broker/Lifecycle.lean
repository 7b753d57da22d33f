import PricePublisher.Broker.Table
import PricePublisher.Broker.AssetFilter

/-!
# Broker lifecycles

Each broker that the registry lists has a lifecycle.  It opens a socket, enters
a connection for it into the table, and hands the connection to a writer.  When
the writer has stopped, or no socket was opened, it waits for a while and begins
anew, until the broker is removed.

A lifecycle of a removed broker ends as soon as it notices.  A socket that is
opened before it notices still becomes a connection, which is closed right after
it has been entered into the table.
-/

namespace PricePublisher

/-- What a lifecycle is doing. -/
inductive LifecyclePhase where
  | connecting
  /-- A socket is open, and the table has no connection for it yet. -/
  | dialed
  /-- The connection of the given number has been entered into the table. -/
  | connected (connection : Nat)
  /-- The connection has been closed; its writer still sends what is queued. -/
  | closing (connection : Nat)
  /-- The writer of the connection has stopped. -/
  | stopped (connection : Nat)
  /-- It waits before it connects again. -/
  | waiting
  | ended
deriving DecidableEq, Repr

/-- The connection of a phase in which a writer is at work. -/
def LifecyclePhase.written? : LifecyclePhase → Option Nat
  | .connected connection | .closing connection => some connection
  | _ => none

/-- The lifecycle of a broker. -/
structure Lifecycle where
  url : String
  /-- The assets that the broker takes; it counts for all connections of the lifecycle. -/
  filter : AssetFilter
  /-- Whether the broker has been removed. -/
  isRemoved : Bool
  phase : LifecyclePhase
deriving DecidableEq, Repr

namespace Lifecycle

/-- A lifecycle that has just been started. -/
def started (url : String) (filter : AssetFilter) : Lifecycle :=
  ⟨url, filter, false, .connecting⟩

/-- A lifecycle in another phase. -/
def inPhase (lifecycle : Lifecycle) (phase : LifecyclePhase) : Lifecycle :=
  { lifecycle with phase := phase }

/-- Whether a lifecycle has ended. -/
def hasEnded (lifecycle : Lifecycle) : Bool :=
  lifecycle.phase = .ended

/-- What is reported when no connection is opened. -/
def connectFailedNotice : Notice :=
  ⟨.error, "Failed to connect to broker"⟩

/-- What is reported before a lifecycle waits. -/
def connectionLostNotice : Notice :=
  ⟨.warning, "Broker connection lost, reconnecting after delay"⟩

end Lifecycle

end PricePublisher
