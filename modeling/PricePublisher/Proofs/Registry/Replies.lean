import PricePublisher.Proofs.Broker.Reconciliation
import PricePublisher.Proofs.Registry.Merging
import PricePublisher.Registry.Client

/-!
# Which replies of the registry change the brokers

A reply is judged by its body.  A body that is no list of brokers makes the query fail, and
after a failed query the brokers, their lifecycles, filters and connections are what they
were.  A list of brokers counts under any status: afterwards exactly the brokers of the list
are listed.  So a reply that reports a failure can still remove brokers.
-/

namespace PricePublisher

open Json

namespace RegistryClient

variable {reply : HttpReply}

/-- The rows in a reply, if it lists brokers. -/
def rows? (reply : HttpReply) : Option (List BrokerRow) :=
  (Decoder.list BrokerRow.decoder).run? reply.body

theorem brokersOf_of_listed {rows : List BrokerRow} (listed : rows? reply = some rows) :
    brokersOf reply = .ok (Registry.mergeRows rows) := by
  rw [rows?] at listed
  rw [brokersOf, Registry.rowsOfBody, listed]
  rfl

/-- A reply that lists no brokers holds an error, or else only its status is known. -/
theorem brokersOf_of_unlisted (unlisted : rows? reply = none) :
    brokersOf reply = .error
      (match Registry.errorDecoder.run? reply.body with
        | none => .undecodable ("status " ++ Nat.repr reply.status)
        | some reason =>
            if reason = Registry.unauthorizedReason then .unauthorized else .rejected reason) := by
  rw [rows?] at unlisted
  rw [brokersOf, Registry.rowsOfBody, unlisted]
  cases Registry.errorDecoder.run? reply.body with
  | none => rfl
  | some reason =>
      by_cases unauthorized : reason = Registry.unauthorizedReason
      · simp only [if_pos unauthorized]
        rfl
      · simp only [if_neg unauthorized]
        rfl

/-- The query fails for exactly the replies that list no brokers. -/
theorem brokersOf_eq_error_iff :
    (∃ cause, brokersOf reply = .error cause) ↔ rows? reply = none := by
  constructor
  · rintro ⟨cause, failed⟩
    cases listed : rows? reply with
    | none => rfl
    | some rows =>
        rw [brokersOf_of_listed listed] at failed
        cases failed
  · intro unlisted
    exact ⟨_, brokersOf_of_unlisted unlisted⟩

theorem brokers_of_reply
    {client : RegistryClient} {network : Network} {publisherKey : String}
    (replied : network.send (client.brokersRequest publisherKey) = some reply) :
    client.brokers network publisherKey = brokersOf reply := by
  rw [brokers, replied]

end RegistryClient

namespace ConnectionManager

open RegistryClient (rows?)

/-- A failed query leaves the manager as it is. -/
theorem update_error (manager : ConnectionManager) (cause : RegistryError) :
    manager.update (.error cause) = (.error cause, manager) ∧
      manager.refresh (.error cause) = ([updateFailedNotice], manager) :=
  ⟨rfl, rfl⟩

/-- Of a reply only the body matters to the manager. -/
theorem update_brokersOf_eq (manager : ConnectionManager) (status : Nat) (reply : HttpReply) :
    (manager.update (RegistryClient.brokersOf ⟨status, reply.body⟩)).2 =
      (manager.update (RegistryClient.brokersOf reply)).2 := by
  cases listed : rows? reply with
  | some rows =>
      have same : rows? ⟨status, reply.body⟩ = some rows := listed
      rw [RegistryClient.brokersOf_of_listed listed, RegistryClient.brokersOf_of_listed same]
  | none =>
      have same : rows? ⟨status, reply.body⟩ = none := listed
      rw [RegistryClient.brokersOf_of_unlisted listed, RegistryClient.brokersOf_of_unlisted same]
      rfl

/-- After reconciling with rows, exactly their brokers are listed. -/
theorem Listed.mem_trackedBrokers_mergeRows
    {manager : ConnectionManager} (listed : manager.Listed) (rows : List BrokerRow)
    (url : String) :
    url ∈ (manager.reconcile (Registry.mergeRows rows)).2.trackedBrokers ↔
      ∃ row ∈ rows, row.url = url := by
  rw [trackedBrokers, ← Keyed.contains_iff_mem_keys,
    listed.contains_reconcile (Registry.ascending_mergeRows rows), Registry.contains_mergeRows]

/--
A query fails, and leaves the manager as it is, for exactly the replies that list no
brokers.  Any other reply is reconciled with: before all connections are ended, exactly the
brokers in it are listed afterwards, in particular none if it is empty.  The status makes no
difference to the manager.
-/
theorem update_follows_body
    {manager : ConnectionManager} {client : RegistryClient} {network : Network}
    {reply : HttpReply}
    (replied : network.send (client.brokersRequest manager.publisherKey) = some reply) :
    let answer := client.brokers network manager.publisherKey
    ((∃ cause, answer = .error cause) ↔ rows? reply = none) ∧
      (∀ cause, answer = .error cause →
        manager.update answer = (.error cause, manager) ∧
          manager.refresh answer = ([updateFailedNotice], manager)) ∧
      (∀ rows, rows? reply = some rows →
        manager.update answer =
            (.ok (manager.reconcile (Registry.mergeRows rows)).1,
              (manager.reconcile (Registry.mergeRows rows)).2) ∧
          ∀ publisherKey auth reconnectDelay openers,
            Moves (fun move => move ≠ .shutDown) (fresh publisherKey auth reconnectDelay) []
              manager openers →
            ∀ url, url ∈ (manager.update answer).2.trackedBrokers ↔
              ∃ row ∈ rows, row.url = url) ∧
      ∀ status (other : Network),
        other.send (client.brokersRequest manager.publisherKey) = some ⟨status, reply.body⟩ →
        (manager.update (client.brokers other manager.publisherKey)).2 =
          (manager.update answer).2 := by
  intro answer
  have judged : answer = RegistryClient.brokersOf reply := RegistryClient.brokers_of_reply replied
  refine ⟨?_, ?_, ?_, ?_⟩
  · rw [judged]
    exact RegistryClient.brokersOf_eq_error_iff
  · intro cause failed
    rw [failed]
    exact manager.update_error cause
  · intro rows found
    rw [judged, RegistryClient.brokersOf_of_listed found]
    refine ⟨rfl, fun publisherKey auth reconnectDelay openers moves url => ?_⟩
    exact (moves.listed (listed_fresh _ _ _)).mem_trackedBrokers_mergeRows rows url
  · intro status other answered
    rw [judged, RegistryClient.brokers_of_reply answered]
    exact manager.update_brokersOf_eq status reply

/-- A manager that has listed one broker. -/
def withBroker : ConnectionManager :=
  ((fresh "0xabc" none .zero).reconcile [("ws://a", .ofList ["*"])]).2

/-- A client for a registry. -/
def registryClient : RegistryClient :=
  .ofBase "http://registry/" "secret"

/-- A network that gives one reply to every request. -/
def replying (reply : HttpReply) : Network :=
  ⟨fun _ => some reply⟩

theorem send_replying (reply : HttpReply) :
    (replying reply).send (registryClient.brokersRequest withBroker.publisherKey) =
      some reply := by
  have sendable :
      (registryClient.brokersRequest withBroker.publisherKey).isSendable = true := by
    decide +kernel
  rw [Network.send, sendable]
  rfl

/-- An error that comes with a failing status keeps the broker. -/
theorem update_follows_body_of_error :
    let reply : HttpReply := ⟨503, "\x7b\"error\":\"busy\"\x7d"⟩
    (replying reply).send (registryClient.brokersRequest withBroker.publisherKey) = some reply ∧
      withBroker.update (registryClient.brokers (replying reply) withBroker.publisherKey) =
        (.error (.rejected "busy"), withBroker) := by
  intro reply
  have replied := send_replying reply
  have unlisted : rows? reply = none := by decide +kernel
  have reason : Registry.errorDecoder.run? reply.body = some "busy" := by decide +kernel
  refine ⟨replied, ((update_follows_body replied).2.1 _ ?_).1⟩
  rw [RegistryClient.brokers_of_reply replied, RegistryClient.brokersOf_of_unlisted unlisted,
    reason]
  rfl

/-- An empty list removes every broker, though its status reports a failure. -/
theorem failing_status_removes_broker :
    let reply : HttpReply := ⟨500, "[]"⟩
    let answer := registryClient.brokers (replying reply) withBroker.publisherKey
    reply.isSuccess = false ∧
      answer = .ok [] ∧
      withBroker.trackedBrokers = ["ws://a"] ∧
      (withBroker.update answer).1 = .ok ⟨[], ["ws://a"], []⟩ ∧
      (withBroker.update answer).2.trackedBrokers = [] ∧
      (withBroker.update answer).2.lifecycles.map Lifecycle.isRemoved = [true] := by
  intro reply answer
  have listed : rows? reply = some [] := by decide +kernel
  have answered : answer = .ok [] :=
    (RegistryClient.brokers_of_reply (send_replying reply)).trans
      (RegistryClient.brokersOf_of_listed listed)
  rw [answered]
  exact ⟨rfl, rfl, rfl, rfl, rfl, rfl⟩

end ConnectionManager

end PricePublisher
