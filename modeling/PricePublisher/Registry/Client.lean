import PricePublisher.Http.Exchange
import PricePublisher.Notice
import PricePublisher.Registry.Response

/-!
# Asking the registry

The registry is asked for the brokers of one publisher key.  What its answer
means is decided by the body alone; the status only helps to explain a body that
cannot be read.
-/

namespace PricePublisher

/-- How to reach a registry. -/
structure RegistryClient where
  baseUrl : String
  auth : String

namespace RegistryClient

/-- The client for a base address, with or without slashes at its end. -/
def ofBase (base auth : String) : RegistryClient :=
  ⟨withoutTrailingSlashes base, auth⟩

/-- The request for the brokers of a publisher key. -/
def brokersRequest (client : RegistryClient) (publisherKey : String) : HttpRequest where
  method := .get
  address :=
    client.baseUrl ++ "/v1/registry/brokers?publisher_key=" ++ Url.queryEncode publisherKey
  authorization := some (authorizationText client.auth)
  body := none

/-- What is reported when the registry lists no broker. -/
def noBrokersNotice : Notice :=
  ⟨.warning, "Registry returned no brokers for publisher"⟩

/-- Name the status of a reply that cannot be read. -/
def withStatus (status : Nat) : RegistryError → RegistryError
  | .undecodable _ => .undecodable ("status " ++ Nat.repr status)
  | other => other

/-- The brokers in a reply. -/
def brokersOf (reply : HttpReply) : Except RegistryError Registry.Subscriptions :=
  ((Registry.rowsOfBody reply.body).mapError (withStatus reply.status)).map Registry.mergeRows

/-- The brokers for a publisher key, according to the registry. -/
def brokers (client : RegistryClient) (network : Network) (publisherKey : String) :
    Except RegistryError Registry.Subscriptions :=
  match network.send (client.brokersRequest publisherKey) with
  | none => .error (.unreachable "no reply")
  | some reply => brokersOf reply

/-- What is reported about the registry's answer. -/
def notices : Except RegistryError Registry.Subscriptions → List Notice
  | .ok [] => [noBrokersNotice]
  | _ => []

end RegistryClient

end PricePublisher
