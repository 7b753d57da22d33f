import PricePublisher.Http.Exchange
import PricePublisher.Json.Printer
import PricePublisher.Signing.Signature
import PricePublisher.Text.Blank

/-!
# How a publisher describes itself

A description names the key, the scheme and the build, and what can be found out
about the host: its public address and the instance it runs on.  A lookup that
fails leaves its field empty; if the first lookup about the instance fails, the
host is taken for an ordinary one.
-/

namespace PricePublisher

open Json

/-- What is known about the instance that a host is. -/
structure HostInstance where
  /-- Whether the host is an instance of the known provider. -/
  isAws : Bool
  instanceType : String
  zone : String
deriving DecidableEq, Repr

namespace HostInstance

/-- An ordinary host. -/
def ordinary : HostInstance := ⟨false, "", ""⟩

/-- An instance in JSON. -/
def toValue (host : HostInstance) : Value :=
  .object [
    ("is_aws", .boolean host.isAws),
    ("instance_type", .text host.instanceType),
    ("availability_zone_id", .text host.zone)]

end HostInstance

/-- A publisher's description of itself. -/
structure PublisherDescription where
  publisherKey : String
  scheme : SignatureScheme
  version : String
  architecture : String
  publicAddress : String
  host : HostInstance
deriving DecidableEq, Repr

namespace PublisherDescription

/-- The version of this publisher. -/
def currentVersion : String := "0.1.0"

/-- The description of this build, before anything is known about the host. -/
def current (publisherKey : String) (scheme : SignatureScheme) (architecture : String) :
    PublisherDescription :=
  ⟨publisherKey, scheme, currentVersion, architecture, "", .ordinary⟩

/-- A description in JSON. -/
def toValue (description : PublisherDescription) : Value :=
  .object [
    ("publisher_key", .text description.publisherKey),
    ("signature_type", .text description.scheme.name),
    ("publisher_agent_version", .text description.version),
    ("architecture", .text description.architecture),
    ("public_ip", .text description.publicAddress),
    ("aws_metadata", description.host.toValue)]

end PublisherDescription

/-- Where to look for what there is to know about the host. -/
structure HostLookup where
  publicAddressUrl : String
  instanceUrl : String
deriving DecidableEq, Repr

namespace HostLookup

/-- The lookup under two addresses; slashes at the end of the second do not count. -/
def ofUrls (publicAddressUrl instanceUrl : String) : HostLookup :=
  ⟨publicAddressUrl, withoutTrailingSlashes instanceUrl⟩

/-- The text under an address, without blanks around it. -/
def text? (network : Network) (address : String) : Option String :=
  match network.send ⟨.get, address, none, none⟩ with
  | none => none
  | some reply => if reply.isFailure then none else some (Text.trim reply.body)

/-- The public address of the host. -/
def publicAddress (lookup : HostLookup) (network : Network) : String :=
  (text? network lookup.publicAddressUrl).getD ""

/-- What instance the host is. -/
def host (lookup : HostLookup) (network : Network) : HostInstance :=
  match text? network lookup.instanceUrl with
  | none => .ordinary
  | some _ => {
      isAws := true
      instanceType := (text? network (lookup.instanceUrl ++ "/instance-type")).getD ""
      zone :=
        (text? network (lookup.instanceUrl ++ "/placement/availability-zone-id")).getD "" }

end HostLookup

end PricePublisher
