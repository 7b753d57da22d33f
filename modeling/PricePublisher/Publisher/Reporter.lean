import PricePublisher.Notice
import PricePublisher.Publisher.Description
import PricePublisher.Registry.Response
import PricePublisher.Time.Duration

/-!
# Reporting to the registry

A publisher reports its description at once and then once in a period, which is
a second at least.  A failed report is only noticed.
-/

namespace PricePublisher

/-- What is reported where. -/
structure DescriptionReporter where
  endpoint : String
  auth : String
  description : PublisherDescription
  lookup : HostLookup
  period : Duration

namespace DescriptionReporter

/-- The reporter for a base address, with or without slashes at its end. -/
def ofBase (base auth : String) (description : PublisherDescription) (lookup : HostLookup)
    (period : Duration) : DescriptionReporter :=
  ⟨withoutTrailingSlashes base ++ "/v1/publisher/metadata", auth, description, lookup, period⟩

/-- The description with fresh lookups about the host. -/
def collect (reporter : DescriptionReporter) (network : Network) : PublisherDescription :=
  { reporter.description with
    publicAddress := reporter.lookup.publicAddress network
    host := reporter.lookup.host network }

/-- The request that reports a description. -/
def request (reporter : DescriptionReporter) (description : PublisherDescription) :
    HttpRequest where
  method := .post
  address := reporter.endpoint
  authorization := some (authorizationText reporter.auth)
  body := some description.toValue.toText

/-- Report once. -/
def report (reporter : DescriptionReporter) (network : Network) : Except RegistryError Unit :=
  match network.send (reporter.request (reporter.collect network)) with
  | none => .error (.unreachable "no reply")
  | some reply =>
      if reply.isFailure then .error (.unreachable ("status " ++ Nat.repr reply.status))
      else .ok ()

/-- What is reported about a failed report. -/
def failedNotice : Notice :=
  ⟨.warning, "Failed to report publisher metadata"⟩

/-- The time between two reports, in nanoseconds. -/
def spacing (reporter : DescriptionReporter) : Nat :=
  max reporter.period.toNanoseconds nanosecondsInSecond

/-- How many reports are due up to a time after the start. -/
def reportsUntil (reporter : DescriptionReporter) (time : Duration) : Nat :=
  1 + time.toNanoseconds / reporter.spacing

/-- What is reported about as many reports as are due up to a time after the start. -/
def noticesUntil (reporter : DescriptionReporter) (network : Network) (time : Duration) :
    List Notice :=
  match reporter.report network with
  | .ok _ => []
  | .error _ => List.replicate (reporter.reportsUntil time) failedNotice

end DescriptionReporter

end PricePublisher
