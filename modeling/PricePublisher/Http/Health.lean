import PricePublisher.Http.Exchange
import PricePublisher.Json.Printer
import PricePublisher.Keyed
import PricePublisher.Signing.Signature

/-!
# Health reports

Two addresses tell how the publisher fares.  One always answers that it runs; the
other says whether every pipeline has a live broker.  Both list the number of
live brokers for each scheme.
-/

namespace PricePublisher.Health

open Json

/-- The number of live brokers for each scheme, by its name; the last pipeline counts. -/
def brokerCounts (pipelines : List (SignatureScheme × Nat)) : List (String × Nat) :=
  Keyed.ofList (pipelines.map fun (scheme, count) => (scheme.name, count))

/-- Whether there is a pipeline and every one has a live broker. -/
def isReady (counts : List (String × Nat)) : Bool :=
  !counts.isEmpty && counts.all fun entry => 0 < entry.2

/-- A report in JSON. -/
def reportText (status : String) (counts : List (String × Nat)) : String :=
  (Value.object [
    ("status", .text status),
    ("brokers", .object <|
      Keyed.mapValues (fun count : Nat => .number (.integer count)) counts)]).toText

/-- The report that the publisher runs. -/
def runningReply (counts : List (String × Nat)) : HttpReply :=
  ⟨200, reportText "ok" counts⟩

/-- The report whether every pipeline has a live broker. -/
def readyReply (counts : List (String × Nat)) : HttpReply :=
  if isReady counts then ⟨200, reportText "ready" counts⟩
  else ⟨503, reportText "no_brokers" counts⟩

/-- The path of a requested address: without scheme, host, query and fragment. -/
def pathOf (target : String) : String :=
  let characters := target.toList
  let path := match Url.splitScheme? characters with
    | some (_, '/' :: '/' :: rest) => rest.dropWhile (· != '/')
    | _ => characters
  String.ofList (path.takeWhile fun character => character != '?' && character != '#')

/-- The report under a path, if there is one. -/
def report? (counts : List (String × Nat)) : (path : String) → Option HttpReply
  | "/health" => some (runningReply counts)
  | "/ready" => some (readyReply counts)
  | _ => none

/-- Answer a request. -/
def respond (pipelines : List (SignatureScheme × Nat)) (method : HttpMethod)
    (target : String) : HttpReply :=
  match report? (brokerCounts pipelines) (pathOf target) with
  | none => ⟨404, ""⟩
  | some reply =>
      match method with
      | .get => reply
      | .head => { reply with body := "" }
      | _ => ⟨405, ""⟩

end PricePublisher.Health
