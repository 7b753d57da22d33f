import PricePublisher.Broker.AssetFilter

/-!
# Answers of the broker registry

The registry answers with a list of rows, each a broker's address and assets,
or with a record that holds an error.  The rows of one address are merged into
one filter.
-/

namespace PricePublisher

open Json

/-- A row of the registry: assets that a broker takes. -/
structure BrokerRow where
  url : String
  assets : List String
deriving DecidableEq, Repr

namespace BrokerRow

/-- A row in JSON. -/
def toValue (row : BrokerRow) : Value :=
  .object [("publish_url", .text row.url), ("asset_ids", .array (row.assets.map .text))]

/-- Read a row. -/
def decoder : Decoder BrokerRow := fun room document => do
  match ← Decoder.recordFields? ["publish_url", "asset_ids"] room document with
  | [url, assets] =>
      return {
        url := ← Decoder.required Decoder.text (room - 1) url
        assets := ← Decoder.required (Decoder.list Decoder.text) (room - 1) assets }
  | _ => none

end BrokerRow

/-- Why the registry gave no brokers. -/
inductive RegistryError where
  | unauthorized
  | rejected (reason : String)
  /-- The answer is neither a list of rows nor an error. -/
  | undecodable (reason : String)
  /-- The request did not get through. -/
  | unreachable (reason : String)
deriving DecidableEq, Repr

/-- The message about a failed query. -/
def RegistryError.message : RegistryError → String
  | .unauthorized => "not authorized to query the registry, check the configured RegistryAuth"
  | .rejected reason => "registry returned an error: " ++ reason
  | .undecodable reason => "failed to decode registry response: " ++ reason
  | .unreachable reason => "request failed: " ++ reason

namespace Registry

/-- Read the error in an answer. -/
def errorDecoder : Decoder String := fun room document => do
  match ← Decoder.recordFields? ["error"] room document with
  | [reason] => Decoder.required Decoder.text (room - 1) reason
  | _ => none

/-- The error that means a lack of authority. -/
def unauthorizedReason : String := "Unauthorized"

/-- The rows in the body of an answer. -/
def rowsOfBody (body : String) : Except RegistryError (List BrokerRow) :=
  match (Decoder.list BrokerRow.decoder).run? body with
  | some rows => .ok rows
  | none =>
      match errorDecoder.run? body with
      | some reason =>
          if reason = unauthorizedReason then .error .unauthorized
          else .error (.rejected reason)
      | none => .error (.undecodable "unexpected body")

/-- Brokers and the assets that each takes, under their addresses. -/
abbrev Subscriptions := List (String × AssetFilter)

/-- Add the assets of a row to the broker's filter. -/
def addRow (subscriptions : Subscriptions) (row : BrokerRow) : Subscriptions :=
  let filter := (Keyed.get? subscriptions row.url).getD .empty
  Keyed.insert row.url (filter.extend row.assets) subscriptions

/-- Merge the rows of each broker. -/
def mergeRows (rows : List BrokerRow) : Subscriptions :=
  rows.foldl addRow []

end Registry

end PricePublisher
