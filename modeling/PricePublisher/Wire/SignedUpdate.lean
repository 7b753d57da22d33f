import PricePublisher.Price.Signed
import PricePublisher.Wire.Envelope

/-!
# Signed prices on the wire

Each record is written with its fields in a fixed order; metadata is left out
when there is none.  The signature's scheme is not written beside its parts: a
signature with a third part `v` is an EVM signature, any other a Stark one.
-/

namespace PricePublisher

open Json

namespace SignatureScheme

/-- A scheme in JSON. -/
def toValue (scheme : SignatureScheme) : Value :=
  .text scheme.name

/-- Read a scheme. -/
def decoder : Decoder SignatureScheme :=
  Decoder.alternative ofName?

end SignatureScheme

namespace Trigger

/-- A trigger in JSON. -/
def toValue (trigger : Trigger) : Value :=
  .text trigger.name

/-- Read a trigger. -/
def decoder : Decoder Trigger :=
  Decoder.alternative ofName?

end Trigger

namespace Signature

/-- A signature in JSON. -/
def toValue : Signature → Value
  | .evm r s v => .object [("r", .text r), ("s", .text s), ("v", .text v)]
  | .stark r s => .object [("r", .text r), ("s", .text s)]

/-- Read a signature of three parts. -/
def evmDecoder : Decoder Signature := fun room document => do
  match ← Decoder.recordFields? ["r", "s", "v"] room document with
  | [r, s, v] =>
      return .evm (← Decoder.required Decoder.text (room - 1) r)
        (← Decoder.required Decoder.text (room - 1) s)
        (← Decoder.required Decoder.text (room - 1) v)
  | _ => none

/-- Read a signature of two parts. -/
def starkDecoder : Decoder Signature := fun room document => do
  match ← Decoder.recordFields? ["r", "s"] room document with
  | [r, s] =>
      return .stark (← Decoder.required Decoder.text (room - 1) r)
        (← Decoder.required Decoder.text (room - 1) s)
  | _ => none

/--
Read a signature.  As its shape is found out by trial, all parts of the
document must have a meaning, also those that are skipped.
-/
def decoder : Decoder Signature := fun room document => do
  let _ ← Document.build? room document
  evmDecoder room document <|> starkDecoder room document

end Signature

namespace TimestampedSignature

/-- A timestamped signature in JSON. -/
def toValue (signed : TimestampedSignature) : Value :=
  .object [
    ("signature", signed.signature.toValue),
    ("timestamp", .number (.integer signed.timestamp)),
    ("msg_hash", .text signed.messageHash)]

/-- Read a timestamped signature. -/
def decoder : Decoder TimestampedSignature := fun room document => do
  match ← Decoder.recordFields? ["signature", "timestamp", "msg_hash"] room document with
  | [signature, timestamp, messageHash] =>
      return {
        signature := ← Decoder.required Signature.decoder (room - 1) signature
        timestamp := ← Decoder.required Decoder.int64 (room - 1) timestamp
        messageHash := ← Decoder.required Decoder.text (room - 1) messageHash }
  | _ => none

end TimestampedSignature

namespace QuantizedPrice

/-- A quantized price in JSON. -/
def toValue (price : QuantizedPrice) : Value :=
  .text price.text

/-- Read a quantized price; any text is taken. -/
def decoder : Decoder QuantizedPrice := fun room document =>
  (Decoder.text room document).map .mk

end QuantizedPrice

namespace SignedPrice

/-- A signed price in JSON. -/
def toValue (signed : SignedPrice) : Value :=
  .object <|
    [("publisher_key", .text signed.publisherKey),
      ("external_asset_id", .text signed.externalAsset),
      ("signature_type", signed.scheme.toValue),
      ("price", signed.price.toValue),
      ("timestamped_signature", signed.timestampedSignature.toValue)]
      ++ Envelope.fieldIfPresent "metadata" (signed.metadata.map .object)

/-- The names of a signed price's fields. -/
def fieldNames : List String :=
  ["publisher_key", "external_asset_id", "signature_type", "price",
    "timestamped_signature", "metadata"]

/-- Read a signed price. -/
def decoder : Decoder SignedPrice := fun room document => do
  match ← Decoder.recordFields? fieldNames room document with
  | [publisherKey, externalAsset, scheme, price, timestampedSignature, metadata] =>
      return {
        publisherKey := ← Decoder.required Decoder.text (room - 1) publisherKey
        externalAsset := ← Decoder.required Decoder.text (room - 1) externalAsset
        scheme := ← Decoder.required SignatureScheme.decoder (room - 1) scheme
        price := ← Decoder.required QuantizedPrice.decoder (room - 1) price
        timestampedSignature :=
          ← Decoder.required TimestampedSignature.decoder (room - 1) timestampedSignature
        metadata := ← Decoder.omittable Decoder.object (room - 1) metadata }
  | _ => none

end SignedPrice

namespace SignedUpdate

/-- A signed update in JSON. -/
def toValue (update : SignedUpdate) : Value :=
  .object [
    ("oracle_id", .text update.oracle),
    ("asset_id", .text update.asset),
    ("trigger", update.trigger.toValue),
    ("signed_price", update.signedPrice.toValue)]

/-- Read a signed update. -/
def decoder : Decoder SignedUpdate := fun room document => do
  match ← Decoder.recordFields? ["oracle_id", "asset_id", "trigger", "signed_price"]
      room document with
  | [oracle, asset, trigger, signedPrice] =>
      return {
        oracle := ← Decoder.required Decoder.text (room - 1) oracle
        asset := ← Decoder.required Decoder.text (room - 1) asset
        trigger := ← Decoder.required Trigger.decoder (room - 1) trigger
        signedPrice := ← Decoder.required SignedPrice.decoder (room - 1) signedPrice }
  | _ => none

end SignedUpdate

/-- The latest signed update of each asset, under the asset's name. -/
abbrev SignedBatch := List (String × SignedUpdate)

namespace SignedBatch

/-- Take an update into a batch, in place of an earlier one of its asset. -/
def insert (batch : SignedBatch) (update : SignedUpdate) : SignedBatch :=
  Keyed.insert update.asset update batch

/-- The latest update of each asset in batches that follow one another. -/
def latest (batches : List SignedBatch) : SignedBatch :=
  batches.foldl (fun all batch => batch.foldl (fun all entry => insert all entry.2) all) []

/-- A batch in JSON. -/
def toValue (batch : SignedBatch) : Value :=
  .object (Keyed.mapValues SignedUpdate.toValue batch)

/-- Read a batch. -/
def decoder : Decoder SignedBatch :=
  Decoder.keyed SignedUpdate.decoder

end SignedBatch

end PricePublisher
