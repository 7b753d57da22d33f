import PricePublisher.Proofs.Wire.Records
import PricePublisher.Json.Access
import PricePublisher.Wire.SignedUpdate

/-!
# Signed prices read back

A signed price that was written reads as itself, if its timestamp fits 64 bits and its
metadata can be read back so deep inside a message.  A signature of two parts is never
taken for one of three, because the third part is missing.
-/

namespace PricePublisher

open Json

variable {room : Nat}

namespace Signature

theorem readsWithin_toValue (room : Nat) (signature : Signature) :
    signature.toValue.ReadsWithin (room + 1) := by
  cases signature with
  | evm r s v =>
      have rising : ["r", "s", "v"].Pairwise (· < ·) := by decide +kernel
      refine .object (List.pairwise_map.mp rising) ?_
      simp [Value.ReadsWithin.text]
  | stark r s =>
      have rising : ["r", "s"].Pairwise (· < ·) := by decide +kernel
      refine .object (List.pairwise_map.mp rising) ?_
      simp [Value.ReadsWithin.text]

theorem decoder_document (room : Nat) (signature : Signature) :
    decoder (room + 1) signature.toValue.document = some signature := by
  rw [decoder, (readsWithin_toValue room signature).build?_document]
  cases signature with
  | evm r s v =>
      have fields := @Decoder.recordFields?_document
        [("r", .text r), ("s", .text s), ("v", .text v)]
        (by simp) ["r", "s", "v"] room
      simp [toValue, evmDecoder, fields, Decoder.required, List.lookup_cons]
  | stark r s =>
      have fields := @Decoder.recordFields?_document [("r", .text r), ("s", .text s)] (by simp)
      simp [toValue, evmDecoder, starkDecoder, fields, Decoder.required, List.lookup_cons]

end Signature

namespace TimestampedSignature

/-- The timestamp fits 64 bits with sign. -/
def Fits (signed : TimestampedSignature) : Prop :=
  -(Nat.pow 2 63 : Nat) ≤ signed.timestamp ∧ signed.timestamp < (Nat.pow 2 63 : Nat)

theorem legible_toValue {signed : TimestampedSignature} (fits : signed.Fits) :
    signed.toValue.Legible := by
  have exact : Number.IsExactInteger signed.timestamp := by
    rcases fits with ⟨lower, upper⟩
    refine ⟨lower, ?_⟩
    simp only [Nat.pow_eq] at *
    omega
  apply Value.Legible.object
  simp [(signed.signature.readsWithin_toValue 0).legible, Value.Legible.text,
    Value.Legible.number (Number.ReadsBack.integer exact).isLegible]

theorem decoder_document {signed : TimestampedSignature} (fits : signed.Fits) (room : Nat) :
    decoder (room + 2) signed.toValue.document = some signed := by
  rw [decoder, toValue, Decoder.recordFields?_document (by simp)]
  simp [Decoder.required, List.lookup_cons, Signature.decoder_document,
    Decoder.int64_document fits.1 fits.2]

end TimestampedSignature

namespace SignedPrice

/-- The timestamp fits, and the metadata can be read back where containers nest so deep. -/
structure ReadsWithin (room : Nat) (signed : SignedPrice) : Prop where
  fits : signed.timestampedSignature.Fits
  metadata : ∀ metadata ∈ signed.metadata, (Value.object metadata).ReadsWithin room

variable {signed : SignedPrice}

/-- The timestamp fits, and all numbers in the metadata are written as numerals. -/
structure IsLegible (signed : SignedPrice) : Prop where
  fits : signed.timestampedSignature.Fits
  metadata : ∀ metadata ∈ signed.metadata, (Value.object metadata).Legible

theorem ReadsWithin.isLegible (within : signed.ReadsWithin room) : signed.IsLegible where
  fits := within.fits
  metadata := fun metadata held => (within.metadata metadata held).legible

theorem IsLegible.toValue (legible : signed.IsLegible) : signed.toValue.Legible := by
  have signature := TimestampedSignature.legible_toValue legible.fits
  apply Value.Legible.object
  cases held : signed.metadata with
  | none =>
      simp [Envelope.fieldIfPresent, Value.Legible.text, SignatureScheme.toValue,
        QuantizedPrice.toValue, signature]
  | some content =>
      simp [Envelope.fieldIfPresent, Value.Legible.text, SignatureScheme.toValue,
        QuantizedPrice.toValue, signature, legible.metadata content held]

theorem decoder_document (within : signed.ReadsWithin (room + 2)) :
    decoder (room + 3) signed.toValue.document = some signed := by
  have signature := TimestampedSignature.decoder_document within.fits room
  have scheme := Decoder.alternative_document (SignatureScheme.ofName?_name signed.scheme)
    (room + 2)
  have metadata : Decoder.omittable Decoder.object (room + 2)
      ((signed.metadata.map Value.object).map Value.document) = some signed.metadata := by
    apply Decoder.omittable_document
    · exact nofun
    · intro content held
      have meaning := (within.metadata content held).build?_document
      rw [Value.document] at meaning ⊢
      rw [Decoder.object, meaning]
  have lookup : fieldNames.map (fun name =>
        ((signed.toValue.fields).lookup name).map Value.document) =
      [some (Value.text signed.publisherKey).document,
        some (Value.text signed.externalAsset).document,
        some (Value.text signed.scheme.name).document,
        some (Value.text signed.price.text).document,
        some signed.timestampedSignature.toValue.document,
        (signed.metadata.map Value.object).map Value.document] := by
    cases held : signed.metadata <;>
      simp [fieldNames, toValue, Value.fields, held, Envelope.fieldIfPresent, List.lookup_cons,
        SignatureScheme.toValue, QuantizedPrice.toValue]
  have distinct : (signed.toValue.fields.map Prod.fst).Nodup := by
    cases held : signed.metadata <;>
      simp [toValue, Value.fields, held, Envelope.fieldIfPresent]
  have record := Decoder.recordFields?_document distinct fieldNames (room + 2)
  rw [lookup] at record
  have written : signed.toValue = .object signed.toValue.fields := rfl
  rw [decoder, written, record]
  simp [-Option.map_map, Decoder.required, SignatureScheme.decoder, QuantizedPrice.decoder, scheme,
    signature, metadata]

end SignedPrice

namespace SignedUpdate

variable {update : SignedUpdate}

theorem legible_toValue (legible : update.signedPrice.IsLegible) : update.toValue.Legible := by
  apply Value.Legible.object
  simp [Value.Legible.text, Trigger.toValue, legible.toValue]

theorem decoder_document (within : update.signedPrice.ReadsWithin (room + 2)) :
    decoder (room + 4) update.toValue.document = some update := by
  have trigger := Decoder.alternative_document (Trigger.ofName?_name update.trigger) (room + 3)
  rw [decoder, toValue, Decoder.recordFields?_document (by simp)]
  simp [Decoder.required, List.lookup_cons, Trigger.decoder, Trigger.toValue, trigger,
    SignedPrice.decoder_document within]

end SignedUpdate

namespace SignedBatch

/-- Every price in a batch can be read back where containers nest so deep. -/
def ReadsWithin (room : Nat) (batch : SignedBatch) : Prop :=
  ∀ entry ∈ batch, entry.2.signedPrice.ReadsWithin room

variable {batch : SignedBatch}

theorem legible_toValue (legible : ∀ entry ∈ batch, entry.2.signedPrice.IsLegible) :
    (toValue batch).Legible := by
  apply Value.Legible.object
  intro field member
  rcases List.mem_map.mp member with ⟨entry, held, rfl⟩
  exact SignedUpdate.legible_toValue (legible entry held)

theorem decoder_document_of_perm
    {written : SignedBatch} (ascending : Keyed.Ascending batch) (permuted : written.Perm batch)
    (within : ReadsWithin (room + 2) batch) :
    decoder (room + 5) (toValue written).document = some batch :=
  Decoder.keyed_document ascending permuted fun entry held =>
    SignedUpdate.decoder_document (within entry held)

end SignedBatch

namespace Envelope

variable {α : Type} {encode : α → Value} {envelope : Envelope α}

/-- A message reads back if its data does. -/
theorem decoder_document
    {decode : Decoder α} (notNull : ∀ data ∈ envelope.data, encode data ≠ .null)
    (reads : ∀ data ∈ envelope.data, decode room (encode data).document = some data) :
    decoder decode (room + 1) (envelope.toValue encode).document = some envelope := by
  have content := Decoder.omittable_document notNull reads
  have optionalText : ∀ content : Option String, Decoder.omittable Decoder.text room
      ((content.map Value.text).map Value.document) = some content := fun content =>
    Decoder.omittable_document (fun _ _ => nofun) fun text _ => Decoder.text_document room text
  have lookup : ["type", "error", "trace_id", "data"].map (fun name =>
        (((envelope.toValue encode).fields).lookup name).map Value.document) =
      [some (Value.text envelope.kind).document,
        (envelope.error.map Value.text).map Value.document,
        (envelope.trace.map Value.text).map Value.document,
        (envelope.data.map encode).map Value.document] := by
    cases error : envelope.error <;> cases trace : envelope.trace <;>
      cases data : envelope.data <;>
      simp [toValue, Value.fields, error, trace, data, fieldIfPresent, List.lookup_cons]
  have distinct : ((envelope.toValue encode).fields.map Prod.fst).Nodup := by
    cases error : envelope.error <;> cases trace : envelope.trace <;>
      cases data : envelope.data <;>
      simp [toValue, Value.fields, error, trace, data, fieldIfPresent]
  have record := Decoder.recordFields?_document distinct
    ["type", "error", "trace_id", "data"] room
  rw [lookup] at record
  have written : envelope.toValue encode = .object (envelope.toValue encode).fields := rfl
  rw [decoder, written, record]
  simp [-Option.map_map, Decoder.required, optionalText, content]

theorem legible_toValue (legible : ∀ data ∈ envelope.data, (encode data).Legible) :
    (envelope.toValue encode).Legible := by
  apply Value.Legible.object
  cases error : envelope.error <;> cases trace : envelope.trace <;>
    cases data : envelope.data <;>
    simp [data, fieldIfPresent, Value.Legible.text, legible]

end Envelope

end PricePublisher
