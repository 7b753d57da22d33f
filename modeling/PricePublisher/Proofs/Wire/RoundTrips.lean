import PricePublisher.Proofs.Wire.SignedUpdate
import PricePublisher.Registry.Response

/-!
# What is written reads as itself

Each record of the wire is read from its written form as the record that was written: no
text, timestamp or choice is changed, and what was left out stays out.  The metadata may
be nested a hundred deep.
-/

namespace PricePublisher

open Json

namespace Json.Value

/--
A value whose numbers are whole and held exactly, with containers nested no deeper than
told and with rising names in its objects.
-/
inductive WholeWithin : Nat → Value → Prop
  | null (room : Nat) : WholeWithin room .null
  | boolean (room : Nat) (value : Bool) : WholeWithin room (.boolean value)
  | integer (room : Nat) {value : Int} (exact : Number.IsExactInteger value) :
      WholeWithin room (.number (.integer value))
  | text (room : Nat) (value : String) : WholeWithin room (.text value)
  | array {room : Nat} {items : List Value} (within : ∀ item ∈ items, WholeWithin room item) :
      WholeWithin (room + 1) (.array items)
  | object {room : Nat} {fields : List (String × Value)} (ascending : Keyed.Ascending fields)
      (within : ∀ field ∈ fields, WholeWithin room field.2) :
      WholeWithin (room + 1) (.object fields)

/-- Whole numbers read back, also where containers may nest deeper. -/
theorem WholeWithin.readsWithin
    {room : Nat} {value : Value} (within : WholeWithin room value) (more : Nat) :
    value.ReadsWithin (room + more) := by
  induction within with
  | null room => exact .null _
  | boolean room value => exact .boolean _ value
  | integer room exact => exact .number _ (.integer exact)
  | text room value => exact .text _ value
  | @array room items within induction =>
      rw [Nat.add_right_comm]
      exact .array induction
  | @object room fields ascending within induction =>
      rw [Nat.add_right_comm]
      exact .object ascending induction

end Json.Value

/-- A value that is read from its document is read from its text. -/
theorem Json.Decoder.run?_toText
    {α : Type} {decoder : Decoder α} {value : Value} {held : α} (legible : value.Legible)
    (reads : decoder nestingLimit value.document = some held) :
    decoder.run? value.toText = some held := by
  rw [Decoder.run?, legible.ofText?_toText]
  exact reads

theorem Json.Value.legible_ofTexts (texts : List String) : (ofTexts texts).Legible := by
  apply Legible.array
  intro item member
  rcases List.mem_map.mp member with ⟨content, _, rfl⟩
  exact .text content

namespace BrokerRow

theorem legible_toValue (row : BrokerRow) : row.toValue.Legible := by
  have assets := Value.legible_ofTexts row.assets
  rw [Value.ofTexts] at assets
  apply Value.Legible.object
  simp [Value.Legible.text, assets]

theorem decoder_document (room : Nat) (row : BrokerRow) :
    decoder (room + 2) row.toValue.document = some row := by
  have assets := Decoder.texts_document room row.assets
  rw [Value.ofTexts] at assets
  rw [decoder, toValue, Decoder.recordFields?_document (by simp)]
  simp [Decoder.required, List.lookup_cons, assets]

end BrokerRow

namespace SignedPrice

/-- The timestamp fits, and the metadata holds whole numbers and is nested no deeper than told. -/
structure WholeWithin (room : Nat) (signed : SignedPrice) : Prop where
  fits : signed.timestampedSignature.Fits
  metadata : ∀ metadata ∈ signed.metadata, (Value.object metadata).WholeWithin room

theorem WholeWithin.readsWithin
    {room : Nat} {signed : SignedPrice} (within : signed.WholeWithin room) (more : Nat) :
    signed.ReadsWithin (room + more) where
  fits := within.fits
  metadata := fun metadata held => (within.metadata metadata held).readsWithin more

end SignedPrice

namespace SignedBatch

/-- A batch with rising assets, each of whose prices is nested no deeper than told. -/
structure WholeWithin (room : Nat) (batch : SignedBatch) : Prop where
  ascending : Keyed.Ascending batch
  entries : ∀ entry ∈ batch, entry.2.signedPrice.WholeWithin room

variable {room : Nat} {batch written : SignedBatch}

theorem WholeWithin.legible_of_perm
    (within : batch.WholeWithin room) (permuted : written.Perm batch) :
    (toValue written).Legible := by
  apply legible_toValue
  intro entry held
  exact ((within.entries entry (permuted.mem_iff.mp held)).readsWithin 0).isLegible

theorem WholeWithin.decoder_document_of_perm
    (within : batch.WholeWithin room) (permuted : written.Perm batch) (more : Nat) :
    decoder (room + more + 5) (toValue written).document = some batch :=
  SignedBatch.decoder_document_of_perm within.ascending permuted fun entry held =>
    (within.entries entry held).readsWithin (more + 2)

end SignedBatch

/-- How deep the metadata of a price on the wire may be nested. -/
def metadataDepth : Nat := 100

/--
Every record on the wire reads as itself, whatever texts it holds and whatever order the
entries of a batch are written in.
-/
theorem written_records_read_as_themselves
    (order : SignedBatch → SignedBatch) (permutes : ∀ batch, (order batch).Perm batch) :
    (∀ signature : Signature,
      Signature.decoder.run? signature.toValue.toText = some signature) ∧
    (∀ signed : TimestampedSignature, signed.Fits →
      TimestampedSignature.decoder.run? signed.toValue.toText = some signed) ∧
    (∀ signed : SignedPrice, signed.WholeWithin metadataDepth →
      SignedPrice.decoder.run? signed.toValue.toText = some signed) ∧
    (∀ update : SignedUpdate, update.signedPrice.WholeWithin metadataDepth →
      SignedUpdate.decoder.run? update.toValue.toText = some update) ∧
    (∀ batch : SignedBatch, batch.WholeWithin metadataDepth →
      SignedBatch.decoder.run? (SignedBatch.toValue (order batch)).toText = some batch) ∧
    (∀ row : BrokerRow, BrokerRow.decoder.run? row.toValue.toText = some row) ∧
    (∀ envelope : Envelope SignedBatch,
      (∀ batch ∈ envelope.data, SignedBatch.WholeWithin metadataDepth batch) →
      (Envelope.decoder SignedBatch.decoder).run?
          (envelope.toValue fun batch => SignedBatch.toValue (order batch)).toText =
        some envelope) ∧
    (∀ envelope : Envelope (List String),
      (Envelope.decoder (Decoder.list Decoder.text)).run?
          (envelope.toValue Value.ofTexts).toText =
        some envelope) := by
  -- Each record takes one level of those that may be nested; the metadata needs a hundred.
  refine ⟨?signature, ?timestamped, ?price, ?update, ?batch, ?row, ?batchMessage,
    ?textsMessage⟩
  case signature =>
    intro signature
    exact Decoder.run?_toText (signature.readsWithin_toValue 0).legible
      (signature.decoder_document 126)
  case timestamped =>
    intro signed fits
    exact Decoder.run?_toText (signed.legible_toValue fits) (signed.decoder_document fits 125)
  case price =>
    intro signed within
    exact Decoder.run?_toText (within.readsWithin 0).isLegible.toValue
      (SignedPrice.decoder_document (within.readsWithin 26))
  case update =>
    intro update within
    exact Decoder.run?_toText
      (SignedUpdate.legible_toValue (within.readsWithin 0).isLegible)
      (SignedUpdate.decoder_document (within.readsWithin 25))
  case batch =>
    intro batch within
    exact Decoder.run?_toText (within.legible_of_perm (permutes batch))
      (within.decoder_document_of_perm (permutes batch) 22)
  case row =>
    intro row
    exact Decoder.run?_toText row.legible_toValue (row.decoder_document 125)
  case batchMessage =>
    intro envelope within
    refine Decoder.run?_toText ?_ (Envelope.decoder_document (fun _ _ => nofun) ?_)
    · exact Envelope.legible_toValue fun batch held =>
        (within batch held).legible_of_perm (permutes batch)
    · exact fun batch held => (within batch held).decoder_document_of_perm (permutes batch) 21
  case textsMessage =>
    intro envelope
    refine Decoder.run?_toText ?_ (Envelope.decoder_document (fun _ _ => nofun) ?_)
    · exact Envelope.legible_toValue fun texts _ => Value.legible_ofTexts texts
    · exact fun texts _ => Decoder.texts_document 125 texts

/-- A price signed on Starknet, with nested metadata. -/
def starkPrice : SignedUpdate where
  oracle := "oracle\n\u0000"
  asset := "𝔅TC"
  trigger := .delta
  signedPrice := {
    publisherKey := "\"key\""
    externalAsset := "𝔅TC"
    scheme := .stark
    price := ⟨"-12000000"⟩
    timestampedSignature := ⟨.stark "r" "s", -9223372036854775808, "hash"⟩
    metadata := some [("rates", .array [.number (.integer 18446744073709551615), .null])] }

/-- A price signed by an EVM key, without metadata. -/
def evmPrice : SignedUpdate where
  oracle := ""
  asset := "ETH"
  trigger := .clock
  signedPrice := {
    publisherKey := "key"
    externalAsset := "ETH"
    scheme := .evm
    price := ⟨"1"⟩
    timestampedSignature := ⟨.evm "r" "s" "v", 9223372036854775807, "hash"⟩
    metadata := none }

def twoPrices : SignedBatch := [("ETH", evmPrice), ("𝔅TC", starkPrice)]

theorem wholeWithin_starkPrice : starkPrice.signedPrice.WholeWithin metadataDepth := by
  constructor
  · constructor <;> decide
  · rintro _ ⟨⟩
    refine .object (List.pairwise_singleton _ _) ?_
    simp only [List.mem_singleton, forall_eq]
    refine .array ?_
    simp only [List.mem_cons, List.not_mem_nil, or_false, forall_eq_or_imp, forall_eq]
    exact ⟨.integer _ (by decide), .null _⟩

theorem wholeWithin_twoPrices : twoPrices.WholeWithin metadataDepth := by
  constructor
  · have rising : (twoPrices.map Prod.fst).Pairwise (· < ·) := by decide +kernel
    exact List.pairwise_map.mp rising
  · simp only [twoPrices, List.mem_cons, List.not_mem_nil, or_false, forall_eq_or_imp, forall_eq]
    refine ⟨⟨⟨by decide, by decide⟩, nofun⟩, wholeWithin_starkPrice⟩

/-- A batch with both signatures, written from its last entry to its first. -/
theorem reversed_prices_read_as_themselves :
    (∀ batch : SignedBatch, batch.reverse.Perm batch) ∧
    starkPrice.signedPrice.timestampedSignature.Fits ∧
    starkPrice.signedPrice.WholeWithin metadataDepth ∧
    twoPrices.WholeWithin metadataDepth ∧
    TimestampedSignature.decoder.run?
        starkPrice.signedPrice.timestampedSignature.toValue.toText =
      some starkPrice.signedPrice.timestampedSignature ∧
    SignedPrice.decoder.run? starkPrice.signedPrice.toValue.toText =
      some starkPrice.signedPrice ∧
    SignedUpdate.decoder.run? starkPrice.toValue.toText = some starkPrice ∧
    SignedBatch.decoder.run? (SignedBatch.toValue twoPrices.reverse).toText = some twoPrices ∧
    (Envelope.decoder SignedBatch.decoder).run?
        ((Envelope.ofData "signed_prices" twoPrices).toValue fun batch =>
          SignedBatch.toValue batch.reverse).toText =
      some (Envelope.ofData "signed_prices" twoPrices) := by
  have permutes : ∀ batch : SignedBatch, batch.reverse.Perm batch := List.reverse_perm
  obtain ⟨_, timestamped, price, update, batch, _, message, _⟩ :=
    written_records_read_as_themselves List.reverse permutes
  have stark := wholeWithin_starkPrice
  have both := wholeWithin_twoPrices
  refine ⟨permutes, stark.fits, stark, both, timestamped _ stark.fits, price _ stark,
    update _ stark, batch _ both, message _ ?_⟩
  rintro _ ⟨⟩
  exact both

end PricePublisher
