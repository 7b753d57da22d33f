import PricePublisher.Price.Signed

/-!
# What a signed price keeps of its update

A signed update names the asset, trigger and metadata of the update it was made
from, and its price is that update's value in whole units.  The time in it is
the signer's to write; a signer that keeps times writes the time it was given.
-/

namespace PricePublisher

/-- A signer vouches for the time that it is given. -/
def Signer.KeepsTime (signer : Signer) : Prop :=
  ∀ (timestamp : Int) (asset price : String) (answer : PriceSignature),
    signer.sign timestamp asset price = .ok answer →
      answer.timestampedSignature.timestamp = timestamp

/-- A signed update is made from a selected one, with the answer of a signer. -/
structure SignedUpdate.MadeFrom
    (signed : SignedUpdate) (selected : TriggeredUpdate) (signer : Signer)
    (oracle : String) : Prop where
  oracle : signed.oracle = oracle
  asset : signed.asset = selected.update.asset
  trigger : signed.trigger = selected.trigger
  metadata : signed.signedPrice.metadata = selected.update.metadata
  price : signed.signedPrice.price = QuantizedPrice.ofDecimal selected.update.value
  publisher_key : signed.signedPrice.publisherKey = signer.publisherKey
  scheme : signed.signedPrice.scheme = signer.scheme
  answered :
    signer.sign selected.update.timestamp selected.update.asset
        signed.signedPrice.price.text =
      .ok ⟨signed.signedPrice.timestampedSignature, signed.signedPrice.externalAsset⟩
  timestamp : signer.KeepsTime →
    signed.signedPrice.timestampedSignature.timestamp = selected.update.timestamp

/-- What signing gives is made from what was signed. -/
theorem SignedUpdate.madeFrom
    {signed : SignedUpdate} {selected : TriggeredUpdate} {signer : Signer}
    {oracle : String}
    (succeeds : selected.sign signer oracle = .ok signed) :
    signed.MadeFrom selected signer oracle := by
  simp only [TriggeredUpdate.sign] at succeeds
  cases outcome : signer.sign selected.update.timestamp selected.update.asset
      (QuantizedPrice.ofDecimal selected.update.value).text with
  | error cause =>
      rw [outcome] at succeeds
      cases succeeds
  | ok answer =>
      rw [outcome] at succeeds
      cases succeeds
      refine ⟨rfl, rfl, rfl, rfl, rfl, rfl, rfl, outcome, ?_⟩
      intro keeps
      exact keeps _ _ _ _ outcome

theorem TriggeredUpdate.sign_of_answered
    {selected : TriggeredUpdate} {signer : Signer} {answer : PriceSignature}
    (oracle : String)
    (answered :
      signer.sign selected.update.timestamp selected.update.asset
          (QuantizedPrice.ofDecimal selected.update.value).text =
        .ok answer) :
    selected.sign signer oracle =
      .ok {
        oracle := oracle
        asset := selected.update.asset
        trigger := selected.trigger
        signedPrice := {
          publisherKey := signer.publisherKey
          externalAsset := answer.externalAsset
          scheme := signer.scheme
          price := QuantizedPrice.ofDecimal selected.update.value
          timestampedSignature := answer.timestampedSignature
          metadata := selected.update.metadata } } := by
  rw [sign, answered]
  rfl

end PricePublisher
