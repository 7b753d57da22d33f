import PricePublisher.Price.Quantized
import PricePublisher.Price.Update
import PricePublisher.Signing.Signer

/-!
# Signed prices

An update becomes a signed one by quantizing its value and having a signer
vouch for it.  All else is copied.
-/

namespace PricePublisher

/-- A quantized price with the signature that vouches for it. -/
structure SignedPrice where
  publisherKey : String
  externalAsset : String
  scheme : SignatureScheme
  price : QuantizedPrice
  timestampedSignature : TimestampedSignature
  metadata : Option Json.Object

/-- A signed price of one asset, as it is sent to brokers. -/
structure SignedUpdate where
  oracle : String
  asset : String
  trigger : Trigger
  signedPrice : SignedPrice

/-- Quantize and sign an update. -/
def TriggeredUpdate.sign (selected : TriggeredUpdate) (signer : Signer) (oracle : String) :
    Except SigningError SignedUpdate :=
  let update := selected.update
  let price := QuantizedPrice.ofDecimal update.value
  (signer.sign update.timestamp update.asset price.text).map fun answer =>
    { oracle := oracle
      asset := update.asset
      trigger := selected.trigger
      signedPrice := {
        publisherKey := signer.publisherKey
        externalAsset := answer.externalAsset
        scheme := signer.scheme
        price := price
        timestampedSignature := answer.timestampedSignature
        metadata := update.metadata } }

end PricePublisher
