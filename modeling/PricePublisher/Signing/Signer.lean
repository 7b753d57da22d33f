import PricePublisher.Signing.Error
import PricePublisher.Signing.Signature

/-!
# Signers

A signer answers a time, an asset and a price text with a signature, and states
under which key and scheme it signs.
-/

namespace PricePublisher

/-- The ability to sign prices. -/
structure Signer where
  publisherKey : String
  scheme : SignatureScheme
  /-- Sign a price text for an asset at a time in nanoseconds. -/
  sign : (timestamp : Int) → (asset price : String) → Except SigningError PriceSignature

end PricePublisher
