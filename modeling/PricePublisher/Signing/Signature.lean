/-!
# Signatures of prices

A price is signed under one of two schemes.  The scheme decides the shape of a
signature: three numbers for EVM, two for Stark, each as a hexadecimal text.
-/

namespace PricePublisher

/-- A signature scheme. -/
inductive SignatureScheme where
  | evm
  | stark
deriving DecidableEq, Repr

namespace SignatureScheme

/-- The name of a scheme in settings and messages. -/
def name : SignatureScheme → String
  | .evm => "evm"
  | .stark => "stark"

/-- The scheme of a given name. -/
def ofName? : String → Option SignatureScheme
  | "evm" => some .evm
  | "stark" => some .stark
  | _ => none

@[simp]
theorem ofName?_name (scheme : SignatureScheme) :
    ofName? scheme.name = some scheme := by
  cases scheme <;> rfl

end SignatureScheme

/-- The numbers of a signature, as hexadecimal texts. -/
inductive Signature where
  | evm (r s v : String)
  | stark (r s : String)
deriving DecidableEq, Repr

/-- A signature with the time it vouches for and the hash of what was signed. -/
structure TimestampedSignature where
  signature : Signature
  /-- Nanoseconds since the epoch. -/
  timestamp : Int
  messageHash : String
deriving DecidableEq, Repr

/-- What a signer answers for one price. -/
structure PriceSignature where
  timestampedSignature : TimestampedSignature
  /-- The asset's name in the signed message. -/
  externalAsset : String
deriving DecidableEq, Repr

end PricePublisher
