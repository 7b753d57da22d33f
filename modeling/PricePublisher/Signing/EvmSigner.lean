import PricePublisher.Curve.Ecdsa
import PricePublisher.Signing.Address
import PricePublisher.Signing.Payload
import PricePublisher.Signing.Signer
import PricePublisher.Text.Blank

/-!
# Signing under the EVM scheme

A signer is made from the hexadecimal text of a private key, with or without
`0x` in front and with blanks around it.  Its publisher key is the address of
that key.
-/

namespace PricePublisher

/-- A private key together with the address that it stands for. -/
structure EvmSigner where
  key : Ecdsa.PrivateKey
  address : Bytes
  publisherKey : String

namespace EvmSigner

/-- The signer for a private key. -/
def ofKey (key : Ecdsa.PrivateKey) : EvmSigner :=
  let address := Address.ofPoint key.publicKey
  ⟨key, address, Address.toText address⟩

/-- Remove one leading `0x`. -/
def withoutPrefix : List Char → List Char
  | '0' :: 'x' :: digits => digits
  | digits => digits

/-- The digits in the text of a private key. -/
def keyDigits (text : String) : String :=
  String.ofList (withoutPrefix (Text.trimChars text.toList))

/-- The signer for the text of a private key. -/
def ofText (text : String) : Except KeyError EvmSigner :=
  match Hex.decode (keyDigits text) with
  | .error cause => .error (.notHex cause)
  | .ok bytes =>
      match Ecdsa.PrivateKey.ofBytes? bytes with
      | none => .error .notScalar
      | some key => .ok (ofKey key)

/-- The offset of the recovery number in a signature's last part. -/
def recoveryOffset : Nat := 27

/-- The texts of a signature's parts. -/
def signatureTexts (signature : Ecdsa.RecoverableSignature) : Signature :=
  .evm (Hex.encodePrefixed (Bytes.ofNat 32 signature.r))
    (Hex.encodePrefixed (Bytes.ofNat 32 signature.s))
    (Hex.encodePrefixed [UInt8.ofNat (signature.recoveryId + recoveryOffset)])

/-- Sign a price text for an asset at a time in nanoseconds. -/
def sign (signer : EvmSigner) (timestamp : Int) (asset price : String) :
    Except SigningError PriceSignature :=
  match Payload.hash signer.address asset timestamp price with
  | .error cause => .error (.invalidPrice cause)
  | .ok published =>
      match Ecdsa.sign? signer.key (Payload.personalHash published) with
      | none => .error (.refused "signature error")
      | some signature =>
          .ok {
            timestampedSignature := {
              signature := signatureTexts signature
              timestamp := timestamp
              messageHash := Hex.encodePrefixed published }
            externalAsset := asset }

/-- A signer under the EVM scheme as a signer. -/
def toSigner (signer : EvmSigner) : Signer where
  publisherKey := signer.publisherKey
  scheme := .evm
  sign := signer.sign

/-- The description of a signer in diagnostics, which keeps the key secret. -/
def description (signer : EvmSigner) : String :=
  "EvmSigner \x7b publisher_key: " ++ Text.quoted signer.publisherKey
    ++ ", signing_key: " ++ Text.quoted "<redacted>" ++ " \x7d"

end EvmSigner

end PricePublisher
