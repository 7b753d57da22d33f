import PricePublisher.Bytes.Hex

/-!
# What can go wrong when signing
-/

namespace PricePublisher

/-- Why a text is no private key. -/
inductive KeyError where
  | notHex (cause : Hex.Error)
  /-- The bytes are no scalar of the curve. -/
  | notScalar
deriving DecidableEq, Repr

/-- The message about an unusable private key. -/
def KeyError.message : KeyError → String
  | .notHex cause => cause.message
  | .notScalar => "signature error"

/-- Why a text is no price that can be signed. -/
inductive PriceTextError where
  | notInteger (text : String)
  | tooLarge (text : String)
deriving DecidableEq, Repr

/-- The message about an unusable price. -/
def PriceTextError.message : PriceTextError → String
  | .notInteger text => text
  | .tooLarge text => text ++ " overflows 256 bits"

/-- Why there is no signer or no signature. -/
inductive SigningError where
  | invalidKey (cause : KeyError)
  | invalidPrice (cause : PriceTextError)
  | refused (reason : String)
  | unknownScheme (name : String)
deriving DecidableEq, Repr

/-- The message about a failure to sign. -/
def SigningError.message : SigningError → String
  | .invalidKey cause => "invalid private key: " ++ cause.message
  | .invalidPrice cause => "invalid quantized price: " ++ cause.message
  | .refused reason => "signing failed: " ++ reason
  | .unknownScheme name => "unknown signature type: " ++ name

end PricePublisher
