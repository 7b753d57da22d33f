import PricePublisher.Bytes.Hex

/-!
# Keys in hexadecimal
-/

namespace PricePublisher.Settings

/-- Whether a text is `0x` and at least one hexadecimal digit, and nothing else. -/
def isHexKey (text : String) : Bool :=
  match text.toList with
  | '0' :: 'x' :: digits => !digits.isEmpty && digits.all Hex.isDigit
  | _ => false

end PricePublisher.Settings
