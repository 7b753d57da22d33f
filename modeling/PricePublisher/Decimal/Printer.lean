import PricePublisher.Decimal.Basic
import PricePublisher.Decimal.Digits

/-!
# Writing decimals

A decimal is written with exactly as many digits after the point as its scale
says, with at least one digit before the point, and with `-` in front when its
sign is set.
-/

namespace PricePublisher.Decimal

/-- The digits of a decimal with the point among them, without the sign. -/
def unsignedChars (decimal : Decimal) : List Char :=
  if decimal.scale = 0 then Digits.ofNat decimal.mantissa
  else
    let digits := Digits.padded (decimal.scale + 1) decimal.mantissa
    let whole := digits.length - decimal.scale
    digits.take whole ++ '.' :: digits.drop whole

/-- The characters of a written decimal. -/
def toChars (decimal : Decimal) : List Char :=
  if decimal.negative then '-' :: decimal.unsignedChars
  else decimal.unsignedChars

/-- The written form of a decimal. -/
def toText (decimal : Decimal) : String :=
  String.ofList decimal.toChars

end PricePublisher.Decimal
