import PricePublisher.Decimal.Basic
import PricePublisher.Floating.Whole

/-!
# Decimals as floating-point numbers

Price changes are measured in floating point.  A decimal without digits after
the point is rounded to the nearest number.  Otherwise its whole part and its
fraction are rounded on their own and added, and the sum is rounded back to as
many decimal places as the decimal has.
-/

namespace PricePublisher.Decimal

/-- The floating-point number nearest to a power of ten. -/
def powerOfTen (exponent : Nat) : Float :=
  Float.ofScientific 1 false exponent

/-- The magnitude of a decimal in floating point. -/
def magnitudeToFloat (decimal : Decimal) : Float :=
  if decimal.scale = 0 then decimal.mantissa.toFloat
  else
    let whole := (decimal.mantissa / Nat.pow 10 decimal.scale).toFloat
    let fraction :=
      (decimal.mantissa % Nat.pow 10 decimal.scale).toFloat
        / (Nat.pow 10 decimal.scale).toFloat
    if fraction == 0.0 then whole
    else
      let factor := powerOfTen decimal.scale
      Floating.nearestWhole ((whole + fraction) * factor) / factor

/-- A decimal in floating point. -/
def toFloat (decimal : Decimal) : Float :=
  if decimal.negative then -decimal.magnitudeToFloat
  else decimal.magnitudeToFloat

end PricePublisher.Decimal
