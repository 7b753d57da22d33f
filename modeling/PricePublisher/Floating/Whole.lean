import PricePublisher.Floating.Shortest

/-!
# Whole floating-point numbers

A number whose last binary place is a whole one is its own nearest whole number.
Any other number is less than 2⁵³, so that the whole number nearest to it is one in
floating point as well.
-/

namespace PricePublisher.Floating

/-- The whole number nearest to a magnitude with binary places; a half is rounded up. -/
def Magnitude.nearestWhole (number : Magnitude) : Nat :=
  let unit := Nat.pow 2 (-number.exponent).toNat
  (2 * number.significand + unit) / (2 * unit)

/-- The nearest whole number; a half is rounded away from zero. -/
def nearestWhole (number : Float) : Float :=
  let parts := magnitude number
  if 0 ≤ parts.exponent then number
  else if isNegative number then -parts.nearestWhole.toFloat
  else parts.nearestWhole.toFloat

end PricePublisher.Floating
