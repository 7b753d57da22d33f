import PricePublisher.Decimal.Digits
import PricePublisher.Floating.Shortest

/-!
# Written floating-point numbers

Two layouts of the shortest digits.  The plain layout is always positional and
writes a whole number without a point.  The compact layout is positional from
10⁻⁵ up to 10¹⁶, always with a point, and otherwise has one digit before the
point and a signed exponent.
-/

namespace PricePublisher.Floating

namespace DecimalMagnitude

/-- The digits in positional notation, without a point if none follow it. -/
def positionalChars (number : DecimalMagnitude) : List Char :=
  let digits := Digits.ofNat number.digits
  if 0 ≤ number.exponent then
    if number.digits = 0 then digits
    else digits ++ List.replicate number.exponent.toNat '0'
  else
    let places := (-number.exponent).toNat
    let padded := Digits.padded (places + 1) number.digits
    let whole := padded.length - places
    padded.take whole ++ '.' :: padded.drop whole

/-- The power of ten of the first digit. -/
def leadingExponent (number : DecimalMagnitude) : Int :=
  number.exponent + (Digits.ofNat number.digits).length - 1

/-- The digits with a point after the first one, and a signed exponent. -/
def exponentialChars (number : DecimalMagnitude) : List Char :=
  let exponent := number.leadingExponent
  let fraction :=
    match Digits.ofNat number.digits with
    | first :: second :: rest => first :: '.' :: second :: rest
    | digits => digits
  fraction ++ 'e' :: (if exponent < 0 then '-' else '+')
    :: Digits.ofNat exponent.natAbs

end DecimalMagnitude

/-- Put the sign of a number before its digits. -/
def withSign (number : Float) (digits : List Char) : List Char :=
  if isNegative number then '-' :: digits else digits

/-- The plain layout of a finite number. -/
def plainChars (number : Float) : List Char :=
  withSign number ((magnitude number).shortest .away).positionalChars

/-- The compact layout of a finite number. -/
def compactChars (number : Float) : List Char :=
  let decimal := (magnitude number).shortest .toEven
  let leading := decimal.leadingExponent
  withSign number <|
    if decimal.digits = 0 || (-5 ≤ leading && leading < 16) then
      if 0 ≤ decimal.exponent then decimal.positionalChars ++ ['.', '0']
      else decimal.positionalChars
    else decimal.exponentialChars

/-- The plain layout of a finite number, as a text. -/
def plainText (number : Float) : String :=
  String.ofList (plainChars number)

/-- The compact layout of a finite number, as a text. -/
def compactText (number : Float) : String :=
  String.ofList (compactChars number)

end PricePublisher.Floating
