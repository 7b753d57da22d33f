import PricePublisher.Decimal.Digits

/-!
# Reading floating-point numbers

A number is written in decimal with an optional sign, point and exponent, or as
a word for infinity or for what is no number.  The result is the nearest
floating-point number.
-/

namespace PricePublisher.Floating

/-- The power of ten from which on every number is infinite. -/
def overflowExponent : Int := 400

/-- A whole number times a power of ten, rounded to the nearest number. -/
def ofDecimal (digits : Nat) (exponent : Int) : Float :=
  let leading := exponent + (Digits.ofNat digits).length
  if digits = 0 || leading < -overflowExponent then 0
  else if overflowExponent < leading then Float.ofScientific 1 false 400
  else Float.ofScientific digits (exponent < 0) exponent.natAbs

/-- The digits at the front of a text, and what follows them. -/
def splitDigits (characters : List Char) : List Char × List Char :=
  (characters.takeWhile Char.isDigit, characters.dropWhile Char.isDigit)

/-- An exponent after its mark; its sign is optional, its digits are not. -/
def exponent? (characters : List Char) : Option Int :=
  match characters with
  | '-' :: digits => (Digits.toNat? digits).map fun number => -(number : Int)
  | '+' :: digits => (Digits.toNat? digits).map fun number => (number : Int)
  | digits => (Digits.toNat? digits).map fun number => (number : Int)

/-- A decimal number without sign. -/
def decimal? (characters : List Char) : Option Float := do
  let (whole, afterWhole) := splitDigits characters
  let (fraction, afterFraction) := match afterWhole with
    | '.' :: rest => splitDigits rest
    | rest => ([], rest)
  let digits ← Digits.toNat? (whole ++ fraction)
  let exponent ← match afterFraction with
    | [] => some 0
    | mark :: rest => if mark = 'e' ∨ mark = 'E' then exponent? rest else none
  return ofDecimal digits (exponent - fraction.length)

/-- A number without sign; words are read in any case. -/
def magnitude? (characters : List Char) : Option Float :=
  match (String.ofList (characters.map Char.toLower)) with
  | "inf" | "infinity" => some (1 / 0)
  | "nan" => some (0 / 0)
  | _ => decimal? characters

/-- A number with an optional sign. -/
def ofText? (text : String) : Option Float :=
  match text.toList with
  | '-' :: rest => (magnitude? rest).map fun number => -number
  | '+' :: rest => magnitude? rest
  | rest => magnitude? rest

end PricePublisher.Floating
