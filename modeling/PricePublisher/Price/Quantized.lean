import PricePublisher.Decimal.Basic
import PricePublisher.Decimal.Digits

/-!
# Quantized prices

A published price is a whole number of units of 10⁻¹⁸, written in base ten.
Digits below one unit are cut off.  A text of more than six characters keeps
its length but ends in six zeros, because those last digits carry no
information for a broker.

The units are counted without leaving signed words of 128 bits: zeros are put
behind the digits of a mantissa with few digits after the point, and a mantissa
with many is divided.  No word ever overflows, so every decimal has a price.
-/

namespace PricePublisher

/-- The text of a price in whole units of 10⁻¹⁸. -/
structure QuantizedPrice where
  text : String
deriving DecidableEq, Repr

namespace QuantizedPrice

/-- How many digits after the point a unit stands for. -/
def unitPlaces : Nat := 18

/-- How many characters at the end of a text are replaced by zeros. -/
def clearedLength : Nat := 6

/-- The first whole number that is too large for a signed word of 128 bits. -/
def wordBound : Nat := Nat.pow 2 127

/-- A whole number, if it fits a word. -/
def word? (number : Int) : Option Int :=
  if -(wordBound : Int) ≤ number ∧ number < wordBound then some number else none

/-- The quotient of two words, cut off towards zero, if it is one. -/
def quotient? (dividend divisor : Int) : Option Int :=
  if divisor = 0 then none else word? (dividend.tdiv divisor)

/-- A whole number in base ten, with `-` in front of a negative one. -/
def wholeChars (number : Int) : List Char :=
  if number < 0 then '-' :: Digits.ofNat number.natAbs
  else Digits.ofNat number.natAbs

/-- The number by which a mantissa with more digits after the point than a unit is divided. -/
def unitDivisor (decimal : Decimal) : Int :=
  (Nat.pow 10 (decimal.scale - unitPlaces) : Nat)

/-- The whole units in a decimal, written in base ten. -/
def unitChars? (decimal : Decimal) : Option (List Char) :=
  if decimal.signedMantissa = 0 then some ['0']
  else if decimal.scale ≤ unitPlaces then
    some (wholeChars decimal.signedMantissa
      ++ List.replicate (unitPlaces - decimal.scale) '0')
  else do
    let divisor ← word? (unitDivisor decimal)
    let units ← quotient? decimal.signedMantissa divisor
    return wholeChars units

/-- Replace the last six characters of a longer text by zeros. -/
def clearLast (text : List Char) : List Char :=
  if text.length ≤ clearedLength then text
  else
    text.take (text.length - clearedLength) ++ List.replicate clearedLength '0'

/-- The price published for a decimal, if counting its units does not overflow. -/
def ofDecimal? (decimal : Decimal) : Option QuantizedPrice :=
  (unitChars? decimal).map fun units => ⟨String.ofList (clearLast units)⟩

theorem word?_of_natAbs_lt {number : Int} (small : number.natAbs < wordBound) :
    word? number = some number := by
  rw [word?, if_pos]
  omega

theorem word?_unitDivisor (decimal : Decimal) :
    word? (unitDivisor decimal) = some (unitDivisor decimal) := by
  have places : decimal.scale - unitPlaces ≤ 10 := Nat.sub_le_of_le_add decimal.scale_le
  apply word?_of_natAbs_lt
  rw [unitDivisor, Int.natAbs_natCast]
  exact Nat.lt_of_le_of_lt (Nat.pow_le_pow_right (by decide) places) (by decide)

/-- Dividing a mantissa does not leave the words. -/
theorem quotient?_signedMantissa (decimal : Decimal) {divisor : Int} (nonzero : divisor ≠ 0) :
    quotient? decimal.signedMantissa divisor = some (decimal.signedMantissa.tdiv divisor) := by
  rw [quotient?, if_neg nonzero]
  apply word?_of_natAbs_lt
  rw [Int.natAbs_tdiv, decimal.natAbs_signedMantissa]
  calc
    decimal.mantissa / divisor.natAbs ≤ decimal.mantissa := Nat.div_le_self _ _
    _ < mantissaBound := decimal.mantissa_lt
    _ < wordBound := by decide

theorem unitChars?_of_many_places {decimal : Decimal}
    (nonzero : decimal.signedMantissa ≠ 0) (many : unitPlaces < decimal.scale) :
    unitChars? decimal =
      some (wholeChars (decimal.signedMantissa.tdiv (unitDivisor decimal))) := by
  have positive : 0 < Nat.pow 10 (decimal.scale - unitPlaces) := Nat.pow_pos (by decide)
  have divides : unitDivisor decimal ≠ 0 := by
    rw [unitDivisor]
    omega
  rw [unitChars?, if_neg nonzero, if_neg (Nat.not_le.mpr many), word?_unitDivisor,
    Option.bind_eq_bind, Option.bind_some, quotient?_signedMantissa decimal divides]
  rfl

/-- No decimal makes the counting of its units overflow. -/
theorem isSome_ofDecimal? (decimal : Decimal) : (ofDecimal? decimal).isSome := by
  rw [ofDecimal?, Option.isSome_map]
  by_cases zero : decimal.signedMantissa = 0
  · rw [unitChars?, if_pos zero]
    rfl
  · by_cases few : decimal.scale ≤ unitPlaces
    · rw [unitChars?, if_neg zero, if_pos few]
      rfl
    · rw [unitChars?_of_many_places zero (Nat.not_le.mp few)]
      rfl

/-- The price published for a decimal. -/
def ofDecimal (decimal : Decimal) : QuantizedPrice :=
  (ofDecimal? decimal).get (isSome_ofDecimal? decimal)

end QuantizedPrice

end PricePublisher
