/-!
# Decimals

A price is held as a decimal number: a sign, a whole number below 2⁹⁶ called
the mantissa, and a scale of at most 28 that says how many of the mantissa's
digits follow the point.  Two decimals of different scale may stand for the
same number, and zero may carry a sign.

`Decimal.toRat` is the number that a decimal stands for.
-/

namespace PricePublisher

/-- The first whole number that is too large for a mantissa. -/
def mantissaBound : Nat := Nat.pow 2 96

/-- The largest number of digits after the point. -/
def scaleLimit : Nat := 28

/-- A sign, a mantissa and the number of its digits that follow the point. -/
structure Decimal where
  negative : Bool
  mantissa : Nat
  scale : Nat
  mantissa_lt : mantissa < mantissaBound
  scale_le : scale ≤ scaleLimit
deriving DecidableEq, Repr

namespace Decimal

/-- The decimal with the given parts, if they are within the limits. -/
def ofParts? (negative : Bool) (mantissa scale : Nat) : Option Decimal :=
  if within : mantissa < mantissaBound ∧ scale ≤ scaleLimit then
    some ⟨negative, mantissa, scale, within.1, within.2⟩
  else
    none

/-- Zero, without sign and without digits after the point. -/
def zero : Decimal :=
  ⟨false, 0, 0, by decide, by decide⟩

/-- The decimal one. -/
def one : Decimal :=
  ⟨false, 1, 0, by decide, by decide⟩

/-- The mantissa together with the sign. -/
def signedMantissa (decimal : Decimal) : Int :=
  if decimal.negative then -(decimal.mantissa : Int) else decimal.mantissa

theorem natAbs_signedMantissa (decimal : Decimal) :
    decimal.signedMantissa.natAbs = decimal.mantissa := by
  rw [signedMantissa]
  split <;> omega

/-- The number that a decimal stands for. -/
def toRat (decimal : Decimal) : Rat :=
  mkRat decimal.signedMantissa (Nat.pow 10 decimal.scale)

/-- The decimal with the sign set. -/
def withNegativeSign (decimal : Decimal) : Decimal :=
  { decimal with negative := true }

end Decimal

end PricePublisher
