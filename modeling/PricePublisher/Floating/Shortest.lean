/-!
# The shortest digits of a floating-point number

A finite binary floating-point number is `significand * 2 ^ exponent`.  The
reals that round to it form an interval around it, whose ends belong to it
exactly when the significand is even.  Its shortest decimal form is the point
of that interval on the coarsest grid of multiples of a power of ten, and among
two such points the nearer one.
-/

namespace PricePublisher.Floating

/-- Which of two equally near decimal forms is taken. -/
inductive Tie where
  /-- The one whose last digit is even. -/
  | toEven
  /-- The one farther from zero. -/
  | away
deriving DecidableEq, Repr

/-- The magnitude of a finite number, as `significand * 2 ^ exponent`. -/
structure Magnitude where
  significand : Nat
  exponent : Int
  /-- The next smaller magnitude is only half as far away as the next larger. -/
  narrowBelow : Bool
deriving DecidableEq, Repr

/-- A decimal magnitude, `digits * 10 ^ exponent`. -/
structure DecimalMagnitude where
  digits : Nat
  exponent : Int
deriving DecidableEq, Repr

/-- Whether the sign bit is set. -/
def isNegative (number : Float) : Bool :=
  number.toBits >>> 63 == 1

/-- Decompose the magnitude of a finite number. -/
def magnitude (number : Float) : Magnitude :=
  let bits := number.toBits.toNat
  let field : Nat := bits / Nat.pow 2 52 % Nat.pow 2 11
  let fraction : Nat := bits % Nat.pow 2 52
  if field = 0 then ⟨fraction, -1074, false⟩
  else ⟨Nat.pow 2 52 + fraction, (field : Int) - 1075, fraction == 0 && field != 1⟩

namespace Magnitude

/--
The numerators, over one common denominator, of the lower end of the interval,
the number itself and the upper end, all divided by `10 ^ place`.
-/
def overPlace (number : Magnitude) (place : Int) : (Nat × Nat × Nat) × Nat :=
  let two := number.exponent - 2
  let up := Nat.pow 2 two.toNat * Nat.pow 10 (-place).toNat
  let down := Nat.pow 2 (-two).toNat * Nat.pow 10 place.toNat
  let middle := 4 * number.significand
  let below := if number.narrowBelow then 1 else 2
  (((middle - below) * up, middle * up, (middle + 2) * up), down)

/-- The point of the interval on the grid of multiples of `10 ^ place`. -/
def onGrid? (number : Magnitude) (tie : Tie) (place : Int) : Option Nat :=
  let ((lower, middle, upper), unit) := number.overPlace place
  let inside := fun point : Nat =>
    if number.significand % 2 = 0 then lower ≤ point * unit && point * unit ≤ upper
    else lower < point * unit && point * unit < upper
  let floor := middle / unit
  let ceiling := floor + 1
  match floor != 0 && inside floor, inside ceiling with
  | false, false => none
  | true, false => some floor
  | false, true => some ceiling
  | true, true =>
      let below := middle - floor * unit
      let above := ceiling * unit - middle
      if below < above then some floor
      else if above < below then some ceiling
      else
        match tie with
        | .away => some ceiling
        | .toEven => if floor % 2 = 0 then some floor else some ceiling

/-- Try grids of falling coarseness, from `10 ^ place` on. -/
def search (number : Magnitude) (tie : Tie) : Nat → Int → DecimalMagnitude
  | 0, place => ⟨0, place⟩
  | attempts + 1, place =>
      match number.onGrid? tie place with
      | some digits => ⟨digits, place⟩
      | none => search number tie attempts (place - 1)

/-- A place whose grid has no point near the number but zero. -/
def coarsePlace (number : Magnitude) : Int :=
  (number.exponent + (Nat.log2 number.significand : Int) + 1) * 30103 / 100000 + 2

/-- The shortest decimal form of a magnitude; zero has the digit zero. -/
def shortest (number : Magnitude) (tie : Tie) : DecimalMagnitude :=
  if number.significand = 0 then ⟨0, 0⟩
  else search number tie 24 number.coarsePlace

end Magnitude

end PricePublisher.Floating
