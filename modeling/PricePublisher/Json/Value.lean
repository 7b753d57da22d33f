import PricePublisher.Keyed

/-!
# JSON values

A number is a whole number that fits 64 bits, with or without sign, or a finite
floating-point number.  The fields of an object are kept in rising order of
their names, and no name occurs twice.
-/

namespace PricePublisher.Json

/-- A JSON number. -/
inductive Number where
  | integer (value : Int)
  | real (value : Float)
deriving DecidableEq

/-- The whole numbers that are held exactly. -/
def Number.IsExactInteger (value : Int) : Prop :=
  -(Nat.pow 2 63 : Nat) ≤ value ∧ value < (Nat.pow 2 64 : Nat)

instance (value : Int) : Decidable (Number.IsExactInteger value) :=
  inferInstanceAs (Decidable (_ ∧ _))

/-- A JSON number as a floating-point number. -/
def Number.toFloat : Number → Float
  | .integer value =>
      if value < 0 then -value.natAbs.toFloat else value.natAbs.toFloat
  | .real value => value

/-- A JSON value. -/
inductive Value where
  | null
  | boolean (value : Bool)
  | number (value : Number)
  | text (value : String)
  | array (items : List Value)
  | object (fields : List (String × Value))
deriving Inhabited

/-- The fields of an object. -/
abbrev Object := List (String × Value)

end PricePublisher.Json
