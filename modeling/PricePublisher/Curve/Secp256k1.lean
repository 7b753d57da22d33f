/-!
# The curve secp256k1

The points of `y² = x³ + 7` over the integers modulo a prime.  Inner
computations hold a point in Jacobian coordinates: `(x, y, z)` stands for the
point `(x / z², y / z³)`, and for the point at infinity when `z` is zero.
-/

namespace PricePublisher.Secp256k1

/-- The prime of the coordinate field. -/
def fieldPrime : Nat :=
  0xfffffffffffffffffffffffffffffffffffffffffffffffffffffffefffffc2f

/-- The number of points, which is prime too. -/
def groupOrder : Nat :=
  0xfffffffffffffffffffffffffffffffebaaedce6af48a03bbfd25e8cd0364141

/-- Compute a power modulo `modulus`, for an exponent of at most `bits` bits. -/
def powerFrom (modulus : Nat) : Nat → Nat → Nat → Nat → Nat
  | 0, _, _, result => result
  | bits + 1, base, exponent, result =>
      powerFrom modulus bits (base * base % modulus) (exponent / 2)
        (if exponent % 2 = 1 then result * base % modulus else result)

/-- A power modulo `modulus`, for an exponent below `2 ^ 256`. -/
def power (modulus base exponent : Nat) : Nat :=
  powerFrom modulus 256 (base % modulus) exponent 1

/-- The inverse modulo a prime. -/
def inverse (prime number : Nat) : Nat :=
  power prime number (prime - 2)

/-- The difference in the coordinate field. -/
def fieldSub (left right : Nat) : Nat :=
  (left + (fieldPrime - right % fieldPrime)) % fieldPrime

/-- The product in the coordinate field. -/
def fieldMul (left right : Nat) : Nat :=
  left * right % fieldPrime

/-- A point other than the one at infinity. -/
structure Point where
  x : Nat
  y : Nat
deriving DecidableEq, Repr

/-- A point in Jacobian coordinates. -/
structure Jacobian where
  x : Nat
  y : Nat
  z : Nat
deriving DecidableEq, Repr

/-- The generator of the group. -/
def generator : Point :=
  ⟨0x79be667ef9dcbbac55a06295ce870b07029bfcdb2dce28d959f2815b16f81798,
    0x483ada7726a3c4655da4fbfc0e1108a8fd17b448a68554199c47d08ffb10d4b8⟩

namespace Jacobian

/-- The point at infinity. -/
def infinity : Jacobian :=
  ⟨1, 1, 0⟩

/-- A point, with `z` one. -/
def ofPoint (point : Point) : Jacobian :=
  ⟨point.x, point.y, 1⟩

/--
The point that the coordinates stand for.  The point at infinity gives
`(0, 0)`, which is not on the curve.
-/
def toPoint (point : Jacobian) : Point :=
  let scale := inverse fieldPrime point.z
  let square := fieldMul scale scale
  ⟨fieldMul point.x square, fieldMul point.y (fieldMul square scale)⟩

/-- The sum of a point with itself. -/
def double (point : Jacobian) : Jacobian :=
  if point.z = 0 ∨ point.y = 0 then infinity
  else
    let a := fieldMul point.x point.x
    let b := fieldMul point.y point.y
    let c := fieldMul b b
    let sum := point.x + b
    let d := 2 * fieldSub (fieldMul sum sum) (a + c)
    let e := 3 * a
    let x := fieldSub (fieldMul e e) (2 * d)
    ⟨x, fieldSub (fieldMul e (fieldSub d x)) (8 * c), fieldMul (2 * point.y) point.z⟩

/-- The sum of two points. -/
def add (left right : Jacobian) : Jacobian :=
  if left.z = 0 then right
  else if right.z = 0 then left
  else
    let leftSquare := fieldMul left.z left.z
    let rightSquare := fieldMul right.z right.z
    let leftX := fieldMul left.x rightSquare
    let rightX := fieldMul right.x leftSquare
    let leftY := fieldMul left.y (fieldMul rightSquare right.z)
    let rightY := fieldMul right.y (fieldMul leftSquare left.z)
    if leftX = rightX then
      if leftY = rightY then double left else infinity
    else
      let run := fieldSub rightX leftX
      let rise := fieldSub rightY leftY
      let runSquare := fieldMul run run
      let runCube := fieldMul runSquare run
      let middle := fieldMul leftX runSquare
      let x := fieldSub (fieldMul rise rise) (runCube + 2 * middle)
      ⟨x, fieldSub (fieldMul rise (fieldSub middle x)) (fieldMul leftY runCube),
        fieldMul run (fieldMul left.z right.z)⟩

/-- Add `scalar` times `point` to `sum`, for a scalar of at most `bits` bits. -/
def addMultiple : Nat → Nat → Jacobian → Jacobian → Jacobian
  | 0, _, _, sum => sum
  | bits + 1, scalar, point, sum =>
      addMultiple bits (scalar / 2) point.double
        (if scalar % 2 = 1 then sum.add point else sum)

/-- The multiple of a point, for a scalar below `2 ^ 256`. -/
def multiple (scalar : Nat) (point : Jacobian) : Jacobian :=
  addMultiple 256 scalar point infinity

end Jacobian

/-- The multiple of the generator. -/
def generatorMultiple (scalar : Nat) : Point :=
  (Jacobian.multiple scalar (Jacobian.ofPoint generator)).toPoint

/-- The point with a given `x` and a `y` of given oddness, if there is one. -/
def Point.withX? (x : Nat) (odd : Bool) : Option Point :=
  let square := (x * x % fieldPrime * x + 7) % fieldPrime
  let root := power fieldPrime square ((fieldPrime + 1) / 4)
  if x < fieldPrime ∧ root * root % fieldPrime = square then
    some ⟨x, if (root % 2 = 1) = odd then root else (fieldPrime - root) % fieldPrime⟩
  else
    none

end PricePublisher.Secp256k1
