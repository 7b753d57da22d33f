import PricePublisher.Json.Document
import PricePublisher.Json.Value

/-!
# The meaning of a written JSON document

A text is built by joining surrogate pairs; an unpaired surrogate has no
meaning.  A number without fraction and exponent that fits 64 bits is a whole
number; any other is a floating-point number.  Its significand gathers digits
as long as they fit 64 bits and is then scaled once by a power of ten, so the
result is not always the nearest number; one too large to be finite has no
meaning.  A value is built only from containers nested at most 127 deep.
-/

namespace PricePublisher.Json

/-- How deep the containers of a value may be nested. -/
def nestingLimit : Nat := 127

/-- Whether a code unit is the first of a surrogate pair. -/
def isLeadingSurrogate (unit : Nat) : Bool :=
  0xD800 ≤ unit && unit < 0xDC00

/-- Whether a code unit is the second of a surrogate pair. -/
def isTrailingSurrogate (unit : Nat) : Bool :=
  0xDC00 ≤ unit && unit < 0xE000

/-- The characters that a written text stands for. -/
def TextUnit.resolve? : List TextUnit → Option (List Char)
  | [] => some []
  | .character read :: rest => (resolve? rest).map (read :: ·)
  | .codeUnit leading :: .codeUnit trailing :: rest =>
      if isLeadingSurrogate leading then
        if isTrailingSurrogate trailing then
          let code := 0x10000 + (leading - 0xD800) * 0x400 + (trailing - 0xDC00)
          (resolve? rest).map (Char.ofNat code :: ·)
        else none
      else if isTrailingSurrogate leading then none
      else (resolve? (.codeUnit trailing :: rest)).map (Char.ofNat leading :: ·)
  | .codeUnit unit :: rest =>
      if isLeadingSurrogate unit || isTrailingSurrogate unit then none
      else (resolve? rest).map (Char.ofNat unit :: ·)

/-- The text that its written units stand for. -/
def TextUnit.toText? (units : List TextUnit) : Option String :=
  (TextUnit.resolve? units).map String.ofList

namespace Numeral

/-- The first number that does not fit a significand. -/
def significandBound : Nat := Nat.pow 2 64

/-- The largest power of ten in one scaling step. -/
def largestPower : Nat := 308

/-- The first exponent that is too large to be read. -/
def exponentBound : Nat := Nat.pow 2 31

/-- A significand and the decimal exponent that belongs to it. -/
structure Scaled where
  significand : Nat
  exponent : Int
deriving DecidableEq, Repr

/--
Gather digits before the point.  From the first one that does not fit on, each
digit only raises the exponent.
-/
def gatherWhole (significand : Nat) : List Char → Scaled
  | [] => ⟨significand, 0⟩
  | character :: rest =>
      let next := Digits.append significand (character.toNat - '0'.toNat)
      if next < significandBound then gatherWhole next rest
      else ⟨significand, (rest.length : Int) + 1⟩

/--
Gather digits after the point.  From the first one that does not fit on, they
are dropped.
-/
def gatherFraction (scaled : Scaled) : List Char → Scaled
  | [] => scaled
  | character :: rest =>
      let next := Digits.append scaled.significand (character.toNat - '0'.toNat)
      if next < significandBound then
        gatherFraction ⟨next, scaled.exponent - 1⟩ rest
      else scaled

/-- The floating-point number nearest to a power of ten. -/
def powerOfTen (exponent : Nat) : Float :=
  Float.ofScientific 1 false exponent

/-- Scale a significand upwards, unless the result is not finite. -/
def scaleUp? (number : Float) (exponent : Nat) : Option Float :=
  if exponent ≤ largestPower then
    let scaled := number * powerOfTen exponent
    if scaled.isInf then none else some scaled
  else if number == 0.0 then some number
  else none

/-- Scale a significand downwards, in at most two steps. -/
def scaleDown (number : Float) (exponent : Nat) : Float :=
  if exponent ≤ largestPower then number / powerOfTen exponent
  else if exponent ≤ 2 * largestPower then
    number / powerOfTen largestPower / powerOfTen (exponent - largestPower)
  else 0.0

/-- The magnitude of a scaled significand. -/
def Scaled.toFloat? (scaled : Scaled) : Option Float :=
  let number := scaled.significand.toFloat
  if 0 ≤ scaled.exponent then scaleUp? number scaled.exponent.toNat
  else some (scaleDown number (-scaled.exponent).toNat)

/-- Apply a written exponent. -/
def Scaled.withExponent? (scaled : Scaled) : Option (Bool × List Char) → Option Float
  | none => scaled.toFloat?
  | some (negative, digits) =>
      let exponent := (Digits.toNat? digits).getD 0
      if exponent < exponentBound then
        let shift : Int := if negative then -exponent else exponent
        Scaled.toFloat? ⟨scaled.significand, scaled.exponent + shift⟩
      else if scaled.significand = 0 || negative then some 0.0
      else none

/-- Whether a numeral has neither fraction nor exponent. -/
def isWhole (numeral : Numeral) : Bool :=
  numeral.fraction.isNone && numeral.exponent.isNone

/-- The magnitude of a numeral in floating point. -/
def magnitude? (numeral : Numeral) : Option Float :=
  let whole := gatherWhole 0 numeral.whole
  (gatherFraction whole (numeral.fraction.getD [])).withExponent? numeral.exponent

/-- The whole number of a numeral, if it has the form of one and fits. -/
def toInt? (numeral : Numeral) : Option Int :=
  let whole := gatherWhole 0 numeral.whole
  if numeral.isWhole && whole.exponent == 0 then
    if numeral.negative then
      if 0 < whole.significand && whole.significand ≤ Nat.pow 2 63 then
        some (-(whole.significand : Int))
      else none
    else some whole.significand
  else none

/-- The number that a numeral stands for. -/
def toNumber? (numeral : Numeral) : Option Number :=
  match numeral.toInt? with
  | some value => some (.integer value)
  | none =>
      numeral.magnitude?.map fun value =>
        .real (if numeral.negative then -value else value)

end Numeral

namespace Document

mutual

/-- Build the value of a document whose containers nest at most `room` deep. -/
def build? (room : Nat) : Document → Option Value
  | .null => some .null
  | .boolean value => some (.boolean value)
  | .numeral value => value.toNumber?.map .number
  | .text units => (TextUnit.toText? units).map .text
  | .array items =>
      match room with
      | 0 => none
      | room + 1 => (buildItems? room items).map .array
  | .object fields =>
      match room with
      | 0 => none
      | room + 1 => (buildFields? room fields).map fun fields => .object (Keyed.ofList fields)

/-- Build the items of an array. -/
def buildItems? (room : Nat) : List Document → Option (List Value)
  | [] => some []
  | item :: items => do
      let value ← build? room item
      let values ← buildItems? room items
      return value :: values

/-- Build the fields of an object, in written order. -/
def buildFields? (room : Nat) :
    List (List TextUnit × Document) → Option (List (String × Value))
  | [] => some []
  | (name, document) :: fields => do
      let name ← TextUnit.toText? name
      let value ← build? room document
      let values ← buildFields? room fields
      return (name, value) :: values

end

end Document

/-- The value written by a text. -/
def Value.ofText? (text : String) : Option Value := do
  (← Document.ofText? text).build? nestingLimit

end PricePublisher.Json
