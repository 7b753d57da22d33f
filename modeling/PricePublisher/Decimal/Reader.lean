import PricePublisher.Decimal.Basic
import PricePublisher.Decimal.Digits
import PricePublisher.Text.Blank

/-!
# Reading decimals

A plain decimal is an optional sign, digits, and at most one point among or
around them; `_` may stand anywhere after the first digit.  Digits past the
28th after the point, and digits after the point for which the mantissa has no
room, are dropped: the first of them rounds the mantissa, a half upwards, and
the others must merely be digits or `_`.  Once the digits no longer fit 64 bits,
a `_` right at the limit admits one digit past it.

A scientific decimal is a plain decimal, the letter `e` in either case, and an
exponent of at most 28.

`Decimal.ofText?` reads either form, with blanks allowed around it.
-/

namespace PricePublisher

namespace Decimal

/-- What has been read of a plain decimal. -/
structure Reading where
  /-- The digits so far, as one number. -/
  mantissa : Nat
  /-- How many of those digits follow the point. -/
  scale : Nat
  pointSeen : Bool
  digitSeen : Bool
  /-- A separator has let one digit past the limit. -/
  limitLifted : Bool

/-- Nothing has been read yet. -/
def Reading.start : Reading :=
  ⟨0, 0, false, false, false⟩

/-- Whether no further digit after the point has room. -/
def Reading.isAtLimit (reading : Reading) : Bool :=
  reading.pointSeen && scaleLimit ≤ reading.scale && !reading.limitLifted

/-- The first mantissa that is too large to be extended within 64 bits. -/
def wideBound : Nat := Nat.pow 2 64 / 10 - 255

/-- Whether the digits before the last one already needed more than 64 bits. -/
def Reading.isWide (reading : Reading) : Bool :=
  wideBound ≤ reading.mantissa / 10

/-- Take in one more digit. -/
def Reading.withMantissa (reading : Reading) (mantissa : Nat) : Reading :=
  { mantissa := mantissa
    scale := if reading.pointSeen then reading.scale + 1 else 0
    pointSeen := reading.pointSeen
    digitSeen := true
    limitLifted := false }

/--
Add one to a mantissa.  When it no longer fits, the last digit after the point
is given up; without such a digit there is no result.
-/
def roundUp? (mantissa scale : Nat) : Option (Nat × Nat) :=
  if mantissa + 1 < mantissaBound then some (mantissa + 1, scale)
  else if scale = 0 then none
  else some ((mantissa + 5) / 10, scale - 1)

/-- Whether a character may stand among the digits that are dropped. -/
def isDropped (character : Char) : Bool :=
  character.isDigit || character == '_'

/--
Close a reading at the first character that has no room: round by it if it is a
digit, and check that only digits and separators follow.
-/
def Reading.close? (reading : Reading) (character : Char) (rest : List Char) :
    Option (Nat × Nat) :=
  if isDropped character && rest.all isDropped then
    match Digits.value? character with
    | none => some (reading.mantissa, reading.scale)
    | some digit =>
        if digit < 5 then some (reading.mantissa, reading.scale)
        else roundUp? reading.mantissa reading.scale
  else
    none

/-- Read digits, points and separators up to the end of the text. -/
def readFrom? (reading : Reading) : List Char → Option (Nat × Nat)
  | [] => if reading.digitSeen then some (reading.mantissa, reading.scale) else none
  | character :: rest =>
      if reading.isAtLimit then
        if character = '_' && reading.isWide then
          readFrom? { reading with limitLifted := true } rest
        else
          reading.close? character rest
      else
        match Digits.value? character with
        | some digit =>
            let mantissa := Digits.append reading.mantissa digit
            if mantissa < mantissaBound then
              readFrom? (reading.withMantissa mantissa) rest
            else if reading.pointSeen then
              reading.close? character rest
            else
              none
        | none =>
            if character = '.' && !reading.pointSeen then
              readFrom? { reading with pointSeen := true } rest
            else if character = '_' && reading.digitSeen then
              readFrom? reading rest
            else
              none

/-- Split an optional sign from a text. -/
def splitSign : List Char → Bool × List Char
  | '-' :: rest => (true, rest)
  | '+' :: rest => (false, rest)
  | text => (false, text)

/--
Read a plain decimal.  Zero is read without its sign, and a scale past the
limit starts again at zero.
-/
def ofPlain? (text : List Char) : Option Decimal := do
  let (negative, unsigned) := splitSign text
  let (mantissa, scale) ← readFrom? Reading.start unsigned
  ofParts? (negative && mantissa != 0) mantissa (scale % (scaleLimit + 1))

/-- Read an exponent's digits, which an extra `+` may precede. -/
def exponentMagnitude? (text : List Char) : Option Nat :=
  match text with
  | '+' :: digits => Digits.toNat? digits
  | digits => Digits.toNat? digits

/-- Divide by a power of ten, a half rounding away from zero. -/
def roundQuotient (number places : Nat) : Nat :=
  (number + Nat.pow 10 places / 2) / Nat.pow 10 places

/--
Move the point to the left.  Digits that would come to stand past the last
place are rounded away.
-/
def shiftLeft? (decimal : Decimal) (places : Nat) : Option Decimal :=
  if scaleLimit < places then none
  else if decimal.scale + places ≤ scaleLimit then
    ofParts? decimal.negative decimal.mantissa (decimal.scale + places)
  else
    ofParts? decimal.negative
      (roundQuotient decimal.mantissa (decimal.scale + places - scaleLimit))
      scaleLimit

/--
Move the point to the right.  Once no digit follows the point, zeros are
appended as long as the mantissa has room.
-/
def shiftRight? (decimal : Decimal) (places : Nat) : Option Decimal :=
  if places ≤ decimal.scale then
    ofParts? decimal.negative decimal.mantissa (decimal.scale - places)
  else if scaleLimit < places then none
  else
    ofParts? decimal.negative
      (decimal.mantissa * Nat.pow 10 (places - decimal.scale)) 0

/-- Whether a character separates a decimal from its exponent. -/
def isExponentMark (character : Char) : Bool :=
  character == 'e' || character == 'E'

/-- Read a decimal with an exponent. -/
def ofScientific? (text : List Char) : Option Decimal :=
  match text.span fun character => !isExponentMark character with
  | (base, _ :: exponent) => do
      let decimal ← ofPlain? base
      match exponent with
      | '-' :: magnitude => decimal.shiftLeft? (← exponentMagnitude? magnitude)
      | magnitude => decimal.shiftRight? (← exponentMagnitude? magnitude)
  | (_, []) => none

/-- Read a decimal in plain or scientific form, with blanks around it. -/
def ofText? (text : String) : Option Decimal :=
  let characters := Text.trimChars text.toList
  ofPlain? characters <|> ofScientific? characters

end Decimal

end PricePublisher
