/-!
# Decimal digits

Digit texts and the whole numbers that they denote.  Only the ten ASCII digits
count as digits.
-/

namespace PricePublisher.Digits

/-- The value of a decimal digit. -/
def value? (character : Char) : Option Nat :=
  if character.isDigit then some (character.toNat - '0'.toNat) else none

/-- Append one digit to the number that the digits before it denote. -/
def append (number digit : Nat) : Nat :=
  10 * number + digit

/-- The number denoted by a text of digits, read after `number`. -/
def continue? (number : Nat) : List Char → Option Nat
  | [] => some number
  | character :: rest =>
      match value? character with
      | none => none
      | some digit => continue? (append number digit) rest

/-- The number denoted by a text of one or more digits. -/
def toNat? : List Char → Option Nat
  | [] => none
  | digits => continue? 0 digits

/-- The digits of a number, without leading zeros. -/
def ofNat (number : Nat) : List Char :=
  Nat.toDigits 10 number

/-- The digits of a number, with zeros in front up to a given length. -/
def padded (length number : Nat) : List Char :=
  let digits := ofNat number
  List.replicate (length - digits.length) '0' ++ digits

end PricePublisher.Digits
