import PricePublisher.Bytes.Basic
import PricePublisher.Text.Quoted

/-!
# Hexadecimal texts

A byte is written as two lower-case digits, the upper half first.  Digits of
either case are read.  An odd number of digits is noticed before any character
that is no digit.
-/

namespace PricePublisher.Hex

/-- What keeps a text from being read as bytes. -/
inductive Error where
  | oddLength
  /-- A byte of the text that is no digit, and its position. -/
  | invalidDigit (byte : UInt8) (position : Nat)
deriving DecidableEq, Repr

/-- The message for an unreadable text. -/
def Error.message : Error → String
  | .oddLength => "Odd number of digits"
  | .invalidDigit byte position =>
      "Invalid character " ++ Text.quotedChar (Char.ofNat byte.toNat)
        ++ " at position " ++ Nat.repr position

/-- The digit for a number below 16. -/
def digit (value : Nat) : Char :=
  Nat.digitChar value

/-- Two digits for each byte. -/
def encodeChars (bytes : Bytes) : List Char :=
  bytes.flatMap fun byte => [digit (byte.toNat / 16), digit (byte.toNat % 16)]

/-- The digits of a byte string. -/
def encode (bytes : Bytes) : String :=
  String.ofList (encodeChars bytes)

/-- The digits of a byte string after `0x`. -/
def encodePrefixed (bytes : Bytes) : String :=
  "0x" ++ encode bytes

/-- The value of a digit of either case. -/
def value? (byte : UInt8) : Option Nat :=
  let code := byte.toNat
  if 48 ≤ code ∧ code ≤ 57 then some (code - 48)
  else if 97 ≤ code ∧ code ≤ 102 then some (code - 87)
  else if 65 ≤ code ∧ code ≤ 70 then some (code - 55)
  else none

/-- The value of a digit, or the complaint about it. -/
def valueAt (position : Nat) (byte : UInt8) : Except Error Nat :=
  match value? byte with
  | some value => .ok value
  | none => .error (.invalidDigit byte position)

/-- Read pairs of digits, the first of which stands at `position`. -/
def decodeFrom (position : Nat) : Bytes → Except Error Bytes
  | [] => .ok []
  | [_] => .error .oddLength
  | upper :: lower :: rest => do
      let high ← valueAt position upper
      let low ← valueAt (position + 1) lower
      let bytes ← decodeFrom (position + 2) rest
      return UInt8.ofNat (high * 16 + low) :: bytes

/-- The bytes that a text of digits denotes. -/
def decode (text : String) : Except Error Bytes :=
  let digits := Bytes.ofText text
  if digits.length % 2 = 1 then .error .oddLength
  else decodeFrom 0 digits

/-- Whether a character is a hexadecimal digit of either case. -/
def isDigit (character : Char) : Bool :=
  character.isDigit || ('a' ≤ character && character ≤ 'f')
    || ('A' ≤ character && character ≤ 'F')

end PricePublisher.Hex
