import PricePublisher.Floating.Text
import PricePublisher.Json.Value

/-!
# Writing JSON

JSON is written without blanks.  In a text the quote, the backslash and the
characters below the space are escaped, with a one-letter escape where JSON has
one; every other character stands for itself.
-/

namespace PricePublisher.Json

/-- A hexadecimal digit in lower case. -/
def lowerHexDigit (digit : Nat) : Char :=
  Nat.digitChar digit

/-- A character inside a written text. -/
def escapeChar (character : Char) : List Char :=
  if character = '"' then ['\\', '"']
  else if character = '\\' then ['\\', '\\']
  else if character = '\x08' then ['\\', 'b']
  else if character = '\x0c' then ['\\', 'f']
  else if character = '\n' then ['\\', 'n']
  else if character = '\r' then ['\\', 'r']
  else if character = '\t' then ['\\', 't']
  else if character.toNat < 0x20 then
    ['\\', 'u', '0', '0', lowerHexDigit (character.toNat / 16),
      lowerHexDigit (character.toNat % 16)]
  else [character]

/-- A text between quotes. -/
def textChars (text : String) : List Char :=
  '"' :: text.toList.flatMap escapeChar ++ ['"']

/-- A whole number. -/
def integerChars (value : Int) : List Char :=
  if value < 0 then '-' :: Digits.ofNat value.natAbs else Digits.ofNat value.natAbs

/-- A number. -/
def Number.toChars : Number → List Char
  | .integer value => integerChars value
  | .real value => Floating.compactChars value

/-- Parts with commas between them. -/
def commaSeparated : List (List Char) → List Char
  | [] => []
  | [part] => part
  | part :: parts => part ++ ',' :: commaSeparated parts

/-- Written items between square brackets. -/
def arrayChars (items : List (List Char)) : List Char :=
  '[' :: commaSeparated items ++ [']']

/-- Written fields between braces. -/
def objectChars (fields : List (String × List Char)) : List Char :=
  '\x7b' :: commaSeparated (fields.map fun (name, value) => textChars name ++ ':' :: value)
    ++ ['\x7d']

namespace Value

mutual

/-- The characters of a written value. -/
def toChars : Value → List Char
  | .null => "null".toList
  | .boolean true => "true".toList
  | .boolean false => "false".toList
  | .number value => value.toChars
  | .text value => textChars value
  | .array items => arrayChars (itemsToChars items)
  | .object fields => objectChars (fieldsToChars fields)

/-- The items of an array, each written. -/
def itemsToChars : List Value → List (List Char)
  | [] => []
  | item :: items => item.toChars :: itemsToChars items

/-- The fields of an object, each value written. -/
def fieldsToChars : List (String × Value) → List (String × List Char)
  | [] => []
  | (name, value) :: fields => (name, value.toChars) :: fieldsToChars fields

end

/-- The written form of a value. -/
def toText (value : Value) : String :=
  String.ofList value.toChars

end Value

end PricePublisher.Json
