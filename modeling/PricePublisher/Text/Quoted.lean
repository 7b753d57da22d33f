import PricePublisher.Text.Hidden

/-!
# Quoted text in diagnostics

Error messages and diagnostic descriptions show a text between quotes, so that
blanks and characters without a visible form can be recognised.  A text stands
between double quotes, a single character between single quotes; only the
quote that is used as a delimiter is escaped.
-/

namespace PricePublisher.Text

/-- The lower-case hexadecimal digits of a number, without leading zeros. -/
def hexDigits (number : Nat) : List Char :=
  Nat.toDigits 16 number

/-- One character as a diagnostic between `delimiter`s writes it. -/
def quotedCharacter (delimiter character : Char) : List Char :=
  if character = '\x00' then ['\\', '0']
  else if character = '\t' then ['\\', 't']
  else if character = '\r' then ['\\', 'r']
  else if character = '\n' then ['\\', 'n']
  else if character = '\\' then ['\\', '\\']
  else if character = delimiter then ['\\', delimiter]
  else if character.toNat < 0x7F && 0x20 ≤ character.toNat then [character]
  else if isHidden character then
    "\\u\x7b".toList ++ hexDigits character.toNat ++ ['\x7d']
  else [character]

/-- A text between double quotes, with every character made visible. -/
def quoted (text : String) : String :=
  String.ofList ('"' :: text.toList.flatMap (quotedCharacter '"') ++ ['"'])

/-- A character between single quotes, made visible. -/
def quotedChar (character : Char) : String :=
  String.ofList ('\'' :: quotedCharacter '\'' character ++ ['\''])

/-- An optional text, as a diagnostic writes it. -/
def quotedOption : Option String → String
  | none => "None"
  | some text => "Some(" ++ quoted text ++ ")"

end PricePublisher.Text
