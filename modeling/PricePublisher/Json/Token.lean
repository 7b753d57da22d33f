import PricePublisher.Decimal.Digits

/-!
# JSON tokens

A JSON text is a sequence of tokens with blanks between them.  A token keeps
what was written: a text its escaped code units, a number its digits.  What
they mean is decided when a value is built, so that a part of a document that
nobody asks for only has to be well written.
-/

namespace PricePublisher.Json

/-- One element of a written text: a character, or an escaped code unit. -/
inductive TextUnit where
  | character (value : Char)
  | codeUnit (value : Nat)
deriving DecidableEq, Repr

/-- A number as written. -/
structure Numeral where
  negative : Bool
  whole : List Char
  fraction : Option (List Char)
  /-- The exponent's digits, and whether `-` precedes them. -/
  exponent : Option (Bool × List Char)
deriving DecidableEq, Repr

/-- A token of a JSON text. -/
inductive Token where
  | openArray
  | closeArray
  | openObject
  | closeObject
  | comma
  | colon
  | null
  | boolean (value : Bool)
  | numeral (value : Numeral)
  | text (units : List TextUnit)
deriving DecidableEq, Repr

namespace Token

/-- The characters that may stand between tokens. -/
def isSpace (character : Char) : Bool :=
  character == ' ' || character == '\n' || character == '\t' || character == '\r'

/-- The value of a hexadecimal digit of either case. -/
def hexValue? (character : Char) : Option Nat :=
  if character.isDigit then some (character.toNat - '0'.toNat)
  else if 'a' ≤ character && character ≤ 'f' then some (character.toNat - 'a'.toNat + 10)
  else if 'A' ≤ character && character ≤ 'F' then some (character.toNat - 'A'.toNat + 10)
  else none

/-- The code unit written by four hexadecimal digits. -/
def codeUnit? (first second third fourth : Char) : Option Nat := do
  let a ← hexValue? first
  let b ← hexValue? second
  let c ← hexValue? third
  let d ← hexValue? fourth
  return ((a * 16 + b) * 16 + c) * 16 + d

/-- The character that a one-letter escape stands for. -/
def escaped? : Char → Option Char
  | '"' => some '"'
  | '\\' => some '\\'
  | '/' => some '/'
  | 'b' => some '\x08'
  | 'f' => some '\x0c'
  | 'n' => some '\n'
  | 'r' => some '\r'
  | 't' => some '\t'
  | _ => none

/-- Read a text up to its closing quote. -/
def readText? : List Char → Option (List TextUnit × List Char)
  | [] => none
  | '"' :: rest => some ([], rest)
  | '\\' :: 'u' :: a :: b :: c :: d :: rest => do
      let unit ← codeUnit? a b c d
      let (units, rest) ← readText? rest
      return (.codeUnit unit :: units, rest)
  | '\\' :: letter :: rest => do
      let character ← escaped? letter
      let (units, rest) ← readText? rest
      return (.character character :: units, rest)
  | character :: rest =>
      if character.toNat < 0x20 || character == '\\' then none
      else do
        let (units, rest) ← readText? rest
        return (.character character :: units, rest)

/-- Read the digits of a fraction, if a point follows. -/
def readFraction? : List Char → Option (Option (List Char) × List Char)
  | '.' :: rest =>
      match rest.span Char.isDigit with
      | ([], _) => none
      | (digits, rest) => some (some digits, rest)
  | rest => some (none, rest)

/-- Read an exponent, if its letter follows. -/
def readExponent? : List Char → Option (Option (Bool × List Char) × List Char)
  | letter :: rest =>
      if letter == 'e' || letter == 'E' then
        let (negative, rest) :=
          match rest with
          | '+' :: rest => (false, rest)
          | '-' :: rest => (true, rest)
          | rest => (false, rest)
        match rest.span Char.isDigit with
        | ([], _) => none
        | (digits, rest) => some (some (negative, digits), rest)
      else some (none, letter :: rest)
  | [] => some (none, [])

/-- Read a number without its sign.  A leading zero stands alone. -/
def readUnsigned? (negative : Bool) (text : List Char) :
    Option (Numeral × List Char) := do
  let (whole, rest) ←
    match text.span Char.isDigit with
    | ([], _) => none
    | ('0' :: digits, rest) => if digits.isEmpty then some (['0'], rest) else none
    | (digits, rest) => some (digits, rest)
  let (fraction, rest) ← readFraction? rest
  let (exponent, rest) ← readExponent? rest
  return (⟨negative, whole, fraction, exponent⟩, rest)

/-- Read the token at the start of a text. -/
def next? : List Char → Option (Token × List Char)
  | '[' :: rest => some (.openArray, rest)
  | ']' :: rest => some (.closeArray, rest)
  | '\x7b' :: rest => some (.openObject, rest)
  | '\x7d' :: rest => some (.closeObject, rest)
  | ',' :: rest => some (.comma, rest)
  | ':' :: rest => some (.colon, rest)
  | 'n' :: 'u' :: 'l' :: 'l' :: rest => some (.null, rest)
  | 't' :: 'r' :: 'u' :: 'e' :: rest => some (.boolean true, rest)
  | 'f' :: 'a' :: 'l' :: 's' :: 'e' :: rest => some (.boolean false, rest)
  | '"' :: rest => (readText? rest).map fun (units, rest) => (.text units, rest)
  | '-' :: rest =>
      (readUnsigned? true rest).map fun (written, rest) => (.numeral written, rest)
  | unsigned =>
      (readUnsigned? false unsigned).map fun (written, rest) => (.numeral written, rest)

/-- Read at most `limit` tokens, which must exhaust the text. -/
def readAll? : Nat → List Char → Option (List Token)
  | 0, _ => none
  | limit + 1, written =>
      match written.dropWhile isSpace with
      | [] => some []
      | character :: rest => do
          let (token, rest) ← next? (character :: rest)
          return token :: (← readAll? limit rest)

/-- The tokens of a text. -/
def ofText? (text : List Char) : Option (List Token) :=
  readAll? (text.length + 1) text

end Token

end PricePublisher.Json
