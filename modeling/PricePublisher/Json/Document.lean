import PricePublisher.Json.Token

/-!
# JSON documents

The tree of a JSON text as it is written, without bound on its depth: numbers
are numerals, texts may hold unpaired code units, and an object may name a
field twice.
-/

namespace PricePublisher.Json

/-- A JSON text as a tree of what is written. -/
inductive Document where
  | null
  | boolean (value : Bool)
  | numeral (value : Numeral)
  | text (units : List TextUnit)
  | array (items : List Document)
  | object (fields : List (List TextUnit × Document))
deriving Inhabited

namespace Document

mutual

/-- Read one value, with room for `room` nested readings. -/
def readValue? : Nat → List Token → Option (Document × List Token)
  | room + 1, .openArray :: rest =>
      match rest with
      | .closeArray :: rest => some (.array [], rest)
      | rest => (readItems? room rest).map fun (items, rest) => (.array items, rest)
  | room + 1, .openObject :: rest =>
      match rest with
      | .closeObject :: rest => some (.object [], rest)
      | rest => (readFields? room rest).map fun (fields, rest) => (.object fields, rest)
  | _ + 1, .null :: rest => some (.null, rest)
  | _ + 1, .boolean value :: rest => some (.boolean value, rest)
  | _ + 1, .numeral value :: rest => some (.numeral value, rest)
  | _ + 1, .text units :: rest => some (.text units, rest)
  | _, _ => none

/-- Read the items of an array up to its closing bracket. -/
def readItems? : Nat → List Token → Option (List Document × List Token)
  | 0, _ => none
  | room + 1, tokens =>
      match readValue? room tokens with
      | some (item, .comma :: rest) =>
          (readItems? room rest).map fun (items, rest) => (item :: items, rest)
      | some (item, .closeArray :: rest) => some ([item], rest)
      | _ => none

/-- Read the fields of an object up to its closing brace. -/
def readFields? :
    Nat → List Token → Option (List (List TextUnit × Document) × List Token)
  | room + 1, .text name :: .colon :: tokens =>
      match readValue? room tokens with
      | some (value, .comma :: rest) =>
          (readFields? room rest).map fun (fields, rest) => ((name, value) :: fields, rest)
      | some (value, .closeObject :: rest) => some ([(name, value)], rest)
      | _ => none
  | _, _ => none

end

/-- The document written by a text. -/
def ofChars? (text : List Char) : Option Document := do
  let tokens ← Token.ofText? text
  match readValue? (2 * tokens.length) tokens with
  | some (document, []) => some document
  | _ => none

/-- The document written by a text. -/
def ofText? (text : String) : Option Document :=
  ofChars? text.toList

end Document

end PricePublisher.Json
