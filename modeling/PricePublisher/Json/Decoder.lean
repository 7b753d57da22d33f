import PricePublisher.Json.Reader

/-!
# Decoding documents

A decoder reads a document as a value of a given type.  It is told how many
containers may still be nested, so that typed values obey the same limit as
untyped ones.

A record is written as an object or as an array of its fields in order.  Fields
that are not asked for are skipped, no field asked for may occur twice, and an
array may leave out fields at its end but have none beyond.
-/

namespace PricePublisher.Json

/-- A reading of documents whose containers may nest a given number deep. -/
abbrev Decoder (α : Type) := (room : Nat) → Document → Option α

namespace Decoder

variable {α : Type}

/-- Read a text. -/
def text : Decoder String
  | _, .text units => TextUnit.toText? units
  | _, _ => none

/-- Read a whole number of 64 bits with sign. -/
def int64 : Decoder Int
  | _, .numeral numeral => do
      let value ← numeral.toInt?
      if value < (Nat.pow 2 63 : Nat) then some value else none
  | _, _ => none

/-- Read any number in floating point. -/
def float : Decoder Float
  | _, .numeral numeral => numeral.toNumber?.map Number.toFloat
  | _, _ => none

/-- Read any value. -/
def value : Decoder Value :=
  Document.build?

/-- Read an object. -/
def object : Decoder Object
  | room, .object fields =>
      match Document.build? room (.object fields) with
      | some (.object fields) => some fields
      | _ => none
  | _, _ => none

/-- Read a value or null. -/
def optional (decoder : Decoder α) : Decoder (Option α)
  | _, .null => some none
  | room, document => (decoder room document).map some

/-- Read an array. -/
def list (decoder : Decoder α) : Decoder (List α)
  | room + 1, .array items => items.mapM (decoder room)
  | _, _ => none

/-- Read one of some named alternatives, alone or with null under its name. -/
def alternative (ofName? : String → Option α) : Decoder α
  | _, .text units => do ofName? (← TextUnit.toText? units)
  | _ + 1, .object [(units, .null)] => do ofName? (← TextUnit.toText? units)
  | _, _ => none

/-- The fields of an object with their names read. -/
def namedFields? (fields : List (List TextUnit × Document)) :
    Option (List (String × Document)) :=
  fields.mapM fun (units, document) =>
    (TextUnit.toText? units).map fun name => (name, document)

/-- The only field of a given name, if there is one; there may be no two. -/
def onlyField? (fields : List (String × Document)) (name : String) :
    Option (Option Document) :=
  match fields.filter fun field => field.1 == name with
  | [] => some none
  | [(_, document)] => some (some document)
  | _ => none

/-- The written fields of a record with the given names, in that order. -/
def recordFields? (names : List String) : Decoder (List (Option Document))
  | _ + 1, .object fields => do
      let named ← namedFields? fields
      names.mapM (onlyField? named)
  | _ + 1, .array items =>
      if items.length ≤ names.length then
        some (items.map some ++ List.replicate (names.length - items.length) none)
      else none
  | _, _ => none

/-- Read a field that must be there. -/
def required (decoder : Decoder α) (room : Nat) (field : Option Document) : Option α :=
  field.bind (decoder room)

/-- Read a field that may be missing or null. -/
def omittable (decoder : Decoder α) (room : Nat) : Option Document → Option (Option α)
  | none => some none
  | some document => optional decoder room document

/-- Read entries under names, of which the last of one name counts. -/
def keyed (decoder : Decoder α) : Decoder (List (String × α))
  | room + 1, .object fields => do
      let named ← namedFields? fields
      let entries ← named.mapM fun (name, document) =>
        (decoder room document).map fun entry => (name, entry)
      return Keyed.ofList entries
  | _, _ => none

/-- Read a whole text. -/
def run? (decoder : Decoder α) (text : String) : Option α := do
  decoder nestingLimit (← Document.ofText? text)

end Decoder

end PricePublisher.Json
