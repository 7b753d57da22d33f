import PricePublisher.Json.Value

/-!
# Looking into JSON values

Parts of a value are looked up by name.  What is missing, or of another kind than
the one asked for, reads as null, as nothing or as zero.
-/

namespace PricePublisher.Json.Value

/-- The fields of an object. -/
def fields : Value → Object
  | .object fields => fields
  | _ => []

/-- The items of an array. -/
def items : Value → List Value
  | .array items => items
  | _ => []

/-- The text that a value is, if it is one. -/
def asText? : Value → Option String
  | .text content => some content
  | _ => none

/-- The text that a value is. -/
def asText (value : Value) : String :=
  value.asText?.getD ""

/-- The whole number that a value is, if it is one. -/
def asInt? : Value → Option Int
  | .number (.integer amount) => some amount
  | _ => none

/-- The texts in an array. -/
def texts (value : Value) : List String :=
  value.items.map asText

/-- The value of a field. -/
def field (value : Value) (name : String) : Value :=
  (value.fields.lookup name).getD .null

/-- The item at a place. -/
def item (value : Value) (place : Nat) : Value :=
  value.items[place]?.getD .null

/-- The text in a field, if there is one. -/
def textAt? (value : Value) (name : String) : Option String :=
  (value.field name).asText?

/-- The text in a field. -/
def textAt (value : Value) (name : String) : String :=
  (value.field name).asText

/-- The whole number in a field. -/
def intAt (value : Value) (name : String) : Int :=
  (value.field name).asInt?.getD 0

/-- The natural number in a field, or another one where there is none. -/
def natAt (value : Value) (name : String) (otherwise : Nat := 0) : Nat :=
  ((value.field name).asInt?.map Int.toNat).getD otherwise

/-- Whether a field holds true. -/
def boolAt (value : Value) (name : String) : Bool :=
  match value.field name with
  | .boolean held => held
  | _ => false

/-- The items of the array in a field. -/
def itemsAt (value : Value) (name : String) : List Value :=
  (value.field name).items

/-- The texts of the array in a field. -/
def textsAt (value : Value) (name : String) : List String :=
  (value.field name).texts

/-- The object that a value is, if it is one. -/
def asObject? : Value → Option Object
  | .object fields => some fields
  | _ => none

/-- An array of texts. -/
def ofTexts (texts : List String) : Value :=
  .array (texts.map .text)

/-- A text, or null where there is none. -/
def ofOptionalText (text : Option String) : Value :=
  (text.map .text).getD .null

end PricePublisher.Json.Value
