import PricePublisher.Floating.Reader
import PricePublisher.Yaml.Lexeme
import PricePublisher.Yaml.Node

/-!
# Typed scalars

What a scalar may stand for depends on the setting.  Any scalar is a text as it
is written.  A number or a truth value has to be written plainly, or as a
literal block with the tag of its type.  A value that may be absent is absent
where nothing is written, or plainly null; with a tag other than that of null
it is there, be it empty.
-/

namespace PricePublisher.Settings

open Yaml

/-- A reading of a node, which is no alias, as a value of some type. -/
abbrev NodeReader (α : Type) := Node → Option α

variable {α : Type}

/-- The tag of a type that needs no directive. -/
def coreTag (name : String) : Tag :=
  Bytes.ofText ("tag:yaml.org,2002:" ++ name)

/-- Whether a text is a spelling of null. -/
def isNullWord (text : String) : Bool :=
  ["~", "null", "Null", "NULL"].contains text

/-- Read a text. -/
def text? : NodeReader String
  | .scalar _ _ text => some text
  | _ => none

/-- Whether a scalar leaves its type to be found out from its text. -/
def isTypedByText (typeName : String) (tag : Option Tag) : ScalarStyle → Bool
  | .plain => true
  | .literal => tag == some (coreTag typeName)
  | _ => false

/-- Read a scalar of a given type from its text. -/
def typed? (typeName : String) (ofText? : String → Option α) : NodeReader α
  | .scalar tag style text =>
      if isTypedByText typeName tag style then ofText? text else none
  | _ => none

/-- The value of a digit in a base of at most sixteen. -/
def baseDigit? (base : Nat) (character : Char) : Option Nat := do
  let digit ← hexValue? character
  if digit < base then some digit else none

/-- The number of 64 bits that digits in a base denote. -/
def baseNumber? (base : Nat) (characters : List Char) : Option Nat := do
  if characters.isEmpty then none
  else
    let digits ← characters.mapM (baseDigit? base)
    let number := digits.foldl (fun number digit => number * base + digit) 0
    if number < Nat.pow 2 64 then some number else none

/-- Whether digits start with a zero that is not all of them. -/
def hasLeadingZero : List Char → Bool
  | '0' :: rest => !rest.isEmpty && rest.all Char.isDigit
  | _ => false

/-- Read a whole number without sign from its text. -/
def naturalOfText? (text : String) : Option Nat :=
  let digits := match text.toList with
    | '+' :: rest => rest
    | characters => characters
  match digits with
  | '0' :: 'x' :: rest => baseNumber? 16 rest
  | '0' :: 'o' :: rest => baseNumber? 8 rest
  | '0' :: 'b' :: rest => baseNumber? 2 rest
  | _ => if hasLeadingZero digits then none else baseNumber? 10 digits

/-- Read a whole number without sign. -/
def natural? : NodeReader Nat :=
  typed? "int" naturalOfText?

/-- Read a port: a whole number of 16 bits. -/
def port? : NodeReader Nat := fun node => do
  let number ← natural? node
  if number < Nat.pow 2 16 then some number else none

/-- Read a floating-point number from its text. -/
def floatOfText? (text : String) : Option Float :=
  match text with
  | ".inf" | ".Inf" | ".INF" | "+.inf" | "+.Inf" | "+.INF" => some (1 / 0)
  | "-.inf" | "-.Inf" | "-.INF" => some (-1 / 0)
  | ".nan" | ".NaN" | ".NAN" => some (0 / 0)
  | _ => do
      let isTwiceSigned := match text.toList with
        | '+' :: '+' :: _ | '+' :: '-' :: _ => true
        | _ => false
      let number ← if isTwiceSigned then none else Floating.ofText? text
      if number.isFinite then some number else none

/-- Read a floating-point number. -/
def float? : NodeReader Float :=
  typed? "float" floatOfText?

/-- Read a truth value from its text. -/
def booleanOfText? : String → Option Bool
  | "true" | "True" | "TRUE" => some true
  | "false" | "False" | "FALSE" => some false
  | _ => none

/-- Read a truth value. -/
def boolean? : NodeReader Bool :=
  typed? "bool" booleanOfText?

/-- Whether a node stands for the absence of a value; `none` if its tag is wrong. -/
def isAbsent? : Node → Option Bool
  | .scalar none .plain text => some (text.isEmpty || isNullWord text)
  | .scalar (some tag) .plain text =>
      if tag == coreTag "null" then
        if isNullWord text then some true else none
      else some false
  | _ => some false

/-- Read a value or its absence. -/
def optional? (read? : NodeReader α) : NodeReader (Option α) := fun node => do
  if ← isAbsent? node then some none else (read? node).map some

/-- Whether a node is a plain scalar that is not written. -/
def isUnwritten : Node → Bool
  | .scalar _ .plain text => text.isEmpty
  | _ => false

/-- Read a sequence; a scalar that is not written has no items. -/
def list? (anchors : Anchors) (read? : NodeReader α) : NodeReader (List α)
  | .sequence items => items.mapM fun item => anchors.target? item >>= read?
  | node => if isUnwritten node then some [] else none

end PricePublisher.Settings
