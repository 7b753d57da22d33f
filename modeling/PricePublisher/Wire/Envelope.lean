import PricePublisher.Json.Decoder
import PricePublisher.Json.Printer

/-!
# Envelopes

Every message on a socket is a record with a type and, where they apply, an
error, a trace and the data.  What does not apply is left out.
-/

namespace PricePublisher

/-- A message on a socket. -/
structure Envelope (α : Type) where
  kind : String
  error : Option String
  trace : Option String
  data : Option α

namespace Envelope

open Json

variable {α : Type}

/-- A message that carries data. -/
def ofData (kind : String) (data : α) : Envelope α :=
  ⟨kind, none, none, some data⟩

/-- A message that reports an error. -/
def ofError (kind error : String) : Envelope α :=
  ⟨kind, some error, none, none⟩

/-- A field that is left out when there is no value for it. -/
def fieldIfPresent (name : String) : Option Value → List (String × Value)
  | none => []
  | some value => [(name, value)]

/-- A message in JSON. -/
def toValue (encode : α → Value) (envelope : Envelope α) : Value :=
  .object <|
    ("type", .text envelope.kind)
      :: fieldIfPresent "error" (envelope.error.map .text)
      ++ fieldIfPresent "trace_id" (envelope.trace.map .text)
      ++ fieldIfPresent "data" (envelope.data.map encode)

/-- Read a message whose data is read by the given decoder. -/
def decoder (data : Decoder α) : Decoder (Envelope α) := fun room document => do
  match ← Decoder.recordFields? ["type", "error", "trace_id", "data"] room document with
  | [kind, error, trace, content] =>
      return {
        kind := ← Decoder.required Decoder.text (room - 1) kind
        error := ← Decoder.omittable Decoder.text (room - 1) error
        trace := ← Decoder.omittable Decoder.text (room - 1) trace
        data := ← Decoder.omittable data (room - 1) content }
  | _ => none

end Envelope

end PricePublisher
