import PricePublisher.Decimal.Printer
import PricePublisher.Decimal.Reader
import PricePublisher.Price.Update
import PricePublisher.Price.ValueError
import PricePublisher.Wire.Envelope

/-!
# Prices reported by feeds

Clients push elements whose value is a number or the text of a number.  A feed
that is pulled from sends elements whose price is always a number.  Both become
price updates through the written form of the number, so a number is read as
the decimal that its shortest text denotes.
-/

namespace PricePublisher

open Json

/-- The decimal that a text denotes, or the complaint about it. -/
def decimalOfText (text : String) : Except ValueError Decimal :=
  match Decimal.ofText? text with
  | none => .error (.notDecimal text)
  | some decimal => .ok decimal

/-- An element of a pushed message. -/
structure PushedPrice where
  timestamp : Int
  asset : String
  value : Value
  metadata : Option Object

namespace PushedPrice

/-- Read a pushed element. -/
def decoder : Decoder PushedPrice := fun room document => do
  match ← Decoder.recordFields? ["t", "a", "v", "m"] room document with
  | [timestamp, asset, value, metadata] =>
      return {
        timestamp := ← Decoder.required Decoder.int64 (room - 1) timestamp
        asset := ← Decoder.required Decoder.text (room - 1) asset
        value := ← Decoder.required Decoder.value (room - 1) value
        metadata := ← Decoder.omittable Decoder.object (room - 1) metadata }
  | _ => none

/-- An update as the element that reports it with the text of its value. -/
def ofUpdate (update : PriceUpdate) : PushedPrice :=
  ⟨update.timestamp, update.asset, .text update.value.toText, update.metadata⟩

/-- A pushed element in JSON. -/
def toValue (pushed : PushedPrice) : Value :=
  .object [
    ("t", .number (.integer pushed.timestamp)),
    ("a", .text pushed.asset),
    ("v", pushed.value),
    ("m", (pushed.metadata.map .object).getD .null)]

/-- The decimal in the value of a pushed element. -/
def decimalOf : Value → Except ValueError Decimal
  | .number number => decimalOfText (String.ofList number.toChars)
  | .text text => if text.isEmpty then .error .emptyText else decimalOfText text
  | .null => .error (.unsupported "null")
  | .boolean _ => .error (.unsupported "bool")
  | .array _ => .error (.unsupported "array")
  | .object _ => .error (.unsupported "object")

/-- The update that a pushed element reports. -/
def toUpdate (pushed : PushedPrice) : Except ValueError PriceUpdate :=
  (decimalOf pushed.value).map fun value =>
    ⟨pushed.timestamp, pushed.asset, value, pushed.metadata⟩

end PushedPrice

/-- An element of a message from a pulled feed. -/
structure PulledPrice where
  timestamp : Int
  asset : String
  price : Float
  metadata : Option Object

namespace PulledPrice

/-- Read a pulled element. -/
def decoder : Decoder PulledPrice := fun room document => do
  match ← Decoder.recordFields? ["t", "a", "p", "m"] room document with
  | [timestamp, asset, price, metadata] =>
      return {
        timestamp := ← Decoder.required Decoder.int64 (room - 1) timestamp
        asset := ← Decoder.required Decoder.text (room - 1) asset
        price := ← Decoder.required Decoder.float (room - 1) price
        metadata := ← Decoder.omittable Decoder.object (room - 1) metadata }
  | _ => none

/-- The update that a pulled element reports. -/
def toUpdate (pulled : PulledPrice) : Except ValueError PriceUpdate :=
  (decimalOfText (Floating.plainText pulled.price)).map fun value =>
    ⟨pulled.timestamp, pulled.asset, value, pulled.metadata⟩

end PulledPrice

end PricePublisher
