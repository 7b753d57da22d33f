import PricePublisher.Decimal.Basic
import PricePublisher.Json.Value

/-!
# Price updates

A feed reports the value of an asset at a time, and may attach a JSON object of
its own.  An update that is selected for signing is tagged with the reason why.
-/

namespace PricePublisher

/-- The reported value of one asset. -/
structure PriceUpdate where
  /-- Nanoseconds since the epoch. -/
  timestamp : Int
  asset : String
  value : Decimal
  metadata : Option Json.Object

/-- Why an update is published. -/
inductive Trigger where
  /-- A fixed period has passed. -/
  | clock
  /-- The value has changed enough. -/
  | delta
  /-- Every update is published. -/
  | unspecified
deriving DecidableEq, Repr

namespace Trigger

/-- The name of a trigger on the wire. -/
def name : Trigger → String
  | .clock => "clock"
  | .delta => "delta"
  | .unspecified => "unspecified"

/-- The trigger of a given name. -/
def ofName? : String → Option Trigger
  | "clock" => some .clock
  | "delta" => some .delta
  | "unspecified" => some .unspecified
  | _ => none

@[simp]
theorem ofName?_name (trigger : Trigger) :
    ofName? trigger.name = some trigger := by
  cases trigger <;> rfl

end Trigger

/-- An update that is selected for signing. -/
structure TriggeredUpdate where
  update : PriceUpdate
  trigger : Trigger

end PricePublisher
