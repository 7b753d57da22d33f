import PricePublisher.Text.Quoted

/-!
# What can be wrong with a reported value
-/

namespace PricePublisher

/-- Why a reported value is no price. -/
inductive ValueError where
  | emptyText
  | notDecimal (text : String)
  /-- A JSON value of a kind that holds no number. -/
  | unsupported (kind : String)
deriving DecidableEq, Repr

/-- The message about a reported value that is no price. -/
def ValueError.message : ValueError → String
  | .emptyText => "value cannot be an empty string"
  | .notDecimal text =>
      "failed to convert " ++ Text.quoted text
        ++ " to a decimal (magnitude limit is about 7.9e28)"
  | .unsupported kind => "unsupported type for value: " ++ kind

end PricePublisher
