/-!
# Notices

A component reports what an operator should know as notices: a severity and a
fixed text.  They are part of what a component answers, in the order in which
they arise.
-/

namespace PricePublisher

/-- How much a notice matters. -/
inductive Severity where
  | debug
  | info
  | warning
  | error
deriving DecidableEq, Repr

/-- The name of a severity in a log. -/
def Severity.name : Severity → String
  | .debug => "DEBUG"
  | .info => "INFO"
  | .warning => "WARN"
  | .error => "ERROR"

/-- A line for the operator. -/
structure Notice where
  severity : Severity
  text : String
deriving DecidableEq, Repr

end PricePublisher
