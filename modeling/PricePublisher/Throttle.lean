/-!
# Throttles

A throttle grants requests at most once in a period.  The first request is
granted; a refused request leaves the throttle as it is, so refusals never
postpone the next grant.  Times are nanoseconds of a clock that never goes
back.
-/

namespace PricePublisher

/-- A period and the time of the last grant. -/
structure Throttle where
  period : Nat
  lastGrant : Option Nat
deriving DecidableEq, Repr

namespace Throttle

/-- A throttle that has granted nothing yet. -/
def ofPeriod (period : Nat) : Throttle :=
  ⟨period, none⟩

/-- Whether a request at a given time is granted. -/
def grants (throttle : Throttle) (now : Nat) : Bool :=
  match throttle.lastGrant with
  | none => true
  | some last => throttle.period ≤ now - last

/-- Ask for a grant: the answer, and the throttle afterwards. -/
def request (throttle : Throttle) (now : Nat) : Bool × Throttle :=
  if throttle.grants now then (true, { throttle with lastGrant := some now })
  else (false, throttle)

/-- The answers to requests at the given times, in order. -/
def requestAll (throttle : Throttle) : List Nat → List Bool
  | [] => []
  | now :: times =>
      let (granted, next) := throttle.request now
      granted :: next.requestAll times

end Throttle

end PricePublisher
