import PricePublisher.Decimal.Digits

/-!
# Durations

A duration is a number of whole seconds and of nanoseconds below one second.
-/

namespace PricePublisher

/-- How many nanoseconds a second has. -/
def nanosecondsInSecond : Nat := 1000000000

/-- A length of time. -/
structure Duration where
  seconds : Nat
  nanoseconds : Nat
  nanoseconds_lt : nanoseconds < nanosecondsInSecond
deriving DecidableEq, Repr

namespace Duration

/-- The duration of a number of nanoseconds. -/
def ofNanoseconds (total : Nat) : Duration :=
  ⟨total / nanosecondsInSecond, total % nanosecondsInSecond,
    Nat.mod_lt _ (by decide)⟩

/-- The number of nanoseconds in a duration. -/
def toNanoseconds (duration : Duration) : Nat :=
  duration.seconds * nanosecondsInSecond + duration.nanoseconds

/-- The duration of a number of seconds. -/
def ofSeconds (seconds : Nat) : Duration :=
  ⟨seconds, 0, by decide⟩

/-- The duration of a number of milliseconds. -/
def ofMilliseconds (milliseconds : Nat) : Duration :=
  ofNanoseconds (milliseconds * 1000000)

/-- The duration of no time. -/
def zero : Duration := ofSeconds 0

/-- Whether a duration is no time at all. -/
def isZero (duration : Duration) : Bool :=
  duration.seconds == 0 && duration.nanoseconds == 0

/-- The digits of a fraction with a given number of places, without zeros at the end. -/
def fractionDigits (places fraction : Nat) : List Char :=
  ((Digits.padded places fraction).reverse.dropWhile (· == '0')).reverse

/-- A whole number and a fraction of it, with a point between when both are there. -/
def amountText (whole fraction places : Nat) : String :=
  let digits := if fraction = 0 then [] else '.' :: fractionDigits places fraction
  String.ofList (Digits.ofNat whole ++ digits)

/-- A duration in the largest unit that leaves a whole part. -/
def description (duration : Duration) : String :=
  let rest := duration.nanoseconds
  if 0 < duration.seconds then amountText duration.seconds rest 9 ++ "s"
  else if 1000000 ≤ rest then amountText (rest / 1000000) (rest % 1000000) 6 ++ "ms"
  else if 1000 ≤ rest then amountText (rest / 1000) (rest % 1000) 3 ++ "µs"
  else amountText rest 0 0 ++ "ns"

end Duration

end PricePublisher
