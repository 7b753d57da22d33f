import PricePublisher.Text.Blank
import PricePublisher.Text.Quoted
import PricePublisher.Time.Duration

/-!
# Reading durations

A duration is written as a sequence of terms, each a number with a unit:
`1h 30m`, `500ms`, `1.5s`.  Blanks may stand between terms, inside numbers and
before units.  A number may have a fraction, which must come out exactly: in
nanoseconds for units up to the minute, in seconds for longer ones.  A
nanosecond has no fractions, not even zero.  A lone `0` needs no unit.

Numbers and sums are limited to 64 bits.  Positions in messages count bytes.
-/

namespace PricePublisher

/-- Why a text is no duration. -/
inductive DurationError where
  | empty
  | numberExpected (position : Nat)
  | invalidCharacter (position : Nat)
  | unknownUnit (name : String) (number : Nat)
  | outOfRange
  /-- A whole second is carried beyond the longest duration. -/
  | carryOverflow
deriving DecidableEq, Repr

/-- The message about a text that is no duration. -/
def DurationError.message : DurationError → String
  | .empty => "value was empty"
  | .numberExpected position => "expected number at " ++ Nat.repr position
  | .invalidCharacter position => "invalid character at " ++ Nat.repr position
  | .unknownUnit name number =>
      if name.isEmpty then
        "time unit needed, for example " ++ Nat.repr number ++ "sec or "
          ++ Nat.repr number ++ "ms"
      else
        "unknown time unit " ++ Text.quoted name
          ++ ", supported units: ns, us/µs, ms, sec, min, hours, days, "
          ++ "weeks, months, years (and few variations)"
  | .outOfRange =>
      "number is too large or cannot be represented without a lack of precision "
        ++ "(values below 1ns are not supported)"
  | .carryOverflow => "overflow in duration"

namespace Duration

/-- A unit of time: how many nanoseconds or seconds it has. -/
inductive TimeUnit where
  | ofNanoseconds (count : Nat)
  | ofSeconds (count : Nat)
deriving DecidableEq, Repr

/-- The unit of a given name. -/
def TimeUnit.ofName? : String → Option TimeUnit
  | "ns" | "nsec" | "nanos" => some (.ofNanoseconds 1)
  | "us" | "usec" | "µs" => some (.ofNanoseconds 1000)
  | "ms" | "msec" | "millis" => some (.ofNanoseconds 1000000)
  | "s" | "sec" | "secs" | "second" | "seconds" => some (.ofSeconds 1)
  | "m" | "min" | "mins" | "minute" | "minutes" => some (.ofSeconds 60)
  | "h" | "hr" | "hrs" | "hour" | "hours" => some (.ofSeconds 3600)
  | "d" | "day" | "days" => some (.ofSeconds 86400)
  | "w" | "wk" | "wks" | "week" | "weeks" => some (.ofSeconds 604800)
  | "M" | "month" | "months" => some (.ofSeconds 2630016)
  | "y" | "yr" | "yrs" | "year" | "years" => some (.ofSeconds 31557600)
  | _ => none

/-- The longest unit in seconds whose fractions are counted in nanoseconds. -/
def finestSecondsUnit : Nat := 60

/-- A number of 64 bits, or the complaint that it is too large. -/
def limited (number : Nat) : Except DurationError Nat :=
  if number < Nat.pow 2 64 then .ok number else .error .outOfRange

/-- An exact quotient, or the complaint that it is not exact. -/
def exactQuotient (number divisor : Nat) : Except DurationError Nat :=
  if number % divisor = 0 then .ok (number / divisor) else .error .outOfRange

/-- A fraction of a number in a duration, as numerator and denominator. -/
structure Fraction where
  numerator : Nat
  denominator : Nat

/-- Add seconds and nanoseconds to a duration. -/
def add (duration : Duration) (seconds nanoseconds : Nat) :
    Except DurationError Duration := do
  let nanoseconds ← limited (duration.nanoseconds + nanoseconds)
  let carried := nanosecondsInSecond < nanoseconds
  let seconds ←
    if carried then limited (seconds + nanoseconds / nanosecondsInSecond)
    else pure seconds
  let rest := if carried then nanoseconds % nanosecondsInSecond else nanoseconds
  let total ← limited (duration.seconds + seconds)
  if within : rest < nanosecondsInSecond then return ⟨total, rest, within⟩
  else if total + 1 < Nat.pow 2 64 then return ofSeconds (total + 1)
  else throw .carryOverflow

/-- Add a whole number of units. -/
def addWhole (duration : Duration) (number : Nat) : TimeUnit → Except DurationError Duration
  | .ofNanoseconds count => do duration.add 0 (← limited (number * count))
  | .ofSeconds count => do duration.add (← limited (number * count)) 0

/-- Add a fraction of a unit. -/
def addFraction (duration : Duration) (fraction : Fraction) :
    TimeUnit → Except DurationError Duration
  | .ofNanoseconds 1 => .error .outOfRange
  | .ofNanoseconds count => do
      let product ← limited (fraction.numerator * count)
      duration.add 0 (← exactQuotient product fraction.denominator)
  | .ofSeconds count => do
      if count ≤ finestSecondsUnit then
        let product ← limited (fraction.numerator * (count * nanosecondsInSecond))
        duration.add 0 (← exactQuotient product fraction.denominator)
      else
        let product ← limited (fraction.numerator * count)
        duration.add (← exactQuotient product fraction.denominator) 0

/-- A term whose unit is still being read. -/
structure Term where
  number : Nat
  fraction : Option Fraction
  /-- The letters of the unit, last first. -/
  letters : List Char

/-- Add a complete term. -/
def addTerm (duration : Duration) (term : Term) : Except DurationError Duration :=
  let name := String.ofList term.letters.reverse
  match TimeUnit.ofName? name with
  | none => .error (.unknownUnit name term.number)
  | some unit => do
      let sum ← duration.addWhole term.number unit
      match term.fraction with
      | none => return sum
      | some fraction => sum.addFraction fraction unit

/-- Where in a text of terms the reading stands. -/
inductive Stage where
  /-- A number has to follow, first at the given position. -/
  | between (start : Nat)
  | inNumber (number : Nat)
  /-- A fraction, with the position that is blamed if it is malformed. -/
  | inFraction (number : Nat) (fraction : Fraction) (blamed : Nat)
  | inUnit (term : Term)

/-- Whether a character may stand in the name of a unit. -/
def isUnitLetter (character : Char) : Bool :=
  character.isAlpha || character == 'µ'

/-- Take one character in: the next stage, and the duration so far. -/
def advance (duration : Duration) (position : Nat) (character : Char) :
    Stage → Except DurationError (Stage × Duration)
  | .between start =>
      match Digits.value? character with
      | some digit => .ok (.inNumber digit, duration)
      | none =>
          if Text.isBlank character then .ok (.between start, duration)
          else .error (.numberExpected start)
  | .inNumber number =>
      match Digits.value? character with
      | some digit => do return (.inNumber (← limited (number * 10 + digit)), duration)
      | none =>
          if Text.isBlank character then .ok (.inNumber number, duration)
          else if isUnitLetter character then
            .ok (.inUnit ⟨number, none, [character]⟩, duration)
          else if character = '.' then
            .ok (.inFraction number ⟨0, 1⟩ position, duration)
          else .error (.invalidCharacter position)
  | .inFraction number fraction blamed =>
      let next := position + character.utf8Size
      match Digits.value? character with
      | some digit => do
          let denominator ← limited (fraction.denominator * 10)
          let numerator ← limited (fraction.numerator * 10 + digit)
          return (.inFraction number ⟨numerator, denominator⟩ next, duration)
      | none =>
          if Text.isBlank character then .ok (.inFraction number fraction next, duration)
          else if isUnitLetter character && fraction.denominator != 1 then
            .ok (.inUnit ⟨number, some fraction, [character]⟩, duration)
          else .error (.invalidCharacter blamed)
  | .inUnit term =>
      match Digits.value? character with
      | some digit => do return (.inNumber digit, ← duration.addTerm term)
      | none =>
          if Text.isBlank character then do
            return (.between (position + character.utf8Size), ← duration.addTerm term)
          else if isUnitLetter character then
            .ok (.inUnit { term with letters := character :: term.letters }, duration)
          else .error (.invalidCharacter position)

/-- Take the end of the text in. -/
def finish (duration : Duration) : Stage → Except DurationError Duration
  | .between _ => .ok duration
  | .inNumber number => duration.addTerm ⟨number, none, []⟩
  | .inFraction number fraction blamed =>
      if fraction.denominator = 1 then .error (.invalidCharacter blamed)
      else duration.addTerm ⟨number, some fraction, []⟩
  | .inUnit term => duration.addTerm term

/-- Read characters from a given stage and position on. -/
def readFrom (duration : Duration) (position : Nat) (stage : Stage) :
    List Char → Except DurationError Duration
  | [] => duration.finish stage
  | character :: rest => do
      let (stage, duration) ← duration.advance position character stage
      readFrom duration (position + character.utf8Size) stage rest

/-- Read a text of terms. -/
def ofTerms (characters : List Char) : Except DurationError Duration :=
  if characters.isEmpty then .error .empty
  else readFrom zero 0 (.between 0) characters

/-- Read a duration with blanks around it. -/
def ofText (text : String) : Except DurationError Duration :=
  let characters := Text.trimChars text.toList
  if characters = ['0'] then .ok zero else ofTerms characters

/-- The message about a text that is no duration. -/
def complaint (text : String) (error : DurationError) : String :=
  "invalid duration: " ++ Text.quoted text ++ ": " ++ error.message

end Duration

end PricePublisher
