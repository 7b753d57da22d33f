/-!
# International labels

A label with characters outside of ASCII is written with ASCII letters and
digits: its ASCII characters, and after a hyphen the code points and places of
the others, as differences in a number system of variable base.
-/

namespace PricePublisher.Url.Punycode

/-- The character for a digit below 36. -/
def digit (value : Nat) : Char :=
  if value < 26 then Char.ofNat (97 + value) else Char.ofNat (22 + value)

/-- The least value that is not the last digit at a position. -/
def threshold (position bias : Nat) : Nat :=
  max 1 (min 26 (position - bias))

/-- Every digit has at least one value that ends a number. -/
theorem threshold_pos (position bias : Nat) : 0 < threshold position bias := by
  simp only [threshold]
  omega

/-- A difference in digits of variable base. -/
def digits (bias position difference : Nat) : List Char :=
  let least := threshold position bias
  if difference < least then [digit difference]
  else
    digit (least + (difference - least) % (36 - least))
      :: digits bias (position + 36) ((difference - least) / (36 - least))
termination_by difference
decreasing_by
  have positive := threshold_pos position bias
  have reduced := Nat.div_le_self (difference - threshold position bias)
    (36 - threshold position bias)
  omega

/-- Divide by 35 while a number is large, and count 36 for each division. -/
def scale (number bias : Nat) : Nat :=
  if 455 < number then scale (number / 35) (bias + 36)
  else bias + 36 * number / (number + 38)
termination_by number
decreasing_by omega

/-- The bias after a difference has been written. -/
def adapt (difference count : Nat) (isFirst : Bool) : Nat :=
  let halved := if isFirst then difference / 700 else difference / 2
  scale (halved + halved / count) 0

/-- The state of writing differences. -/
structure Writing where
  output : List Char
  difference : Nat
  bias : Nat
  handled : Nat

/-- Pass over a character of the label while the places of one code point are written. -/
def pass (basic code : Nat) (state : Writing) (character : Char) : Writing :=
  if character.toNat < code then { state with difference := state.difference + 1 }
  else if character.toNat = code then
    { output := state.output ++ digits state.bias 36 state.difference
      difference := 0
      bias := adapt state.difference (state.handled + 1) (state.handled == basic)
      handled := state.handled + 1 }
  else state

/-- Write the places of code points, given in rising order. -/
def writeAll (label : List Char) (basic : Nat) : Nat → List Nat → Writing → Writing
  | _, [], state => state
  | next, code :: codes, state =>
      let started :=
        { state with difference := state.difference + (code - next) * (state.handled + 1) }
      let written := label.foldl (pass basic code) started
      writeAll label basic (code + 1) codes
        { written with difference := written.difference + 1 }

/-- Put a number at its place in rising order. -/
def insertRising (number : Nat) : List Nat → List Nat
  | [] => [number]
  | other :: rest =>
      if number < other then number :: other :: rest
      else if number = other then other :: rest
      else other :: insertRising number rest

/-- A label with ASCII characters only. -/
def encode (label : List Char) : List Char :=
  let basic := label.filter fun character => character.toNat < 128
  let codes := (label.map Char.toNat).filter fun code => 128 ≤ code
  let start := if basic.isEmpty then [] else basic ++ ['-']
  (writeAll label basic.length 128 (codes.foldr insertRising [])
    ⟨start, 0, 72, basic.length⟩).output

/-- What an encoded label starts with. -/
def mark : List Char := "xn--".toList

/-- A label as it stands in an address: lower case, and encoded where it needs to be. -/
def label (characters : List Char) : List Char :=
  let lower := characters.map Char.toLower
  if lower.all fun character => character.toNat < 128 then lower
  else mark ++ encode lower

end PricePublisher.Url.Punycode
