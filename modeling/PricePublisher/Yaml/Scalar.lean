import PricePublisher.Yaml.Lexeme

/-!
# Scalars on lines of flowing text

Plain and quoted scalars may go on over several lines.  A line end between two
words counts as a space, and further line ends count as themselves.
-/

namespace PricePublisher.Yaml

/-- What stands between two words of a scalar. -/
inductive Gap where
  /-- Spaces and tabs on one line. -/
  | inline (blanks : List Char)
  /-- Line ends, with or without blanks around them. -/
  | folded (breaks : List Char)
  /-- Line ends after one that is escaped. -/
  | escaped (breaks : List Char)
deriving DecidableEq

namespace Gap

/-- Nothing between two words. -/
def none : Gap := .inline []

/-- Take a space or tab in; beside line ends it has no meaning. -/
def addBlank (character : Char) : Gap → Gap
  | .inline blanks => .inline (blanks ++ [character])
  | .folded breaks => .folded breaks
  | .escaped breaks => .escaped breaks

/-- Take a line end in. -/
def addBreak (character : Char) : Gap → Gap
  | .inline _ => .folded [character]
  | .folded breaks => .folded (breaks ++ [character])
  | .escaped breaks => .escaped (breaks ++ [character])

/-- Whether there is a line end. -/
def isMultiline : Gap → Bool
  | .inline _ => false
  | _ => true

/-- What a gap contributes to the scalar. -/
def text : Gap → List Char
  | .inline blanks => blanks
  | .folded ['\n'] => [' ']
  | .folded ('\n' :: later) => later
  | .folded breaks => breaks
  | .escaped breaks => breaks

end Gap

/-- A plain scalar that has been read. -/
structure PlainScalar where
  text : String
  /-- How many characters it took, with the gap behind it. -/
  length : Nat
  /-- Whether a line end follows it. -/
  endsLine : Bool

/-- Where in a scalar the reading stands. -/
structure ScalarState where
  /-- The column of the next character. -/
  column : Nat
  /-- The number of characters read. -/
  length : Nat
  /-- The text before the current gap, last character first. -/
  words : List Char
  gap : Gap

namespace ScalarState

/-- The state at the start of a scalar. -/
def start (column : Nat) : ScalarState :=
  ⟨column, 0, [], .none⟩

/-- Take in a space or tab. -/
def addBlank (state : ScalarState) (character : Char) : ScalarState :=
  { state with
    column := state.column + 1
    length := state.length + 1
    gap := state.gap.addBlank character }

/-- Take in a line end. -/
def addBreak (state : ScalarState) (character : Char) : ScalarState :=
  { state with
    column := 0
    length := state.length + 1
    gap := state.gap.addBreak character }

/-- The words with the current gap. -/
def joined (state : ScalarState) : List Char :=
  state.gap.text.reverse ++ state.words

/-- Take in a character that is written with the given number of characters. -/
def addWritten (state : ScalarState) (character : Char) (written : Nat) : ScalarState :=
  { column := state.column + written
    length := state.length + written
    words := character :: state.joined
    gap := .none }

/-- Take in an escaped line end. -/
def addEscapedBreak (state : ScalarState) : ScalarState :=
  { column := 0
    length := state.length + 2
    words := state.joined
    gap := .escaped [] }

/-- The text read so far, without the gap behind it. -/
def text (state : ScalarState) : String :=
  String.ofList state.words.reverse

end ScalarState

/-- Whether a plain scalar ends before the given text, which is no gap. -/
def endsPlain (inFlow : Bool) (indent : Nat) (state : ScalarState) (rest : List Char) :
    Bool :=
  let afterGap := state.gap != .none
  (afterGap && !inFlow && state.column < indent)
    || (afterGap && state.column == 0 && atDocumentMark rest)
    || (afterGap && rest.head? == some '#')
    || (match rest with
      | ':' :: next => atGap next
      | character :: _ => inFlow && isFlowIndicator character
      | [] => true)

/-- Whether the text is a colon that a collection does not allow in a plain scalar. -/
def isMisplacedColon (inFlow : Bool) : List Char → Bool
  | ':' :: next :: _ => inFlow && (isFlowIndicator next || next == '?')
  | _ => false

/-- Read a plain scalar on from a state; lines of it are indented at least so far. -/
def plainFrom? (inFlow : Bool) (indent : Nat) (state : ScalarState) :
    List Char → Option ScalarState
  | [] => some state
  | character :: rest =>
      if isSpaceOrTab character then
        if state.gap.isMultiline && state.column < indent && character == '\t' then none
        else plainFrom? inFlow indent (state.addBlank character) rest
      else if isBreak character then
        plainFrom? inFlow indent (state.addBreak character) rest
      else if endsPlain inFlow indent state (character :: rest) then some state
      else if isMisplacedColon inFlow (character :: rest) then none
      else plainFrom? inFlow indent (state.addWritten character 1) rest

/-- Read a plain scalar. -/
def plain? (inFlow : Bool) (indent column : Nat) (characters : List Char) :
    Option PlainScalar :=
  (plainFrom? inFlow indent (.start column) characters).map fun state =>
    ⟨state.text, state.length, state.gap.isMultiline⟩

/-- Read a scalar between single quotes on from a state, to the closing quote. -/
def singleQuotedFrom? (state : ScalarState) : List Char → Option ScalarState
  | [] => none
  | '\'' :: '\'' :: rest => singleQuotedFrom? (state.addWritten '\'' 2) rest
  | character :: rest =>
      if isSpaceOrTab character then singleQuotedFrom? (state.addBlank character) rest
      else if isBreak character then singleQuotedFrom? (state.addBreak character) rest
      else if state.column == 0 && atDocumentMark (character :: rest) then none
      else if character = '\'' then
        some { state with words := state.joined, gap := .none, length := state.length + 1 }
      else singleQuotedFrom? (state.addWritten character 1) rest

/-- The character of a given code, unless it is half of a pair or too large. -/
def scalarValue? (code : Nat) : Option Char :=
  if Nat.isValidChar code then some (Char.ofNat code) else none

/-- The character denoted by the first of the given hexadecimal digits. -/
def hexEscape? (digits : Nat) (characters : List Char) : Option (Lexeme Char) := do
  if characters.length < digits then none
  else
    let character ← scalarValue? (← hexNumber? 0 (characters.take digits))
    return (character, digits + 1)

/-- The character that an escape denotes, given the text after its backslash. -/
def escape? : List Char → Option (Lexeme Char)
  | '0' :: _ => some ('\x00', 1)
  | 'a' :: _ => some ('\x07', 1)
  | 'b' :: _ => some ('\x08', 1)
  | 't' :: _ => some ('\t', 1)
  | '\t' :: _ => some ('\t', 1)
  | 'n' :: _ => some ('\n', 1)
  | 'v' :: _ => some ('\x0b', 1)
  | 'f' :: _ => some ('\x0c', 1)
  | 'r' :: _ => some ('\r', 1)
  | 'e' :: _ => some ('\x1b', 1)
  | ' ' :: _ => some (' ', 1)
  | '"' :: _ => some ('"', 1)
  | '/' :: _ => some ('/', 1)
  | '\\' :: _ => some ('\\', 1)
  | 'N' :: _ => some (Char.ofNat 0x85, 1)
  | '_' :: _ => some (Char.ofNat 0xA0, 1)
  | 'L' :: _ => some (Char.ofNat 0x2028, 1)
  | 'P' :: _ => some (Char.ofNat 0x2029, 1)
  | 'x' :: rest => hexEscape? 2 rest
  | 'u' :: rest => hexEscape? 4 rest
  | 'U' :: rest => hexEscape? 8 rest
  | _ => none

/-- Read a scalar between double quotes on from a state, to the closing quote. -/
def doubleQuotedFrom? (state : ScalarState) : List Char → Option ScalarState
  | [] => none
  | character :: rest =>
      if isSpaceOrTab character then doubleQuotedFrom? (state.addBlank character) rest
      else if isBreak character then doubleQuotedFrom? (state.addBreak character) rest
      else if state.column == 0 && atDocumentMark (character :: rest) then none
      else if character = '"' then
        some { state with words := state.joined, gap := .none, length := state.length + 1 }
      else if character = '\\' then
        if rest.head?.any isBreak then
          doubleQuotedFrom? state.addEscapedBreak (rest.drop 1)
        else
          match escape? rest with
          | none => none
          | some (denoted, count) =>
              doubleQuotedFrom? (state.addWritten denoted (count + 1)) (rest.drop count)
      else doubleQuotedFrom? (state.addWritten character 1) rest
termination_by characters => characters.length
decreasing_by all_goals simp [List.length_drop]; try omega

/-- Read a scalar after its opening quote. -/
def quoted? (double : Bool) (column : Nat) (characters : List Char) :
    Option (Lexeme String) :=
  let state? :=
    if double then doubleQuotedFrom? (.start column) characters
    else singleQuotedFrom? (.start column) characters
  state?.map fun state => (state.text, state.length)

end PricePublisher.Yaml
