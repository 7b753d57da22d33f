import PricePublisher.Yaml.Lexeme

/-!
# Scalars in indented blocks

A block scalar consists of whole lines that are indented deeper than what
surrounds them.  A literal scalar keeps its line ends; a folded one writes a
single line end between two unindented lines as a space.  The header says how
deep the block is indented, unless that is found out from its first lines, and
what becomes of the line ends behind the block.
-/

namespace PricePublisher.Yaml

/-- A line: its text, and the line end if there is one. -/
structure Line where
  text : List Char
  lineEnd : Option Char

/-- The lines of a text, of which the last has no line end. -/
def linesOf : List Char → List Line
  | [] => [⟨[], none⟩]
  | character :: rest =>
      if isBreak character then ⟨[], some character⟩ :: linesOf rest
      else
        match linesOf rest with
        | line :: lines => { line with text := character :: line.text } :: lines
        | [] => [⟨[character], none⟩]

/-- The number of characters in a line, with its line end. -/
def Line.length (line : Line) : Nat :=
  line.text.length + (if line.lineEnd.isSome then 1 else 0)

/-- What becomes of the line ends behind a block. -/
inductive Chomping where
  /-- All are removed. -/
  | strip
  /-- The first is kept. -/
  | clip
  /-- All are kept. -/
  | keep
deriving DecidableEq, Repr

/-- The header of a block scalar. -/
structure BlockHeader where
  chomping : Chomping
  /-- The depth relative to what surrounds the block, if it is given. -/
  depth : Option Nat

/-- The mark for chomping at the front of a text. -/
def chomping? : List Char → Option Chomping
  | '+' :: _ => some .keep
  | '-' :: _ => some .strip
  | _ => none

/-- The digit for the depth at the front of a text; it may not be zero. -/
def depth? : List Char → Option (Option Nat)
  | character :: _ =>
      if character = '0' then none else some (Digits.value? character)
  | [] => some none

/-- The header in the text after the indicator, and the characters that it took. -/
def blockHeader? (characters : List Char) : Option (Lexeme BlockHeader) := do
  match chomping? characters with
  | some chomping =>
      let depth ← depth? (characters.drop 1)
      return (⟨chomping, depth⟩, if depth.isSome then 2 else 1)
  | none =>
      match ← depth? characters with
      | none => return (⟨.clip, none⟩, 0)
      | some depth =>
          match chomping? (characters.drop 1) with
          | some chomping => return (⟨chomping, some depth⟩, 2)
          | none => return (⟨.clip, some depth⟩, 1)

/-- The rest of a header's line: blanks and a comment, and nothing else. -/
def headerEnd? (characters : List Char) : Option Nat :=
  let blanks := blankCount characters
  match characters.drop blanks with
  | '#' :: text => some (blanks + 1 + (text.takeWhile fun c => !isBreak c).length)
  | rest => if atLineEnd rest then some blanks else none

/-- The number of spaces at the front of a line that count as indentation. -/
def indentation (limit : Option Nat) (text : List Char) : Nat :=
  let spaces := (text.takeWhile (· == ' ')).length
  match limit with
  | none => spaces
  | some limit => min limit spaces

/-- Empty lines: their line ends, their deepest indentation, and the lines behind them. -/
structure EmptyLines where
  breaks : List Char
  deepest : Nat
  length : Nat
  rest : List Line

/-- Read empty lines; a tab may not stand where indentation is expected. -/
def emptyLines? (limit : Option Nat) : List Line → Option EmptyLines
  | [] => some ⟨[], 0, 0, []⟩
  | line :: lines =>
      let spaces := indentation limit line.text
      let text := line.text.drop spaces
      let short := match limit with
        | none => true
        | some limit => spaces < limit
      if short && text.head? == some '\t' then none
      else
        match text, line.lineEnd with
        | [], some lineEnd => do
            let more ← emptyLines? limit lines
            return {
              breaks := lineEnd :: more.breaks
              deepest := max spaces more.deepest
              length := line.length + more.length
              rest := more.rest }
        | _, _ => some ⟨[], spaces, 0, line :: lines⟩

/-- A block that is being read. -/
structure BlockState where
  /-- The text so far, without the line ends behind it. -/
  text : List Char
  /-- The line end behind the last line with content. -/
  lineEnd : List Char
  /-- The line ends of the empty lines behind that. -/
  emptyEnds : List Char
  /-- Whether the last line with content starts with a blank. -/
  startsBlank : Bool
  length : Nat

/-- What joins the text so far to a further line. -/
def BlockState.joint (folded startsBlank : Bool) (state : BlockState) : List Char :=
  if folded && state.lineEnd == ['\n'] && !state.startsBlank && !startsBlank then
    if state.emptyEnds.isEmpty then [' '] else state.emptyEnds
  else state.lineEnd ++ state.emptyEnds

/-- Read the lines of a block that is indented by the given number of spaces. -/
def blockLines? (folded : Bool) (indent : Nat) :
    Nat → BlockState → List Line → Option BlockState
  | 0, state, _ => some state
  | _ + 1, state, [] => some state
  | steps + 1, state, line :: lines =>
      let content := line.text.drop indent
      let isContent := indentation (some indent) line.text == indent
        && !(content.isEmpty && line.lineEnd.isNone)
      if !isContent then some state
      else do
        let startsBlank := content.head?.any isSpaceOrTab
        let empty ← emptyLines? (some indent) lines
        blockLines? folded indent steps
          { text := state.text ++ state.joint folded startsBlank ++ content
            lineEnd := line.lineEnd.toList
            emptyEnds := empty.breaks
            startsBlank := startsBlank
            length := state.length + line.length + empty.length }
          empty.rest

/-- The text of a block once the line ends behind it are dealt with. -/
def BlockState.chomped (state : BlockState) : Chomping → List Char
  | .strip => state.text
  | .clip => state.text ++ state.lineEnd
  | .keep => state.text ++ state.lineEnd ++ state.emptyEnds

/--
Read a block scalar after its indicator, inside something that is indented by
the given number of spaces or, at the top of a document, by none.
-/
def blockScalar? (folded : Bool) (outer : Option Nat) (characters : List Char) :
    Option (Lexeme String) := do
  let (header, headerLength) ← blockHeader? characters
  let headerEnd ← headerEnd? (characters.drop headerLength)
  let headLength := headerLength + headerEnd
  match characters.drop headLength with
  | [] => return ("", headLength)
  | _ :: body =>
      let least := max 1 (match outer with
        | none => 0
        | some outer => outer + 1)
      let given := header.depth.map fun depth => outer.getD 0 + depth
      let empty ← emptyLines? given (linesOf body)
      let indent := given.getD (max empty.deepest least)
      let state ← blockLines? folded indent (body.length + 1)
        ⟨[], [], empty.breaks, false, empty.length⟩ empty.rest
      return (String.ofList (state.chomped header.chomping), headLength + 1 + state.length)

end PricePublisher.Yaml
