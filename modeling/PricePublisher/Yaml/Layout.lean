import PricePublisher.Yaml.BlockScalar
import PricePublisher.Yaml.Scalar

/-!
# From layout to tokens

Outside of brackets, indentation says where collections start and end, and a
scalar turns out to be a key only when a colon follows it on the same line.
The reading therefore keeps a stack of open indentations, and for the innermost
collection the place where a key may have started.

A token is settled once no key can have started before it.  Where the reading
fails, the tokens count that were settled before.
-/

namespace PricePublisher.Yaml

/-- A place where a key on one line may have started. -/
structure KeyStart where
  /-- The number of tokens before it. -/
  tokenIndex : Nat
  offset : Nat
  line : Nat
  column : Nat
  /-- Whether something other than a key would be an error. -/
  required : Bool

/-- The longest key on one line. -/
def keyLengthLimit : Nat := 1024

/-- The state of the reading. -/
structure Layout where
  rest : List Char
  offset : Nat
  line : Nat
  column : Nat
  tokens : List Token
  /-- The columns of the open block collections, innermost first. -/
  indents : List Nat
  /-- The possible key of the innermost collection. -/
  keyStart : Option KeyStart
  /-- The possible keys of what surrounds each open bracket, innermost first. -/
  outerKeyStarts : List (Option KeyStart)
  /-- Whether a key may start here. -/
  keyAllowed : Bool

namespace Layout

/-- The state at the start of a text. -/
def start (characters : List Char) : Layout :=
  ⟨characters, 0, 0, 0, [], [], none, [], true⟩

/-- Whether the reading is inside brackets. -/
def inFlow (layout : Layout) : Bool :=
  !layout.outerKeyStarts.isEmpty

/-- Pass over characters. -/
def skip : Nat → Layout → Layout
  | 0, layout => layout
  | count + 1, layout =>
      match layout.rest with
      | [] => layout
      | character :: rest =>
          let moved :=
            if isBreak character then
              { layout with
                rest := rest, offset := layout.offset + 1, line := layout.line + 1, column := 0 }
            else
              { layout with
                rest := rest, offset := layout.offset + 1, column := layout.column + 1 }
          skip count moved

/-- Add a token. -/
def emit (layout : Layout) (token : Token) : Layout :=
  { layout with tokens := layout.tokens ++ [token] }

/-- Add a token at an earlier place. -/
def emitAt (layout : Layout) (index : Nat) (token : Token) : Layout :=
  { layout with tokens := layout.tokens.take index ++ token :: layout.tokens.drop index }

/--
Pass over blanks, comments and line ends, and over a byte order mark in front of
a line; a new line allows a key.
-/
def skipGap : Nat → Layout → Layout
  | 0, layout => layout
  | steps + 1, layout =>
      match layout.rest with
      | [] => layout
      | character :: rest =>
          if layout.column == 0 && character == byteOrderMark then
            skipGap steps (layout.skip 1)
          else if character == ' '
              || (character == '\t' && (layout.inFlow || !layout.keyAllowed)) then
            skipGap steps (layout.skip 1)
          else if character == '#' then
            let comment := (rest.takeWhile fun next => !isBreak next).length
            skipGap steps (layout.skip (comment + 1))
          else if isBreak character then
            let moved := layout.skip 1
            skipGap steps { moved with keyAllowed := layout.keyAllowed || !layout.inFlow }
          else layout

/-- Give up the possible key, which must not be required. -/
def dropKeyStart? (layout : Layout) : Option Layout :=
  match layout.keyStart with
  | some start => if start.required then none else some { layout with keyStart := none }
  | none => some layout

/-- Whether a key that started there can no longer be completed. -/
def isStale (layout : Layout) (start : KeyStart) : Bool :=
  start.line < layout.line || start.offset + keyLengthLimit < layout.offset

/-- Give up each possible key that can no longer be completed. -/
def dropStale? (layout : Layout) : Option Layout := do
  let keep (start : Option KeyStart) : Option (Option KeyStart) :=
    match start with
    | some place =>
        if layout.isStale place then if place.required then none else some none
        else some (some place)
    | none => some none
  return { layout with
    keyStart := ← keep layout.keyStart
    outerKeyStarts := ← layout.outerKeyStarts.mapM keep }

/-- Note that a key may start here. -/
def noteKeyStart? (layout : Layout) : Option Layout :=
  if layout.keyAllowed then do
    let cleared ← layout.dropKeyStart?
    let required := !layout.inFlow && layout.indents.head? == some layout.column
    return { cleared with
      keyStart := some
        ⟨layout.tokens.length, layout.offset, layout.line, layout.column, required⟩ }
  else some layout

/-- Close the block collections that are indented deeper than the given column. -/
def closeDeeper (column : Nat) : List Nat → List Token → List Nat × List Token
  | [], tokens => ([], tokens)
  | indent :: indents, tokens =>
      if column < indent then closeDeeper column indents (tokens ++ [.blockEnd])
      else (indent :: indents, tokens)

/-- Close block collections down to the given column. -/
def closeTo (layout : Layout) (column : Nat) : Layout :=
  if layout.inFlow then layout
  else
    let (indents, tokens) := closeDeeper column layout.indents layout.tokens
    { layout with indents := indents, tokens := tokens }

/-- Close all block collections. -/
def closeAll (layout : Layout) : Layout :=
  if layout.inFlow then layout
  else
    { layout with
      indents := []
      tokens := layout.tokens ++ List.replicate layout.indents.length .blockEnd }

/-- Whether a column is deeper than the innermost block collection. -/
def isDeeper (layout : Layout) (column : Nat) : Bool :=
  match layout.indents with
  | [] => true
  | indent :: _ => indent < column

/-- Open a block collection at a column unless one is open there. -/
def openAt (layout : Layout) (column index : Nat) (token : Token) : Layout :=
  if layout.inFlow || !layout.isDeeper column then layout
  else { layout.emitAt index token with indents := column :: layout.indents }

/-- Open a block collection here unless one is open at this column. -/
def openHere (layout : Layout) (token : Token) : Layout :=
  layout.openAt layout.column layout.tokens.length token

/-- Pass over characters and add a token that they stand for. -/
def emitSkipping (layout : Layout) (count : Nat) (token : Token) : Layout :=
  (layout.skip count).emit token

/-- Take in the start of a document, its end or a directive, given its token. -/
def atTop? (layout : Layout) (count : Nat) (token : Token) : Option Layout := do
  let cleared ← layout.closeAll.dropKeyStart?
  return { cleared.emitSkipping count token with keyAllowed := false }

/-- Take in an opening bracket. -/
def openFlow? (layout : Layout) (token : Token) : Option Layout := do
  let noted ← layout.noteKeyStart?
  return { noted.emitSkipping 1 token with
    keyStart := none
    outerKeyStarts := noted.keyStart :: noted.outerKeyStarts
    keyAllowed := true }

/-- Take in a closing bracket. -/
def closeFlow? (layout : Layout) (token : Token) : Option Layout := do
  let cleared ← layout.dropKeyStart?
  let closed := { cleared.emitSkipping 1 token with keyAllowed := false }
  match cleared.outerKeyStarts with
  | [] => return closed
  | outer :: others => return { closed with keyStart := outer, outerKeyStarts := others }

/-- Take in a comma between items. -/
def flowEntry? (layout : Layout) : Option Layout := do
  let cleared ← layout.dropKeyStart?
  return { cleared.emitSkipping 1 .flowEntry with keyAllowed := true }

/-- Take in the dash before an item. -/
def blockEntry? (layout : Layout) : Option Layout := do
  if !layout.inFlow && !layout.keyAllowed then none
  else
    let cleared ← (layout.openHere .blockSequenceStart).dropKeyStart?
    return { cleared.emitSkipping 1 .blockEntry with keyAllowed := true }

/-- Take in the question mark before a key. -/
def explicitKey? (layout : Layout) : Option Layout := do
  if !layout.inFlow && !layout.keyAllowed then none
  else
    let cleared ← (layout.openHere .blockMappingStart).dropKeyStart?
    return { cleared.emitSkipping 1 .key with keyAllowed := !layout.inFlow }

/-- Take in the colon before a value. -/
def value? (layout : Layout) : Option Layout :=
  match layout.keyStart with
  | some start =>
      let opened := (layout.emitAt start.tokenIndex .key).openAt start.column start.tokenIndex
        .blockMappingStart
      some { opened.emitSkipping 1 .value with keyStart := none, keyAllowed := false }
  | none =>
      if !layout.inFlow && !layout.keyAllowed then none
      else
        let opened := layout.openHere .blockMappingStart
        some { opened.emitSkipping 1 .value with keyAllowed := !layout.inFlow }

/-- Take in something that may be a key, and that took the given characters. -/
def content? (layout : Layout) (count : Nat) (token : Token) : Option Layout := do
  let noted ← layout.noteKeyStart?
  return { noted.emitSkipping count token with keyAllowed := false }

/-- Take in a block scalar. -/
def blockScalar? (layout : Layout) (style : ScalarStyle) : Option Layout := do
  let cleared ← layout.dropKeyStart?
  let (text, count) ← Yaml.blockScalar? (style == .folded) layout.indents.head?
    (layout.rest.drop 1)
  return { cleared.emitSkipping (count + 1) (.scalar style text) with keyAllowed := true }

/-- Take in a quoted scalar. -/
def quoted? (layout : Layout) (double : Bool) : Option Layout := do
  let (text, count) ← Yaml.quoted? double (layout.column + 1) (layout.rest.drop 1)
  layout.content? (count + 1) (.scalar .quoted text)

/-- Take in a plain scalar. -/
def plain? (layout : Layout) : Option Layout := do
  let indent := match layout.indents with
    | [] => 0
    | indent :: _ => indent + 1
  let scalar ← Yaml.plain? layout.inFlow indent layout.column layout.rest
  let taken ← layout.content? scalar.length (.scalar .plain scalar.text)
  return { taken with keyAllowed := scalar.endsLine }

/-- Whether a plain scalar may start with the given text. -/
def startsPlain (layout : Layout) : List Char → Bool
  | [] => false
  | character :: rest =>
      if character == '-' then !(rest.head?.any isSpaceOrTab)
      else if character == '?' || character == ':' then !layout.inFlow && !atGap rest
      else
        !isSpaceOrTab character && !isBreak character && !isFlowIndicator character
          && !"#&*!|>'\"%@\x60".toList.contains character

/-- Take in the next token, given the text that starts with it. -/
def token? (layout : Layout) (character : Char) (rest : List Char) : Option Layout :=
  if layout.column == 0 && character == '%' then do
    let (token, count) ← directive? rest
    layout.atTop? (count + 1) token
  else if layout.column == 0 && atDocumentMark (character :: rest) then
    layout.atTop? 3 (if character == '-' then .documentStart else .documentEnd)
  else if character == '[' then layout.openFlow? .flowSequenceStart
  else if character == '\x7b' then layout.openFlow? .flowMappingStart
  else if character == ']' then layout.closeFlow? .flowSequenceEnd
  else if character == '\x7d' then layout.closeFlow? .flowMappingEnd
  else if character == ',' then layout.flowEntry?
  else if character == '-' && atGap rest then layout.blockEntry?
  else if character == '?' && (layout.inFlow || atGap rest) then layout.explicitKey?
  else if character == ':' && (layout.inFlow || atGap rest) then layout.value?
  else if character == '*' then do
    let (name, count) ← anchorName? rest
    layout.content? (count + 1) (.alias name)
  else if character == '&' then do
    let (name, count) ← anchorName? rest
    layout.content? (count + 1) (.anchor name)
  else if character == '!' then do
    let (name, count) ← tagName? layout.inFlow (character :: rest)
    layout.content? count (.tag name)
  else if character == '|' && !layout.inFlow then layout.blockScalar? .literal
  else if character == '>' && !layout.inFlow then layout.blockScalar? .folded
  else if character == '\'' then layout.quoted? false
  else if character == '"' then layout.quoted? true
  else if layout.startsPlain (character :: rest) then layout.plain?
  else none

/-- Take in the next token, if there is no gap before it. -/
def next? (layout : Layout) : Option Layout := do
  let ready ← layout.dropStale?
  let closed := ready.closeTo ready.column
  match closed.rest with
  | [] => none
  | character :: rest => (← closed.token? character rest).dropStale?

/-- All tokens, at the end of the text, which ends the line too. -/
def allTokens? (layout : Layout) : Option (List Token) := do
  let ready ← layout.dropStale?
  let ended ← { ready.closeAll with line := ready.line + 1, column := 0 }.dropKeyStart?
  return (← ended.dropStale?).tokens ++ [.textEnd]

/-- The tokens before the first place where a key may have started. -/
def settledTokens (layout : Layout) : List Token :=
  (layout.keyStart :: layout.outerKeyStarts).foldl (fun tokens start =>
    match start with
    | some place => tokens.take place.tokenIndex
    | none => tokens) layout.tokens

/-- The number of characters that have to be known to tell which token is next. -/
def lookahead : Nat := 4

/--
The tokens of the remaining text, or where the reading fails those that were
settled before.  Each step takes in at least one character.  If the text is cut
short, what lies at its end cannot be told.
-/
def tokensFrom (isAll : Bool) (settled : List Token) : Nat → Layout → List Token
  | 0, _ => settled
  | steps + 1, layout =>
      let ready := layout.skipGap (layout.rest.length + 1)
      if !isAll && ready.rest.length < lookahead then settled
      else if ready.rest.isEmpty then ready.allTokens?.getD settled
      else
        match ready.next? with
        | none => settled
        | some taken =>
            if !isAll && taken.rest.isEmpty then settled
            else tokensFrom isAll taken.settledTokens steps taken

end Layout

/-- The tokens of a text, which end with `textEnd` if it can be read to its end. -/
def tokens (text : String) : List Token :=
  let (characters, isAll) := takePortions portionSize [] text.toList
  Layout.tokensFrom isAll [] (characters.length + 2) (.start (normalizeBreaks characters))

end PricePublisher.Yaml
