/-!
# Characters of YAML texts

A text is taken in by portions, and a portion with a control character other
than tabs and line ends is not taken in at all.  All line ends that are not line
or paragraph separators are read as a line feed.
-/

namespace PricePublisher.Yaml

/-- Whether a character ends a line. -/
def isBreak (character : Char) : Bool :=
  character == '\n' || character.toNat == 0x2028 || character.toNat == 0x2029

/-- Whether a character is a space or a tab. -/
def isSpaceOrTab (character : Char) : Bool :=
  character == ' ' || character == '\t'

/-- Whether a text is at its end, at a line end or at a space or tab. -/
def atGap : List Char → Bool
  | [] => true
  | character :: _ => isSpaceOrTab character || isBreak character

/-- Whether a text is at its end or at a line end. -/
def atLineEnd : List Char → Bool
  | [] => true
  | character :: _ => isBreak character

/-- Whether a character may stand in the name of an anchor, handle or directive. -/
def isNameCharacter (character : Char) : Bool :=
  character.isAlphanum || character == '_' || character == '-'

/-- Whether a character opens or closes a collection, or separates its items. -/
def isFlowIndicator (character : Char) : Bool :=
  character == ',' || character == '[' || character == ']' || character == '\x7b'
    || character == '\x7d'

/-- The byte order mark, which may stand in front of a line. -/
def byteOrderMark : Char := Char.ofNat 0xFEFF

/-- Whether a character may occur in a text. -/
def isPermitted (character : Char) : Bool :=
  let code := character.toNat
  code == 0x09 || code == 0x0A || code == 0x0D || (0x20 ≤ code && code ≤ 0x7E)
    || code == 0x85 || (0xA0 ≤ code && code ≤ 0xD7FF)
    || (0xE000 ≤ code && code ≤ 0xFFFD) || 0x10000 ≤ code

/-- The number of bytes of the longest portion of a text. -/
def portionSize : Nat := 16384

/--
The portions before the first that has a character which may not occur, and
whether these are all.  The current portion, last character first, has room for
the given number of bytes.
-/
def takePortions (room : Nat) (portion : List Char) : List Char → List Char × Bool
  | [] => (portion.reverse, true)
  | character :: rest =>
      let fits := character.utf8Size ≤ room
      let before := if fits then [] else portion.reverse
      let portion := if fits then portion else []
      let room := if fits then room else portionSize
      if isPermitted character then
        let (later, isAll) := takePortions (room - character.utf8Size) (character :: portion) rest
        (before ++ later, isAll)
      else (before, false)

/-- Write every line end as a line feed, separators excepted. -/
def normalizeBreaks : List Char → List Char
  | [] => []
  | '\r' :: '\n' :: rest => '\n' :: normalizeBreaks rest
  | character :: rest =>
      (if character == '\r' || character.toNat == 0x85 then '\n' else character)
        :: normalizeBreaks rest

/-- Whether a text starts with a line `---` or `...`, perhaps with more after a gap. -/
def atDocumentMark : List Char → Bool
  | '-' :: '-' :: '-' :: rest => atGap rest
  | '.' :: '.' :: '.' :: rest => atGap rest
  | _ => false

end PricePublisher.Yaml
