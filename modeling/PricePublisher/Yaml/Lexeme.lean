import PricePublisher.Decimal.Digits
import PricePublisher.Yaml.Character
import PricePublisher.Yaml.Token

/-!
# Names, tags and directives

Each reader takes a text and answers what it has read and how many characters
that took.
-/

namespace PricePublisher.Yaml

/-- What is read, and the number of characters that it took. -/
abbrev Lexeme (α : Type) := α × Nat

/-- The name of an anchor or alias, which must be followed by a gap or an indicator. -/
def anchorName? (characters : List Char) : Option (Lexeme String) :=
  let name := characters.takeWhile isNameCharacter
  let rest := characters.dropWhile isNameCharacter
  let ended := atGap rest || "?:,]\x7d%@\x60".toList.contains (rest.headD ' ')
  if name.isEmpty || !ended then none else some (String.ofList name, name.length)

/-- The value of a hexadecimal digit. -/
def hexValue? (character : Char) : Option Nat :=
  if character.isDigit then some (character.toNat - '0'.toNat)
  else if 'a' ≤ character ∧ character ≤ 'f' then some (character.toNat - 'a'.toNat + 10)
  else if 'A' ≤ character ∧ character ≤ 'F' then some (character.toNat - 'A'.toNat + 10)
  else none

/-- The number denoted by hexadecimal digits after the given one. -/
def hexNumber? (number : Nat) : List Char → Option Nat
  | [] => some number
  | character :: rest => do
      let digit ← hexValue? character
      hexNumber? (number * 16 + digit) rest

/-- Whether a character may stand in a tag without being escaped. -/
def isTagCharacter (verbatim : Bool) (character : Char) : Bool :=
  isNameCharacter character || ";/?:@&=+$.!~*'()".toList.contains character
    || (verbatim && ",[]".toList.contains character)

/-- The number of bytes behind the first byte of an encoded character. -/
def laterBytes? (first : Nat) : Option Nat :=
  if first < 0x80 then some 0
  else if first < 0xC0 then none
  else if first < 0xE0 then some 1
  else if first < 0xF0 then some 2
  else if first < 0xF8 then some 3
  else none

/-- The number of bytes that a character still lacks after a further byte. -/
def lackAfter? (byte : Nat) : Nat → Option Nat
  | 0 => laterBytes? byte
  | lack + 1 => if 0x80 ≤ byte ∧ byte < 0xC0 then some lack else none

/--
The bytes of a tag and the characters that they took.  A byte may be written by
its number, and then all bytes of its character have to be, of which so many are
still lacking.
-/
def tagBytes? (verbatim : Bool) (lack : Nat) : List Char → Option (Lexeme Tag)
  | '%' :: upper :: lower :: rest => do
      let byte ← hexNumber? 0 [upper, lower]
      let (bytes, count) ← tagBytes? verbatim (← lackAfter? byte lack) rest
      return (UInt8.ofNat byte :: bytes, count + 3)
  | character :: rest =>
      if character = '%' || lack ≠ 0 then none
      else if isTagCharacter verbatim character then do
        let (bytes, count) ← tagBytes? verbatim 0 rest
        return (UInt8.ofNat character.toNat :: bytes, count + 1)
      else some ([], 0)
  | [] => if lack = 0 then some ([], 0) else none

/-- A part of a tag, which ends before a zero byte. -/
def tagPart? (verbatim : Bool) (characters : List Char) : Option (Lexeme Tag) := do
  let (bytes, count) ← tagBytes? verbatim 0 characters
  return (bytes.takeWhile (· != 0), count)

/-- A handle: `!`, or a name between two `!`. -/
def handleLength (characters : List Char) : Nat :=
  match characters with
  | '!' :: rest =>
      let name := rest.takeWhile isNameCharacter
      match rest.dropWhile isNameCharacter with
      | '!' :: _ => name.length + 2
      | _ => 1
  | _ => 0

/-- A tag between angle brackets. -/
def verbatimTag? (characters : List Char) : Option (Lexeme TagName) := do
  let (suffix, count) ← tagPart? true characters
  if count = 0 then none
  else
    match characters.drop count with
    | '>' :: _ => some (⟨"", suffix⟩, count + 3)
    | _ => none

/-- A tag with a handle. -/
def shorthandTag? (characters : List Char) : Option (Lexeme TagName) := do
  let length := handleLength characters
  let handle := String.ofList (characters.take length)
  let (suffix, count) ← tagPart? false (characters.drop length)
  if 1 < length then
    if count = 0 then none else some (⟨handle, suffix⟩, length + count)
  else if suffix.isEmpty then some (⟨"", Bytes.ofText "!"⟩, 1 + count)
  else some (⟨"!", suffix⟩, 1 + count)

/-- A tag, which must be followed by a gap, or by a comma inside a collection. -/
def tagName? (inFlow : Bool) (characters : List Char) : Option (Lexeme TagName) := do
  let (name, count) ←
    match characters with
    | '!' :: '<' :: rest => verbatimTag? rest
    | _ => shorthandTag? characters
  let rest := characters.drop count
  if atGap rest || (inFlow && rest.head? == some ',') then some (name, count) else none

/-- The number of spaces and tabs at the front. -/
def blankCount (characters : List Char) : Nat :=
  (characters.takeWhile isSpaceOrTab).length

/-- A number of a version, of at most nine digits. -/
def versionNumber? (characters : List Char) : Option (Lexeme Nat) := do
  let digits := characters.takeWhile Char.isDigit
  if 9 < digits.length then none
  else return (← Digits.toNat? digits, digits.length)

/-- What follows the name of a version directive. -/
def versionDirective? (characters : List Char) : Option (Lexeme Token) := do
  let blanks := blankCount characters
  let (major, majorLength) ← versionNumber? (characters.drop blanks)
  match characters.drop (blanks + majorLength) with
  | '.' :: rest =>
      let (minor, minorLength) ← versionNumber? rest
      return (.versionDirective major minor, blanks + majorLength + 1 + minorLength)
  | _ => none

/-- A handle in a directive. -/
def directiveHandle? (characters : List Char) : Option (Lexeme String) :=
  let length := handleLength characters
  let unfinished := length == 1 && (characters.drop 1).head?.any isNameCharacter
  if length = 0 || unfinished then none
  else some (String.ofList (characters.take length), length)

/-- What follows the name of a tag directive. -/
def tagDirective? (characters : List Char) : Option (Lexeme Token) := do
  let blanks := blankCount characters
  let (handle, handleCount) ← directiveHandle? (characters.drop blanks)
  let afterHandle := blanks + handleCount
  let gap := blankCount (characters.drop afterHandle)
  let (front, frontCount) ← tagPart? true (characters.drop (afterHandle + gap))
  let count := afterHandle + gap + frontCount
  if gap = 0 || frontCount = 0 || !atGap (characters.drop count) then none
  else some (.tagDirective handle front, count)

/-- A directive, given the text after its `%`, up to the end of its line. -/
def directive? (characters : List Char) : Option (Lexeme Token) := do
  let name := characters.takeWhile isNameCharacter
  let rest := characters.drop name.length
  let (token, count) ←
    match String.ofList name with
    | "YAML" => if atGap rest then versionDirective? rest else none
    | "TAG" => if atGap rest then tagDirective? rest else none
    | _ => none
  let after := rest.drop count
  let blanks := blankCount after
  let comment := match after.drop blanks with
    | '#' :: text => 1 + (text.takeWhile fun character => !isBreak character).length
    | _ => 0
  if atLineEnd (after.drop (blanks + comment)) then
    return (token, name.length + count + blanks + comment)
  else none

end PricePublisher.Yaml
