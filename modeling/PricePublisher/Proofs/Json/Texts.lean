import PricePublisher.Json.Printer
import PricePublisher.Json.Reader

/-!
# Written texts

Every character of a text is written so that it reads as itself, whatever follows: most
stand for themselves, some are escaped by a letter, and the control characters that are
left are escaped as code units.  Therefore a written text reads up to its closing quote
as units that resolve to the text.
-/

namespace PricePublisher.Json

/-- The unit as which a written character is read. -/
def TextUnit.ofChar (character : Char) : TextUnit :=
  if character.toNat < 0x20 ∧ character ∉ ['\x08', '\x0c', '\n', '\r', '\t'] then
    .codeUnit character.toNat
  else .character character

/-- The units as which a written text is read. -/
def TextUnit.ofText (text : String) : List TextUnit :=
  text.toList.map TextUnit.ofChar

namespace Token

theorem hexValue?_lowerHexDigit {digit : Nat} (small : digit < 16) :
    hexValue? (lowerHexDigit digit) = some digit := by
  have all : ∀ digit < 16, hexValue? (lowerHexDigit digit) = some digit := by decide
  exact all digit small

/-- A control character is read from the two digits of its code. -/
theorem codeUnit?_of_control {code : Nat} (control : code < 0x20) :
    codeUnit? '0' '0' (lowerHexDigit (code / 16)) (lowerHexDigit (code % 16)) = some code := by
  have zero : hexValue? '0' = some 0 := by decide
  have high : hexValue? (lowerHexDigit (code / 16)) = some (code / 16) :=
    hexValue?_lowerHexDigit (by omega)
  have low : hexValue? (lowerHexDigit (code % 16)) = some (code % 16) :=
    hexValue?_lowerHexDigit (by omega)
  simp only [codeUnit?, zero, high, low, Option.bind_eq_bind, Option.bind_some,
    Option.pure_def, Option.some.injEq]
  omega

/-- How one unit of a text may be written. -/
inductive WritesUnit : List Char → TextUnit → Prop
  | plain {character : Char} (above : 0x20 ≤ character.toNat) (quote : character ≠ '"')
      (backslash : character ≠ '\\') : WritesUnit [character] (.character character)
  | letter {letter character : Char} (escape : escaped? letter = some character) :
      WritesUnit ['\\', letter] (.character character)
  | control {code : Nat} (below : code < 0x20) :
      WritesUnit
        ['\\', 'u', '0', '0', lowerHexDigit (code / 16), lowerHexDigit (code % 16)]
        (.codeUnit code)

/-- A written unit is read as the first unit of the text, whatever follows. -/
theorem WritesUnit.readText?_append
    {written : List Char} {unit : TextUnit} (writes : WritesUnit written unit)
    (rest : List Char) :
    readText? (written ++ rest) =
      (readText? rest).map fun read => (unit :: read.1, read.2) := by
  cases writes with
  | @plain character above quote backslash =>
      have accepted : ¬ (decide (character.toNat < 0x20) || character == '\\') = true := by
        simp [backslash, Nat.not_lt.mpr above]
      rw [List.singleton_append, readText?, if_neg accepted]
      · cases readText? rest <;> rfl
      · simp [quote]
      · simp [backslash]
      · simp [backslash]
  | @letter letter character escape =>
      have noUnit : letter ≠ 'u' := by
        rintro rfl
        cases escape
      rw [List.cons_append, List.singleton_append, readText?]
      · simp only [escape]
        cases readText? rest <;> rfl
      · simp [noUnit]
  | @control code below =>
      simp only [List.cons_append, List.nil_append]
      rw [readText?]
      simp only [codeUnit?_of_control below]
      cases readText? rest <;> rfl

theorem writesUnit_escapeChar (character : Char) :
    WritesUnit (escapeChar character) (TextUnit.ofChar character) := by
  unfold escapeChar
  by_cases letter : character ∈ ['"', '\\', '\x08', '\x0c', '\n', '\r', '\t']
  · simp only [List.mem_cons, List.not_mem_nil, or_false] at letter
    rcases letter with rfl | rfl | rfl | rfl | rfl | rfl | rfl <;> exact .letter rfl
  · simp only [List.mem_cons, List.not_mem_nil, or_false, not_or] at letter
    rcases letter with ⟨quote, backslash, back, feed, line, carriage, tab⟩
    rw [if_neg quote, if_neg backslash, if_neg back, if_neg feed, if_neg line,
      if_neg carriage, if_neg tab]
    by_cases control : character.toNat < 0x20
    · have unit : TextUnit.ofChar character = .codeUnit character.toNat := by
        simp [TextUnit.ofChar, control, back, feed, line, carriage, tab]
      rw [if_pos control, unit]
      exact .control control
    · have unit : TextUnit.ofChar character = .character character := by
        simp [TextUnit.ofChar, control]
      rw [if_neg control, unit]
      exact .plain (Nat.le_of_not_lt control) quote backslash

/-- A written text reads up to its closing quote, whatever follows. -/
theorem readText?_escaped (characters : List Char) (rest : List Char) :
    readText? (characters.flatMap escapeChar ++ '"' :: rest) =
      some (characters.map TextUnit.ofChar, rest) := by
  induction characters with
  | nil => rfl
  | cons character others induction =>
      rw [List.flatMap_cons, List.append_assoc,
        (writesUnit_escapeChar character).readText?_append, induction]
      rfl

/-- A written text is read as one token. -/
theorem next?_textChars (text : String) (rest : List Char) :
    next? (textChars text ++ rest) = some (.text (TextUnit.ofText text), rest) := by
  have whole : textChars text ++ rest =
      '"' :: (text.toList.flatMap escapeChar ++ '"' :: rest) := by
    simp [textChars]
  rw [whole, next?, readText?_escaped]
  rfl

end Token

namespace TextUnit

theorem resolve?_codeUnit {code : Nat} (plain : code < 0xD800) (units : List TextUnit) :
    resolve? (.codeUnit code :: units) =
      (resolve? units).map fun characters => Char.ofNat code :: characters := by
  have leading : isLeadingSurrogate code = false := by
    simp [isLeadingSurrogate]
    omega
  have trailing : isTrailingSurrogate code = false := by
    simp [isTrailingSurrogate]
    omega
  cases units with
  | nil => simp [resolve?, leading, trailing]
  | cons unit units =>
      cases unit with
      | character read => simp [resolve?, leading, trailing]
      | codeUnit next => simp [resolve?, leading, trailing]

theorem resolve?_cons_ofChar (character : Char) (units : List TextUnit) :
    resolve? (ofChar character :: units) = (resolve? units).map fun rest => character :: rest := by
  unfold ofChar
  split
  · next control =>
      rw [resolve?_codeUnit (Nat.lt_trans control.1 (by decide)), Char.ofNat_toNat]
  · rfl

theorem resolve?_ofChar (characters : List Char) :
    resolve? (characters.map ofChar) = some characters := by
  induction characters with
  | nil => rfl
  | cons character others induction =>
      rw [List.map_cons, resolve?_cons_ofChar, induction]
      rfl

/-- The units of a written text stand for the text. -/
@[simp]
theorem toText?_ofText (text : String) : toText? (ofText text) = some text := by
  rw [toText?, ofText, resolve?_ofChar]
  exact congrArg some text.ofList_toList

end TextUnit

end PricePublisher.Json
