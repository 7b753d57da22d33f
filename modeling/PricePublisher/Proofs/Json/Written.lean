import Mathlib.Data.List.Forall2
import PricePublisher.Proofs.Json.Documents
import PricePublisher.Proofs.Json.Numerals
import PricePublisher.Proofs.Json.Texts
import PricePublisher.Proofs.Keyed

/-!
# The written form of a value

What is written for a value is read as one document, if each number in it is written as
one numeral.  The document means the value again, if the numbers read back, the containers
are nested no deeper than may be read and the names in each object rise.
-/

namespace PricePublisher.Json

namespace Token

/-- A text has exactly these tokens. -/
def ReadsAs (written : List Char) (tokens : List Token) : Prop :=
  ∀ limit, written.length < limit → readAll? limit written = some tokens

/-- Characters put these tokens before those of what follows, unless it continues a numeral. -/
def Writes (written : List Char) (tokens : List Token) : Prop :=
  ∀ rest others, EndsNumeral rest → ReadsAs rest others →
    ReadsAs (written ++ rest) (tokens ++ others)

variable {written rest : List Char} {tokens others : List Token} {token : Token}

theorem ReadsAs.nil : ReadsAs [] [] := by
  intro limit enough
  cases limit with
  | zero => cases enough
  | succ limit => rfl

theorem ReadsAs.ofText? (reads : ReadsAs written tokens) : ofText? written = some tokens :=
  reads _ (Nat.lt_succ_self _)

theorem EndsNumeral.nil : EndsNumeral [] :=
  nofun

/-- A text whose first token is known has the tokens of the rest besides. -/
theorem ReadsAs.of_next
    {character : Char} (noSpace : isSpace character = false)
    (first : next? (character :: written) = some (token, rest))
    (shorter : rest.length ≤ written.length) (reads : ReadsAs rest others) :
    ReadsAs (character :: written) (token :: others) := by
  intro limit enough
  cases limit with
  | zero => cases enough
  | succ limit =>
      have left : rest.length < limit := by
        rw [List.length_cons] at enough
        omega
      rw [readAll?, List.dropWhile_cons_of_neg (by rw [noSpace]; exact nofun)]
      simp only [first, reads limit left, Option.bind_eq_bind, Option.bind_some,
        Option.pure_def]

/-- What is one token whatever follows writes this token. -/
theorem Writes.single
    {character : Char} (noSpace : isSpace character = false)
    (first : ∀ rest, EndsNumeral rest →
      next? (character :: (written ++ rest)) = some (token, rest)) :
    Writes (character :: written) [token] := by
  intro rest others ends reads
  apply ReadsAs.of_next noSpace (first rest ends) _ reads
  rw [List.length_append]
  exact Nat.le_add_left _ _

theorem Writes.text (text : String) :
    Writes (textChars text) [.text (TextUnit.ofText text)] :=
  .single (by decide) fun rest _ => next?_textChars text rest

theorem Writes.numeral
    {numeral : Numeral} (one : next? written = some (.numeral numeral, [])) :
    Writes written [.numeral numeral] := by
  have first : ∀ rest, EndsNumeral rest → next? (written ++ rest) = some (.numeral numeral, rest) :=
    fun rest ends => next?_append ends one
  have starts : ∃ character others, written = character :: others ∧
      isSpace character = false := by
    rcases unsigned_of_next? one with ⟨unsigned, rfl, _⟩ | read
    · exact ⟨'-', unsigned, rfl, rfl⟩
    · rcases digit_of_readUnsigned? read with ⟨digit, others, rfl, isDigit⟩
      refine ⟨digit, others, rfl, ?_⟩
      by_contra space
      simp only [isSpace, Bool.not_eq_false, Bool.or_eq_true, beq_iff_eq] at space
      rcases space with ((rfl | rfl) | rfl) | rfl <;> cases isDigit
  rcases starts with ⟨character, others, rfl, noSpace⟩
  exact .single noSpace first

/-- A mark is a token of its own and ends a numeral before it. -/
structure IsMark (mark : Char) (token : Token) : Prop where
  noSpace : isSpace mark = false
  ends : continuesNumeral mark = false
  one : ∀ rest, next? (mark :: rest) = some (token, rest)

theorem IsMark.comma : IsMark ',' .comma := ⟨rfl, rfl, fun _ => rfl⟩

theorem IsMark.colon : IsMark ':' .colon := ⟨rfl, rfl, fun _ => rfl⟩

theorem IsMark.openArray : IsMark '[' .openArray := ⟨rfl, rfl, fun _ => rfl⟩

theorem IsMark.closeArray : IsMark ']' .closeArray := ⟨rfl, rfl, fun _ => rfl⟩

theorem IsMark.openObject : IsMark '\x7b' .openObject := ⟨rfl, rfl, fun _ => rfl⟩

theorem IsMark.closeObject : IsMark '\x7d' .closeObject := ⟨rfl, rfl, fun _ => rfl⟩

theorem IsMark.cons {mark : Char} (isMark : IsMark mark token) (reads : ReadsAs rest others) :
    ReadsAs (mark :: rest) (token :: others) :=
  reads.of_next isMark.noSpace (isMark.one rest) (Nat.le_refl _)

theorem Writes.before
    {mark : Char} (writes : Writes written tokens) (isMark : IsMark mark token)
    (reads : ReadsAs rest others) :
    ReadsAs (written ++ mark :: rest) (tokens ++ token :: others) := by
  apply writes
  · rintro _ ⟨⟩
    exact isMark.ends
  · exact isMark.cons reads

/-- Parts with commas between them. -/
theorem Writes.separated
    {parts : List (List Char)} {tokens : List (List Token)}
    (written : List.Forall₂ Writes parts tokens) :
    Writes (commaSeparated parts) (Token.separated tokens) := by
  induction written with
  | nil => exact fun rest others _ reads => reads
  | @cons part piece parts pieces first others induction =>
      cases others with
      | nil => exact first
      | cons second more =>
          intro rest left ends reads
          have whole := first.before .comma (induction rest left ends reads)
          rw [commaSeparated, separated_cons, List.append_assoc, List.append_assoc]
          · exact whole
          · exact nofun

theorem Writes.array
    {parts : List (List Char)} {tokens : List (List Token)}
    (written : List.Forall₂ Writes parts tokens) :
    Writes (arrayChars parts) (.openArray :: (Token.separated tokens ++ [.closeArray])) := by
  intro rest others ends reads
  have items := (Writes.separated written).before .closeArray reads
  rw [arrayChars]
  simp only [List.cons_append, List.append_assoc, List.nil_append]
  exact IsMark.openArray.cons items

/-- A field is its name, a colon and its value. -/
theorem Writes.field (name : String) (writes : Writes written tokens) :
    Writes (textChars name ++ ':' :: written)
      (.text (TextUnit.ofText name) :: .colon :: tokens) := by
  intro rest others ends reads
  have value := writes rest others ends reads
  rw [List.append_assoc, List.cons_append]
  exact (Writes.text name).before .colon value

theorem Writes.object
    {fields : List (String × List Char)} {tokens : List (List Token)}
    (written : List.Forall₂
      (fun field tokens => Writes (textChars field.1 ++ ':' :: field.2) tokens) fields tokens) :
    Writes (objectChars fields) (.openObject :: (Token.separated tokens ++ [.closeObject])) := by
  intro rest others ends reads
  have parts : List.Forall₂ Writes
      (fields.map fun field => textChars field.1 ++ ':' :: field.2) tokens :=
    List.forall₂_map_left_iff.mpr written
  have items := (Writes.separated parts).before .closeObject reads
  rw [objectChars]
  simp only [List.cons_append, List.append_assoc, List.nil_append]
  exact IsMark.openObject.cons items

end Token

/-! ## The document of a value -/

/-- The numeral as which a number is written. -/
def Number.numeral (number : Number) : Numeral :=
  match Token.next? number.toChars with
  | some (.numeral numeral, _) => numeral
  | _ => ⟨false, [], none, none⟩

theorem Number.ReadsBack.isLegible {number : Number} (back : number.ReadsBack) :
    number.IsLegible := by
  rcases back with ⟨numeral, one, _⟩
  exact ⟨numeral, one⟩

theorem Number.IsLegible.next?_toChars {number : Number} (legible : number.IsLegible) :
    Token.next? number.toChars = some (.numeral number.numeral, []) := by
  rcases legible with ⟨numeral, one⟩
  rw [Number.numeral, one]

theorem Number.ReadsBack.toNumber?_numeral {number : Number} (back : number.ReadsBack) :
    number.numeral.toNumber? = some number := by
  rcases back with ⟨numeral, one, means⟩
  rw [Number.numeral, one]
  exact means

namespace Value

mutual

/-- The document as which a value is written. -/
def document : Value → Document
  | .null => .null
  | .boolean value => .boolean value
  | .number value => .numeral value.numeral
  | .text value => .text (TextUnit.ofText value)
  | .array items => .array (itemDocuments items)
  | .object fields => .object (fieldDocuments fields)

def itemDocuments : List Value → List Document
  | [] => []
  | item :: items => item.document :: itemDocuments items

def fieldDocuments : List (String × Value) → List (List TextUnit × Document)
  | [] => []
  | (name, value) :: fields => (TextUnit.ofText name, value.document) :: fieldDocuments fields

end

/-- All numbers in a value are written as numerals. -/
inductive Legible : Value → Prop
  | null : Legible .null
  | boolean (value : Bool) : Legible (.boolean value)
  | number {value : Number} (legible : value.IsLegible) : Legible (.number value)
  | text (value : String) : Legible (.text value)
  | array {items : List Value} (legible : ∀ item ∈ items, Legible item) :
      Legible (.array items)
  | object {fields : List (String × Value)} (legible : ∀ field ∈ fields, Legible field.2) :
      Legible (.object fields)

open Token (Writes)

mutual

/-- What is written for a value are the tokens of its document. -/
theorem Legible.writes : ∀ {value : Value}, Legible value →
    Writes value.toChars value.document.tokens
  | .null, _ => .single rfl fun _ _ => rfl
  | .boolean true, _ => .single rfl fun _ _ => rfl
  | .boolean false, _ => .single rfl fun _ _ => rfl
  | .number _, .number legible => .numeral legible.next?_toChars
  | .text value, _ => .text value
  | .array items, .array legible => .array (writes_items items legible)
  | .object fields, .object legible => .object (writes_fields fields legible)

theorem writes_items : ∀ (items : List Value), (∀ item ∈ items, Legible item) →
    List.Forall₂ Writes (itemsToChars items) (Document.itemTokens (itemDocuments items))
  | [], _ => .nil
  | item :: items, legible =>
      .cons (legible item List.mem_cons_self).writes
        (writes_items items fun other member => legible other (List.mem_cons_of_mem _ member))

theorem writes_fields : ∀ (fields : List (String × Value)), (∀ field ∈ fields, Legible field.2) →
    List.Forall₂ (fun field tokens => Writes (textChars field.1 ++ ':' :: field.2) tokens)
      (fieldsToChars fields) (Document.fieldTokens (fieldDocuments fields))
  | [], _ => .nil
  | (name, value) :: fields, legible =>
      .cons ((legible (name, value) List.mem_cons_self).writes.field name)
        (writes_fields fields fun other member => legible other (List.mem_cons_of_mem _ member))

end

/-- What is written for a value is read as its document. -/
theorem Legible.ofText?_toText {value : Value} (legible : value.Legible) :
    Document.ofText? value.toText = some value.document := by
  have reads := legible.writes [] [] .nil .nil
  rw [List.append_nil, List.append_nil] at reads
  rw [Document.ofText?, toText, String.toList_ofList]
  exact Document.ofChars?_of_tokens reads.ofText?

/-! ## The meaning of the document -/

/--
A value that can be read back where containers may nest so deep: the names in its objects
rise, and its numbers read back.
-/
inductive ReadsWithin : Nat → Value → Prop
  | null (room : Nat) : ReadsWithin room .null
  | boolean (room : Nat) (value : Bool) : ReadsWithin room (.boolean value)
  | number (room : Nat) {value : Number} (back : value.ReadsBack) :
      ReadsWithin room (.number value)
  | text (room : Nat) (value : String) : ReadsWithin room (.text value)
  | array {room : Nat} {items : List Value} (within : ∀ item ∈ items, ReadsWithin room item) :
      ReadsWithin (room + 1) (.array items)
  | object {room : Nat} {fields : List (String × Value)} (ascending : Keyed.Ascending fields)
      (within : ∀ field ∈ fields, ReadsWithin room field.2) :
      ReadsWithin (room + 1) (.object fields)

theorem ReadsWithin.legible {room : Nat} {value : Value} (within : ReadsWithin room value) :
    value.Legible := by
  induction within with
  | null room => exact .null
  | boolean room value => exact .boolean value
  | number room back => exact .number back.isLegible
  | text room value => exact .text value
  | array within induction => exact .array induction
  | object ascending within induction => exact .object induction

mutual

/-- The document of a value means the value. -/
theorem ReadsWithin.build?_document : ∀ {value : Value} {room : Nat}, ReadsWithin room value →
    value.document.build? room = some value
  | .null, _, _ => rfl
  | .boolean _, _, _ => rfl
  | .number value, room, .number _ back => by
      rw [document, Document.build?, back.toNumber?_numeral]
      rfl
  | .text value, room, _ => by
      rw [document, Document.build?, TextUnit.toText?_ofText]
      rfl
  | .array items, _, @ReadsWithin.array room _ within => by
      rw [document, Document.build?, buildItems?_documents items within]
      rfl
  | .object fields, _, @ReadsWithin.object room _ ascending within => by
      rw [document, Document.build?, buildFields?_documents fields within, Option.map_some,
        ascending.ofList_eq]

theorem buildItems?_documents : ∀ (items : List Value) {room : Nat},
    (∀ item ∈ items, ReadsWithin room item) →
    Document.buildItems? room (itemDocuments items) = some items
  | [], _, _ => rfl
  | item :: items, room, within => by
      rw [itemDocuments, Document.buildItems?,
        (within item List.mem_cons_self).build?_document,
        buildItems?_documents items fun other member =>
          within other (List.mem_cons_of_mem _ member)]
      rfl

theorem buildFields?_documents : ∀ (fields : List (String × Value)) {room : Nat},
    (∀ field ∈ fields, ReadsWithin room field.2) →
    Document.buildFields? room (fieldDocuments fields) = some fields
  | [], _, _ => rfl
  | (name, value) :: fields, room, within => by
      rw [fieldDocuments, Document.buildFields?, TextUnit.toText?_ofText,
        (within (name, value) List.mem_cons_self).build?_document,
        buildFields?_documents fields fun other member =>
          within other (List.mem_cons_of_mem _ member)]
      rfl

end

end Value

end PricePublisher.Json
