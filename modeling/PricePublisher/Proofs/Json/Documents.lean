import PricePublisher.Json.Document

/-!
# The tokens of a document

A document has one sequence of tokens, with commas between its parts.  Reading this
sequence gives back the document and leaves what follows, as soon as there is room for
two readings for each token.
-/

namespace PricePublisher.Json

/-- Parts with commas between them. -/
def Token.separated : List (List Token) → List Token
  | [] => []
  | [part] => part
  | part :: parts => part ++ .comma :: separated parts

theorem Token.separated_cons (part next : List Token) (parts : List (List Token)) :
    separated (part :: next :: parts) = part ++ .comma :: separated (next :: parts) :=
  rfl

namespace Document

open Token (separated separated_cons)

mutual

/-- The tokens of a document. -/
def tokens : Document → List Token
  | .null => [.null]
  | .boolean value => [.boolean value]
  | .numeral value => [.numeral value]
  | .text units => [.text units]
  | .array items => .openArray :: (separated (itemTokens items) ++ [.closeArray])
  | .object fields => .openObject :: (separated (fieldTokens fields) ++ [.closeObject])

def itemTokens : List Document → List (List Token)
  | [] => []
  | item :: items => item.tokens :: itemTokens items

def fieldTokens : List (List TextUnit × Document) → List (List Token)
  | [] => []
  | (name, document) :: fields =>
      (.text name :: .colon :: document.tokens) :: fieldTokens fields

end

/-- No document starts with a closing bracket. -/
theorem tokens_eq_cons (document : Document) :
    ∃ token others, document.tokens = token :: others ∧ token ≠ .closeArray := by
  cases document with
  | _ =>
      rw [tokens]
      exact ⟨_, _, rfl, nofun⟩

theorem readItems?_cons
    {room : Nat} {tokens rest : List Token} {item : Document} {items : List Document}
    {left : List Token} (first : readValue? room tokens = some (item, .comma :: rest))
    (others : readItems? room rest = some (items, left)) :
    readItems? (room + 1) tokens = some (item :: items, left) := by
  simp only [readItems?, first, others, Option.map_some]

theorem readItems?_single
    {room : Nat} {tokens rest : List Token} {item : Document}
    (last : readValue? room tokens = some (item, .closeArray :: rest)) :
    readItems? (room + 1) tokens = some ([item], rest) := by
  simp only [readItems?, last]

theorem readFields?_cons
    {room : Nat} {name : List TextUnit} {tokens rest left : List Token} {document : Document}
    {fields : List (List TextUnit × Document)}
    (first : readValue? room tokens = some (document, .comma :: rest))
    (others : readFields? room rest = some (fields, left)) :
    readFields? (room + 1) (.text name :: .colon :: tokens) =
      some ((name, document) :: fields, left) := by
  simp only [readFields?, first, others, Option.map_some]

theorem readFields?_single
    {room : Nat} {name : List TextUnit} {tokens rest : List Token} {document : Document}
    (last : readValue? room tokens = some (document, .closeObject :: rest)) :
    readFields? (room + 1) (.text name :: .colon :: tokens) = some ([(name, document)], rest) := by
  simp only [readFields?, last]

/-- An array that does not end at once is read item by item. -/
theorem readValue?_array
    {room : Nat} {token : Token} {tokens left : List Token} {items : List Document}
    (goesOn : token ≠ .closeArray)
    (read : readItems? room (token :: tokens) = some (items, left)) :
    readValue? (room + 1) (.openArray :: token :: tokens) = some (.array items, left) := by
  cases token with
  | closeArray => exact absurd rfl goesOn
  | _ => simp only [readValue?, read, Option.map_some]

theorem readValue?_object
    {room : Nat} {name : List TextUnit} {tokens left : List Token}
    {fields : List (List TextUnit × Document)}
    (read : readFields? room (.text name :: tokens) = some (fields, left)) :
    readValue? (room + 1) (.openObject :: .text name :: tokens) =
      some (.object fields, left) := by
  simp only [readValue?, read, Option.map_some]

mutual

/-- The tokens of a document are read as the document, whatever follows. -/
theorem readValue?_tokens :
    ∀ (document : Document) (rest : List Token) (room : Nat),
      2 * document.tokens.length ≤ room →
      readValue? room (document.tokens ++ rest) = some (document, rest)
  | document, _, 0, enough => by
      rcases document.tokens_eq_cons with ⟨token, others, equal, _⟩
      rw [equal] at enough
      cases enough
  | .null, _, _ + 1, _ => by rw [tokens, List.singleton_append, readValue?]
  | .boolean _, _, _ + 1, _ => by rw [tokens, List.singleton_append, readValue?]
  | .numeral _, _, _ + 1, _ => by rw [tokens, List.singleton_append, readValue?]
  | .text _, _, _ + 1, _ => by rw [tokens, List.singleton_append, readValue?]
  | .array [], _, _ + 1, _ => by rw [tokens, itemTokens]; rfl
  | .object [], _, _ + 1, _ => by rw [tokens, fieldTokens]; rfl
  | .array (item :: items), rest, room + 1, enough => by
      rw [tokens] at enough ⊢
      simp only [List.length_cons, List.length_append, List.length_nil] at enough
      have read := readItems?_tokens item items rest room (by omega)
      rcases item.tokens_eq_cons with ⟨token, others, equal, goesOn⟩
      have starts : ∃ others, separated (itemTokens (item :: items)) = token :: others := by
        cases items <;> simp [itemTokens, separated, equal]
      rcases starts with ⟨more, starts⟩
      rw [starts, List.cons_append] at read
      simp only [starts, List.cons_append, List.append_assoc, List.nil_append]
      exact readValue?_array goesOn read
  | .object ((name, document) :: fields), rest, room + 1, enough => by
      rw [tokens] at enough ⊢
      simp only [List.length_cons, List.length_append, List.length_nil] at enough
      have read := readFields?_tokens name document fields rest room (by omega)
      have starts : ∃ others,
          separated (fieldTokens ((name, document) :: fields)) = .text name :: others := by
        cases fields <;> simp [fieldTokens, separated]
      rcases starts with ⟨more, starts⟩
      rw [starts, List.cons_append] at read
      simp only [starts, List.cons_append, List.append_assoc, List.nil_append]
      exact readValue?_object read

theorem readItems?_tokens :
    ∀ (item : Document) (items : List Document) (rest : List Token) (room : Nat),
      2 * (separated (itemTokens (item :: items))).length + 1 ≤ room →
      readItems? room (separated (itemTokens (item :: items)) ++ .closeArray :: rest) =
        some (item :: items, rest)
  | item, [], rest, room + 1, enough => by
      simp only [itemTokens, separated] at enough ⊢
      exact readItems?_single (readValue?_tokens item (.closeArray :: rest) room (by omega))
  | item, next :: items, rest, room + 1, enough => by
      rw [itemTokens, itemTokens, separated_cons, ← itemTokens] at enough ⊢
      simp only [List.length_append, List.length_cons] at enough
      rw [List.append_assoc, List.cons_append]
      exact readItems?_cons (readValue?_tokens item _ room (by omega))
        (readItems?_tokens next items rest room (by omega))

theorem readFields?_tokens :
    ∀ (name : List TextUnit) (document : Document) (fields : List (List TextUnit × Document))
      (rest : List Token) (room : Nat),
      2 * (separated (fieldTokens ((name, document) :: fields))).length + 1 ≤ room →
      readFields? room
          (separated (fieldTokens ((name, document) :: fields)) ++ .closeObject :: rest) =
        some ((name, document) :: fields, rest)
  | name, document, [], rest, room + 1, enough => by
      simp only [fieldTokens, separated, List.length_cons, List.cons_append] at enough ⊢
      exact readFields?_single
        (readValue?_tokens document (.closeObject :: rest) room (by omega))
  | name, document, (next, another) :: fields, rest, room + 1, enough => by
      rw [fieldTokens, fieldTokens, separated_cons, ← fieldTokens] at enough ⊢
      simp only [List.length_append, List.length_cons] at enough
      simp only [List.append_assoc, List.cons_append]
      exact readFields?_cons (readValue?_tokens document _ room (by omega))
        (readFields?_tokens next another fields rest room (by omega))

end

/-- A text with the tokens of a document is read as the document. -/
theorem ofChars?_of_tokens
    {written : List Char} {document : Document}
    (lexed : Token.ofText? written = some document.tokens) :
    ofChars? written = some document := by
  have read := readValue?_tokens document [] (2 * document.tokens.length) (Nat.le_refl _)
  rw [List.append_nil] at read
  simp only [ofChars?, lexed, Option.bind_eq_bind, Option.bind_some, read]

end Document

end PricePublisher.Json
