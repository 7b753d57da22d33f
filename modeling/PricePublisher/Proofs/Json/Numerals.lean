import Mathlib.Data.List.TakeDrop
import Mathlib.Data.List.TakeWhile
import PricePublisher.Json.Printer
import PricePublisher.Json.Reader
import PricePublisher.Proofs.Decimal.Digits

/-!
# Written numbers

A numeral ends where no digit, point or exponent follows; what follows it then does not
change how it is read.  A number reads back if its written form is one numeral that
stands for it.  All whole numbers that are held exactly do.
-/

namespace PricePublisher.Json

namespace Token

/-- Whether a character can continue a numeral. -/
def continuesNumeral (character : Char) : Bool :=
  character.isDigit || character == '.' || character == 'e' || character == 'E'

/-- Nothing that can continue a numeral comes next. -/
def EndsNumeral (rest : List Char) : Prop :=
  ∀ character ∈ rest.head?, continuesNumeral character = false

variable {rest : List Char}

/-- The digits at the front of a text end before what cannot continue a numeral. -/
theorem span_append (ends : EndsNumeral rest) (text : List Char) :
    (text ++ rest).span Char.isDigit =
      ((text.span Char.isDigit).1, (text.span Char.isDigit).2 ++ rest) := by
  simp only [List.span_eq_takeWhile_dropWhile]
  induction text with
  | nil =>
      cases rest with
      | nil => rfl
      | cons character others =>
          have noDigit : character.isDigit = false := by
            have stops := ends character rfl
            simp only [continuesNumeral, Bool.or_eq_false_iff] at stops
            exact stops.1.1.1
          simp [noDigit]
  | cons character others induction =>
      cases digit : character.isDigit with
      | false => simp [digit]
      | true =>
          simp only [Prod.mk.injEq] at induction
          simp [digit, induction]

theorem readFraction?_of_ne
    {text : List Char} (noPoint : text.head? ≠ some '.') :
    readFraction? text = some (none, text) := by
  cases text with
  | nil => rfl
  | cons character others =>
      rw [readFraction?]
      rintro digits equal
      cases equal
      exact noPoint rfl

theorem readFraction?_append
    (ends : EndsNumeral rest) {text left : List Char} {fraction : Option (List Char)}
    (read : readFraction? text = some (fraction, left)) :
    readFraction? (text ++ rest) = some (fraction, left ++ rest) := by
  by_cases point : text.head? = some '.'
  · rcases text with _ | ⟨character, others⟩
    · cases point
    · cases point
      simp only [readFraction?, List.cons_append, span_append ends] at read ⊢
      split at read
      · cases read
      · next digits after notEmpty spanned =>
          cases read
          simp only [spanned]
  · rw [readFraction?_of_ne point] at read
    cases read
    apply readFraction?_of_ne
    cases text with
    | cons character others => exact point
    | nil =>
        intro starts
        cases ends '.' starts

theorem readExponent?_of_ne
    {text : List Char}
    (noExponent : ∀ letter ∈ text.head?, (letter == 'e' || letter == 'E') = false) :
    readExponent? text = some (none, text) := by
  cases text with
  | nil => rfl
  | cons letter others =>
      have other := noExponent letter rfl
      simp only [readExponent?, other, Bool.false_eq_true, if_false]

/-- Whether an exponent is negative, and what follows its sign. -/
def exponentSign : List Char → Bool × List Char
  | '+' :: digits => (false, digits)
  | '-' :: digits => (true, digits)
  | digits => (false, digits)

theorem exponentSign_append {text : List Char} (notEmpty : text ≠ []) :
    exponentSign (text ++ rest) = ((exponentSign text).1, (exponentSign text).2 ++ rest) := by
  cases text with
  | nil => exact absurd rfl notEmpty
  | cons character others =>
      by_cases plus : character = '+'
      · subst plus
        rfl
      · by_cases minus : character = '-'
        · subst minus
          rfl
        · have unsigned : ∀ text, exponentSign (character :: text) =
              (false, character :: text) := by
            intro text
            rw [exponentSign] <;> simp [plus, minus]
          rw [List.cons_append, unsigned, unsigned, List.cons_append]

theorem readExponent?_cons
    {letter : Char} (exponent : (letter == 'e' || letter == 'E') = true) (text : List Char) :
    readExponent? (letter :: text) =
      match (exponentSign text).2.span Char.isDigit with
      | ([], _) => none
      | (digits, left) => some (some ((exponentSign text).1, digits), left) := by
  simp only [readExponent?, exponent, if_true]
  rfl

theorem readExponent?_append
    (ends : EndsNumeral rest) {text left : List Char} {exponent : Option (Bool × List Char)}
    (read : readExponent? text = some (exponent, left)) :
    readExponent? (text ++ rest) = some (exponent, left ++ rest) := by
  cases text with
  | nil =>
      cases read
      apply readExponent?_of_ne
      intro letter starts
      have stops := ends letter starts
      simp only [continuesNumeral, Bool.or_assoc, Bool.or_eq_false_iff] at stops
      simp [stops]
  | cons letter others =>
      cases written : letter == 'e' || letter == 'E' with
      | false =>
          rw [readExponent?_of_ne] at read
          · cases read
            apply readExponent?_of_ne
            rintro _ ⟨⟩
            exact written
          · rintro _ ⟨⟩
            exact written
      | true =>
          rw [readExponent?_cons written] at read
          have notEmpty : others ≠ [] := by
            rintro rfl
            cases read
          rw [List.cons_append, readExponent?_cons written, exponentSign_append notEmpty]
          simp only [span_append ends]
          split at read
          · cases read
          · next digits after nonempty spanned =>
              cases read
              simp only [spanned]

/-- The digits before the point, if they are well written. -/
def whole? : List Char → Option (List Char)
  | [] => none
  | '0' :: digits => if digits.isEmpty then some ['0'] else none
  | digits => some digits

theorem readUnsigned?_eq (negative : Bool) (written : List Char) :
    readUnsigned? negative written = do
      let whole ← whole? (written.span Char.isDigit).1
      let (fraction, left) ← readFraction? (written.span Char.isDigit).2
      let (exponent, left) ← readExponent? left
      return (⟨negative, whole, fraction, exponent⟩, left) := by
  unfold readUnsigned?
  generalize written.span Char.isDigit = spanned
  rcases spanned with ⟨digits, left⟩
  cases digits with
  | nil => rfl
  | cons first digits =>
      -- The reader's own match refuses a zero before other digits.
      by_cases zero : first = '0'
      · subst zero
        cases digits <;> rfl
      · have kept : whole? (first :: digits) = some (first :: digits) := by
          rw [whole?]
          · intro equal
            cases equal
          · intro others equal
            cases equal
            exact zero rfl
        rw [kept]
        simp only
        split
        · next same => cases same
        · next same =>
            cases same
            exact absurd rfl zero
        · next same =>
            cases same
            rfl

theorem readUnsigned?_append
    (ends : EndsNumeral rest) {negative : Bool} {written left : List Char} {numeral : Numeral}
    (read : readUnsigned? negative written = some (numeral, left)) :
    readUnsigned? negative (written ++ rest) = some (numeral, left ++ rest) := by
  rw [readUnsigned?_eq] at read ⊢
  simp only [Option.bind_eq_bind, Option.bind_eq_some_iff] at read
  rcases read with ⟨whole, wholeRead, ⟨fraction, afterFraction⟩, fractionRead,
    ⟨exponent, afterExponent⟩, exponentRead, done⟩
  cases done
  rw [span_append ends]
  simp only [wholeRead, readFraction?_append ends fractionRead,
    readExponent?_append ends exponentRead, Option.bind_eq_bind, Option.bind_some,
    Option.pure_def]

/-- A numeral has a digit before its point. -/
theorem digit_of_readUnsigned?
    {negative : Bool} {written left : List Char} {numeral : Numeral}
    (read : readUnsigned? negative written = some (numeral, left)) :
    ∃ digit others, written = digit :: others ∧ digit.isDigit = true := by
  cases written with
  | nil => cases read
  | cons digit others =>
      refine ⟨digit, others, rfl, ?_⟩
      by_contra noDigit
      rw [readUnsigned?_eq, List.span_eq_takeWhile_dropWhile,
        List.takeWhile_cons_of_neg noDigit] at read
      cases read

/-- What starts with a digit is no other token than a numeral. -/
theorem next?_of_digit {digit : Char} (isDigit : digit.isDigit = true) (others : List Char) :
    next? (digit :: others) =
      (readUnsigned? false (digit :: others)).map fun read => (.numeral read.1, read.2) := by
  have different : ∀ character : Char, character.isDigit = false → digit ≠ character := by
    rintro _ noDigit rfl
    rw [isDigit] at noDigit
    cases noDigit
  rw [next?]
  all_goals
    first
    | rfl
    | rintro others equal
      injection equal with same
      exact different _ (by decide) same

/-- A numeral is a sign, if it is negative, and what starts with a digit. -/
theorem unsigned_of_next?
    {written left : List Char} {numeral : Numeral}
    (read : next? written = some (.numeral numeral, left)) :
    (∃ unsigned, written = '-' :: unsigned ∧
        readUnsigned? true unsigned = some (numeral, left)) ∨
      readUnsigned? false written = some (numeral, left) := by
  have numeral_of_map : ∀ read : Option (Numeral × List Char),
      read.map (fun read => (Token.numeral read.1, read.2)) = some (.numeral numeral, left) →
        read = some (numeral, left) := by
    intro read mapped
    rcases Option.map_eq_some_iff.mp mapped with ⟨⟨_, _⟩, rfl, same⟩
    cases same
    rfl
  rw [next?.eq_def] at read
  split at read
  case h_10 => simp at read
  case h_11 unsigned => exact .inl ⟨unsigned, rfl, numeral_of_map _ read⟩
  case h_12 => exact .inr (numeral_of_map _ read)
  all_goals cases read

theorem next?_append
    (ends : EndsNumeral rest) {written left : List Char} {numeral : Numeral}
    (read : next? written = some (.numeral numeral, left)) :
    next? (written ++ rest) = some (.numeral numeral, left ++ rest) := by
  rcases unsigned_of_next? read with ⟨unsigned, rfl, unsignedRead⟩ | unsignedRead
  · rw [List.cons_append, next?, readUnsigned?_append ends unsignedRead]
    rfl
  · rcases digit_of_readUnsigned? unsignedRead with ⟨digit, others, rfl, isDigit⟩
    rw [List.cons_append, next?_of_digit isDigit, ← List.cons_append,
      readUnsigned?_append ends unsignedRead]
    rfl

end Token

/-! ## Numbers -/

/-- The written form of a number is one numeral. -/
def Number.IsLegible (number : Number) : Prop :=
  ∃ numeral, Token.next? number.toChars = some (.numeral numeral, [])

/-- The written form of a number is one numeral that stands for it. -/
def Number.ReadsBack (number : Number) : Prop :=
  ∃ numeral, Token.next? number.toChars = some (.numeral numeral, []) ∧
    numeral.toNumber? = some number

theorem Token.whole?_ofNat (number : Nat) :
    whole? (Digits.ofNat number) = some (Digits.ofNat number) := by
  rcases Nat.eq_zero_or_pos number with rfl | positive
  · rfl
  · rcases Digits.ofNat_eq_cons positive with ⟨first, others, digits, noZero⟩
    rw [digits, whole?]
    · simp
    · intro zeros equal
      cases equal
      exact noZero rfl

theorem Token.readUnsigned?_ofNat (negative : Bool) (number : Nat) :
    readUnsigned? negative (Digits.ofNat number) =
      some (⟨negative, Digits.ofNat number, none, none⟩, []) := by
  have digits : ∀ character ∈ Digits.ofNat number, character.isDigit = true :=
    fun _ => Digits.isDigit_of_mem_ofNat
  rw [readUnsigned?_eq, List.span_eq_takeWhile_dropWhile, List.takeWhile_eq_self_iff.mpr digits,
    List.dropWhile_eq_nil_iff.mpr digits, whole?_ofNat]
  rfl

/-- Digits that fit are all gathered. -/
theorem Numeral.gatherWhole_of_lt
    {significand : Nat} {digits : List Char}
    (fits : Digits.valueAfter significand digits < significandBound) :
    gatherWhole significand digits = ⟨Digits.valueAfter significand digits, 0⟩ := by
  induction digits generalizing significand with
  | nil => rfl
  | cons character others induction =>
      rw [Digits.valueAfter_cons] at fits ⊢
      have first := Nat.lt_of_le_of_lt (Digits.le_valueAfter _ others) fits
      rw [gatherWhole, if_pos first]
      exact induction fits

/-- Whole numbers that are held exactly read back. -/
theorem Number.ReadsBack.integer {value : Int} (exact : IsExactInteger value) :
    ReadsBack (.integer value) := by
  rcases exact with ⟨lower, upper⟩
  have significand := Digits.valueAfter_ofNat value.natAbs
  have fits : Digits.valueAfter 0 (Digits.ofNat value.natAbs) < Numeral.significandBound := by
    rw [significand, Numeral.significandBound]
    simp only [Nat.pow_eq] at lower upper ⊢
    omega
  have gathered := Numeral.gatherWhole_of_lt fits
  rw [significand] at gathered
  by_cases negative : value < 0
  · refine ⟨⟨true, Digits.ofNat value.natAbs, none, none⟩, ?_, ?_⟩
    · rw [toChars, integerChars, if_pos negative, Token.next?, Token.readUnsigned?_ofNat]
      rfl
    · have held : 0 < value.natAbs ∧ value.natAbs ≤ Nat.pow 2 63 := by
        constructor
        · omega
        · simp only [Nat.pow_eq] at lower ⊢
          omega
      have whole : Numeral.toInt? ⟨true, Digits.ofNat value.natAbs, none, none⟩ =
          some (-(value.natAbs : Int)) := by
        simp [Numeral.toInt?, gathered, Numeral.isWhole, held.1, held.2]
      rw [Numeral.toNumber?, whole]
      simp only [Option.some.injEq, integer.injEq]
      omega
  · refine ⟨⟨false, Digits.ofNat value.natAbs, none, none⟩, ?_, ?_⟩
    · rcases Token.digit_of_readUnsigned? (Token.readUnsigned?_ofNat false value.natAbs) with
        ⟨digit, others, digits, isDigit⟩
      rw [toChars, integerChars, if_neg negative, digits, Token.next?_of_digit isDigit, ← digits,
        Token.readUnsigned?_ofNat]
      rfl
    · have whole : Numeral.toInt? ⟨false, Digits.ofNat value.natAbs, none, none⟩ =
          some (value.natAbs : Int) := by
        simp [Numeral.toInt?, gathered, Numeral.isWhole]
      rw [Numeral.toNumber?, whole]
      simp only [Option.some.injEq, integer.injEq]
      omega

end PricePublisher.Json
