import PricePublisher.Floating.Text
import PricePublisher.Proofs.Decimal.Reading
import PricePublisher.Proofs.Text.Trimming

/-!
# What the layouts of floating-point numbers look like

Without its sign a written number is made of digits with at most one point among them, and
in the exponential layout an exponent behind these.  No blank stands in it.
-/

namespace PricePublisher.Floating

open Decimal (ofPlain? ofScientific? ofParts? readFrom?)
open Digits (valueAfter)

variable {number : Float} {unsigned : List Char}

/-! ## Signs and blanks -/

theorem splitSign_withSign
    {first : Char} {others : List Char} (isDigit : first.isDigit) (number : Float) :
    Decimal.splitSign (withSign number (first :: others)) =
      (isNegative number, first :: others) := by
  rw [withSign]
  cases isNegative number with
  | true => rfl
  | false =>
      refine Decimal.splitSign.eq_3 _ ?_ ?_
      · rintro rest ⟨⟩
        cases isDigit
      · rintro rest ⟨⟩
        cases isDigit

theorem ofPlain?_withSign
    (starts : ∃ first others, unsigned = first :: others ∧ first.isDigit) (number : Float) :
    ofPlain? (withSign number unsigned) =
      (readFrom? .start unsigned).bind fun parts =>
        ofParts? (isNegative number && parts.1 != 0) parts.1
          (parts.2 % (scaleLimit + 1)) := by
  rcases starts with ⟨first, others, rfl, isDigit⟩
  rw [ofPlain?, splitSign_withSign isDigit]
  rfl

/-- The characters that occur in written numbers. -/
def isNumeral (character : Char) : Bool :=
  character.isDigit || character == '-' || character == '+' || character == '.' || character == 'e'

theorem isNumeral_of_isDigit {character : Char} (isDigit : character.isDigit) :
    isNumeral character := by
  simp [isNumeral, isDigit]

theorem not_isBlank_of_isNumeral {character : Char} (numeral : isNumeral character) :
    Text.isBlank character = false := by
  simp only [isNumeral, Bool.or_eq_true, beq_iff_eq] at numeral
  rcases numeral with (((isDigit | rfl) | rfl) | rfl) | rfl
  · have bounds := Char.isDigit_iff_toNat.mp isDigit
    have first : '0'.toNat = 48 := rfl
    have last : '9'.toNat = 57 := rfl
    simp only [Text.isBlank, Bool.or_eq_false_iff, Bool.and_eq_false_iff, decide_eq_false_iff_not,
      beq_eq_false_iff_ne]
    omega
  all_goals rfl

theorem trimChars_of_all_isNumeral {text : List Char} (numeral : text.all isNumeral) :
    Text.trimChars text = text :=
  Text.trimChars_of_visible fun character member =>
    not_isBlank_of_isNumeral (List.all_eq_true.mp numeral character member)

theorem ofText?_ofList {text : List Char} (numeral : text.all isNumeral) :
    Decimal.ofText? (String.ofList text) = (ofPlain? text <|> ofScientific? text) := by
  rw [Decimal.ofText?, String.toList_ofList, trimChars_of_all_isNumeral numeral]

theorem withSign_append (number : Float) (front rest : List Char) :
    withSign number (front ++ rest) = withSign number front ++ rest := by
  rw [withSign, withSign]
  split
  · rfl
  · rfl

theorem mem_withSign {character : Char} (member : character ∈ withSign number unsigned) :
    character = '-' ∨ character ∈ unsigned := by
  rw [withSign] at member
  split at member
  · exact List.mem_cons.mp member
  · exact .inr member

theorem all_isNumeral_withSign (numeral : unsigned.all isNumeral) (number : Float) :
    (withSign number unsigned).all isNumeral := by
  rw [List.all_eq_true] at numeral ⊢
  intro character member
  rcases mem_withSign member with rfl | member
  · rfl
  · exact numeral character member

theorem all_isNumeral_exponentChars (exponent : Int) :
    (Decimal.exponentChars exponent).all isNumeral := by
  have digits : (Digits.ofNat exponent.natAbs).all isNumeral := by
    rw [List.all_eq_true]
    exact fun _ member => isNumeral_of_isDigit (Digits.isDigit_of_mem_ofNat member)
  rw [Decimal.exponentChars, List.all_cons, List.all_cons, digits]
  split <;> rfl

/-! ## Digits with a point -/

/-- Digits with at most one point among them, so many of them behind it. -/
inductive Pointed (number : Nat) : (places : Nat) → List Char → Prop
  | digits {digits : List Char} (nonempty : digits ≠ []) (allDigits : digits.all Char.isDigit)
      (value : valueAfter 0 digits = number) : Pointed number 0 digits
  | between {whole fraction : List Char} (nonempty : whole ≠ [])
      (wholeDigits : whole.all Char.isDigit) (fractionDigits : fraction.all Char.isDigit)
      (value : valueAfter 0 (whole ++ fraction) = number) :
      Pointed number fraction.length (whole ++ '.' :: fraction)

namespace Pointed

variable {value places : Nat} {text : List Char}

theorem starts (pointed : Pointed value places text) :
    ∃ first others, text = first :: others ∧ first.isDigit := by
  cases pointed with
  | digits nonempty allDigits =>
      rcases List.exists_cons_of_ne_nil nonempty with ⟨first, others, rfl⟩
      rw [List.all_cons, Bool.and_eq_true] at allDigits
      exact ⟨first, others, rfl, allDigits.1⟩
  | between nonempty wholeDigits =>
      rcases List.exists_cons_of_ne_nil nonempty with ⟨first, others, rfl⟩
      rw [List.all_cons, Bool.and_eq_true] at wholeDigits
      exact ⟨first, _, List.cons_append, wholeDigits.1⟩

theorem isDigit_or_point (pointed : Pointed value places text) {character : Char}
    (member : character ∈ text) : character.isDigit ∨ character = '.' := by
  cases pointed with
  | digits nonempty allDigits => exact .inl (List.all_eq_true.mp allDigits character member)
  | between nonempty wholeDigits fractionDigits =>
      rcases List.mem_append.mp member with inWhole | inFraction
      · exact .inl (List.all_eq_true.mp wholeDigits character inWhole)
      · rcases List.mem_cons.mp inFraction with rfl | inFraction
        · exact .inr rfl
        · exact .inl (List.all_eq_true.mp fractionDigits character inFraction)

theorem all_isNumeral (pointed : Pointed value places text) : text.all isNumeral := by
  rw [List.all_eq_true]
  intro character member
  rcases pointed.isDigit_or_point member with isDigit | rfl
  · exact isNumeral_of_isDigit isDigit
  · rfl

theorem not_isExponentMark (pointed : Pointed value places text) {character : Char}
    (member : character ∈ text) : Decimal.isExponentMark character = false := by
  rcases pointed.isDigit_or_point member with isDigit | rfl
  · by_contra mark
    simp only [Decimal.isExponentMark, Bool.not_eq_false, Bool.or_eq_true, beq_iff_eq] at mark
    rcases mark with rfl | rfl <;> cases isDigit
  · rfl

theorem not_isExponentMark_withSign (pointed : Pointed value places text) (number : Float) :
    ∀ character ∈ withSign number text, Decimal.isExponentMark character = false := by
  intro character member
  rcases mem_withSign member with rfl | member
  · rfl
  · exact pointed.not_isExponentMark member

/-- Digits with a point are read up to the last place that is kept. -/
theorem readFrom? (pointed : Pointed value places text) (fits : value < mantissaBound) :
    Decimal.readFrom? .start text = some (Decimal.keptParts value places) := by
  cases pointed with
  | digits nonempty allDigits equal =>
      have read := Decimal.readFrom?_start nonempty allDigits []
      rw [List.append_nil, equal, if_pos fits] at read
      exact read
  | between nonempty wholeDigits fractionDigits equal =>
      rw [← equal] at fits ⊢
      exact Decimal.readFrom?_point_between nonempty wholeDigits fractionDigits fits

end Pointed

namespace DecimalMagnitude

variable {magnitude : DecimalMagnitude}

theorem positionalChars_of_nonneg (nonneg : 0 ≤ magnitude.exponent) :
    magnitude.positionalChars =
      Digits.ofNat (magnitude.digits * Nat.pow 10 magnitude.exponent.toNat) := by
  rw [positionalChars, if_pos nonneg]
  split
  next zero => rw [zero, Nat.zero_mul]
  next nonzero => rw [Digits.ofNat_mul_pow (Nat.pos_of_ne_zero nonzero)]

theorem pointed_positionalChars (negative : magnitude.exponent < 0) :
    Pointed magnitude.digits (-magnitude.exponent).toNat magnitude.positionalChars := by
  simp only [positionalChars, if_neg (Int.not_le.mpr negative)]
  have allDigits := Digits.all_isDigit_padded ((-magnitude.exponent).toNat + 1) magnitude.digits
  have long := Digits.length_le_padded ((-magnitude.exponent).toNat + 1) magnitude.digits
  have value := Digits.valueAfter_padded ((-magnitude.exponent).toNat + 1) magnitude.digits
  generalize Digits.padded ((-magnitude.exponent).toNat + 1) magnitude.digits = padded at *
  have places : (padded.drop (padded.length - (-magnitude.exponent).toNat)).length =
      (-magnitude.exponent).toNat := by
    rw [List.length_drop]
    omega
  have pointed := @Pointed.between magnitude.digits
    (padded.take (padded.length - (-magnitude.exponent).toNat))
    (padded.drop (padded.length - (-magnitude.exponent).toNat))
  rw [places, List.take_append_drop] at pointed
  refine pointed ?_ ?_ ?_ value
  · rw [← List.length_pos_iff, List.length_take]
    omega
  · exact List.all_eq_true.mpr fun character member =>
      List.all_eq_true.mp allDigits character (List.mem_of_mem_take member)
  · exact List.all_eq_true.mpr fun character member =>
      List.all_eq_true.mp allDigits character (List.mem_of_mem_drop member)

/-- Before the exponent stand the digits, with a point behind the first of many. -/
theorem exponentialChars_eq (magnitude : DecimalMagnitude) :
    ∃ base, Pointed magnitude.digits ((Digits.ofNat magnitude.digits).length - 1) base ∧
      magnitude.exponentialChars =
        base ++ Decimal.exponentChars magnitude.leadingExponent := by
  have nonempty := Digits.ofNat_ne_nil magnitude.digits
  have allDigits := Digits.all_isDigit_ofNat magnitude.digits
  have value := Digits.valueAfter_ofNat magnitude.digits
  rw [exponentialChars]
  generalize Digits.ofNat magnitude.digits = digits at *
  match digits with
  | [] => exact absurd rfl nonempty
  | [first] => exact ⟨[first], .digits nonempty allDigits value, rfl⟩
  | first :: second :: rest =>
      rw [List.all_cons, Bool.and_eq_true] at allDigits
      refine ⟨[first] ++ '.' :: second :: rest, .between ?_ ?_ allDigits.2 value, rfl⟩
      · exact nofun
      · rw [List.all_cons, allDigits.1]
        rfl

end DecimalMagnitude

end PricePublisher.Floating
