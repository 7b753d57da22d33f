import Mathlib.Algebra.Order.Field.Basic
import Mathlib.Data.Rat.Lemmas
import PricePublisher.Proofs.Floating.Layout

/-!
# Written floating-point numbers read as decimals

The positional and the exponential layout of the same digits are read as the same number:
that of the digits, rounded to the places that a decimal keeps.
-/

namespace PricePublisher.Floating

open Decimal (ofPlain? ofParts?)

/-- Places after the point make no number larger. -/
theorem div_pow_lt {mantissa : Nat} (fits : mantissa < mantissaBound) (scale : Nat) :
    (mantissa : Rat) / (Nat.pow 10 scale : Nat) < mantissaBound := by
  have whole : (1 : Rat) ≤ (Nat.pow 10 scale : Nat) :=
    Nat.one_le_cast.mpr (Nat.pow_pos (by decide))
  exact (div_le_self (Nat.cast_nonneg _) whole).trans_lt (Nat.cast_lt.mpr fits)

namespace DecimalMagnitude

variable {magnitude : DecimalMagnitude}

/-- The mantissa and scale of a decimal magnitude, rounded to the places that are kept. -/
def keptParts (magnitude : DecimalMagnitude) : Nat × Nat :=
  if 0 ≤ magnitude.exponent then (magnitude.digits * Nat.pow 10 magnitude.exponent.toNat, 0)
  else Decimal.keptParts magnitude.digits (-magnitude.exponent).toNat

/-- The number that is left of a decimal magnitude when it is rounded. -/
def kept (magnitude : DecimalMagnitude) : Rat :=
  (magnitude.keptParts.1 : Rat) / (Nat.pow 10 magnitude.keptParts.2 : Nat)

theorem keptParts_scale_le (magnitude : DecimalMagnitude) :
    magnitude.keptParts.2 ≤ scaleLimit := by
  rw [keptParts]
  split
  · exact Nat.zero_le _
  · exact Decimal.keptParts_scale_le _ _

/-- Only a whole number can be too large. -/
theorem keptParts_fits (fits : magnitude.digits < mantissaBound) :
    magnitude.keptParts.1 < mantissaBound ∨ magnitude.keptParts.2 = 0 := by
  rw [keptParts]
  split
  · exact .inr rfl
  · exact .inl (Nat.lt_of_le_of_lt (Decimal.keptParts_mantissa_le _ _) fits)

/-- A form with digits behind the point is never too large. -/
theorem kept_lt (fraction : magnitude.exponent < 0) (fits : magnitude.digits < mantissaBound) :
    magnitude.kept < mantissaBound := by
  rw [kept, keptParts, if_neg (Int.not_le.mpr fraction)]
  exact div_pow_lt (Nat.lt_of_le_of_lt (Decimal.keptParts_mantissa_le _ _) fits) _

end DecimalMagnitude

/-- A number with a sign. -/
def signed (negative : Bool) (value : Rat) : Rat :=
  if negative then -value else value

/--
A text is read as a decimal with this sign and value, or not at all if no mantissa has room
for the value.
-/
def Denotes (text : List Char) (negative : Bool) (value : Rat) : Prop :=
  if value < mantissaBound then
    ∃ decimal, Decimal.ofText? (String.ofList text) = some decimal ∧
      decimal.toRat = signed negative value
  else Decimal.ofText? (String.ofList text) = none

theorem toRat_of_ofParts?
    {negative : Bool} {mantissa scale : Nat} {decimal : Decimal}
    (built : ofParts? negative mantissa scale = some decimal) :
    decimal.toRat = signed negative ((mantissa : Rat) / (Nat.pow 10 scale : Nat)) := by
  rw [ofParts?] at built
  split at built
  · cases built
    rw [Decimal.toRat, Decimal.signedMantissa, Rat.mkRat_eq_div, signed]
    cases negative <;> simp [neg_div]
  · cases built

/-- Parts within the limits denote their number, whatever sign a zero has. -/
theorem Denotes.of_parts
    {text : List Char} {negative given : Bool} {mantissa scale : Nat}
    (read : Decimal.ofText? (String.ofList text) = ofParts? given mantissa scale)
    (sign : given = negative ∨ mantissa = 0) (few : scale ≤ scaleLimit)
    (fits : mantissa < mantissaBound ∨ scale = 0) :
    Denotes text negative ((mantissa : Rat) / (Nat.pow 10 scale : Nat)) := by
  have signs : signed given ((mantissa : Rat) / (Nat.pow 10 scale : Nat)) =
      signed negative ((mantissa : Rat) / (Nat.pow 10 scale : Nat)) := by
    rcases sign with rfl | rfl
    · rfl
    · cases given <;> cases negative <;> simp [signed]
  rw [Denotes]
  by_cases small : mantissa < mantissaBound
  · have built : ofParts? given mantissa scale =
        some ⟨given, mantissa, scale, small, few⟩ := dif_pos ⟨small, few⟩
    rw [if_pos (div_pow_lt small scale)]
    exact ⟨_, read.trans built, (toRat_of_ofParts? built).trans signs⟩
  · have zero := fits.resolve_left small
    subst zero
    have large : ¬ (mantissa : Rat) / (Nat.pow 10 0 : Nat) < mantissaBound := by
      simpa using small
    rw [if_neg large, read]
    exact dif_neg fun within => small within.1

theorem sign_or_zero (negative : Bool) (mantissa : Nat) :
    (negative && mantissa != 0) = negative ∨ mantissa = 0 := by
  by_cases zero : mantissa = 0
  · exact .inr zero
  · exact .inl (by simp [zero])

/-! ## The positional layout -/

theorem Pointed.ofText?_withSign
    {value places : Nat} {unsigned : List Char} (pointed : Pointed value places unsigned)
    (number : Float) :
    Decimal.ofText? (String.ofList (withSign number unsigned)) =
      (Decimal.readFrom? .start unsigned).bind fun parts =>
        ofParts? (isNegative number && parts.1 != 0) parts.1 (parts.2 % (scaleLimit + 1)) := by
  rw [ofText?_ofList (all_isNumeral_withSign pointed.all_isNumeral number),
    Decimal.ofScientific?_eq_none (pointed.not_isExponentMark_withSign number),
    ofPlain?_withSign pointed.starts, Option.orElse_eq_orElse, Option.orElse_eq_or, Option.or_none]

namespace DecimalMagnitude

variable {magnitude : DecimalMagnitude}

/-- The positional layout is read as the kept parts. -/
theorem ofText?_positionalChars (fits : magnitude.digits < mantissaBound) (number : Float) :
    Decimal.ofText? (String.ofList (withSign number magnitude.positionalChars)) =
      ofParts? (isNegative number && magnitude.keptParts.1 != 0)
        magnitude.keptParts.1 magnitude.keptParts.2 := by
  have few := magnitude.keptParts_scale_le
  rw [keptParts] at few ⊢
  by_cases nonneg : 0 ≤ magnitude.exponent
  · rw [if_pos nonneg, positionalChars_of_nonneg nonneg]
    generalize magnitude.digits * Nat.pow 10 magnitude.exponent.toNat = value
    have nonempty := Digits.ofNat_ne_nil value
    have allDigits := Digits.all_isDigit_ofNat value
    have equal := Digits.valueAfter_ofNat value
    have whole := Decimal.readFrom?_start nonempty allDigits []
    rw [List.append_nil, equal] at whole
    rw [(Pointed.digits nonempty allDigits equal).ofText?_withSign number, whole]
    split
    next => rfl
    next large =>
      rw [ofParts?, dif_neg fun within => large (And.left within)]
      rfl
  · rw [if_neg nonneg] at few ⊢
    have pointed := pointed_positionalChars (Int.not_le.mp nonneg)
    rw [pointed.ofText?_withSign number, pointed.readFrom? fits, Option.bind_some,
      Nat.mod_eq_of_lt (Nat.lt_succ_of_le few)]

theorem denotes_positionalChars (fits : magnitude.digits < mantissaBound) (number : Float) :
    Denotes (withSign number magnitude.positionalChars) (isNegative number) magnitude.kept :=
  .of_parts (ofText?_positionalChars fits number) (sign_or_zero _ _) magnitude.keptParts_scale_le
    (keptParts_fits fits)

/-- A zero after the point of a whole number changes nothing. -/
theorem denotes_positionalChars_point_zero (nonneg : 0 ≤ magnitude.exponent) (number : Float) :
    Denotes (withSign number (magnitude.positionalChars ++ ['.', '0'])) (isNegative number)
      magnitude.kept := by
  rw [kept, keptParts, if_pos nonneg, positionalChars_of_nonneg nonneg]
  generalize magnitude.digits * Nat.pow 10 magnitude.exponent.toNat = value
  have nonempty := Digits.ofNat_ne_nil value
  have allDigits := Digits.all_isDigit_ofNat value
  have pointed : Pointed (Digits.valueAfter 0 (Digits.ofNat value ++ ['0'])) 1
      (Digits.ofNat value ++ ['.', '0']) := .between nonempty allDigits rfl rfl
  have read := pointed.ofText?_withSign number
  have whole := Decimal.readFrom?_start nonempty allDigits ['.', '0']
  rw [Digits.valueAfter_ofNat, Decimal.readFrom?_point_zero] at whole
  rw [whole] at read
  by_cases fits : value < mantissaBound
  · rw [if_pos fits] at read
    by_cases room : 10 * value < mantissaBound
    · rw [if_pos room] at read
      have denotes : Denotes _ (isNegative number)
          (((10 * value : Nat) : Rat) / (Nat.pow 10 1 : Nat)) :=
        .of_parts read (sign_or_zero _ _) (by decide) (.inl room)
      simpa using denotes
    · rw [if_neg room] at read
      have denotes : Denotes _ (isNegative number) ((value : Rat) / (Nat.pow 10 0 : Nat)) :=
        .of_parts read (sign_or_zero _ _) (by decide) (.inl fits)
      exact denotes
  · rw [if_neg fits] at read
    have large : ¬ (value : Rat) / (Nat.pow 10 0 : Nat) < mantissaBound := by simpa using fits
    rw [Denotes, if_neg large]
    exact read

end DecimalMagnitude

/-! ## The exponential layout -/

/-- A text with an exponent is read as the decimal before it with its point moved. -/
theorem Pointed.ofText?_withSign_exponentChars
    {value places : Nat} {base : List Char} (pointed : Pointed value places base)
    (number : Float) (exponent : Int) :
    Decimal.ofText? (String.ofList (withSign number (base ++ Decimal.exponentChars exponent))) =
      (ofPlain? (withSign number base)).bind fun decimal =>
        if exponent < 0 then decimal.shiftLeft? exponent.natAbs
        else decimal.shiftRight? exponent.natAbs := by
  have numeral : (base ++ Decimal.exponentChars exponent).all isNumeral := by
    rw [List.all_append, pointed.all_isNumeral, all_isNumeral_exponentChars]
    rfl
  have starts : ∃ first others, base ++ Decimal.exponentChars exponent = first :: others ∧
      first.isDigit := by
    rcases pointed.starts with ⟨first, others, rfl, isDigit⟩
    exact ⟨first, _, List.cons_append, isDigit⟩
  have notPlain : ofPlain? (withSign number (base ++ Decimal.exponentChars exponent)) = none := by
    have member : 'e' ∈ base ++ Decimal.exponentChars exponent :=
      List.mem_append_right base List.mem_cons_self
    rw [ofPlain?_withSign starts,
      Decimal.readFrom?_eq_none_of_mem rfl (by decide) (by decide) member]
    rfl
  rw [ofText?_ofList (all_isNumeral_withSign numeral number), notPlain, withSign_append,
    Decimal.ofScientific?_append (pointed.not_isExponentMark_withSign number)]
  rfl

namespace DecimalMagnitude

variable {magnitude : DecimalMagnitude}

/-- Moving the point by the leading exponent leaves the kept parts. -/
theorem shift_eq_keptParts
    {decimal : Decimal} (positive : 0 < magnitude.digits)
    (mantissa : decimal.mantissa = magnitude.digits)
    (scale : decimal.scale = (Digits.ofNat magnitude.digits).length - 1)
    (range : -(scaleLimit : Int) ≤ magnitude.leadingExponent) :
    (if magnitude.leadingExponent < 0 then
        decimal.shiftLeft? magnitude.leadingExponent.natAbs
      else decimal.shiftRight? magnitude.leadingExponent.natAbs) =
      ofParts? decimal.negative magnitude.keptParts.1 magnitude.keptParts.2 := by
  have nonempty := List.length_pos_iff.mpr (Digits.ofNat_ne_nil magnitude.digits)
  have leading := Digits.pow_le_of_positive positive
  have exponent : magnitude.leadingExponent =
      magnitude.exponent + (Digits.ofNat magnitude.digits).length - 1 := rfl
  have few := decimal.scale_le
  rw [← scale, ← mantissa] at leading
  rw [keptParts, ← mantissa]
  by_cases below : magnitude.leadingExponent < 0
  · have fraction : ¬ 0 ≤ magnitude.exponent := by omega
    have total : decimal.scale + magnitude.leadingExponent.natAbs =
        (-magnitude.exponent).toNat := by
      omega
    rw [if_pos below, if_neg fraction, Decimal.shiftLeft?_eq (by omega) total]
  · rw [if_neg below, Decimal.shiftRight?_eq leading]
    by_cases within : magnitude.leadingExponent.natAbs ≤ decimal.scale
    · have places : decimal.scale - magnitude.leadingExponent.natAbs =
          (-magnitude.exponent).toNat := by
        omega
      have left : (-magnitude.exponent).toNat ≤ scaleLimit := by omega
      rw [if_pos within, places]
      split
      next nonneg =>
        have none : magnitude.exponent = 0 := by omega
        simp [none]
      next => rw [Decimal.keptParts, if_pos left]
    · have nonneg : 0 ≤ magnitude.exponent := by omega
      have zeros : magnitude.leadingExponent.natAbs - decimal.scale =
          magnitude.exponent.toNat := by
        omega
      rw [if_neg within, if_pos nonneg, zeros]

/-- The exponential layout reads as the kept number, if its exponent is not too small. -/
theorem denotes_exponentialChars
    (positive : 0 < magnitude.digits) (fits : magnitude.digits < Nat.pow 10 scaleLimit)
    (range : -(scaleLimit : Int) ≤ magnitude.leadingExponent) (number : Float) :
    Denotes (withSign number magnitude.exponentialChars) (isNegative number) magnitude.kept := by
  rcases exponentialChars_eq magnitude with ⟨base, pointed, text⟩
  have room : magnitude.digits < mantissaBound := fits.trans (by decide)
  have few : (Digits.ofNat magnitude.digits).length - 1 ≤ scaleLimit :=
    (Nat.sub_le _ _).trans (Digits.length_ofNat_le (by decide) fits)
  have parts : Decimal.keptParts magnitude.digits ((Digits.ofNat magnitude.digits).length - 1) =
      (magnitude.digits, (Digits.ofNat magnitude.digits).length - 1) :=
    if_pos few
  have before : ofPlain? (withSign number base) =
      some ⟨isNegative number, magnitude.digits, (Digits.ofNat magnitude.digits).length - 1, room,
        few⟩ := by
    have nonzero : (magnitude.digits != 0) = true := bne_iff_ne.mpr positive.ne'
    rw [ofPlain?_withSign pointed.starts, pointed.readFrom? room, parts, Option.bind_some,
      nonzero, Bool.and_true, Nat.mod_eq_of_lt (Nat.lt_succ_of_le few)]
    exact dif_pos ⟨room, few⟩
  have read := pointed.ofText?_withSign_exponentChars number magnitude.leadingExponent
  rw [← text, before, Option.bind_some, shift_eq_keptParts positive rfl rfl range] at read
  exact .of_parts read (.inl rfl) magnitude.keptParts_scale_le (keptParts_fits room)

end DecimalMagnitude

end PricePublisher.Floating
