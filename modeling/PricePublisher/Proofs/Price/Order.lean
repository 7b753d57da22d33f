import Mathlib.Tactic.Linarith
import Mathlib.Tactic.NormNum
import PricePublisher.Proofs.Price.Quantized

/-!
# The order of prices

Cutting a number off to whole units keeps the order, and so would clearing the last six
digits.  But it is six characters that are cleared, and the `-` of a number below zero is
among those that are counted: with six digits behind it, it is all that stays.  Such a price
reads `-000000`, which is zero, and exceeds those of the greater numbers that have five
digits or fewer and lose none.  Between all other numbers the order is kept, and no other
price starts with a zero but zero itself.
-/

namespace PricePublisher.QuantizedPrice

/-!
## Whole units
-/

theorem units_cast (number : Rat) :
    number * (Nat.pow 10 unitPlaces : Nat) = number * 10 ^ 18 := by
  norm_num [unitPlaces]

theorem wholeUnits_of_nonneg {number : Rat} (nonneg : 0 ≤ number) :
    wholeUnits number = (number * 10 ^ 18).floor := by
  rw [wholeUnits, units_cast]
  exact if_pos (by positivity)

theorem wholeUnits_neg (number : Rat) : wholeUnits (-number) = -wholeUnits number := by
  rw [wholeUnits, wholeUnits, units_cast, units_cast, neg_mul]
  rcases lt_trichotomy (number * 10 ^ 18) 0 with negative | zero | positive
  · rw [if_pos (by linarith), if_neg (by linarith), Rat.ceil_eq_neg_floor_neg, neg_neg]
  · rw [zero]
    rfl
  · rw [if_neg (by linarith), if_pos (by linarith), Rat.ceil_eq_neg_floor_neg, neg_neg]

theorem le_wholeUnits_iff {number : Rat} {bound : Int} (positive : 0 < bound) :
    bound ≤ wholeUnits number ↔ (bound : Rat) ≤ number * 10 ^ 18 := by
  rcases le_or_gt 0 number with nonneg | negative
  · rw [wholeUnits_of_nonneg nonneg]
    exact Rat.le_floor_iff
  · have positive' : (0 : Rat) < bound := Int.cast_pos.mpr positive
    have opposite : 0 ≤ wholeUnits (-number) := by
      rw [wholeUnits_of_nonneg (by linarith)]
      exact Rat.le_floor_iff.mpr (by push_cast; linarith)
    rw [wholeUnits_neg] at opposite
    exact iff_of_false (by omega) (by linarith)

theorem wholeUnits_le_iff {number : Rat} {bound : Int} (negative : bound < 0) :
    wholeUnits number ≤ bound ↔ number * 10 ^ 18 ≤ bound := by
  rw [← neg_le_neg_iff, ← wholeUnits_neg, le_wholeUnits_iff (by omega), Int.cast_neg, neg_mul,
    neg_le_neg_iff]

theorem wholeUnits_le_wholeUnits {first second : Rat} (ordered : first ≤ second) :
    wholeUnits first ≤ wholeUnits second := by
  have scaled : first * 10 ^ 18 ≤ second * 10 ^ 18 := by linarith
  rcases Int.lt_or_le 0 (wholeUnits first) with positive | first_le
  · rw [le_wholeUnits_iff positive]
    exact ((le_wholeUnits_iff positive).mp le_rfl).trans scaled
  · rcases Int.lt_or_le (wholeUnits second) 0 with negative | le_second
    · rw [wholeUnits_le_iff negative]
      exact scaled.trans ((wholeUnits_le_iff negative).mp le_rfl)
    · exact first_le.trans le_second

/-!
## Cleared ends
-/

/-- The number that is left of whole units when the end of their text is cleared. -/
def cleared (units : Int) : Int :=
  if -100000 < units ∧ units < 1000000 then units else units.tdiv 1000000 * 1000000

/-- The `-` is the only character that is kept of the text of whole units. -/
def KeepsSignOnly (units : Int) : Prop :=
  -1000000 < units ∧ units ≤ -100000

instance (units : Int) : Decidable (KeepsSignOnly units) :=
  inferInstanceAs (Decidable (_ ∧ _))

theorem cleared_eq (units : Int) :
    cleared units =
      if 1000000 ≤ units then units / 1000000 * 1000000
      else if units ≤ -100000 then -(-units / 1000000 * 1000000)
      else units := by
  rw [cleared]
  split
  next short => rw [if_neg (by omega), if_neg (by omega)]
  next long =>
    rcases Int.lt_or_le units 0 with negative | nonneg
    · have quotient : units.tdiv 1000000 = -(-units / 1000000) := by
        rw [← Int.tdiv_eq_ediv_of_nonneg (by omega), Int.neg_tdiv, Int.neg_neg]
      rw [if_neg (by omega), if_pos (by omega), quotient, Int.neg_mul]
    · rw [if_pos (by omega), Int.tdiv_eq_ediv_of_nonneg nonneg]

/-- The order is kept except between what loses all digits and what loses none. -/
theorem cleared_le_cleared_iff {first second : Int} (ordered : first ≤ second) :
    cleared first ≤ cleared second ↔
      ¬ (KeepsSignOnly first ∧ -100000 < second ∧ second < 0) := by
  rw [cleared_eq, cleared_eq, KeepsSignOnly]
  split <;> split <;> omega

theorem clearLast_append
    {front last : List Char} (nonempty : front ≠ []) (length_eq : last.length = clearedLength) :
    clearLast (front ++ last) = front ++ List.replicate clearedLength '0' := by
  have positive : 0 < front.length := List.length_pos_iff.mpr nonempty
  have length_append : (front ++ last).length = front.length + clearedLength := by
    rw [List.length_append, length_eq]
  rw [clearLast, length_append, if_neg (by omega), Nat.add_sub_cancel, List.take_left]

theorem exists_wholeChars_eq_append
    {units : Int} {places : Nat} (large : Nat.pow 10 places ≤ units.natAbs) :
    ∃ last, wholeChars units = wholeChars (units.tdiv (Nat.pow 10 places : Nat)) ++ last ∧
      last.length = places ∧ units.tdiv (Nat.pow 10 places : Nat) ≠ 0 := by
  rcases Digits.exists_ofNat_eq_append large with ⟨last, digits, length_eq⟩
  have magnitude : (units.tdiv (Nat.pow 10 places : Nat)).natAbs =
      units.natAbs / Nat.pow 10 places := by
    rw [Int.natAbs_tdiv, Int.natAbs_natCast]
    rfl
  have positive : 0 < units.natAbs / Nat.pow 10 places :=
    Nat.div_pos large (Nat.pow_pos (by decide))
  refine ⟨last, ?_, length_eq, by omega⟩
  by_cases negative : units < 0
  · have quotient_neg : units.tdiv (Nat.pow 10 places : Nat) < 0 := by
      have opposite : 0 ≤ (-units).tdiv (Nat.pow 10 places : Nat) :=
        Int.tdiv_nonneg (by omega) (Int.natCast_nonneg _)
      rw [Int.neg_tdiv] at opposite
      omega
    rw [wholeChars, if_pos negative, wholeChars, if_pos quotient_neg, magnitude, digits,
      List.cons_append]
  · have quotient_nonneg : ¬ units.tdiv (Nat.pow 10 places : Nat) < 0 :=
      Int.not_lt.mpr (Int.tdiv_nonneg (Int.not_lt.mp negative) (Int.natCast_nonneg _))
    rw [wholeChars, if_neg negative, wholeChars, if_neg quotient_nonneg, magnitude, digits]

theorem wholeChars_ne_nil (units : Int) : wholeChars units ≠ [] := by
  rw [wholeChars]
  split
  · exact List.cons_ne_nil _ _
  · exact Digits.ofNat_ne_nil _

/-- What is left of the text of whole units is that of a number again, or a sign with zeros. -/
theorem clearLast_wholeChars (units : Int) :
    clearLast (wholeChars units) =
      if KeepsSignOnly units then '-' :: List.replicate clearedLength '0'
      else wholeChars (cleared units) := by
  have million_le_iff : Nat.pow 10 clearedLength ≤ units.natAbs ↔ 1000000 ≤ units.natAbs :=
    Iff.rfl
  have atMost_six : (Digits.ofNat units.natAbs).length ≤ clearedLength ↔
      units.natAbs < 1000000 :=
    Digits.length_ofNat_le_iff (by decide)
  have atMost_five : (Digits.ofNat units.natAbs).length + 1 ≤ clearedLength ↔
      units.natAbs < 100000 :=
    Nat.succ_le_succ_iff.trans (Digits.length_ofNat_le_iff (by decide))
  by_cases signOnly : KeepsSignOnly units
  · rcases signOnly with ⟨above, below⟩
    have six : (Digits.ofNat units.natAbs).length = clearedLength := by omega
    rw [if_pos ⟨above, below⟩, wholeChars, if_pos (by omega)]
    exact clearLast_append (List.cons_ne_nil '-' []) six
  · rw [if_neg signOnly]
    rw [KeepsSignOnly] at signOnly
    by_cases large : Nat.pow 10 clearedLength ≤ units.natAbs
    · rcases exists_wholeChars_eq_append large with ⟨last, written, last_length, nonzero⟩
      have left : cleared units =
          units.tdiv (Nat.pow 10 clearedLength : Nat) * (Nat.pow 10 clearedLength : Nat) :=
        if_neg (by omega)
      rw [written, clearLast_append (wholeChars_ne_nil _) last_length,
        ← wholeChars_mul_pow nonzero, left]
    · have kept : cleared units = units := if_pos (by omega)
      have short : (wholeChars units).length ≤ clearedLength := by
        rw [wholeChars]
        split
        next negative => exact atMost_five.mpr (by omega)
        next nonneg => exact atMost_six.mpr (by omega)
      rw [kept, clearLast, if_pos short]

/-!
## Prices
-/

theorem toInt?_wholeChars (number : Int) : Digits.toInt? (wholeChars number) = some number := by
  have denoted := Digits.valueAfter_ofNat number.natAbs
  rw [Digits.toInt?_eq_some_iff, wholeChars]
  split
  next negative =>
    have spelled := Digits.Spells.negative (Digits.ofNat_ne_nil number.natAbs)
      (Digits.all_isDigit_ofNat number.natAbs)
    have number_eq : -(number.natAbs : Int) = number := by omega
    rwa [denoted, number_eq] at spelled
  next nonneg =>
    have spelled := Digits.Spells.unsigned (Digits.ofNat_ne_nil number.natAbs)
      (Digits.all_isDigit_ofNat number.natAbs)
    have number_eq : (number.natAbs : Int) = number := by omega
    rwa [denoted, number_eq] at spelled

/-- Zero, or digits that do not start with a zero, with or without a `-` in front. -/
inductive IsCanonical : List Char → Prop where
  | zero : IsCanonical ['0']
  | positive {first : Char} {others : List Char}
      (nonzero : first ≠ '0') (allDigits : (first :: others).all Char.isDigit) :
      IsCanonical (first :: others)
  | negative {first : Char} {others : List Char}
      (nonzero : first ≠ '0') (allDigits : (first :: others).all Char.isDigit) :
      IsCanonical ('-' :: first :: others)

theorem isCanonical_wholeChars (number : Int) : IsCanonical (wholeChars number) := by
  rcases Nat.eq_zero_or_pos number.natAbs with zero | positive
  · rw [Int.natAbs_eq_zero.mp zero]
    exact .zero
  · rcases Digits.ofNat_eq_cons positive with ⟨first, others, digits, nonzero⟩
    have allDigits := Digits.all_isDigit_ofNat number.natAbs
    rw [digits] at allDigits
    rw [wholeChars, digits]
    split
    · exact .negative nonzero allDigits
    · exact .positive nonzero allDigits

theorem not_isCanonical_zeros : ¬ IsCanonical ('-' :: List.replicate clearedLength '0') := by
  intro canonical
  cases canonical with
  | positive _ allDigits => cases allDigits
  | negative nonzero _ => exact nonzero rfl

theorem toList_text (decimal : Decimal) :
    (ofDecimal decimal).text.toList = clearLast (wholeChars (wholeUnits decimal.toRat)) := by
  have price_eq : ofDecimal? decimal = some (ofDecimal decimal) :=
    (Option.some_get (isSome_ofDecimal? decimal)).symm
  rw [ofDecimal?_eq, Option.some.injEq] at price_eq
  rw [← price_eq, String.toList_ofList]

/-- The number in the price of a decimal is what clearing leaves of its whole units. -/
theorem toInt?_text (decimal : Decimal) :
    Digits.toInt? (ofDecimal decimal).text.toList =
      some (cleared (wholeUnits decimal.toRat)) := by
  rw [toList_text, clearLast_wholeChars]
  split
  next signOnly =>
    have nothing : cleared (wholeUnits decimal.toRat) = 0 := by
      rw [KeepsSignOnly] at signOnly
      rw [cleared_eq, if_neg (by omega), if_pos (by omega)]
      omega
    rw [nothing]
    rfl
  next => exact toInt?_wholeChars _

/-- The numbers below zero that have six digits in whole units. -/
def IsBlanked (number : Rat) : Prop :=
  -1 / 10 ^ 12 < number ∧ number ≤ -1 / 10 ^ 13

/-- The numbers below zero that have one to five digits in whole units. -/
def IsShort (number : Rat) : Prop :=
  -1 / 10 ^ 13 < number ∧ number ≤ -1 / 10 ^ 18

theorem wholeUnits_le_iff_le_div {number : Rat} {bound : Int} (negative : bound < 0) :
    wholeUnits number ≤ bound ↔ number ≤ bound / 10 ^ 18 := by
  rw [wholeUnits_le_iff negative, le_div_iff₀ (by positivity)]

theorem keepsSignOnly_wholeUnits_iff {number : Rat} :
    KeepsSignOnly (wholeUnits number) ↔ IsBlanked number := by
  have million : wholeUnits number ≤ -1000000 ↔ number ≤ -1 / 10 ^ 12 := by
    rw [wholeUnits_le_iff_le_div (by decide)]
    norm_num
  have hundredThousand : wholeUnits number ≤ -100000 ↔ number ≤ -1 / 10 ^ 13 := by
    rw [wholeUnits_le_iff_le_div (by decide)]
    norm_num
  rw [KeepsSignOnly, IsBlanked, hundredThousand, ← not_le, million, not_le]

theorem short_wholeUnits_iff {number : Rat} :
    -100000 < wholeUnits number ∧ wholeUnits number < 0 ↔ IsShort number := by
  have hundredThousand : wholeUnits number ≤ -100000 ↔ number ≤ -1 / 10 ^ 13 := by
    rw [wholeUnits_le_iff_le_div (by decide)]
    norm_num
  have one : wholeUnits number < 0 ↔ number ≤ -1 / 10 ^ 18 := by
    rw [← Int.le_sub_one_iff, wholeUnits_le_iff_le_div (by decide)]
    norm_num
  rw [IsShort, one, ← not_le, hundredThousand, not_le]

/--
The numbers in two prices are ordered like the decimals, unless the lesser decimal is blanked
and the greater one short.  Every price is in canonical form but that of a blanked decimal.
-/
theorem keeps_order_but_for_blanked (decimal : Decimal) :
    let text := (ofDecimal decimal).text
    (IsCanonical text.toList ↔ ¬ IsBlanked decimal.toRat) ∧
      (text = "-000000" ↔ IsBlanked decimal.toRat) ∧
      ∃ number, Digits.toInt? text.toList = some number ∧
        ∀ other : Decimal, decimal.toRat ≤ other.toRat →
          ∃ otherNumber, Digits.toInt? (ofDecimal other).text.toList = some otherNumber ∧
            (number ≤ otherNumber ↔ ¬ (IsBlanked decimal.toRat ∧ IsShort other.toRat)) := by
  intro text
  have written : text.toList = _ := (toList_text decimal).trans (clearLast_wholeChars _)
  refine ⟨?_, ?_, _, toInt?_text decimal, ?_⟩
  · rw [written, ← keepsSignOnly_wholeUnits_iff]
    split
    next signOnly => exact iff_of_false not_isCanonical_zeros (not_not.mpr signOnly)
    next kept => exact iff_of_true (isCanonical_wholeChars _) kept
  · rw [← String.toList_inj, written, ← keepsSignOnly_wholeUnits_iff]
    split
    next signOnly => exact iff_of_true rfl signOnly
    next kept =>
      refine iff_of_false (fun same => not_isCanonical_zeros ?_) kept
      have canonical := isCanonical_wholeChars (cleared (wholeUnits decimal.toRat))
      rwa [same] at canonical
  · intro other ordered
    refine ⟨_, toInt?_text other, ?_⟩
    rw [cleared_le_cleared_iff (wholeUnits_le_wholeUnits ordered),
      keepsSignOnly_wholeUnits_iff, short_wholeUnits_iff]

/-- The lesser price loses the last six of twelve digits, and the greater all six of its own. -/
theorem keeps_order_up_to_blanked :
    let lesser : Decimal := ⟨true, 987654321987, 18, by decide, by decide⟩
    let greater : Decimal := ⟨true, 987654, 18, by decide, by decide⟩
    lesser.toRat ≤ greater.toRat ∧
      ∃ number otherNumber,
        Digits.toInt? (ofDecimal lesser).text.toList = some number ∧
        Digits.toInt? (ofDecimal greater).text.toList = some otherNumber ∧
        number ≤ otherNumber := by
  intro lesser greater
  have ordered : lesser.toRat ≤ greater.toRat := by decide +kernel
  rcases (keeps_order_but_for_blanked lesser).2.2 with ⟨number, read, later⟩
  rcases later greater ordered with ⟨otherNumber, otherRead, kept⟩
  refine ⟨ordered, number, otherNumber, read, otherRead, kept.mpr ?_⟩
  rintro ⟨blanked, _⟩
  exact absurd blanked.1 (by decide +kernel)

/-- A blanked price reads as a zero with a sign, and exceeds a short one that is greater. -/
theorem blanked_exceeds_short :
    let blanked : Decimal := ⟨true, 1, 13, by decide, by decide⟩
    let short : Decimal := ⟨true, 5, 14, by decide, by decide⟩
    blanked.toRat ≤ short.toRat ∧
      (ofDecimal blanked).text = "-000000" ∧ (ofDecimal short).text = "-50000" ∧
      Digits.toInt? "-000000".toList = some 0 ∧
      Digits.toInt? "-50000".toList = some (-50000) ∧
      ¬ (0 : Int) ≤ -50000 ∧ ¬ IsCanonical "-000000".toList := by
  refine ⟨?ordered, ?blank, ?kept, ?zero, ?number, ?greater, ?form⟩
  case ordered => decide +kernel
  case blank => decide +kernel
  case kept => decide +kernel
  case zero => decide +kernel
  case number => decide +kernel
  case greater => decide
  case form => exact not_isCanonical_zeros

end PricePublisher.QuantizedPrice
