import Mathlib.Data.Nat.Digits.Defs
import Mathlib.Tactic.Ring
import PricePublisher.Decimal.Digits

/-!
# The number that digits denote

Reading digits one by one gives up at the first character that is none, and
otherwise ends with the number in base ten.  The digits of a number denote it again, and
zeros behind them multiply it by a power of ten.
-/

namespace PricePublisher.Digits

/-- The number that digits denote after `number`. -/
def valueAfter (number : Nat) (digits : List Char) : Nat :=
  digits.foldl (fun number character => append number (character.toNat - '0'.toNat)) number

@[simp]
theorem valueAfter_nil
    (number : Nat) :
    valueAfter number [] = number :=
  rfl

@[simp]
theorem valueAfter_cons
    (number : Nat) (character : Char) (digits : List Char) :
    valueAfter number (character :: digits) =
      valueAfter (append number (character.toNat - '0'.toNat)) digits := by
  simp only [valueAfter, List.foldl_cons]

theorem le_valueAfter
    (number : Nat) (digits : List Char) :
    number ≤ valueAfter number digits := by
  induction digits generalizing number with
  | nil => exact Nat.le_refl number
  | cons character digits hypothesis =>
      have grows : number ≤ append number (character.toNat - '0'.toNat) := by
        rw [append]
        omega
      exact Nat.le_trans grows (hypothesis _)

theorem valueAfter_append
    (number : Nat) (digits others : List Char) :
    valueAfter number (digits ++ others) = valueAfter (valueAfter number digits) others :=
  List.foldl_append

/-- Digits behind a number move it to the left. -/
theorem valueAfter_eq
    (number : Nat) (digits : List Char) :
    valueAfter number digits = number * Nat.pow 10 digits.length + valueAfter 0 digits := by
  induction digits generalizing number with
  | nil => simp
  | cons character digits hypothesis =>
      rw [valueAfter_cons, hypothesis, valueAfter_cons, hypothesis (append 0 _), append, append,
        List.length_cons, Nat.pow_eq, Nat.pow_eq, Nat.pow_succ]
      ring

theorem digit_le {character : Char} (isDigit : character.isDigit) :
    character.toNat - '0'.toNat ≤ 9 :=
  Nat.sub_le_sub_right (Char.isDigit_iff_toNat.mp isDigit).2 '0'.toNat

theorem valueAfter_zero_lt
    {digits : List Char} (allDigits : digits.all Char.isDigit) :
    valueAfter 0 digits < Nat.pow 10 digits.length := by
  induction digits with
  | nil => exact Nat.zero_lt_one
  | cons character digits hypothesis =>
      rw [List.all_cons, Bool.and_eq_true] at allDigits
      have rest := hypothesis allDigits.2
      have first := Nat.mul_le_mul_right (Nat.pow 10 digits.length) (digit_le allDigits.1)
      have power : Nat.pow 10 (digits.length + 1) = 10 * Nat.pow 10 digits.length :=
        Nat.pow_succ'
      rw [valueAfter_cons, valueAfter_eq, append, Nat.mul_zero, Nat.zero_add, List.length_cons,
        power]
      omega

theorem continue?_eq
    (number : Nat) (characters : List Char) :
    continue? number characters =
      if characters.all Char.isDigit then some (valueAfter number characters) else none := by
  induction characters generalizing number with
  | nil => rfl
  | cons character rest hypothesis =>
      cases isDigit : character.isDigit with
      | false => simp [continue?, value?, isDigit]
      | true =>
          simp only [continue?, value?, isDigit, hypothesis, if_true, List.all_cons,
            Bool.true_and, valueAfter_cons]

theorem toNat?_eq_some_iff
    {characters : List Char} {number : Nat} :
    toNat? characters = some number ↔
      (characters ≠ [] ∧ characters.all Char.isDigit) ∧ valueAfter 0 characters = number := by
  cases characters with
  | nil => simp [toNat?]
  | cons character rest =>
      simp only [toNat?, continue?_eq, Option.ite_none_right_eq_some, Option.some.injEq,
        ne_eq, reduceCtorEq, not_false_eq_true, true_and]

theorem toNat?_eq_none_iff
    {characters : List Char} :
    toNat? characters = none ↔
      characters = [] ∨ characters.all Char.isDigit = false := by
  cases characters with
  | nil => simp [toNat?]
  | cons character rest =>
      simp only [toNat?, continue?_eq, ite_eq_right_iff, reduceCtorEq, imp_false,
        Bool.not_eq_true, false_or]

/-- The number denoted by digits with or without a `-` in front. -/
def toInt? : List Char → Option Int
  | '-' :: digits => (toNat? digits).map fun magnitude : Nat => -(magnitude : Int)
  | digits => (toNat? digits).map fun magnitude : Nat => (magnitude : Int)

theorem toInt?_neg
    (digits : List Char) :
    toInt? ('-' :: digits) =
      (toNat? digits).map fun magnitude : Nat => -(magnitude : Int) :=
  rfl

theorem toInt?_of_ne
    {characters : List Char}
    (unsigned : ∀ digits, characters ≠ '-' :: digits) :
    toInt? characters = (toNat? characters).map fun magnitude : Nat => (magnitude : Int) := by
  rw [toInt?]
  intro digits equal
  exact unsigned digits equal

/-- A text of one or more digits, with or without a `-` in front, spells a whole number. -/
inductive Spells : List Char → Int → Prop where
  | unsigned {digits : List Char} (nonempty : digits ≠ []) (allDigits : digits.all Char.isDigit) :
      Spells digits (valueAfter 0 digits)
  | negative {digits : List Char} (nonempty : digits ≠ []) (allDigits : digits.all Char.isDigit) :
      Spells ('-' :: digits) (-valueAfter 0 digits)

theorem toInt?_eq_some_iff {characters : List Char} {number : Int} :
    toInt? characters = some number ↔ Spells characters number := by
  constructor
  · intro read
    by_cases signed : ∃ digits, characters = '-' :: digits
    · rcases signed with ⟨digits, rfl⟩
      rcases Option.map_eq_some_iff.mp read with ⟨magnitude, denoted, rfl⟩
      rcases toNat?_eq_some_iff.mp denoted with ⟨⟨nonempty, allDigits⟩, rfl⟩
      exact .negative nonempty allDigits
    · rw [toInt?_of_ne (not_exists.mp signed)] at read
      rcases Option.map_eq_some_iff.mp read with ⟨magnitude, denoted, rfl⟩
      rcases toNat?_eq_some_iff.mp denoted with ⟨⟨nonempty, allDigits⟩, rfl⟩
      exact .unsigned nonempty allDigits
  · rintro (⟨nonempty, allDigits⟩ | ⟨nonempty, allDigits⟩)
    · have unsigned : ∀ others, characters ≠ '-' :: others := by
        rintro others rfl
        rw [List.all_cons] at allDigits
        cases allDigits
      rw [toInt?_of_ne unsigned, toNat?_eq_some_iff.mpr ⟨⟨nonempty, allDigits⟩, rfl⟩]
      rfl
    · rw [toInt?_neg, toNat?_eq_some_iff.mpr ⟨⟨nonempty, allDigits⟩, rfl⟩]
      rfl

/-! ## The digits of a number -/

theorem isDigit_of_mem_ofNat {number : Nat} {character : Char}
    (member : character ∈ ofNat number) : character.isDigit = true :=
  Nat.isDigit_of_mem_toDigits (by decide) (by decide) member

theorem valueAfter_ofNat (number : Nat) :
    valueAfter 0 (ofNat number) = number := by
  rw [valueAfter, ofNat]
  exact Nat.ofDigitChars_eq_foldl.symm.trans Nat.ofDigitChars_ten_toDigits

/-- The digits of a number but zero do not start with a zero. -/
theorem ofNat_eq_cons {number : Nat} (positive : 0 < number) :
    ∃ first others, ofNat number = first :: others ∧ first ≠ '0' := by
  induction number using Nat.strongRecOn with
  | ind number induction =>
      by_cases small : number < 10
      · refine ⟨number.digitChar, [], Nat.toDigits_of_lt_base small, ?_⟩
        have all : ∀ digit < 10, 0 < digit → digit.digitChar ≠ '0' := by decide
        exact all number small positive
      · have large : 10 ≤ number := Nat.le_of_not_lt small
        rcases induction (number / 10) (by omega) (by omega) with
          ⟨first, others, digits, noZero⟩
        refine ⟨first, others ++ [(number % 10).digitChar], ?_, noZero⟩
        rw [ofNat, Nat.toDigits_of_base_le (by decide) large, ← ofNat, digits,
          List.cons_append]

/-- Zeros behind the digits of a number multiply it by a power of ten. -/
theorem ofNat_mul_pow
    {number : Nat} (positive : 0 < number) (places : Nat) :
    ofNat (number * Nat.pow 10 places) = ofNat number ++ List.replicate places '0' := by
  induction places with
  | zero => simp
  | succ places hypothesis =>
      have larger : 0 < number * Nat.pow 10 places :=
        Nat.mul_pos positive (Nat.pow_pos (by decide))
      have next : number * Nat.pow 10 (places + 1) = 10 * (number * Nat.pow 10 places) + 0 := by
        rw [Nat.pow_eq, Nat.pow_eq, Nat.pow_succ, ← Nat.mul_assoc, Nat.mul_comm _ 10,
          Nat.add_zero]
      rw [next, ofNat, ← Nat.toDigits_append_toDigits (by decide) larger (by decide), ← ofNat,
        hypothesis, List.append_assoc, List.replicate_succ']
      rfl

theorem all_isDigit_ofNat (number : Nat) : (ofNat number).all Char.isDigit := by
  rw [List.all_eq_true]
  exact fun _ => isDigit_of_mem_ofNat

theorem ofNat_ne_nil (number : Nat) : ofNat number ≠ [] := by
  rcases Nat.eq_zero_or_pos number with rfl | positive
  · exact nofun
  · rcases ofNat_eq_cons positive with ⟨first, others, digits, _⟩
    rw [digits]
    exact nofun

/-- A number has no more digits than the power of ten above it has zeros. -/
theorem length_ofNat_le
    {number places : Nat} (positive : 0 < places) (small : number < Nat.pow 10 places) :
    (ofNat number).length ≤ places :=
  Nat.toDigits_length 10 number places positive small

theorem length_ofNat_le_iff {number places : Nat} (positive : 0 < places) :
    (ofNat number).length ≤ places ↔ number < Nat.pow 10 places := by
  constructor
  · intro short
    have bound := valueAfter_zero_lt (all_isDigit_ofNat number)
    rw [valueAfter_ofNat] at bound
    exact Nat.lt_of_lt_of_le bound (Nat.pow_le_pow_right (by decide) short)
  · exact length_ofNat_le positive

/-- The last digits of a number with more digits than these are what dividing leaves out. -/
theorem exists_ofNat_eq_append {number places : Nat} (large : Nat.pow 10 places ≤ number) :
    ∃ last, ofNat number = ofNat (number / Nat.pow 10 places) ++ last ∧
      last.length = places := by
  induction places generalizing number with
  | zero =>
      refine ⟨[], ?_, rfl⟩
      rw [List.append_nil, Nat.pow_eq, Nat.pow_zero, Nat.div_one]
  | succ places hypothesis =>
      have power : Nat.pow 10 (places + 1) = 10 * Nat.pow 10 places := Nat.pow_succ'
      have positive : 0 < Nat.pow 10 places := Nat.pow_pos (by decide)
      rw [power] at large
      have ten_le : 10 ≤ number := by omega
      rcases @hypothesis (number / 10) (by omega) with ⟨last, digits, length_eq⟩
      refine ⟨last ++ [(number % 10).digitChar], ?_, ?_⟩
      · rw [power, ← Nat.div_div_eq_div_mul, ← List.append_assoc, ← digits, ofNat,
          Nat.toDigits_of_base_le (by decide) ten_le, ofNat]
      · rw [List.length_append, length_eq, List.length_singleton]

/-- A number but zero is at least the power of ten of its first digit. -/
theorem pow_le_of_positive {number : Nat} (positive : 0 < number) :
    Nat.pow 10 ((ofNat number).length - 1) ≤ number := by
  rcases ofNat_eq_cons positive with ⟨first, others, digits, noZero⟩
  have isDigit : first.isDigit := isDigit_of_mem_ofNat (digits ▸ List.mem_cons_self)
  have lower := (Char.isDigit_iff_toNat.mp isDigit).1
  have digit : 1 ≤ first.toNat - '0'.toNat := by
    have different : first.toNat ≠ '0'.toNat := fun same => noZero (Char.toNat_inj.mp same)
    omega
  have value := valueAfter_ofNat number
  rw [digits, valueAfter_cons, valueAfter_eq, append, Nat.mul_zero, Nat.zero_add] at value
  have leading := Nat.mul_le_mul_right (Nat.pow 10 others.length) digit
  rw [digits, List.length_cons, Nat.add_sub_cancel]
  omega

/-! ## Digits with zeros in front -/

theorem all_isDigit_padded (length number : Nat) : (padded length number).all Char.isDigit := by
  rw [padded, List.all_append, all_isDigit_ofNat, Bool.and_true, List.all_replicate]
  split <;> rfl

theorem length_le_padded (length number : Nat) : length ≤ (padded length number).length := by
  rw [padded, List.length_append, List.length_replicate]
  omega

/-- Zeros in front leave the number as it is. -/
theorem valueAfter_padded (length number : Nat) : valueAfter 0 (padded length number) = number := by
  have zeros : ∀ count, valueAfter 0 (List.replicate count '0') = 0 := by
    intro count
    induction count with
    | zero => rfl
    | succ count hypothesis => rwa [List.replicate_succ, valueAfter_cons]
  rw [padded, valueAfter_append, zeros, valueAfter_ofNat]

end PricePublisher.Digits
