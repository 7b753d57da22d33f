import Mathlib.Data.Rat.Floor
import PricePublisher.Price.Quantized
import PricePublisher.Proofs.Decimal.Digits

/-!
# The price of a decimal is that of its number

Whether zeros are put behind the digits of a mantissa or the mantissa is divided, what is
written are the whole units in the number that the decimal stands for, cut off towards
zero.  So decimals of one number have one price, be their scales and the signs of their
zeros what they may.
-/

namespace PricePublisher.QuantizedPrice

variable {decimal : Decimal}

/-- The whole units in a number, cut off towards zero. -/
def wholeUnits (number : Rat) : Int :=
  let units := number * (Nat.pow 10 unitPlaces : Nat)
  if 0 ≤ units then units.floor else units.ceil

/-- Cutting a fraction off towards zero is division that cuts off towards zero. -/
theorem truncate_div (numerator : Int) {denominator : Nat} (positive : 0 < denominator) :
    (if (0 : Rat) ≤ numerator / denominator then
        ((numerator : Rat) / denominator).floor
      else ((numerator : Rat) / denominator).ceil) = numerator.tdiv denominator := by
  have floored : ∀ number : Int, ((number : Rat) / denominator).floor = number / denominator :=
    fun number => Rat.floor_intCast_div_natCast number denominator
  have positive' : (0 : Rat) < denominator := Nat.cast_pos.mpr positive
  by_cases nonneg : 0 ≤ numerator
  · have sign : (0 : Rat) ≤ numerator / denominator :=
      div_nonneg (Int.cast_nonneg nonneg) positive'.le
    rw [if_pos sign, floored, Int.tdiv_eq_ediv_of_nonneg nonneg]
  · have negative : numerator < 0 := Int.not_le.mp nonneg
    have sign : ¬ (0 : Rat) ≤ numerator / denominator :=
      not_le.mpr (div_neg_of_neg_of_pos (Int.cast_lt_zero.mpr negative) positive')
    have opposite : -((numerator : Rat) / denominator) =
        ((-numerator : Int) : Rat) / denominator := by
      rw [Int.cast_neg, neg_div]
    rw [if_neg sign, Rat.ceil_eq_neg_floor_neg, opposite, floored,
      ← Int.tdiv_eq_ediv_of_nonneg (by omega), Int.neg_tdiv, neg_neg]

theorem wholeUnits_toRat (decimal : Decimal) :
    wholeUnits decimal.toRat =
      (decimal.signedMantissa * (Nat.pow 10 unitPlaces : Nat)).tdiv
        (Nat.pow 10 decimal.scale : Nat) := by
  have units : decimal.toRat * (Nat.pow 10 unitPlaces : Nat) =
      ((decimal.signedMantissa * (Nat.pow 10 unitPlaces : Nat) : Int) : Rat)
        / (Nat.pow 10 decimal.scale : Nat) := by
    rw [Decimal.toRat, Rat.mkRat_eq_div, div_mul_eq_mul_div, Int.cast_mul, Int.cast_natCast]
  rw [wholeUnits, units]
  exact truncate_div _ (Nat.pow_pos (by decide))

/-- Zeros behind the digits of a number multiply it by a power of ten. -/
theorem wholeChars_mul_pow {number : Int} (nonzero : number ≠ 0) (places : Nat) :
    wholeChars (number * (Nat.pow 10 places : Nat)) =
      wholeChars number ++ List.replicate places '0' := by
  have positive : 0 < number.natAbs := Int.natAbs_pos.mpr nonzero
  have power : (0 : Int) < (Nat.pow 10 places : Nat) :=
    Int.natCast_pos.mpr (Nat.pow_pos (by decide))
  have digits : Digits.ofNat (number * (Nat.pow 10 places : Nat)).natAbs =
      Digits.ofNat number.natAbs ++ List.replicate places '0' := by
    rw [Int.natAbs_mul, Int.natAbs_natCast, Digits.ofNat_mul_pow positive]
  by_cases negative : number < 0
  · rw [wholeChars, if_pos (Int.mul_neg_of_neg_of_pos negative power), digits, wholeChars,
      if_pos negative, List.cons_append]
  · have nonneg : ¬ number * (Nat.pow 10 places : Nat) < 0 :=
      Int.not_lt.mpr (Int.mul_nonneg (Int.not_lt.mp negative) power.le)
    rw [wholeChars, if_neg nonneg, digits, wholeChars, if_neg negative]

/-- All three ways to count the units write the whole units of the number. -/
theorem unitChars?_eq (decimal : Decimal) :
    unitChars? decimal = some (wholeChars (wholeUnits decimal.toRat)) := by
  rw [wholeUnits_toRat]
  by_cases zero : decimal.signedMantissa = 0
  · rw [unitChars?, if_pos zero, zero, Int.zero_mul, Int.zero_tdiv]
    rfl
  · rcases Nat.lt_or_ge unitPlaces decimal.scale with many | few
    · have powers : (Nat.pow 10 decimal.scale : Nat) =
          Nat.pow 10 unitPlaces * Nat.pow 10 (decimal.scale - unitPlaces) := by
        rw [Nat.pow_eq, Nat.pow_eq, Nat.pow_eq, ← Nat.pow_add, Nat.add_sub_cancel' many.le]
      have positive : (0 : Int) < (Nat.pow 10 unitPlaces : Nat) := by decide
      rw [unitChars?_of_many_places zero many, powers, Nat.cast_mul, mul_comm,
        Int.mul_tdiv_mul_of_pos _ _ positive, unitDivisor]
    · have powers : (Nat.pow 10 unitPlaces : Nat) =
          Nat.pow 10 decimal.scale * Nat.pow 10 (unitPlaces - decimal.scale) := by
        rw [Nat.pow_eq, Nat.pow_eq, Nat.pow_eq, ← Nat.pow_add, Nat.add_sub_cancel' few]
      have nonzero : ((Nat.pow 10 decimal.scale : Nat) : Int) ≠ 0 :=
        Int.natCast_ne_zero.mpr (Nat.pow_pos (by decide)).ne'
      rw [unitChars?, if_neg zero, if_pos few, ← wholeChars_mul_pow zero, powers, Nat.cast_mul,
        mul_left_comm, Int.mul_tdiv_cancel_left _ nonzero]

theorem ofList_wholeChars (number : Int) :
    String.ofList (wholeChars number) = toString number := by
  rw [Int.toString_eq_repr, wholeChars]
  cases number with
  | ofNat magnitude =>
      have nonneg : ¬ Int.ofNat magnitude < 0 := Int.not_lt.mpr (Int.natCast_nonneg magnitude)
      rw [if_neg nonneg]
      rfl
  | negSucc magnitude =>
      rw [if_pos (Int.negSucc_lt_zero magnitude)]
      exact String.ofList_cons

/-- The text in base ten, of which the last six of more than six characters are cleared. -/
theorem ofList_clearLast (number : Int) :
    String.ofList (clearLast (wholeChars number)) =
      if (toString number).length ≤ 6 then toString number
      else String.ofList ((toString number).toList.take ((toString number).length - 6))
        ++ "000000" := by
  have written := ofList_wholeChars number
  have length_eq : (toString number).length = (wholeChars number).length := by
    rw [← written, String.length_ofList]
  have characters : (toString number).toList = wholeChars number := by
    rw [← written, String.toList_ofList]
  rw [length_eq, characters, clearLast, clearedLength]
  split
  · exact written
  · rw [String.ofList_append]
    rfl

/-- What is published for a decimal, in terms of its number alone. -/
theorem ofDecimal?_eq (decimal : Decimal) :
    ofDecimal? decimal =
      some ⟨String.ofList (clearLast (wholeChars (wholeUnits decimal.toRat)))⟩ := by
  rw [ofDecimal?, unitChars?_eq, Option.map_some]

/--
Every decimal has a price, and its text is made from the number that the decimal stands for:
the whole units in base ten, of which the last six of more than six characters are cleared.
-/
theorem ofDecimal_follows_number (decimal : Decimal) :
    let digits := toString (wholeUnits decimal.toRat)
    ofDecimal? decimal =
        some ⟨if digits.length ≤ 6 then digits
          else String.ofList (digits.toList.take (digits.length - 6)) ++ "000000"⟩ ∧
      ofDecimal? decimal = some (ofDecimal decimal) ∧
      ∀ other : Decimal, other.toRat = decimal.toRat → ofDecimal other = ofDecimal decimal := by
  intro digits
  have succeeds : ∀ decimal, ofDecimal? decimal = some (ofDecimal decimal) :=
    fun decimal => (Option.some_get (isSome_ofDecimal? decimal)).symm
  refine ⟨?_, succeeds decimal, ?_⟩
  · rw [ofDecimal?_eq, ofList_clearLast]
  · intro other same
    have equal : ofDecimal? other = ofDecimal? decimal := by
      rw [ofDecimal?_eq, ofDecimal?_eq, same]
    rwa [succeeds, succeeds, Option.some.injEq] at equal

/-- One and a half has one price, padded or divided, and so has zero of either sign. -/
theorem one_price_for_one_number :
    let few : Decimal := ⟨true, 15, 1, by decide, by decide⟩
    let many : Decimal := ⟨true, 15 * Nat.pow 10 24, 25, by decide, by decide⟩
    let negativeZero : Decimal := ⟨true, 0, 3, by decide, by decide⟩
    (many.toRat = few.toRat ∧ ofDecimal many = ofDecimal few) ∧
      negativeZero.toRat = Decimal.zero.toRat ∧
      ofDecimal negativeZero = ofDecimal Decimal.zero := by
  intro few many negativeZero
  have halves : many.toRat = few.toRat := by decide +kernel
  have zeros : negativeZero.toRat = Decimal.zero.toRat := by decide +kernel
  exact ⟨⟨halves, (ofDecimal_follows_number few).2.2 many halves⟩, zeros,
    (ofDecimal_follows_number Decimal.zero).2.2 negativeZero zeros⟩

end PricePublisher.QuantizedPrice
