import PricePublisher.Decimal.ToFloat
import PricePublisher.Proofs.Floating.Size

/-!
# Decimals are finite in floating point

A decimal is less than 2⁹⁶, and no step on its way to floating point leads far beyond
that, so every decimal becomes a finite number.
-/

namespace PricePublisher

open Floating

namespace Floating

variable {number : Float} {power : Int}

theorem Magnitude.nearestWhole_le (number : Magnitude) :
    number.nearestWhole ≤ number.significand + 1 := by
  have positive : 0 < Nat.pow 2 (-number.exponent).toNat := Nat.pow_pos (by decide)
  rw [nearestWhole]
  generalize Nat.pow 2 (-number.exponent).toNat = unit at positive
  apply Nat.div_le_of_le_mul
  have scaled := Nat.le_mul_of_pos_left number.significand positive
  calc 2 * number.significand + unit
      ≤ 2 * (unit * number.significand) + 2 * unit := by omega
    _ = 2 * unit * (number.significand + 1) := by ring

/-- Rounding to a whole number changes the size of small numbers only. -/
theorem IsBelow.nearestWhole (below : IsBelow power number) (least : 98 ≤ power) :
    IsBelow power (nearestWhole number) := by
  have whole : (magnitude number).nearestWhole < 2 ^ 96 :=
    (magnitude number).nearestWhole_le.trans_lt
      (Nat.lt_of_le_of_lt (isDouble_magnitude number).significand (by decide))
  have rounded := isBelow_toFloat whole
  rw [Floating.nearestWhole]
  split
  · exact below
  · split
    · exact (rounded.neg (by decide)).mono least
    · exact rounded.mono least

end Floating

namespace Decimal

/-- The powers of ten that a scale stands for are of a usual size. -/
theorem powerOfTen_bounds : ∀ scale ≤ scaleLimit,
    IsAtLeastOne (Nat.pow 10 scale).toFloat ∧ IsAtLeastOne (powerOfTen scale) ∧
      IsBelow 94 (powerOfTen scale) := by
  decide +kernel

theorem isBelow_magnitudeToFloat (decimal : Decimal) :
    IsBelow 197 decimal.magnitudeToFloat := by
  have mantissa : decimal.mantissa < 2 ^ 96 := decimal.mantissa_lt
  rcases powerOfTen_bounds decimal.scale decimal.scale_le with ⟨unit, factor, factorBelow⟩
  have whole := isBelow_toFloat (Nat.lt_of_le_of_lt
    (Nat.div_le_self decimal.mantissa (Nat.pow 10 decimal.scale)) mantissa)
  have places := isBelow_toFloat (Nat.lt_of_le_of_lt
    (Nat.mod_le decimal.mantissa (Nat.pow 10 decimal.scale)) mantissa)
  have fraction := places.div unit (by decide)
  have sum := (whole.mono (by decide)).add fraction (by decide)
  have scaled := sum.mul factorBelow (by decide)
  rw [magnitudeToFloat]
  split
  · exact (isBelow_toFloat mantissa).mono (by decide)
  · dsimp only
    split
    · exact whole.mono (by decide)
    · exact ((scaled.nearestWhole (by decide)).div factor (by decide)).mono (by decide)

/-- Every decimal is a finite number in floating point. -/
theorem isFinite_toFloat (decimal : Decimal) : decimal.toFloat.isFinite = true := by
  have below := decimal.isBelow_magnitudeToFloat
  rw [toFloat]
  split
  · exact (below.neg (by decide)).isFinite
  · exact below.isFinite

end Decimal

end PricePublisher
