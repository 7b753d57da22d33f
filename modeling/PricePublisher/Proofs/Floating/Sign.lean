import Mathlib

/-!
# Signs of floating-point numbers

A number is negative if its parts say so, and neither zero does.  A quotient of positive
numbers may be rounded to zero, but never below.
-/

namespace PricePublisher.Floating

open Float.Model UnpackedFloat

theorem zero_eq_ofModel : (0 : Float) = .ofModel (Float.Model.pack (.zero .positive)) := by
  decide +kernel

theorem unpack_pack_zero (sign : Sign) : (Float.Model.pack (.zero sign)).unpack = .zero sign := by
  cases sign <;> rfl

/-- Bits with the sign of a positive number stand for no number below zero. -/
theorem not_lt_zero_of_unpackSign {bits : BitVec Format.binary64.numBits}
    (sign : unpackSign bits = 0) :
    (UnpackedFloat.unpack .binary64 bits).lt (.zero .positive) = false := by
  rw [UnpackedFloat.unpack, sign]
  dsimp only
  split
  · split
    · rfl
    · rfl
  · split
    · split
      · rfl
      · rfl
    · rfl

theorem unpackSign_pack_round (mantissa : Nat) (exponent : Int) (accuracy : Accuracy) :
    unpackSign (UnpackedFloat.pack .binary64
      (roundWithAccuracy .binary64 .positive mantissa exponent accuracy)) = 0 := by
  rw [roundWithAccuracy]
  dsimp only
  -- The result may be rounded to zero, be subnormal or normal; its sign is written alike.
  split
  · exact unpackSign_packComponents .positive _ _
  · rw [UnpackedFloat.pack]
    dsimp only
    split
    · exact unpackSign_packComponents .positive _ _
    · split
      · exact unpackSign_packComponents .positive _ _
      · exact unpackSign_packComponents .positive _ _

theorem lt_zero_iff {number : Float} :
    number < 0 ↔ number.toModel.unpack.lt (.zero .positive) = true := by
  have zero : (0 : Float).toModel.unpack = .zero .positive := by
    rw [zero_eq_ofModel]
    exact unpack_pack_zero .positive
  rw [← zero]
  exact decide_eq_true_iff

/-- A quotient of positive numbers is not negative, be it rounded to zero. -/
theorem not_div_neg {left right : Float} {mantissa other : Nat} {exponent otherExponent : Int}
    {positive : 0 < mantissa} {otherPositive : 0 < other}
    (dividend : left.toModel.unpack = .finite .positive mantissa exponent positive)
    (divisor : right.toModel.unpack = .finite .positive other otherExponent otherPositive) :
    ¬ left / right < 0 := by
  have quotient : (left / right).toModel = Float.Model.pack (UnpackedFloat.div .binary64
      left.toModel.unpack right.toModel.unpack) := rfl
  rw [lt_zero_iff, quotient, dividend, divisor, Bool.not_eq_true]
  exact not_lt_zero_of_unpackSign (unpackSign_pack_round _ _ _)

/-- A finite number that is neither zero nor less is positive. -/
theorem exists_parts_of_pos {number : Float} (finite : number.isFinite = true)
    (nonzero : (number == 0) = false) (nonneg : ¬ number < 0) :
    ∃ mantissa exponent positive,
      number.toModel.unpack = .finite .positive mantissa exponent positive := by
  rw [zero_eq_ofModel] at nonzero
  rw [lt_zero_iff] at nonneg
  rcases number with ⟨model⟩
  change model.unpack.isFinite = true at finite
  change model.unpack.beq (.zero .positive) = false at nonzero
  change ¬ model.unpack.lt (.zero .positive) = true at nonneg
  change ∃ mantissa exponent positive, model.unpack = _
  generalize model.unpack = parts at finite nonzero nonneg
  cases parts with
  | zero sign => cases nonzero
  | finite sign mantissa exponent positive =>
      cases sign with
      | negative => exact absurd rfl nonneg
      | positive => exact ⟨mantissa, exponent, positive, rfl⟩
  | infinity sign => cases finite
  | notANumber => cases finite

/-- Either zero is finite and not negative. -/
theorem finite_nonneg_of_zero {number : Float} (zero : (number == 0) = true) :
    number.isFinite = true ∧ ¬ number < 0 := by
  rw [zero_eq_ofModel] at zero
  rw [lt_zero_iff]
  rcases number with ⟨model⟩
  change model.unpack.beq (.zero .positive) = true at zero
  change model.unpack.isFinite = true ∧ ¬ model.unpack.lt (.zero .positive) = true
  generalize model.unpack = parts at zero
  cases parts with
  | zero sign => exact ⟨rfl, nofun⟩
  | finite sign mantissa exponent positive => cases sign <;> cases zero
  | infinity sign => cases sign <;> cases zero
  | notANumber => cases zero

end PricePublisher.Floating
