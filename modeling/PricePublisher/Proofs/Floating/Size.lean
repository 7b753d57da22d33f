import Mathlib
import PricePublisher.Floating.Whole
import PricePublisher.Proofs.Floating.Shortest

/-!
# Sizes of floating-point numbers

Arithmetic on finite numbers leads to an infinite one only where the result outgrows the
largest magnitude.  A size here is a power of two that a magnitude stays below: an operation
adds, or for a product sums up, the sizes of its operands, and one more for the rounding.
Results far below the largest magnitude are therefore finite.

The bounds are generous.  They tell whether a number is finite, not how exact it is.
-/

namespace PricePublisher.Floating

open Float.Model UnpackedFloat

variable {mantissa : Nat} {exponent power : Int}

/-! ## Rounding -/

theorem mantissa_shiftRight (extended : ExtendedMantissa) (places : Nat) :
    (extended >>> places).mantissa = extended.mantissa / 2 ^ places := by
  change (places.repeat ExtendedMantissa.shiftRightOne extended).mantissa = _
  induction places with
  | zero => simp [Nat.repeat]
  | succ places induction =>
      rw [Nat.repeat, Nat.pow_succ, ← Nat.div_div_eq_div_mul, ← induction]
      rfl

theorem mantissa_ofMantissaAndAccuracy (mantissa : Nat) (accuracy : Accuracy) :
    (ExtendedMantissa.ofMantissaAndAccuracy mantissa accuracy).mantissa = mantissa := by
  cases accuracy with
  | exact => rfl
  | inexact order => cases order <;> rfl

theorem roundedMantissa_le (extended : ExtendedMantissa) :
    extended.roundedMantissa ≤ extended.mantissa + 1 := by
  rw [ExtendedMantissa.roundedMantissa]
  cases extended.accuracy with
  | exact => exact Nat.le_succ _
  | inexact order =>
      cases order with
      | lt => exact Nat.le_succ _
      | eq =>
          simp only [Accuracy.roundToNearestEven]
          omega
      | gt => exact Nat.le_refl _

theorem log2_le_of_lt_pow {number places : Nat} (small : number < 2 ^ (places + 1)) :
    Nat.log2 number ≤ places := by
  by_cases zero : number = 0
  · subst zero
    exact Nat.zero_le _
  · exact Nat.le_of_lt_succ ((Nat.log2_lt zero).mpr small)

/-- Binary places that are cut off do not make a number larger. -/
theorem totalExponent_div_pow_le
    {places : Nat} (nonzero : mantissa / 2 ^ places ≠ 0) (exponent : Int) :
    totalExponent (mantissa / 2 ^ places) (exponent + places) ≤
      totalExponent mantissa exponent := by
  have large : 2 ^ places ≤ mantissa := Nat.le_of_not_lt fun less =>
    nonzero (Nat.div_eq_of_lt less)
  have positive : mantissa ≠ 0 := fun zero => nonzero (by simp [zero])
  have kept : places ≤ Nat.log2 mantissa := (Nat.le_log2 positive).mpr large
  have shifted : Nat.log2 (mantissa / 2 ^ places) ≤ Nat.log2 mantissa - places := by
    apply log2_le_of_lt_pow
    rw [Nat.div_lt_iff_lt_mul (Nat.two_pow_pos places), ← Nat.pow_add]
    rw [show Nat.log2 mantissa - places + 1 + places = Nat.log2 mantissa + 1 by omega]
    exact Nat.lt_log2_self
  rw [totalExponent, totalExponent]
  omega

theorem totalExponent_shiftLeft_le (mantissa places : Nat) (exponent : Int) :
    totalExponent (mantissa <<< places) (exponent - places) ≤
      totalExponent mantissa exponent := by
  have shifted : Nat.log2 (mantissa <<< places) ≤ Nat.log2 mantissa + places := by
    apply log2_le_of_lt_pow
    rw [Nat.shiftLeft_eq, Nat.add_right_comm, Nat.pow_add]
    exact Nat.mul_lt_mul_of_pos_right Nat.lt_log2_self (Nat.two_pow_pos places)
  rw [totalExponent, totalExponent]
  omega

/-- Rounding a mantissa up takes at most one more place. -/
theorem totalExponent_rounded_le (mantissa : Nat) (exponent : Int) (accuracy : Accuracy) :
    let shifted := shiftToTargetExponent .binary64 mantissa exponent accuracy
    totalExponent shifted.1.roundedMantissa shifted.2 ≤
      max (totalExponent mantissa exponent) (-1074) + 1 := by
  intro shifted
  have target : Format.binary64.targetExponent (totalExponent mantissa exponent) =
      max (totalExponent mantissa exponent - 53) (-1074) := rfl
  obtain ⟨places, amount⟩ : ∃ places : Nat,
      (Format.binary64.targetExponent (totalExponent mantissa exponent) - exponent).toNat =
        places := ⟨_, rfl⟩
  have exponentEq : shifted.2 = exponent + places := by
    simp only [shifted, shiftToTargetExponent, shiftToExponent, amount]
  have mantissaEq : shifted.1.mantissa = mantissa / 2 ^ places := by
    simp only [shifted, shiftToTargetExponent, shiftToExponent, amount, mantissa_shiftRight,
      mantissa_ofMantissaAndAccuracy]
  have rounded := roundedMantissa_le shifted.1
  rw [mantissaEq] at rounded
  rw [exponentEq]
  by_cases vanishes : mantissa / 2 ^ places = 0
  · have digit : Nat.log2 shifted.1.roundedMantissa ≤ 0 := log2_le_of_lt_pow (by omega)
    rw [target] at amount
    simp only [totalExponent] at amount ⊢
    omega
  · have kept := totalExponent_div_pow_le vanishes exponent
    have carried : Nat.log2 shifted.1.roundedMantissa ≤ Nat.log2 (mantissa / 2 ^ places) + 1 := by
      apply log2_le_of_lt_pow
      have less := @Nat.lt_log2_self (mantissa / 2 ^ places)
      rw [Nat.pow_succ]
      omega
    simp only [totalExponent] at kept ⊢
    omega

theorem totalExponent_mul_le (left right : Nat) (leftExponent rightExponent : Int) :
    totalExponent (left * right) (leftExponent + rightExponent) ≤
      totalExponent left leftExponent + totalExponent right rightExponent := by
  have product : Nat.log2 (left * right) ≤ Nat.log2 left + Nat.log2 right + 1 := by
    apply log2_le_of_lt_pow
    rw [show Nat.log2 left + Nat.log2 right + 1 + 1 =
      (Nat.log2 left + 1) + (Nat.log2 right + 1) by omega, Nat.pow_add]
    exact Nat.mul_lt_mul'' Nat.lt_log2_self Nat.lt_log2_self
  simp only [totalExponent]
  omega

theorem totalExponent_add_le {left right : Int}
    (first : totalExponent left.natAbs exponent ≤ power)
    (second : totalExponent right.natAbs exponent ≤ power) :
    totalExponent (left + right).natAbs exponent ≤ power + 1 := by
  obtain ⟨places, larger⟩ :
      ∃ places, max (Nat.log2 left.natAbs) (Nat.log2 right.natAbs) = places := ⟨_, rfl⟩
  have bound : ∀ number : Nat, Nat.log2 number ≤ places → number < 2 ^ (places + 1) := by
    intro number digits
    exact Nat.lt_log2_self.trans_le (Nat.pow_le_pow_right (by decide) (by omega))
  have sum : Nat.log2 (left + right).natAbs ≤ places + 1 := by
    have leftBound := bound left.natAbs (by omega)
    have rightBound := bound right.natAbs (by omega)
    apply log2_le_of_lt_pow
    rw [Nat.pow_succ]
    omega
  simp only [totalExponent] at first second ⊢
  omega

/-- A quotient by a number of magnitude one or more is no larger than the dividend. -/
theorem totalExponent_divCore_le
    {left right : Nat} {leftExponent rightExponent : Int}
    (bound : totalExponent left leftExponent ≤ power)
    (divisor : 0 < right) (atLeastOne : 0 < totalExponent right rightExponent)
    (least : -1073 ≤ power) :
    let quotient := divCore .binary64 left leftExponent right rightExponent
    totalExponent quotient.1 quotient.2.1 ≤ power := by
  rw [divCore]
  obtain ⟨lowest, target⟩ : ∃ lowest, min (leftExponent - rightExponent)
      (Format.binary64.targetExponent
        (totalExponent left leftExponent - totalExponent right rightExponent)) = lowest := ⟨_, rfl⟩
  simp only [target]
  have targetEq : Format.binary64.targetExponent
      (totalExponent left leftExponent - totalExponent right rightExponent) =
        max (totalExponent left leftExponent - totalExponent right rightExponent - 53) (-1074) :=
    rfl
  rw [targetEq] at target
  obtain ⟨places, shift⟩ : ∃ places : Nat, (leftExponent - rightExponent - lowest).toNat = places :=
    ⟨_, rfl⟩
  rw [shift]
  have shifted := totalExponent_shiftLeft_le left places (leftExponent - rightExponent)
  rw [show leftExponent - rightExponent - places = lowest by omega] at shifted
  have coarse : left <<< places / right ≤ left <<< places / 2 ^ Nat.log2 right :=
    Nat.div_le_div_left (Nat.log2_self_le divisor.ne') (Nat.two_pow_pos _)
  by_cases vanishes : left <<< places / 2 ^ Nat.log2 right = 0
  · have none : left <<< places / right = 0 := Nat.le_zero.mp (coarse.trans_eq vanishes)
    have digits : Nat.log2 (left <<< places / right) = 0 := by
      rw [none]
      rfl
    simp only [totalExponent] at bound atLeastOne target ⊢
    omega
  · have cut := totalExponent_div_pow_le vanishes lowest
    have less : Nat.log2 (left <<< places / right) ≤
        Nat.log2 (left <<< places / 2 ^ Nat.log2 right) :=
      log2_le_of_lt_pow (coarse.trans_lt Nat.lt_log2_self)
    simp only [totalExponent] at bound atLeastOne shifted cut ⊢
    omega

/-! ## Sizes of parts -/

/-- Parts of a finite number whose magnitude is less than a power of two. -/
inductive PartsBelow (power : Int) : UnpackedFloat → Prop
  | zero (sign : Sign) : PartsBelow power (.zero sign)
  | finite (sign : Sign) {mantissa : Nat} {exponent : Int} (positive : 0 < mantissa)
      (bound : totalExponent mantissa exponent ≤ power) :
      PartsBelow power (.finite sign mantissa exponent positive)

/-- Parts of a finite number whose magnitude is at least one. -/
inductive PartsAtLeastOne : UnpackedFloat → Prop
  | finite (sign : Sign) {mantissa : Nat} {exponent : Int} (positive : 0 < mantissa)
      (large : 0 < totalExponent mantissa exponent) :
      PartsAtLeastOne (.finite sign mantissa exponent positive)

instance (power : Int) (parts : UnpackedFloat) : Decidable (PartsBelow power parts) :=
  match parts with
  | .zero sign => .isTrue (.zero sign)
  | .finite sign mantissa exponent positive =>
      if bound : totalExponent mantissa exponent ≤ power then .isTrue (.finite sign positive bound)
      else .isFalse fun | .finite _ _ below => bound below
  | .infinity _ => .isFalse nofun
  | .notANumber => .isFalse nofun

instance (parts : UnpackedFloat) : Decidable (PartsAtLeastOne parts) :=
  match parts with
  | .finite sign mantissa exponent positive =>
      if large : 0 < totalExponent mantissa exponent then .isTrue (.finite sign positive large)
      else .isFalse fun | .finite _ _ atLeast => large atLeast
  | .zero _ => .isFalse nofun
  | .infinity _ => .isFalse nofun
  | .notANumber => .isFalse nofun

namespace PartsBelow

variable {left right parts : UnpackedFloat} {leftPower rightPower : Int}

theorem mono (below : PartsBelow power parts) {larger : Int} (le : power ≤ larger) :
    PartsBelow larger parts := by
  cases below with
  | zero sign => exact .zero sign
  | finite sign positive bound => exact .finite sign positive (bound.trans le)

theorem roundWithAccuracy
    (bound : totalExponent mantissa exponent ≤ power) (least : -1074 ≤ power)
    (sign : Sign) (accuracy : Accuracy) :
    PartsBelow (power + 1)
      (UnpackedFloat.roundWithAccuracy .binary64 sign mantissa exponent accuracy) := by
  have rounded := totalExponent_rounded_le mantissa exponent accuracy
  rw [UnpackedFloat.roundWithAccuracy]
  generalize shiftToTargetExponent .binary64 mantissa exponent accuracy = first at rounded
  rcases first with ⟨extended, shiftedExponent⟩
  simp only [shiftToTargetExponent, shiftToExponent, mantissa_shiftRight,
    mantissa_ofMantissaAndAccuracy]
  split
  next => exact .zero sign
  next nonzero =>
    have kept := totalExponent_div_pow_le nonzero shiftedExponent
    simp only at rounded
    exact .finite sign _ (kept.trans (by omega))

theorem normalize
    {number : Int} (bound : totalExponent number.natAbs exponent ≤ power)
    (least : -1074 ≤ power) (zeroSign : Sign) :
    PartsBelow (power + 1) (UnpackedFloat.normalize .binary64 number exponent zeroSign) := by
  have rounds : ∀ (sign : Sign) (mantissa : Nat), mantissa = number.natAbs →
      PartsBelow (power + 1) (UnpackedFloat.round .binary64 sign mantissa exponent) := by
    rintro sign _ rfl
    have same := totalExponent_shiftLeft_le number.natAbs
      (exponent - Format.binary64.targetExponent
        (totalExponent number.natAbs exponent)).toNat exponent
    exact roundWithAccuracy (same.trans bound) least sign .exact
  rw [UnpackedFloat.normalize]
  split
  next less =>
    have negative := Int.compare_eq_lt.mp less
    exact rounds .negative _ (by omega)
  next => exact .zero zeroSign
  next greater =>
    have positive := Int.compare_eq_gt.mp greater
    exact rounds .positive _ (by omega)

theorem mul
    (first : PartsBelow leftPower left) (second : PartsBelow rightPower right)
    (least : -1074 ≤ leftPower + rightPower) :
    PartsBelow (leftPower + rightPower + 1) (UnpackedFloat.mul .binary64 left right) := by
  cases first with
  | zero sign =>
      cases second with
      | zero other => exact .zero _
      | finite other positive bound => exact .zero _
  | @finite sign mantissa exponent positive bound =>
      cases second with
      | zero other => exact .zero _
      | @finite other otherMantissa otherExponent otherPositive otherBound =>
          have product :=
            totalExponent_mul_le mantissa otherMantissa exponent otherExponent
          exact roundWithAccuracy (by omega) least _ _

theorem add
    (first : PartsBelow power left) (second : PartsBelow power right) (least : -1074 ≤ power) :
    PartsBelow (power + 1 + 1) (UnpackedFloat.add .binary64 left right) := by
  have larger : power ≤ power + 1 + 1 := by omega
  cases first with
  | zero sign =>
      cases second with
      | zero other =>
          rw [UnpackedFloat.add]
          split
          · exact .zero sign
          · exact .zero .positive
      | finite other positive bound => exact .finite other positive (bound.trans larger)
  | @finite sign mantissa exponent positive bound =>
      cases second with
      | zero other => exact .finite sign positive (bound.trans larger)
      | @finite other otherMantissa otherExponent otherPositive otherBound =>
          obtain ⟨lower, lowerEq⟩ : ∃ lower, min exponent otherExponent = lower := ⟨_, rfl⟩
          have aligned : ∀ (sign : Sign) {mantissa : Nat} {exponent : Int}, lower ≤ exponent →
              totalExponent mantissa exponent ≤ power →
              totalExponent (sign.apply (mantissa <<< (exponent - lower).toNat : Nat)).natAbs
                lower ≤ power := by
            intro sign mantissa exponent le bound
            have shifted := totalExponent_shiftLeft_le mantissa (exponent - lower).toNat exponent
            rw [show exponent - ((exponent - lower).toNat : Int) = lower by omega] at shifted
            cases sign with
            | negative =>
                rw [Sign.apply, Int.natAbs_neg]
                exact shifted.trans bound
            | positive => exact shifted.trans bound
          have sum := totalExponent_add_le (aligned sign (by omega) bound)
            (aligned other (by omega) otherBound)
          rw [UnpackedFloat.add]
          simp only [lowerEq, decreaseExponent]
          exact normalize sum (by omega) .positive

theorem div
    (dividend : PartsBelow power left) (divisor : PartsAtLeastOne right)
    (least : -1073 ≤ power) :
    PartsBelow (power + 1) (UnpackedFloat.div .binary64 left right) := by
  cases divisor with
  | finite other otherPositive large =>
      cases dividend with
      | zero sign => exact .zero _
      | finite sign positive bound =>
          exact roundWithAccuracy (totalExponent_divCore_le bound otherPositive large least)
            (by omega) _ _

theorem neg (below : PartsBelow power parts) : PartsBelow power parts.neg := by
  cases below with
  | zero sign => exact .zero _
  | finite sign positive bound => exact .finite _ positive bound

end PartsBelow

/-! ## Packing -/

/-- Sizes that are neither below the smallest normal numbers nor near the largest. -/
def IsUsualSize (power : Int) : Prop :=
  -1022 ≤ power ∧ power ≤ 971

instance (power : Int) : Decidable (IsUsualSize power) :=
  inferInstanceAs (Decidable (_ ∧ _))

/-- Bits whose exponent is not the largest stand for a number of the size of the exponent. -/
theorem partsBelow_unpack {bits : BitVec Format.binary64.numBits}
    (finite : (unpackExponent bits).toNat < 2047)
    (bound : ((unpackExponent bits).toNat : Int) - 1022 ≤ power) :
    PartsBelow power (UnpackedFloat.unpack .binary64 bits) := by
  have bias : (Format.binary64.exponentBias : Int) = 1023 := rfl
  have fraction : Nat.log2 (unpackMantissa bits).toNat ≤ 51 :=
    log2_le_of_lt_pow (unpackMantissa bits).isLt
  have whole : Nat.log2 (1#1 ++ unpackMantissa bits).toNat ≤ 52 :=
    log2_le_of_lt_pow (1#1 ++ unpackMantissa bits).isLt
  rw [UnpackedFloat.unpack]
  dsimp only
  split
  next infinite =>
    rw [infinite] at finite
    exact absurd finite (by decide)
  next =>
    split
    next subnormal =>
      split
      next => exact .zero _
      next =>
        have zero : (unpackExponent bits).toNat = 0 := by rw [subnormal]; rfl
        refine .finite _ _ ?_
        rw [totalExponent, bias]
        omega
    next =>
      refine .finite _ _ ?_
      rw [totalExponent, bias]
      omega

/-- Parts of a usual size are packed as a finite number of that size. -/
theorem PartsBelow.unpack_pack {parts : UnpackedFloat}
    (below : PartsBelow power parts) (usual : IsUsualSize power) :
    PartsBelow power (Float.Model.pack parts).unpack := by
  rcases usual with ⟨least, greatest⟩
  have unpacks : ∀ (sign : Sign) (field : BitVec 11) (fraction : BitVec 52),
      field.toNat < 2047 → (field.toNat : Int) - 1022 ≤ power →
      PartsBelow power
        (UnpackedFloat.unpack .binary64 (packComponents .binary64 sign field fraction)) := by
    intro sign field fraction finite bound
    apply partsBelow_unpack
    · rwa [unpackExponent_packComponents]
    · rwa [unpackExponent_packComponents]
  change PartsBelow power (UnpackedFloat.unpack .binary64 (UnpackedFloat.pack .binary64 parts))
  cases below with
  | zero sign => exact unpacks sign 0 0 (by decide) least
  | @finite sign mantissa exponent positive bound =>
      have bias : (Format.binary64.exponentBias : Int) = 1023 := rfl
      rw [totalExponent] at bound
      rw [UnpackedFloat.pack]
      dsimp only
      rw [bias, if_neg (by omega)]
      split
      next normal =>
        have digits : Nat.log2 mantissa = 52 := Nat.succ.inj normal
        have small : (exponent + 1023 + (52 : Nat)).toNat < 2 ^ 11 := by omega
        apply unpacks
        · rw [BitVec.toNat_ofNat, Nat.mod_eq_of_lt small]
          omega
        · rw [BitVec.toNat_ofNat, Nat.mod_eq_of_lt small]
          omega
      next => exact unpacks sign 0 _ (by decide) least

/-! ## Sizes of numbers -/

/-- A number is finite and its magnitude is less than a power of two. -/
def IsBelow (power : Int) (number : Float) : Prop :=
  PartsBelow power number.toModel.unpack

/-- A number is finite and its magnitude is at least one. -/
def IsAtLeastOne (number : Float) : Prop :=
  PartsAtLeastOne number.toModel.unpack

instance (power : Int) (number : Float) : Decidable (IsBelow power number) :=
  inferInstanceAs (Decidable (PartsBelow power number.toModel.unpack))

instance (number : Float) : Decidable (IsAtLeastOne number) :=
  inferInstanceAs (Decidable (PartsAtLeastOne number.toModel.unpack))

namespace IsBelow

variable {left right number : Float} {leftPower rightPower : Int}

theorem isFinite (below : IsBelow power number) : number.isFinite = true := by
  rw [IsBelow] at below
  change number.toModel.unpack.isFinite = true
  generalize number.toModel.unpack = parts at below
  cases below with
  | zero sign => rfl
  | finite sign positive bound => rfl

theorem mono (below : IsBelow power number) {larger : Int} (le : power ≤ larger) :
    IsBelow larger number :=
  PartsBelow.mono below le

theorem neg (below : IsBelow power number) (usual : IsUsualSize power) :
    IsBelow power (-number) :=
  (PartsBelow.neg below).unpack_pack usual

theorem mul
    (first : IsBelow leftPower left) (second : IsBelow rightPower right)
    (usual : IsUsualSize (leftPower + rightPower + 1)) :
    IsBelow (leftPower + rightPower + 1) (left * right) := by
  have least := usual.1
  exact (PartsBelow.mul first second (by omega)).unpack_pack usual

theorem add
    (first : IsBelow power left) (second : IsBelow power right)
    (usual : IsUsualSize (power + 1 + 1)) :
    IsBelow (power + 1 + 1) (left + right) := by
  have least := usual.1
  exact (PartsBelow.add first second (by omega)).unpack_pack usual

theorem div
    (dividend : IsBelow power left) (divisor : IsAtLeastOne right)
    (usual : IsUsualSize (power + 1)) :
    IsBelow (power + 1) (left / right) := by
  have least := usual.1
  exact (PartsBelow.div dividend divisor (by omega)).unpack_pack usual

end IsBelow

/-! ## Whole numbers -/

theorem totalExponent_of_lt_pow {number places : Nat} (small : number < 2 ^ (places + 1)) :
    totalExponent number 0 ≤ places + 1 := by
  have digits := log2_le_of_lt_pow small
  rw [totalExponent]
  omega

theorem isBelow_toFloat {number : Nat} (small : number < 2 ^ 96) : IsBelow 98 number.toFloat := by
  change IsBelow 98 (Float.ofScientific number false 0)
  rw [Float.ofScientific]
  split
  next =>
    have unit : IsBelow 1 Float.exactlyRepresentablePowersOfTen[0] := by decide +kernel
    have word : totalExponent (number.toUInt64.toNat : Int).natAbs 0 ≤ 64 :=
      totalExponent_of_lt_pow number.toUInt64.toNat_lt
    have parts := PartsBelow.normalize word (by decide) .positive
    have converted : IsBelow (64 + 1) number.toUInt64.toFloat := parts.unpack_pack (by decide)
    exact (converted.mul unit (by decide)).mono (by decide)
  next =>
    change PartsBelow 98
      (Float.Model.pack (UnpackedFloat.ofScientific .binary64 number 0)).unpack
    apply PartsBelow.unpack_pack _ (by decide)
    rw [UnpackedFloat.ofScientific]
    split
    next => exact .zero .positive
    next =>
      split
      next huge => exact absurd huge (by decide)
      next =>
        split
        next => exact .zero .positive
        next =>
          rw [if_pos (Int.le_refl 0)]
          have shifted := totalExponent_shiftLeft_le number 53 0
          have digits := totalExponent_of_lt_pow small
          have unit : totalExponent 1 0 ≤ 1 := by decide
          exact PartsBelow.mul (.finite .positive _ (shifted.trans digits))
            (.finite .positive _ unit) (by decide)

end PricePublisher.Floating
