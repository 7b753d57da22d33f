import Mathlib.Algebra.Order.Field.Power
import Mathlib.Algebra.Ring.Parity
import Mathlib.Data.Rat.Cast.Order
import Mathlib.Tactic.LinearCombination
import Mathlib.Tactic.Linarith
import Mathlib.Tactic.NormNum
import Mathlib.Tactic.Positivity
import Mathlib.Tactic.Ring
import PricePublisher.Floating.Shortest

/-!
# How far two shortest forms can differ

The shortest decimal form hangs on the rule for ties only where the number lies midway
between two forms of the same length.  The forms then end in two neighbouring digits behind
the point.
-/

namespace PricePublisher.Floating

/-- The number that digits and a power of ten stand for. -/
def DecimalMagnitude.toRat (decimal : DecimalMagnitude) : Rat :=
  decimal.digits * (10 : Rat) ^ decimal.exponent

namespace Magnitude

variable {number : Magnitude} {place : Int} {tie : Tie} {digits : Nat}

/-- The number that a significand and a power of two stand for. -/
def toRat (number : Magnitude) : Rat :=
  number.significand * (2 : Rat) ^ number.exponent

/-! ## One grid -/

/-- A quarter of the spacing of the numbers, over the common denominator. -/
def quarter (number : Magnitude) (place : Int) : Nat :=
  Nat.pow 2 (number.exponent - 2).toNat * Nat.pow 10 (-place).toNat

/-- The common denominator, one step of the grid. -/
def unit (number : Magnitude) (place : Int) : Nat :=
  Nat.pow 2 (-(number.exponent - 2)).toNat * Nat.pow 10 place.toNat

/-- The number itself, over the common denominator. -/
def middle (number : Magnitude) (place : Int) : Nat :=
  4 * number.significand * number.quarter place

/-- The last point of the grid that is not above the number. -/
def floor (number : Magnitude) (place : Int) : Nat :=
  number.middle place / number.unit place

theorem unit_pos (number : Magnitude) (place : Int) : 0 < number.unit place :=
  Nat.mul_pos (Nat.pow_pos (by decide)) (Nat.pow_pos (by decide))

/-- Whether a point of the grid rounds to the number. -/
def inside (number : Magnitude) (place : Int) (point : Nat) : Bool :=
  let lower := (4 * number.significand - if number.narrowBelow then 1 else 2) * number.quarter place
  let upper := (4 * number.significand + 2) * number.quarter place
  if number.significand % 2 = 0 then
    lower ≤ point * number.unit place && point * number.unit place ≤ upper
  else lower < point * number.unit place && point * number.unit place < upper

/-- The points of the grid that may round to the number are its two neighbours. -/
theorem onGrid?_eq (number : Magnitude) (tie : Tie) (place : Int) :
    number.onGrid? tie place =
      match number.floor place != 0 && number.inside place (number.floor place),
        number.inside place (number.floor place + 1) with
      | false, false => none
      | true, false => some (number.floor place)
      | false, true => some (number.floor place + 1)
      | true, true =>
          let below := number.middle place - number.floor place * number.unit place
          let above := (number.floor place + 1) * number.unit place - number.middle place
          if below < above then some (number.floor place)
          else if above < below then some (number.floor place + 1)
          else
            match tie with
            | .away => some (number.floor place + 1)
            | .toEven =>
                if number.floor place % 2 = 0 then some (number.floor place)
                else some (number.floor place + 1) :=
  rfl

/-- Points that round to the number are less than a spacing apart. -/
theorem unit_le_of_inside
    {point : Nat} (first : number.inside place point) (second : number.inside place (point + 1)) :
    number.unit place ≤ 4 * number.quarter place := by
  have lower : (4 * number.significand - 2) * number.quarter place ≤
      point * number.unit place := by
    have closer : 4 * number.significand - 2 ≤
        4 * number.significand - if number.narrowBelow then 1 else 2 := by
      split <;> omega
    have bound := Nat.mul_le_mul_right (number.quarter place) closer
    rw [inside] at first
    split at first
    all_goals
      rw [Bool.and_eq_true, decide_eq_true_eq] at first
      omega
  have upper : (point + 1) * number.unit place ≤
      (4 * number.significand + 2) * number.quarter place := by
    rw [inside] at second
    split at second
    all_goals
      rw [Bool.and_eq_true, decide_eq_true_eq, decide_eq_true_eq] at second
      omega
  have width : (4 * number.significand + 2) * number.quarter place ≤
      (4 * number.significand - 2) * number.quarter place + 4 * number.quarter place := by
    rw [← Nat.add_mul]
    exact Nat.mul_le_mul_right _ (by omega)
  rw [Nat.succ_mul] at upper
  omega

/-- The number lies midway between an even point of the grid and the next, and both round to it. -/
structure IsTie (number : Magnitude) (place : Int) : Prop where
  even : number.floor place % 2 = 0
  halves : 2 * number.middle place = (2 * number.floor place + 1) * number.unit place
  narrow : number.unit place ≤ 4 * number.quarter place

/-- The digits on a grid are those of a neighbour, and hang on the rule only in a tie. -/
theorem onGrid?_cases (number : Magnitude) (place : Int) :
    (∀ tie, number.onGrid? tie place = none) ∨
    (∃ digits ≤ number.floor place + 1, ∀ tie, number.onGrid? tie place = some digits) ∨
    (number.IsTie place ∧ number.onGrid? .toEven place = some (number.floor place) ∧
      number.onGrid? .away place = some (number.floor place + 1)) := by
  simp only [onGrid?_eq]
  have lower := Nat.div_mul_le_self (number.middle place) (number.unit place)
  have upper := Nat.lt_mul_div_succ (number.middle place) (number.unit_pos place)
  rw [← floor] at lower upper
  rw [Nat.mul_comm] at upper
  cases first : number.floor place != 0 && number.inside place (number.floor place) with
  | false =>
      cases second : number.inside place (number.floor place + 1) with
      | false => exact .inl fun _ => rfl
      | true => exact .inr (.inl ⟨_, Nat.le_refl _, fun _ => rfl⟩)
  | true =>
      cases second : number.inside place (number.floor place + 1) with
      | false => exact .inr (.inl ⟨_, Nat.le_succ _, fun _ => rfl⟩)
      | true =>
          simp only
          split
          next => exact .inr (.inl ⟨_, Nat.le_succ _, fun _ => rfl⟩)
          next notBelow =>
            split
            next => exact .inr (.inl ⟨_, Nat.le_refl _, fun _ => rfl⟩)
            next notAbove =>
              by_cases even : number.floor place % 2 = 0
              · rw [Bool.and_eq_true] at first
                refine .inr (.inr ⟨⟨even, ?_, unit_le_of_inside first.2 second⟩, if_pos even, rfl⟩)
                rw [Nat.succ_mul] at upper notBelow notAbove
                rw [Nat.add_mul, Nat.one_mul, Nat.mul_assoc]
                omega
              · refine .inr (.inl ⟨_, Nat.le_refl _, fun tie => ?_⟩)
                cases tie with
                | toEven => exact if_neg even
                | away => rfl

/-- A number can lie midway only between points with digits behind the point. -/
theorem IsTie.place_neg (tied : number.IsTie place) : place < 0 := by
  by_contra nonneg
  have whole : number.quarter place = Nat.pow 2 (number.exponent - 2).toNat := by
    have none : (-place).toNat = 0 := by omega
    rw [quarter, none]
    exact Nat.mul_one _
  have narrow := tied.narrow
  have halves := tied.halves
  rw [middle, whole, unit] at halves
  rw [whole, unit] at narrow
  simp only [Nat.pow_eq] at halves narrow
  generalize (number.exponent - 2).toNat = up at halves narrow
  generalize (-(number.exponent - 2)).toNat = down at halves narrow
  generalize place.toNat = zeros at halves narrow
  generalize number.floor place = point at halves
  have tens : 10 ^ zeros = 5 ^ zeros * 2 ^ zeros := Nat.mul_pow 5 2 zeros
  have fives : 0 < 5 ^ zeros := Nat.pow_pos (by decide)
  -- The step of the grid has fewer factors of two than the spacing of the numbers.
  have few : down + zeros ≤ up + 2 := by
    rw [← Nat.pow_le_pow_iff_right (by decide : 1 < 2), Nat.pow_add, Nat.pow_add]
    have smaller := Nat.le_mul_of_pos_left (2 ^ down * 2 ^ zeros) fives
    have same : 5 ^ zeros * (2 ^ down * 2 ^ zeros) = 2 ^ down * 10 ^ zeros := by
      rw [tens]
      ring
    have four : 2 ^ up * 2 ^ 2 = 4 * 2 ^ up := Nat.mul_comm _ _
    omega
  have cancelled : number.significand * 2 ^ (up + 3 - (down + zeros)) =
      (2 * point + 1) * 5 ^ zeros := by
    apply Nat.eq_of_mul_eq_mul_right (Nat.pow_pos (n := down + zeros) (by decide : 0 < 2))
    have joined : 2 ^ (up + 3 - (down + zeros)) * 2 ^ (down + zeros) = 2 ^ up * 8 := by
      rw [← Nat.pow_add, Nat.sub_add_cancel (by omega), Nat.pow_add]
    calc number.significand * 2 ^ (up + 3 - (down + zeros)) * 2 ^ (down + zeros)
        = number.significand * (2 ^ up * 8) := by rw [Nat.mul_assoc, joined]
      _ = 2 * (4 * number.significand * 2 ^ up) := by ring
      _ = (2 * point + 1) * (2 ^ down * 10 ^ zeros) := halves
      _ = (2 * point + 1) * 5 ^ zeros * 2 ^ (down + zeros) := by rw [tens, Nat.pow_add]; ring
  have odd : Odd ((2 * point + 1) * 5 ^ zeros) :=
    (odd_two_mul_add_one point).mul (Odd.pow (by decide))
  have even : Even (number.significand * 2 ^ (up + 3 - (down + zeros))) :=
    ((even_two).pow_of_ne_zero (by omega)).mul_left _
  rw [cancelled] at even
  exact Nat.not_even_iff_odd.mpr odd even

/-! ## The numbers on the grid -/

theorem pow_toNat (base : Rat) (nonzero : base ≠ 0) (exponent : Int) :
    base ^ exponent.toNat = base ^ exponent * base ^ (-exponent).toNat := by
  rcases Int.le_total 0 exponent with nonneg | nonpos
  · have none : (-exponent).toNat = 0 := by omega
    rw [none, pow_zero, mul_one, ← zpow_natCast, Int.toNat_of_nonneg nonneg]
  · have none : exponent.toNat = 0 := by omega
    rw [none, pow_zero, ← zpow_natCast, Int.toNat_of_nonneg (by omega), ← zpow_add₀ nonzero,
      Int.add_right_neg, zpow_zero]

/-- Over the common denominator stand the number and one step of the grid. -/
theorem middle_mul (number : Magnitude) (place : Int) :
    (number.middle place : Rat) * 10 ^ place = number.toRat * number.unit place := by
  have two : (2 : Rat) ^ number.exponent = 4 * 2 ^ (number.exponent - 2) := by
    rw [zpow_sub₀ (by norm_num)]
    norm_num
    ring
  have ten := pow_toNat 10 (by norm_num) place
  have up := pow_toNat 2 (by norm_num) (number.exponent - 2)
  rw [middle, quarter, unit, toRat, two]
  push_cast [Nat.pow_eq]
  rw [up, ten]
  ring

/-- A number lies midway between an even form and the next, with digits behind the point. -/
structure IsMidway (number : Magnitude) (lower upper : DecimalMagnitude) : Prop where
  even : lower.digits % 2 = 0
  exponent : upper.exponent = lower.exponent
  digits : upper.digits = lower.digits + 1
  fraction : lower.exponent < 0
  middle : lower.toRat + upper.toRat = 2 * number.toRat

theorem IsTie.isMidway (tied : number.IsTie place) :
    number.IsMidway ⟨number.floor place, place⟩ ⟨number.floor place + 1, place⟩ where
  even := tied.even
  exponent := rfl
  digits := rfl
  fraction := tied.place_neg
  middle := by
    have unit : (number.unit place : Rat) ≠ 0 := Nat.cast_ne_zero.mpr (number.unit_pos place).ne'
    have halves := congrArg (fun count : Nat => (count : Rat) * 10 ^ place) tied.halves
    have middle := number.middle_mul place
    push_cast at halves
    simp only [DecimalMagnitude.toRat, Nat.cast_add, Nat.cast_one]
    apply mul_right_cancel₀ unit
    linear_combination 2 * middle - halves

/-- No point below the number is farther from zero than the number. -/
theorem floor_le (number : Magnitude) (place : Int) :
    (number.floor place : Rat) ≤ number.toRat * 10 ^ (-place) := by
  have unit : (0 : Rat) < number.unit place := Nat.cast_pos.mpr (number.unit_pos place)
  have ten : (10 : Rat) ^ place * 10 ^ (-place) = 1 := by
    rw [← zpow_add₀ (by norm_num), Int.add_right_neg, zpow_zero]
  have scaled : number.toRat * 10 ^ (-place) * number.unit place = number.middle place := by
    linear_combination (-(10 : Rat) ^ (-place)) * number.middle_mul place
      + number.middle place * ten
  have below : ((number.floor place * number.unit place : Nat) : Rat) ≤ number.middle place :=
    Nat.cast_le.mpr (Nat.div_mul_le_self _ _)
  rw [Nat.cast_mul, ← scaled] at below
  exact le_of_mul_le_mul_right below unit

theorem toRat_nonneg (number : Magnitude) : 0 ≤ number.toRat :=
  mul_nonneg (Nat.cast_nonneg _) (zpow_nonneg (by norm_num) _)

/-! ## The search -/

/-- The rule for ties matters only midway between two forms. -/
theorem search_cases (number : Magnitude) (attempts : Nat) (place : Int) :
    number.search .toEven attempts place = number.search .away attempts place ∨
      number.IsMidway (number.search .toEven attempts place)
        (number.search .away attempts place) := by
  induction attempts generalizing place with
  | zero => exact .inl rfl
  | succ attempts hypothesis =>
      rw [search, search]
      rcases number.onGrid?_cases place with none | ⟨digits, _, one⟩ | ⟨tied, even, away⟩
      · rw [none, none]
        exact hypothesis (place - 1)
      · rw [one, one]
        exact .inl rfl
      · rw [even, away]
        exact .inr tied.isMidway

theorem shortest_cases (number : Magnitude) :
    number.shortest .toEven = number.shortest .away ∨
      number.IsMidway (number.shortest .toEven) (number.shortest .away) := by
  rw [shortest, shortest]
  split
  · exact .inl rfl
  · exact number.search_cases 24 number.coarsePlace

/-- Every attempt can find at most one digit more. -/
theorem search_digits_le (number : Magnitude) (tie : Tie) (attempts : Nat) (place : Int) :
    ((number.search tie attempts place).digits : Rat) ≤
      number.toRat * 10 ^ ((attempts : Int) - place) + 1 := by
  have nonneg := number.toRat_nonneg
  induction attempts generalizing place with
  | zero =>
      have power : (0 : Rat) ≤ 10 ^ (((0 : Nat) : Int) - place) := zpow_nonneg (by norm_num) _
      have product := mul_nonneg nonneg power
      rw [search, Nat.cast_zero]
      linarith
  | succ attempts hypothesis =>
      have found : ∀ digits ≤ number.floor place + 1,
          (digits : Rat) ≤ number.toRat * 10 ^ (((attempts + 1 : Nat) : Int) - place) + 1 := by
        intro digits bound
        have floored := number.floor_le place
        have larger : (10 : Rat) ^ (-place) ≤ 10 ^ (((attempts + 1 : Nat) : Int) - place) :=
          zpow_le_zpow_right₀ (by norm_num) (by omega)
        have scaled := mul_le_mul_of_nonneg_left larger nonneg
        have cast : (digits : Rat) ≤ number.floor place + 1 := by exact_mod_cast bound
        linarith
      rw [search]
      rcases number.onGrid?_cases place with none | ⟨digits, bound, one⟩ | ⟨_, even, away⟩
      · have next := hypothesis (place - 1)
        have same : (attempts : Int) - (place - 1) = ((attempts + 1 : Nat) : Int) - place := by
          omega
        rw [same] at next
        rw [none]
        exact next
      · rw [one]
        exact found digits bound
      · cases tie with
        | toEven =>
            rw [even]
            exact found _ (Nat.le_succ _)
        | away =>
            rw [away]
            exact found _ (Nat.le_refl _)

/-! ## The first place -/

/-- Powers of two bases compare as smaller powers of them do. -/
theorem pow_le_pow_of_powers
    {b c step size m n : Nat} (powers : b ^ step ≤ c ^ size) (positive : 0 < c)
    (some_step : step ≠ 0) (exponents : size * m ≤ step * n) :
    b ^ m ≤ c ^ n := by
  rw [← Nat.pow_le_pow_iff_left some_step]
  calc (b ^ m) ^ step = (b ^ step) ^ m := by rw [← Nat.pow_mul, ← Nat.pow_mul, Nat.mul_comm]
    _ ≤ (c ^ size) ^ m := Nat.pow_le_pow_left powers m
    _ = c ^ (size * m) := (Nat.pow_mul c size m).symm
    _ ≤ c ^ (step * n) := Nat.pow_le_pow_right positive exponents
    _ = (c ^ n) ^ step := by rw [← Nat.pow_mul, Nat.mul_comm]

/-- The estimate of the first place is at most two too small in the range of the numbers. -/
theorem two_zpow_le {power : Int} (least : -1100 ≤ power) (greatest : power ≤ 1100) :
    (2 : Rat) ^ power ≤ 10 ^ (power * 30103 / 100000 + 4) := by
  have estimate : ∃ places, places = power * 30103 / 100000 + 4 := ⟨_, rfl⟩
  rcases estimate with ⟨places, equal⟩
  rw [← equal]
  rcases Int.le_total 0 power with nonneg | nonpos
  · rcases Int.eq_ofNat_of_zero_le nonneg with ⟨m, rfl⟩
    rcases Int.eq_ofNat_of_zero_le (by omega : 0 ≤ places) with ⟨n, rfl⟩
    have natural : 2 ^ m ≤ 10 ^ n :=
      pow_le_pow_of_powers (by decide : 2 ^ 53 ≤ 10 ^ 16) (by decide) (by decide) (by omega)
    rw [zpow_natCast, zpow_natCast]
    exact_mod_cast natural
  · rcases Int.le_total 0 places with whole | fraction
    · exact (zpow_le_one_of_nonpos₀ (by norm_num) nonpos).trans
        (one_le_zpow₀ (by norm_num) whole)
    · rcases Int.eq_ofNat_of_zero_le (by omega : 0 ≤ -power) with ⟨m, opposite⟩
      rcases Int.eq_ofNat_of_zero_le (by omega : 0 ≤ -places) with ⟨n, negated⟩
      have natural : 10 ^ n ≤ 2 ^ m :=
        pow_le_pow_of_powers (by decide : 10 ^ 3 ≤ 2 ^ 10) (by decide) (by decide) (by omega)
      have positive : (0 : Rat) < 10 ^ n := by positivity
      rw [show power = -(m : Int) by omega, show places = -(n : Int) by omega, zpow_neg, zpow_neg,
        zpow_natCast, zpow_natCast]
      exact inv_anti₀ positive (by exact_mod_cast natural)

/-- A magnitude within the range of floating-point numbers. -/
structure IsDouble (number : Magnitude) : Prop where
  significand : number.significand < 2 ^ 53
  least : -1074 ≤ number.exponent
  greatest : number.exponent ≤ 972

/-- A number is less than the power of two above its significand. -/
theorem toRat_le (number : Magnitude) :
    number.toRat ≤ 2 ^ (number.exponent + (Nat.log2 number.significand : Int) + 1) := by
  have bound : number.significand ≤ 2 ^ (Nat.log2 number.significand + 1) := Nat.lt_log2_self.le
  have cast : (number.significand : Rat) ≤ 2 ^ (Nat.log2 number.significand + 1) := by
    exact_mod_cast bound
  have split : (2 : Rat) ^ (number.exponent + (Nat.log2 number.significand : Int) + 1) =
      2 ^ (Nat.log2 number.significand + 1) * 2 ^ number.exponent := by
    rw [← zpow_natCast, ← zpow_add₀ (by norm_num)]
    congr 1
    push_cast
    ring
  rw [toRat, split]
  exact mul_le_mul_of_nonneg_right cast (zpow_nonneg (by norm_num) _)

/-- A shortest form has few digits. -/
theorem IsDouble.digits_lt (double : number.IsDouble) (tie : Tie) :
    (number.shortest tie).digits < 10 ^ 27 := by
  rw [shortest]
  split
  next => decide
  next nonzero =>
    have short : Nat.log2 number.significand < 53 := (Nat.log2_lt nonzero).mpr double.significand
    have least := double.least
    have greatest := double.greatest
    have first : number.toRat ≤ 10 ^ (number.coarsePlace + 2) := by
      have place : number.coarsePlace + 2 =
          (number.exponent + (Nat.log2 number.significand : Int) + 1) * 30103 / 100000 + 4 := by
        rw [coarsePlace]
        ring
      rw [place]
      exact number.toRat_le.trans (two_zpow_le (by omega) (by omega))
    have bound := number.search_digits_le tie 24 number.coarsePlace
    have digits : ((number.search tie 24 number.coarsePlace).digits : Rat) ≤ 10 ^ 26 + 1 := by
      have scaled := mul_le_mul_of_nonneg_right first
        (zpow_nonneg (by norm_num : (0 : Rat) ≤ 10) (((24 : Nat) : Int) - number.coarsePlace))
      have power : (10 : Rat) ^ (number.coarsePlace + 2)
          * 10 ^ (((24 : Nat) : Int) - number.coarsePlace) = 10 ^ 26 := by
        rw [← zpow_add₀ (by norm_num), ← zpow_natCast]
        congr 1
        push_cast
        ring
      linarith
    have natural : (number.search tie 24 number.coarsePlace).digits ≤ 10 ^ 26 + 1 := by
      exact_mod_cast digits
    omega

end Magnitude

/-- The parts of a floating-point number are within the range. -/
theorem isDouble_magnitude (number : Float) : (magnitude number).IsDouble := by
  have fraction := Nat.mod_lt number.toBits.toNat (Nat.pow_pos (n := 52) (by decide : 0 < 2))
  have field := Nat.mod_lt (number.toBits.toNat / Nat.pow 2 52)
    (Nat.pow_pos (n := 11) (by decide : 0 < 2))
  simp only [Nat.pow_eq] at fraction field
  rw [magnitude]
  simp only [Nat.pow_eq]
  split
  all_goals
    constructor
    all_goals
      simp only
      omega

end PricePublisher.Floating
