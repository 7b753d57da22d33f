import Mathlib.Data.List.TakeDrop
import Mathlib.Data.List.TakeWhile
import PricePublisher.Decimal.Reader
import PricePublisher.Proofs.Decimal.Digits

/-!
# What is read of written digits

Digits before the point are read as the number that they denote, as long as a mantissa has
room for it.  Digits after the point are read as they stand up to the last place that is
kept, and those past it round the number, a half upwards.  An exponent moves the point, with
the same places kept.
-/

namespace PricePublisher.Decimal

open Digits (valueAfter)

variable {reading : Reading} {character : Char} {digits rest : List Char} {number places : Nat}

/-- Digits before the point have been read. -/
def Reading.whole (number : Nat) : Reading :=
  ⟨number, 0, false, true, false⟩

/-- Digits and the point have been read, and so many digits follow the point. -/
def Reading.fraction (number places : Nat) : Reading :=
  ⟨number, places, true, true, false⟩

/-- A digit that has room is taken in if the mantissa then still fits. -/
theorem readFrom?_digit
    (isDigit : character.isDigit) (room : reading.isAtLimit = false) :
    readFrom? reading (character :: rest) =
      if Digits.append reading.mantissa (character.toNat - '0'.toNat) < mantissaBound then
        readFrom?
          (reading.withMantissa
            (Digits.append reading.mantissa (character.toNat - '0'.toNat))) rest
      else if reading.pointSeen then reading.close? character rest
      else none := by
  rw [readFrom?, room, Digits.value?, isDigit]
  rfl

theorem readFrom?_point (number : Nat) (rest : List Char) :
    readFrom? (.whole number) ('.' :: rest) = readFrom? (.fraction number 0) rest :=
  rfl

theorem not_isAtLimit_whole (number : Nat) : (Reading.whole number).isAtLimit = false :=
  rfl

theorem not_isAtLimit_fraction (few : places < scaleLimit) :
    (Reading.fraction number places).isAtLimit = false := by
  simp [Reading.isAtLimit, Reading.fraction, Nat.not_le.mpr few]

/-- Digits before the point are read if the number that they denote fits. -/
theorem readFrom?_whole
    (fits : number < mantissaBound) (allDigits : digits.all Char.isDigit) (rest : List Char) :
    readFrom? (.whole number) (digits ++ rest) =
      if valueAfter number digits < mantissaBound then
        readFrom? (.whole (valueAfter number digits)) rest
      else none := by
  induction digits generalizing number with
  | nil => rw [Digits.valueAfter_nil, if_pos fits, List.nil_append]
  | cons character digits hypothesis =>
      rw [List.all_cons, Bool.and_eq_true] at allDigits
      rw [List.cons_append, readFrom?_digit allDigits.1 (not_isAtLimit_whole number),
        Digits.valueAfter_cons]
      by_cases next : Digits.append number (character.toNat - '0'.toNat) < mantissaBound
      · exact (if_pos next).trans (hypothesis next allDigits.2)
      · have grows := Digits.le_valueAfter
          (Digits.append number (character.toNat - '0'.toNat)) digits
        have tooLarge : ¬ valueAfter (Digits.append number (character.toNat - '0'.toNat)) digits <
            mantissaBound := by
          omega
        rw [if_neg tooLarge]
        exact if_neg next

theorem readFrom?_start
    (nonempty : digits ≠ []) (allDigits : digits.all Char.isDigit) (rest : List Char) :
    readFrom? .start (digits ++ rest) =
      if valueAfter 0 digits < mantissaBound then
        readFrom? (.whole (valueAfter 0 digits)) rest
      else none := by
  cases digits with
  | nil => exact absurd rfl nonempty
  | cons character digits =>
      -- Before the first digit the reading is that of zero, but for the digit seen.
      have first := allDigits
      rw [List.all_cons, Bool.and_eq_true] at first
      rw [← readFrom?_whole (by decide) allDigits, List.cons_append, readFrom?_digit first.1 rfl,
        readFrom?_digit first.1 rfl]
      rfl

/-! ## Digits after the point -/

/-- The mantissa and scale kept of a number so many of whose digits follow the point. -/
def keptParts (number places : Nat) : Nat × Nat :=
  if places ≤ scaleLimit then (number, places)
  else (roundQuotient number (places - scaleLimit), scaleLimit)

theorem keptParts_scale_le (number places : Nat) :
    (keptParts number places).2 ≤ scaleLimit := by
  rw [keptParts]
  split
  next few => exact few
  next => exact Nat.le_refl _

theorem keptParts_mantissa_le (number places : Nat) :
    (keptParts number places).1 ≤ number := by
  rw [keptParts]
  split
  next => exact Nat.le_refl _
  next =>
    have positive : 0 < Nat.pow 10 (places - scaleLimit) := Nat.pow_pos (by decide)
    have grows := Nat.le_mul_of_pos_right number positive
    refine Nat.le_of_lt_succ ((Nat.div_lt_iff_lt_mul positive).mpr ?_)
    rw [Nat.succ_mul]
    omega

/-- The first digit that is dropped tells how the others round. -/
theorem roundQuotient_append
    (number : Nat) {digit : Nat} {others : Nat} {places : Nat}
    (isDigit : digit ≤ 9) (rest : others < Nat.pow 10 places) :
    roundQuotient (number * Nat.pow 10 (places + 1) + (digit * Nat.pow 10 places + others))
        (places + 1) =
      if digit < 5 then number else number + 1 := by
  have power : Nat.pow 10 (places + 1) = 10 * Nat.pow 10 places := Nat.pow_succ'
  have half : Nat.pow 10 (places + 1) / 2 = 5 * Nat.pow 10 places := by omega
  have positive : 0 < Nat.pow 10 (places + 1) := Nat.pow_pos (by decide)
  rw [roundQuotient, half, Nat.add_assoc, Nat.mul_comm, Nat.mul_add_div positive, power]
  by_cases low : digit < 5
  · have small := Nat.mul_le_mul_right (Nat.pow 10 places) (Nat.le_of_lt_succ low)
    rw [if_pos low, Nat.div_eq_of_lt (by omega), Nat.add_zero]
  · have large := Nat.mul_le_mul_right (Nat.pow 10 places) (Nat.le_of_not_lt low)
    have bounded := Nat.mul_le_mul_right (Nat.pow 10 places) isDigit
    rw [if_neg low, Nat.div_eq_of_lt_le (k := 1) (by omega) (by omega)]

/-- A place is always left for a carry when a digit has been dropped. -/
theorem roundUp?_of_mul_lt (fits : 10 * number < mantissaBound) (scale : Nat) :
    roundUp? number scale = some (number + 1, scale) := by
  have large : 2 ≤ mantissaBound := by decide
  exact if_pos (by omega)

/-- Digits past the last place round the number. -/
theorem readFrom?_past_limit
    (isDigit : character.isDigit) (allDigits : digits.all Char.isDigit)
    (fits : valueAfter number (character :: digits) < mantissaBound) :
    readFrom? (.fraction number scaleLimit) (character :: digits) =
      some (roundQuotient (valueAfter number (character :: digits)) (digits.length + 1),
        scaleLimit) := by
  have closed : readFrom? (.fraction number scaleLimit) (character :: digits) =
      (Reading.fraction number scaleLimit).close? character digits := by
    have noMark : character ≠ '_' := by
      rintro rfl
      cases isDigit
    have atLimit : (Reading.fraction number scaleLimit).isAtLimit = true := rfl
    rw [readFrom?, if_pos atLimit]
    simp [noMark]
  have dropped : (isDropped character && digits.all isDropped) = true := by
    have each : ∀ character : Char, character.isDigit → isDropped character := by
      intro character isDigit
      simp [isDropped, isDigit]
    rw [Bool.and_eq_true, List.all_eq_true]
    exact ⟨each character isDigit, fun other member =>
      each other (List.all_eq_true.mp allDigits other member)⟩
  have value : valueAfter number (character :: digits) =
      number * Nat.pow 10 (digits.length + 1)
        + ((character.toNat - '0'.toNat) * Nat.pow 10 digits.length
          + valueAfter 0 digits) := by
    rw [Digits.valueAfter_eq, List.length_cons, Digits.valueAfter_cons, Digits.valueAfter_eq,
      Digits.append, Nat.mul_zero, Nat.zero_add]
  have room : 10 * number < mantissaBound := by
    have power := Nat.mul_le_mul_left number (Nat.pow_le_pow_right (n := 10) (by decide)
      (Nat.le_add_left 1 digits.length))
    simp only [Nat.pow_eq] at value power
    omega
  rw [closed, Reading.close?, if_pos dropped, Digits.value?, if_pos isDigit, value,
    roundQuotient_append number (Digits.digit_le isDigit) (Digits.valueAfter_zero_lt allDigits)]
  simp only
  split
  · rfl
  · exact roundUp?_of_mul_lt room scaleLimit

/-- Digits after the point are kept up to the last place. -/
theorem readFrom?_fraction
    (few : places ≤ scaleLimit) (allDigits : digits.all Char.isDigit)
    (fits : valueAfter number digits < mantissaBound) :
    readFrom? (.fraction number places) digits =
      some (keptParts (valueAfter number digits) (places + digits.length)) := by
  induction digits generalizing number places with
  | nil =>
      rw [keptParts, List.length_nil, Nat.add_zero, if_pos few]
      rfl
  | cons character digits hypothesis =>
      rw [List.all_cons, Bool.and_eq_true] at allDigits
      rcases Nat.lt_or_eq_of_le few with room | rfl
      · have next : Digits.append number (character.toNat - '0'.toNat) < mantissaBound :=
          Nat.lt_of_le_of_lt (Digits.le_valueAfter _ digits) fits
        rw [readFrom?_digit allDigits.1 (not_isAtLimit_fraction room)]
        refine (if_pos next).trans ((hypothesis room allDigits.2 fits).trans ?_)
        rw [Digits.valueAfter_cons, List.length_cons, Nat.succ_add_eq_add_succ]
      · rw [readFrom?_past_limit allDigits.1 allDigits.2 fits, keptParts, List.length_cons,
          if_neg (by omega), Nat.add_sub_cancel_left]

/-- Digits with a point between them. -/
theorem readFrom?_point_between
    {whole fraction : List Char} (nonempty : whole ≠ []) (wholeDigits : whole.all Char.isDigit)
    (fractionDigits : fraction.all Char.isDigit)
    (fits : valueAfter 0 (whole ++ fraction) < mantissaBound) :
    readFrom? .start (whole ++ '.' :: fraction) =
      some (keptParts (valueAfter 0 (whole ++ fraction)) fraction.length) := by
  rw [Digits.valueAfter_append] at fits ⊢
  have front := Nat.lt_of_le_of_lt (Digits.le_valueAfter _ fraction) fits
  rw [readFrom?_start nonempty wholeDigits, if_pos front, readFrom?_point,
    readFrom?_fraction (Nat.zero_le _) fractionDigits fits, Nat.zero_add]

/-- A zero after the point is taken in, or dropped where there is no room for it. -/
theorem readFrom?_point_zero (number : Nat) :
    readFrom? (.whole number) ['.', '0'] =
      some (if 10 * number < mantissaBound then (10 * number, 1) else (number, 0)) := by
  rw [readFrom?_point, readFrom?_digit rfl rfl]
  simp only [Reading.fraction, Digits.append, Nat.sub_self, Nat.add_zero]
  split <;> rfl

/-! ## What is no digit -/

/-- A character that is neither a digit nor a mark among digits cannot be read. -/
theorem readFrom?_eq_none_of_mem
    {text : List Char} (noDigit : character.isDigit = false) (noPoint : character ≠ '.')
    (noSeparator : character ≠ '_') (member : character ∈ text) (reading : Reading) :
    readFrom? reading text = none := by
  have notDropped : isDropped character = false := by
    simp [isDropped, noDigit, noSeparator]
  have unclosed : ∀ (reading : Reading) (first : Char) (rest : List Char),
      character ∈ first :: rest → reading.close? first rest = none := by
    intro reading first rest member
    refine if_neg fun all => ?_
    rw [← List.all_cons, List.all_eq_true] at all
    rw [all character member] at notDropped
    cases notDropped
  induction text generalizing reading with
  | nil => cases member
  | cons first rest hypothesis =>
      have later : ∀ other, first ≠ character → readFrom? other rest = none := by
        intro other different
        exact hypothesis ((List.mem_cons.mp member).resolve_left different.symm) other
      rw [readFrom?]
      split
      · split
        next separator =>
          rw [Bool.and_eq_true, decide_eq_true_eq] at separator
          exact later _ fun same => noSeparator (same ▸ separator.1)
        next => exact unclosed reading first rest member
      · split
        next digit found =>
          have different : first ≠ character := by
            rintro rfl
            rw [Digits.value?, noDigit] at found
            cases found
          simp only [later _ different, unclosed reading first rest member, ite_self]
        next =>
          split
          next point =>
            rw [Bool.and_eq_true, decide_eq_true_eq] at point
            exact later _ fun same => noPoint (same ▸ point.1)
          next =>
            split
            next separator =>
              rw [Bool.and_eq_true, decide_eq_true_eq] at separator
              exact later _ fun same => noSeparator (same ▸ separator.1)
            next => rfl

/-! ## Exponents -/

/-- A text without an exponent mark is not scientific. -/
theorem ofScientific?_eq_none
    {text : List Char} (noMark : ∀ character ∈ text, isExponentMark character = false) :
    ofScientific? text = none := by
  have plain : ∀ character ∈ text, (!isExponentMark character) = true := by
    intro character member
    rw [noMark character member]
    rfl
  rw [ofScientific?, List.span_eq_takeWhile_dropWhile, List.takeWhile_eq_self_iff.mpr plain,
    List.dropWhile_eq_nil_iff.mpr plain]

/-- The digits of a number are read as an exponent, with or without a sign. -/
theorem exponentMagnitude?_ofNat (value : Nat) :
    exponentMagnitude? (Digits.ofNat value) = some value ∧
      exponentMagnitude? ('+' :: Digits.ofNat value) = some value := by
  have read : Digits.toNat? (Digits.ofNat value) = some value :=
    Digits.toNat?_eq_some_iff.mpr
      ⟨⟨Digits.ofNat_ne_nil value, Digits.all_isDigit_ofNat value⟩, Digits.valueAfter_ofNat value⟩
  refine ⟨?_, read⟩
  rw [exponentMagnitude?]
  · exact read
  · intro digits signed
    have isDigit : ('+').isDigit := Digits.isDigit_of_mem_ofNat (signed ▸ List.mem_cons_self)
    cases isDigit

/-- An exponent as it is written. -/
def exponentChars (exponent : Int) : List Char :=
  'e' :: (if exponent < 0 then '-' else '+') :: Digits.ofNat exponent.natAbs

/-- A text with an exponent is the decimal before it with its point moved. -/
theorem ofScientific?_append
    {base : List Char} (noMark : ∀ character ∈ base, isExponentMark character = false)
    (exponent : Int) :
    ofScientific? (base ++ exponentChars exponent) =
      (ofPlain? base).bind fun decimal =>
        if exponent < 0 then decimal.shiftLeft? exponent.natAbs
        else decimal.shiftRight? exponent.natAbs := by
  have plain : ∀ character ∈ base, (!isExponentMark character) = true := by
    intro character member
    rw [noMark character member]
    rfl
  rw [exponentChars, ofScientific?, List.span_eq_takeWhile_dropWhile,
    List.takeWhile_append_of_pos plain, List.dropWhile_append_of_pos plain,
    List.takeWhile_cons_of_neg (by decide), List.dropWhile_cons_of_neg (by decide),
    List.append_nil]
  rcases exponentMagnitude?_ofNat exponent.natAbs with ⟨bare, signed⟩
  by_cases negative : exponent < 0
  · simp only [if_pos negative, bare]
    rfl
  · simp only [if_neg negative]
    cases ofPlain? base with
    | none => rfl
    | some decimal => exact (congrArg (Option.bind · decimal.shiftRight?) signed)

/-- Moving the point to the left gives as many places as the positional layout has. -/
theorem shiftLeft?_eq
    {decimal : Decimal} {places total : Nat} (few : places ≤ scaleLimit)
    (sum : decimal.scale + places = total) :
    decimal.shiftLeft? places =
      ofParts? decimal.negative (keptParts decimal.mantissa total).1
        (keptParts decimal.mantissa total).2 := by
  rw [shiftLeft?, if_neg (Nat.not_lt.mpr few), sum, keptParts]
  split
  · rfl
  · rfl

/--
Moving the point to the right behind a number with a digit before the point leaves some
places or gives a whole number, if a mantissa has room for it.
-/
theorem shiftRight?_eq
    {decimal : Decimal} (leading : Nat.pow 10 decimal.scale ≤ decimal.mantissa) (places : Nat) :
    decimal.shiftRight? places =
      if places ≤ decimal.scale then
        ofParts? decimal.negative decimal.mantissa (decimal.scale - places)
      else
        ofParts? decimal.negative
          (decimal.mantissa * Nat.pow 10 (places - decimal.scale)) 0 := by
  rw [shiftRight?]
  split
  · rfl
  next few =>
    by_cases many : scaleLimit < places
    · have powers : Nat.pow 10 decimal.scale * Nat.pow 10 (places - decimal.scale) =
          Nat.pow 10 places := by
        rw [Nat.pow_eq, Nat.pow_eq, Nat.pow_eq, ← Nat.pow_add, Nat.add_sub_cancel' (by omega)]
      have product := Nat.mul_le_mul_right (Nat.pow 10 (places - decimal.scale)) leading
      have large : mantissaBound ≤ Nat.pow 10 (scaleLimit + 1) := by decide
      have power : Nat.pow 10 (scaleLimit + 1) ≤ Nat.pow 10 places :=
        Nat.pow_le_pow_right (by decide) many
      rw [if_pos many, ofParts?, dif_neg]
      rintro ⟨small, _⟩
      omega
    · rw [if_neg many]

end PricePublisher.Decimal
