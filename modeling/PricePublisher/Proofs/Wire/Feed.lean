import PricePublisher.Proofs.Floating.Denotation
import PricePublisher.Proofs.Floating.Shortest
import PricePublisher.Wire.Feed

/-!
# Pushed and pulled prices

A price that is held in floating point is pushed in the compact layout and pulled in the
plain one, and each feed reads the decimal in its own text.  Both read the same number
unless the price lies midway between two shortest forms, of which the compact layout takes
the even one and the plain layout the one farther from zero.
-/

namespace PricePublisher

open Json Floating

namespace Floating

variable {text : List Char} {negative : Bool} {value : Rat} {number : Float}

/-- A text that denotes a small number is a decimal. -/
theorem Denotes.decimalOfText_eq_ok
    (denotes : Denotes text negative value) (small : value < mantissaBound) :
    ∃ decimal, decimalOfText (String.ofList text) = .ok decimal ∧
      decimal.toRat = signed negative value := by
  rw [Denotes, if_pos small] at denotes
  rcases denotes with ⟨decimal, read, equal⟩
  exact ⟨decimal, by rw [decimalOfText, read], equal⟩

theorem Denotes.decimalOfText_eq_error
    (denotes : Denotes text negative value) (large : ¬ value < mantissaBound) :
    decimalOfText (String.ofList text) = .error (.notDecimal (String.ofList text)) := by
  rw [Denotes, if_neg large] at denotes
  rw [decimalOfText, denotes]

/-- The digits of a floating-point number fit a mantissa with room to spare. -/
theorem digits_shortest_lt (number : Float) (tie : Tie) :
    ((magnitude number).shortest tie).digits < Nat.pow 10 scaleLimit :=
  ((isDouble_magnitude number).digits_lt tie).trans (by decide)

theorem denotes_plainChars (number : Float) :
    Denotes (plainChars number) (isNegative number) ((magnitude number).shortest .away).kept :=
  DecimalMagnitude.denotes_positionalChars
    ((digits_shortest_lt number .away).trans (by decide)) number

/-- Whether the exponent of a compact text can be read; zero has none. -/
def HasKeptExponent (number : Float) : Prop :=
  (magnitude number).significand = 0 ∨
    -(scaleLimit : Int) ≤ ((magnitude number).shortest .toEven).leadingExponent

instance (number : Float) : Decidable (HasKeptExponent number) :=
  inferInstanceAs (Decidable (_ ∨ _))

theorem denotes_compactChars (range : HasKeptExponent number) :
    Denotes (compactChars number) (isNegative number)
      ((magnitude number).shortest .toEven).kept := by
  have digits := digits_shortest_lt number .toEven
  have zero : (magnitude number).significand = 0 →
      ((magnitude number).shortest .toEven).digits = 0 := by
    intro none
    rw [Magnitude.shortest, if_pos none]
  rw [HasKeptExponent] at range
  rw [compactChars]
  generalize (magnitude number).shortest .toEven = decimal at *
  split
  next =>
    split
    next nonneg => exact DecimalMagnitude.denotes_positionalChars_point_zero nonneg number
    next => exact DecimalMagnitude.denotes_positionalChars (digits.trans (by decide)) number
  next scientific =>
    have nonzero : decimal.digits ≠ 0 := fun none => scientific (by simp [none])
    exact DecimalMagnitude.denotes_exponentialChars (Nat.pos_of_ne_zero nonzero) digits
      (range.resolve_left fun none => nonzero (zero none)) number

end Floating

section Updates

variable {number : Float} (timestamp : Int) (asset : String) (metadata : Option Object)

/-- A literal in floating point is the value of a pushed and the price of a pulled element. -/
theorem decoders_of_held
    {numeral : Numeral} (held : numeral.toNumber? = some (.real number)) (room : Nat) :
    Decoder.value room (.numeral numeral) = some (.number (.real number)) ∧
      Decoder.float room (.numeral numeral) = some number := by
  constructor
  · rw [Decoder.value, Document.build?, held]
    rfl
  · rw [Decoder.float, held]
    rfl

theorem exists_updates
    (range : HasKeptExponent number)
    (pushSmall : ((magnitude number).shortest .toEven).kept < mantissaBound)
    (pullSmall : ((magnitude number).shortest .away).kept < mantissaBound) :
    ∃ pushValue pullValue : Decimal,
      PushedPrice.toUpdate ⟨timestamp, asset, .number (.real number), metadata⟩ =
        .ok ⟨timestamp, asset, pushValue, metadata⟩ ∧
      PulledPrice.toUpdate ⟨timestamp, asset, number, metadata⟩ =
        .ok ⟨timestamp, asset, pullValue, metadata⟩ ∧
      pushValue.toRat =
        signed (isNegative number) ((magnitude number).shortest .toEven).kept ∧
      pullValue.toRat =
        signed (isNegative number) ((magnitude number).shortest .away).kept := by
  rcases (denotes_compactChars range).decimalOfText_eq_ok pushSmall with
    ⟨pushValue, pushed, pushEqual⟩
  rcases (denotes_plainChars number).decimalOfText_eq_ok pullSmall with
    ⟨pullValue, pulled, pullEqual⟩
  refine ⟨pushValue, pullValue, ?_, ?_, pushEqual, pullEqual⟩
  · rw [PushedPrice.toUpdate, PushedPrice.decimalOf, Number.toChars, pushed]
    rfl
  · rw [PulledPrice.toUpdate, plainText, pulled]
    rfl

theorem complaints
    (range : HasKeptExponent number)
    (pushLarge : ¬ ((magnitude number).shortest .toEven).kept < mantissaBound)
    (pullLarge : ¬ ((magnitude number).shortest .away).kept < mantissaBound) :
    PushedPrice.toUpdate ⟨timestamp, asset, .number (.real number), metadata⟩ =
        .error (.notDecimal (compactText number)) ∧
      PulledPrice.toUpdate ⟨timestamp, asset, number, metadata⟩ =
        .error (.notDecimal (plainText number)) := by
  constructor
  · rw [PushedPrice.toUpdate, PushedPrice.decimalOf, Number.toChars,
      (denotes_compactChars range).decimalOfText_eq_error pushLarge]
    rfl
  · rw [PulledPrice.toUpdate, plainText,
      (denotes_plainChars number).decimalOfText_eq_error pullLarge]
    rfl

end Updates

/--
A price in floating point becomes an update from both feeds or from neither, with the same
time, asset and metadata.  The values are the same number, unless the price lies midway
between two shortest forms: then it is pushed as the first and pulled as the second.
-/
theorem pushed_and_pulled_prices_agree
    {numeral : Numeral} {number : Float} (held : numeral.toNumber? = some (.real number))
    (range : HasKeptExponent number)
    (timestamp : Int) (asset : String) (metadata : Option Object) :
    let pushed : PushedPrice := ⟨timestamp, asset, .number (.real number), metadata⟩
    let pulled : PulledPrice := ⟨timestamp, asset, number, metadata⟩
    let even := (magnitude number).shortest .toEven
    let away := (magnitude number).shortest .away
    (∀ room, Decoder.value room (.numeral numeral) = some pushed.value ∧
      Decoder.float room (.numeral numeral) = some pulled.price) ∧
    ((pushed.toUpdate = .error (.notDecimal (compactText number)) ∧
        pulled.toUpdate = .error (.notDecimal (plainText number))) ∨
      ∃ pushValue pullValue : Decimal,
        pushed.toUpdate = .ok ⟨timestamp, asset, pushValue, metadata⟩ ∧
        pulled.toUpdate = .ok ⟨timestamp, asset, pullValue, metadata⟩ ∧
        (pushValue.toRat = pullValue.toRat ∨
          (magnitude number).IsMidway even away ∧
            pushValue.toRat = signed (isNegative number) even.kept ∧
            pullValue.toRat = signed (isNegative number) away.kept)) := by
  intro pushed pulled even away
  refine ⟨decoders_of_held held, ?_⟩
  rcases (magnitude number).shortest_cases with same | midway
  · have kept : away.kept = even.kept := congrArg DecimalMagnitude.kept same.symm
    by_cases small : even.kept < mantissaBound
    · rcases exists_updates timestamp asset metadata range small (kept ▸ small) with
        ⟨pushValue, pullValue, pushOk, pullOk, pushEqual, pullEqual⟩
      have equal : pushValue.toRat = pullValue.toRat :=
        pushEqual.trans (kept ▸ pullEqual.symm)
      exact .inr ⟨pushValue, pullValue, pushOk, pullOk, .inl equal⟩
    · exact .inl (complaints timestamp asset metadata range small (kept ▸ small))
  · -- Midway there are digits behind the point, so neither form is too large.
    have awayFraction : away.exponent < 0 := midway.exponent.trans_lt midway.fraction
    have fits : ∀ tie, ((magnitude number).shortest tie).digits < mantissaBound :=
      fun tie => (digits_shortest_lt number tie).trans (by decide)
    have pushSmall := DecimalMagnitude.kept_lt midway.fraction (fits .toEven)
    have pullSmall := DecimalMagnitude.kept_lt awayFraction (fits .away)
    rcases exists_updates timestamp asset metadata range pushSmall pullSmall with
      ⟨pushValue, pullValue, pushOk, pullOk, pushEqual, pullEqual⟩
    exact .inr ⟨pushValue, pullValue, pushOk, pullOk, .inr ⟨midway, pushEqual, pullEqual⟩⟩

def smallNumeral : Numeral := ⟨false, ['1'], some ['5'], some (true, ['2', '8'])⟩

/-- About 1.5e-28, whose last digits are past the last place of a decimal. -/
def smallPrice : Float := .ofBits 4190534277386749972

/-- The last digits are rounded in the exponential and in the plain text alike. -/
theorem small_price_is_rounded_alike :
    smallNumeral.toNumber? = some (.real smallPrice) ∧ HasKeptExponent smallPrice ∧
    ∃ pushValue pullValue : Decimal,
      PushedPrice.toUpdate ⟨0, "BTC", .number (.real smallPrice), none⟩ =
        .ok ⟨0, "BTC", pushValue, none⟩ ∧
      PulledPrice.toUpdate ⟨0, "BTC", smallPrice, none⟩ = .ok ⟨0, "BTC", pullValue, none⟩ ∧
      pushValue.toRat = pullValue.toRat := by
  have held : smallNumeral.toNumber? = some (.real smallPrice) := by decide +kernel
  have range : HasKeptExponent smallPrice := by decide +kernel
  have same : (magnitude smallPrice).shortest .toEven = (magnitude smallPrice).shortest .away := by
    decide +kernel
  have read : Decimal.ofText? (String.ofList (plainChars smallPrice)) =
      some ⟨false, 2, 28, by decide, by decide⟩ := by
    decide +kernel
  refine ⟨held, range, ?_⟩
  rcases (pushed_and_pulled_prices_agree held range 0 "BTC" none).2 with
    ⟨_, refused⟩ | ⟨pushValue, pullValue, push, pull, equal | ⟨midway, _⟩⟩
  · rw [PulledPrice.toUpdate, plainText, decimalOfText, read] at refused
    cases refused
  · exact ⟨pushValue, pullValue, push, pull, equal⟩
  · have digits := midway.digits
    rw [same] at digits
    omega

def midwayNumeral : Numeral := ⟨false, "562949953421312".toList, some ['2', '5'], none⟩

/-- 562949953421312.25, midway between two forms of sixteen digits. -/
def midwayPrice : Float := .ofBits 4827858800541171714

def tinyNumeral : Numeral := ⟨false, ['1'], none, some (true, ['2', '9'])⟩

/-- About 1e-29, which is below the last place of a decimal. -/
def tinyPrice : Float := .ofBits 4172965893781238600

/--
A price midway between two forms is pushed and pulled as different numbers, and one whose
exponent is too small is pulled as zero but cannot be pushed.
-/
theorem midway_and_tiny_prices_differ :
    let even : Decimal := ⟨false, 5629499534213122, 1, by decide, by decide⟩
    let away : Decimal := ⟨false, 5629499534213123, 1, by decide, by decide⟩
    let zero : Decimal := ⟨false, 0, 28, by decide, by decide⟩
    (midwayNumeral.toNumber? = some (.real midwayPrice) ∧
      PushedPrice.toUpdate ⟨0, "BTC", .number (.real midwayPrice), none⟩ =
        .ok ⟨0, "BTC", even, none⟩ ∧
      PulledPrice.toUpdate ⟨0, "BTC", midwayPrice, none⟩ = .ok ⟨0, "BTC", away, none⟩ ∧
      even.toRat ≠ away.toRat) ∧
    tinyNumeral.toNumber? = some (.real tinyPrice) ∧
      PushedPrice.toUpdate ⟨0, "BTC", .number (.real tinyPrice), none⟩ =
        .error (.notDecimal "1.0000000000000001e-29") ∧
      PulledPrice.toUpdate ⟨0, "BTC", tinyPrice, none⟩ = .ok ⟨0, "BTC", zero, none⟩ := by
  intro even away zero
  have midwayPush : Decimal.ofText? (String.ofList (compactChars midwayPrice)) = some even := by
    decide +kernel
  have midwayPull : Decimal.ofText? (String.ofList (plainChars midwayPrice)) = some away := by
    decide +kernel
  have tinyText : String.ofList (compactChars tinyPrice) = "1.0000000000000001e-29" := by
    decide +kernel
  have tinyPush : Decimal.ofText? "1.0000000000000001e-29" = none := by decide +kernel
  have tinyPull : Decimal.ofText? (String.ofList (plainChars tinyPrice)) = some zero := by
    decide +kernel
  refine ⟨⟨by decide +kernel, ?_, ?_, by decide +kernel⟩, by decide +kernel, ?_, ?_⟩
  · rw [PushedPrice.toUpdate, PushedPrice.decimalOf, Number.toChars, decimalOfText, midwayPush]
    rfl
  · rw [PulledPrice.toUpdate, plainText, decimalOfText, midwayPull]
    rfl
  · rw [PushedPrice.toUpdate, PushedPrice.decimalOf, Number.toChars, tinyText, decimalOfText,
      tinyPush]
    rfl
  · rw [PulledPrice.toUpdate, plainText, decimalOfText, tinyPull]
    rfl

end PricePublisher
