import Mathlib.Algebra.Order.Ring.Abs
import PricePublisher.Proofs.Price.Order
import PricePublisher.Proofs.Signing.SignedRange
import PricePublisher.Proofs.Signing.Verification

/-!
# A price is signed as it is published

Less than one unit is cut off from a decimal, and less than a million units are cleared.
What is left has fewer than 160 bits, so the text of every price has a word, which reads as
the number in the text.  Signing can fail only for a reason of the curve.
-/

namespace PricePublisher

namespace QuantizedPrice

theorem abs_wholeUnits (number : Rat) : |wholeUnits number| = (|number| * 10 ^ 18).floor := by
  have nonneg : 0 ≤ (|number| * 10 ^ 18).floor := Rat.le_floor_iff.mpr (by positivity)
  rcases le_total 0 number with above | below
  · rw [abs_of_nonneg above] at nonneg ⊢
    rw [wholeUnits_of_nonneg above, abs_of_nonneg nonneg]
  · rw [abs_of_nonpos below] at nonneg ⊢
    rw [← abs_neg, ← wholeUnits_neg, wholeUnits_of_nonneg (neg_nonneg.mpr below),
      abs_of_nonneg nonneg]

/-- Less than a unit is cut off, and it is cut off towards zero. -/
theorem wholeUnits_bounds (number : Rat) :
    |(wholeUnits number : Rat)| ≤ |number| * 10 ^ 18 ∧
      |number| * 10 ^ 18 < |(wholeUnits number : Rat)| + 1 := by
  have below_next := Rat.lt_floor_add_one (|number| * 10 ^ 18)
  rw [Int.cast_add, Int.cast_one] at below_next
  rw [← Int.cast_abs, abs_wholeUnits]
  exact ⟨Rat.floor_le _, below_next⟩

theorem pos_of_wholeUnits_pos {number : Rat} (positive : 0 < wholeUnits number) :
    0 < number := by
  have lower := (le_wholeUnits_iff positive).mp le_rfl
  have positive' : (0 : Rat) < wholeUnits number := Int.cast_pos.mpr positive
  linarith

theorem neg_of_wholeUnits_neg {number : Rat} (negative : wholeUnits number < 0) :
    number < 0 := by
  rw [← Int.neg_pos, ← wholeUnits_neg] at negative
  exact neg_pos.mp (pos_of_wholeUnits_pos negative)

/-- Less than a million units are cleared, and what is left is no larger. -/
theorem natAbs_cleared_bounds (units : Int) :
    (cleared units).natAbs ≤ units.natAbs ∧
      units.natAbs < (cleared units).natAbs + 1000000 := by
  rw [cleared_eq]
  split <;> omega

theorem pos_of_cleared_pos {units : Int} (positive : 0 < cleared units) : 0 < units := by
  rw [cleared_eq] at positive
  split at positive <;> omega

theorem neg_of_cleared_neg {units : Int} (negative : cleared units < 0) : units < 0 := by
  rw [cleared_eq] at negative
  split at negative <;> omega

theorem natAbs_wholeUnits_le (decimal : Decimal) :
    (wholeUnits decimal.toRat).natAbs ≤ decimal.mantissa * Nat.pow 10 unitPlaces := by
  rw [wholeUnits_toRat]
  refine (Int.natAbs_tdiv_le_natAbs _ _).trans_eq ?_
  rw [Int.natAbs_mul, decimal.natAbs_signedMantissa, Int.natAbs_natCast]

/-- The number in a price is far within the signed range. -/
theorem natAbs_cleared_lt (decimal : Decimal) :
    (cleared (wholeUnits decimal.toRat)).natAbs < 2 ^ 160 := by
  have mantissa_lt : decimal.mantissa < Nat.pow 2 96 := decimal.mantissa_lt
  have units_lt : decimal.mantissa * Nat.pow 10 unitPlaces < Nat.pow 2 96 * Nat.pow 10 unitPlaces :=
    Nat.mul_lt_mul_of_pos_right mantissa_lt (by decide)
  calc
    (cleared (wholeUnits decimal.toRat)).natAbs ≤ (wholeUnits decimal.toRat).natAbs :=
      (natAbs_cleared_bounds _).1
    _ ≤ decimal.mantissa * Nat.pow 10 unitPlaces := natAbs_wholeUnits_le decimal
    _ < Nat.pow 2 96 * Nat.pow 10 unitPlaces := units_lt
    _ < 2 ^ 160 := by norm_num [unitPlaces]

/-- The text of a price has a word, which reads as the number in the text. -/
theorem ofText_text (decimal : Decimal) :
    PriceWord.ofText (ofDecimal decimal).text =
        .ok (PriceWord.ofInt (cleared (wholeUnits decimal.toRat))) ∧
      PriceWord.toInt (PriceWord.ofInt (cleared (wholeUnits decimal.toRat))) =
        cleared (wholeUnits decimal.toRat) := by
  have small := natAbs_cleared_lt decimal
  constructor
  · refine PriceWord.ofText_eq_ok_iff.mpr ⟨_, toInt?_text decimal, small.trans ?_, rfl⟩
    norm_num [PriceWord.width]
  · rw [PriceWord.toInt_ofInt_eq_iff, PriceWord.IsSigned]
    omega

/-- The whole units that a number has once less than a million of them are taken away. -/
structure IsCutFrom (units : Int) (number : Rat) : Prop where
  le : |(units : Rat)| ≤ |number| * 10 ^ 18
  lt : |number| * 10 ^ 18 < |(units : Rat)| + 10 ^ 6
  sign : units = 0 ∨ (0 < units ∧ 0 < number) ∨ (units < 0 ∧ number < 0)

theorem isCutFrom_cleared (number : Rat) : IsCutFrom (cleared (wholeUnits number)) number := by
  rcases wholeUnits_bounds number with ⟨whole_le, lt_whole⟩
  rcases natAbs_cleared_bounds (wholeUnits number) with ⟨fewer, near⟩
  have abs_le : |cleared (wholeUnits number)| ≤ |wholeUnits number| := by
    rw [Int.abs_eq_natAbs, Int.abs_eq_natAbs]
    exact Int.ofNat_le.mpr fewer
  have abs_near : |wholeUnits number| + 1 ≤ |cleared (wholeUnits number)| + 10 ^ 6 := by
    rw [Int.abs_eq_natAbs, Int.abs_eq_natAbs]
    omega
  constructor
  case le => exact le_trans (by exact_mod_cast abs_le) whole_le
  case lt => exact lt_whole.trans_le (by exact_mod_cast abs_near)
  case sign =>
    rcases lt_trichotomy 0 (cleared (wholeUnits number)) with positive | zero | negative
    · exact .inr (.inl ⟨positive, pos_of_wholeUnits_pos (pos_of_cleared_pos positive)⟩)
    · exact .inl zero.symm
    · exact .inr (.inr ⟨negative, neg_of_wholeUnits_neg (neg_of_cleared_neg negative)⟩)

end QuantizedPrice

/-!
## Signing
-/

theorem Payload.bytes_of_ofText
    {price : String} {word : Bytes}
    (address : Bytes) (asset : String) (timestamp : Int)
    (accepted : PriceWord.ofText price = .ok word) :
    Payload.bytes address asset timestamp price =
      .ok (Payload.assemble address asset timestamp word) := by
  rw [Payload.bytes, accepted]
  rfl

theorem Payload.hash_of_bytes
    {address message : Bytes} {asset price : String} {timestamp : Int}
    (made : Payload.bytes address asset timestamp price = .ok message) :
    Payload.hash address asset timestamp price = .ok (Keccak.hash message) := by
  rw [Payload.hash, made]
  rfl

namespace EvmSigner

/-- Once there is a hash, signing it is left to the curve. -/
theorem sign_of_hash
    {signer : EvmSigner} {timestamp : Int} {asset price : String} {published : Bytes}
    (hashed : Payload.hash signer.address asset timestamp price = .ok published) :
    (Ecdsa.sign? signer.key (Payload.personalHash published) = none ∧
        signer.sign timestamp asset price = .error (.refused "signature error")) ∨
      ∃ signature, Ecdsa.sign? signer.key (Payload.personalHash published) = some signature ∧
        signer.sign timestamp asset price =
          .ok ⟨⟨signatureTexts signature, timestamp, Hex.encodePrefixed published⟩, asset⟩ := by
  fun_cases sign signer timestamp asset price with
  | case1 cause fails =>
      rw [hashed] at fails
      cases fails
  | case2 other made refuses =>
      rw [hashed, Except.ok.injEq] at made
      rw [made]
      exact .inl ⟨refuses, rfl⟩
  | case3 other made signature signs =>
      rw [hashed, Except.ok.injEq] at made
      rw [made]
      exact .inr ⟨signature, signs, rfl⟩

end EvmSigner

namespace TriggeredUpdate

theorem sign_of_failed
    {selected : TriggeredUpdate} {signer : Signer} {cause : SigningError}
    (oracle : String)
    (failed :
      signer.sign selected.update.timestamp selected.update.asset
          (QuantizedPrice.ofDecimal selected.update.value).text =
        .error cause) :
    selected.sign signer oracle = .error cause := by
  rw [sign, failed]
  rfl

/--
The price of an update always has a word, which is the number in the published text and is
cut from the update's value.  That word ends the signed message, and the published hash is
the message's.  An update that is not signed is one that the curve refused.
-/
theorem signs_published_price
    (selected : TriggeredUpdate) (signer : EvmSigner) (oracle : String) :
    let update := selected.update
    let price := QuantizedPrice.ofDecimal update.value
    (∀ cause, selected.sign signer.toSigner oracle ≠ .error (.invalidPrice cause)) ∧
      ∃ number word message,
        Digits.toInt? price.text.toList = some number ∧
        QuantizedPrice.IsCutFrom number update.value.toRat ∧
        word.length = 32 ∧ PriceWord.toInt word = number ∧
        message = Payload.assemble signer.address update.asset update.timestamp word ∧
        Payload.bytes signer.address update.asset update.timestamp price.text = .ok message ∧
        ((Ecdsa.sign? signer.key (Payload.personalHash (Keccak.hash message)) = none ∧
            selected.sign signer.toSigner oracle = .error (.refused "signature error")) ∨
          ∃ signature signed,
            Ecdsa.sign? signer.key (Payload.personalHash (Keccak.hash message)) =
              some signature ∧
            selected.sign signer.toSigner oracle = .ok signed ∧
            signed.signedPrice.price = price ∧
            signed.signedPrice.published? = some (Keccak.hash message)) := by
  intro update price
  rcases QuantizedPrice.ofText_text update.value with ⟨accepted, read⟩
  have made := Payload.bytes_of_ofText signer.address update.asset update.timestamp accepted
  have hashed := Payload.hash_of_bytes made
  have outcome := EvmSigner.sign_of_hash hashed
  refine ⟨?priced, _, _, _, QuantizedPrice.toInt?_text update.value,
    QuantizedPrice.isCutFrom_cleared _, PriceWord.length_ofInt _, read, rfl, made, ?signed⟩
  case priced =>
    intro cause failed
    rcases outcome with ⟨_, refused⟩ | ⟨signature, _, answered⟩
    · rw [sign_of_failed oracle refused] at failed
      cases failed
    · rw [sign_of_answered oracle answered] at failed
      cases failed
  case signed =>
    rcases outcome with ⟨refuses, refused⟩ | ⟨signature, signs, answered⟩
    · exact .inl ⟨refuses, sign_of_failed oracle refused⟩
    · refine .inr ⟨signature, _, signs, sign_of_answered oracle answered, rfl, ?_⟩
      exact Hex.decodePrefixed?_encodePrefixed _

end TriggeredUpdate

end PricePublisher
