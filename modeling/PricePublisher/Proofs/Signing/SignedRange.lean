import PricePublisher.Proofs.Signing.PriceWord

/-!
# What the word of a price says

A whole number in base ten has a word if its magnitude has at most 256 bits, however
many zeros stand in front.  The word denotes the number's remainder after division by
`2 ^ 256`.  Read in two's complement it gives the number back only within the signed
range, and the magnitudes that are accepted exceed that range on both sides: outside of
it, different numbers share words.
-/

namespace PricePublisher.PriceWord

theorem eq_ofInt_iff
    {word : Bytes} {number : Int} :
    word = ofInt number ↔
      word.length = 32 ∧ (Bytes.toNat word : Int) = number % 2 ^ 256 := by
  rw [← modulus_int, ← toNat_ofInt, Int.natCast_inj]
  constructor
  · intro same
    rw [same]
    exact ⟨length_ofInt number, rfl⟩
  · rintro ⟨length_eq, denoted⟩
    rw [Bytes.eq_ofNat length_eq denoted]
    exact (Bytes.eq_ofNat (length_ofInt number) rfl).symm

/--
Every text is read without an overflow on the way.  It has a word exactly if it spells a
number of magnitude below `2 ^ 256`, and the word is that of the number's remainder.
-/
theorem reads_numbers_of_256_bits
    (text : String) :
    ofText? text = some (ofText text) ∧
      ((∃ word, ofText text = .ok word) ↔
        ∃ number, Digits.Spells text.toList number ∧ number.natAbs < 2 ^ 256) ∧
      ∀ word, ofText text = .ok word ↔
        ∃ number, Digits.Spells text.toList number ∧ number.natAbs < 2 ^ 256 ∧
          word.length = 32 ∧ (Bytes.toNat word : Int) = number % 2 ^ 256 := by
  have bound : 256 ^ width = 2 ^ 256 := by norm_num [width]
  refine ⟨(Option.some_get (isSome_ofText? text)).symm, ?accepts, ?denotes⟩
  case accepts =>
    simp only [ofText_eq_ok_iff, bound, Digits.toInt?_eq_some_iff]
    constructor
    · rintro ⟨word, number, spelled, fits, _⟩
      exact ⟨number, spelled, fits⟩
    · rintro ⟨number, spelled, fits⟩
      exact ⟨ofInt number, number, spelled, fits, rfl⟩
  case denotes =>
    intro word
    simp only [ofText_eq_ok_iff, bound, Digits.toInt?_eq_some_iff, eq_ofInt_iff]

/-!
## Two's complement
-/

/-- The numbers that 256 bits hold in two's complement. -/
def IsSigned (number : Int) : Prop :=
  -2 ^ 255 ≤ number ∧ number < 2 ^ 255

/-- The word of a number reads as the number of the signed range that differs by whole turns. -/
theorem toInt_ofInt
    (number : Int) :
    toInt (ofInt number) = number.bmod (2 ^ 256) := by
  have half : Nat.pow 2 255 = (2 ^ 256 + 1) / 2 := by norm_num
  have denoted : (Bytes.toNat (ofInt number) : Int) = number % (2 ^ 256 : Nat) :=
    (eq_ofInt_iff.mp rfl).2
  rw [toInt, Int.bmod, ← denoted, half]
  simp only [Nat.pow_eq]
  split <;> split <;> omega

theorem toInt_ofInt_eq_iff
    {number : Int} :
    toInt (ofInt number) = number ↔ IsSigned number := by
  rw [toInt_ofInt]
  constructor
  · intro same
    have lower := Int.le_bmod (x := number) (m := 2 ^ 256) (by decide)
    have upper := Int.bmod_lt (x := number) (m := 2 ^ 256) (by decide)
    rw [same] at lower upper
    rw [IsSigned]
    omega
  · rintro ⟨lower, upper⟩
    exact Int.bmod_eq_of_le (by omega) (by omega)

/--
The word of a text reads as the number that the text spells exactly if that number is in
the signed range.  Two texts share a word exactly if their numbers differ by a multiple of
`2 ^ 256`, so within the signed range different numbers have different words.
-/
theorem reads_back_within_signed_range
    {text other : String} {word otherWord : Bytes}
    (accepted : ofText text = .ok word) (otherAccepted : ofText other = .ok otherWord) :
    ∃ number otherNumber,
      Digits.toInt? text.toList = some number ∧
      Digits.toInt? other.toList = some otherNumber ∧
      toInt word = number.bmod (2 ^ 256) ∧
      (toInt word = number ↔ IsSigned number) ∧
      (word = otherWord ↔ number ≡ otherNumber [ZMOD 2 ^ 256]) ∧
      (IsSigned number → IsSigned otherNumber → word = otherWord → number = otherNumber) := by
  rcases ofText_eq_ok_iff.mp accepted with ⟨number, read, _, word_eq⟩
  rcases ofText_eq_ok_iff.mp otherAccepted with ⟨otherNumber, otherRead, _, otherWord_eq⟩
  refine ⟨number, otherNumber, read, otherRead, ?reading, ?faithful, ?shared, ?distinct⟩
  case reading => rw [word_eq, toInt_ofInt]
  case faithful => rw [word_eq, toInt_ofInt_eq_iff]
  case shared => rw [word_eq, otherWord_eq, ofInt_inj]
  case distinct =>
    intro signed otherSigned same
    rw [← toInt_ofInt_eq_iff] at signed otherSigned
    rw [← signed, ← otherSigned, ← word_eq, ← otherWord_eq, same]

/-- The least number of the signed range has a word of its own among those of the range. -/
theorem reads_back_least :
    let least := "-57896044618658097711785492504343953926634992332820282019728792003956564819968"
    let word : Bytes := 128 :: List.replicate 31 0
    ofText least = .ok word ∧ ofText "-1" = .ok (List.replicate 32 255) ∧
      toInt word = -2 ^ 255 := by
  intro least word
  have accepted : ofText least = .ok word := by decide +kernel
  have otherAccepted : ofText "-1" = .ok (List.replicate 32 255) := by decide +kernel
  have spelled : Digits.toInt? least.toList = some (-2 ^ 255) := by decide +kernel
  rcases reads_back_within_signed_range accepted otherAccepted with
    ⟨number, _, read, _, _, faithful, _⟩
  rw [spelled, Option.some.injEq] at read
  subst read
  exact ⟨accepted, otherAccepted, faithful.mpr ⟨le_rfl, by decide⟩⟩

/-- The first number above the signed range is accepted, and has the word of its opposite. -/
theorem opposite_prices_share_word :
    let price := "57896044618658097711785492504343953926634992332820282019728792003956564819968"
    let word : Bytes := 128 :: List.replicate 31 0
    ofText price = .ok word ∧ ofText ("-" ++ price) = .ok word ∧
      Digits.toInt? price.toList = some (2 ^ 255) ∧
      Digits.toInt? ("-" ++ price).toList = some (-2 ^ 255) ∧
      toInt word = -2 ^ 255 ∧ toInt word ≠ 2 ^ 255 := by
  refine ⟨?accepted, ?opposite, ?number, ?opposite_number, ?reading, ?different⟩
  case accepted => decide +kernel
  case opposite => decide +kernel
  case number => decide +kernel
  case opposite_number => decide +kernel
  case reading => decide +kernel
  case different => decide +kernel

end PricePublisher.PriceWord
