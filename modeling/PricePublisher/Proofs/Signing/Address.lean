import PricePublisher.Proofs.Bytes.Hex
import PricePublisher.Signing.Address

/-!
# How addresses are written

The checksum only touches the case of digits, so the text of an address reads
back as its bytes.  It makes a letter an upper-case one exactly where the hash
of the lower-case text asks for it.
-/

namespace PricePublisher

theorem Keccak.length_hash
    (message : Bytes) :
    (Keccak.hash message).length = 32 := by
  have each : ∀ lane : UInt64, (Keccak.bytesOfLane lane).length = 8 := by
    intro lane
    rw [Keccak.bytesOfLane, List.length_map, List.length_range]
  simp only [Keccak.hash, List.length_flatMap, each, List.map_const',
    List.sum_replicate_nat, List.length_take, Vector.length_toList]
  rfl

namespace Address

theorem length_ofPoint
    (point : Secp256k1.Point) :
    (ofPoint point).length = 20 := by
  rw [ofPoint, List.length_drop, Keccak.length_hash]

theorem length_nibbles
    (bytes : Bytes) :
    (nibbles bytes).length = 2 * bytes.length := by
  induction bytes with
  | nil => rfl
  | cons byte bytes hypothesis =>
      have unfolded : nibbles (byte :: bytes) =
          byte.toNat / 16 :: byte.toNat % 16 :: nibbles bytes :=
        rfl
      rw [unfolded, List.length_cons, List.length_cons, hypothesis, List.length_cons]
      omega

theorem isDigitOf_checksumChar
    {character : Char} {value : Nat}
    (isDigit : Hex.IsDigitOf character value)
    (nibble : Nat) :
    Hex.IsDigitOf (checksumChar character nibble) value := by
  rw [checksumChar]
  split
  · exact isDigit.toUpper
  · exact isDigit

theorem spells_checksumChar
    {characters : List Char} {bytes : Bytes}
    (spells : Hex.Spells characters bytes)
    {nibbles : List Nat}
    (enough : characters.length ≤ nibbles.length) :
    Hex.Spells (List.zipWith checksumChar characters nibbles) bytes := by
  induction spells generalizing nibbles with
  | nil => exact Hex.Spells.nil
  | cons high low later hypothesis =>
      rcases nibbles with _ | ⟨first, _ | ⟨second, nibbles⟩⟩
      · simp at enough
      · simp at enough
      · apply Hex.Spells.cons
        · exact isDigitOf_checksumChar high first
        · exact isDigitOf_checksumChar low second
        · apply hypothesis
          simpa using enough

/-- An address of up to 32 bytes is not cut short by its checksum. -/
theorem decodePrefixed?_toText
    {address : Bytes}
    (short : address.length ≤ 32) :
    Hex.decodePrefixed? (toText address) = some address := by
  have spells := Hex.spells_encodeChars address
  have enough : (Hex.encodeChars address).length ≤
      (nibbles (Keccak.hash (Bytes.ofText (String.ofList (Hex.encodeChars address))))).length := by
    rw [spells.length_eq, length_nibbles, Keccak.length_hash]
    omega
  rw [toText, checksumChars]
  exact (spells_checksumChar spells enough).decodePrefixed?_eq

/-!
## The case of each character
-/

/-- The half of a byte that stands at a position, upper halves at the even ones. -/
def halfAt (bytes : Bytes) (position : Nat) : Nat :=
  let byte := bytes.getD (position / 2) 0
  if position % 2 = 0 then byte.toNat / 16 else byte.toNat % 16

/-- Characters are the digits of an address, their case being the checksum. -/
structure HasChecksum (address : Bytes) (characters : List Char) : Prop where
  length_eq : characters.length = 40
  toLower_eq : characters.map Char.toLower = Hex.encodeChars address
  isUpper_iff : ∀ (position : Nat) (within : position < characters.length),
    characters[position].isUpper = true ↔
      characters[position].isAlpha = true ∧
        8 ≤ halfAt (Keccak.hash (Bytes.ofText (Hex.encode address))) position

theorem getElem_nibbles
    {bytes : Bytes} {position : Nat}
    (within : position < (nibbles bytes).length) :
    (nibbles bytes)[position] = halfAt bytes position := by
  induction bytes generalizing position with
  | nil => exact absurd within (Nat.not_lt_zero position)
  | cons byte bytes hypothesis =>
      match position with
      | 0 => rfl
      | 1 => rfl
      | position + 2 =>
          have within_rest : position < (nibbles bytes).length := by
            rw [length_nibbles] at within ⊢
            rw [List.length_cons] at within
            omega
          have later : halfAt (byte :: bytes) (position + 2) = halfAt bytes position := by
            rw [halfAt, halfAt, Nat.add_div_right position (by decide), Nat.add_mod_right,
              List.getD_cons_succ]
          rw [later]
          exact hypothesis within_rest

theorem exists_digit_of_mem_encodeChars
    {bytes : Bytes} {character : Char}
    (member : character ∈ Hex.encodeChars bytes) :
    ∃ value < 16, character = Hex.digit value := by
  obtain ⟨byte, -, half⟩ := List.mem_flatMap.mp member
  have byte_lt : byte.toNat < 256 := byte.toNat_lt
  simp only [List.mem_cons, List.not_mem_nil, or_false] at half
  rcases half with rfl | rfl
  · exact ⟨_, by omega, rfl⟩
  · exact ⟨_, by omega, rfl⟩

/-- What the checksum does to a digit is told by its lower-case form. -/
theorem checksumChar_digit
    {value : Nat}
    (small : value < 16)
    (nibble : Nat) :
    (checksumChar (Hex.digit value) nibble).toLower = Hex.digit value ∧
      ((checksumChar (Hex.digit value) nibble).isUpper = true ↔
        (checksumChar (Hex.digit value) nibble).isAlpha = true ∧ 8 ≤ nibble) := by
  have kept : ∀ value < 16,
      (Hex.digit value).toLower = Hex.digit value ∧ (Hex.digit value).isUpper = false := by
    decide
  have raised : ∀ value < 16, (Hex.digit value).isAlpha = true →
      (Hex.digit value).toUpper.toLower = Hex.digit value ∧
        (Hex.digit value).toUpper.isUpper = true ∧ (Hex.digit value).toUpper.isAlpha = true := by
    decide
  rw [checksumChar]
  split
  next asked =>
    obtain ⟨letter, large⟩ : (Hex.digit value).isAlpha = true ∧ 8 ≤ nibble := by
      simpa only [Bool.and_eq_true, decide_eq_true_eq] using asked
    obtain ⟨lower, upper, alpha⟩ := raised value small letter
    exact ⟨lower, iff_of_true upper ⟨alpha, large⟩⟩
  next asked =>
    obtain ⟨lower, upper⟩ := kept value small
    rw [Bool.and_eq_true, decide_eq_true_eq] at asked
    exact ⟨lower, iff_of_false (ne_true_of_eq_false upper) asked⟩

theorem length_checksumChars
    {address : Bytes}
    (length_eq : address.length = 20) :
    (checksumChars address).length = 40 := by
  rw [checksumChars, List.length_zipWith, length_nibbles, Keccak.length_hash,
    (Hex.spells_encodeChars address).length_eq, length_eq]
  rfl

theorem map_toLower_checksumChars
    {address : Bytes}
    (length_eq : address.length = 20) :
    (checksumChars address).map Char.toLower = Hex.encodeChars address := by
  have all_length := length_checksumChars length_eq
  have digits_length : (Hex.encodeChars address).length = 40 := by
    rw [(Hex.spells_encodeChars address).length_eq, length_eq]
  apply List.ext_getElem
  · rw [List.length_map, all_length, digits_length]
  · intro position within within_digits
    obtain ⟨value, small, digit_eq⟩ :=
      exists_digit_of_mem_encodeChars (List.getElem_mem within_digits)
    simp only [checksumChars, List.getElem_map, List.getElem_zipWith, digit_eq]
    exact (checksumChar_digit small _).1

/-- The characters behind `0x` carry the checksum of the address. -/
theorem hasChecksum_checksumChars
    {address : Bytes}
    (length_eq : address.length = 20) :
    HasChecksum address (checksumChars address) where
  length_eq := length_checksumChars length_eq
  toLower_eq := map_toLower_checksumChars length_eq
  isUpper_iff := by
    intro position within
    have within_digits : position < (Hex.encodeChars address).length := by
      rw [(Hex.spells_encodeChars address).length_eq, length_eq]
      rwa [length_checksumChars length_eq] at within
    obtain ⟨value, small, digit_eq⟩ :=
      exists_digit_of_mem_encodeChars (List.getElem_mem within_digits)
    simp only [checksumChars, List.getElem_zipWith, digit_eq, getElem_nibbles]
    exact (checksumChar_digit small _).2

end Address

end PricePublisher
