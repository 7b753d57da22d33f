import Mathlib.Data.List.Induction
import PricePublisher.Bytes.Hex
import PricePublisher.Proofs.Bytes.Basic
import PricePublisher.Proofs.Outcome

/-!
# Reading hexadecimal texts

A text spells a byte string when its characters are, two for each byte, the
digits of the byte's halves.  The case of each digit is free, and a text is read
as a byte string exactly if it spells it.  Every even number of digits spells the
bytes of the number that the digits denote in base sixteen.
-/

namespace PricePublisher.Hex

open Bytes (ofAscii)
open Outcome (bind_eq_ok_iff)

/-- A character is a digit of a given value, in either case. -/
structure IsDigitOf (character : Char) (value : Nat) : Prop where
  ascii : character.toNat < 128
  value_eq : value? (ofAscii character) = some value

/-- The characters are the digits of the bytes. -/
inductive Spells : List Char → Bytes → Prop where
  | nil : Spells [] []
  | cons
      {upper lower : Char} {byte : UInt8} {rest : List Char} {bytes : Bytes}
      (high : IsDigitOf upper (byte.toNat / 16))
      (low : IsDigitOf lower (byte.toNat % 16))
      (later : Spells rest bytes) :
      Spells (upper :: lower :: rest) (byte :: bytes)

theorem isDigitOf_digit
    {value : Nat}
    (small : value < 16) :
    IsDigitOf (digit value) value := by
  have ascii : ∀ value < 16, (digit value).toNat < 128 := by decide
  have reads : ∀ value < 16, value? (ofAscii (digit value)) = some value := by decide
  exact ⟨ascii value small, reads value small⟩

theorem forall_ascii
    {holds : Char → Prop}
    (each : ∀ code < 128, holds (Char.ofNat code))
    {character : Char}
    (ascii : character.toNat < 128) :
    holds character := by
  have instance_holds := each character.toNat ascii
  rwa [Char.ofNat_toNat] at instance_holds

theorem IsDigitOf.toUpper
    {character : Char} {value : Nat}
    (isDigit : IsDigitOf character value) :
    IsDigitOf character.toUpper value := by
  -- There are just 128 characters to look at.
  have same : character.toUpper.toNat < 128 ∧
      value? (ofAscii character.toUpper) = value? (ofAscii character) :=
    @forall_ascii
      (fun character => character.toUpper.toNat < 128 ∧
        value? (ofAscii character.toUpper) = value? (ofAscii character))
      (by decide +kernel) character isDigit.ascii
  rcases same with ⟨ascii, value_eq⟩
  exact ⟨ascii, value_eq.trans isDigit.value_eq⟩

theorem spells_encodeChars
    (bytes : Bytes) :
    Spells (encodeChars bytes) bytes := by
  induction bytes with
  | nil => exact Spells.nil
  | cons byte bytes hypothesis =>
      have byte_lt : byte.toNat < 256 := byte.toNat_lt
      apply Spells.cons
      · exact isDigitOf_digit (by omega)
      · exact isDigitOf_digit (by omega)
      · exact hypothesis

theorem Spells.length_eq
    {characters : List Char} {bytes : Bytes}
    (spells : Spells characters bytes) :
    characters.length = 2 * bytes.length := by
  induction spells with
  | nil => rfl
  | cons high low later hypothesis =>
      simp only [List.length_cons, hypothesis]
      omega

theorem Spells.ascii
    {characters : List Char} {bytes : Bytes}
    (spells : Spells characters bytes) :
    ∀ character ∈ characters, character.toNat < 128 := by
  induction spells with
  | nil => exact List.forall_mem_nil _
  | cons high low later hypothesis =>
      intro character member
      rcases List.mem_cons.mp member with rfl | member
      · exact high.ascii
      · rcases List.mem_cons.mp member with rfl | member
        · exact low.ascii
        · exact hypothesis character member

theorem valueAt_eq
    {character : Char} {value : Nat}
    (position : Nat)
    (isDigit : IsDigitOf character value) :
    valueAt position (ofAscii character) = .ok value := by
  rw [valueAt, isDigit.value_eq]

theorem Spells.decodeFrom_eq
    {characters : List Char} {bytes : Bytes}
    (spells : Spells characters bytes)
    (position : Nat) :
    decodeFrom position (characters.map ofAscii) = .ok bytes := by
  induction spells generalizing position with
  | nil => rfl
  | @cons upper lower byte rest bytes high low later hypothesis =>
      have halves : byte.toNat / 16 * 16 + byte.toNat % 16 = byte.toNat :=
        Nat.div_add_mod' byte.toNat 16
      simp only [List.map_cons, decodeFrom, valueAt_eq _ high, valueAt_eq _ low,
        hypothesis, bind, Except.bind, pure, Except.pure, halves, UInt8.ofNat_toNat]

/-- What a text spells is what is read from it. -/
theorem Spells.decode_eq
    {characters : List Char} {bytes : Bytes}
    (spells : Spells characters bytes) :
    decode (String.ofList characters) = .ok bytes := by
  have even : ¬ (characters.map ofAscii).length % 2 = 1 := by
    rw [List.length_map, spells.length_eq]
    omega
  rw [decode, Bytes.ofText_of_ascii spells.ascii]
  simp only [if_neg even]
  exact spells.decodeFrom_eq 0

/-!
## Digits of either case
-/

/-- A character is a hexadecimal digit of either case. -/
def IsDigit (character : Char) : Prop :=
  ('0' ≤ character ∧ character ≤ '9') ∨ ('a' ≤ character ∧ character ≤ 'f') ∨
    ('A' ≤ character ∧ character ≤ 'F')

theorem isDigit_iff
    {character : Char} :
    isDigit character = true ↔ IsDigit character := by
  rw [isDigit, Bool.or_eq_true, Bool.or_eq_true, Bool.and_eq_true, Bool.and_eq_true,
    decide_eq_true_iff, decide_eq_true_iff, decide_eq_true_iff, decide_eq_true_iff, or_assoc,
    Char.isDigit, Bool.and_eq_true, decide_eq_true_iff, decide_eq_true_iff]
  rfl

/-- The place of a digit among the sixteen, whatever its case. -/
def place (character : Char) : Nat :=
  "0123456789abcdef".toList.idxOf character.toLower

/-- The number that digits denote in base sixteen. -/
def number (digits : List Char) : Nat :=
  digits.foldl (fun number character => 16 * number + place character) 0

theorem IsDigit.ascii
    {character : Char}
    (digit : IsDigit character) :
    character.toNat < 128 := by
  rcases digit with ⟨-, upto⟩ | ⟨-, upto⟩ | ⟨-, upto⟩ <;>
    exact Nat.lt_of_le_of_lt (Char.le_def.mp upto) (by decide)

theorem isDigitOf_iff
    {character : Char} {value : Nat} :
    IsDigitOf character value ↔ IsDigit character ∧ place character = value := by
  have reads : ∀ character : Char, character.toNat < 128 →
      value? (ofAscii character) =
        if isDigit character then some (place character) else none := by
    intro character
    exact @forall_ascii
      (fun character => value? (ofAscii character) =
        if isDigit character then some (place character) else none)
      (by decide +kernel) character
  constructor
  · rintro ⟨ascii, value_eq⟩
    rw [reads character ascii] at value_eq
    split at value_eq
    next digit => exact ⟨isDigit_iff.mp digit, Option.some.inj value_eq⟩
    next => cases value_eq
  · rintro ⟨digit, rfl⟩
    refine ⟨digit.ascii, ?_⟩
    rw [reads character digit.ascii, if_pos (isDigit_iff.mpr digit)]

theorem IsDigit.place_lt
    {character : Char}
    (digit : IsDigit character) :
    place character < 16 := by
  have inRange := @forall_ascii
    (fun character => isDigit character = true → place character < 16)
    (by decide +kernel) character digit.ascii
  exact inRange (isDigit_iff.mpr digit)

theorem IsDigit.isDigitOf
    {character : Char}
    (digit : IsDigit character) :
    IsDigitOf character (place character) :=
  isDigitOf_iff.mpr ⟨digit, rfl⟩

theorem Spells.isDigit
    {characters : List Char} {bytes : Bytes}
    (spells : Spells characters bytes) :
    ∀ character ∈ characters, IsDigit character := by
  induction spells with
  | nil => exact List.forall_mem_nil _
  | cons high low later hypothesis =>
      refine List.forall_mem_cons.mpr ⟨(isDigitOf_iff.mp high).1, ?_⟩
      exact List.forall_mem_cons.mpr ⟨(isDigitOf_iff.mp low).1, hypothesis⟩

/-- Every even number of digits spells some bytes. -/
theorem exists_spells
    {characters : List Char}
    (even : characters.length % 2 = 0)
    (digits : ∀ character ∈ characters, IsDigit character) :
    ∃ bytes, Spells characters bytes := by
  induction characters using List.twoStepInduction with
  | nil => exact ⟨[], Spells.nil⟩
  | singleton character => cases even
  | cons_cons upper lower rest hypothesis _ =>
      obtain ⟨upperDigit, lowerDigit, digits⟩ :
          IsDigit upper ∧ IsDigit lower ∧ ∀ character ∈ rest, IsDigit character := by
        simpa only [List.forall_mem_cons] using digits
      have evenRest : rest.length % 2 = 0 := by
        simpa only [List.length_cons, Nat.add_assoc, Nat.add_mod_right] using even
      obtain ⟨bytes, later⟩ := hypothesis evenRest digits
      have upper_lt := upperDigit.place_lt
      have lower_lt := lowerDigit.place_lt
      let byte := UInt8.ofNat (place upper * 16 + place lower)
      have byte_eq : byte.toNat = place upper * 16 + place lower := by
        rw [UInt8.toNat_ofNat']
        omega
      refine ⟨byte :: bytes, Spells.cons ?_ ?_ later⟩
      · convert upperDigit.isDigitOf using 1
        omega
      · convert lowerDigit.isDigitOf using 1
        omega

theorem Spells.number_eq
    {characters : List Char} {bytes : Bytes}
    (spells : Spells characters bytes) :
    number characters = Bytes.toNat bytes := by
  -- The numbers read so far are the same at every byte.
  have after : ∀ earlier : Nat,
      characters.foldl (fun number character => 16 * number + place character) earlier =
        bytes.foldl (fun number byte => 256 * number + byte.toNat) earlier := by
    induction spells with
    | nil => exact fun _ => rfl
    | @cons upper lower byte rest bytes high low later hypothesis =>
        intro earlier
        have both : 16 * (16 * earlier + byte.toNat / 16) + byte.toNat % 16 =
            256 * earlier + byte.toNat := by
          omega
        simp only [List.foldl_cons, (isDigitOf_iff.mp high).2, (isDigitOf_iff.mp low).2, both,
          hypothesis]
  exact after 0

/-!
## Nothing else is read
-/

theorem value?_of_valueAt
    {position : Nat} {byte : UInt8} {value : Nat}
    (reads : valueAt position byte = .ok value) :
    value? byte ≠ none := by
  intro unread
  rw [valueAt, unread] at reads
  cases reads

theorem value?_of_decodeFrom
    {position : Nat} {digits bytes : Bytes}
    (reads : decodeFrom position digits = .ok bytes) :
    ∀ digit ∈ digits, value? digit ≠ none := by
  fun_induction decodeFrom position digits generalizing bytes with
  | case1 => exact List.forall_mem_nil _
  | case2 => cases reads
  | case3 position upper lower rest hypothesis =>
      obtain ⟨high, upperReads, reads⟩ := bind_eq_ok_iff.mp reads
      obtain ⟨low, lowerReads, reads⟩ := bind_eq_ok_iff.mp reads
      obtain ⟨later, restReads, -⟩ := bind_eq_ok_iff.mp reads
      refine List.forall_mem_cons.mpr ⟨value?_of_valueAt upperReads, ?_⟩
      exact List.forall_mem_cons.mpr ⟨value?_of_valueAt lowerReads, hypothesis restReads⟩

/-- A character beyond ASCII has no byte that is a digit. -/
theorem ascii_of_value?
    {text : String}
    (digits : ∀ byte ∈ Bytes.ofText text, value? byte ≠ none) :
    ∀ character ∈ text.toList, character.toNat < 128 := by
  intro character member
  by_contra beyond
  obtain ⟨byte, within⟩ := List.exists_mem_of_ne_nil _ (String.utf8EncodeChar_ne_nil (c := character))
  have large := Bytes.encodeChar_of_not_ascii (Nat.le_of_not_lt beyond) byte within
  have written : byte ∈ Bytes.ofText text := by
    rw [Bytes.ofText_eq]
    exact List.mem_flatMap.mpr ⟨character, member, within⟩
  apply digits byte written
  rw [value?, if_neg (by omega), if_neg (by omega), if_neg (by omega)]

theorem spells_of_decode
    {text : String} {bytes : Bytes}
    (reads : decode text = .ok bytes) :
    Spells text.toList bytes := by
  rw [decode] at reads
  split at reads
  next => cases reads
  next notOdd =>
    have readable := value?_of_decodeFrom reads
    have ascii := ascii_of_value? readable
    have written : Bytes.ofText text = text.toList.map ofAscii := by
      rw [← Bytes.ofText_of_ascii ascii, String.ofList_toList]
    rw [written] at notOdd readable
    have digits : ∀ character ∈ text.toList, IsDigit character := by
      intro character member
      obtain ⟨value, value_eq⟩ :=
        Option.ne_none_iff_exists'.mp (readable _ (List.mem_map_of_mem member))
      exact (isDigitOf_iff.mp ⟨ascii character member, value_eq⟩).1
    have even : text.toList.length % 2 = 0 := by
      rw [List.length_map] at notOdd
      omega
    obtain ⟨spelled, spells⟩ := exists_spells even digits
    have same : decode (String.ofList text.toList) = .ok spelled := spells.decode_eq
    rw [String.ofList_toList, decode, if_neg (by rwa [written])] at same
    cases reads.symm.trans same
    exact spells

theorem decode_eq_ok_iff
    {text : String} {bytes : Bytes} :
    decode text = .ok bytes ↔ Spells text.toList bytes := by
  constructor
  · exact spells_of_decode
  · intro spells
    rw [← spells.decode_eq, String.ofList_toList]

/-!
## Texts with `0x` in front
-/

/-- The bytes of a text of digits after `0x`. -/
def decodePrefixed? (text : String) : Option Bytes :=
  match text.toList with
  | '0' :: 'x' :: digits => (decode (String.ofList digits)).toOption
  | _ => none

theorem Spells.decodePrefixed?_eq
    {characters : List Char} {bytes : Bytes}
    (spells : Spells characters bytes) :
    decodePrefixed? (String.ofList ('0' :: 'x' :: characters)) = some bytes := by
  rw [decodePrefixed?, String.toList_ofList]
  simp only [spells.decode_eq]
  rfl

theorem toList_encodePrefixed
    (bytes : Bytes) :
    (encodePrefixed bytes).toList = '0' :: 'x' :: encodeChars bytes := by
  have digits_eq : (encode bytes).toList = encodeChars bytes :=
    String.toList_ofList
  rw [encodePrefixed, String.toList_append, digits_eq]
  rfl

theorem length_encodePrefixed
    (bytes : Bytes) :
    (encodePrefixed bytes).length = 2 * bytes.length + 2 := by
  rw [← String.length_toList, toList_encodePrefixed, List.length_cons, List.length_cons,
    (spells_encodeChars bytes).length_eq]

@[simp]
theorem decodePrefixed?_encodePrefixed
    (bytes : Bytes) :
    decodePrefixed? (encodePrefixed bytes) = some bytes := by
  have text_eq : encodePrefixed bytes =
      String.ofList ('0' :: 'x' :: encodeChars bytes) := by
    rw [← toList_encodePrefixed, String.ofList_toList]
  rw [text_eq]
  exact (spells_encodeChars bytes).decodePrefixed?_eq

end PricePublisher.Hex
