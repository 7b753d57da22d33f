import Mathlib.Data.List.Induction
import Mathlib.Tactic.Ring
import PricePublisher.Bytes.Basic

/-!
# Byte strings as numbers and as texts

A byte string of a known length is determined by the number that it denotes, and
a number below `256 ^ length` by its last `length` bytes.  The bytes of a text
are those of its characters, of which an ASCII character has just one.
-/

namespace PricePublisher.Bytes

@[simp]
theorem toNat_nil :
    toNat [] = 0 :=
  rfl

@[simp]
theorem toNat_concat
    (bytes : Bytes) (byte : UInt8) :
    toNat (bytes ++ [byte]) = 256 * toNat bytes + byte.toNat := by
  simp only [toNat, List.foldl_append, List.foldl_cons, List.foldl_nil]

theorem toNat_cons
    (byte : UInt8) (bytes : Bytes) :
    toNat (byte :: bytes) = byte.toNat * 256 ^ bytes.length + toNat bytes := by
  induction bytes using List.reverseRecOn with
  | nil => simp [toNat]
  | append_singleton earlier last hypothesis =>
      rw [← List.cons_append, toNat_concat, hypothesis, toNat_concat,
        List.length_append, List.length_singleton, pow_succ]
      ring

theorem toNat_lt
    (bytes : Bytes) :
    toNat bytes < 256 ^ bytes.length := by
  induction bytes using List.reverseRecOn with
  | nil => simp
  | append_singleton earlier last hypothesis =>
      have byte_lt : last.toNat < 256 := last.toNat_lt
      rw [toNat_concat, List.length_append, List.length_singleton, pow_succ]
      omega

theorem toNat_replicate_zero
    (length : Nat) :
    toNat (List.replicate length 0) = 0 := by
  induction length with
  | zero => rfl
  | succ length hypothesis =>
      rw [List.replicate_succ', toNat_concat, hypothesis]
      rfl

@[simp]
theorem length_ofNat
    (length number : Nat) :
    (ofNat length number).length = length := by
  induction length generalizing number with
  | zero => rfl
  | succ length hypothesis =>
      rw [ofNat, List.length_append, hypothesis, List.length_singleton]

theorem toNat_ofNat
    (length number : Nat) :
    toNat (ofNat length number) = number % 256 ^ length := by
  induction length generalizing number with
  | zero => simp [ofNat, Nat.mod_one]
  | succ length hypothesis =>
      have byte_eq : (UInt8.ofNat (number % 256)).toNat = number % 256 := by
        rw [UInt8.toNat_ofNat']
        omega
      rw [ofNat, toNat_concat, hypothesis, byte_eq, pow_succ', Nat.mod_mul]
      omega

theorem toNat_ofNat_of_lt
    {length number : Nat}
    (fits : number < 256 ^ length) :
    toNat (ofNat length number) = number := by
  rw [toNat_ofNat, Nat.mod_eq_of_lt fits]

/-- Nothing of a byte string is lost in its length and its number. -/
theorem ofNat_toNat
    (bytes : Bytes) :
    ofNat bytes.length (toNat bytes) = bytes := by
  induction bytes using List.reverseRecOn with
  | nil => rfl
  | append_singleton earlier last hypothesis =>
      have byte_lt : last.toNat < 256 := last.toNat_lt
      have quotient : (256 * toNat earlier + last.toNat) / 256 = toNat earlier := by
        omega
      have remainder : (256 * toNat earlier + last.toNat) % 256 = last.toNat := by
        omega
      rw [List.length_append, List.length_singleton, toNat_concat, ofNat, quotient,
        remainder, hypothesis, UInt8.ofNat_toNat]

theorem eq_ofNat
    {bytes : Bytes} {length number : Nat}
    (length_eq : bytes.length = length)
    (denotes : toNat bytes = number) :
    bytes = ofNat length number := by
  rw [← length_eq, ← denotes, ofNat_toNat]

/-!
## Texts
-/

theorem toList_loop
    (array : ByteArray) (index : Nat) (read : Bytes) :
    ByteArray.toList.loop array index read =
      read.reverse ++ array.data.toList.drop index := by
  induction index, read using ByteArray.toList.loop.induct array with
  | case1 index read within hypothesis =>
      have within_data : index < array.data.toList.length := within
      have byte_eq : array.get! index = array.data.toList[index] := by
        cases array with
        | mk data => exact getElem!_pos data index within
      rw [ByteArray.toList.loop, if_pos within, hypothesis, byte_eq,
        List.drop_eq_getElem_cons within_data]
      simp
  | case2 index read beyond =>
      have empty : array.data.toList.drop index = [] :=
        List.drop_eq_nil_of_le (Nat.le_of_not_lt beyond)
      rw [ByteArray.toList.loop, if_neg beyond, empty, List.append_nil]

theorem ofText_eq
    (text : String) :
    ofText text = text.toList.flatMap String.utf8EncodeChar := by
  have bytes_eq : text.toByteArray = text.toList.utf8Encode :=
    String.utf8Encode_toList.symm
  rw [ofText, String.toUTF8_eq_toByteArray, bytes_eq, ByteArray.toList, toList_loop,
    List.utf8Encode, List.toList_data_toByteArray]
  rfl

/-- The byte of an ASCII character. -/
def ofAscii (character : Char) : UInt8 :=
  UInt8.ofNat character.toNat

theorem toNat_ofAscii
    {character : Char}
    (ascii : character.toNat < 128) :
    (ofAscii character).toNat = character.toNat := by
  rw [ofAscii, UInt8.toNat_ofNat']
  exact Nat.mod_eq_of_lt (Nat.lt_trans ascii (by decide))

theorem encodeChar_of_ascii
    {character : Char}
    (ascii : character.toNat < 128) :
    String.utf8EncodeChar character = [ofAscii character] := by
  have small : character.val.toNat ≤ 0x7f := by
    exact Nat.le_of_lt_succ ascii
  simp only [String.utf8EncodeChar, if_pos small]
  rfl

theorem flatMap_encodeChar_of_ascii
    {characters : List Char}
    (ascii : ∀ character ∈ characters, character.toNat < 128) :
    characters.flatMap String.utf8EncodeChar = characters.map ofAscii := by
  induction characters with
  | nil => rfl
  | cons character rest hypothesis =>
      have first := ascii character (List.mem_cons_self ..)
      have later := hypothesis fun other member =>
        ascii other (List.mem_cons_of_mem _ member)
      rw [List.flatMap_cons, encodeChar_of_ascii first, later]
      rfl

theorem ofText_of_ascii
    {characters : List Char}
    (ascii : ∀ character ∈ characters, character.toNat < 128) :
    ofText (String.ofList characters) = characters.map ofAscii := by
  rw [ofText_eq, String.toList_ofList, flatMap_encodeChar_of_ascii ascii]

/-- The bytes of other characters than the ASCII ones lie in the upper half. -/
theorem encodeChar_of_not_ascii
    {character : Char}
    (beyond : 128 ≤ character.toNat) :
    ∀ byte ∈ String.utf8EncodeChar character, 128 ≤ byte.toNat := by
  have beyond_value : ¬ character.val.toNat ≤ 0x7f := by
    exact Nat.not_le_of_lt beyond
  simp only [String.utf8EncodeChar, if_neg beyond_value]
  intro byte member
  split at member
  · simp only [List.mem_cons, List.not_mem_nil, or_false] at member
    rcases member with rfl | rfl <;> rw [UInt8.toNat_ofNat'] <;> omega
  · split at member
    · simp only [List.mem_cons, List.not_mem_nil, or_false] at member
      rcases member with rfl | rfl | rfl <;> rw [UInt8.toNat_ofNat'] <;> omega
    · simp only [List.mem_cons, List.not_mem_nil, or_false] at member
      rcases member with rfl | rfl | rfl | rfl <;> rw [UInt8.toNat_ofNat'] <;> omega

end PricePublisher.Bytes
