import Mathlib.Data.Int.ModEq
import PricePublisher.Proofs.Bytes.Basic
import PricePublisher.Proofs.Decimal.Digits
import PricePublisher.Signing.PriceWord

/-!
# The word of a price text

Long multiplication computes ten times a word plus a digit, and what it carries
out is what the word has no room for.  Complementing a word and adding one takes
it from `256 ^ length`.  So the word of a text is that of the number that the
text denotes, and there is none exactly for a magnitude of 257 or more bits.
-/

namespace PricePublisher.PriceWord

open Bytes (ofAscii)

/-!
## Appending digits
-/

theorem isDigit_ofAscii
    {character : Char}
    (ascii : character.toNat < 128) :
    isDigit (ofAscii character) = character.isDigit := by
  rw [Bool.eq_iff_iff, Char.isDigit_iff_toNat, isDigit, Bytes.toNat_ofAscii ascii,
    Bool.and_eq_true, decide_eq_true_eq, decide_eq_true_eq]
  exact Iff.rfl

theorem ascii_of_isDigit
    {character : Char}
    (digit : character.isDigit = true) :
    character.toNat < 128 :=
  Nat.lt_of_le_of_lt (Char.isDigit_iff_toNat.mp digit).2 (by decide)

/-- What is carried out and what stays make up ten times the word plus the digit. -/
theorem denoted_of_appendDigit?
    {digit carry : UInt32} {word rest : Bytes}
    (single : digit.toNat < 10)
    (appended : appendDigit? digit word = some (carry, rest)) :
    rest.length = word.length ∧
      carry.toNat * 256 ^ word.length + Bytes.toNat rest =
        10 * Bytes.toNat word + digit.toNat := by
  induction word generalizing carry rest with
  | nil =>
      cases appended
      simp
  | cons byte word hypothesis =>
      rcases exists_appendDigit?_eq single word with ⟨earlier, lower, before, earlier_lt⟩
      rw [appendDigit?, before, Option.bind_eq_bind, Option.bind_some,
        appendDigitStep?_eq byte lower earlier_lt] at appended
      cases appended
      rcases hypothesis before with ⟨length_eq, denoted⟩
      have byte_lt : byte.toNat < 256 := byte.toNat_lt
      have total := Nat.div_add_mod' (byte.toNat * 10 + earlier.toNat) 256
      have carry_lt : (byte.toNat * 10 + earlier.toNat) / 256 < UInt32.size :=
        Nat.lt_trans (by omega : _ < 10) (by decide)
      have byte_eq : (UInt8.ofNat ((byte.toNat * 10 + earlier.toNat) % 256)).toNat =
          (byte.toNat * 10 + earlier.toNat) % 256 := by
        rw [UInt8.toNat_ofNat']
        omega
      refine ⟨congrArg (· + 1) length_eq, ?_⟩
      rw [UInt32.toNat_ofNat_of_lt' carry_lt]
      simp only [Bytes.toNat_cons, byte_eq, length_eq, List.length_cons]
      calc
        (byte.toNat * 10 + earlier.toNat) / 256 * 256 ^ (word.length + 1)
              + ((byte.toNat * 10 + earlier.toNat) % 256 * 256 ^ word.length
                + Bytes.toNat lower) =
            ((byte.toNat * 10 + earlier.toNat) / 256 * 256
                + (byte.toNat * 10 + earlier.toNat) % 256)
                * 256 ^ word.length + Bytes.toNat lower := by
          ring
        _ = 10 * (byte.toNat * 256 ^ word.length)
              + (earlier.toNat * 256 ^ word.length + Bytes.toNat lower) := by
          rw [total]
          ring
        _ = 10 * (byte.toNat * 256 ^ word.length + Bytes.toNat word) + digit.toNat := by
          rw [denoted]
          ring

/-- Digits are appended as long as the number that they make up has room. -/
theorem appendDigits?_eq
    (word : Bytes) {characters : List Char}
    (digits : characters.all Char.isDigit) :
    appendDigits? word (characters.map ofAscii) =
      some (if Digits.valueAfter (Bytes.toNat word) characters < 256 ^ word.length then
          some (Bytes.ofNat word.length (Digits.valueAfter (Bytes.toNat word) characters))
        else none) := by
  induction characters generalizing word with
  | nil =>
      rw [Digits.valueAfter_nil, if_pos (Bytes.toNat_lt word), Bytes.ofNat_toNat]
      rfl
  | cons character rest hypothesis =>
      rw [List.all_cons, Bool.and_eq_true] at digits
      rcases digits with ⟨isDigit, digits⟩
      have ascii := ascii_of_isDigit isDigit
      have digit : PriceWord.isDigit (ofAscii character) := by
        rwa [isDigit_ofAscii ascii]
      rcases digitValue?_of_isDigit digit with ⟨value, read, value_eq, single⟩
      rcases exists_appendDigit?_eq single word with ⟨carry, next, appended, carry_lt⟩
      rcases denoted_of_appendDigit? single appended with ⟨length_eq, grown⟩
      have byte_eq : value.toNat = character.toNat - '0'.toNat := by
        rw [value_eq, Bytes.toNat_ofAscii ascii]
        rfl
      rw [byte_eq] at grown
      simp only [List.map_cons, appendDigits?, read, appended, Option.bind_eq_bind,
        Option.bind_some, Digits.valueAfter_cons, Digits.append]
      by_cases fits : carry = 0
      · rw [fits, UInt32.toNat_zero, Nat.zero_mul, Nat.zero_add] at grown
        rw [if_pos fits, hypothesis next digits, grown, length_eq]
      · have positive : 1 ≤ carry.toNat := by
          rw [Nat.one_le_iff_ne_zero]
          exact fun zero => fits (UInt32.toNat_inj.mp zero)
        have overflows := Nat.mul_le_mul_right (256 ^ word.length) positive
        have later := Digits.le_valueAfter
          (10 * Bytes.toNat word + (character.toNat - '0'.toNat)) rest
        rw [if_neg fits, if_neg (by omega)]
        rfl

/-!
## Negation
-/

theorem toNat_complement
    (word : Bytes) :
    Bytes.toNat (word.map (~~~ ·)) + Bytes.toNat word + 1 = 256 ^ word.length := by
  induction word with
  | nil => rfl
  | cons byte word hypothesis =>
      have byte_lt : byte.toNat < 256 := byte.toNat_lt
      have byte_eq : (~~~byte).toNat + byte.toNat = 255 := by
        rw [UInt8.toNat_not, UInt8.size]
        omega
      rw [List.map_cons, Bytes.toNat_cons, Bytes.toNat_cons, List.length_map,
        List.length_cons]
      calc
        (~~~byte).toNat * 256 ^ word.length + Bytes.toNat (word.map (~~~ ·))
              + (byte.toNat * 256 ^ word.length + Bytes.toNat word) + 1 =
            ((~~~byte).toNat + byte.toNat) * 256 ^ word.length
              + (Bytes.toNat (word.map (~~~ ·)) + Bytes.toNat word + 1) := by
          ring
        _ = 256 ^ (word.length + 1) := by
          rw [byte_eq, hypothesis]
          ring

theorem carry_add_toNat_succ
    (byte : UInt8) :
    (byte == 255).toNat * 256 + (byte + 1).toNat = byte.toNat + 1 := by
  have byte_lt : byte.toNat < 256 := byte.toNat_lt
  have sum : (byte + 1).toNat = (byte.toNat + 1) % 256 :=
    UInt8.toNat_add byte 1
  by_cases last : byte = 255
  · subst last
    rfl
  · have not_last : byte.toNat ≠ 255 := by
      intro equal
      exact last (UInt8.toNat_inj.mp equal)
    rw [beq_false_of_ne last, sum, Bool.toNat_false]
    omega

theorem length_increment
    (word : Bytes) :
    (word.foldr incrementStep (true, [])).2.length = word.length := by
  induction word with
  | nil => rfl
  | cons byte word hypothesis =>
      rw [List.foldr_cons, incrementStep]
      split <;> simp only [List.length_cons, hypothesis]

theorem carry_add_toNat_increment
    (word : Bytes) :
    (word.foldr incrementStep (true, [])).1.toNat * 256 ^ word.length
        + Bytes.toNat (word.foldr incrementStep (true, [])).2 =
      Bytes.toNat word + 1 := by
  induction word with
  | nil => rfl
  | cons byte word hypothesis =>
      have length_eq := length_increment word
      rcases carried : word.foldr incrementStep (true, []) with ⟨carry, rest⟩
      rw [carried] at hypothesis length_eq
      simp only at hypothesis length_eq
      rw [List.foldr_cons, carried, incrementStep]
      cases carry with
      | false =>
          simp only [Bool.toNat_false, Nat.zero_mul, Nat.zero_add] at hypothesis
          simp [Bytes.toNat_cons, length_eq, hypothesis, Nat.add_assoc]
      | true =>
          simp only [Bool.toNat_true, Nat.one_mul] at hypothesis
          have total : (byte == 255).toNat * 256 + (byte + 1).toNat = byte.toNat + 1 :=
            carry_add_toNat_succ byte
          simp only [if_true, Bytes.toNat_cons, length_eq, List.length_cons]
          calc
            (byte == 255).toNat * 256 ^ (word.length + 1)
                  + ((byte + 1).toNat * 256 ^ word.length + Bytes.toNat rest) =
                ((byte == 255).toNat * 256 + (byte + 1).toNat) * 256 ^ word.length
                  + Bytes.toNat rest := by
              ring
            _ = byte.toNat * 256 ^ word.length
                  + (256 ^ word.length + Bytes.toNat rest) := by
              rw [total]
              ring
            _ = byte.toNat * 256 ^ word.length + Bytes.toNat word + 1 := by
              rw [hypothesis, Nat.add_assoc]

theorem length_negate
    (word : Bytes) :
    (negate word).length = word.length := by
  rw [negate, length_increment, List.length_map]

/-- Negation takes a word from `256 ^ length`; only zero is carried out. -/
theorem toNat_negate
    (word : Bytes) :
    Bytes.toNat (negate word) =
      (256 ^ word.length - Bytes.toNat word) % 256 ^ word.length := by
  have complement := toNat_complement word
  have incremented := carry_add_toNat_increment (word.map (~~~ ·))
  have negated_lt := Bytes.toNat_lt (negate word)
  rw [length_negate] at negated_lt
  rw [List.length_map] at incremented
  change _ + Bytes.toNat (negate word) = _ at incremented
  have difference : 256 ^ word.length - Bytes.toNat word =
      Bytes.toNat (word.map (~~~ ·)) + 1 := by
    omega
  rw [difference, ← incremented, Nat.add_comm, Nat.add_mul_mod_self_right,
    Nat.mod_eq_of_lt negated_lt]

/-!
## Texts
-/

theorem isDigit_of_not_ascii
    {byte : UInt8}
    (beyond : 128 ≤ byte.toNat) :
    isDigit byte = false := by
  rw [isDigit, decide_eq_false (by omega : ¬ byte.toNat ≤ 57), Bool.and_false]

theorem all_isDigit_encodeChar
    (character : Char) :
    (String.utf8EncodeChar character).all isDigit = character.isDigit := by
  by_cases ascii : character.toNat < 128
  · rw [Bytes.encodeChar_of_ascii ascii, List.all_cons, List.all_nil, Bool.and_true,
      isDigit_ofAscii ascii]
  · have no_digit : character.isDigit = false := by
      rw [← Bool.not_eq_true]
      intro digit
      exact ascii (ascii_of_isDigit digit)
    rw [no_digit, ← Bool.not_eq_true, List.all_eq_true]
    intro digits
    rcases List.exists_mem_of_ne_nil _
        (@String.utf8EncodeChar_ne_nil character) with ⟨byte, member⟩
    have beyond := Bytes.encodeChar_of_not_ascii (Nat.le_of_not_lt ascii) byte member
    have digit := digits byte member
    rw [isDigit_of_not_ascii beyond] at digit
    cases digit

theorem all_isDigit_flatMap
    (characters : List Char) :
    (characters.flatMap String.utf8EncodeChar).all isDigit =
      characters.all Char.isDigit := by
  induction characters with
  | nil => rfl
  | cons character rest hypothesis =>
      rw [List.flatMap_cons, List.all_append, all_isDigit_encodeChar, hypothesis,
        List.all_cons]

theorem flatMap_of_digits
    {characters : List Char}
    (digits : characters.all Char.isDigit) :
    characters.flatMap String.utf8EncodeChar = characters.map ofAscii := by
  apply Bytes.flatMap_encodeChar_of_ascii
  intro character member
  exact ascii_of_isDigit (List.all_eq_true.mp digits character member)

theorem splitSign_of_ne
    {byte : UInt8}
    (other : byte ≠ 45)
    (bytes : Bytes) :
    splitSign (byte :: bytes) = (false, byte :: bytes) := by
  rw [splitSign]
  intro digits equal
  exact other (List.cons.inj equal).1

/-- A text without `-` in front has no byte of it in front. -/
theorem splitSign_of_unsigned
    {characters : List Char}
    (unsigned : ∀ digits, characters ≠ '-' :: digits) :
    splitSign (characters.flatMap String.utf8EncodeChar) =
      (false, characters.flatMap String.utf8EncodeChar) := by
  cases characters with
  | nil => rfl
  | cons character rest =>
      have other : character ≠ '-' := by
        rintro rfl
        exact unsigned rest rfl
      rw [List.flatMap_cons]
      by_cases ascii : character.toNat < 128
      · rw [Bytes.encodeChar_of_ascii ascii, List.singleton_append]
        apply splitSign_of_ne
        intro equal
        have code_eq : character.toNat = '-'.toNat := by
          rw [← Bytes.toNat_ofAscii ascii, equal]
          rfl
        exact other (Char.toNat_inj.mp code_eq)
      · rcases encoded : String.utf8EncodeChar character with _ | ⟨byte, bytes⟩
        · exact absurd encoded String.utf8EncodeChar_ne_nil
        · have beyond := Bytes.encodeChar_of_not_ascii (Nat.le_of_not_lt ascii) byte
            (encoded ▸ List.mem_cons_self ..)
          apply splitSign_of_ne
          rintro rfl
          exact absurd beyond (by decide)

/-!
## Numbers
-/

theorem modulus_eq :
    (Nat.pow 2 256 : Nat) = 256 ^ width := by
  decide +kernel

theorem modulus_int :
    ((256 ^ width : Nat) : Int) = 2 ^ 256 := by
  rw [← modulus_eq]
  norm_num

theorem length_ofInt
    (number : Int) :
    (ofInt number).length = width :=
  Bytes.length_ofNat _ _

/-- The word of a number denotes its last 256 bits. -/
theorem toNat_ofInt
    (number : Int) :
    (Bytes.toNat (ofInt number) : Int) = number % (256 ^ width : Nat) := by
  have nonnegative : 0 ≤ number % (256 ^ width : Nat) :=
    Int.emod_nonneg _ (by decide)
  have below : number % (256 ^ width : Nat) < (256 ^ width : Nat) :=
    Int.emod_lt_of_pos _ (by decide)
  have fits : (number % (256 ^ width : Nat)).toNat < 256 ^ width := by omega
  rw [ofInt, modulus_eq, Bytes.toNat_ofNat_of_lt fits, Int.toNat_of_nonneg nonnegative]

/-- Two numbers have one word exactly if they agree in the last 256 bits. -/
theorem ofInt_inj
    {first second : Int} :
    ofInt first = ofInt second ↔ first ≡ second [ZMOD 2 ^ 256] := by
  constructor
  · intro same
    rw [Int.ModEq, ← modulus_int, ← toNat_ofInt, ← toNat_ofInt, same]
  · intro congruent
    rw [Int.ModEq, ← modulus_int] at congruent
    rw [ofInt, ofInt, modulus_eq, congruent]

theorem ofInt_natCast
    {magnitude : Nat}
    (fits : magnitude < 256 ^ width) :
    ofInt magnitude = Bytes.ofNat width magnitude := by
  have number_eq : ((magnitude : Int) % (256 ^ width : Nat)).toNat = magnitude := by
    rw [← Int.natCast_emod, Int.toNat_natCast, Nat.mod_eq_of_lt fits]
  rw [ofInt, modulus_eq, number_eq]

theorem ofInt_neg
    {magnitude : Nat}
    (fits : magnitude < 256 ^ width) :
    ofInt (-magnitude) = negate (Bytes.ofNat width magnitude) := by
  have difference : ((256 ^ width - magnitude : Nat) : Int) =
      (256 ^ width : Nat) + -(magnitude : Int) := by
    omega
  have number_eq : ((-magnitude : Int) % (256 ^ width : Nat)).toNat =
      (256 ^ width - magnitude) % 256 ^ width := by
    rw [← Int.add_emod_left, ← difference, ← Int.natCast_emod, Int.toNat_natCast]
  have negated := toNat_negate (Bytes.ofNat width magnitude)
  rw [Bytes.length_ofNat, Bytes.toNat_ofNat_of_lt fits] at negated
  have length_eq : (negate (Bytes.ofNat width magnitude)).length = width := by
    rw [length_negate, Bytes.length_ofNat]
  rw [ofInt, modulus_eq, number_eq]
  exact (Bytes.eq_ofNat length_eq negated).symm

/-- The sign of a text comes off first; the rest is read as a magnitude. -/
theorem ofText_of_split
    {text : String} {negative : Bool} {characters : List Char}
    (split : splitSign (Bytes.ofText text) =
      (negative, characters.flatMap String.utf8EncodeChar)) :
    ofText text =
      match Digits.toNat? characters with
      | none => .error (.notInteger text)
      | some magnitude =>
          if magnitude < 256 ^ width then
            .ok (ofInt (if negative then -(magnitude : Int) else magnitude))
          else .error (.tooLarge text) := by
  have empty_iff : (characters.flatMap String.utf8EncodeChar).isEmpty = characters.isEmpty := by
    cases characters with
    | nil => rfl
    | cons character rest =>
        rcases encoded : String.utf8EncodeChar character with _ | ⟨byte, bytes⟩
        · exact absurd encoded String.utf8EncodeChar_ne_nil
        · rw [List.flatMap_cons, encoded]
          rfl
  have steps : ofText? text = some (ofText text) :=
    (Option.some_get (isSome_ofText? text)).symm
  rw [← Option.some.injEq, ← steps]
  simp only [ofText?, split, empty_iff, all_isDigit_flatMap]
  cases read : Digits.toNat? characters with
  | none =>
      have unreadable : (characters.isEmpty || !characters.all Char.isDigit) = true := by
        rcases Digits.toNat?_eq_none_iff.mp read with rfl | other
        · rfl
        · rw [other, Bool.not_false, Bool.or_true]
      rw [if_pos unreadable]
  | some magnitude =>
      rcases Digits.toNat?_eq_some_iff.mp read with ⟨⟨nonempty, digits⟩, value_eq⟩
      have readable : ¬ (characters.isEmpty || !characters.all Char.isDigit) = true := by
        rw [digits, List.isEmpty_eq_false_iff.mpr nonempty]
        decide
      have appended := appendDigits?_eq (List.replicate width 0) digits
      rw [Bytes.toNat_replicate_zero, value_eq, List.length_replicate] at appended
      rw [if_neg readable, flatMap_of_digits digits, appended, Option.map_some]
      by_cases fits : magnitude < 256 ^ width
      · simp only [if_pos fits, finish]
        cases negative with
        | false => rw [if_neg Bool.false_ne_true, if_neg Bool.false_ne_true, ofInt_natCast fits]
        | true => rw [if_pos rfl, if_pos rfl, ofInt_neg fits]
      · simp only [if_neg fits, finish]

/-- A text has the word of the number that it denotes, as far as there is room. -/
theorem ofText_eq
    (text : String) :
    ofText text =
      match Digits.toInt? text.toList with
      | none => .error (.notInteger text)
      | some number =>
          if number.natAbs < 256 ^ width then .ok (ofInt number)
          else .error (.tooLarge text) := by
  have bytes_eq := Bytes.ofText_eq text
  by_cases signed : ∃ digits, text.toList = '-' :: digits
  · rcases signed with ⟨digits, characters_eq⟩
    have split : splitSign (Bytes.ofText text) =
        (true, digits.flatMap String.utf8EncodeChar) := by
      rw [bytes_eq, characters_eq]
      rfl
    rw [ofText_of_split split, characters_eq, Digits.toInt?_neg]
    cases Digits.toNat? digits with
    | none => rfl
    | some magnitude =>
        simp only [Option.map_some, Int.natAbs_neg, Int.natAbs_natCast, if_true]
  · have unsigned : ∀ digits, text.toList ≠ '-' :: digits :=
      not_exists.mp signed
    have split : splitSign (Bytes.ofText text) =
        (false, text.toList.flatMap String.utf8EncodeChar) := by
      rw [bytes_eq]
      exact splitSign_of_unsigned unsigned
    rw [ofText_of_split split, Digits.toInt?_of_ne unsigned]
    cases Digits.toNat? text.toList with
    | none => rfl
    | some magnitude =>
        simp only [Option.map_some, Int.natAbs_natCast, Bool.false_eq_true, if_false]

/-- The texts that have a word are those of the numbers with room. -/
theorem ofText_eq_ok_iff
    {text : String} {word : Bytes} :
    ofText text = .ok word ↔
      ∃ number, Digits.toInt? text.toList = some number ∧ number.natAbs < 256 ^ width ∧
        word = ofInt number := by
  rw [ofText_eq]
  cases read : Digits.toInt? text.toList with
  | none => simp only [reduceCtorEq, false_and, exists_false]
  | some number =>
      simp only [Option.some.injEq, exists_eq_left']
      by_cases fits : number.natAbs < 256 ^ width
      · rw [if_pos fits, Except.ok.injEq]
        exact ⟨fun same => ⟨fits, same.symm⟩, fun same => same.2.symm⟩
      · rw [if_neg fits]
        exact iff_of_false nofun fun some => fits some.1

end PricePublisher.PriceWord
