import PricePublisher.Signing.Error

/-!
# Prices as 256-bit words

A signed message holds a price as a word of 32 bytes in two's complement, most
significant byte first.  The word of a decimal text is built digit by digit by
long multiplication; a negative price is complemented at the end.

The multiplication does not leave words of 32 bits: a byte of the word is
multiplied by ten in such a word, and what the lower bytes carried over is
added.  A step that overflows would give nothing.  None does, because what is
carried over is a single digit throughout.
-/

namespace PricePublisher.PriceWord

/-- How many bytes a word has. -/
def width : Nat := 32

/-- A number, if it fits 32 bits. -/
def accumulator? (number : Nat) : Option UInt32 :=
  if number < UInt32.size then some (UInt32.ofNat number) else none

/-- Multiply the byte by ten, and add what the lower bytes carried over. -/
def appendDigitStep? (byte : UInt8) (carried : UInt32 × Bytes) : Option (UInt32 × Bytes) := do
  let tenfold ← accumulator? (byte.toNat * 10)
  let total ← accumulator? (tenfold.toNat + carried.1.toNat)
  return (total >>> 8, (total &&& 255).toUInt8 :: carried.2)

/-- Append a digit: ten times a word plus the digit, and what does not fit. -/
def appendDigit? (digit : UInt32) : Bytes → Option (UInt32 × Bytes)
  | [] => some (digit, [])
  | byte :: word => appendDigit? digit word >>= appendDigitStep? byte

/-- The value of the byte of a digit. -/
def digitValue? (byte : UInt8) : Option UInt32 :=
  if 48 ≤ byte.toNat then some (byte - 48).toUInt32 else none

/-- Append digits as long as the word can hold the number. -/
def appendDigits? (word : Bytes) : Bytes → Option (Option Bytes)
  | [] => some (some word)
  | digit :: rest => do
      let value ← digitValue? digit
      let (carry, word) ← appendDigit? value word
      if carry = 0 then appendDigits? word rest else return none

/-- Add one to a byte if the lower bytes carried over. -/
def incrementStep (byte : UInt8) (carried : Bool × Bytes) : Bool × Bytes :=
  if carried.1 then (byte == 255, (byte + 1) :: carried.2)
  else (false, byte :: carried.2)

/-- The two's complement of a word. -/
def negate (word : Bytes) : Bytes :=
  ((word.map (~~~ ·)).foldr incrementStep (true, [])).2

/-- Whether a byte is an ASCII digit. -/
def isDigit (byte : UInt8) : Bool :=
  48 ≤ byte.toNat && byte.toNat ≤ 57

/-- Split a leading `-` from the bytes of a text. -/
def splitSign : Bytes → Bool × Bytes
  | 45 :: digits => (true, digits)
  | digits => (false, digits)

/-- What comes of a text whose digits have been appended. -/
def finish (text : String) (negative : Bool) : Option Bytes → Except PriceTextError Bytes
  | none => .error (.tooLarge text)
  | some word => .ok (if negative then negate word else word)

/-- The word of a whole number in base ten, if no step of the multiplication overflows. -/
def ofText? (text : String) : Option (Except PriceTextError Bytes) :=
  let (negative, digits) := splitSign (Bytes.ofText text)
  if digits.isEmpty || !digits.all isDigit then some (.error (.notInteger text))
  else (appendDigits? (List.replicate width 0) digits).map (finish text negative)

/-!
## No step overflows
-/

theorem accumulator?_of_lt {number : Nat} (small : number < UInt32.size) :
    accumulator? number = some (UInt32.ofNat number) :=
  if_pos small

theorem carried_ofNat {number : Nat} (small : number < UInt32.size) :
    UInt32.ofNat number >>> 8 = UInt32.ofNat (number / 256) := by
  have quotient_lt : number / 256 < UInt32.size := Nat.lt_of_le_of_lt (Nat.div_le_self _ _) small
  apply UInt32.toNat_inj.mp
  rw [UInt32.toNat_shiftRight, UInt32.toNat_ofNat_of_lt' small,
    UInt32.toNat_ofNat_of_lt' quotient_lt]
  exact Nat.shiftRight_eq_div_pow number 8

theorem kept_ofNat {number : Nat} (small : number < UInt32.size) :
    (UInt32.ofNat number &&& 255).toUInt8 = UInt8.ofNat (number % 256) := by
  apply UInt8.toNat_inj.mp
  rw [UInt32.toNat_toUInt8, UInt32.toNat_and, UInt32.toNat_ofNat_of_lt' small,
    UInt8.toNat_ofNat']
  exact congrArg (· % 256) (Nat.and_two_pow_sub_one_eq_mod number 8)

/-- A byte and a single digit carried over make a sum that fits, and the step splits it. -/
theorem appendDigitStep?_eq (byte : UInt8) {carry : UInt32} (word : Bytes)
    (single : carry.toNat < 10) :
    appendDigitStep? byte (carry, word) =
      some (UInt32.ofNat ((byte.toNat * 10 + carry.toNat) / 256),
        UInt8.ofNat ((byte.toNat * 10 + carry.toNat) % 256) :: word) := by
  have byte_lt : byte.toNat < 256 := byte.toNat_lt
  have size_eq : UInt32.size = 4294967296 := rfl
  have tenfold_lt : byte.toNat * 10 < UInt32.size := by omega
  have total_lt : byte.toNat * 10 + carry.toNat < UInt32.size := by omega
  rw [appendDigitStep?, accumulator?_of_lt tenfold_lt, Option.bind_eq_bind, Option.bind_some,
    UInt32.toNat_ofNat_of_lt' tenfold_lt, accumulator?_of_lt total_lt, Option.bind_some,
    carried_ofNat total_lt, kept_ofNat total_lt]
  rfl

/-- Only a single digit is ever carried over. -/
theorem exists_appendDigit?_eq {digit : UInt32} (single : digit.toNat < 10) (word : Bytes) :
    ∃ carry rest, appendDigit? digit word = some (carry, rest) ∧ carry.toNat < 10 := by
  induction word with
  | nil => exact ⟨digit, [], rfl, single⟩
  | cons byte word hypothesis =>
      rcases hypothesis with ⟨carry, rest, appended, carry_lt⟩
      have byte_lt : byte.toNat < 256 := byte.toNat_lt
      have next_lt : (byte.toNat * 10 + carry.toNat) / 256 < 10 := by omega
      have step := appendDigitStep?_eq byte rest carry_lt
      rw [appendDigit?, appended, Option.bind_eq_bind, Option.bind_some]
      refine ⟨_, _, step, ?_⟩
      rwa [UInt32.toNat_ofNat_of_lt' (Nat.lt_trans next_lt (by decide))]

theorem digitValue?_of_isDigit {byte : UInt8} (digit : isDigit byte) :
    ∃ value, digitValue? byte = some value ∧ value.toNat = byte.toNat - 48 ∧
      value.toNat < 10 := by
  simp only [isDigit, Bool.and_eq_true, decide_eq_true_eq] at digit
  have value_eq : (byte - 48).toUInt32.toNat = byte.toNat - 48 := by
    rw [UInt8.toNat_toUInt32]
    exact UInt8.toNat_sub_of_le byte 48 digit.1
  exact ⟨_, if_pos digit.1, value_eq, by omega⟩

theorem isSome_appendDigits? (word : Bytes) {digits : Bytes} (allDigits : digits.all isDigit) :
    (appendDigits? word digits).isSome := by
  induction digits generalizing word with
  | nil => rfl
  | cons digit rest hypothesis =>
      rw [List.all_cons, Bool.and_eq_true] at allDigits
      rcases digitValue?_of_isDigit allDigits.1 with ⟨value, read, _, single⟩
      rcases exists_appendDigit?_eq single word with ⟨carry, next, appended, _⟩
      simp only [appendDigits?, read, appended, Option.bind_eq_bind, Option.bind_some]
      split
      · exact hypothesis next allDigits.2
      · rfl

theorem isSome_ofText? (text : String) : (ofText? text).isSome := by
  simp only [ofText?]
  split
  · rfl
  next readable =>
    rw [Bool.or_eq_true, not_or, Bool.not_eq_true', Bool.not_eq_false] at readable
    rw [Option.isSome_map]
    exact isSome_appendDigits? _ readable.2

/-- The word of a whole number in base ten. -/
def ofText (text : String) : Except PriceTextError Bytes :=
  (ofText? text).get (isSome_ofText? text)

/-- The word of a number, in two's complement. -/
def ofInt (number : Int) : Bytes :=
  Bytes.ofNat width (number % (Nat.pow 2 256 : Nat)).toNat

/-- The number that a word denotes in two's complement. -/
def toInt (word : Bytes) : Int :=
  let number := Bytes.toNat word
  if number < Nat.pow 2 255 then number else number - (Nat.pow 2 256 : Nat)

end PricePublisher.PriceWord
