import PricePublisher.Proofs.Bytes.Hex
import PricePublisher.Proofs.Text.Trimming
import PricePublisher.Signing.EvmSigner

/-!
# Which texts are private keys

Blanks around a private key, `0x` in front of it, the case of its digits and zeros that
fill its bytes up are a matter of writing: a signer depends on nothing but the scalar that the
digits denote.
-/

namespace PricePublisher

open Hex (Spells)

namespace Ecdsa.PrivateKey

theorem ofBytes?_eq_some_iff {bytes : Bytes} {key : PrivateKey} :
    ofBytes? bytes = some key ↔
      (24 ≤ bytes.length ∧ bytes.length ≤ 32) ∧ Bytes.toNat bytes = key.scalar := by
  rcases key with ⟨scalar, positive, below⟩
  rw [ofBytes?]
  split
  next within =>
    simp only [Option.some.injEq, mk.injEq, within.1, true_and]
  next outside =>
    refine iff_of_false nofun ?_
    rintro ⟨short, rfl⟩
    exact outside ⟨short, positive, below⟩

end Ecdsa.PrivateKey

namespace EvmSigner

/-- Digits denote a scalar other than zero in 24 to 32 bytes. -/
structure AreKeyDigits (digits : List Char) (scalar : Nat) : Prop where
  even : digits.length % 2 = 0
  hexadecimal : ∀ digit ∈ digits, Hex.IsDigit digit
  bytes_ge : 24 ≤ digits.length / 2
  bytes_le : digits.length / 2 ≤ 32
  denotes : Hex.number digits = scalar
  scalar_pos : 0 < scalar
  scalar_lt : scalar < Secp256k1.groupOrder

/-- A text is digits of a scalar with blanks around, and `0x` in front at will. -/
def IsKeyText (text : String) (scalar : Nat) : Prop :=
  ∃ front mark digits back,
    text.toList = front ++ (mark ++ digits) ++ back ∧
    (∀ character ∈ front, Text.isBlank character = true) ∧
    (mark = [] ∨ mark = ['0', 'x']) ∧
    AreKeyDigits digits scalar ∧
    ∀ character ∈ back, Text.isBlank character = true

theorem areKeyDigits_iff {digits : List Char} {key : Ecdsa.PrivateKey} :
    AreKeyDigits digits key.scalar ↔
      ∃ bytes, Spells digits bytes ∧ Ecdsa.PrivateKey.ofBytes? bytes = some key := by
  constructor
  · intro isKey
    obtain ⟨bytes, spells⟩ := Hex.exists_spells isKey.even isKey.hexadecimal
    have halved : digits.length / 2 = bytes.length := by
      rw [spells.length_eq, Nat.mul_div_cancel_left _ (by decide)]
    have short : 24 ≤ bytes.length ∧ bytes.length ≤ 32 :=
      halved ▸ ⟨isKey.bytes_ge, isKey.bytes_le⟩
    exact ⟨bytes, spells, Ecdsa.PrivateKey.ofBytes?_eq_some_iff.mpr
      ⟨short, spells.number_eq.symm.trans isKey.denotes⟩⟩
  · rintro ⟨bytes, spells, reads⟩
    obtain ⟨short, denotes⟩ := Ecdsa.PrivateKey.ofBytes?_eq_some_iff.mp reads
    have doubled := spells.length_eq
    exact {
      even := by omega
      hexadecimal := spells.isDigit
      bytes_ge := by omega
      bytes_le := by omega
      denotes := spells.number_eq.trans denotes
      scalar_pos := key.scalar_pos
      scalar_lt := key.scalar_lt }

/-! ## What is left of a text -/

theorem exists_eq_append_withoutPrefix (characters : List Char) :
    ∃ mark, (mark = [] ∨ mark = ['0', 'x']) ∧ characters = mark ++ withoutPrefix characters := by
  fun_cases withoutPrefix characters with
  | case1 digits => exact ⟨['0', 'x'], .inr rfl, rfl⟩
  | case2 => exact ⟨[], .inl rfl, rfl⟩

/-- No second character of digits is the one of `0x`. -/
theorem withoutPrefix_of_isDigit {digits : List Char}
    (hexadecimal : ∀ digit ∈ digits, Hex.IsDigit digit) :
    withoutPrefix digits = digits := by
  fun_cases withoutPrefix digits with
  | case1 rest =>
      have marked : Hex.IsDigit 'x' :=
        hexadecimal 'x' (List.mem_cons_of_mem _ List.mem_cons_self)
      exact absurd (Hex.isDigit_iff.mpr marked) (by decide)
  | case2 => rfl

theorem withoutPrefix_append {mark digits : List Char} (isMark : mark = [] ∨ mark = ['0', 'x'])
    (hexadecimal : ∀ digit ∈ digits, Hex.IsDigit digit) :
    withoutPrefix (mark ++ digits) = digits := by
  rcases isMark with rfl | rfl
  · exact withoutPrefix_of_isDigit hexadecimal
  · rfl

theorem isBlank_of_isDigit {character : Char} (digit : Hex.IsDigit character) :
    Text.isBlank character = false := by
  have visible := @Hex.forall_ascii
    (fun character => Hex.isDigit character = true → Text.isBlank character = false)
    (by decide +kernel) character digit.ascii
  exact visible (Hex.isDigit_iff.mpr digit)

theorem visible_mark_digits {mark digits : List Char} (isMark : mark = [] ∨ mark = ['0', 'x'])
    (hexadecimal : ∀ digit ∈ digits, Hex.IsDigit digit) :
    ∀ character ∈ mark ++ digits, Text.isBlank character = false := by
  refine List.forall_mem_append.mpr ⟨?_, fun digit member =>
    isBlank_of_isDigit (hexadecimal digit member)⟩
  rcases isMark with rfl | rfl
  · exact List.forall_mem_nil _
  · exact List.forall_mem_cons.mpr ⟨by decide, List.forall_mem_singleton.mpr (by decide)⟩

theorem isKeyText_iff {text : String} {scalar : Nat} :
    IsKeyText text scalar ↔ AreKeyDigits (keyDigits text).toList scalar := by
  rw [keyDigits, String.toList_ofList]
  constructor
  · rintro ⟨front, mark, digits, back, split, frontBlank, isMark, areDigits, backBlank⟩
    have visible := visible_mark_digits isMark areDigits.hexadecimal
    rwa [split, Text.trimChars_append frontBlank visible backBlank,
      withoutPrefix_append isMark areDigits.hexadecimal]
  · intro areDigits
    obtain ⟨front, back, split, frontBlank, backBlank⟩ :=
      Text.exists_eq_append_trimChars text.toList
    obtain ⟨mark, isMark, marked⟩ :=
      exists_eq_append_withoutPrefix (Text.trimChars text.toList)
    rw [marked] at split
    exact ⟨front, mark, _, back, split, frontBlank, isMark, areDigits, backBlank⟩

/-- A text codes no more than one scalar. -/
theorem IsKeyText.eq {text : String} {first second : Nat} (codes : IsKeyText text first)
    (alsoCodes : IsKeyText text second) : first = second :=
  (isKeyText_iff.mp codes).denotes.symm.trans (isKeyText_iff.mp alsoCodes).denotes

/-! ## The signer of a text -/

/-- A signer is made exactly of the scalar that a text codes. -/
theorem ofText_eq_ok_iff {text : String} {signer : EvmSigner} :
    ofText text = .ok signer ↔
      ∃ key : Ecdsa.PrivateKey, IsKeyText text key.scalar ∧ ofKey key = signer := by
  simp only [isKeyText_iff, areKeyDigits_iff, ← Hex.decode_eq_ok_iff]
  fun_cases ofText text with
  | case1 cause unread =>
      simp only [unread, reduceCtorEq, false_and, exists_false]
  | case2 bytes read none =>
      simp only [read, Except.ok.injEq, exists_eq_left', none, reduceCtorEq, false_and,
        exists_false]
  | case3 bytes read key made =>
      simp only [read, Except.ok.injEq, exists_eq_left', made, Option.some.injEq]

theorem exists_ofText_eq_ok_iff {text : String} :
    (∃ signer, ofText text = .ok signer) ↔ ∃ scalar, IsKeyText text scalar := by
  simp only [ofText_eq_ok_iff]
  constructor
  · rintro ⟨_, key, isKeyText, -⟩
    exact ⟨key.scalar, isKeyText⟩
  · rintro ⟨scalar, isKeyText⟩
    have areDigits := isKeyText_iff.mp isKeyText
    exact ⟨_, ⟨scalar, areDigits.scalar_pos, areDigits.scalar_lt⟩, isKeyText, rfl⟩

/-- Texts that code one scalar make one signer. -/
theorem eq_of_isKeyText {first second : String} {scalar : Nat} {one other : EvmSigner}
    (firstCodes : IsKeyText first scalar) (secondCodes : IsKeyText second scalar)
    (makesOne : ofText first = .ok one) (makesOther : ofText second = .ok other) :
    one = other := by
  obtain ⟨⟨_, _, _⟩, firstKey, rfl⟩ := ofText_eq_ok_iff.mp makesOne
  obtain ⟨⟨_, _, _⟩, secondKey, rfl⟩ := ofText_eq_ok_iff.mp makesOther
  cases firstKey.eq firstCodes
  cases secondKey.eq secondCodes
  rfl

end EvmSigner

end PricePublisher
