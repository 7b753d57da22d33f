import PricePublisher.Proofs.Signing.Address
import PricePublisher.Proofs.Signing.KeyText
import PricePublisher.Proofs.Signing.Verification
import PricePublisher.Startup.Plan

/-!
# The key pair that a program starts with

The settings write a private key and the address that belongs to it, each in a form that is
partly free.  Whatever forms are chosen, the program starts exactly with a pair that
belongs together, and signs with the scalar that the private key codes.
-/

namespace PricePublisher

open EvmSigner (IsKeyText)

namespace EvmSigner

/-- The publisher key of a signer is the written form of its address. -/
def HasWrittenAddress (signer : EvmSigner) : Prop :=
  ∃ characters, signer.publisherKey.toList = '0' :: 'x' :: characters ∧
    Address.HasChecksum signer.address characters

theorem hasWrittenAddress_ofKey (key : Ecdsa.PrivateKey) : (ofKey key).HasWrittenAddress := by
  refine ⟨Address.checksumChars (Address.ofPoint key.publicKey), ?_, ?_⟩
  · exact String.toList_ofList
  · exact Address.hasChecksum_checksumChars (Address.length_ofPoint key.publicKey)

theorem hasWrittenAddress_of_ofText {text : String} {signer : EvmSigner}
    (makes : ofText text = .ok signer) : signer.HasWrittenAddress := by
  obtain ⟨key, -, rfl⟩ := ofText_eq_ok_iff.mp makes
  exact hasWrittenAddress_ofKey key

theorem address_of_isKeyText {text : String} {scalar : Nat} {signer : EvmSigner}
    (codes : IsKeyText text scalar) (makes : ofText text = .ok signer) :
    signer.address = Address.ofPoint (Secp256k1.generatorMultiple scalar) := by
  obtain ⟨key, isKey, rfl⟩ := ofText_eq_ok_iff.mp makes
  rw [← isKey.eq codes, address_ofKey]
  rfl

end EvmSigner

namespace Startup

open EvmSigner

/-- A public key is left out, or is `0x` and the digits of an address in any case. -/
def NamesAddress (publicKey : Option String) (address : Bytes) : Prop :=
  ∀ configured, publicKey = some configured →
    configured.toList.map Char.toLower = '0' :: 'x' :: Hex.encodeChars address

theorem equalIgnoringCase_publisherKey_iff {configured : String} {signer : EvmSigner}
    (written : signer.HasWrittenAddress) :
    equalIgnoringCase configured signer.publisherKey = true ↔
      configured.toList.map Char.toLower = '0' :: 'x' :: Hex.encodeChars signer.address := by
  obtain ⟨characters, text_eq, checksum⟩ := written
  have lower : signer.publisherKey.toList.map Char.toLower =
      '0' :: 'x' :: Hex.encodeChars signer.address := by
    rw [text_eq, List.map_cons, List.map_cons, checksum.toLower_eq]
    rfl
  rw [equalIgnoringCase, lower, beq_iff_eq]

theorem signerFor_evm_eq_ok_iff {keys : Settings.Keys} {signer : Signer} :
    signerFor keys .evm = .ok signer ↔
      ∃ text, keys.evmPrivateKey = some text ∧
        ∃ evm, ofText text = .ok evm ∧ NamesAddress keys.evmPublicKey evm.address ∧
          evm.toSigner = signer := by
  rw [signerFor]
  split
  next absent => simp only [absent, reduceCtorEq, false_and, exists_false]
  next text present =>
    simp only [present, Option.some.injEq, exists_eq_left']
    split
    next cause unread => simp only [unread, reduceCtorEq, false_and, exists_false]
    next evm makes =>
      simp only [makes, Except.ok.injEq, exists_eq_left', NamesAddress]
      split
      next absent =>
        simp only [absent, reduceCtorEq, false_implies, implies_true, true_and, Except.ok.injEq]
      next configured named =>
        simp only [named, Option.some.injEq, forall_eq',
          ← equalIgnoringCase_publisherKey_iff (hasWrittenAddress_of_ofText makes)]
        split
        next same => simp only [same, true_and, Except.ok.injEq]
        next differ => simp only [differ, reduceCtorEq, false_and]

/--
A text makes a signer exactly if it codes a scalar, however it is written; the signer depends
on that scalar alone, states the checksummed address of its public key, and is the one that
the program starts with exactly if the settings name that address or none.
-/
theorem starts_with_coded_scalar :
    (∀ text, (∃ signer, ofText text = .ok signer) ↔ ∃ scalar, IsKeyText text scalar) ∧
    (∀ first second scalar one other,
      IsKeyText first scalar → IsKeyText second scalar →
      ofText first = .ok one → ofText second = .ok other →
        one.publisherKey = other.publisherKey ∧
          ∀ timestamp asset price,
            one.sign timestamp asset price = other.sign timestamp asset price) ∧
    (∀ text scalar signer, IsKeyText text scalar → ofText text = .ok signer →
      signer.address = Address.ofPoint (Secp256k1.generatorMultiple scalar) ∧
        signer.HasWrittenAddress) ∧
    ∀ keys signer, signerFor keys .evm = .ok signer ↔
      ∃ text, keys.evmPrivateKey = some text ∧
        ∃ evm, ofText text = .ok evm ∧ NamesAddress keys.evmPublicKey evm.address ∧
          evm.toSigner = signer := by
  refine ⟨fun text => exists_ofText_eq_ok_iff, ?_, ?_, fun keys signer =>
    signerFor_evm_eq_ok_iff⟩
  · intro first second scalar one other firstCodes secondCodes makesOne makesOther
    cases eq_of_isKeyText firstCodes secondCodes makesOne makesOther
    exact ⟨rfl, fun _ _ _ => rfl⟩
  · intro text scalar signer codes makes
    exact ⟨address_of_isKeyText codes makes, hasWrittenAddress_of_ofText makes⟩

/-- The digits of the sample key in lower case. -/
def lowerDigits : String :=
  "28253097630cca4158c909efa1af971e7aa759eb3d966cdb34e50f5ca1916ac7"

/-- The digits of the sample key in upper case, with blanks around them. -/
def upperText : String :=
  "\t28253097630CCA4158C909EFA1AF971E7AA759EB3D966CDB34E50F5CA1916AC7 \n"

theorem areKeyDigits_sample {digits : List Char}
    (small : digits.length = 64 ∧ Hex.number digits = sampleKey.scalar)
    (hexadecimal : digits.all Hex.isDigit = true) :
    AreKeyDigits digits sampleKey.scalar where
  even := by rw [small.1]
  hexadecimal digit member := Hex.isDigit_iff.mp (List.all_eq_true.mp hexadecimal digit member)
  bytes_ge := by rw [small.1]; decide
  bytes_le := by rw [small.1]
  denotes := small.2
  scalar_pos := sampleKey.scalar_pos
  scalar_lt := sampleKey.scalar_lt

/-- Settings with the sample key, and its address in capitals. -/
def sampleKeys : Settings.Keys where
  evmPrivateKey := some upperText
  evmPublicKey := some "0XC4A02E7D370402F4AFC36032076B05E74FF81786"
  starkPrivateKey := none
  starkPublicKey := none
  oracle := "short"
  pullAuth := none
  registryAuth := ""

theorem starts_with_sample_key :
    ∃ one other, ofText ("0x" ++ lowerDigits) = .ok one ∧ ofText upperText = .ok other ∧
      one.publisherKey = other.publisherKey ∧ other.HasWrittenAddress ∧
      signerFor sampleKeys .evm = .ok other.toSigner := by
  obtain ⟨accepted, same, written, starts⟩ := starts_with_coded_scalar
  have lowerCodes : IsKeyText ("0x" ++ lowerDigits) sampleKey.scalar :=
    ⟨[], ['0', 'x'], lowerDigits.toList, [], by decide +kernel, List.forall_mem_nil _, .inr rfl,
      areKeyDigits_sample (by decide +kernel) (by decide +kernel), List.forall_mem_nil _⟩
  have upperCodes : IsKeyText upperText sampleKey.scalar :=
    ⟨['\t'], [], (upperText.toList.drop 1).take 64, [' ', '\n'], by decide +kernel,
      List.all_eq_true.mp rfl, .inl rfl,
      areKeyDigits_sample (by decide +kernel) (by decide +kernel), List.all_eq_true.mp rfl⟩
  obtain ⟨one, makesOne⟩ := (accepted _).mpr ⟨_, lowerCodes⟩
  obtain ⟨other, makesOther⟩ := (accepted _).mpr ⟨_, upperCodes⟩
  obtain ⟨address_eq, otherWritten⟩ := written _ _ _ upperCodes makesOther
  have sample_eq : other.address = sampleAddress :=
    address_eq.trans ((congrArg Address.ofPoint publicKey_sampleKey).trans ofPoint_samplePoint)
  have named : NamesAddress sampleKeys.evmPublicKey other.address := by
    rw [sample_eq]
    rintro _ ⟨⟩
    decide +kernel
  have sameKey := (same _ _ _ _ _ lowerCodes upperCodes makesOne makesOther).1
  have starting := (starts _ _).mpr ⟨upperText, rfl, other, makesOther, named, rfl⟩
  exact ⟨one, other, makesOne, makesOther, sameKey, otherWritten, starting⟩

end Startup

end PricePublisher
