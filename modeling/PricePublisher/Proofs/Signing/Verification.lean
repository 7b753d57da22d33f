import PricePublisher.Proofs.Decimal.Digits
import PricePublisher.Proofs.Price.Signed
import PricePublisher.Proofs.Signing.Address
import PricePublisher.Proofs.Signing.PriceWord
import PricePublisher.Signing.EvmSigner

/-!
# Verifying a signed price from its own fields

Whoever receives a signed price puts the signed message together from its
fields, compares the message's hash with the published one, and recovers the
signer's address from the three numbers of the signature.  All fields are texts:
bytes and numbers in hexadecimal after `0x`, the price in base ten.

That recovery gives the public key back for what signing returns is a property
of the curve that is assumed here, of the one hash that was signed.
-/

namespace PricePublisher

namespace Signature

/-- The number in a text of exactly 64 digits after `0x`. -/
def scalar? (text : String) : Option Nat :=
  if text.length = 66 then (Hex.decodePrefixed? text).map Bytes.toNat else none

/--
What a recovery number says once 27 is taken from it: whether the nonce's point
has an odd `y`, and whether its `x` was reduced.
-/
def recoveryBits? (byte : UInt8) : Option (Bool × Bool) :=
  let number := byte.toNat - 27
  if 27 ≤ byte.toNat ∧ number < 4 then some (number % 2 == 1, number / 2 == 1) else none

/-- What the text of a recovery number says. -/
def recovery? (text : String) : Option (Bool × Bool) :=
  match Hex.decodePrefixed? text with
  | some [byte] => recoveryBits? byte
  | _ => none

/-- The numbers that the texts of a signature stand for. -/
def recoverable? : Signature → Option Ecdsa.RecoverableSignature
  | .evm r s v => do
      let r ← scalar? r
      let s ← scalar? s
      let (odd, reduced) ← recovery? v
      return { r, s, odd, reduced }
  | .stark .. => none

end Signature

namespace SignedPrice

/-- The bytes of a published hash. -/
def published? (signed : SignedPrice) : Option Bytes :=
  Hex.decodePrefixed? signed.timestampedSignature.messageHash

/-- The message that the fields stand for. -/
def message? (signed : SignedPrice) : Option Bytes := do
  let address ← Hex.decodePrefixed? signed.publisherKey
  let price ← Digits.toInt? signed.price.text.toList
  let seconds := signed.timestampedSignature.timestamp.tdiv 1000000000
  return address ++ Bytes.ofText signed.externalAsset
    ++ PriceWord.ofInt seconds ++ PriceWord.ofInt price

/-- The hash that the signature was made over. -/
def signedHash? (signed : SignedPrice) : Option Bytes := do
  let published ← signed.published?
  return Keccak.hash
    (0x19 :: Bytes.ofText "Ethereum Signed Message:\n32" ++ published)

/-- The written address of the key that made the signature. -/
def recoveredKey? (signed : SignedPrice) : Option String := do
  let hash ← signed.signedHash?
  let signature ← signed.timestampedSignature.signature.recoverable?
  let point ← Ecdsa.recover? hash signature
  return Address.toText (Address.ofPoint point)

/-- What a receiver checks. -/
structure Verifies (signed : SignedPrice) : Prop where
  published : ∃ message,
    signed.message? = some message ∧ signed.published? = some (Keccak.hash message)
  recovered : signed.recoveredKey? = some signed.publisherKey

end SignedPrice

/-!
## What signing writes
-/

namespace Ecdsa

theorem scalars_lt_of_signWith?
    {key : PrivateKey} {number nonce : Nat} {signature : RecoverableSignature}
    (signs : signWith? key number nonce = some signature) :
    signature.r < Secp256k1.groupOrder ∧ signature.s < Secp256k1.groupOrder := by
  have order_pos : 0 < Secp256k1.groupOrder := by decide
  rw [signWith?] at signs
  split at signs
  · cases signs
  · rw [Option.some.injEq] at signs
    rw [← signs]
    constructor
    · exact Nat.mod_lt _ order_pos
    · show (if _ then Secp256k1.groupOrder - _ else _) < Secp256k1.groupOrder
      split
      next high =>
        have large := of_decide_eq_true high
        exact Nat.sub_lt order_pos (Nat.zero_lt_of_lt large)
      next => exact Nat.mod_lt _ order_pos

theorem scalars_lt
    {key : PrivateKey} {hash : Bytes} {signature : RecoverableSignature}
    (signs : sign? key hash = some signature) :
    signature.r < Secp256k1.groupOrder ∧ signature.s < Secp256k1.groupOrder := by
  rw [sign?] at signs
  rcases Option.bind_eq_some_iff.mp signs with ⟨nonce, _, signs⟩
  exact scalars_lt_of_signWith? signs

end Ecdsa

namespace Signature

theorem scalar?_encodePrefixed
    {number : Nat}
    (fits : number < 256 ^ 32) :
    scalar? (Hex.encodePrefixed (Bytes.ofNat 32 number)) = some number := by
  rw [scalar?, Hex.length_encodePrefixed, Bytes.length_ofNat, if_pos rfl,
    Hex.decodePrefixed?_encodePrefixed, Option.map_some, Bytes.toNat_ofNat_of_lt fits]

theorem recovery?_encodePrefixed
    (signature : Ecdsa.RecoverableSignature) :
    recovery? (Hex.encodePrefixed
        [UInt8.ofNat (signature.recoveryId + EvmSigner.recoveryOffset)]) =
      some (signature.odd, signature.reduced) := by
  have bits : ∀ odd reduced : Bool,
      recoveryBits? (UInt8.ofNat
          ((if odd then 1 else 0) + (if reduced then 2 else 0) + EvmSigner.recoveryOffset)) =
        some (odd, reduced) := by
    decide
  rw [recovery?, Hex.decodePrefixed?_encodePrefixed]
  exact bits signature.odd signature.reduced

/-- The texts of a signature stand for it. -/
theorem recoverable?_signatureTexts
    {signature : Ecdsa.RecoverableSignature}
    (r_lt : signature.r < Secp256k1.groupOrder)
    (s_lt : signature.s < Secp256k1.groupOrder) :
    (EvmSigner.signatureTexts signature).recoverable? = some signature := by
  have order_lt : Secp256k1.groupOrder < 256 ^ 32 := by decide +kernel
  rw [EvmSigner.signatureTexts, recoverable?,
    scalar?_encodePrefixed (Nat.lt_trans r_lt order_lt),
    scalar?_encodePrefixed (Nat.lt_trans s_lt order_lt), recovery?_encodePrefixed]
  rfl

end Signature

theorem Payload.hash_eq_ok
    {address : Bytes} {asset : String} {timestamp : Int} {price : String} {published : Bytes}
    (hashed : Payload.hash address asset timestamp price = .ok published) :
    ∃ number, Digits.toInt? price.toList = some number ∧
      published = Keccak.hash
        (Payload.assemble address asset timestamp (PriceWord.ofInt number)) := by
  rw [Payload.hash, Payload.bytes] at hashed
  cases accepted : PriceWord.ofText price with
  | error cause =>
      simp only [accepted, Except.map, reduceCtorEq] at hashed
  | ok word =>
      rcases PriceWord.ofText_eq_ok_iff.mp accepted with ⟨number, read, _, word_eq⟩
      simp only [accepted, Except.map, Except.ok.injEq] at hashed
      rw [word_eq] at hashed
      exact ⟨number, read, hashed.symm⟩

namespace EvmSigner

theorem address_ofKey
    (key : Ecdsa.PrivateKey) :
    (ofKey key).address = Address.ofPoint key.publicKey :=
  rfl

theorem sign_eq_ok_iff
    {signer : EvmSigner} {timestamp : Int} {asset price : String} {answer : PriceSignature} :
    signer.sign timestamp asset price = .ok answer ↔
      ∃ published signature,
        Payload.hash signer.address asset timestamp price = .ok published ∧
        Ecdsa.sign? signer.key (Payload.personalHash published) = some signature ∧
        answer =
          ⟨⟨signatureTexts signature, timestamp, Hex.encodePrefixed published⟩, asset⟩ := by
  fun_cases sign signer timestamp asset price with
  | case1 cause fails =>
      simp only [fails, reduceCtorEq, false_and, exists_false]
  | case2 published hashed fails =>
      simp only [reduceCtorEq, false_iff]
      rintro ⟨other, signature, same, signs, -⟩
      rw [hashed] at same
      cases same
      rw [fails] at signs
      cases signs
  | case3 published hashed signature signs =>
      rw [Except.ok.injEq]
      constructor
      · rintro rfl
        exact ⟨published, signature, hashed, signs, rfl⟩
      · rintro ⟨other, made, same, made_eq, rfl⟩
        rw [hashed] at same
        cases same
        rw [signs] at made_eq
        cases made_eq
        rfl

end EvmSigner

theorem SignedPrice.signedHash?_eq
    {signed : SignedPrice} {published : Bytes}
    (writes : signed.timestampedSignature.messageHash = Hex.encodePrefixed published) :
    signed.signedHash? = some (Payload.personalHash published) := by
  rw [signedHash?, published?, writes, Hex.decodePrefixed?_encodePrefixed]
  rfl

/-- From what a key signs over a hash, its public key is recovered. -/
def Ecdsa.PrivateKey.RecoversFrom (key : Ecdsa.PrivateKey) (hash : Bytes) : Prop :=
  ∀ signature, Ecdsa.sign? key hash = some signature →
    Ecdsa.recover? hash signature = some key.publicKey

theorem EvmSigner.keepsTime
    (signer : EvmSigner) :
    signer.toSigner.KeepsTime := by
  intro timestamp asset price answer succeeds
  rcases sign_eq_ok_iff.mp succeeds with ⟨published, signature, _, _, rfl⟩
  rfl

/-- A signed price is verified with nothing but its own fields. -/
theorem SignedUpdate.verifies_from_fields
    {key : Ecdsa.PrivateKey} {selected : TriggeredUpdate} {oracle : String}
    {signed : SignedUpdate}
    (succeeds : selected.sign (EvmSigner.ofKey key).toSigner oracle = .ok signed)
    (recovers : ∀ hash, signed.signedPrice.signedHash? = some hash → key.RecoversFrom hash) :
    signed.signedPrice.Verifies := by
  have made := SignedUpdate.madeFrom succeeds
  have timestamp_eq := made.timestamp (EvmSigner.keepsTime _)
  rcases EvmSigner.sign_eq_ok_iff.mp made.answered with
    ⟨published, signature, hashed, signs, answer_eq⟩
  rcases Payload.hash_eq_ok hashed with ⟨number, read, published_eq⟩
  rw [PriceSignature.mk.injEq] at answer_eq
  rcases answer_eq with ⟨stamped_eq, asset_eq⟩
  have address_eq : Hex.decodePrefixed? signed.signedPrice.publisherKey =
      some (Address.ofPoint key.publicKey) := by
    rw [made.publisher_key]
    apply Address.decodePrefixed?_toText
    rw [Address.length_ofPoint]
    decide
  have published?_eq : signed.signedPrice.published? = some published := by
    rw [SignedPrice.published?, stamped_eq, Hex.decodePrefixed?_encodePrefixed]
  have hash_eq : signed.signedPrice.signedHash? = some (Payload.personalHash published) := by
    apply SignedPrice.signedHash?_eq
    rw [stamped_eq]
  have signature_eq :
      signed.signedPrice.timestampedSignature.signature.recoverable? = some signature := by
    rcases Ecdsa.scalars_lt signs with ⟨r_lt, s_lt⟩
    rw [stamped_eq, Signature.recoverable?_signatureTexts r_lt s_lt]
  have recovered := recovers _ hash_eq signature signs
  have message_eq : signed.signedPrice.message? =
      some (Payload.assemble (Address.ofPoint key.publicKey) selected.update.asset
        selected.update.timestamp (PriceWord.ofInt number)) := by
    rw [SignedPrice.message?, address_eq, read, timestamp_eq, asset_eq]
    rfl
  constructor
  · refine ⟨_, message_eq, ?_⟩
    rw [published?_eq, published_eq]
    rfl
  · simp only [SignedPrice.recoveredKey?, hash_eq, signature_eq, recovered,
      Option.bind_eq_bind, Option.bind_some]
    rw [made.publisher_key]
    rfl

/-!
## A price below zero

The sample has a time and a value below zero, a name beyond ASCII, and a first
scalar that starts with a zero byte.
-/

def sampleKey : Ecdsa.PrivateKey where
  scalar := 0x28253097630cca4158c909efa1af971e7aa759eb3d966cdb34e50f5ca1916ac7
  scalar_pos := by decide
  scalar_lt := by decide

def samplePoint : Secp256k1.Point where
  x := 0xbd842aa3aaf19dea5cd83335a60a6f355b150fe6680e1134b53396ed1492a81a
  y := 0x1de67e9ef399762f1394451b2e9f7d7e624f76c540655103324e82c92e61cd4c

def sampleAddress : Bytes :=
  Bytes.ofNat 20 0xc4a02e7d370402f4afc36032076b05e74ff81786

theorem publicKey_sampleKey :
    sampleKey.publicKey = samplePoint := by
  decide +kernel

theorem ofPoint_samplePoint :
    Address.ofPoint samplePoint = sampleAddress := by
  decide +kernel

def sampleUpdate : TriggeredUpdate where
  update := {
    timestamp := -62500000000
    asset := "ÉTÉ"
    value := ⟨true, 15, 1, by decide, by decide⟩
    metadata := none }
  trigger := .delta

def samplePublished : Bytes :=
  Bytes.ofNat 32 0xd6523512b7c03aa5acd14eb9828cbe05b078f08ae092e4c5fcf028e3989b6c11

def sampleHash : Bytes :=
  Bytes.ofNat 32 0xae3135d346d141e6a139209bff047013a1686b846237c8c299bbbb01cda62793

def sampleSignature : Ecdsa.RecoverableSignature where
  r := 0x005a8f3f1a05683b28f3f4112b26dd2d1bc534117a232aabedb201ba45c3c64a
  s := 0x25ae131ae7b71f4ddfdd4d655945159caab98d9672f0ea7197002b835f37301f
  odd := true
  reduced := false

theorem verifies_price_below_zero :
    ∃ signed,
      sampleUpdate.sign (EvmSigner.ofKey sampleKey).toSigner "sample" = .ok signed ∧
      signed.signedPrice.timestampedSignature.signature =
        .evm "0x005a8f3f1a05683b28f3f4112b26dd2d1bc534117a232aabedb201ba45c3c64a"
          "0x25ae131ae7b71f4ddfdd4d655945159caab98d9672f0ea7197002b835f37301f" "0x1c" ∧
      signed.signedPrice.Verifies := by
  have price_eq : (QuantizedPrice.ofDecimal sampleUpdate.update.value).text =
      "-1500000000000000000" := by
    decide +kernel
  have hashed : Payload.hash sampleAddress sampleUpdate.update.asset
      sampleUpdate.update.timestamp "-1500000000000000000" = .ok samplePublished := by
    decide +kernel
  have wrapped : Payload.personalHash samplePublished = sampleHash := by decide +kernel
  have signs : Ecdsa.sign? sampleKey sampleHash = some sampleSignature := by decide +kernel
  have recovered : Ecdsa.recover? sampleHash sampleSignature = some samplePoint := by
    decide +kernel
  have signer_address : (EvmSigner.ofKey sampleKey).address = sampleAddress := by
    rw [EvmSigner.address_ofKey, publicKey_sampleKey, ofPoint_samplePoint]
  have answered : (EvmSigner.ofKey sampleKey).toSigner.sign sampleUpdate.update.timestamp
      sampleUpdate.update.asset (QuantizedPrice.ofDecimal sampleUpdate.update.value).text =
        .ok ⟨⟨EvmSigner.signatureTexts sampleSignature, sampleUpdate.update.timestamp,
          Hex.encodePrefixed samplePublished⟩, sampleUpdate.update.asset⟩ := by
    rw [price_eq]
    rw [← signer_address] at hashed
    rw [← wrapped] at signs
    exact EvmSigner.sign_eq_ok_iff.mpr ⟨_, _, hashed, signs, rfl⟩
  have succeeds := TriggeredUpdate.sign_of_answered "sample" answered
  refine ⟨_, succeeds, by decide +kernel, SignedUpdate.verifies_from_fields succeeds ?_⟩
  intro hash hash_eq signature made
  have hash_is : some (Payload.personalHash samplePublished) = some hash := by
    rw [← hash_eq]
    exact (SignedPrice.signedHash?_eq rfl).symm
  rw [wrapped, Option.some.injEq] at hash_is
  subst hash_is
  rw [signs, Option.some.injEq] at made
  subst made
  rw [recovered, publicKey_sampleKey]

end PricePublisher
