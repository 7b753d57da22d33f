import PricePublisher.Curve.Secp256k1
import PricePublisher.Hash.Sha256

/-!
# Recoverable signatures over secp256k1

A signature is a pair of scalars together with the two bits that tell which of
the candidate points was used; from it and the hash that was signed the public
key can be computed.  The nonce is derived from the key and the hash, so that
signing is a function.  The second scalar is always taken from the lower half.
-/

namespace PricePublisher.Ecdsa

open Secp256k1

/-- A private key: a scalar other than zero. -/
structure PrivateKey where
  scalar : Nat
  scalar_pos : 0 < scalar
  scalar_lt : scalar < groupOrder
deriving DecidableEq

/-- A signature from which the public key can be recovered. -/
structure RecoverableSignature where
  r : Nat
  s : Nat
  /-- The nonce's point has an odd `y`, after `s` was brought to the lower half. -/
  odd : Bool
  /-- The nonce's point has an `x` that is not below the group order. -/
  reduced : Bool
deriving DecidableEq, Repr

/-- The number from 0 to 3 that names the candidate point. -/
def RecoverableSignature.recoveryId (signature : RecoverableSignature) : Nat :=
  (if signature.odd then 1 else 0) + (if signature.reduced then 2 else 0)

namespace PrivateKey

/--
Read a key of 24 to 32 bytes.  Fewer than 32 are completed by zeros in front;
zero and everything from the group order on is refused.
-/
def ofBytes? (bytes : Bytes) : Option PrivateKey :=
  let scalar := Bytes.toNat bytes
  if within : (24 ≤ bytes.length ∧ bytes.length ≤ 32) ∧ 0 < scalar ∧ scalar < groupOrder then
    some ⟨scalar, within.2.1, within.2.2⟩
  else
    none

/-- The public key, a point of the curve. -/
def publicKey (key : PrivateKey) : Point :=
  generatorMultiple key.scalar

end PrivateKey

/-- The state of the nonce derivation. -/
structure NonceState where
  key : Bytes
  value : Bytes

/-- Mix a separator and further material into the state. -/
def NonceState.mix (state : NonceState) (material : Bytes) : NonceState :=
  let key := Sha256.authenticate state.key (state.value ++ material)
  ⟨key, Sha256.authenticate key state.value⟩

/-- The state from which the nonce for a key and a hash is drawn. -/
def NonceState.start (key : PrivateKey) (hash : Nat) : NonceState :=
  let material := Bytes.ofNat 32 key.scalar ++ Bytes.ofNat 32 hash
  let initial : NonceState := ⟨List.replicate 32 0, List.replicate 32 1⟩
  (initial.mix (0 :: material)).mix (1 :: material)

/-- Draw candidates until one is a scalar other than zero. -/
def NonceState.draw? (state : NonceState) : Nat → Option Nat
  | 0 => none
  | attempts + 1 =>
      let value := Sha256.authenticate state.key state.value
      let nonce := Bytes.toNat value
      if 0 < nonce ∧ nonce < groupOrder then some nonce
      else (NonceState.mix ⟨state.key, value⟩ [0]).draw? attempts

/-- How many candidates for a nonce are drawn at most. -/
def drawLimit : Nat := 64

/-- The nonce for a key and a hash. -/
def nonce? (key : PrivateKey) (hash : Nat) : Option Nat :=
  (NonceState.start key hash).draw? drawLimit

/-- Sign a hash with a given nonce, unless a scalar comes out as zero. -/
def signWith? (key : PrivateKey) (hash nonce : Nat) : Option RecoverableSignature :=
  let point := generatorMultiple nonce
  let r := point.x % groupOrder
  let s := inverse groupOrder nonce * (hash + r * key.scalar) % groupOrder
  if r = 0 ∨ s = 0 then none
  else
    let high := decide (groupOrder / 2 < s)
    some {
      r := r
      s := if high then groupOrder - s else s
      odd := decide (point.y % 2 = 1) != high
      reduced := decide (groupOrder ≤ point.x) }

/-- Sign a hash of 32 bytes. -/
def sign? (key : PrivateKey) (hash : Bytes) : Option RecoverableSignature := do
  let number := Bytes.toNat hash % groupOrder
  signWith? key number (← nonce? key number)

/-- The public key that a signature of a hash belongs to. -/
def recover? (hash : Bytes) (signature : RecoverableSignature) : Option Point := do
  let x := if signature.reduced then signature.r + groupOrder else signature.r
  let point ← Point.withX? x signature.odd
  if 0 < signature.r ∧ signature.r < groupOrder
      ∧ 0 < signature.s ∧ signature.s < groupOrder then
    let number := Bytes.toNat hash % groupOrder
    let inverted := inverse groupOrder signature.r
    let ofGenerator := inverted * (groupOrder - number) % groupOrder
    let ofPoint := inverted * signature.s % groupOrder
    let sum := (Jacobian.multiple ofGenerator (Jacobian.ofPoint generator)).add
      (Jacobian.multiple ofPoint (Jacobian.ofPoint point))
    if sum.z = 0 then none else some sum.toPoint
  else
    none

end PricePublisher.Ecdsa
