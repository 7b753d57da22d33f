import PricePublisher.Bytes.Hex
import PricePublisher.Curve.Secp256k1
import PricePublisher.Hash.Keccak

/-!
# Addresses

The address of a public key is the last 20 bytes of the hash of its
coordinates.  It is written in hexadecimal with a checksum in the case of its
letters: a letter is upper case exactly when the digit at its position in the
hash of the lower-case text is at least eight.
-/

namespace PricePublisher.Address

/-- The address of a public key. -/
def ofPoint (point : Secp256k1.Point) : Bytes :=
  (Keccak.hash (Bytes.ofNat 32 point.x ++ Bytes.ofNat 32 point.y)).drop 12

/-- The upper and lower halves of each byte. -/
def nibbles (bytes : Bytes) : List Nat :=
  bytes.flatMap fun byte => [byte.toNat / 16, byte.toNat % 16]

/-- The case of one character, decided by a digit of the hash. -/
def checksumChar (character : Char) (nibble : Nat) : Char :=
  if character.isAlpha && 8 ≤ nibble then character.toUpper else character

/-- The characters of an address with its checksum. -/
def checksumChars (address : Bytes) : List Char :=
  let lower := Hex.encodeChars address
  List.zipWith checksumChar lower
    (nibbles (Keccak.hash (Bytes.ofText (String.ofList lower))))

/-- The written form of an address. -/
def toText (address : Bytes) : String :=
  String.ofList ('0' :: 'x' :: checksumChars address)

end PricePublisher.Address
