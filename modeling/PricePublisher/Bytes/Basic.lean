/-!
# Byte strings

Byte strings are lists of bytes.  Numbers are written most significant byte
first, and texts as UTF-8.
-/

namespace PricePublisher

/-- A byte string. -/
abbrev Bytes := List UInt8

namespace Bytes

/-- The number that a byte string denotes, most significant byte first. -/
def toNat (bytes : Bytes) : Nat :=
  bytes.foldl (fun number byte => 256 * number + byte.toNat) 0

/-- The last `length` bytes of a number, most significant byte first. -/
def ofNat : Nat → Nat → Bytes
  | 0, _ => []
  | length + 1, number => ofNat length (number / 256) ++ [UInt8.ofNat (number % 256)]

/-- The UTF-8 encoding of a text. -/
def ofText (text : String) : Bytes :=
  text.toUTF8.toList

end Bytes

end PricePublisher
