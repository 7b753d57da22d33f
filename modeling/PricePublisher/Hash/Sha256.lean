import PricePublisher.Bytes.Basic

/-!
# The SHA-256 hash and its message authentication code

Blocks of 64 bytes are compressed into eight words of 32 bits.  The message is
padded with a byte `0x80`, zeros, and its length in bits as eight bytes.
-/

namespace PricePublisher.Sha256

/-- The constants of the 64 rounds. -/
def roundConstants : List UInt32 := [
  0x428a2f98, 0x71374491, 0xb5c0fbcf, 0xe9b5dba5, 0x3956c25b, 0x59f111f1, 0x923f82a4, 0xab1c5ed5,
  0xd807aa98, 0x12835b01, 0x243185be, 0x550c7dc3, 0x72be5d74, 0x80deb1fe, 0x9bdc06a7, 0xc19bf174,
  0xe49b69c1, 0xefbe4786, 0x0fc19dc6, 0x240ca1cc, 0x2de92c6f, 0x4a7484aa, 0x5cb0a9dc, 0x76f988da,
  0x983e5152, 0xa831c66d, 0xb00327c8, 0xbf597fc7, 0xc6e00bf3, 0xd5a79147, 0x06ca6351, 0x14292967,
  0x27b70a85, 0x2e1b2138, 0x4d2c6dfc, 0x53380d13, 0x650a7354, 0x766a0abb, 0x81c2c92e, 0x92722c85,
  0xa2bfe8a1, 0xa81a664b, 0xc24b8b70, 0xc76c51a3, 0xd192e819, 0xd6990624, 0xf40e3585, 0x106aa070,
  0x19a4c116, 0x1e376c08, 0x2748774c, 0x34b0bcb5, 0x391c0cb3, 0x4ed8aa4a, 0x5b9cca4f, 0x682e6ff3,
  0x748f82ee, 0x78a5636f, 0x84c87814, 0x8cc70208, 0x90befffa, 0xa4506ceb, 0xbef9a3f7, 0xc67178f2]

/-- The chaining state. -/
structure State where
  a : UInt32
  b : UInt32
  c : UInt32
  d : UInt32
  e : UInt32
  f : UInt32
  g : UInt32
  h : UInt32

/-- The state before the first block. -/
def State.start : State :=
  ⟨0x6a09e667, 0xbb67ae85, 0x3c6ef372, 0xa54ff53a, 0x510e527f, 0x9b05688c, 0x1f83d9ab, 0x5be0cd19⟩

/-- The words of a state. -/
def State.words (state : State) : List UInt32 :=
  [state.a, state.b, state.c, state.d, state.e, state.f, state.g, state.h]

/-- Add two states word by word. -/
def State.add (left right : State) : State :=
  ⟨left.a + right.a, left.b + right.b, left.c + right.c, left.d + right.d,
    left.e + right.e, left.f + right.f, left.g + right.g, left.h + right.h⟩

/-- Rotate a word to the right. -/
def rotate (word : UInt32) (distance : UInt32) : UInt32 :=
  (word >>> distance) ||| (word <<< (32 - distance))

/-- One round of the compression. -/
def round (state : State) (constant word : UInt32) : State :=
  let mixed := rotate state.e 6 ^^^ rotate state.e 11 ^^^ rotate state.e 25
  let choice := (state.e &&& state.f) ^^^ (~~~ state.e &&& state.g)
  let first := state.h + mixed + choice + constant + word
  let turned := rotate state.a 2 ^^^ rotate state.a 13 ^^^ rotate state.a 22
  let majority := (state.a &&& state.b) ^^^ (state.a &&& state.c) ^^^ (state.b &&& state.c)
  ⟨first + turned + majority, state.a, state.b, state.c, state.d + first, state.e, state.f, state.g⟩

/-- The word that follows sixteen words of the schedule. -/
def nextWord (window : List UInt32) : UInt32 :=
  let early := window.getD 1 0
  let late := window.getD 14 0
  (rotate late 17 ^^^ rotate late 19 ^^^ (late >>> 10)) + window.getD 9 0
    + (rotate early 7 ^^^ rotate early 18 ^^^ (early >>> 3)) + window.getD 0 0

/-- Run the rounds on a window of sixteen words, extending it as it goes. -/
def rounds (state : State) (window : List UInt32) : List UInt32 → State
  | [] => state
  | constant :: rest =>
      rounds (round state constant (window.getD 0 0))
        (window.drop 1 ++ [nextWord window]) rest

/-- Compress one block. -/
def compress (state : State) (block : Bytes) : State :=
  let words := (List.range 16).map fun index =>
    UInt32.ofNat (Bytes.toNat ((block.drop (4 * index)).take 4))
  state.add (rounds state words roundConstants)

/-- Compress a given number of blocks. -/
def compressBlocks (state : State) : Nat → Bytes → State
  | 0, _ => state
  | count + 1, bytes => compressBlocks (compress state (bytes.take 64)) count (bytes.drop 64)

/-- The padding that follows a message of the given length. -/
def padding (length : Nat) : Bytes :=
  0x80 :: List.replicate ((119 - length % 64) % 64) 0 ++ Bytes.ofNat 8 (8 * length)

/-- The SHA-256 hash of a byte string. -/
def hash (message : Bytes) : Bytes :=
  let padded := message ++ padding message.length
  (compressBlocks State.start (padded.length / 64) padded).words.flatMap fun word =>
    Bytes.ofNat 4 word.toNat

/-- The authentication code of a message under a key of at most 64 bytes. -/
def authenticate (key message : Bytes) : Bytes :=
  let block := key ++ List.replicate (64 - key.length) 0
  hash (block.map (· ^^^ 0x5c) ++ hash (block.map (· ^^^ 0x36) ++ message))

end PricePublisher.Sha256
