import PricePublisher.Bytes.Basic

/-!
# The Keccak-256 hash

The sponge with a state of 25 lanes of 64 bits.  Blocks of 136 bytes are added
to the state, which is permuted after each.  The message is padded with a byte
`0x01`, zeros, and a last byte whose top bit is set.
-/

namespace PricePublisher.Keccak

/-- The 25 lanes; lane `x + 5 * y` stands in column `x` and row `y`. -/
abbrev State := Vector UInt64 25

/-- The lane in a column and a row. -/
def lane (state : State) (column row : Nat) : UInt64 :=
  (state[5 * (row % 5) + column % 5]?).getD 0

/-- Rotate a lane to the left. -/
def rotate (word : UInt64) (distance : Nat) : UInt64 :=
  if distance = 0 then word
  else (word <<< UInt64.ofNat distance) ||| (word >>> UInt64.ofNat (64 - distance))

/-- How far each lane is rotated. -/
def rotations : List Nat := [
  0, 1, 62, 28, 27,
  36, 44, 6, 55, 20,
  3, 10, 43, 25, 39,
  41, 45, 15, 21, 8,
  18, 2, 61, 56, 14]

/-- The constants that are added in the 24 rounds. -/
def roundConstants : List UInt64 := [
  0x0000000000000001, 0x0000000000008082, 0x800000000000808a, 0x8000000080008000,
  0x000000000000808b, 0x0000000080000001, 0x8000000080008081, 0x8000000000008009,
  0x000000000000008a, 0x0000000000000088, 0x0000000080008009, 0x000000008000000a,
  0x000000008000808b, 0x800000000000008b, 0x8000000000008089, 0x8000000000008003,
  0x8000000000008002, 0x8000000000000080, 0x000000000000800a, 0x800000008000000a,
  0x8000000080008081, 0x8000000000008080, 0x0000000080000001, 0x8000000080008008]

/-- The parity of a column. -/
def parity (state : State) (column : Nat) : UInt64 :=
  lane state column 0 ^^^ lane state column 1 ^^^ lane state column 2
    ^^^ lane state column 3 ^^^ lane state column 4

/-- Add to each lane the parities of the two columns beside it. -/
def mixColumns (state : State) : State :=
  let parities := Vector.ofFn (n := 5) fun column => parity state column.val
  let parityOf := fun column : Nat => (parities[column % 5]?).getD 0
  Vector.ofFn fun index =>
    lane state index.val (index.val / 5)
      ^^^ parityOf (index.val + 4) ^^^ rotate (parityOf (index.val + 1)) 1

/-- Rotate each lane and move it to its new place. -/
def moveLanes (state : State) : State :=
  Vector.ofFn fun index =>
    let column := (index.val % 5 + 3 * (index.val / 5)) % 5
    let row := index.val % 5
    rotate (lane state column row) (rotations.getD (5 * row + column) 0)

/-- Combine each lane with the two that follow it in its row. -/
def combineRows (state : State) : State :=
  Vector.ofFn fun index =>
    let row := index.val / 5
    lane state index.val row
      ^^^ (~~~ (lane state (index.val + 1) row) &&& lane state (index.val + 2) row)

/-- Add a constant to the first lane. -/
def addConstant (state : State) (constant : UInt64) : State :=
  state.set 0 (lane state 0 0 ^^^ constant)

/-- One round of the permutation. -/
def round (state : State) (constant : UInt64) : State :=
  addConstant (combineRows (moveLanes (mixColumns state))) constant

/-- The permutation of the state. -/
def permute (state : State) : State :=
  roundConstants.foldl round state

/-- The length of a block. -/
def blockLength : Nat := 136

/-- The padding that follows a message of the given length. -/
def padding (length : Nat) : Bytes :=
  match blockLength - length % blockLength with
  | 1 => [0x81]
  | missing => 0x01 :: List.replicate (missing - 2) 0 ++ [0x80]

/-- Eight bytes, least significant first, as a lane. -/
def laneOfBytes (bytes : Bytes) : UInt64 :=
  bytes.foldr (fun byte word => (word <<< 8) ||| byte.toUInt64) 0

/-- The bytes of a lane, least significant first. -/
def bytesOfLane (word : UInt64) : Bytes :=
  (List.range 8).map fun index => (word >>> UInt64.ofNat (8 * index)).toUInt8

/-- Add a block to the state and permute. -/
def absorb (state : State) (block : Bytes) : State :=
  permute (Vector.ofFn fun index =>
    lane state index.val (index.val / 5)
      ^^^ laneOfBytes ((block.drop (8 * index.val)).take 8))

/-- Absorb a given number of blocks. -/
def absorbBlocks (state : State) : Nat → Bytes → State
  | 0, _ => state
  | count + 1, bytes =>
      absorbBlocks (absorb state (bytes.take blockLength)) count (bytes.drop blockLength)

/-- The Keccak-256 hash of a byte string. -/
def hash (message : Bytes) : Bytes :=
  let padded := message ++ padding message.length
  let state := absorbBlocks (Vector.replicate 25 0) (padded.length / blockLength) padded
  (state.toList.take 4).flatMap bytesOfLane

end PricePublisher.Keccak
