import PricePublisher.Hash.Keccak
import PricePublisher.Signing.PriceWord

/-!
# Signed messages

What is signed for a price is the hash of four parts without separators: the
20 bytes of the publisher's address, the UTF-8 bytes of the asset's name, the
time in whole seconds and the price, the latter two as words of 32 bytes.  The
signature is made over that hash once it has been wrapped as a personal message
of 32 bytes.
-/

namespace PricePublisher.Payload

/-- How many nanoseconds a second has. -/
def nanosecondsPerSecond : Int := 1000000000

/-- The whole seconds of a time in nanoseconds, cut off towards zero. -/
def seconds (timestamp : Int) : Int :=
  timestamp.tdiv nanosecondsPerSecond

/-- The bytes of a message whose price is already a word. -/
def assemble (address : Bytes) (asset : String) (timestamp : Int) (priceWord : Bytes) :
    Bytes :=
  address ++ Bytes.ofText asset ++ PriceWord.ofInt (seconds timestamp) ++ priceWord

/-- The bytes of the message for a price text. -/
def bytes (address : Bytes) (asset : String) (timestamp : Int) (price : String) :
    Except PriceTextError Bytes :=
  (PriceWord.ofText price).map (assemble address asset timestamp)

/-- The hash that is published with a signature. -/
def hash (address : Bytes) (asset : String) (timestamp : Int) (price : String) :
    Except PriceTextError Bytes :=
  (bytes address asset timestamp price).map Keccak.hash

/-- What precedes a hash in a personal message: a mark, a title and the length. -/
def personalPrefix : Bytes :=
  0x19 :: Bytes.ofText "Ethereum Signed Message:\n32"

/-- The hash that is signed for a published hash. -/
def personalHash (published : Bytes) : Bytes :=
  Keccak.hash (personalPrefix ++ published)

end PricePublisher.Payload
