import PricePublisher.Bytes.Hex

/-!
# Percent encoding

Characters that may not stand in a part of an address are written as `%` and two
hexadecimal digits for each byte of their encoding.  A query has its own rule:
there a blank is written as `+`.
-/

namespace PricePublisher.Url

/-- A byte as `%` and two digits. -/
def percentByte (byte : UInt8) : List Char :=
  '%' :: (Hex.encodeChars [byte]).map Char.toUpper

/-- A character as the percent encoding of its bytes. -/
def percentChar (character : Char) : List Char :=
  (Bytes.ofText (String.singleton character)).flatMap percentByte

/-- Whether a character is a control or lies outside of ASCII. -/
def isControlOrForeign (character : Char) : Bool :=
  character.toNat < 0x20 || 0x7E < character.toNat

/-- Encode the characters that a test selects, and all controls and foreign ones. -/
def percentEncode (escapes : Char → Bool) (text : List Char) : List Char :=
  text.flatMap fun character =>
    if isControlOrForeign character || escapes character then percentChar character
    else [character]

/-- Put back the bytes that are percent encoded. -/
def percentDecode : Bytes → Bytes
  | [] => []
  | byte :: upper :: lower :: rest =>
      match Hex.value? upper, Hex.value? lower with
      | some high, some low =>
          if byte = 0x25 then UInt8.ofNat (16 * high + low) :: percentDecode rest
          else byte :: percentDecode (upper :: lower :: rest)
      | _, _ => byte :: percentDecode (upper :: lower :: rest)
  | byte :: rest => byte :: percentDecode rest

/-- Whether a character stands for itself in a query. -/
def isPlainInQuery (character : Char) : Bool :=
  character.isAlphanum || "*-._".toList.contains character

/-- A value as it is written in a query. -/
def queryEncode (value : String) : String :=
  String.ofList <| value.toList.flatMap fun character =>
    if isPlainInQuery character then [character]
    else if character = ' ' then ['+']
    else percentChar character

end PricePublisher.Url
