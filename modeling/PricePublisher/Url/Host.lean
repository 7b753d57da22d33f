import PricePublisher.Decimal.Digits
import PricePublisher.Text.Split
import PricePublisher.Url.Percent
import PricePublisher.Url.Punycode

/-!
# Hosts

A host is a domain name, a number of either version of the internet protocol, or
a name that only the scheme understands.  A name whose last part is a number has
to be a number of version 4, in up to four parts of any usual base.
-/

namespace PricePublisher

/-- The host of an address. -/
inductive Host where
  | domain (name : String)
  | version4 (number : Nat)
  /-- Eight groups of 16 bits. -/
  | version6 (groups : List Nat)
  /-- A name that is kept as it is written. -/
  | named (name : String)
deriving DecidableEq, Repr

namespace Host

/-! ## Numbers of version 4 -/

/-- The number denoted by digits of a given base, if there are only such digits. -/
def numberIn? (base : Nat) (digits : List Char) : Option Nat :=
  digits.foldlM (fun number character => do
    let digit ← if Hex.isDigit character then
        (Bytes.ofText (String.singleton character)).head?.bind Hex.value?
      else none
    if digit < base then some (number * base + digit) else none) 0

/-- The number denoted by a part in its own base. -/
def partNumber? : List Char → Option Nat
  | [] => none
  | '0' :: 'x' :: digits => numberIn? 16 digits
  | '0' :: 'X' :: digits => numberIn? 16 digits
  | ['0'] => some 0
  | '0' :: digits => numberIn? 8 digits
  | digits => numberIn? 10 digits

/-- The parts of a name between its dots, without an empty last one. -/
def parts (name : List Char) : List (List Char) :=
  let all := Text.splitAtEach '.' name
  match all.getLast? with
  | some [] => if all.length = 1 then all else all.dropLast
  | _ => all

/-- Whether the last part of a name is a number. -/
def endsInNumber (name : List Char) : Bool :=
  match (parts name).getLast? with
  | none => false
  | some [] => false
  | some part => part.all Char.isDigit || (partNumber? part).isSome

/-- The number that parts denote, each but the last of which is one byte. -/
def joinParts? : List Nat → Option Nat
  | [] => none
  | numbers =>
      let leading := numbers.dropLast
      let last := numbers.getLast?.getD 0
      if 4 < numbers.length || leading.any (fun number => 255 < number)
          || Nat.pow 256 (5 - numbers.length) ≤ last then none
      else
        some (leading.foldl (fun number byte => 256 * number + byte) 0
          * Nat.pow 256 (5 - numbers.length) + last)

/-- The number of version 4 that a name denotes. -/
def version4? (name : List Char) : Option Nat := do
  joinParts? (← (parts name).mapM partNumber?)

/-- A number of version 4 as four bytes. -/
def version4Text (number : Nat) : String :=
  ".".intercalate ((Bytes.ofNat 4 number).map fun byte => Nat.repr byte.toNat)

/-! ## Numbers of version 6 -/

/-- A group of up to four hexadecimal digits. -/
def group? (digits : List Char) : Option Nat :=
  if digits.isEmpty || 4 < digits.length then none else numberIn? 16 digits

/-- A byte in decimal digits without leading zeros. -/
def byte? (digits : List Char) : Option Nat := do
  let number ← Digits.toNat? digits
  if 255 < number || (digits.head? == some '0' && 1 < digits.length) then none
  else some number

/-- The two groups that a number of version 4 stands for at the end. -/
def lastGroups? (part : List Char) : Option (List Nat) :=
  if part.contains '.' then do
    match ← (Text.splitAtEach '.' part).mapM byte? with
    | [first, second, third, fourth] =>
        some [256 * first + second, 256 * third + fourth]
    | _ => none
  else (group? part).map fun group => [group]

/-- The groups of a text between colons. -/
def groups? (text : List Char) : Option (List Nat) :=
  if text.isEmpty then some []
  else do
    let all := Text.splitAtEach ':' text
    let leading ← all.dropLast.mapM group?
    let last ← lastGroups? (all.getLast?.getD [])
    return leading ++ last

/-- The text before and after the first two colons in a row. -/
def splitAtGap? : List Char → Option (List Char × List Char)
  | ':' :: ':' :: rest => some ([], rest)
  | character :: rest =>
      (splitAtGap? rest).map fun (before, after) => (character :: before, after)
  | [] => none

/-- The groups that a text denotes, of which zeros may be left out at one place. -/
def version6? (text : List Char) : Option (List Nat) :=
  match splitAtGap? text with
  | none => do
      let groups ← groups? text
      if groups.length = 8 then some groups else none
  | some (before, after) => do
      let leading ← if before.contains '.' then none else groups? before
      let trailing ← groups? after
      let count := leading.length + trailing.length
      if count ≤ 7 then some (leading ++ List.replicate (8 - count) 0 ++ trailing)
      else none

/-- A group without leading zeros. -/
def groupText (group : Nat) : String :=
  String.ofList (Nat.toDigits 16 group)

/-! ## Reading hosts -/

/-- Read a text in brackets as a number of version 6. -/
def bracketed? (text : List Char) : Option Host :=
  if text.getLast? == some ']' then (version6? text.dropLast).map .version6 else none

/-- Whether a character may stand in no host. -/
def isForbidden (character : Char) : Bool :=
  ("\x00\t\n\r #/:<>?@[\\]^|").toList.contains character

/-- Whether a character may not stand in a domain name. -/
def isForbiddenInDomain (character : Char) : Bool :=
  isForbidden character || character.toNat < 0x20 || character = '%' || character = '\x7f'

/-- Read the host of an address with a scheme that uses domain names. -/
def ofDomain? (text : List Char) : Option Host :=
  match text with
  | '[' :: inner => bracketed? inner
  | _ => do
      let bytes := Url.percentDecode (Bytes.ofText (String.ofList text))
      let decoded ← String.fromUTF8? ⟨bytes.toArray⟩
      let labels := (Text.splitAtEach '.' decoded.toList).map Url.Punycode.label
      let name := ['.'].intercalate labels
      if name.isEmpty || name.any isForbiddenInDomain then none
      else if endsInNumber name then (version4? name).map .version4
      else some (.domain (String.ofList name))

/-- Read the host of an address with any other scheme. -/
def ofName? (text : List Char) : Option Host :=
  match text with
  | '[' :: inner => bracketed? inner
  | _ =>
      if text.any isForbidden then none
      else some (.named (String.ofList (Url.percentEncode (fun _ => false) text)))

/-- A host as it is written in an address. -/
def toText : Host → String
  | .domain name => name
  | .version4 number => version4Text number
  | .version6 groups => "[" ++ ":".intercalate (groups.map groupText) ++ "]"
  | .named name => name

end Host

end PricePublisher
