import PricePublisher.Text.Split
import PricePublisher.Url.Host

/-!
# Addresses

An address has a scheme and, under most schemes, an authority: the host, perhaps
with a port and with credentials in front.  What follows the authority is kept
as it is written.

Blanks and controls around an address and line breaks within it do not count.
-/

namespace PricePublisher

/-- Who answers under an address. -/
structure Authority where
  /-- What stands before the `@`, already encoded. -/
  credentials : Option String
  host : Host
  /-- The port, unless it is the usual one of the scheme. -/
  port : Option Nat
deriving DecidableEq, Repr

/-- An address. -/
structure Url where
  scheme : String
  authority : Option Authority
  rest : String
deriving DecidableEq, Repr

namespace Url

/-! ## Schemes -/

/-- How the text after a scheme is read. -/
inductive SchemeKind where
  /-- There has to be a host, and either slash divides. -/
  | web (defaultPort : Nat)
  | file
  | other
deriving DecidableEq, Repr

/-- The kind of a scheme. -/
def SchemeKind.ofScheme : String → SchemeKind
  | "http" => .web 80
  | "ws" => .web 80
  | "https" => .web 443
  | "wss" => .web 443
  | "ftp" => .web 21
  | "file" => .file
  | _ => .other

/-- Whether a character may stand in a scheme after its first letter. -/
def isSchemeChar (character : Char) : Bool :=
  character.isAlphanum || character = '+' || character = '-' || character = '.'

/-- The scheme of an address in lower case, and what follows it. -/
def splitScheme? (text : List Char) : Option (String × List Char) := do
  let (scheme, rest) ← Text.splitAtFirst? ':' text
  match scheme with
  | first :: more =>
      if first.isAlpha && more.all isSchemeChar then
        some (String.ofList (scheme.map Char.toLower), rest)
      else none
  | [] => none

/-! ## Authorities -/

/-- Whether a character is written encoded in credentials. -/
def escapesInCredentials (character : Char) : Bool :=
  (" \"#<>?\x60\x7b\x7d/:;=@[\\]^|").toList.contains character

/-- Credentials as they are written: a name, and after a colon a password. -/
def encodeCredentials (text : List Char) : String :=
  match Text.splitAtFirst? ':' text with
  | none => String.ofList (percentEncode escapesInCredentials text)
  | some (name, password) =>
      String.ofList (percentEncode escapesInCredentials name ++ ':'
        :: percentEncode escapesInCredentials password)

/-- Split the host from a port: at the first colon outside of brackets. -/
def splitPort (insideBrackets : Bool) : List Char → List Char × Option (List Char)
  | [] => ([], none)
  | character :: rest =>
      if character = ':' && !insideBrackets then ([], some rest)
      else
        let inside := if character = '[' then true
          else if character = ']' then false else insideBrackets
        let (host, port) := splitPort inside rest
        (character :: host, port)

/-- The port that digits denote; no digits leave it open. -/
def readPort? : Option (List Char) → Option (Option Nat)
  | none => some none
  | some [] => some none
  | some digits => do
      let port ← Digits.toNat? digits
      if port < 65536 then some (some port) else none

/-- Read an authority; the host may be missing where nothing else is given. -/
def readAuthority? (kind : SchemeKind) (text : List Char) : Option (Option Authority) := do
  let (credentials, location) := match Text.splitAtLast? '@' text with
    | none => (none, text)
    | some (credentials, location) => (some (encodeCredentials credentials), location)
  let (hostText, portText) := splitPort false location
  if hostText.isEmpty then
    if kind = .other && credentials.isNone && portText.isNone then some none else none
  else
    let port ← readPort? portText
    match kind with
    | .web usual =>
        let host ← Host.ofDomain? hostText
        some (some ⟨credentials, host, if port = some usual then none else port⟩)
    | _ =>
        let host ← Host.ofName? hostText
        some (some ⟨credentials, host, port⟩)

/-- Whether a character ends an authority. -/
def endsAuthority (kind : SchemeKind) (character : Char) : Bool :=
  character = '/' || character = '?' || character = '#'
    || (character = '\\' && kind != .other)

/-- Read what follows the scheme and two slashes. -/
def afterSlashes? (kind : SchemeKind) (scheme : String) (text : List Char) : Option Url := do
  let inside := fun character => !endsAuthority kind character
  let authority ← readAuthority? kind (text.takeWhile inside)
  some ⟨scheme, authority, String.ofList (text.dropWhile inside)⟩

/-- Whether a text is a letter for a drive. -/
def isDrive : List Char → Bool
  | [letter, divider] => letter.isAlpha && (divider = ':' || divider = '|')
  | _ => false

/-- Read what follows the scheme of a file. -/
def fileAddress? (text : List Char) : Option Url :=
  let isSlash := fun character => character = '/' || character = '\\'
  match text with
  | first :: second :: rest =>
      if isSlash first && isSlash second then do
        let inside := fun character => !endsAuthority .file character
        let hostText := rest.takeWhile inside
        let path := String.ofList (rest.dropWhile inside)
        if hostText.isEmpty || isDrive hostText then some ⟨"file", none, path⟩
        else
          let host ← Host.ofDomain? hostText
          if host = .domain "localhost" then some ⟨"file", none, path⟩
          else some ⟨"file", some ⟨none, host, none⟩, path⟩
      else some ⟨"file", none, String.ofList text⟩
  | _ => some ⟨"file", none, String.ofList text⟩

/-! ## Reading and writing addresses -/

/-- Whether a character around an address does not count. -/
def isPadding (character : Char) : Bool :=
  character.toNat ≤ 0x20

/-- Whether a character within an address does not count. -/
def isBreak (character : Char) : Bool :=
  character = '\t' || character = '\n' || character = '\r'

/-- The characters of an address that count. -/
def countedChars (text : String) : List Char :=
  let front := text.toList.dropWhile isPadding
  ((front.reverse.dropWhile isPadding).reverse).filter fun character => !isBreak character

/-- Read an address. -/
def ofText? (text : String) : Option Url := do
  let (scheme, rest) ← splitScheme? (countedChars text)
  let kind := SchemeKind.ofScheme scheme
  match kind with
  | .web _ =>
      afterSlashes? kind scheme
        (rest.dropWhile fun character => character = '/' || character = '\\')
  | .file => fileAddress? rest
  | .other =>
      match rest with
      | '/' :: '/' :: after => afterSlashes? kind scheme after
      | _ =>
          some ⟨scheme, none, String.ofList (percentEncode (fun _ => false) rest)⟩

/-- An authority as it is written. -/
def authorityText (authority : Authority) : String :=
  (match authority.credentials with
    | none => ""
    | some credentials => credentials ++ "@")
    ++ authority.host.toText
    ++ (match authority.port with
      | none => ""
      | some port => ":" ++ Nat.repr port)

end Url

end PricePublisher
