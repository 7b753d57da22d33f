import PricePublisher.Url.Basic

/-!
# Opening connections

A connection is opened to an address, with the authorization that its owner
asks for.  The address is looked at first, then the authorization, and only then
the network is used.

A client can ask for a connection only if the address, or what it holds in place
of one, reads as the authority of a request.
-/

namespace PricePublisher

/-- Why a connection was not opened. -/
inductive DialError where
  | invalidAddress
  /-- The authorization holds a character that a header cannot. -/
  | invalidHeader
  | handshake
deriving DecidableEq, Repr

/-! ## The authority of a request -/

/-- What has been seen of an authority. -/
structure AuthorityScan where
  colons : Nat
  opened : Bool
  closed : Bool
  percent : Bool
  afterAt : Bool
deriving DecidableEq, Repr

namespace AuthorityScan

/-- Nothing has been seen yet. -/
def start : AuthorityScan := ⟨0, false, false, false, false⟩

/-- The characters that may stand in an authority besides letters, digits and `%`. -/
def plainChars : List Char :=
  "!$&'()*+,-.;=_~".toList

/-- Take in a character. -/
def step? (scan : AuthorityScan) (character : Char) : Option AuthorityScan :=
  let moved := { scan with afterAt := false }
  if character = ':' then
    if 8 ≤ scan.colons then none else some { moved with colons := scan.colons + 1 }
  else if character = '[' then
    if scan.percent || scan.opened then none else some { moved with opened := true }
  else if character = ']' then
    if !scan.opened || scan.closed then none
    else some { moved with closed := true, colons := 0, percent := false }
  else if character = '@' then
    some { scan with afterAt := true, colons := 0, percent := false }
  else if character = '%' then some { moved with percent := true }
  else if character.isAlphanum || plainChars.contains character then some moved
  else none

/-- Whether what has been seen is an authority. -/
def isComplete (scan : AuthorityScan) : Bool :=
  scan.opened == scan.closed && scan.colons ≤ 1 && !scan.afterAt && !scan.percent

end AuthorityScan

/-- Whether a text reads as the authority of a request. -/
def isAuthorityText (text : List Char) : Bool :=
  !text.isEmpty
    && ((text.foldlM AuthorityScan.step? AuthorityScan.start).any AuthorityScan.isComplete)

/-- Whether a client can ask for a connection to an address. -/
def Url.isRequestable (url : Url) : Bool :=
  match url.authority with
  | some authority => isAuthorityText (Url.authorityText authority).toList
  | none =>
      !url.rest.startsWith "/" && url.scheme != "file"
        && isAuthorityText (url.scheme ++ ":" ++ url.rest).toList

/-! ## Asking for a connection -/

/-- Whether a header can hold a text. -/
def isHeaderText (text : String) : Bool :=
  (Bytes.ofText text).all fun byte => byte = 9 || (32 ≤ byte && byte != 127)

/-- The header text for a token. -/
def authorizationText (token : String) : String :=
  "Basic " ++ token

/-- A connection that is asked for. -/
structure DialRequest where
  url : Url
  authorization : Option String
deriving DecidableEq, Repr

/-- The token that counts: an empty one does not. -/
def presentToken (token : Option String) : Option String :=
  token.filter fun text => !text.isEmpty

/-- What to ask for to reach an address with a token. -/
def DialRequest.of (address : String) (token : Option String) :
    Except DialError DialRequest :=
  match Url.ofText? address with
  | none => .error .invalidAddress
  | some url =>
      if !url.isRequestable then .error .invalidAddress
      else
        let authorization := (presentToken token).map authorizationText
        if authorization.all isHeaderText then .ok ⟨url, authorization⟩
        else .error .invalidHeader

/-- Whether a scheme is one of those that connections use. -/
def Url.isSocketScheme (url : Url) : Bool :=
  url.scheme == "ws" || url.scheme == "wss"

/-- Open a connection, given which requests the network lets through. -/
def dial (reaches : DialRequest → Bool) (address : String) (token : Option String) :
    Except DialError DialRequest := do
  let request ← DialRequest.of address token
  if request.url.isSocketScheme && reaches request then .ok request else .error .handshake

end PricePublisher
