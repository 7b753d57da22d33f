import PricePublisher.Connection.Dial

/-!
# Requests and replies

A request names a method and an address and may carry an authorization and a
body.  The network answers it with a reply or not at all.  A request that cannot
be written is not sent.
-/

namespace PricePublisher

/-- What a request asks for. -/
inductive HttpMethod where
  | get
  | head
  | post
  /-- Any other method. -/
  | other
deriving DecidableEq, Repr

namespace HttpMethod

/-- The method of a given name. -/
def ofName : String → HttpMethod
  | "GET" => .get
  | "HEAD" => .head
  | "POST" => .post
  | _ => .other

end HttpMethod

/-- A request. -/
structure HttpRequest where
  method : HttpMethod
  address : String
  authorization : Option String
  body : Option String
deriving DecidableEq, Repr

/-- A reply. -/
structure HttpReply where
  status : Nat
  body : String
deriving DecidableEq, Repr

/-- Whether a reply says that the request failed. -/
def HttpReply.isFailure (reply : HttpReply) : Bool :=
  400 ≤ reply.status && reply.status < 600

/-- Whether a reply says that the request succeeded. -/
def HttpReply.isSuccess (reply : HttpReply) : Bool :=
  200 ≤ reply.status && reply.status < 300

/-- What answers requests. -/
structure Network where
  reply? : HttpRequest → Option HttpReply

/-- The network that answers nothing. -/
def Network.unreachable : Network := ⟨fun _ => none⟩

/-- Whether a request can be written. -/
def HttpRequest.isSendable (request : HttpRequest) : Bool :=
  (Url.ofText? request.address).isSome && request.authorization.all isHeaderText

/-- Send a request. -/
def Network.send (network : Network) (request : HttpRequest) : Option HttpReply :=
  if request.isSendable then network.reply? request else none

/-- A base address without the slashes at its end. -/
def withoutTrailingSlashes (address : String) : String :=
  String.ofList ((address.toList.reverse.dropWhile (· == '/')).reverse)

end PricePublisher
