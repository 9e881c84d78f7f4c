import Artboard.Url.Basic

/-!
# Requests and replies

What is asked of the service and what comes back.  The service is any function
from requests to replies; it may also let a request fail on its way.  Between
whoever asks and the service stands a carrier, which refuses requests that it
cannot write down and sends each of the others once.
-/

namespace Artboard

structure Request where
  /-- What is to be done with what stands at the address. -/
  verb : String
  url : Url
  /-- The token that says who asks. -/
  token : String
  /-- The program that asks. -/
  userAgent : String
  deriving DecidableEq, Repr

/-- The verb of requests that only read. -/
def Request.method : String := "GET"

structure Reply where
  status : Nat
  body : List UInt8
  deriving DecidableEq, Repr

/-- Why a request has no reply. -/
inductive Hindrance where
  /-- The token cannot be written into a request. -/
  | unsendableToken
  /-- The scheme of the address is not one for requests. -/
  | unsupportedScheme
  /-- The address is too long for a request, or the name of its host holds a
  character that no request can name. -/
  | unsendableAddress
  /-- The connection would have to be a secure one. -/
  | secureOnly
  | unknownHost
  | unreachable
  /-- Nothing listens where the service should be. -/
  | refused
  /-- The connection ended before a whole reply was there. -/
  | noReply
  deriving DecidableEq, Repr

/-- The service, as far as requests can tell. -/
abbrev Service := Request → Except Hindrance Reply

/-- What takes requests to the service. -/
structure Carrier where
  /-- Why a request is not sent, if it is not. -/
  refusal? : Request → Option Hindrance

namespace Carrier

/-- The service as it can be reached through a carrier. -/
def reach (carrier : Carrier) (service : Service) : Service := fun request =>
  match carrier.refusal? request with
  | some hindrance => .error hindrance
  | none => service request

/-- Those of some requests that are sent. -/
def sent (carrier : Carrier) (requests : List Request) : List Request :=
  requests.filter fun request => (carrier.refusal? request).isNone

end Carrier

namespace Request

/-- Whether a character may stand in the head of a request. -/
def isSendable (c : Char) : Bool :=
  c == '\t' || (0x20 ≤ c.toNat && c.toNat != 0x7F)

/-- Whether a request can name a host. Quotes and braces may stand in an address,
but not in a request. -/
def isSendableHost : Url.Host → Bool
  | .domain name => !name.toList.any ("\"`\x7b\x7d".toList.contains ·)
  | _ => true

/-- The longest address of a request in bytes. -/
def maxAddressBytes : Nat := 65534

end Request

/-- The carrier that the program comes with. User name and password are no part
of the address that it writes down. -/
def Carrier.standard : Carrier where
  refusal? request :=
    let url := request.url.withoutCredentials
    if url.host.all (· == .domain "") then some .unsupportedScheme
    else if !request.token.toList.all Request.isSendable then some .unsendableToken
    else if ["http", "https"].all (· != url.scheme) then some .unsupportedScheme
    else if !url.host.all Request.isSendableHost ||
        Request.maxAddressBytes < url.render.utf8ByteSize then some .unsendableAddress
    else none

namespace Hindrance

/-- What led to a hindrance, the outermost cause first. User name and password
are not shown. -/
def causes (hindrance : Hindrance) (url : Url) : List String :=
  let place := " for url (" ++ (url.withoutCredentials).render ++ ")"
  let sending := "error sending request" ++ place
  let connecting := [sending, "client error (Connect)"]
  match hindrance with
  | unsendableToken => ["builder error", "failed to parse header value"]
  | unsupportedScheme => ["builder error" ++ place, "URL scheme is not allowed"]
  | unsendableAddress => ["builder error" ++ place, "Parsed Url is not a valid Uri"]
  | secureOnly => connecting ++ ["invalid URL, scheme is not http"]
  | unknownHost =>
    connecting ++ ["dns error",
      "failed to lookup address information: Temporary failure in name resolution"]
  | unreachable => connecting ++ ["tcp connect error", "Network is unreachable (os error 101)"]
  | refused => connecting ++ ["tcp connect error", "Connection refused (os error 111)"]
  | noReply =>
    [sending, "client error (SendRequest)", "connection closed before message completed"]

end Hindrance

end Artboard
