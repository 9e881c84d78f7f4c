import Artboard.Page.Walk
import Artboard.Service.Answer
import Artboard.Service.Session
import Artboard.Url.Parser

/-!
# Clients

A client knows where the service is and who asks.  It offers the three questions
that the service answers about a file.
-/

namespace Artboard

structure Client where
  apiBase : Url
  token : String
  deriving DecidableEq, Repr

namespace Client

/-- Where the service is, unless it is said to be elsewhere. -/
def standardApiBase : String := "https://api.figma.com/v1"

/-- The name and version under which this program asks. -/
def userAgent : String := "design-markup/0.1.0"

/-- A client for the service at an address. There must be a token that is not
blank; only then the address is looked at. -/
def ofSettings (apiBase : String) (token : Option String) : Except ServiceError Client :=
  match token.filter fun token => !token.toList.all Text.isBlank with
  | none => .error .missingToken
  | some token =>
    match Url.parse apiBase with
    | .error refusal => .error (.invalidUrl apiBase refusal)
    | .ok url => .ok ⟨url, token⟩

/-- What is shown of a client: not its token. -/
def describe (client : Client) : String :=
  "DesignClient \x7b api_base: " ++ Text.quoted client.apiBase.render ++ ", .. \x7d"

/-- The request for an address below the service's own. -/
def request (client : Client) (url : Url) : Request :=
  ⟨Request.method, url, client.token, userAgent⟩

/-- Ask once for what stands at an address. -/
def send (client : Client) (url : Url) : Attempt ServiceError Reply := do
  Attempt.note (.requesting url.render)
  match ← Attempt.ask (client.request url) with
  | .error hindrance => throw (.transport url hindrance)
  | .ok reply => if reply.hasStatus then return reply else throw (.transport url .noReply)

/-- Ask for a value that a codec reads. -/
def get (client : Client) (codec : Json.Codec α) (url : Url) : Attempt ServiceError α := do
  Attempt.ofExcept ((← client.send url).answer codec)

def fileUrl (client : Client) (key : String) : Url :=
  client.apiBase.extend ["files", key]

def nodesUrl (client : Client) (key : String) (ids : List String) : Url :=
  (client.apiBase.extend ["files", key, "nodes"]).addPair "ids" (",".intercalate ids)

def imagesUrl (client : Client) (key : String) (ids : List String) (format : ImageFormat) : Url :=
  ((client.apiBase.extend ["images", key]).addPair "ids" (",".intercalate ids)).addPair
    "format" format.name

def getFile (client : Client) (key : String) : Attempt ServiceError DesignFile := do
  let file ← client.get Wire.file (client.fileUrl key)
  Attempt.note (.fetchedFile file.name file.version)
  return file

/-- Ask for nodes of a file by id. Ids that the file does not have are missing
from the answer. -/
def getNodes (client : Client) (key : String) (ids : List String) :
    Attempt ServiceError (List (String × Node)) := do
  let answer ← client.get Wire.nodesAnswer.codec (client.nodesUrl key ids)
  let nodes := presentEntries answer.nodes
  Attempt.note (.fetchedNodes ids.length nodes.length)
  return nodes

/-- Ask for images of nodes by id. Nodes that could not be drawn are missing from
the answer. To ask for no image takes no request. -/
def getImages (client : Client) (key : String) (ids : List String) (format : ImageFormat) :
    Attempt ServiceError ImageMap := do
  if ids.isEmpty then return []
  let answer ← client.get Wire.imagesAnswer.codec (client.imagesUrl key ids format)
  match answer.problem with
  | some problem => throw (.unexpected problem)
  | none =>
    let images := presentEntries answer.images
    if images.length < ids.length then
      Attempt.note (.missingImages ids.length images.length)
    Attempt.note (.resolvedImages images.length format)
    return images

end Client

end Artboard
