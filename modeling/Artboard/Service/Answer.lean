import Artboard.Json.Value
import Artboard.Service.Error
import Artboard.Text.Blank
import Artboard.Text.Utf8
import Artboard.Wire.File

/-!
# Answers

What a reply says.  A reply whose status is not one of success is an error
whatever its body says; otherwise the body must be what was asked for.
-/

namespace Artboard

open Json (Codec Record)

/-- Nodes that were asked for by id. A node that is not in the file is null. -/
structure NodesAnswer where
  nodes : List (String × Option Node)

/-- Addresses of images that were asked for by id. An image that could not be
drawn is null. -/
structure ImagesAnswer where
  /-- Why nothing was drawn. -/
  problem : Option String
  images : List (String × Option String)
  deriving DecidableEq, Repr

namespace Wire

/-- A node comes inside an entry about it. -/
def nodeEntry : Record Node where
  name := "NodeEntry"
  blank := Node.ofShape "" "" .unknown
  fields := [node.field "document" true id fun v _ => v]

/-- Nodes come by id. -/
def nodesAnswer : Record NodesAnswer where
  name := "NodesResponse"
  blank := ⟨[]⟩
  fields := [
    nodeEntry.codec.nullable.entries.field "nodes" true (·.nodes) fun v a => { a with nodes := v }]

/-- Images come by id. -/
def imagesAnswer : Record ImagesAnswer where
  name := "ImagesResponse"
  blank := ⟨none, []⟩
  fields := [
    Codec.text.nullable.field "err" false (·.problem) fun v a => { a with problem := v },
    Codec.text.nullable.entries.field "images" false (·.images)
      fun v a => { a with images := v }]

end Wire

/-- The entries that are not null. -/
def presentEntries (entries : List (String × Option α)) : List (String × α) :=
  entries.filterMap fun entry => entry.2.map fun value => (entry.1, value)

namespace Reply

/-- Whether a status says that the request was met. -/
def isSuccess (reply : Reply) : Bool :=
  200 ≤ reply.status && reply.status < 300

def hasStatus (reply : Reply) : Bool :=
  100 ≤ reply.status && reply.status < 1000

/-- The text of the body. Some replies have none. -/
def text (reply : Reply) : String :=
  if reply.status == 204 || reply.status == 304 then ""
  else String.ofList (Text.ofBytes reply.body)

/-- The message in the body of a refusal: its member `err` or `message` if that
is a text, else the whole body without outer blanks. -/
def refusalMessage (body : String) : String :=
  let told := match Json.parse body with
    | .ok value =>
      ["err", "message"].findSome? fun name => (value.member? name).bind Json.text?
    | .error _ => none
  told.getD (String.ofList (Text.trim body.toList))

/-- What the reply says, read by a codec. -/
def answer (codec : Codec α) (reply : Reply) : Except ServiceError α :=
  if reply.isSuccess then
    match codec.parse reply.text with
    | .ok value => .ok value
    | .error fault => .error (.payload reply.text fault)
  else .error (.status reply.status (refusalMessage reply.text))

end Reply

end Artboard
