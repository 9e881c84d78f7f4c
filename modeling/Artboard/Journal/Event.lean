import Artboard.Diagnostic
import Artboard.Json.Basic
import Artboard.Service.ImageFormat

/-!
# Events

What an export reports while it runs.  An event has a level, the part of the
program that reports it, a message, and the values the message is about.
-/

namespace Artboard

/-- How much an event matters. -/
inductive Level where
  | error
  | warn
  | info
  | debug
  | trace
  deriving DecidableEq, Repr

namespace Level

/-- Levels by how much they let through. -/
def rank : Level → Nat
  | error => 1
  | warn => 2
  | info => 3
  | debug => 4
  | trace => 5

def name : Level → String
  | error => "ERROR"
  | warn => "WARN"
  | info => "INFO"
  | debug => "DEBUG"
  | trace => "TRACE"

end Level

inductive Event where
  | fetchingFile (key apiBase : String)
  | requesting (url : String)
  | fetchedFile (name version : String)
  | fetchedNodes (requested found : Nat)
  | convertingNode (name shape : String)
  | foundImages (count : Nat)
  | fetchingImages (format : ImageFormat)
  | missingImages (requested resolved : Nat)
  | resolvedImages (count : Nat) (format : ImageFormat)
  | diagnosed (diagnostic : Diagnostic)
  | converted (root : String) (classes fonts diagnostics : Nat)
  | finishedWithDiagnostics (count : Nat)
  | complete (path : String)
  | saved (path : String)
  deriving DecidableEq, Repr

namespace Event

def level : Event → Level
  | requesting .. | fetchedFile .. | fetchedNodes .. | fetchingImages .. | resolvedImages ..
  | converted .. => .debug
  | missingImages .. | diagnosed .. | finishedWithDiagnostics .. => .warn
  | fetchingFile .. | convertingNode .. | foundImages .. | complete .. | saved .. => .info

/-- The part of the program that reports an event. -/
def target : Event → String
  | fetchingFile .. | convertingNode .. | foundImages .. | fetchingImages ..
  | finishedWithDiagnostics .. | complete .. => "design_cli"
  | requesting .. | fetchedFile .. | fetchedNodes .. | missingImages .. | resolvedImages .. =>
    "design_fetch::client"
  | diagnosed .. | converted .. => "design_core::emit"
  | saved .. => "design_markup"

def message : Event → String
  | fetchingFile .. => "Fetching design file"
  | requesting .. => "GET"
  | fetchedFile .. => "Fetched design file"
  | fetchedNodes .. => "Fetched file nodes"
  | convertingNode .. => "Converting node"
  | foundImages .. => "Found image/vector nodes"
  | fetchingImages .. => "Fetching image URLs"
  | missingImages .. => "Some image renders were not returned"
  | resolvedImages .. => "Resolved image URLs"
  | diagnosed diagnostic => diagnostic.message
  | converted .. => "Converted design tree"
  | finishedWithDiagnostics .. => "Conversion finished with diagnostics"
  | complete .. => "Conversion complete"
  | saved path => "Saved to " ++ path

/-- The values that an event is about, by name. -/
def values : Event → List (String × Json)
  | fetchingFile key apiBase => [("file_key", .text key), ("api_base", .text apiBase)]
  | requesting url => [("url", .text url)]
  | fetchedFile name version => [("file", .text name), ("version", .text version)]
  | fetchedNodes requested found =>
    [("requested", .integer requested), ("found", .integer found)]
  | convertingNode name shape => [("node", .text name), ("node_type", .text shape)]
  | foundImages count | finishedWithDiagnostics count => [("count", .integer count)]
  | fetchingImages format => [("format", .text format.name)]
  | missingImages requested resolved =>
    [("requested", .integer requested), ("resolved", .integer resolved)]
  | resolvedImages count format => [("count", .integer count), ("format", .text format.name)]
  | converted root classes fonts diagnostics =>
    [("root", .text root), ("classes", .integer classes), ("fonts", .integer fonts),
      ("diagnostics", .integer diagnostics)]
  | complete path => [("path", .text path)]
  | diagnosed _ | saved _ => []

/-- The names of the fields of an event, of which the message is one. -/
def fieldNames (event : Event) : List String :=
  "message" :: event.values.map (·.1)

def toJson (event : Event) : Json :=
  .object [
    ("level", .text event.level.name),
    ("fields", .object (("message", .text event.message) :: event.values)),
    ("target", .text event.target)]

end Event

end Artboard
