import Artboard.Url.Host

/-!
# Addresses

An address with its parts taken apart.  The path is a list of segments, each as
it is written; the list is empty when nothing follows the host.
-/

namespace Artboard

structure Url where
  scheme : String
  username : String
  password : String
  host : Option Url.Host
  /-- The port, unless it is the usual one of the scheme. -/
  port : Option Nat
  path : List String
  query : Option String
  fragment : Option String
  deriving DecidableEq, Repr

namespace Url

/-- The usual port of a special scheme. -/
def defaultPort? (scheme : String) : Option Nat :=
  [("http", 80), ("https", 443), ("ws", 80), ("wss", 443), ("ftp", 21)].lookup scheme

/-- Schemes whose addresses always have a host or are local files. -/
def isSpecial (scheme : String) : Bool :=
  scheme == "file" || (defaultPort? scheme).isSome

/-- The path as it is written. -/
def pathText (url : Url) : String :=
  String.join (url.path.map ("/" ++ ·))

/-- User name and password as they are written. -/
def credentials (url : Url) : String :=
  let password := if url.password.isEmpty then "" else ":" ++ url.password
  if url.username.isEmpty && url.password.isEmpty then "" else url.username ++ password ++ "@"

/-- What stands between scheme and path. Without a host, a path that would look
like one is kept apart by a dot. -/
def authority (url : Url) : String :=
  match url.host with
  | some host =>
    "//" ++ url.credentials ++ host.render ++
      (url.port.map fun port => ":" ++ toString port).getD ""
  | none =>
    match url.path with
    | "" :: _ :: _ => "/."
    | _ => ""

/-- A part behind its mark, if there is one. -/
def marked (mark : String) (part : Option String) : String :=
  match part with
  | some text => mark ++ text
  | none => ""

def render (url : Url) : String :=
  url.scheme ++ ":" ++ url.authority ++ url.pathText ++ marked "?" url.query ++
    marked "#" url.fragment

/-- The address without user name and password. -/
def withoutCredentials (url : Url) : Url :=
  { url with username := "", password := "" }

/-- What is asked of the host: path and query. -/
def target (url : Url) : String :=
  url.pathText ++ marked "?" url.query

/-- The path without an empty segment at its end. The path that is nothing but
one empty segment stays as it is. -/
def dropTrailingSlash (path : List String) : List String :=
  if path.length > 1 && path.getLast? == some "" then path.dropLast else path

/-- Characters that are lost wherever they stand in an address. -/
def isLost (c : Char) : Bool :=
  c == '\t' || c == '\n' || c == '\r'

/-- A text as one segment. -/
def encodeSegment (scheme : String) (segment : String) : String :=
  let set := if isSpecial scheme then inSpecialSegmentSet else inSegmentSet
  String.ofList (percentEncode set (segment.toList.filter (!isLost ·)))

/-- Whether a segment names a drive: a letter with a colon, or with a bar that is
written for one. Behind it there may be a backslash. -/
def namesDrive (segment : String) : Bool :=
  match segment.toList with
  | letter :: mark :: rest =>
    letter.isAlpha && (mark == ':' || mark == '|') && rest.head?.all (· == '\\')
  | _ => false

/-- The path one place up. A drive is not left. -/
def leaveSegment (path : List String) : List String :=
  if path.getLast?.any namesDrive then path else path.dropLast

/-- The path with one more segment. Segments that mean a place in the path
rather than a name are left out. One that comes to mean such a place only when
lost characters are gone is followed there. -/
def pushSegment (scheme : String) (path : List String) (segment : String) : List String :=
  if segment == "." || segment == ".." then path
  else
    let written := encodeSegment scheme segment
    let path := if path == [""] then [] else path
    if written == "." then path ++ [""]
    else if written == ".." then leaveSegment path ++ [""]
    else path ++ [written]

/-- The address with further segments. -/
def extend (url : Url) (segments : List String) : Url :=
  { url with path := segments.foldl (pushSegment url.scheme) (dropTrailingSlash url.path) }

/-- The address with one more pair in its query. -/
def addPair (url : Url) (name value : String) : Url :=
  let pair := String.ofList (formPair name value)
  { url with query := match url.query with
    | none => some pair
    | some query => some (if query.isEmpty then pair else query ++ "&" ++ pair) }

end Url

end Artboard
