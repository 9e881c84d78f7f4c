import Artboard.Url.Basic

/-!
# Reading addresses

An address is taken apart from the outside: fragment and query first, then the
scheme, the authority and the path.  Blanks around it and line ends inside it do
not count.  Addresses whose path is not made of segments are refused.
-/

namespace Artboard
namespace Url

/-- Control characters and the blank. -/
def isOuterBlank (c : Char) : Bool :=
  c.toNat ≤ 0x20

/-- The text that counts. -/
def significant (text : List Char) : List Char :=
  let inner := ((text.dropWhile isOuterBlank).reverse.dropWhile isOuterBlank).reverse
  inner.filter (!isLost ·)

/-- Characters of a scheme behind its first letter. -/
def isSchemeChar (c : Char) : Bool :=
  c.isAlphanum || c == '+' || c == '-' || c == '.'

/-- The scheme in small letters, and what stands behind its colon. -/
def splitScheme (text : List Char) : Option (String × List Char) :=
  let name := text.takeWhile isSchemeChar
  match name.head?.map Char.isAlpha, text.drop name.length with
  | some true, ':' :: rest => some (String.ofList (name.map Char.toLower), rest)
  | _, _ => none

/-- Characters that separate segments. -/
def isSlash (special : Bool) (c : Char) : Bool :=
  c == '/' || (special && c == '\\')

/-- The pieces of a text between slashes. -/
def splitSlashes (special : Bool) : List Char → List (List Char)
  | [] => [[]]
  | c :: rest =>
    if isSlash special c then [] :: splitSlashes special rest
    else match splitSlashes special rest with
      | piece :: others => (c :: piece) :: others
      | [] => [[c]]

/-- Segments that mean the place they stand in, with a dot written in any
way. -/
def isSingleDot (segment : String) : Bool :=
  segment == "." || segment == "%2e" || segment == "%2E"

/-- Segments that mean the place above, with the dots written in any way. -/
def isDoubleDot (segment : String) : Bool :=
  ["..", ".%2e", ".%2E", "%2e.", "%2E.", "%2e%2e", "%2e%2E", "%2E%2e", "%2E%2E"].contains segment

/-- Follow segments from a path on. Behind a dot segment at the end the path
ends in a slash. -/
def followSegments : List String → List String → List String
  | path, [] => path
  | path, segment :: others =>
    if isDoubleDot segment then
      let path := leaveSegment path
      if others.isEmpty then path ++ [""] else followSegments path others
    else if isSingleDot segment then
      if others.isEmpty then path ++ [""] else followSegments path others
    else followSegments (path ++ [segment]) others

/-- The segments of a path behind its first slash. -/
def readPath (special : Bool) (text : List Char) : List String :=
  let pieces := (splitSlashes special text).map fun piece =>
    String.ofList (percentEncode inPathSet piece)
  followSegments [] pieces

/-- The path of an address with a special scheme; it is never empty. -/
def readSpecialPath (text : List Char) : List String :=
  readPath true (text.drop 1)

/-- The path of an address with another scheme. Behind a port it may begin with a
backslash, which belongs to its first segment. -/
def readOtherPath (text : List Char) : List String :=
  match text with
  | [] => []
  | '/' :: rest => readPath false rest
  | text => readPath false text

/-- A path that does not begin with empty segments, as that of a local file. -/
def dropLeadingSlashes (path : List String) : List String :=
  let path := path.dropWhile (·.isEmpty)
  if path.isEmpty then [""] else path

/-- A port; no digits are no port. -/
def readPort (scheme : String) (text : List Char) : Except Refusal (Option Nat) :=
  if !text.all Char.isDigit then .error .invalidPort
  else
    let port := text.foldl (fun value c => value * 10 + (c.toNat - '0'.toNat)) 0
    if 65535 < port then .error .invalidPort
    else if text.isEmpty || defaultPort? scheme == some port then .ok none
    else .ok (some port)

/-- Host and port, split at the first colon outside brackets. -/
def splitPort : Bool → List Char → List Char × Option (List Char)
  | _, [] => ([], none)
  | bracketed, c :: rest =>
    if c = ':' ∧ !bracketed then ([], some rest)
    else
      let bracketed := if c = '[' then true else if c = ']' then false else bracketed
      let (host, port) := splitPort bracketed rest
      (c :: host, port)

/-- User and host part, split at the last at sign. -/
def splitUser (text : List Char) : Option (List Char) × List Char :=
  let host := (text.reverse.takeWhile (· != '@')).reverse
  match text.take (text.length - host.length) with
  | [] => (none, host)
  | user => (some user.dropLast, host)

/-- Whether an authority may go without a host: it names no user, no password and
no port, and an at sign that nothing stands before ends the address. -/
def mayLackHost (isLast : Bool) (user port : Option (List Char)) : Bool :=
  port.isNone && (user.all fun text => text == [':'] || (text.isEmpty && isLast))

/-- What an authority says. -/
structure Authority where
  username : String
  password : String
  host : Host
  port : Option Nat

/-- Read an authority; `isLast` says that nothing follows it. What is left of the
text behind a port belongs to the path. An address with a special scheme must
have a host. -/
def readAuthority (scheme : String) (isLast : Bool) (text : List Char) :
    Except Refusal (Authority × List Char) := do
  let (user, hostPort) := splitUser text
  let (host, port) := splitPort false hostPort
  let special := isSpecial scheme
  if host.isEmpty && (special || !mayLackHost isLast user port) then throw .emptyHost
  let host ← if special then Host.ofSpecial host else Host.ofOther host
  let digits := (port.getD []).takeWhile (· != '\\')
  let number ← readPort scheme digits
  let (username, password) := Text.cut ':' (user.getD [])
  let authority : Authority := {
    username := String.ofList (percentEncode inUserSet username)
    password := String.ofList (percentEncode inUserSet (password.getD []))
    host := host
    port := number }
  return (authority, (port.getD []).drop digits.length)

/-- Put an address together. -/
def assemble (scheme : String) (authority : Option Authority) (path : List String) : Url where
  scheme := scheme
  username := (authority.map (·.username)).getD ""
  password := (authority.map (·.password)).getD ""
  host := authority.map (·.host)
  port := authority.bind (·.port)
  path := path
  query := none
  fragment := none

/-- The host of a local file; the own computer goes without a name. -/
def readFileHost (text : List Char) : Except Refusal Host :=
  if text.isEmpty then .ok (.domain "")
  else match Host.ofSpecial text with
    | .ok (.domain "localhost") => .ok (.domain "")
    | host => host

/-- An authority that only names a host. -/
def Authority.ofHost (host : Host) : Authority :=
  ⟨"", "", host, none⟩

/-- The address of a local file with a host. A drive at the start of its path is
one of the own computer, whatever the host, and is written with a colon. -/
def localFile (host : Host) (path : List String) : Url :=
  match host, path.head?.map String.toList with
  | .domain "", _ => assemble "file" (some (.ofHost host)) (dropLeadingSlashes path)
  | _, some [letter, mark] =>
    if namesDrive (String.ofList [letter, mark]) then
      assemble "file" (some (.ofHost (.domain ""))) (String.ofList [letter, ':'] :: path.tail)
    else assemble "file" (some (.ofHost host)) (dropLeadingSlashes path)
  | _, _ => assemble "file" (some (.ofHost host)) (dropLeadingSlashes path)

/-- Read the address of a local file from behind its scheme. A drive where a host
could stand begins the path. -/
def readFile (text : List Char) : Except Refusal Url := do
  match text with
  | a :: b :: rest =>
    if isSlash true a && isSlash true b then
      let name := rest.takeWhile (!isSlash true ·)
      if name.length = 2 ∧ namesDrive (String.ofList name) then
        return localFile (.domain "") (readPath true rest)
      else return localFile (← readFileHost name) (readPath true (rest.drop (name.length + 1)))
    else if isSlash true a then return localFile (.domain "") (readPath true (b :: rest))
    else return localFile (.domain "") (readPath true text)
  | [a] => return localFile (.domain "") (readPath true (if isSlash true a then [] else [a]))
  | [] => return localFile (.domain "") [""]

/-- Read an address from behind its scheme, without query and fragment; `isLast`
says that there are none. -/
def readHierarchy (scheme : String) (isLast : Bool) (text : List Char) : Except Refusal Url := do
  if scheme == "file" then readFile text
  else if isSpecial scheme then
    let text := text.dropWhile (isSlash true)
    let before := text.takeWhile (!isSlash true ·)
    let (authority, _) ← readAuthority scheme isLast before
    return assemble scheme (some authority) (readSpecialPath (text.drop before.length))
  else match text with
    | '/' :: '/' :: rest =>
      let before := rest.takeWhile (· != '/')
      let path := rest.drop before.length
      let (authority, left) ← readAuthority scheme (isLast && path.isEmpty) before
      return assemble scheme (some authority) (readOtherPath (left ++ path))
    | '/' :: _ => return assemble scheme none (readOtherPath text)
    | _ => throw .opaquePath

def parse (text : String) : Except Refusal Url := do
  match splitScheme (significant text.toList) with
  | none => throw .noScheme
  | some (scheme, rest) =>
    let (rest, fragment) := Text.cut '#' rest
    let (rest, query) := Text.cut '?' rest
    let url ← readHierarchy scheme (query.isNone && fragment.isNone) rest
    let querySet := if isSpecial scheme then inSpecialQuerySet else inQuerySet
    return { url with
      query := query.map fun text => String.ofList (percentEncode querySet text)
      fragment := fragment.map fun text => String.ofList (percentEncode inFragmentSet text) }

end Url
end Artboard
