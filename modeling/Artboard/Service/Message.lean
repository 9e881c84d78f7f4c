import Artboard.Service.Exchange
import Artboard.Text.Lowercase
import Artboard.Text.Search
import Artboard.Text.Utf8

/-!
# Messages

Requests and replies as they travel: a head of lines, an empty line, and the
body.  The connection ends behind the reply, so that the body needs no mark of
its end; where its length is told all the same, a shorter body is no reply.
-/

namespace Artboard

def lineEnd : String := "\r\n"

/-- The name of the line that holds the token. -/
def tokenLine : String := "X-Figma-Token"

namespace Request

/-- The host as it is named in a request. -/
def hostText (request : Request) : String :=
  match request.url.host with
  | some host => host.render ++ (request.url.port.map fun port => ":" ++ toString port).getD ""
  | none => ""

/-- The lines of the head. -/
def lines (request : Request) : List String :=
  [request.verb ++ " " ++ request.url.target ++ " HTTP/1.0",
    "Host: " ++ request.hostText,
    tokenLine ++ ": " ++ request.token,
    "User-Agent: " ++ request.userAgent,
    "Accept: */*",
    "Connection: close"]

/-- A request as it travels. -/
def toText (request : Request) : String :=
  String.join (request.lines.map (· ++ lineEnd)) ++ lineEnd

end Request

namespace Reply

/-- Head and body, parted by the first empty line. -/
def splitHead : List UInt8 → Option (List UInt8 × List UInt8)
  | 13 :: 10 :: 13 :: 10 :: body => some ([], body)
  | byte :: rest => (splitHead rest).map fun parts => (byte :: parts.1, parts.2)
  | [] => none

def number? (digits : List Char) : Option Nat :=
  if digits.isEmpty || !digits.all Char.isDigit then none
  else some (digits.foldl (fun value c => value * 10 + (c.toNat - '0'.toNat)) 0)

/-- The status in the first line of a head. -/
def status? (line : List Char) : Option Nat :=
  match Text.splitAt ' ' line with
  | version :: status :: _ =>
    if "HTTP/".toList.isPrefixOf version then number? status else none
  | _ => none

/-- The length of the body, if a line of the head tells it. -/
def bodyLength? (lines : List (List Char)) : Option Nat :=
  lines.findSome? fun line =>
    match Text.splitAt ':' (Text.lowercaseAscii line) with
    | [name, value] =>
      if name == "content-length".toList then number? (value.filter (!Char.isWhitespace ·))
      else none
    | _ => none

/-- Read a reply that travelled. -/
def ofBytes? (bytes : List UInt8) : Option Reply := do
  let (head, body) ← splitHead bytes
  let lines := Text.splitAt '\n' ((Text.ofBytes head).filter (· != '\r'))
  let status ← status? (← lines.head?)
  match bodyLength? lines.tail with
  | some length => if body.length < length then none else some ⟨status, body.take length⟩
  | none => some ⟨status, body⟩

end Reply

end Artboard
