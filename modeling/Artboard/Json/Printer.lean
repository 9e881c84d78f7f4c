import Artboard.Json.Basic
import Artboard.Decimal.Notation

/-!
# Writing JSON

The compact form: no blanks, members in the order of the value.  Inside a text
only the quote, the backslash and the characters below U+0020 are escaped.
-/

namespace Artboard
namespace Json

/-- A character below U+0020 by its code, four digits wide. -/
def controlEscape (c : Char) : List Char :=
  let digits := Nat.toDigits 16 c.toNat
  '\\' :: 'u' :: (List.replicate (4 - digits.length) '0' ++ digits)

def escapeChar (c : Char) : List Char :=
  match c with
  | '"' => ['\\', '"']
  | '\\' => ['\\', '\\']
  | '\x08' => ['\\', 'b']
  | '\x0c' => ['\\', 'f']
  | '\n' => ['\\', 'n']
  | '\r' => ['\\', 'r']
  | '\t' => ['\\', 't']
  | c => if c.toNat < 0x20 then controlEscape c else [c]

/-- A text with its quotes. -/
def renderText (value : String) : List Char :=
  '"' :: (value.toList.flatMap escapeChar ++ ['"'])

mutual

def render : Json → List Char
  | .null => "null".toList
  | .bool true => "true".toList
  | .bool false => "false".toList
  | .integer value => (toString value).toList
  | .number value => (Decimal.document value).toList
  | .text value => renderText value
  | .list items => '[' :: renderItems items
  | .object members => '\x7b' :: renderMembers members

/-- Items up to and including the closing bracket. -/
def renderItems : List Json → List Char
  | [] => [']']
  | [item] => render item ++ [']']
  | item :: next :: others => render item ++ ',' :: renderItems (next :: others)

/-- Members up to and including the closing brace. -/
def renderMembers : List (String × Json) → List Char
  | [] => ['\x7d']
  | [(name, value)] => renderText name ++ ':' :: (render value ++ ['\x7d'])
  | (name, value) :: next :: others =>
    renderText name ++ ':' :: (render value ++ ',' :: renderMembers (next :: others))

end

def compact (value : Json) : String :=
  String.ofList value.render

end Json
end Artboard
