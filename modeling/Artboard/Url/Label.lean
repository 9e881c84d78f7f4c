import Artboard.Url.Direction
import Artboard.Url.Joiner
import Artboard.Url.NameMap
import Artboard.Url.Punycode

/-!
# Labels of domain names

A label is a part of a domain name between full stops.  What it means may hold
characters outside ASCII; what is written in an address is ASCII, in Punycode
where that is needed.
-/

namespace Artboard
namespace Url

/-- A label: what it means, and how it is written in ASCII. -/
structure Label where
  meaning : List Char
  written : List Char

namespace Label

/-- The mark of a label in Punycode. -/
def codedMark : List Char := "xn--".toList

/-- How many characters a label may have before it is written in Punycode. -/
def plainLimit : Nat := 1000

/-- How many characters a label in Punycode may have behind its mark. -/
def codedLimit : Nat := 2000

def isAscii (c : Char) : Bool :=
  c.toNat < 0x80

/-- Whether a label outside ASCII is well formed: it does not begin with a mark,
and its joiners stand where they show. -/
def isWellFormed (meaning : List Char) : Bool :=
  !meaning.head?.any Text.isMark && joinersStand [] meaning

/-- Whether a text means itself, so that it can be what a label in Punycode
means. -/
def meansItself (meaning : List Char) : Bool :=
  mapName meaning == some meaning && Text.compose meaning == meaning

/-- Read a label in Punycode from behind its mark. -/
def ofCoded? (code : List Char) : Option Label := do
  if code.all isAscii && code.length ≤ codedLimit && code.getLast?.any (· != '-') then
    let meaning ← Punycode.decode code
    if meansItself meaning && isWellFormed meaning then
      some ⟨meaning, codedMark ++ code⟩
    else none
  else none

/-- The label that a mapped and composed text is. -/
def ofText? (text : List Char) : Option Label :=
  if codedMark.isPrefixOf text then ofCoded? (text.drop codedMark.length)
  else if text.all isAscii then some ⟨text, text⟩
  else if text.length ≤ plainLimit && isWellFormed text then
    some ⟨text, codedMark ++ Punycode.encode text⟩
  else none

end Label

end Url
end Artboard
