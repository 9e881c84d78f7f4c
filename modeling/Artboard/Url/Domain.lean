import Artboard.Text.Search
import Artboard.Text.Utf8
import Artboard.Url.Label
import Artboard.Url.Percent

/-!
# Domain names

A domain name is brought into ASCII: each character gives way to what it means,
letters and their marks are composed, and each label outside ASCII is written in
Punycode.  Names are refused that hold a character which separates parts of an
address, or which no name may hold.
-/

namespace Artboard
namespace Url

/-- ASCII characters that no name may hold. -/
def isForbiddenInName (c : Char) : Bool :=
  c.toNat ≤ 0x20 || c.toNat == 0x7F || "%#/:<>?@[\\]^|".toList.contains c

/-- Whether all labels run in one direction, as they must when one of them holds
characters that run to the left. Empty labels have no direction. -/
def labelsRunOneWay (labels : List Label) : Bool :=
  !labels.any (hasLeftward ·.meaning) || labels.all (runsOneWay ·.meaning)

/-- A name in ASCII, if it is one that an address may hold. The name may have
been percent encoded. -/
def domainToAscii (text : List Char) : Option (List Char) := do
  let name ← mapName (Text.ofBytes (percentDecode text))
  let labels ← (Text.splitAt '.' (Text.compose name)).mapM Label.ofText?
  let ascii := Text.join ['.'] (labels.map (·.written))
  if labelsRunOneWay labels && !ascii.any isForbiddenInName then some ascii else none

end Url
end Artboard
