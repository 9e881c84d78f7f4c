import Artboard.Text.Search
import Artboard.Text.Blank

/-!
# Text in markup

Characters with a meaning of their own in markup are written as entities.  They
are replaced one after the other, the ampersand first, so that no ampersand of
an entity is replaced again.
-/

namespace Artboard
namespace Markup

/-- Write every occurrence of a character as an entity. -/
def replace (c : Char) (entity : String) (text : List Char) : List Char :=
  text.flatMap fun x => if x = c then entity.toList else [x]

/-- Text between elements. -/
def escapeText (text : List Char) : List Char :=
  replace '>' "&gt;" (replace '<' "&lt;" (replace '&' "&amp;" text))

/-- The value of an attribute between double quotes. -/
def escapeAttribute (value : List Char) : List Char :=
  replace '\'' "&#39;" (replace '"' "&quot;" (escapeText value))

def lineBreak : List Char := "<br>".toList

/-- Text between elements whose lines are kept apart. -/
def textWithBreaks (text : List Char) : List Char :=
  Text.join lineBreak ((Text.splitAt '\n' text).map escapeText)

/-- Characters that stand for themselves in a class name. -/
def isClassChar (c : Char) : Bool :=
  c.isAlphanum

/-- The class of the layer with the given number and name. Whatever the name
is, the class needs no escaping in a style sheet or in an attribute. -/
def className (counter : Nat) (name : String) : String :=
  "node-" ++ toString counter ++ "-" ++
    String.ofList (name.toList.map fun c => if isClassChar c then c else '-')

end Markup
end Artboard
