import Artboard.Design.Layer
import Artboard.Markup.Tree
import Artboard.Text.Lowercase
import Artboard.Text.Search

/-!
# Elements for layers

The element of a layer is guessed from words in its name.  The rules are tried
in a fixed order and the first one that applies decides.
-/

namespace Artboard
namespace Markup

/-- The element that a layer becomes. -/
inductive Element where
  | button
  | passwordInput
  | emailInput
  | textInput (placeholder : String)
  | span
  | div
  deriving DecidableEq, Repr

namespace Element

/-- Whether one of the given words occurs in a text. -/
def mentions (words : List String) (text : List Char) : Bool :=
  words.any fun word => Text.contains word.toList text

/-- The characters of a layer if they are its content. -/
def ownText (shape : Shape) (characters : Option String) : String :=
  match shape with
  | .text => characters.getD ""
  | _ => ""

/-- The element for a shape with the given content whose name is in lower
case. -/
def ofLowerName (name : List Char) (shape : Shape) (characters : Option String) : Element :=
  if mentions ["button", "btn"] name then .button
  else if mentions ["input", "field", "textbox"] name then
    if mentions ["password"] name then .passwordInput
    else if mentions ["email"] name then .emailInput
    else .textInput (ownText shape characters)
  else if shape == .text then .span
  else .div

def ofLayer (layer : Layer) : Element :=
  ofLowerName (Text.lowercase layer.name.toList) layer.shape layer.characters

def tag : Element → String
  | button => "button"
  | passwordInput | emailInput | textInput _ => "input"
  | span => "span"
  | div => "div"

/-- The attributes of an element apart from its class. -/
def attributes : Element → List Attribute
  | button => [⟨"type", "button"⟩]
  | passwordInput => [⟨"type", "password"⟩, ⟨"placeholder", "Password"⟩]
  | emailInput => [⟨"type", "email"⟩, ⟨"placeholder", "Email"⟩]
  | textInput placeholder => [⟨"type", "text"⟩, ⟨"placeholder", placeholder⟩]
  | span | div => []

/-- Whether an element never has content. -/
def isVoid : Element → Bool
  | passwordInput | emailInput | textInput _ => true
  | button | span | div => false

/-- The attributes as they are written with single blanks between them, if there
are any. -/
def renderedAttributes? (element : Element) : Option String :=
  match element.attributes with
  | [] => none
  | attributes =>
    some (String.ofList (Text.join [' '] (attributes.map Attribute.render)))

end Element

end Markup
end Artboard
