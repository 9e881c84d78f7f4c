/-!
# JSON values

A value as it stands in a text: an object keeps its members in order, and whole
numbers stay apart from numbers with a fraction or an exponent.
-/

namespace Artboard

inductive Json where
  | null
  | bool (value : Bool)
  | integer (value : Int)
  | number (value : Float)
  | text (value : String)
  | list (items : List Json)
  | object (members : List (String × Json))
  deriving Inhabited

namespace Json

/-- A text, or null when there is none. -/
def textOrNull : Option String → Json
  | some value => .text value
  | none => .null

/-- The last member of an object with the given name. -/
def member? (name : String) : Json → Option Json
  | .object members => (members.reverse.find? fun m => m.1 == name).map (·.2)
  | _ => none

def text? : Json → Option String
  | .text value => some value
  | _ => none

end Json
end Artboard
