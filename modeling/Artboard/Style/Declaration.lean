/-!
# Style declarations

The properties of one rule in the order in which they are written.
-/

namespace Artboard

/-- Properties with their values, in order. A property may occur again, and then
its last value counts. -/
structure Declaration where
  properties : List (String × String)
  deriving DecidableEq, Repr

namespace Declaration

def empty : Declaration := ⟨[]⟩

/-- The declaration with one more property at the end. -/
def push (declaration : Declaration) (property value : String) : Declaration :=
  ⟨declaration.properties ++ [(property, value)]⟩

/-- The value that counts for a property. -/
def get? (declaration : Declaration) (property : String) : Option String :=
  declaration.properties.reverse.lookup property

def contains (declaration : Declaration) (property : String) : Bool :=
  (declaration.get? property).isSome

/-- The declaration as it stands between the braces of a rule. -/
def render (declaration : Declaration) : String :=
  "; ".intercalate (declaration.properties.map fun entry => entry.1 ++ ": " ++ entry.2)

end Declaration

end Artboard
