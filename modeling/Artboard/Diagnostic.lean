/-!
# Diagnostics

What can be wrong with a layer without stopping the export.  The layer is
exported with a fallback and the finding is reported.
-/

namespace Artboard

/-- One finding about a layer. -/
inductive Diagnostic where
  /-- An offset is needed, but the layer or the one it lies on has no bounds. -/
  | missingGeometry (id name parentName : String)
  /-- An image-like layer has no image and is exported as markup. -/
  | unresolvedImage (id name : String)
  /-- A linear gradient has too few handles or no stops. -/
  | malformedGradient (id name : String)
  deriving DecidableEq, Repr

namespace Diagnostic

def layerId : Diagnostic → String
  | missingGeometry id _ _ | unresolvedImage id _ | malformedGradient id _ => id

def message : Diagnostic → String
  | missingGeometry id name parentName =>
    "Missing absoluteBoundingBox for node " ++ name ++ " (" ++ id ++ ") or parent " ++ parentName
  | unresolvedImage id name =>
    "No image URL for image node " ++ name ++ " (" ++ id ++ "); expanding as markup"
  | malformedGradient id name =>
    "Malformed linear gradient on node " ++ name ++ " (" ++ id ++ ")"

end Diagnostic

end Artboard
