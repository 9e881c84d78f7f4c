import Artboard.Text.Lowercase

/-!
# Image formats

The formats in which the service draws a layer.
-/

namespace Artboard

inductive ImageFormat where
  | png
  | jpg
  | svg
  | pdf
  deriving DecidableEq, Repr

namespace ImageFormat

/-- The name by which the service knows a format. -/
def name : ImageFormat → String
  | png => "png"
  | jpg => "jpg"
  | svg => "svg"
  | pdf => "pdf"

/-- The format that a text names in letters of any case. One of them has two
names. -/
def ofName? (text : String) : Option ImageFormat :=
  match String.ofList (Text.lowercase text.toList) with
  | "png" => some png
  | "jpg" | "jpeg" => some jpg
  | "svg" => some svg
  | "pdf" => some pdf
  | _ => none

/-- The wording for a text that names no format. -/
def unknownMessage (text : String) : String :=
  "Unknown image format: " ++ text

end ImageFormat

end Artboard
