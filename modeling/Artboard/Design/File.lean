import Artboard.Design.Node

/-!
# Design files

A file holds a document, whose canvases are the pages, and says what components
and shared styles it publishes.
-/

namespace Artboard

/-- What a file says about a published component. -/
structure ComponentMeta where
  key : String
  name : String
  description : String

/-- What a shared style applies to. -/
inductive StyleKind where
  | fill
  | text
  | effect
  | grid
  deriving DecidableEq, Repr

/-- What a file says about a shared style. -/
structure StyleMeta where
  key : String
  name : String
  description : String
  kind : StyleKind

/-- A design file. Components go by node id, styles by style id. -/
structure DesignFile where
  name : String
  lastModified : String
  thumbnailUrl : String
  version : String
  document : Node
  components : List (String × ComponentMeta)
  styles : List (String × StyleMeta)

/-- Why a file has nothing to export. -/
inductive NoContent where
  | noPages (file : String)
  | emptyPage (page file : String)
  deriving DecidableEq, Repr

def NoContent.message : NoContent → String
  | .noPages file => "No content found in design file: " ++ file ++ " has no pages"
  | .emptyPage page file =>
    "No content found in design file: page " ++ page ++ " of " ++ file ++ " is empty"

/-- The node to export: the first one on the first page. -/
def DesignFile.firstFrame (file : DesignFile) : Except NoContent Node :=
  match file.document.children.find? (·.layer.shape == .canvas) with
  | none => .error (.noPages file.name)
  | some page =>
    match page.children with
    | [] => .error (.emptyPage page.layer.name file.name)
    | node :: _ => .ok node

end Artboard
