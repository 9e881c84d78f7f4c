import Artboard.Design.File
import Artboard.Export.FileTree
import Artboard.Service.Error

/-!
# Export errors

Why an export ends without a page.
-/

namespace Artboard

inductive ExportError where
  | missingFileUrl
  | service (error : ServiceError)
  | noContent (reason : NoContent)
  | write (path : String) (error : SystemError)
  deriving DecidableEq, Repr

namespace ExportError

def message : ExportError → String
  | missingFileUrl => "a design file URL is required (--file-url or FIGMA_FILE_URL)"
  | service error => error.message
  | noContent reason => reason.message
  | write path error => "failed to write " ++ path ++ ": " ++ error.message

/-- An error and what led to it, the outermost cause first. -/
def causes : ExportError → List String
  | service error => error.message :: error.innerCauses
  | write path error => [(write path error).message, error.message]
  | error => [error.message]

end ExportError

end Artboard
