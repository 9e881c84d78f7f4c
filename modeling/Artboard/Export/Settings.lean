import Artboard.Export.FileTree
import Artboard.Page.Document
import Artboard.Service.Client

/-!
# Export settings

What an export is told: which file, where the service is and who asks, how images
are drawn, and where the page goes.
-/

namespace Artboard

structure Settings where
  /-- The address under which the file is shared. -/
  fileUrl : Option String
  token : Option String
  outputDirectory : String
  /-- The name of the page in that directory. -/
  outputName : String
  imageFormat : ImageFormat
  /-- The address of the service. -/
  apiBase : String
  /-- The colour behind the design. -/
  pageBackground : String
  deriving DecidableEq, Repr

namespace Settings

/-- Settings for which nothing was said. -/
def standard : Settings where
  fileUrl := none
  token := none
  outputDirectory := "./output"
  outputName := "Frame.html"
  imageFormat := .png
  apiBase := Client.standardApiBase
  pageBackground := PageOptions.standard.background

/-- How pages look under the settings. -/
def pageOptions (settings : Settings) : PageOptions :=
  { PageOptions.standard with background := settings.pageBackground }

def outputPath (settings : Settings) : String :=
  FilePath.joinText settings.outputDirectory settings.outputName

end Settings

end Artboard
