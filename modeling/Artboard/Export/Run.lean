import Artboard.Export.Error
import Artboard.Export.Settings
import Artboard.Service.FileKey

/-!
# Exports

An export asks for a file, asks for images of what markup cannot show, makes a
page of the first frame and writes it.  Everything that can be wrong with the
settings is found before the first request, and files are touched only when the
page is ready.
-/

namespace Artboard

/-- A page that is ready to be written. -/
structure Delivery where
  directory : String
  path : String
  content : String
  deriving DecidableEq, Repr

namespace Export

/-- An attempt whose errors are among those of exports. -/
def within (wrap : ε → ExportError) (attempt : Attempt ε α) : Attempt ExportError α :=
  attempt.adapt wrap

/-- What the settings ask for: a client, and the key of a file. The address of
the file comes first, then its key, then the token, then the address of the
service. -/
def order (settings : Settings) : Except ExportError (Client × String) := do
  let some url := settings.fileUrl | throw .missingFileUrl
  let some key := fileKey? url | throw (.service (.invalidFileUrl url))
  match Client.ofSettings settings.apiBase settings.token with
  | .ok client => return (client, key)
  | .error error => throw (.service error)

/-- Images of the image-like layers of a tree. -/
def fetchImages (client : Client) (key : String) (format : ImageFormat) (root : Node) :
    Attempt ExportError ImageMap := do
  let ids := root.imageIds
  Attempt.note (.foundImages ids.length)
  if ids.isEmpty then return []
  Attempt.note (.fetchingImages format)
  within .service (client.getImages key ids format)

/-- Report a page and what was found wrong on the way to it. -/
def notePage (root : Node) (page : Page) : Attempt ε Unit := do
  page.diagnostics.forM fun diagnostic => Attempt.note (.diagnosed diagnostic)
  Attempt.note
    (.converted root.layer.name page.rules.length page.fonts.length page.diagnostics.length)
  if !page.diagnostics.isEmpty then
    Attempt.note (.finishedWithDiagnostics page.diagnostics.length)

/-- The page that the settings ask for. -/
def fetchPage (settings : Settings) : Attempt ExportError Page := do
  let (client, key) ← Attempt.ofExcept (order settings)
  Attempt.note (.fetchingFile key client.apiBase.render)
  let file ← within .service (client.getFile key)
  let root ← within .noContent (Attempt.ofExcept file.firstFrame)
  Attempt.note (.convertingNode root.layer.name root.layer.shape.title)
  let images ← fetchImages client key settings.imageFormat root
  let page := Page.ofNode images root
  notePage root page
  return page

/-- The page that the settings ask for, with the place it is to be written to. -/
def prepare (settings : Settings) : Attempt ExportError Delivery := do
  let page ← fetchPage settings
  return ⟨settings.outputDirectory, settings.outputPath, page.render settings.pageOptions⟩

/-- Write a page: make its directory, then write the file. -/
def deliver (disk : Disk) (delivery : Delivery) (tree : FileTree) :
    Except ExportError Unit × FileTree :=
  match tree.createDirectories disk delivery.directory with
  | (.error error, tree) => (.error (.write delivery.directory error), tree)
  | (.ok (), tree) =>
    match tree.write disk delivery.path delivery.content with
    | (.error error, tree) => (.error (.write delivery.path error), tree)
    | (.ok (), tree) => (.ok (), tree)

/-- How an export ended: with the path of the page or an error, with what
happened on the way, and with the files as they are then. -/
structure Outcome where
  result : Except ExportError String
  journal : Journal
  files : FileTree

def run (service : Service) (settings : Settings) (tree : FileTree)
    (disk : Disk := .sound) : Outcome :=
  match (prepare settings).run.perform service with
  | (.error error, journal) => ⟨.error error, journal, tree⟩
  | (.ok delivery, journal) =>
    match deliver disk delivery tree with
    | (.error error, tree) => ⟨.error error, journal, tree⟩
    | (.ok (), tree) => ⟨.ok delivery.path, journal.add (.complete delivery.path), tree⟩

end Export

end Artboard
