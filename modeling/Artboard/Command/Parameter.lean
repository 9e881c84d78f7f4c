import Artboard.Export.Settings
import Artboard.Text.Terminal

/-!
# Command line parameters

The settings that can be given on the command line, the words they go by, and the
environment variables that stand in for some of them.
-/

namespace Artboard

/-- A setting that can be given on the command line. -/
inductive Parameter where
  | fileUrl
  | token
  | outputDirectory
  | outputName
  | imageFormat
  | apiBase
  | pageBackground
  deriving DecidableEq, Repr

namespace Parameter

def all : List Parameter :=
  [fileUrl, token, outputDirectory, outputName, imageFormat, apiBase, pageBackground]

def word : Parameter → String
  | fileUrl => "file-url"
  | token => "token"
  | outputDirectory => "output-dir"
  | outputName => "output-name"
  | imageFormat => "image-format"
  | apiBase => "api-base"
  | pageBackground => "page-background"

def ofWord? (word : String) : Option Parameter :=
  all.find? (·.word == word)

/-- What stands for the value of a parameter in messages. -/
def valueName (parameter : Parameter) : String :=
  String.ofList (parameter.word.toList.map fun c => if c = '-' then '_' else c.toUpper)

def usage (parameter : Parameter) : String :=
  "--" ++ parameter.word ++ " <" ++ parameter.valueName ++ ">"

def purpose : Parameter → String
  | fileUrl => "Design file URL (e.g., <https://www.figma.com/design/KEY/Name>)"
  | token => "Personal access token for the design service"
  | outputDirectory => "Directory the page is written to"
  | outputName => "File name of the page"
  | imageFormat => "Format image nodes are rendered in (png, jpg, svg, pdf)"
  | apiBase => "REST API base URL"
  | pageBackground => "CSS color of the page background"

/-- The environment variable that counts when a parameter is not given. -/
def environmentName? : Parameter → Option String
  | fileUrl => some "FIGMA_FILE_URL"
  | token => some "FIGMA_API_KEY_TOKEN"
  | apiBase => some "FIGMA_API_BASE"
  | _ => none

end Parameter

/-- Why the command line does not lead to an export. -/
inductive Stop where
  | help
  | version
  | unknownArgument (argument : String)
  | missingValue (parameter : Parameter)
  | repeated (parameter : Parameter)
  | invalidValue (parameter : Parameter) (value reason : String)
  /-- A value for a word that takes none. -/
  | unneededValue (value word : String)
  deriving DecidableEq, Repr

namespace Stop

/-- What the program does, in one sentence. -/
def about : String := "Convert a design file frame into a static HTML page"

def versionLine : String := "design-markup 0.1.0"

def usageLine : String := "Usage: design-markup [OPTIONS]"

/-- Where to find out more. -/
def hint : String :=
  "For more information, try '" ++ Text.Terminal.highlight "--help" ++ "'.\n"

/-- A text between quotes, set off from the message around it. -/
def quote (text : String) : String :=
  "'" ++ Text.Terminal.highlight text ++ "'"

def wording : Stop → String
  | help => about ++ "\n"
  | version => versionLine ++ "\n"
  | unknownArgument argument =>
    "error: unexpected argument " ++ quote argument ++ " found\n\n" ++ usageLine ++ "\n\n" ++ hint
  | missingValue parameter =>
    "error: a value is required for " ++ quote parameter.usage ++ " but none was supplied\n\n" ++
      hint
  | repeated parameter =>
    "error: the argument " ++ quote parameter.usage ++ " cannot be used multiple times\n\n" ++
      usageLine ++ "\n\n" ++ hint
  | invalidValue parameter value reason =>
    "error: invalid value " ++ quote value ++ " for " ++ quote parameter.usage ++ ": " ++ reason ++
      "\n\n" ++ hint
  | unneededValue value word =>
    "error: unexpected value " ++ quote value ++ " for " ++ quote word ++
      " found; no more were expected\n\n" ++ usageLine ++ "\n\n" ++ hint

/-- The wording of a reason without what only a terminal understands. -/
def message (stop : Stop) : String :=
  Text.Terminal.shown true stop.wording

/-- The wording of a reason as it is written to a stream that is no terminal. -/
def written (stop : Stop) : String :=
  Text.Terminal.shown false stop.wording

/-- The exit code: to have asked for help or the version is no mistake. -/
def exitCode : Stop → Nat
  | help | version => 0
  | _ => 2

end Stop

namespace Parameter

def assign (parameter : Parameter) (value : String) (settings : Settings) :
    Except Stop Settings :=
  match parameter with
  | fileUrl => .ok { settings with fileUrl := some value }
  | token => .ok { settings with token := some value }
  | outputDirectory =>
    if value.isEmpty then .error (.missingValue parameter)
    else .ok { settings with outputDirectory := value }
  | outputName => .ok { settings with outputName := value }
  | imageFormat =>
    match ImageFormat.ofName? value with
    | some format => .ok { settings with imageFormat := format }
    | none => .error (.invalidValue parameter value (ImageFormat.unknownMessage value))
  | apiBase => .ok { settings with apiBase := value }
  | pageBackground => .ok { settings with pageBackground := value }

end Parameter

end Artboard
