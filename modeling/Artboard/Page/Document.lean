import Artboard.Page.Walk

/-!
# Pages

A page is what the walk over a design tree yields: a title, the font families to
load, the rules of the style sheet and the body.  Written out it stands on its
own.
-/

namespace Artboard

/-- What a page looks like apart from the design. -/
structure PageOptions where
  /-- The colour behind the design. -/
  background : String
  /-- Where font families are asked for. -/
  fontStylesheetUrl : String
  /-- The range of weights asked for with each family. -/
  fontAxis : String
  deriving DecidableEq, Repr

/-- A black page with fonts in all weights. -/
def PageOptions.standard : PageOptions where
  background := "black"
  fontStylesheetUrl := "https://fonts.googleapis.com/css2"
  fontAxis := "wght@100..900"

/-- A page made from a design. -/
structure Page where
  title : String
  fonts : List String
  rules : List (String × Declaration)
  body : List Markup.Tree
  /-- What was found wrong with the design, in the order of the walk. -/
  diagnostics : List Diagnostic

namespace Page

def ofNode (images : ImageMap) (root : Node) : Page :=
  let (body, run) := visit images root none Run.start
  { title := root.layer.name
    fonts := run.fonts
    rules := run.rules
    body := body
    diagnostics := run.diagnostics }

/-- The address of the style sheet of a font family. In it single plus signs
stand for the blanks between words. -/
def fontUrl (options : PageOptions) (family : String) : String :=
  let words := Text.join ['+'] (Text.words family.toList)
  options.fontStylesheetUrl ++ "?family=" ++ String.ofList (Markup.escapeAttribute words) ++
    ":" ++ options.fontAxis ++ "&display=swap"

def fontLine (options : PageOptions) (family : String) : String :=
  "    <link href=\"" ++ fontUrl options family ++ "\" rel=\"stylesheet\">\n"

def ruleLine (rule : String × Declaration) : String :=
  "        ." ++ rule.1 ++ " \x7b " ++ rule.2.render ++ " \x7d\n"

/-- The line that styles the page behind the design. -/
def backgroundLine (options : PageOptions) : String :=
  "        body \x7b margin: 0; padding: 0; background-color: " ++ options.background ++
    "; \x7d\n"

/-- The line that makes borders part of the size of an element. -/
def boxLine : String :=
  "        * \x7b box-sizing: border-box; \x7d\n"

/-- The content of the style element. -/
def styleSheet (options : PageOptions) (page : Page) : String :=
  backgroundLine options ++ boxLine ++ String.join (page.rules.map ruleLine)

def bodyText (page : Page) : String :=
  String.ofList (Markup.renderForest page.body)

/-- The page as a document. -/
def render (options : PageOptions) (page : Page) : String :=
  "<!DOCTYPE html>\n<html lang=\"en\">\n<head>\n    <meta charset=\"UTF-8\">\n" ++
    "    <meta name=\"viewport\" content=\"width=device-width, initial-scale=1.0\">\n" ++
    "    <title>" ++ String.ofList (Markup.escapeText page.title.toList) ++ "</title>\n" ++
    String.join (page.fonts.map (fontLine options)) ++
    "    <style>\n" ++ page.styleSheet options ++ "    </style>\n</head>\n<body>\n" ++
    "    " ++ page.bodyText ++ "\n</body>\n</html>\n"

end Page

end Artboard
