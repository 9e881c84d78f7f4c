import Artboard.Design.Node
import Artboard.Diagnostic
import Artboard.Markup.Element
import Artboard.Style.Layer

/-!
# Walking a design tree

The walk turns a tree into markup and collects on its way what the page needs
besides: a rule for every layer, the font families in use, and what was found
wrong.  Layers are numbered as the walk reaches them, while their rules are
registered as it leaves them.

A layer that is not drawn is left out with everything on it.  A layer whose image
is known becomes that image, and what lies on it is part of the image.  All other
layers are walked to the end, also those whose element has no room for markup;
then the markup is dropped and the rules and fonts stay.
-/

namespace Artboard

/-- Image addresses by layer id. -/
abbrev ImageMap := List (String × String)

def ImageMap.url? (images : ImageMap) (id : String) : Option String :=
  images.lookup id

namespace Page

/-- What the walk has collected. -/
structure Run where
  /-- Layers numbered so far. -/
  counter : Nat
  /-- Classes with what is declared for them, in order of registration. -/
  rules : List (String × Declaration)
  /-- Font families in order of first use, each once. -/
  fonts : List String
  diagnostics : List Diagnostic

namespace Run

def start : Run := ⟨0, [], [], []⟩

/-- Number one more layer. -/
def count (run : Run) : Run :=
  { run with counter := run.counter + 1 }

def report (run : Run) (found : List Diagnostic) : Run :=
  { run with diagnostics := run.diagnostics ++ found }

/-- Ask for a font family unless that was done before. -/
def useFont (run : Run) (family : Option String) : Run :=
  match family with
  | some family =>
    if run.fonts.contains family then run else { run with fonts := run.fonts ++ [family] }
  | none => run

/-- Register what is declared for a class. -/
def register (run : Run) (className : String) (declaration : Declaration) : Run :=
  { run with rules := run.rules ++ [(className, declaration)] }

end Run

def imageTree (layer : Layer) (url className : String) : Markup.Tree :=
  .void "img" [⟨"src", url⟩, ⟨"class", className⟩, ⟨"alt", layer.name⟩]

/-- What is found wrong with a layer that has no image. -/
def imageDiagnostics (layer : Layer) : List Diagnostic :=
  if layer.isImageLike then [.unresolvedImage layer.id layer.name] else []

/-- The content of an element: a text layer with characters shows these and
nothing else, any other layer shows what lies on it. -/
def contentOf (layer : Layer) (children : List Markup.Tree) : List Markup.Tree :=
  match layer.shape, layer.characters with
  | .text, some characters => if characters.isEmpty then children else [.text characters]
  | _, _ => children

/-- The element of a layer around the markup of what lies on it. -/
def elementTree (layer : Layer) (className : String) (children : List Markup.Tree) :
    Markup.Tree :=
  let element := Markup.Element.ofLayer layer
  let attributes := ⟨"class", className⟩ :: element.attributes
  if element.isVoid then .void element.tag attributes
  else .element element.tag attributes (contentOf layer children)

mutual

/-- Walk a node that lies on the given layer, if on any. The markup is one tree,
or none when the node is not drawn. -/
def visit (images : ImageMap) : Node → Option Layer → Run → List Markup.Tree × Run
  | ⟨layer, children⟩, parent, run =>
    if layer.visible then
      let className := Markup.className run.counter layer.name
      let declaration := Style.declaration layer parent
      let run := run.count.report (Style.diagnostics layer parent)
      match images.url? layer.id with
      | some url => ([imageTree layer url className], run.register className declaration)
      | none =>
        let run := (run.report (imageDiagnostics layer)).useFont (Style.fontFamily? layer)
        let (content, run) := visitAll images children layer run
        ([elementTree layer className content], run.register className declaration)
    else ([], run)

/-- Walk the nodes that lie on a layer. -/
def visitAll (images : ImageMap) : List Node → Layer → Run → List Markup.Tree × Run
  | [], _, run => ([], run)
  | node :: nodes, parent, run =>
    let (first, run) := visit images node (some parent) run
    let (others, run) := visitAll images nodes parent run
    (first ++ others, run)

end

end Page

end Artboard
