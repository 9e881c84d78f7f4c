import Artboard.Design.Layer
import Artboard.Diagnostic
import Artboard.Style.Declaration
import Artboard.Style.Gradient

/-!
# The style of a layer

What is declared for a layer depends on the layer and on the one it lies on, if
any.  The declaration is put together from groups of properties in a fixed
order: automatic layout, position, size, background, border, shadow, type and
corner radius.
-/

namespace Artboard
namespace Style

/-- A property when there is a value for it. -/
def optional (property : String) (value : Option String) : List (String × String) :=
  match value with
  | some value => [(property, value)]
  | none => []

/-- How space is distributed along the main axis. -/
def justifyContent : AxisAlign → String
  | .center => "center"
  | .max => "flex-end"
  | .spaceBetween => "space-between"
  | .min | .baseline | .other => "flex-start"

/-- How items are aligned across the main axis. -/
def alignItems : AxisAlign → String
  | .center => "center"
  | .max => "flex-end"
  | .baseline => "baseline"
  | .min | .spaceBetween | .other => "flex-start"

/-- The main axis of an automatic layout. -/
def flexDirection : Option LayoutMode → String
  | some .horizontal => "row"
  | some .vertical | some .none | Option.none => "column"

/-- The properties of a layer that lays out what lies on it. -/
def flexProperties (layer : Layer) : List (String × String) :=
  if layer.hasAutoLayout then
    [("display", "flex"), ("flex-direction", flexDirection layer.layoutMode)] ++
      optional "justify-content" (layer.primaryAlign.map justifyContent) ++
      optional "align-items" (layer.counterAlign.map alignItems) ++
      optional "gap" ((nonZero layer.itemSpacing).map pixels) ++
      optional "padding-top" ((nonZero layer.padding.top).map pixels) ++
      optional "padding-right" ((nonZero layer.padding.right).map pixels) ++
      optional "padding-bottom" ((nonZero layer.padding.bottom).map pixels) ++
      optional "padding-left" ((nonZero layer.padding.left).map pixels)
  else []

/-- Where a layer gets its place from. -/
inductive Placement where
  /-- It lies on nothing and is centred on the page. -/
  | root
  /-- The layer below lays it out. -/
  | flow
  /-- It is placed by its offset from the layer below. -/
  | absolute
  deriving DecidableEq, Repr

/-- The placement of a layer on its parent. A layer may opt out of the automatic
layout of its parent. -/
def placement (layer : Layer) : Option Layer → Placement
  | none => .root
  | some parent =>
    if parent.hasAutoLayout && layer.positioning != some .absolute then .flow else .absolute

/-- The offset of a layer from its parent, if both have bounds. -/
def offset? (layer : Layer) (parent : Option Layer) : Option Point := do
  return (← layer.bounds).offsetFrom (← (← parent).bounds)

def positionProperties (layer : Layer) (parent : Option Layer) : List (String × String) :=
  match placement layer parent with
  | .root => [("position", "relative"), ("margin", "0 auto")]
  | .flow => [("position", "static")]
  | .absolute =>
    ("position", "absolute") ::
      match offset? layer parent with
      | some offset => [("left", pixels offset.x), ("top", pixels offset.y)]
      | none => []

def sizeProperties (layer : Layer) : List (String × String) :=
  match layer.bounds with
  | some bounds => [("width", pixels bounds.width), ("height", pixels bounds.height)]
  | none => []

/-- The fill that is in front of all others; none for a text, whose fills colour
its characters. -/
def backgroundFill? (layer : Layer) : Option Paint :=
  if layer.isText then none else layer.visibleFills.getLast?

def backgroundProperties (layer : Layer) : List (String × String) :=
  match backgroundFill? layer with
  | none => []
  | some fill =>
    if fill.kind == .solid then optional "background-color" (fill.color.map color)
    else if fill.kind.isGradient then
      [("background", ((Gradient.ofPaint? fill).map Gradient.render).getD noGradient)]
    else []

/-- The properties of a border: the first stroke that is drawn decides. -/
def borderProperties (layer : Layer) : List (String × String) :=
  optional "border" do
    let weight ← nonZero layer.strokeWeight
    let stroke ← layer.visibleStrokes.head?
    return pixels weight ++ " solid " ++ (← solidColor? stroke)

/-- A shadow behind a layer or inside it; nothing for a blur. -/
def shadow? (effect : Effect) : Option String := do
  let inset ← match effect.kind with
    | .dropShadow => some ""
    | .innerShadow => some "inset "
    | .layerBlur | .backgroundBlur | .other => none
  let offset := effect.offset.getD Point.zero
  return inset ++ pixels offset.x ++ " " ++ pixels offset.y ++ " " ++ pixels effect.radius ++
    " " ++ pixels (effect.spread.getD 0.0) ++ " " ++ (effect.color.map color).getD transparent

def shadowProperties (layer : Layer) : List (String × String) :=
  match layer.visibleEffects.filterMap shadow? with
  | [] => []
  | shadows => [("box-shadow", ", ".intercalate shadows)]

/-- The setting of a text layer; other layers have none that shows. -/
def shownTextStyle? (layer : Layer) : Option TypeStyle :=
  if layer.isText then layer.textStyle else none

def textAlign : TextAlign → String
  | .left => "left"
  | .right => "right"
  | .center => "center"
  | .justified => "justified"

/-- The properties of type: the first fill that is drawn colours the
characters. -/
def typeProperties (layer : Layer) : List (String × String) :=
  match shownTextStyle? layer with
  | none => []
  | some style =>
    [("font-family", "'" ++ style.fontFamily ++ "', sans-serif"),
      ("font-weight", number style.fontWeight),
      ("font-size", pixels style.fontSize),
      ("text-align", textAlign style.alignHorizontal)] ++
      optional "line-height" ((nonZero style.lineHeightPx).map pixels) ++
      optional "letter-spacing" ((nonZero style.letterSpacing).map pixels) ++
      optional "color" (layer.visibleFills.head?.bind solidColor?)

def cornerProperties (layer : Layer) : List (String × String) :=
  optional "border-radius" ((nonZero layer.cornerRadius).map pixels)

/-- Everything declared for a layer that lies on the given parent. -/
def declaration (layer : Layer) (parent : Option Layer) : Declaration :=
  ⟨flexProperties layer ++ positionProperties layer parent ++ sizeProperties layer ++
    backgroundProperties layer ++ borderProperties layer ++ shadowProperties layer ++
    typeProperties layer ++ cornerProperties layer⟩

/-- The font family that a layer needs. -/
def fontFamily? (layer : Layer) : Option String :=
  (shownTextStyle? layer).map (·.fontFamily)

/-- An offset is needed but one of the bounds is missing. -/
def geometryDiagnostics (layer : Layer) (parent : Option Layer) : List Diagnostic :=
  match placement layer parent, parent, offset? layer parent with
  | .absolute, some outer, none => [.missingGeometry layer.id layer.name outer.name]
  | _, _, _ => []

/-- The background is a linear gradient that cannot be written. Gradients of
other kinds are not written either, but there is nothing wrong with them. -/
def gradientDiagnostics (layer : Layer) : List Diagnostic :=
  match backgroundFill? layer with
  | some fill =>
    if fill.kind == .gradientLinear && (Gradient.ofPaint? fill).isNone then
      [.malformedGradient layer.id layer.name]
    else []
  | none => []

/-- What is wrong with the style of a layer, in the order of the declaration. -/
def diagnostics (layer : Layer) (parent : Option Layer) : List Diagnostic :=
  geometryDiagnostics layer parent ++ gradientDiagnostics layer

end Style
end Artboard
