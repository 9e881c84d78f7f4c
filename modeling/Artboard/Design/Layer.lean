import Artboard.Design.Effect
import Artboard.Design.Typography

/-!
# Layers

A layer is one item of a design with all its properties except what lies on it.
Everything that is decided about a layer alone, or about a layer and the one it
lies on, is a function of layers and not of trees.
-/

namespace Artboard

/-- What a layer is. A shape that is not known is treated as a container. -/
inductive Shape where
  | document
  | canvas
  | frame
  | group
  | vector
  | booleanOperation
  | star
  | line
  | ellipse
  | regularPolygon
  | rectangle
  | text
  | slice
  | component
  | componentSet
  | componentInstance
  | unknown
  deriving DecidableEq, Repr

/-- Shapes drawn as flat artwork. -/
def Shape.isVectorLike : Shape → Bool
  | .vector | .booleanOperation | .star | .line | .ellipse | .regularPolygon | .slice => true
  | .document | .canvas | .frame | .group | .rectangle | .text | .component
  | .componentSet | .componentInstance | .unknown => false

/-- The name of a shape in reports. -/
def Shape.title : Shape → String
  | .document => "Document"
  | .canvas => "Canvas"
  | .frame => "Frame"
  | .group => "Group"
  | .vector => "Vector"
  | .booleanOperation => "BooleanOperation"
  | .star => "Star"
  | .line => "Line"
  | .ellipse => "Ellipse"
  | .regularPolygon => "RegularPolygon"
  | .rectangle => "Rectangle"
  | .text => "Text"
  | .slice => "Slice"
  | .component => "Component"
  | .componentSet => "ComponentSet"
  | .componentInstance => "Instance"
  | .unknown => "Unknown"

/-- The direction in which a layer lays out what lies on it. -/
inductive LayoutMode where
  | none
  | horizontal
  | vertical
  deriving DecidableEq, Repr

/-- Alignment along one axis of an automatic layout. -/
inductive AxisAlign where
  | min
  | center
  | max
  | spaceBetween
  | baseline
  | other
  deriving DecidableEq, Repr

inductive Positioning where
  | auto
  | absolute
  deriving DecidableEq, Repr

/-- Space kept free along the four edges. -/
structure Padding where
  top : Option Float
  right : Option Float
  bottom : Option Float
  left : Option Float

/-- One item of a design. -/
structure Layer where
  id : String
  name : String
  shape : Shape
  bounds : Option Rect
  /-- Fills from back to front. -/
  fills : List Paint
  strokes : List Paint
  strokeWeight : Option Float
  effects : List Effect
  /-- The content of a text layer. -/
  characters : Option String
  textStyle : Option TypeStyle
  layoutMode : Option LayoutMode
  primaryAlign : Option AxisAlign
  counterAlign : Option AxisAlign
  padding : Padding
  itemSpacing : Option Float
  positioning : Option Positioning
  cornerRadius : Option Float
  opacity : Option Float
  visible : Bool

namespace Layer

/-- A visible layer about which only its identity is known. -/
def ofShape (id name : String) (shape : Shape) : Layer where
  id := id
  name := name
  shape := shape
  bounds := none
  fills := []
  strokes := []
  strokeWeight := none
  effects := []
  characters := none
  textStyle := none
  layoutMode := none
  primaryAlign := none
  counterAlign := none
  padding := ⟨none, none, none, none⟩
  itemSpacing := none
  positioning := none
  cornerRadius := none
  opacity := none
  visible := true

/-- Whether the layer lays out what lies on it. -/
def hasAutoLayout (layer : Layer) : Bool :=
  match layer.layoutMode with
  | some .horizontal | some .vertical => true
  | some .none | Option.none => false

/-- Whether the layer is a text. -/
def isText (layer : Layer) : Bool :=
  layer.shape == .text

def visibleFills (layer : Layer) : List Paint :=
  layer.fills.filter (·.visible)

def visibleStrokes (layer : Layer) : List Paint :=
  layer.strokes.filter (·.visible)

def visibleEffects (layer : Layer) : List Effect :=
  layer.effects.filter (·.visible)

/-- Whether the layer is drawn as one flat image: by its shape, or because an
image is among the fills that are drawn. -/
def isImageLike (layer : Layer) : Bool :=
  layer.shape.isVectorLike || layer.visibleFills.any (·.kind == .image)

end Layer

end Artboard
