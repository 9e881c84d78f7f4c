import Artboard.Design.Node
import Artboard.Wire.Paint

/-!
# Wire form of nodes

Nodes nest, and each level enters two brackets: the node's own and that of its
list of children.  The reader of nodes is therefore defined by recursion on the
brackets that may still be entered.
-/

namespace Artboard
namespace Wire

open Json (Choice Codec RecordField Reader Record)

def shapeName : Shape → String
  | .document => "DOCUMENT"
  | .canvas => "CANVAS"
  | .frame => "FRAME"
  | .group => "GROUP"
  | .vector => "VECTOR"
  | .booleanOperation => "BOOLEAN_OPERATION"
  | .star => "STAR"
  | .line => "LINE"
  | .ellipse => "ELLIPSE"
  | .regularPolygon => "REGULAR_POLYGON"
  | .rectangle => "RECTANGLE"
  | .text => "TEXT"
  | .slice => "SLICE"
  | .component => "COMPONENT"
  | .componentSet => "COMPONENT_SET"
  | .componentInstance => "INSTANCE"
  | .unknown => "UNKNOWN"

/-- Shapes that are not known are read as one. -/
def shape : Choice Shape where
  names := [.document, .canvas, .frame, .group, .vector, .booleanOperation, .star, .line,
    .ellipse, .regularPolygon, .rectangle, .text, .slice, .component, .componentSet,
    .componentInstance].map fun shape => (shapeName shape, shape)
  other := some .unknown
  nameOf := shapeName

def layoutModeName : LayoutMode → String
  | .none => "NONE"
  | .horizontal => "HORIZONTAL"
  | .vertical => "VERTICAL"

/-- No layout directions but these are taken. -/
def layoutMode : Choice LayoutMode where
  names := [.none, .horizontal, .vertical].map fun mode => (layoutModeName mode, mode)
  other := Option.none
  nameOf := layoutModeName

def axisAlignName : AxisAlign → String
  | .min => "MIN"
  | .center => "CENTER"
  | .max => "MAX"
  | .spaceBetween => "SPACE_BETWEEN"
  | .baseline => "BASELINE"
  | .other => "OTHER"

/-- Alignments that are not known are read as one. -/
def axisAlign : Choice AxisAlign where
  names := [.min, .center, .max, .spaceBetween, .baseline].map
    fun align => (axisAlignName align, align)
  other := some .other
  nameOf := axisAlignName

def positioningName : Positioning → String
  | .auto => "AUTO"
  | .absolute => "ABSOLUTE"

/-- No positionings but these are taken. -/
def positioning : Choice Positioning where
  names := [.auto, .absolute].map fun positioning => (positioningName positioning, positioning)
  other := none
  nameOf := positioningName

/-- A field of a node's layer. -/
def layerField (codec : Codec β) (name : String) (required : Bool) (get : Layer → β)
    (set : β → Layer → Layer) : RecordField Node :=
  codec.field name required (get ·.layer) fun v node => { node with layer := set v node.layer }

/-- The field of a node's children, given how to read and write them. -/
def childrenField (read : Reader (List Node)) (write : Node → Json) : RecordField Node where
  name := "children"
  required := false
  read _ := (fun children node => node.withChildren children) <$> read
  write := write

/-- A node is drawn unless it says otherwise, and nothing is known about it but
what it says. -/
def nodeRecord (children : RecordField Node) : Record Node where
  name := "DesignNode"
  blank := Node.ofShape "" "" .unknown
  fields := [
    layerField Codec.text "id" true (·.id) fun v l => { l with id := v },
    layerField Codec.text "name" true (·.name) fun v l => { l with name := v },
    layerField shape.codec "type" true (·.shape) fun v l => { l with shape := v },
    children,
    layerField rect.codec.nullable "absoluteBoundingBox" false (·.bounds)
      fun v l => { l with bounds := v },
    layerField paint.codec.list "fills" false (·.fills) fun v l => { l with fills := v },
    layerField paint.codec.list "strokes" false (·.strokes) fun v l => { l with strokes := v },
    layerField Codec.number.nullable "strokeWeight" false (·.strokeWeight)
      fun v l => { l with strokeWeight := v },
    layerField effect.codec.list "effects" false (·.effects) fun v l => { l with effects := v },
    layerField Codec.text.nullable "characters" false (·.characters)
      fun v l => { l with characters := v },
    layerField typeStyle.codec.nullable "style" false (·.textStyle)
      fun v l => { l with textStyle := v },
    layerField layoutMode.codec.nullable "layoutMode" false (·.layoutMode)
      fun v l => { l with layoutMode := v },
    layerField axisAlign.codec.nullable "primaryAxisAlignItems" false (·.primaryAlign)
      fun v l => { l with primaryAlign := v },
    layerField axisAlign.codec.nullable "counterAxisAlignItems" false (·.counterAlign)
      fun v l => { l with counterAlign := v },
    layerField Codec.number.nullable "paddingTop" false (·.padding.top)
      fun v l => { l with padding.top := v },
    layerField Codec.number.nullable "paddingRight" false (·.padding.right)
      fun v l => { l with padding.right := v },
    layerField Codec.number.nullable "paddingBottom" false (·.padding.bottom)
      fun v l => { l with padding.bottom := v },
    layerField Codec.number.nullable "paddingLeft" false (·.padding.left)
      fun v l => { l with padding.left := v },
    layerField Codec.number.nullable "itemSpacing" false (·.itemSpacing)
      fun v l => { l with itemSpacing := v },
    layerField positioning.codec.nullable "layoutPositioning" false (·.positioning)
      fun v l => { l with positioning := v },
    layerField Codec.number.nullable "cornerRadius" false (·.cornerRadius)
      fun v l => { l with cornerRadius := v },
    layerField Codec.number.nullable "opacity" false (·.opacity)
      fun v l => { l with opacity := v },
    layerField Codec.bool "visible" false (·.visible) fun v l => { l with visible := v }]

/-- How to read a node whose children are read in the given way. -/
def nodeReader (children : Reader (List Node)) : Record Node :=
  nodeRecord (childrenField children fun _ => .list [])

/-- Read a node and everything on it. -/
def readNode : Nat → Reader Node
  | 0 => (nodeReader (Json.readList none)).readWithin none
  | 1 => (nodeReader (Json.readList none)).readWithin (some 0)
  | budget + 2 =>
    (nodeReader (Json.readList (some (readNode budget)))).readWithin (some (budget + 1))

mutual

/-- Write a node and everything on it. -/
def writeNode : Node → Json
  | ⟨layer, children⟩ =>
    (nodeRecord (childrenField (Json.readList none) fun _ => .list (writeNodes children))).write
      ⟨layer, children⟩

/-- Write nodes one by one. -/
def writeNodes : List Node → List Json
  | [] => []
  | node :: nodes => writeNode node :: writeNodes nodes

end

def node : Codec Node where
  read := readNode
  write := writeNode

end Wire
end Artboard
