import Artboard.Design.Layer

/-!
# Design trees

A node is a layer with the nodes that lie on it, in the order in which they are
painted.
-/

namespace Artboard

/-- A tree of layers. -/
structure Node where
  layer : Layer
  children : List Node

namespace Node

/-- A visible node about which only its identity is known. -/
def ofShape (id name : String) (shape : Shape) : Node :=
  ⟨Layer.ofShape id name shape, []⟩

def withBounds (node : Node) (bounds : Rect) : Node :=
  { node with layer := { node.layer with bounds := some bounds } }

def withChildren (node : Node) (children : List Node) : Node :=
  { node with children := children }

/-- The same node with one more child in front of all others. -/
def addChild (node child : Node) : Node :=
  { node with children := node.children ++ [child] }

def withFills (node : Node) (fills : List Paint) : Node :=
  { node with layer := { node.layer with fills := fills } }

def withLayout (node : Node) (mode : LayoutMode) : Node :=
  { node with layer := { node.layer with layoutMode := some mode } }

/-- The same node with a content and its setting. -/
def withText (node : Node) (characters : String) (style : TypeStyle) : Node :=
  { node with layer :=
    { node.layer with characters := some characters, textStyle := some style } }

/-- The same node, not drawn. -/
def hidden (node : Node) : Node :=
  { node with layer := { node.layer with visible := false } }

mutual

/-- The ids of the image-like nodes in preorder. What lies on such a node is
part of its image and is not looked at. -/
def imageIds : Node → List String
  | ⟨layer, children⟩ => if layer.isImageLike then [layer.id] else imageIdsOfAll children

/-- The ids of the image-like nodes of several trees, one tree after the
other. -/
def imageIdsOfAll : List Node → List String
  | [] => []
  | node :: nodes => imageIds node ++ imageIdsOfAll nodes

end

end Node

end Artboard
