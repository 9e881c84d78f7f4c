import Artboard.Design.Geometry

/-!
# Paints

What fills the inside of a layer and draws its outline.
-/

namespace Artboard

/-- A colour with channels from zero to one. -/
structure Color where
  red : Float
  green : Float
  blue : Float
  alpha : Float

/-- The kinds of paint. Paints of kinds that are not known keep their place but
draw nothing. -/
inductive PaintKind where
  | solid
  | gradientLinear
  | gradientRadial
  | gradientAngular
  | gradientDiamond
  | image
  | other
  deriving DecidableEq, Repr

/-- Whether a paint passes from one colour to another. -/
def PaintKind.isGradient : PaintKind → Bool
  | .gradientLinear | .gradientRadial | .gradientAngular | .gradientDiamond => true
  | .solid | .image | .other => false

/-- A colour at a place along a gradient; the gradient runs from zero to one. -/
structure ColorStop where
  position : Float
  color : Color

/-- A fill or a stroke. -/
structure Paint where
  kind : PaintKind
  visible : Bool
  opacity : Option Float
  /-- The colour of a solid paint. -/
  color : Option Color
  /-- The handles of a gradient, as fractions of the painted box. -/
  handles : List Point
  stops : List ColorStop
  scaleMode : Option String
  imageRef : Option String

namespace Paint

/-- A visible paint of the given kind with nothing else said about it. -/
def ofKind (kind : PaintKind) : Paint where
  kind := kind
  visible := true
  opacity := none
  color := none
  handles := []
  stops := []
  scaleMode := none
  imageRef := none

def solid (color : Color) : Paint :=
  { ofKind .solid with color := some color }

def linearGradient (handles : List Point) (stops : List ColorStop) : Paint :=
  { ofKind .gradientLinear with handles := handles, stops := stops }

def hidden (paint : Paint) : Paint :=
  { paint with visible := false }

end Paint

end Artboard
