/-!
# Geometry

Lengths are pixels in doubles; the vertical axis points down.
-/

namespace Artboard

structure Point where
  x : Float
  y : Float

/-- The origin, which is also the offset of nothing. -/
def Point.zero : Point := ⟨0.0, 0.0⟩

/-- An axis-parallel rectangle in the coordinates of the whole document. -/
structure Rect where
  /-- Left edge. -/
  x : Float
  /-- Top edge. -/
  y : Float
  width : Float
  height : Float

/-- Where the corner of one rectangle lies as seen from the corner of another. -/
def Rect.offsetFrom (own outer : Rect) : Point :=
  ⟨own.x - outer.x, own.y - outer.y⟩

end Artboard
