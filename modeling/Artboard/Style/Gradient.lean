import Artboard.Style.Value

/-!
# Linear gradients

A design gives the direction of a gradient by two handles, with the vertical
axis pointing down.  A style sheet gives it by an angle that is zero towards the
top and grows clockwise, in whole degrees from 0 up to 360.
-/

namespace Artboard
namespace Style

/-- A colour at a whole percentage of a gradient. -/
structure GradientStop where
  color : Color
  percent : Int

/-- A gradient along a direction. -/
structure Gradient where
  /-- Degrees clockwise from the direction to the top. -/
  angle : Int
  stops : List GradientStop

def degreesPerRadian : Float := 180.0 / 3.141592653589793

/-- The angle of the direction from one point to another. -/
def angleBetween (start finish : Point) : Int :=
  let degrees := Float.atan2 (finish.y - start.y) (finish.x - start.x) * degreesPerRadian + 90.0
  Decimal.nearestInt (if degrees < 0.0 then degrees + 360.0 else degrees) % 360

namespace Gradient

/-- The gradient of a paint. There is none when the paint is not a linear
gradient, has no stops, or has fewer than two handles; further handles do not
matter. -/
def ofPaint? (paint : Paint) : Option Gradient :=
  match paint.kind, paint.stops, paint.handles with
  | .gradientLinear, stop :: stops, start :: finish :: _ =>
    some {
      angle := angleBetween start finish
      stops := (stop :: stops).map fun s => ⟨s.color, Decimal.nearestInt (s.position * 100.0)⟩ }
  | _, _, _ => none

/-- A stop behind its comma. -/
def renderStop (stop : GradientStop) : String :=
  ", " ++ Style.color stop.color ++ " " ++ toString stop.percent ++ "%"

def render (gradient : Gradient) : String :=
  "linear-gradient(" ++ toString gradient.angle ++ "deg" ++
    String.join (gradient.stops.map renderStop) ++ ")"

end Gradient

/-- The background of a gradient that cannot be written. -/
def noGradient : String := "none"

end Style
end Artboard
