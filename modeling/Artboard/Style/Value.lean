import Artboard.Decimal.Notation
import Artboard.Decimal.Rounding
import Artboard.Design.Paint

/-!
# Style values

Numbers, lengths and colours as they are written in a style sheet.
-/

namespace Artboard
namespace Style

/-- A number in positional notation. Negative zero is written as zero. -/
def number (x : Float) : String :=
  Decimal.plain (x + 0.0)

/-- A length in pixels. -/
def pixels (x : Float) : String :=
  number x ++ "px"

/-- The distance from one to the next larger double. -/
def epsilon : Float := 2.220446049250313e-16

/-- A length that is worth declaring: one further from zero than rounding alone
would put it. -/
def nonZero (length : Option Float) : Option Float :=
  length.filter fun x => epsilon < x.abs

/-- A number held between zero and one. -/
def unit (x : Float) : Float :=
  if x < 0.0 then 0.0 else if 1.0 < x then 1.0 else x

/-- A colour channel in steps from 0 to 255. -/
def channel (x : Float) : Int :=
  Decimal.nearestInt (unit x * 255.0)

/-- A number held between zero and one, in whole hundredths. -/
def hundredths (x : Float) : Float :=
  Decimal.round (unit x * 100.0) / 100.0

/-- An alpha value. Negative zero keeps its sign. -/
def alpha (x : Float) : String :=
  Decimal.plain (hundredths x)

def color (c : Color) : String :=
  "rgba(" ++ toString (channel c.red) ++ ", " ++ toString (channel c.green) ++ ", " ++
    toString (channel c.blue) ++ ", " ++ alpha c.alpha ++ ")"

/-- The colour of what has none. -/
def transparent : String := "rgba(0, 0, 0, 0)"

/-- The colour of a paint that is one flat colour. -/
def solidColor? (paint : Paint) : Option String :=
  match paint.kind with
  | .solid => paint.color.map color
  | _ => none

end Style
end Artboard
