/-!
# Typography

How the characters of a text layer are set.
-/

namespace Artboard

inductive TextAlign where
  | left
  | right
  | center
  | justified
  deriving DecidableEq, Repr

structure TypeStyle where
  fontFamily : String
  fontPostScriptName : Option String
  fontWeight : Float
  fontSize : Float
  alignHorizontal : TextAlign
  alignVertical : Option String
  letterSpacing : Option Float
  lineHeightPx : Option Float
  lineHeightPercent : Option Float
  lineHeightUnit : Option String
  italic : Option Bool

/-- A family at a size, in regular weight and aligned to the left. -/
def TypeStyle.ofFamily (family : String) (size : Float) : TypeStyle where
  fontFamily := family
  fontPostScriptName := none
  fontWeight := 400.0
  fontSize := size
  alignHorizontal := .left
  alignVertical := none
  letterSpacing := none
  lineHeightPx := none
  lineHeightPercent := none
  lineHeightUnit := none
  italic := none

end Artboard
