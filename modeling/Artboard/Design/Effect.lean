import Artboard.Design.Paint

/-!
# Effects

Shadows and blurs.
-/

namespace Artboard

inductive EffectKind where
  | innerShadow
  | dropShadow
  | layerBlur
  | backgroundBlur
  | other
  deriving DecidableEq, Repr

structure Effect where
  kind : EffectKind
  visible : Bool
  /-- How far the effect is blurred. -/
  radius : Float
  color : Option Color
  /-- How far a shadow is moved. -/
  offset : Option Point
  /-- How far a shadow grows beyond its layer. -/
  spread : Option Float

end Artboard
