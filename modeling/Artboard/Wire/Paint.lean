import Artboard.Design.Effect
import Artboard.Design.Typography
import Artboard.Json.Choice
import Artboard.Json.Record

/-!
# Wire form of paints, effects and type

Field names and their order, which fields must be present, and the defaults of
the others.
-/

namespace Artboard
namespace Wire

open Json (Choice Codec Record)

/-- A point is written by its two coordinates. -/
def point : Record Point where
  name := "Vector"
  blank := Point.zero
  fields := [
    Codec.number.field "x" true (·.x) fun v p => { p with x := v },
    Codec.number.field "y" true (·.y) fun v p => { p with y := v }]

/-- A rectangle is written by its corner and its size. -/
def rect : Record Rect where
  name := "Rect"
  blank := ⟨0.0, 0.0, 0.0, 0.0⟩
  fields := [
    Codec.number.field "x" true (·.x) fun v r => { r with x := v },
    Codec.number.field "y" true (·.y) fun v r => { r with y := v },
    Codec.number.field "width" true (·.width) fun v r => { r with width := v },
    Codec.number.field "height" true (·.height) fun v r => { r with height := v }]

/-- A colour is opaque unless it says otherwise. -/
def color : Record Color where
  name := "Color"
  blank := ⟨0.0, 0.0, 0.0, 1.0⟩
  fields := [
    Codec.number.field "r" true (·.red) fun v c => { c with red := v },
    Codec.number.field "g" true (·.green) fun v c => { c with green := v },
    Codec.number.field "b" true (·.blue) fun v c => { c with blue := v },
    Codec.number.field "a" false (·.alpha) fun v c => { c with alpha := v }]

def paintKindName : PaintKind → String
  | .solid => "SOLID"
  | .gradientLinear => "GRADIENT_LINEAR"
  | .gradientRadial => "GRADIENT_RADIAL"
  | .gradientAngular => "GRADIENT_ANGULAR"
  | .gradientDiamond => "GRADIENT_DIAMOND"
  | .image => "IMAGE"
  | .other => "OTHER"

/-- Kinds of paint that are not known are read as one. -/
def paintKind : Choice PaintKind where
  names := [.solid, .gradientLinear, .gradientRadial, .gradientAngular, .gradientDiamond,
    .image].map fun kind => (paintKindName kind, kind)
  other := some .other
  nameOf := paintKindName

/-- A colour stop is written by its place and its colour. -/
def colorStop : Record ColorStop where
  name := "ColorStop"
  blank := ⟨0.0, color.blank⟩
  fields := [
    Codec.number.field "position" true (·.position) fun v s => { s with position := v },
    color.codec.field "color" true (·.color) fun v s => { s with color := v }]

/-- A paint is drawn unless it says otherwise. -/
def paint : Record Paint where
  name := "Paint"
  blank := Paint.ofKind .other
  fields := [
    paintKind.codec.field "type" true (·.kind) fun v p => { p with kind := v },
    Codec.bool.field "visible" false (·.visible) fun v p => { p with visible := v },
    Codec.number.nullable.field "opacity" false (·.opacity) fun v p => { p with opacity := v },
    color.codec.nullable.field "color" false (·.color) fun v p => { p with color := v },
    point.codec.list.field "gradientHandlePositions" false (·.handles)
      fun v p => { p with handles := v },
    colorStop.codec.list.field "gradientStops" false (·.stops) fun v p => { p with stops := v },
    Codec.text.nullable.field "scaleMode" false (·.scaleMode)
      fun v p => { p with scaleMode := v },
    Codec.text.nullable.field "imageRef" false (·.imageRef) fun v p => { p with imageRef := v }]

def effectKindName : EffectKind → String
  | .innerShadow => "INNER_SHADOW"
  | .dropShadow => "DROP_SHADOW"
  | .layerBlur => "LAYER_BLUR"
  | .backgroundBlur => "BACKGROUND_BLUR"
  | .other => "OTHER"

/-- Kinds of effect that are not known are read as one. -/
def effectKind : Choice EffectKind where
  names := [.innerShadow, .dropShadow, .layerBlur, .backgroundBlur].map
    fun kind => (effectKindName kind, kind)
  other := some .other
  nameOf := effectKindName

/-- An effect is drawn unless it says otherwise. -/
def effect : Record Effect where
  name := "Effect"
  blank := ⟨.other, true, 0.0, none, none, none⟩
  fields := [
    effectKind.codec.field "type" true (·.kind) fun v e => { e with kind := v },
    Codec.bool.field "visible" false (·.visible) fun v e => { e with visible := v },
    Codec.number.field "radius" false (·.radius) fun v e => { e with radius := v },
    color.codec.nullable.field "color" false (·.color) fun v e => { e with color := v },
    point.codec.nullable.field "offset" false (·.offset) fun v e => { e with offset := v },
    Codec.number.nullable.field "spread" false (·.spread) fun v e => { e with spread := v }]

def textAlignName : TextAlign → String
  | .left => "LEFT"
  | .right => "RIGHT"
  | .center => "CENTER"
  | .justified => "JUSTIFIED"

/-- No alignments of text but these are taken. -/
def textAlign : Choice TextAlign where
  names := [.left, .right, .center, .justified].map fun align => (textAlignName align, align)
  other := none
  nameOf := textAlignName

/-- Type is of regular weight and aligned to the left unless it says
otherwise. -/
def typeStyle : Record TypeStyle where
  name := "TypeStyle"
  blank := TypeStyle.ofFamily "" 0.0
  fields := [
    Codec.text.field "fontFamily" true (·.fontFamily) fun v s => { s with fontFamily := v },
    Codec.text.nullable.field "fontPostScriptName" false (·.fontPostScriptName)
      fun v s => { s with fontPostScriptName := v },
    Codec.number.field "fontWeight" false (·.fontWeight) fun v s => { s with fontWeight := v },
    Codec.number.field "fontSize" true (·.fontSize) fun v s => { s with fontSize := v },
    textAlign.codec.field "textAlignHorizontal" false (·.alignHorizontal)
      fun v s => { s with alignHorizontal := v },
    Codec.text.nullable.field "textAlignVertical" false (·.alignVertical)
      fun v s => { s with alignVertical := v },
    Codec.number.nullable.field "letterSpacing" false (·.letterSpacing)
      fun v s => { s with letterSpacing := v },
    Codec.number.nullable.field "lineHeightPx" false (·.lineHeightPx)
      fun v s => { s with lineHeightPx := v },
    Codec.number.nullable.field "lineHeightPercent" false (·.lineHeightPercent)
      fun v s => { s with lineHeightPercent := v },
    Codec.text.nullable.field "lineHeightUnit" false (·.lineHeightUnit)
      fun v s => { s with lineHeightUnit := v },
    Codec.bool.nullable.field "italic" false (·.italic) fun v s => { s with italic := v }]

end Wire
end Artboard
