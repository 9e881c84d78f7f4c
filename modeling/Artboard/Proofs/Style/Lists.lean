import Artboard.Proofs.Style.Fill
import Artboard.Proofs.Style.Terms

/-!
# Shadows and gradients read back

The shadows of a layer are written as one list with a term for each of them, and a gradient
is written as a list with its angle in front and a term for each stop.  Taken apart, the list
of shadows has exactly the shadows that are drawn, in the order of the effects, and the list
of a gradient exactly the stops of its paint.  So nothing is lost, merged or split, although
the colours in both lists have commas and blanks of their own.
-/

namespace Artboard
namespace Style

open Decimal (Reading reading?)
open Text (IsWhole)

/-! ## Readers -/

/-- A shadow as it is read. -/
structure ShadowReading where
  inset : Bool
  x : Reading
  y : Reading
  blur : Reading
  spread : Reading
  color : ColorReading
  deriving DecidableEq, Repr

def lengths? (inset : Bool) : List (List Char) → Option ShadowReading
  | [x, y, blur, spread, color] => do
    return ⟨inset, ← length? x, ← length? y, ← length? blur, ← length? spread, ← color? color⟩
  | _ => none

/-- One shadow: four lengths and a colour, with a keyword in front if it lies inside. -/
def shadowReading? (text : List Char) : Option ShadowReading :=
  match parts text with
  | [] => none
  | first :: others =>
    if first = "inset".toList then lengths? true others else lengths? false (first :: others)

def shadowReadings? (text : List Char) : Option (List ShadowReading) :=
  (terms text).mapM shadowReading?

structure StopReading where
  color : ColorReading
  percent : Int
  deriving DecidableEq, Repr

def stopReading? (text : List Char) : Option StopReading :=
  match parts text with
  | [color, percent] => do return ⟨← color? color, ← percent? percent⟩
  | _ => none

/-- A gradient as it is read: degrees, and the stops in order. -/
structure GradientReading where
  angle : Int
  stops : List StopReading
  deriving DecidableEq, Repr

def gradientReading? (text : List Char) : Option GradientReading := do
  match terms (← inside? "linear-gradient" text) with
  | angle :: stops => return ⟨← degrees? angle, ← stops.mapM stopReading?⟩
  | [] => none

/-! ## Shadows -/

def isShadow (effect : Effect) : Bool :=
  effect.kind == .dropShadow || effect.kind == .innerShadow

/-- The shadows of a layer that are drawn, in the order of its effects. -/
def shadows (layer : Layer) : List Effect :=
  layer.effects.filter fun effect => effect.visible && isShadow effect

theorem isShadow_of_mem {layer : Layer} : ∀ effect ∈ shadows layer, isShadow effect = true := by
  intro effect member
  exact ((Bool.and_eq_true _ _).mp (List.mem_filter.mp member).2).2

/-- The colour of what has none, as it is read. -/
def ColorReading.clear : ColorReading := ⟨0, 0, 0, .finite 0⟩

/-- What is read says a shadow: whether it lies inside, its lengths, where a missing offset
or spread is zero, and its colour, where a missing one is transparent. -/
structure ShadowReading.Says (effect : Effect) (reading : ShadowReading) : Prop where
  inset : reading.inset = true ↔ effect.kind = .innerShadow
  x : reading.x.Says (effect.offset.getD ⟨0.0, 0.0⟩).x
  y : reading.y.Says (effect.offset.getD ⟨0.0, 0.0⟩).y
  blur : reading.blur.Says effect.radius
  spread : reading.spread.Says (effect.spread.getD 0.0)
  color : ∀ c, effect.color = some c → reading.color.Says c
  noColor : effect.color = none → reading.color = .clear

def shadowColor (effect : Effect) : String :=
  (effect.color.map color).getD transparent

def shadowParts (effect : Effect) : List String :=
  [pixels (effect.offset.getD Point.zero).x, pixels (effect.offset.getD Point.zero).y,
    pixels effect.radius, pixels (effect.spread.getD 0.0), shadowColor effect]

/-- The keyword in front of a shadow that lies inside. -/
def keywords (effect : Effect) : List String :=
  if effect.kind = .innerShadow then ["inset"] else []

def shadowText (effect : Effect) : String :=
  " ".intercalate (keywords effect ++ shadowParts effect)

theorem shadow?_eq (effect : Effect) :
    shadow? effect = if isShadow effect then some (shadowText effect) else none := by
  have keyword : "inset " = "inset" ++ " " := rfl
  cases kind : effect.kind <;>
    simp [shadow?, isShadow, shadowText, keywords, shadowParts, shadowColor, kind,
      String.intercalate_cons_cons, String.append_assoc, keyword]

theorem shadowProperties_eq (layer : Layer) :
    shadowProperties layer =
      if shadows layer = [] then []
      else [("box-shadow", ", ".intercalate ((shadows layer).map shadowText))] := by
  have collected : layer.visibleEffects.filterMap shadow? = (shadows layer).map shadowText := by
    rw [shadows, ← List.filterMap_eq_map, Layer.visibleEffects, List.filterMap_filter,
      List.filterMap_filter]
    apply List.filterMap_congr
    intro effect _
    rw [shadow?_eq, Function.comp_apply]
    cases effect.visible <;> rfl
  unfold shadowProperties
  rw [collected]
  cases shadows layer with
  | nil => rfl
  | cons first others => rfl

theorem pixels_ne_inset (x : Float) : (pixels x).toList ≠ "inset".toList := by
  intro same
  have lengthEnd : (pixels x).toList.getLast? = some 'x' := by
    rw [pixels, String.toList_append, List.getLast?_append]
    rfl
  have keywordEnd : "inset".toList.getLast? = some 't' := by decide
  rw [same, keywordEnd] at lengthEnd
  exact absurd lengthEnd (by decide)

theorem color?_shadowColor (effect : Effect) :
    ∃ reading, color? (shadowColor effect).toList = some reading ∧
      (∀ c, effect.color = some c → reading.Says c) ∧
        (effect.color = none → reading = .clear) := by
  unfold shadowColor
  cases effect.color with
  | none =>
      have read : color? transparent.toList = some .clear := by decide
      exact ⟨.clear, read, nofun, fun _ => rfl⟩
  | some c =>
      rcases color?_color c with ⟨reading, read, said⟩
      refine ⟨reading, read, ?_, nofun⟩
      intro other same
      exact Option.some.inj same ▸ said

/-- The lengths of a shadow are words, and its colour is a colour, so no part is divided. -/
theorem isWhole_of_mem_shadowParts {separator : Char} (isSeparator : separator ∈ [',', ' '])
    {effect : Effect} {part : String} (member : part ∈ shadowParts effect) :
    IsWhole separator part.toList := by
  have apart : isWordChar separator = false ∧ separator ≠ '(' ∧
      IsWhole separator transparent.toList := by
    rcases List.mem_pair.mp isSeparator with rfl | rfl
    · exact ⟨by decide, by decide, by decide⟩
    · exact ⟨by decide, by decide, by decide⟩
  simp only [shadowParts, List.mem_cons, List.not_mem_nil, or_false] at member
  rcases member with rfl | rfl | rfl | rfl | rfl
  · exact isWhole_of_isWord (isWord_pixels _) apart.1
  · exact isWhole_of_isWord (isWord_pixels _) apart.1
  · exact isWhole_of_isWord (isWord_pixels _) apart.1
  · exact isWhole_of_isWord (isWord_pixels _) apart.1
  · unfold shadowColor
    cases effect.color with
    | none => exact apart.2.2
    | some c => exact isWhole_color apart.1 apart.2.1 c

theorem toList_shadowText (effect : Effect) :
    (shadowText effect).toList =
      " ".toList.intercalate ((keywords effect ++ shadowParts effect).map String.toList) :=
  String.toList_intercalate

theorem isWhole_of_mem_shadow {separator : Char} (isSeparator : separator ∈ [',', ' '])
    (effect : Effect) :
    ∀ text ∈ (keywords effect ++ shadowParts effect).map String.toList,
      IsWhole separator text := by
  intro text member
  rcases List.mem_map.mp member with ⟨part, inParts, rfl⟩
  rcases List.mem_append.mp inParts with isKeyword | inLengths
  · have word : isWord "inset" = true := by decide
    have other : isWordChar separator = false := by
      rcases List.mem_pair.mp isSeparator with rfl | rfl <;> decide
    unfold keywords at isKeyword
    split at isKeyword
    · rw [List.mem_singleton.mp isKeyword]
      exact isWhole_of_isWord word other
    · exact absurd isKeyword List.not_mem_nil
  · exact isWhole_of_mem_shadowParts isSeparator inLengths

theorem lengths?_shadowParts (inset : Bool) {effect : Effect}
    (keyword : inset = true ↔ effect.kind = .innerShadow) :
    ∃ reading, lengths? inset ((shadowParts effect).map String.toList) = some reading ∧
      reading.Says effect := by
  rcases length?_pixels (effect.offset.getD Point.zero).x with ⟨x, readX, saidX⟩
  rcases length?_pixels (effect.offset.getD Point.zero).y with ⟨y, readY, saidY⟩
  rcases length?_pixels effect.radius with ⟨blur, readBlur, saidBlur⟩
  rcases length?_pixels (effect.spread.getD 0.0) with ⟨spread, readSpread, saidSpread⟩
  rcases color?_shadowColor effect with ⟨color, readColor, saidColor, saidNone⟩
  refine ⟨⟨inset, x, y, blur, spread, color⟩, ?_,
    ⟨keyword, saidX, saidY, saidBlur, saidSpread, saidColor, saidNone⟩⟩
  simp only [shadowParts, List.map_cons, List.map_nil, lengths?]
  rw [readX, readY, readBlur, readSpread, readColor]
  rfl

theorem shadowReading?_shadowText (effect : Effect) :
    ∃ reading, shadowReading? (shadowText effect).toList = some reading ∧
      reading.Says effect := by
  have blank : ' ' ∈ [',', ' '] := by simp
  have nonempty : (keywords effect ++ shadowParts effect).map String.toList ≠ [] := by
    simp [shadowParts]
  rw [shadowReading?, toList_shadowText,
    parts_intercalate nonempty (isWhole_of_mem_shadow blank effect), keywords]
  split_ifs with inside
  · rw [List.singleton_append, List.map_cons]
    dsimp only
    rw [if_pos rfl]
    exact lengths?_shadowParts true (iff_of_true rfl inside)
  · rw [List.nil_append, shadowParts, List.map_cons]
    dsimp only
    rw [if_neg (pixels_ne_inset _), ← List.map_cons]
    exact lengths?_shadowParts false (iff_of_false Bool.false_ne_true inside)

theorem isTerm_shadowText {effect : Effect} (drawn : isShadow effect = true) :
    IsTerm (shadowText effect).toList := by
  have comma : ',' ∈ [',', ' '] := by simp
  have gap : IsWhole ',' " ".toList := by decide
  have shown : shadow? effect = some (shadowText effect) := by
    rw [shadow?_eq, if_pos drawn]
  refine ⟨?_, (isPlain_shadow shown).tight⟩
  rw [toList_shadowText]
  exact Text.isWhole_intercalate gap (isWhole_of_mem_shadow comma effect)

/-- Shadows that are written one behind the other are read one by one. -/
theorem shadowReadings?_intercalate {effects : List Effect} (nonempty : effects ≠ [])
    (drawn : ∀ effect ∈ effects, isShadow effect = true) :
    ∃ readings,
      shadowReadings? (", ".intercalate (effects.map shadowText)).toList = some readings ∧
        List.Forall₂ ShadowReading.Says effects readings := by
  have texts : (effects.map shadowText).map String.toList =
      effects.map fun effect => (shadowText effect).toList := List.map_map
  have areTerms : ∀ text ∈ effects.map fun effect => (shadowText effect).toList,
      IsTerm text := by
    intro text member
    rcases List.mem_map.mp member with ⟨effect, inEffects, rfl⟩
    exact isTerm_shadowText (drawn effect inEffects)
  have written : (effects.map fun effect => (shadowText effect).toList) ≠ [] := by
    rw [Ne, List.map_eq_nil_iff]
    exact nonempty
  rw [shadowReadings?, String.toList_intercalate, texts, terms_intercalate written areTerms]
  exact exists_mapM fun effect _ => shadowReading?_shadowText effect

/-! ## Gradients -/

/-- What is read says a stop as it is written. -/
structure StopReading.Repeats (stop : GradientStop) (reading : StopReading) : Prop where
  color : reading.color.Says stop.color
  percent : reading.percent = stop.percent

/-- What is read says a stop of a paint: its colour, and its position in whole percents. -/
structure StopReading.Says (stop : ColorStop) (reading : StopReading) : Prop where
  color : reading.color.Says stop.color
  percent : Decimal.IsWordOf (stop.position * 100.0) reading.percent

def angleText (gradient : Gradient) : String :=
  toString gradient.angle ++ "deg"

def stopParts (stop : GradientStop) : List String :=
  [color stop.color, toString stop.percent ++ "%"]

def stopText (stop : GradientStop) : String :=
  " ".intercalate (stopParts stop)

/-- What stands between the parentheses of a gradient. -/
def gradientParts (gradient : Gradient) : List String :=
  angleText gradient :: gradient.stops.map stopText

theorem renderStop_eq (stop : GradientStop) :
    Gradient.renderStop stop = ", " ++ stopText stop := by
  rw [Gradient.renderStop, stopText, stopParts, String.intercalate_cons_cons,
    String.intercalate_singleton]
  simp only [String.append_assoc]

/-- Stops that each follow a comma stand in one list with the angle in front of them. -/
theorem intercalate_gradientParts (gradient : Gradient) :
    angleText gradient ++ String.join (gradient.stops.map Gradient.renderStop) =
      ", ".intercalate (gradientParts gradient) := by
  apply String.toList_inj.mp
  rw [String.toList_append, String.toList_join, String.toList_intercalate, gradientParts,
    List.map_cons, Text.intercalate_cons, List.flatMap_map, List.map_map, List.flatMap_map]
  simp only [renderStop_eq, String.toList_append, Function.comp_apply]

theorem toList_render (gradient : Gradient) :
    gradient.render.toList = "linear-gradient".toList ++
      '(' :: ", ".toList.intercalate ((gradientParts gradient).map String.toList) ++ [')'] := by
  have opening : "linear-gradient(" = "linear-gradient" ++ "(" := by decide
  have written : gradient.render =
      "linear-gradient" ++ "(" ++ ", ".intercalate (gradientParts gradient) ++ ")" := by
    rw [← opening, ← intercalate_gradientParts]
    unfold Gradient.render angleText
    simp only [String.append_assoc]
  rw [written, toList_call, String.toList_intercalate]

/-- A percentage behind a colour has no blank and no comma in it. -/
theorem isWhole_of_mem_stopParts {separator : Char} (isSeparator : separator ∈ [',', ' '])
    {stop : GradientStop} {part : String} (member : part ∈ stopParts stop) :
    IsWhole separator part.toList := by
  have apart : isWordChar separator = false ∧ separator ≠ '(' ∧
      IsWhole separator "%".toList := by
    rcases List.mem_pair.mp isSeparator with rfl | rfl
    · exact ⟨by decide, by decide, by decide⟩
    · exact ⟨by decide, by decide, by decide⟩
  rcases List.mem_pair.mp member with rfl | rfl
  · exact isWhole_color apart.1 apart.2.1 stop.color
  · rw [String.toList_append]
    exact (isWhole_of_isWord (isWord_int stop.percent) apart.1).append apart.2.2

theorem stopReading?_stopText (stop : GradientStop) :
    ∃ reading, stopReading? (stopText stop).toList = some reading ∧ reading.Repeats stop := by
  have blank : ' ' ∈ [',', ' '] := by simp
  have wholes : ∀ text ∈ (stopParts stop).map String.toList, IsWhole ' ' text := by
    intro text member
    rcases List.mem_map.mp member with ⟨part, inParts, rfl⟩
    exact isWhole_of_mem_stopParts blank inParts
  have nonempty : (stopParts stop).map String.toList ≠ [] := List.cons_ne_nil _ _
  rcases color?_color stop.color with ⟨color, read, said⟩
  refine ⟨⟨color, stop.percent⟩, ?_, said, rfl⟩
  rw [stopReading?, stopText, String.toList_intercalate, parts_intercalate nonempty wholes, stopParts]
  simp only [List.map_cons, List.map_nil]
  rw [read, percent?, String.toList_append, dropSuffix?_append, Option.bind_some, int?_toString]
  rfl

theorem isTerm_stopText (stop : GradientStop) : IsTerm (stopText stop).toList := by
  have comma : ',' ∈ [',', ' '] := by simp
  have gap : IsWhole ',' " ".toList := by decide
  have wholes : ∀ text ∈ (stopParts stop).map String.toList, IsWhole ',' text := by
    intro text member
    rcases List.mem_map.mp member with ⟨part, inParts, rfl⟩
    exact isWhole_of_mem_stopParts comma inParts
  have lead : IsLead (color stop.color ++ " ") :=
    (isPlain_color stop.color).toIsLead.append isUnmarked_blank
  have percent : IsPlain "%" := ⟨⟨by decide, by decide⟩, by decide⟩
  have plain := (lead.append (isPlain_int stop.percent).unmarked).isPlain_append percent
  constructor
  · rw [stopText, String.toList_intercalate]
    exact Text.isWhole_intercalate gap wholes
  · rw [stopText, stopParts, String.intercalate_cons_cons, String.intercalate_singleton,
      ← String.append_assoc]
    exact plain.tight

/-- A gradient is read as its angle and its stops one by one. -/
theorem gradientReading?_render (gradient : Gradient) :
    ∃ stops, gradientReading? gradient.render.toList = some ⟨gradient.angle, stops⟩ ∧
      List.Forall₂ StopReading.Repeats gradient.stops stops := by
  have degrees : isWord "deg" = true := by decide
  have angle : IsTerm (angleText gradient).toList :=
    isTerm_of_isWord (isWord_append (isWord_int gradient.angle) degrees)
  have areTerms : ∀ text ∈ (gradientParts gradient).map String.toList, IsTerm text := by
    rw [gradientParts, List.map_cons, List.map_map, List.forall_mem_cons]
    refine ⟨angle, ?_⟩
    intro text member
    rcases List.mem_map.mp member with ⟨stop, -, rfl⟩
    exact isTerm_stopText stop
  have nonempty : (gradientParts gradient).map String.toList ≠ [] := List.cons_ne_nil _ _
  rcases exists_mapM fun stop (_ : stop ∈ gradient.stops) => stopReading?_stopText stop with
    ⟨stops, read, said⟩
  refine ⟨stops, ?_, said⟩
  rw [gradientReading?, toList_render, inside?_call, Option.bind_eq_bind, Option.bind_some,
    terms_intercalate nonempty areTerms, gradientParts, List.map_cons, List.map_map]
  dsimp only
  rw [angleText, degrees?, String.toList_append, dropSuffix?_append, Option.bind_some,
    int?_toString]
  exact read ▸ rfl

/-! ## Layers and paints -/

variable {layer : Layer} {parent : Option Layer}

theorem get?_shadow :
    (declaration layer parent).get? "box-shadow" =
      if shadows layer = [] then none
      else some (", ".intercalate ((shadows layer).map shadowText)) := by
  have member : ⟨["box-shadow"], shadowProperties layer⟩ ∈ groups layer parent := by
    simp [groups]
  rw [get?_declaration member List.mem_cons_self, shadowProperties_eq]
  split_ifs
  · rfl
  · exact List.lookup_cons_self

/-- A stop of a paint at the nearest whole percentage. -/
def stopOf (stop : ColorStop) : GradientStop :=
  ⟨stop.color, Decimal.nearestInt (stop.position * 100.0)⟩

/-- The gradient of a paint has all stops of the paint and an angle below a full turn. -/
theorem ofPaint?_eq_some {paint : Paint} {gradient : Gradient}
    (made : Gradient.ofPaint? paint = some gradient) :
    gradient.stops = paint.stops.map stopOf ∧ 0 ≤ gradient.angle ∧ gradient.angle < 360 := by
  unfold Gradient.ofPaint? at made
  split at made
  · next stop stops start finish handles kind hasStops hasHandles =>
      rw [Option.some.injEq] at made
      rw [← made, hasStops]
      exact ⟨rfl, Int.emod_nonneg _ (by decide), Int.emod_lt_of_pos _ (by decide)⟩
  · cases made

theorem isSome_ofPaint?_iff {paint : Paint} :
    (Gradient.ofPaint? paint).isSome = true ↔ IsLinear paint := by
  constructor
  · intro made
    by_contra notLinear
    rw [Gradient.ofPaint?_eq_none notLinear] at made
    cases made
  · rintro ⟨linear, handled, stopped⟩
    match handles : paint.handles with
    | [] => simp [handles] at handled
    | [start] => simp [handles] at handled
    | start :: finish :: others =>
        rw [Gradient.ofPaint?_eq linear handles stopped]
        rfl

theorem StopReading.Repeats.says {stop : ColorStop} {reading : StopReading}
    (repeats : reading.Repeats (stopOf stop)) : reading.Says stop := by
  refine ⟨repeats.color, ?_⟩
  rw [repeats.percent]
  exact Decimal.isWordOf_nearestInt _

/-- The lists that are written for a layer and for a paint are read back: the shadows of the
layer that are drawn, each by one term, and if the paint is a linear gradient, an angle and its
stops, each stop by one term. -/
structure ReadsBack (layer : Layer) (parent : Option Layer) (paint : Paint) : Prop where
  absent : (declaration layer parent).get? "box-shadow" = none ↔ shadows layer = []
  shadows : ∀ value, (declaration layer parent).get? "box-shadow" = some value →
    ∃ readings, shadowReadings? value.toList = some readings ∧
      List.Forall₂ ShadowReading.Says (shadows layer) readings
  linear : (Gradient.ofPaint? paint).isSome = true ↔ IsLinear paint
  gradient : ∀ gradient, Gradient.ofPaint? paint = some gradient →
    ∃ angle stops, gradientReading? gradient.render.toList = some ⟨angle, stops⟩ ∧
      0 ≤ angle ∧ angle < 360 ∧ List.Forall₂ StopReading.Says paint.stops stops

theorem readsBack (layer : Layer) (parent : Option Layer) (paint : Paint) :
    ReadsBack layer parent paint := by
  constructor
  · rw [get?_shadow]
    split_ifs with none
    · exact iff_of_true rfl none
    · exact iff_of_false nofun none
  · intro value declared
    rw [get?_shadow] at declared
    split_ifs at declared with none
    rw [← Option.some.inj declared]
    exact shadowReadings?_intercalate none isShadow_of_mem
  · exact isSome_ofPaint?_iff
  · intro gradient made
    rcases ofPaint?_eq_some made with ⟨stops, nonneg, less⟩
    rcases gradientReading?_render gradient with ⟨readings, read, said⟩
    rw [stops, List.forall₂_map_left_iff] at said
    exact ⟨gradient.angle, readings, read, nonneg, less, said.imp fun _ _ => StopReading.Repeats.says⟩

end Style
end Artboard
