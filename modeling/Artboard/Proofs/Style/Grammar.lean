import Artboard.Proofs.Style.Lists

/-!
# The values that properties may have

Every property takes values of one form: words of its own, numbers or lengths in a range,
colours, gradients, shadows, or a few of them in a row.  A value is looked up in the form of
its property and taken apart by the readers for lists.  What is written for a number or a
length is accepted exactly when the double is finite and lies in the range, and a colour when
its alpha value is finite; names that are written in place of numbers are never accepted.

Levels of style sheets differ in how many stops a gradient must have, so the least number of
them is left open.
-/

namespace Artboard
namespace Style

open Decimal (Denotes Reading reading? value?)

/-! ## Ranges -/

/-- Where a number may lie. -/
inductive Range where
  | any
  | nonnegative
  /-- The weights of type. -/
  | weight
  deriving DecidableEq, Repr

namespace Range

def contains : Range → ℚ → Bool
  | .any, _ => true
  | .nonnegative, number => 0 ≤ number
  | .weight, number => 1 ≤ number && number ≤ 1000

def accepts (range : Range) : Reading → Bool
  | .finite number => range.contains number
  | .nan | .infinite _ => false

/-- A double is finite, and its value lies in the range. -/
def Admits (range : Range) (x : Float) : Prop :=
  ∃ value, value? x = some value ∧ range.contains value = true

variable {range : Range} {x : Float}

theorem admits_iff {value : ℚ} (valued : value? x = some value) :
    range.Admits x ↔ range.contains value = true := by
  rw [Admits, valued]
  simp

/-- Any range admits a double that is finite. -/
theorem admits_any_iff : Range.any.Admits x ↔ (value? x).isSome = true := by
  rw [Admits, Option.isSome_iff_exists]
  simp [contains]

theorem not_admits (noValue : value? x = none) : ¬range.Admits x := by
  rintro ⟨value, valued, -⟩
  rw [noValue] at valued
  cases valued

/-- What says a double is accepted exactly when the double lies in the range, if the number
that is read lies in the range exactly when the value does. -/
theorem accepts_iff_of_contains {reading : Reading} (said : reading.Says x)
    (sameSide : ∀ number value, reading = .finite number → value? x = some value →
      (range.contains number = true ↔ range.contains value = true)) :
    range.accepts reading = true ↔ range.Admits x := by
  cases reading with
  | nan =>
      have noValue : value? x = none := by
        rw [value?, said]
      exact iff_of_false Bool.false_ne_true (not_admits noValue)
  | infinite negative =>
      have noValue : value? x = none := by
        rw [value?, said.1]
      exact iff_of_false Bool.false_ne_true (not_admits noValue)
  | finite number =>
      have denotes : Denotes number x := said
      rcases denotes.rounds with ⟨value, valued, -⟩
      rw [admits_iff valued, accepts]
      exact sameSide number value rfl valued

/-- A number has the sign of the double that it denotes, so any number and the numbers that
are not negative need nothing more. -/
theorem accepts_iff (signs : range ≠ .weight) {reading : Reading} (said : reading.Says x) :
    range.accepts reading = true ↔ range.Admits x := by
  apply accepts_iff_of_contains said
  rintro number value rfl valued
  have denotes : Denotes number x := said
  cases range with
  | any => exact Iff.rfl
  | nonnegative =>
      have negative := denotes.negative
      rw [valued] at negative
      simp only [Option.some.injEq, exists_eq_left'] at negative
      simp only [contains, decide_eq_true_eq]
      rw [← not_lt, negative, not_lt]
  | weight => exact absurd rfl signs

end Range

/-- Numbers that are written, each with the range in which it has to lie. -/
abbrev Numbers : Type := List (Range × Float)

def AreAdmitted (numbers : Numbers) : Prop :=
  ∀ entry ∈ numbers, entry.1.Admits entry.2

theorem areAdmitted_nil : AreAdmitted [] :=
  fun _ member => absurd member List.not_mem_nil

theorem areAdmitted_cons {range : Range} {x : Float} {others : Numbers} :
    AreAdmitted ((range, x) :: others) ↔ range.Admits x ∧ AreAdmitted others :=
  List.forall_mem_cons

theorem areAdmitted_append {first second : Numbers} :
    AreAdmitted (first ++ second) ↔ AreAdmitted first ∧ AreAdmitted second :=
  List.forall_mem_append

theorem areAdmitted_flatMap {α : Type} {items : List α} {numbers : α → Numbers} :
    AreAdmitted (items.flatMap numbers) ↔ ∀ item ∈ items, AreAdmitted (numbers item) := by
  simp only [AreAdmitted, List.mem_flatMap]
  constructor
  · intro admitted item member entry inNumbers
    exact admitted entry ⟨item, member, inNumbers⟩
  · rintro admitted entry ⟨item, member, inNumbers⟩
    exact admitted item member entry inNumbers

/-! ## Forms of values -/

def isNumber (range : Range) (text : List Char) : Bool :=
  (reading? text).any range.accepts

def isLength (range : Range) (text : List Char) : Bool :=
  (length? text).any range.accepts

def ColorReading.isFinite (reading : ColorReading) : Bool :=
  Range.any.accepts reading.alpha

def isColor (text : List Char) : Bool :=
  (color? text).any ColorReading.isFinite

/-- A shadow may lie anywhere and shrink, but its blur has a size. -/
def ShadowReading.isFinite (reading : ShadowReading) : Bool :=
  Range.any.accepts reading.x && Range.any.accepts reading.y &&
    Range.nonnegative.accepts reading.blur && Range.any.accepts reading.spread &&
      reading.color.isFinite

def areShadows (text : List Char) : Bool :=
  (shadowReadings? text).any fun readings => readings.all ShadowReading.isFinite

def GradientReading.isComplete (leastStops : Nat) (reading : GradientReading) : Bool :=
  leastStops ≤ reading.stops.length && reading.stops.all fun stop => stop.color.isFinite

/-- An image behind a layer, or the word for none. -/
def isImage (leastStops : Nat) (text : List Char) : Bool :=
  text == "none".toList || (gradientReading? text).any fun reading => reading.isComplete leastStops

def lineStyles : List String :=
  ["none", "hidden", "dotted", "dashed", "solid", "double", "groove", "ridge", "inset", "outset"]

/-- A width, the style of a line and a colour. -/
def isBorder (text : List Char) : Bool :=
  match parts text with
  | [width, line, color] =>
    isLength .nonnegative width && lineStyles.contains (String.ofList line) && isColor color
  | _ => false

def isMargin (text : List Char) : Bool :=
  text == "auto".toList || text == "0".toList || isLength .any text

/-- Margins for one to four sides. -/
def areMargins (text : List Char) : Bool :=
  (parts text).length ≤ 4 && (parts text).all isMargin

/-- Characters that stand for themselves in a string between single quotes. -/
def isStringChar (c : Char) : Bool :=
  c != '\'' && c != '\\' && c != '\n' && c != '\r' && c != '\x0c'

/-- A quoted family, and a generic one for want of it. -/
def isFamily : List Char → Bool
  | '\'' :: text => text.dropWhile isStringChar == "', sans-serif".toList
  | _ => false

/-- The form that the values of a property have. -/
inductive Form where
  | keyword (words : List String)
  | number (range : Range)
  | length (range : Range)
  | margins
  | color
  | image
  | border
  | shadows
  | family
  deriving DecidableEq, Repr

def Form.accepts (leastStops : Nat) : Form → String → Bool
  | .keyword words, value => words.contains value
  | .number range, value => isNumber range value.toList
  | .length range, value => isLength range value.toList
  | .margins, value => areMargins value.toList
  | .color, value => isColor value.toList
  | .image, value => isImage leastStops value.toList
  | .border, value => isBorder value.toList
  | .shadows, value => areShadows value.toList
  | .family, value => isFamily value.toList

/-- The forms of the properties that are declared. -/
def forms : List (String × Form) :=
  [("display", .keyword ["none", "contents", "block", "inline", "flow-root", "inline-block",
      "flex", "inline-flex", "grid", "inline-grid"]),
    ("flex-direction", .keyword ["row", "row-reverse", "column", "column-reverse"]),
    ("justify-content", .keyword ["normal", "flex-start", "flex-end", "center", "start", "end",
      "left", "right", "space-between", "space-around", "space-evenly", "stretch"]),
    ("align-items", .keyword ["normal", "flex-start", "flex-end", "center", "start", "end",
      "self-start", "self-end", "baseline", "stretch"]),
    ("gap", .length .nonnegative),
    ("padding-top", .length .nonnegative),
    ("padding-right", .length .nonnegative),
    ("padding-bottom", .length .nonnegative),
    ("padding-left", .length .nonnegative),
    ("position", .keyword ["static", "relative", "absolute", "sticky", "fixed"]),
    ("margin", .margins),
    ("left", .length .any),
    ("top", .length .any),
    ("width", .length .nonnegative),
    ("height", .length .nonnegative),
    ("background-color", .color),
    ("background", .image),
    ("border", .border),
    ("box-shadow", .shadows),
    ("font-family", .family),
    ("font-weight", .number .weight),
    ("font-size", .length .nonnegative),
    ("text-align", .keyword ["left", "right", "center", "justify"]),
    ("line-height", .length .nonnegative),
    ("letter-spacing", .length .any),
    ("color", .color),
    ("border-radius", .length .nonnegative)]

/-- The value of a property has the form of the property. -/
def isValid (leastStops : Nat) (entry : String × String) : Bool :=
  (forms.lookup entry.1).any fun form => form.accepts leastStops entry.2

theorem isValid_of_lookup {leastStops : Nat} {property : String} {form : Form}
    (formed : forms.lookup property = some form) (value : String) :
    isValid leastStops (property, value) = form.accepts leastStops value := by
  rw [isValid, formed, Option.any_some]

/-! ## Numbers and lengths -/

theorem isLength_pixels {range : Range} (signs : range ≠ .weight) (x : Float) :
    isLength range (pixels x).toList = true ↔ range.Admits x := by
  rcases length?_pixels x with ⟨reading, read, said⟩
  rw [isLength, read, Option.any_some]
  exact Range.accepts_iff signs said

/-- A weight lies between the bounds exactly when what is written for it does, since the
bounds themselves are written as they are. -/
theorem isNumber_weight (x : Float) :
    isNumber .weight (number x).toList = true ↔ Range.weight.Admits x := by
  rcases reading?_number x with ⟨reading, read, said⟩
  rw [isNumber, read, Option.any_some]
  apply Range.accepts_iff_of_contains said
  rintro number value rfl valued
  have denotes : Denotes number x := said
  rcases denotes.rounds with ⟨rounded, isRounded, rounds⟩
  rw [valued, Option.some.injEq] at isRounded
  subst isRounded
  have isValue := Decimal.isValue_of_value? valued
  have same : ∀ bound, IsExact bound → value = bound → number = bound := by
    intro bound exact isBound
    have written := reading?_number_of_exact exact (isBound ▸ valued)
    rw [read, Option.some.injEq, Reading.finite.injEq] at written
    exact written
  have lower := rounds.bound_le_iff isValue isExact_one.isValue (same 1 isExact_one)
  have upper := rounds.le_bound_iff isValue isExact_thousand.isValue (same 1000 isExact_thousand)
  simp only [Range.contains, Bool.and_eq_true, decide_eq_true_eq]
  rw [lower, upper]

/-! ## Colours, borders and shadows -/

/-- Channels are always written as whole numbers, so only the alpha value counts. -/
def colorNumbers (c : Color) : Numbers :=
  [(.any, hundredths c.alpha)]

/-- What says an alpha value is a number exactly when the alpha value is one. -/
theorem SaysAlpha.accepts_iff {x : Float} {reading : Reading} (said : SaysAlpha x reading) :
    Range.any.accepts reading = true ↔ (kept? x).isSome = true := by
  cases kept : kept? x with
  | none =>
      rw [said.nan kept]
      exact iff_of_false Bool.false_ne_true Bool.false_ne_true
  | some share =>
      rcases said.share share kept with ⟨steps, -, rfl⟩
      exact iff_of_true rfl rfl

theorem admits_hundredths_iff (x : Float) :
    Range.any.Admits (hundredths x) ↔ (kept? x).isSome = true := by
  rcases reading?_alpha x with ⟨reading, read, said⟩
  rcases Decimal.reading?_plain (hundredths x) with ⟨same, readSame, saidSame⟩
  have written : (alpha x).toList = (Decimal.plain (hundredths x)).toList := rfl
  rw [written, readSame, Option.some.injEq] at read
  rw [← Range.accepts_iff (by decide) saidSame, read, said.accepts_iff]

theorem ColorReading.isFinite_iff {c : Color} {reading : ColorReading} (said : reading.Says c) :
    reading.isFinite = true ↔ AreAdmitted (colorNumbers c) := by
  rw [ColorReading.isFinite, said.alpha.accepts_iff, colorNumbers, areAdmitted_cons,
    iff_true_intro areAdmitted_nil, and_true, admits_hundredths_iff]

theorem isColor_color (c : Color) :
    isColor (color c).toList = true ↔ AreAdmitted (colorNumbers c) := by
  rcases color?_color c with ⟨reading, read, said⟩
  rw [isColor, read, Option.any_some]
  exact ColorReading.isFinite_iff said

theorem isBorder_border (width : Float) (c : Color) :
    isBorder (pixels width ++ " solid " ++ color c).toList = true ↔
      AreAdmitted ((.nonnegative, width) :: colorNumbers c) := by
  have solid : isWord "solid" = true := by decide
  have wholes : ∀ text ∈ [pixels width, "solid", color c].map String.toList,
      Text.IsWhole ' ' text := by
    simp only [List.map_cons, List.map_nil, List.forall_mem_cons]
    exact ⟨isWhole_of_isWord (isWord_pixels width) (by decide),
      isWhole_of_isWord solid (by decide), isWhole_color (by decide) (by decide) c,
      fun _ member => absurd member List.not_mem_nil⟩
  have nonempty : [pixels width, "solid", color c].map String.toList ≠ [] :=
    List.cons_ne_nil _ _
  have written : pixels width ++ " solid " ++ color c =
      " ".intercalate [pixels width, "solid", color c] := by
    have between : " solid " = " " ++ "solid" ++ " " := by decide
    simp only [between, String.intercalate_cons_cons, String.intercalate_singleton,
      String.append_assoc]
  have styled : lineStyles.contains (String.ofList "solid".toList) = true := by
    rw [String.ofList_toList]
    decide
  rw [written, isBorder, String.toList_intercalate, parts_intercalate nonempty wholes]
  simp only [List.map_cons, List.map_nil]
  rw [styled, Bool.and_true, Bool.and_eq_true, isLength_pixels (by decide), isColor_color,
    areAdmitted_cons]

/-- The blur of a shadow has a size, and everything else may have a sign. -/
def shadowNumbers (effect : Effect) : Numbers :=
  [(.any, (effect.offset.getD Point.zero).x), (.any, (effect.offset.getD Point.zero).y),
    (.nonnegative, effect.radius), (.any, effect.spread.getD 0.0)] ++
      effect.color.toList.flatMap colorNumbers

theorem ShadowReading.isFinite_iff {effect : Effect} {reading : ShadowReading}
    (said : reading.Says effect) :
    reading.isFinite = true ↔ AreAdmitted (shadowNumbers effect) := by
  have x : Range.any.accepts reading.x = true ↔
      Range.any.Admits (effect.offset.getD Point.zero).x := Range.accepts_iff (by decide) said.x
  have y : Range.any.accepts reading.y = true ↔
      Range.any.Admits (effect.offset.getD Point.zero).y := Range.accepts_iff (by decide) said.y
  have blur : Range.nonnegative.accepts reading.blur = true ↔ _ :=
    Range.accepts_iff (by decide) said.blur
  have spread : Range.any.accepts reading.spread = true ↔ _ :=
    Range.accepts_iff (by decide) said.spread
  have colored : reading.color.isFinite = true ↔
      AreAdmitted (effect.color.toList.flatMap colorNumbers) := by
    cases known : effect.color with
    | none =>
        rw [said.noColor known]
        exact iff_of_true rfl areAdmitted_nil
    | some c =>
        rw [ColorReading.isFinite_iff (said.color c known), Option.toList_some,
          List.flatMap_singleton]
  simp only [ShadowReading.isFinite, Bool.and_eq_true, x, y, blur, spread, colored, and_assoc,
    shadowNumbers, List.cons_append, List.nil_append, areAdmitted_cons]

/-- What holds of an item exactly when something holds of its reading holds of all of them
alike. -/
theorem forall_mem_iff_of_forall₂ {α β : Type} {Says : α → β → Prop} {items : List α}
    {readings : List β} {Holds : α → Prop} {Reads : β → Prop}
    (said : List.Forall₂ Says items readings)
    (alike : ∀ item reading, Says item reading → (Reads reading ↔ Holds item)) :
    (∀ reading ∈ readings, Reads reading) ↔ ∀ item ∈ items, Holds item := by
  induction said with
  | nil => simp
  | cons first others inductionHypothesis =>
      rw [List.forall_mem_cons, List.forall_mem_cons, alike _ _ first, inductionHypothesis]

theorem areShadows_intercalate {effects : List Effect} (nonempty : effects ≠ [])
    (drawn : ∀ effect ∈ effects, isShadow effect = true) :
    areShadows (", ".intercalate (effects.map shadowText)).toList = true ↔
      AreAdmitted (effects.flatMap shadowNumbers) := by
  rcases shadowReadings?_intercalate nonempty drawn with ⟨readings, read, said⟩
  rw [areShadows, read, Option.any_some, List.all_eq_true, areAdmitted_flatMap]
  exact forall_mem_iff_of_forall₂ said fun _ _ => ShadowReading.isFinite_iff

/-! ## Gradients -/

def gradientNumbers (gradient : Gradient) : Numbers :=
  gradient.stops.flatMap fun stop => colorNumbers stop.color

theorem isImage_render (leastStops : Nat) (gradient : Gradient) :
    isImage leastStops gradient.render.toList = true ↔
      leastStops ≤ gradient.stops.length ∧ AreAdmitted (gradientNumbers gradient) := by
  rcases gradientReading?_render gradient with ⟨stops, read, said⟩
  have noImage : gradientReading? "none".toList = none := by decide
  have different : gradient.render.toList ≠ "none".toList := by
    intro same
    rw [same, noImage] at read
    cases read
  have finite := forall_mem_iff_of_forall₂ said fun stop reading saidStop =>
    ColorReading.isFinite_iff saidStop.color
  rw [isImage, beq_eq_false_iff_ne.mpr different, Bool.false_or, read, Option.any_some,
    GradientReading.isComplete, Bool.and_eq_true, List.all_eq_true, decide_eq_true_eq, finite,
    gradientNumbers, areAdmitted_flatMap, said.length_eq]

/-! ## Families -/

def isControl (c : Char) : Bool :=
  c.toNat < 0x20 || (0x7F ≤ c.toNat && c.toNat < 0xA0)

def isCleanChar (c : Char) : Bool :=
  c != '\'' && c != '"' && c != '\\' && !isControl c

/-- No quote, backslash or control character is in a family. -/
def IsClean (family : String) : Prop :=
  ∀ c ∈ family.toList, isCleanChar c = true

theorem isStringChar_of_isClean {family : String} (clean : IsClean family) :
    ∀ c ∈ family.toList, isStringChar c = true := by
  intro c member
  have cleanChar := clean c member
  simp only [isCleanChar, Bool.and_eq_true, bne_iff_ne, Bool.not_eq_true'] at cleanChar
  rcases cleanChar with ⟨⟨⟨noQuote, -⟩, noBackslash⟩, noControl⟩
  have noBreak : ∀ line ∈ ['\n', '\r', '\x0c'], c ≠ line := by
    have controls : ['\n', '\r', '\x0c'].all isControl = true := by decide
    rintro line isLine rfl
    rw [List.all_eq_true.mp controls c isLine] at noControl
    cases noControl
  simp only [List.forall_mem_cons] at noBreak
  simp only [isStringChar, bne_iff_ne, Bool.and_eq_true]
  exact ⟨⟨⟨⟨noQuote, noBackslash⟩, noBreak.1⟩, noBreak.2.1⟩, noBreak.2.2.1⟩

theorem isFamily_quoted {family : String} (clean : IsClean family) :
    isFamily ("'" ++ family ++ "', sans-serif").toList = true := by
  have front : "'".toList = ['\''] := String.toList_ofList
  have back : "', sans-serif".toList = '\'' :: ", sans-serif".toList := by
    rw [String.toList_ofList, String.toList_ofList]
  have closes : isStringChar '\'' = false := by decide
  rw [String.toList_append, String.toList_append, front, List.singleton_append, List.cons_append,
    isFamily, List.dropWhile_append_of_pos (isStringChar_of_isClean clean), back,
    List.dropWhile_cons_of_neg (Bool.eq_false_iff.mp closes)]
  exact beq_self_eq_true _

end Style
end Artboard
