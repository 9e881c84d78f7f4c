import Artboard.Proofs.Json.Attempt
import Artboard.Proofs.Style.Grammar
import Artboard.Wire.Node

/-!
# Valid declarations

Group by group, what is declared for a layer has the forms of its properties exactly when the
numbers that are written for the group lie in the ranges of their properties.  Beside the
numbers two things can go wrong: a text that is justified, whose alignment is written with
the word of the wire and not with that of style sheets, and a gradient with too few stops for
the level in use.  Everything else that is declared is a word that its property has.

Numbers are written as the design has them.  So a spacing, a size, a border, a blur, a type
size, a line height or a corner below zero makes its declaration invalid.
-/

namespace Artboard
namespace Style

/-- The values of all entries have the forms of their properties. -/
def AreValid (leastStops : Nat) (entries : List (String × String)) : Prop :=
  ∀ entry ∈ entries, isValid leastStops entry = true

variable {leastStops : Nat} {layer : Layer} {parent : Option Layer}

/-! ## Entries -/

theorem areValid_nil : AreValid leastStops [] :=
  fun _ member => absurd member List.not_mem_nil

theorem areValid_cons {property value : String} {form : Form}
    (formed : forms.lookup property = some form) {others : List (String × String)} :
    AreValid leastStops ((property, value) :: others) ↔
      form.accepts leastStops value = true ∧ AreValid leastStops others := by
  rw [← isValid_of_lookup formed]
  exact List.forall_mem_cons

/-- A word that a property has makes no difference. -/
theorem areValid_keyword {property value : String} {words : List String}
    (formed : forms.lookup property = some (.keyword words))
    (known : words.contains value = true) {others : List (String × String)} :
    AreValid leastStops ((property, value) :: others) ↔ AreValid leastStops others := by
  rw [areValid_cons formed, Form.accepts, known, iff_true_intro rfl, true_and]

theorem areValid_append {first second : List (String × String)} :
    AreValid leastStops (first ++ second) ↔
      AreValid leastStops first ∧ AreValid leastStops second :=
  List.forall_mem_append

theorem areValid_optional {property : String} {form : Form}
    (formed : forms.lookup property = some form) {value : Option String} :
    AreValid leastStops (optional property value) ↔
      ∀ text, value = some text → form.accepts leastStops text = true := by
  cases value with
  | none => exact iff_of_true areValid_nil nofun
  | some text =>
      rw [optional, areValid_cons formed, iff_true_intro areValid_nil, and_true]
      simp

/-- A length that is declared unless it is next to zero. -/
def lengthNumbers (range : Range) (length : Option Float) : Numbers :=
  ((nonZero length).map fun x => (range, x)).toList

theorem areValid_length {property : String} {range : Range}
    (formed : forms.lookup property = some (.length range)) (signs : range ≠ .weight)
    {length : Option Float} :
    AreValid leastStops (optional property ((nonZero length).map pixels)) ↔
      AreAdmitted (lengthNumbers range length) := by
  rw [areValid_optional formed, lengthNumbers]
  cases nonZero length with
  | none => exact iff_of_true nofun areAdmitted_nil
  | some x =>
      rw [Option.map_some, Option.map_some, Option.toList_some, areAdmitted_cons,
        iff_true_intro areAdmitted_nil, and_true, ← isLength_pixels signs]
      simp [Form.accepts]

/-! ## Layout and place -/

def flexNumbers (layer : Layer) : Numbers :=
  if layer.hasAutoLayout then
    lengthNumbers .nonnegative layer.itemSpacing ++
      lengthNumbers .nonnegative layer.padding.top ++
      lengthNumbers .nonnegative layer.padding.right ++
      lengthNumbers .nonnegative layer.padding.bottom ++
      lengthNumbers .nonnegative layer.padding.left
  else []

theorem areValid_alignment {property : String} {words : List String}
    (formed : forms.lookup property = some (.keyword words)) {keyword : AxisAlign → String}
    (known : ∀ align, words.contains (keyword align) = true) (align : Option AxisAlign) :
    AreValid leastStops (optional property (align.map keyword)) := by
  rw [areValid_optional formed]
  intro text written
  rcases Option.map_eq_some_iff.mp written with ⟨align, -, rfl⟩
  exact known align

theorem areValid_flex :
    AreValid leastStops (flexProperties layer) ↔ AreAdmitted (flexNumbers layer) := by
  unfold flexProperties flexNumbers
  split
  · have row : ["row", "row-reverse", "column", "column-reverse"].contains
        (flexDirection layer.layoutMode) = true := by
      rcases layer.layoutMode with _ | _ | _ | _ <;> decide
    have fixed : AreValid leastStops
        [("display", "flex"), ("flex-direction", flexDirection layer.layoutMode)] := by
      rw [areValid_keyword rfl (by decide), areValid_keyword rfl row]
      exact areValid_nil
    have justify : AreValid leastStops
        (optional "justify-content" (layer.primaryAlign.map justifyContent)) :=
      areValid_alignment rfl (fun align => by cases align <;> decide) layer.primaryAlign
    have align : AreValid leastStops
        (optional "align-items" (layer.counterAlign.map alignItems)) :=
      areValid_alignment rfl (fun align => by cases align <;> decide) layer.counterAlign
    have signs : Range.nonnegative ≠ .weight := by decide
    simp only [areValid_append, areAdmitted_append, fixed, justify, align, true_and]
    rw [areValid_length rfl signs, areValid_length rfl signs, areValid_length rfl signs,
      areValid_length rfl signs, areValid_length rfl signs]
  · exact iff_of_true areValid_nil areAdmitted_nil

def positionNumbers (layer : Layer) (parent : Option Layer) : Numbers :=
  match placement layer parent, offset? layer parent with
  | .absolute, some offset => [(.any, offset.x), (.any, offset.y)]
  | _, _ => []

theorem areValid_position :
    AreValid leastStops (positionProperties layer parent) ↔
      AreAdmitted (positionNumbers layer parent) := by
  unfold positionProperties positionNumbers
  cases placement layer parent with
  | root =>
      have centred : areMargins "0 auto".toList = true := by decide
      rw [areValid_keyword rfl (by decide), areValid_cons rfl, Form.accepts, centred]
      exact iff_of_true ⟨rfl, areValid_nil⟩ areAdmitted_nil
  | flow =>
      rw [areValid_keyword rfl (by decide)]
      exact iff_of_true areValid_nil areAdmitted_nil
  | absolute =>
      cases offset? layer parent with
      | none =>
          rw [areValid_keyword rfl (by decide)]
          exact iff_of_true areValid_nil areAdmitted_nil
      | some offset =>
          dsimp only
          rw [areValid_keyword rfl (by decide), areValid_cons rfl, areValid_cons rfl,
            Form.accepts, Form.accepts, isLength_pixels (by decide),
            isLength_pixels (by decide), iff_true_intro areValid_nil, areAdmitted_cons,
            areAdmitted_cons, iff_true_intro areAdmitted_nil]

def sizeNumbers (layer : Layer) : Numbers :=
  match layer.bounds with
  | some bounds => [(.nonnegative, bounds.width), (.nonnegative, bounds.height)]
  | none => []

theorem areValid_size :
    AreValid leastStops (sizeProperties layer) ↔ AreAdmitted (sizeNumbers layer) := by
  unfold sizeProperties sizeNumbers
  cases layer.bounds with
  | none => exact iff_of_true areValid_nil areAdmitted_nil
  | some bounds =>
      dsimp only
      rw [areValid_cons rfl, areValid_cons rfl, Form.accepts, Form.accepts,
        isLength_pixels (by decide), isLength_pixels (by decide), iff_true_intro areValid_nil,
        areAdmitted_cons, areAdmitted_cons, iff_true_intro areAdmitted_nil]

/-! ## Background, border and shadow -/

/-- The gradient that is behind a layer. -/
def backgroundGradient? (layer : Layer) : Option Gradient :=
  (backgroundFill? layer).bind Gradient.ofPaint?

/-- The colour of a paint that is one flat colour. -/
def flatColor? (paint : Paint) : Option Color :=
  if paint.kind = .solid then paint.color else none

theorem solidColor?_eq (paint : Paint) : solidColor? paint = (flatColor? paint).map color := by
  unfold solidColor? flatColor?
  cases paint.kind <;> rfl

def backgroundNumbers (layer : Layer) : Numbers :=
  ((backgroundFill? layer).bind flatColor?).toList.flatMap colorNumbers ++
    (backgroundGradient? layer).toList.flatMap gradientNumbers

theorem isImage_noGradient : isImage leastStops noGradient.toList = true := by
  rw [isImage, noGradient, beq_self_eq_true, Bool.true_or]

/-- A colour, if there is one. -/
theorem areValid_color {property : String} (formed : forms.lookup property = some .color)
    (known : Option Color) :
    AreValid leastStops (optional property (known.map color)) ↔
      AreAdmitted (known.toList.flatMap colorNumbers) := by
  rw [areValid_optional formed]
  cases known with
  | none => exact iff_of_true nofun areAdmitted_nil
  | some c =>
      rw [Option.toList_some, List.flatMap_singleton, ← isColor_color]
      simp [Form.accepts]

/-- A gradient is the background of the kinds of paint that have one, and only a linear one
can be written. -/
theorem areValid_background_gradient {fill : Paint} :
    AreValid leastStops
        [("background", ((Gradient.ofPaint? fill).map Gradient.render).getD noGradient)] ↔
      (∀ gradient, Gradient.ofPaint? fill = some gradient →
        leastStops ≤ gradient.stops.length) ∧
        AreAdmitted ((Gradient.ofPaint? fill).toList.flatMap gradientNumbers) := by
  rw [areValid_cons rfl, Form.accepts, iff_true_intro areValid_nil, and_true]
  cases Gradient.ofPaint? fill with
  | none => exact iff_of_true isImage_noGradient ⟨nofun, areAdmitted_nil⟩
  | some gradient =>
      rw [Option.map_some, Option.getD_some, isImage_render, Option.toList_some,
        List.flatMap_singleton]
      simp

theorem ofPaint?_of_not_linear {fill : Paint} (other : fill.kind ≠ .gradientLinear) :
    Gradient.ofPaint? fill = none := by
  unfold Gradient.ofPaint?
  split
  · next kind _ _ => exact absurd kind other
  · rfl

theorem areValid_background :
    AreValid leastStops (backgroundProperties layer) ↔
      (∀ gradient, backgroundGradient? layer = some gradient →
        leastStops ≤ gradient.stops.length) ∧ AreAdmitted (backgroundNumbers layer) := by
  unfold backgroundProperties backgroundNumbers backgroundGradient?
  cases backgroundFill? layer with
  | none => exact iff_of_true areValid_nil ⟨nofun, areAdmitted_nil⟩
  | some fill =>
      rw [Option.bind_some, Option.bind_some]
      dsimp only
      by_cases solid : fill.kind = .solid
      · have noGradient : Gradient.ofPaint? fill = none :=
          ofPaint?_of_not_linear (solid ▸ by decide)
        rw [noGradient, Option.toList_none, List.flatMap_nil, List.append_nil, solid,
          if_pos (by decide), areValid_color rfl, flatColor?, if_pos solid]
        exact ⟨fun admitted => ⟨nofun, admitted⟩, fun both => both.2⟩
      · have noColor : flatColor? fill = none := if_neg solid
        rw [noColor, Option.toList_none, List.flatMap_nil, List.nil_append,
          if_neg (beq_iff_eq.not.mpr solid)]
        split
        · exact areValid_background_gradient
        · next noGradientKind =>
            have noGradient : Gradient.ofPaint? fill = none := by
              apply ofPaint?_of_not_linear
              intro linear
              rw [linear] at noGradientKind
              exact noGradientKind rfl
            rw [noGradient]
            exact iff_of_true areValid_nil ⟨nofun, areAdmitted_nil⟩

def borderNumbers (layer : Layer) : Numbers :=
  match nonZero layer.strokeWeight, layer.visibleStrokes.head?.bind flatColor? with
  | some weight, some c => (.nonnegative, weight) :: colorNumbers c
  | _, _ => []

theorem areValid_border :
    AreValid leastStops (borderProperties layer) ↔ AreAdmitted (borderNumbers layer) := by
  unfold borderProperties borderNumbers
  rw [areValid_optional rfl]
  cases nonZero layer.strokeWeight with
  | none => exact iff_of_true nofun areAdmitted_nil
  | some weight =>
      cases layer.visibleStrokes.head? with
      | none => exact iff_of_true nofun areAdmitted_nil
      | some stroke =>
          simp only [Option.bind_eq_bind, Option.bind_some, solidColor?_eq]
          cases flatColor? stroke with
          | none => exact iff_of_true nofun areAdmitted_nil
          | some c =>
              rw [← isBorder_border]
              simp [Form.accepts]

theorem areValid_shadow :
    AreValid leastStops (shadowProperties layer) ↔
      AreAdmitted ((shadows layer).flatMap shadowNumbers) := by
  rw [shadowProperties_eq]
  split_ifs with none
  · rw [none]
    exact iff_of_true areValid_nil areAdmitted_nil
  · rw [areValid_cons rfl, Form.accepts, areShadows_intercalate none isShadow_of_mem,
      iff_true_intro areValid_nil, and_true]

/-! ## Type and corners -/

def styleNumbers (style : TypeStyle) : Numbers :=
  [(Range.weight, style.fontWeight), (Range.nonnegative, style.fontSize)] ++
    lengthNumbers .nonnegative style.lineHeightPx ++ lengthNumbers .any style.letterSpacing

def typeNumbers (layer : Layer) : Numbers :=
  match shownTextStyle? layer with
  | none => []
  | some style =>
    styleNumbers style ++ (layer.visibleFills.head?.bind flatColor?).toList.flatMap colorNumbers

/-- The word that is written for an alignment is one that style sheets have, unless it is
justified. -/
theorem accepts_textAlign (align : TextAlign) :
    ["left", "right", "center", "justify"].contains (textAlign align) = true ↔
      align ≠ .justified := by
  cases align <;> decide

/-- The properties of type that are always declared. -/
theorem areValid_fixedType {style : TypeStyle} (clean : IsClean style.fontFamily) :
    AreValid leastStops [("font-family", "'" ++ style.fontFamily ++ "', sans-serif"),
        ("font-weight", number style.fontWeight), ("font-size", pixels style.fontSize),
        ("text-align", textAlign style.alignHorizontal)] ↔
      style.alignHorizontal ≠ .justified ∧ Range.weight.Admits style.fontWeight ∧
        Range.nonnegative.Admits style.fontSize := by
  rw [areValid_cons rfl, areValid_cons rfl, areValid_cons rfl, areValid_cons rfl, Form.accepts,
    Form.accepts, Form.accepts, Form.accepts, isFamily_quoted clean, isNumber_weight,
    isLength_pixels (by decide), accepts_textAlign, iff_true_intro areValid_nil,
    iff_true_intro rfl, true_and, and_true]
  constructor
  · rintro ⟨weight, size, aligned⟩
    exact ⟨aligned, weight, size⟩
  · rintro ⟨aligned, weight, size⟩
    exact ⟨weight, size, aligned⟩

theorem areValid_type (clean : ∀ family, fontFamily? layer = some family → IsClean family) :
    AreValid leastStops (typeProperties layer) ↔
      (∀ style, shownTextStyle? layer = some style → style.alignHorizontal ≠ .justified) ∧
        AreAdmitted (typeNumbers layer) := by
  unfold typeProperties typeNumbers
  unfold fontFamily? at clean
  cases shown : shownTextStyle? layer with
  | none =>
      refine iff_of_true areValid_nil ⟨?_, areAdmitted_nil⟩
      intro style same
      cases same
  | some style =>
      have cleanFamily := clean style.fontFamily (by rw [shown, Option.map_some])
      have colored : layer.visibleFills.head?.bind solidColor? =
          (layer.visibleFills.head?.bind flatColor?).map color := by
        rw [Option.map_bind]
        exact congrArg _ (funext solidColor?_eq)
      dsimp only
      rw [areValid_append, areValid_append, areValid_append, areValid_fixedType cleanFamily,
        areValid_length rfl (by decide), areValid_length rfl (by decide), colored,
        areValid_color rfl, styleNumbers, areAdmitted_append, areAdmitted_append,
        areAdmitted_append, areAdmitted_cons, areAdmitted_cons, iff_true_intro areAdmitted_nil,
        and_true]
      simp only [Option.some.injEq, forall_eq', and_assoc]

theorem areValid_corner :
    AreValid leastStops (cornerProperties layer) ↔
      AreAdmitted (lengthNumbers .nonnegative layer.cornerRadius) :=
  areValid_length rfl (by decide)

/-! ## Declarations -/

/-- The numbers that are written for a layer, with the ranges of their properties. -/
def printed (layer : Layer) (parent : Option Layer) : Numbers :=
  flexNumbers layer ++ positionNumbers layer parent ++ sizeNumbers layer ++
    backgroundNumbers layer ++ borderNumbers layer ++ (shadows layer).flatMap shadowNumbers ++
    typeNumbers layer ++ lengthNumbers .nonnegative layer.cornerRadius

/-- What makes a declaration valid: the numbers are in the ranges of their properties, a text
is not justified, and the gradient behind a layer has stops enough. -/
structure IsSound (leastStops : Nat) (layer : Layer) (parent : Option Layer) : Prop where
  numbers : AreAdmitted (printed layer parent)
  aligned : ∀ style, shownTextStyle? layer = some style → style.alignHorizontal ≠ .justified
  blended : ∀ gradient, backgroundGradient? layer = some gradient →
    leastStops ≤ gradient.stops.length

/-- Every value of a declaration has the form of its property exactly when the layer is
sound, if the font family has nothing in it that would end a string. -/
theorem areValid_declaration_iff
    (clean : ∀ family, fontFamily? layer = some family → IsClean family) :
    AreValid leastStops (declaration layer parent).properties ↔
      IsSound leastStops layer parent := by
  rw [declaration]
  dsimp only
  rw [areValid_append, areValid_append, areValid_append, areValid_append, areValid_append,
    areValid_append, areValid_append, areValid_flex, areValid_position, areValid_size,
    areValid_background, areValid_border, areValid_shadow, areValid_type clean, areValid_corner]
  constructor
  · rintro ⟨⟨⟨⟨⟨⟨⟨flex, position⟩, size⟩, blended, background⟩, border⟩, shadow⟩, aligned, type⟩,
      corner⟩
    refine ⟨?_, aligned, blended⟩
    simp only [printed, areAdmitted_append]
    exact ⟨⟨⟨⟨⟨⟨⟨flex, position⟩, size⟩, background⟩, border⟩, shadow⟩, type⟩, corner⟩
  · rintro ⟨numbers, aligned, blended⟩
    simp only [printed, areAdmitted_append] at numbers
    rcases numbers with ⟨⟨⟨⟨⟨⟨⟨flex, position⟩, size⟩, background⟩, border⟩, shadow⟩, type⟩,
      corner⟩
    exact ⟨⟨⟨⟨⟨⟨⟨flex, position⟩, size⟩, blended, background⟩, border⟩, shadow⟩, aligned, type⟩,
      corner⟩

/-- A label of one word in regular weight. -/
def plainLabel : Layer :=
  { Layer.ofShape "1" "Label" .text with textStyle := some (.ofFamily "Inter" 16.0) }

theorem areValid_plainLabel :
    (∀ family, fontFamily? plainLabel = some family → IsClean family) ∧
      AreValid 1 (declaration plainLabel none).properties := by
  have clean : ∀ family, fontFamily? plainLabel = some family → IsClean family := by
    rintro family same
    rw [← Option.some.inj same]
    exact List.all_eq_true.mp (by decide)
  have weight : Range.weight.Admits 400.0 := by
    have finite : Decimal.magnitude 400.0 = .finite (400 * 2 ^ 44) (-44) := by decide
    have positive : Decimal.isNegative 400.0 = false := by decide
    rw [Range.admits_iff (Decimal.value?_of_finite finite), positive, Decimal.size]
    norm_num [Range.contains]
  have size : Range.nonnegative.Admits 16.0 := by
    have finite : Decimal.magnitude 16.0 = .finite (16 * 2 ^ 48) (-48) := by decide
    have positive : Decimal.isNegative 16.0 = false := by decide
    rw [Range.admits_iff (Decimal.value?_of_finite finite), positive, Decimal.size]
    norm_num [Range.contains]
  refine ⟨clean, (areValid_declaration_iff clean).mpr ⟨?_, ?_, ?_⟩⟩
  · exact List.forall_mem_cons.mpr ⟨weight, List.forall_mem_cons.mpr ⟨size, areAdmitted_nil⟩⟩
  · intro style same
    rw [← Option.some.inj same]
    decide
  · intro gradient same
    cases same

/-! ## Nodes that are read -/

def AreFinite (numbers : Numbers) : Prop :=
  ∀ entry ∈ numbers, Range.any.Admits entry.2

/-- Whatever node is read and whatever it lies on, what is declared for it is valid, if its
font family is clean and the numbers that are written for it are finite. -/
def ReadNodesAreValid (leastStops : Nat) : Prop :=
  ∀ (text : String) (node : Node) (parent : Option Layer), Wire.node.parse text = .ok node →
    (∀ family, fontFamily? node.layer = some family → IsClean family) →
      AreFinite (printed node.layer parent) →
        AreValid leastStops (declaration node.layer parent).properties

/-- A label whose text is justified. -/
def justifiedLabel : String :=
  "\x7b\"id\":\"1\",\"name\":\"n\",\"type\":\"TEXT\",\"style\":\x7b\"fontFamily\":\"Inter\"," ++
    "\"fontSize\":16,\"textAlignHorizontal\":\"JUSTIFIED\"\x7d\x7d"

theorem not_readNodesAreValid_justified : ¬ReadNodesAreValid 1 := by
  intro valid
  have read : (Wire.node.parse justifiedLabel).toOption.any (fun node =>
      (fontFamily? node.layer).all (fun family => family.toList.all isCleanChar) &&
        (printed node.layer none).all (fun entry => (Decimal.value? entry.2).isSome) &&
          (declaration node.layer none).properties.contains ("text-align", "justified")) = true := by
    decide +kernel
  have noWord : isValid 1 ("text-align", "justified") = false := by decide
  rcases (Option.any_eq_true _ _).mp read with ⟨node, parsed, shown⟩
  simp only [Bool.and_eq_true, List.all_eq_true, List.contains_iff_mem] at shown
  rcases shown with ⟨⟨clean, finite⟩, aligned⟩
  have cleanFamily : ∀ family, fontFamily? node.layer = some family → IsClean family := by
    intro family asked
    rw [asked] at clean
    exact List.all_eq_true.mp clean
  have isFinite : AreFinite (printed node.layer none) := fun entry member =>
    Range.admits_any_iff.mpr (finite entry member)
  have isWord := valid justifiedLabel node none (Json.eq_ok_iff_toOption.mpr parsed) cleanFamily
    isFinite ("text-align", "justified") aligned
  rw [noWord] at isWord
  cases isWord

end Style
end Artboard
