import Mathlib.Data.List.Nodup
import Artboard.Style.Layer

/-!
# The order of a declaration

The properties of a layer come in one fixed order, whatever the layer and the one below
it are, and none of them comes twice.  The groups that a declaration is put together from
have names of their own, so what is declared for a property is found in its group alone.
Which properties are declared is then a question about single groups: the position by
what the layer lies on, the offset and the size by bounds, the background and the type by
what the layer is.
-/

namespace Artboard
namespace Style

open List (Sublist)
open scoped List

/-! ## Names in order -/

def flexNames : List String :=
  ["display", "flex-direction", "justify-content", "align-items", "gap", "padding-top",
    "padding-right", "padding-bottom", "padding-left"]

def positionNames : List String := ["position", "margin", "left", "top"]

def sizeNames : List String := ["width", "height"]

def backgroundNames : List String := ["background-color", "background"]

def typeNames : List String :=
  ["font-family", "font-weight", "font-size", "text-align", "line-height", "letter-spacing",
    "color"]

/-- The names of all properties, in the order in which they are declared. -/
def propertyOrder : List String :=
  ["display", "flex-direction", "justify-content", "align-items", "gap", "padding-top",
    "padding-right", "padding-bottom", "padding-left", "position", "margin", "left", "top",
    "width", "height", "background-color", "background", "border", "box-shadow", "font-family",
    "font-weight", "font-size", "text-align", "line-height", "letter-spacing", "color",
    "border-radius"]

def names (entries : List (String × String)) : List String :=
  entries.map Prod.fst

/-- Entries one behind the other have their names one behind the other. -/
theorem names_append {first second : List (String × String)} {order rest : List String}
    (one : names first <+ order) (other : names second <+ rest) :
    names (first ++ second) <+ order ++ rest := by
  rw [names, List.map_append]
  exact one.append other

variable (layer : Layer) (parent : Option Layer)

theorem names_optional (property : String) (value : Option String) :
    names (optional property value) <+ [property] := by
  cases value with
  | none => exact List.nil_sublist [property]
  | some value => exact .refl [property]

theorem names_length (property : String) (length : Option Float) :
    names (optional property ((nonZero length).map pixels)) <+ [property] :=
  names_optional property _

theorem names_flex : names (flexProperties layer) <+ flexNames := by
  unfold flexProperties
  split
  · have fixed : names [("display", "flex"), ("flex-direction", flexDirection layer.layoutMode)]
        <+ ["display", "flex-direction"] := .refl _
    have justify := names_append fixed
      (names_optional "justify-content" (layer.primaryAlign.map justifyContent))
    have align := names_append justify
      (names_optional "align-items" (layer.counterAlign.map alignItems))
    have gap := names_append align (names_length "gap" layer.itemSpacing)
    have top := names_append gap (names_length "padding-top" layer.padding.top)
    have right := names_append top (names_length "padding-right" layer.padding.right)
    have bottom := names_append right (names_length "padding-bottom" layer.padding.bottom)
    exact names_append bottom (names_length "padding-left" layer.padding.left)
  · exact List.nil_sublist flexNames

theorem names_position : names (positionProperties layer parent) <+ positionNames := by
  unfold positionProperties
  cases placement layer parent with
  | root =>
      change ["position", "margin"] <+ positionNames
      decide
  | flow =>
      change ["position"] <+ positionNames
      decide
  | absolute =>
      cases offset? layer parent with
      | none =>
          change ["position"] <+ positionNames
          decide
      | some offset =>
          change ["position", "left", "top"] <+ positionNames
          decide

theorem names_size : names (sizeProperties layer) <+ sizeNames := by
  unfold sizeProperties
  cases layer.bounds with
  | none => exact List.nil_sublist sizeNames
  | some bounds => exact .refl sizeNames

/-- A layer has one background at most. -/
theorem names_background_cases :
    names (backgroundProperties layer) ∈ [[], ["background-color"], ["background"]] := by
  unfold backgroundProperties
  cases backgroundFill? layer with
  | none => exact List.mem_cons_self
  | some fill =>
      dsimp only
      split
      · cases fill.color with
        | none => exact List.mem_cons_self
        | some flat => exact List.mem_cons_of_mem _ List.mem_cons_self
      · split
        · exact List.mem_cons_of_mem _ (List.mem_cons_of_mem _ List.mem_cons_self)
        · exact List.mem_cons_self

theorem names_background : names (backgroundProperties layer) <+ backgroundNames := by
  have ordered : ∀ written ∈ [[], ["background-color"], ["background"]],
      written <+ backgroundNames := by decide
  exact ordered _ (names_background_cases layer)

theorem names_border : names (borderProperties layer) <+ ["border"] :=
  names_optional "border" _

theorem names_shadow : names (shadowProperties layer) <+ ["box-shadow"] := by
  unfold shadowProperties
  split
  · exact List.nil_sublist ["box-shadow"]
  · exact .refl ["box-shadow"]

theorem names_type : names (typeProperties layer) <+ typeNames := by
  unfold typeProperties
  cases shownTextStyle? layer with
  | none => exact List.nil_sublist typeNames
  | some style =>
      have fixed : names [("font-family", "'" ++ style.fontFamily ++ "', sans-serif"),
          ("font-weight", number style.fontWeight), ("font-size", pixels style.fontSize),
          ("text-align", textAlign style.alignHorizontal)] <+
            ["font-family", "font-weight", "font-size", "text-align"] := .refl _
      have height := names_append fixed (names_length "line-height" style.lineHeightPx)
      have spacing := names_append height (names_length "letter-spacing" style.letterSpacing)
      exact names_append spacing
        (names_optional "color" (layer.visibleFills.head?.bind solidColor?))

theorem names_corner : names (cornerProperties layer) <+ ["border-radius"] :=
  names_optional "border-radius" _

/-! ## Groups -/

/-- Entries that belong together, with the names that they may have, in order. -/
structure Group where
  order : List String
  entries : List (String × String)

def Group.IsNamed (group : Group) : Prop :=
  names group.entries <+ group.order

/-- The groups that a declaration is put together from. -/
def groups : List Group :=
  [⟨flexNames, flexProperties layer⟩, ⟨positionNames, positionProperties layer parent⟩,
    ⟨sizeNames, sizeProperties layer⟩, ⟨backgroundNames, backgroundProperties layer⟩,
    ⟨["border"], borderProperties layer⟩, ⟨["box-shadow"], shadowProperties layer⟩,
    ⟨typeNames, typeProperties layer⟩, ⟨["border-radius"], cornerProperties layer⟩]

theorem properties_eq_groups :
    (declaration layer parent).properties = (groups layer parent).flatMap Group.entries := by
  simp [declaration, groups]

theorem order_groups : (groups layer parent).flatMap Group.order = propertyOrder := rfl

theorem isNamed_groups : ∀ group ∈ groups layer parent, group.IsNamed := by
  simp only [groups, List.forall_mem_cons, Group.IsNamed]
  exact ⟨names_flex layer, names_position layer parent, names_size layer,
    names_background layer, names_border layer, names_shadow layer, names_type layer,
    names_corner layer, fun _ member => absurd member List.not_mem_nil⟩

theorem names_flatMap {groups : List Group} (named : ∀ group ∈ groups, group.IsNamed) :
    names (groups.flatMap Group.entries) <+ groups.flatMap Group.order := by
  induction groups with
  | nil => exact List.nil_sublist []
  | cons group others inductionHypothesis =>
      rw [List.forall_mem_cons] at named
      exact names_append named.1 (inductionHypothesis named.2)

theorem names_declaration : names (declaration layer parent).properties <+ propertyOrder := by
  rw [properties_eq_groups, ← order_groups layer parent]
  exact names_flatMap (isNamed_groups layer parent)

theorem nodup_propertyOrder : propertyOrder.Nodup := by decide

theorem nodup_names : (names (declaration layer parent).properties).Nodup :=
  nodup_propertyOrder.sublist (names_declaration layer parent)

/-! ## What is declared for a property -/

theorem get?_append (first second : List (String × String)) (property : String) :
    Declaration.get? ⟨first ++ second⟩ property =
      (Declaration.get? ⟨second⟩ property).or (Declaration.get? ⟨first⟩ property) := by
  simp only [Declaration.get?, List.reverse_append, List.lookup_append]

theorem get?_eq_none {entries : List (String × String)} {property : String}
    (absent : property ∉ names entries) : Declaration.get? ⟨entries⟩ property = none := by
  apply List.lookup_eq_none_iff.mpr
  intro entry member
  rw [bne_iff_ne]
  intro same
  apply absent
  rw [same]
  exact List.mem_map_of_mem (List.mem_reverse.mp member)

/-- An entry whose name does not come again is the one that counts. -/
theorem get?_of_mem {entries : List (String × String)} (distinct : (names entries).Nodup)
    {property value : String} (member : (property, value) ∈ entries) :
    Declaration.get? ⟨entries⟩ property = some value := by
  rcases List.append_of_mem member with ⟨front, back, split⟩
  have notLater : property ∉ names back := by
    rw [split, names, List.map_append, List.map_cons] at distinct
    exact (List.nodup_cons.mp (List.nodup_append.mp distinct).2.1).1
  have here : Declaration.get? ⟨[(property, value)]⟩ property = some value :=
    List.lookup_cons_self
  rw [split, List.append_cons, get?_append, get?_append, get?_eq_none notLater, here]
  rfl

/-- A property is looked up in the one group that has a name for it. -/
theorem get?_flatMap {groups : List Group} (named : ∀ group ∈ groups, group.IsNamed)
    (distinct : (groups.flatMap Group.order).Nodup) {group : Group} (member : group ∈ groups)
    {property : String} (inGroup : property ∈ group.order) :
    Declaration.get? ⟨groups.flatMap Group.entries⟩ property =
      Declaration.get? ⟨group.entries⟩ property := by
  induction groups with
  | nil => exact absurd member List.not_mem_nil
  | cons first others inductionHypothesis =>
      rw [List.forall_mem_cons] at named
      rw [List.flatMap_cons] at distinct
      rcases List.nodup_append.mp distinct with ⟨-, distinctOthers, apart⟩
      rw [List.flatMap_cons, get?_append]
      rcases List.mem_cons.mp member with isFirst | inOthers
      · have notLater : property ∉ names (others.flatMap Group.entries) := by
          intro later
          apply apart property (isFirst ▸ inGroup) property _ rfl
          exact (names_flatMap named.2).mem later
        rw [get?_eq_none notLater, Option.none_or, isFirst]
      · have notFirst : property ∉ names first.entries := by
          intro early
          apply apart property (named.1.mem early) property _ rfl
          exact List.mem_flatMap.mpr ⟨group, inOthers, inGroup⟩
        rw [get?_eq_none notFirst, Option.or_none,
          inductionHypothesis named.2 distinctOthers inOthers]

variable {layer parent}

theorem get?_declaration {group : Group} (member : group ∈ groups layer parent)
    {property : String} (inGroup : property ∈ group.order) :
    (declaration layer parent).get? property = Declaration.get? ⟨group.entries⟩ property := by
  have looked := get?_flatMap (isNamed_groups layer parent) nodup_propertyOrder member inGroup
  rw [← properties_eq_groups] at looked
  exact looked

theorem contains_iff (entries : List (String × String)) (property : String) :
    Declaration.contains ⟨entries⟩ property = true ↔ property ∈ names entries := by
  constructor
  · intro declared
    apply Decidable.byContradiction
    intro absent
    rw [Declaration.contains, get?_eq_none absent] at declared
    cases declared
  · intro member
    rcases List.mem_map.mp member with ⟨entry, inEntries, same⟩
    rw [Declaration.contains, Declaration.get?, List.lookup_isSome_iff]
    exact ⟨entry, List.mem_reverse.mpr inEntries, beq_iff_eq.mpr same.symm⟩

/-- Whether a property is declared depends on its group alone. -/
theorem contains_declaration_iff {group : Group} (member : group ∈ groups layer parent)
    {property : String} (inGroup : property ∈ group.order) :
    (declaration layer parent).contains property = true ↔ property ∈ names group.entries := by
  rw [Declaration.contains, get?_declaration member inGroup, ← Declaration.contains,
    contains_iff]

/-! ## The position -/

def placementKeyword : Placement → String
  | .root => "relative"
  | .flow => "static"
  | .absolute => "absolute"

theorem mem_groups_position :
    ⟨positionNames, positionProperties layer parent⟩ ∈ groups layer parent := by
  simp [groups]

theorem get?_position :
    (declaration layer parent).get? "position" =
      some (placementKeyword (placement layer parent)) := by
  have named : "position" ∈ positionNames := by decide
  rw [get?_declaration mem_groups_position named, positionProperties]
  cases placement layer parent with
  | root => rfl
  | flow => rfl
  | absolute => cases offset? layer parent <;> rfl

theorem get?_position_eq_iff (placed : Placement) :
    (declaration layer parent).get? "position" = some (placementKeyword placed) ↔
      placement layer parent = placed := by
  rw [get?_position]
  cases placement layer parent <;> cases placed <;> decide

theorem placement_eq_root_iff : placement layer parent = .root ↔ parent = none := by
  cases parent with
  | none => simp [placement]
  | some outer => cases flow : outer.hasAutoLayout <;> simp [placement, flow, ite_eq_iff]

theorem placement_eq_flow_iff :
    placement layer parent = .flow ↔
      ∃ outer, parent = some outer ∧ outer.hasAutoLayout = true ∧
        layer.positioning ≠ some .absolute := by
  cases parent with
  | none => simp [placement]
  | some outer => simp [placement]

theorem placement_eq_absolute_iff :
    placement layer parent = .absolute ↔
      ∃ outer, parent = some outer ∧
        ¬(outer.hasAutoLayout = true ∧ layer.positioning ≠ some .absolute) := by
  cases parent with
  | none => simp [placement]
  | some outer => simp [placement]

theorem contains_margin_iff :
    (declaration layer parent).contains "margin" = true ↔ placement layer parent = .root := by
  have named : "margin" ∈ positionNames := by decide
  rw [contains_declaration_iff mem_groups_position named, positionProperties]
  cases placement layer parent with
  | root => simp [names]
  | flow => simp [names]
  | absolute => cases offset? layer parent <;> simp [names]

theorem contains_offset_iff {property : String} (named : property ∈ ["left", "top"]) :
    (declaration layer parent).contains property = true ↔
      placement layer parent = .absolute ∧ (offset? layer parent).isSome = true := by
  have isPosition : property ∈ positionNames := by
    revert property
    decide
  rw [contains_declaration_iff mem_groups_position isPosition, positionProperties]
  rcases List.mem_pair.mp named with isLeft | isTop
  · rw [isLeft]
    cases placement layer parent <;> cases offset? layer parent <;> simp [names]
  · rw [isTop]
    cases placement layer parent <;> cases offset? layer parent <;> simp [names]

theorem isSome_offset?_iff :
    (offset? layer parent).isSome = true ↔
      layer.bounds.isSome = true ∧ ∃ outer, parent = some outer ∧ outer.bounds.isSome = true := by
  cases parent with
  | none => cases own : layer.bounds <;> simp [offset?, own]
  | some outer =>
      cases own : layer.bounds <;> cases other : outer.bounds <;> simp [offset?, own, other]

/-- Missing bounds are found exactly when an offset should be declared and is not. -/
theorem exists_missingGeometry_iff :
    (∃ id name outerName, .missingGeometry id name outerName ∈ diagnostics layer parent) ↔
      placement layer parent = .absolute ∧ ¬(offset? layer parent).isSome = true := by
  have notGradient : ∀ id name outerName,
      Diagnostic.missingGeometry id name outerName ∉ gradientDiagnostics layer := by
    intro id name outerName
    unfold gradientDiagnostics
    split
    · split <;> simp
    · simp
  simp only [diagnostics, List.mem_append, notGradient, or_false, geometryDiagnostics]
  cases parent with
  | none => simp [placement]
  | some outer =>
      cases placement layer (some outer) <;> cases offset? layer (some outer) <;> simp

theorem get?_position_absolute_iff :
    (declaration layer parent).get? "position" = some "absolute" ↔
      placement layer parent = .absolute :=
  get?_position_eq_iff .absolute

theorem contains_offset_iff_bounds {property : String} (named : property ∈ ["left", "top"]) :
    (declaration layer parent).contains property = true ↔
      (declaration layer parent).get? "position" = some "absolute" ∧
        layer.bounds.isSome = true ∧
          ∃ outer, parent = some outer ∧ outer.bounds.isSome = true := by
  rw [contains_offset_iff named, get?_position_absolute_iff, isSome_offset?_iff]

theorem exists_missingGeometry_iff_undeclared :
    (∃ id name outerName, .missingGeometry id name outerName ∈ diagnostics layer parent) ↔
      (declaration layer parent).get? "position" = some "absolute" ∧
        ∀ property ∈ ["left", "top"], ¬(declaration layer parent).contains property = true := by
  have isLeft : "left" ∈ ["left", "top"] := List.mem_cons_self
  rw [exists_missingGeometry_iff, get?_position_absolute_iff]
  constructor
  · rintro ⟨placed, unknown⟩
    refine ⟨placed, ?_⟩
    intro property named declared
    exact unknown ((contains_offset_iff named).mp declared).2
  · rintro ⟨placed, undeclared⟩
    refine ⟨placed, ?_⟩
    intro known
    exact undeclared "left" isLeft ((contains_offset_iff isLeft).mpr ⟨placed, known⟩)

/-! ## The size, the background and the type -/

theorem contains_size_iff {property : String} (named : property ∈ sizeNames) :
    (declaration layer parent).contains property = true ↔ layer.bounds.isSome = true := by
  have member : ⟨sizeNames, sizeProperties layer⟩ ∈ groups layer parent := by
    simp [groups]
  rw [contains_declaration_iff member named, sizeProperties]
  cases layer.bounds with
  | none => simp [names]
  | some bounds => simpa [names, sizeNames] using named

theorem mem_groups_background :
    ⟨backgroundNames, backgroundProperties layer⟩ ∈ groups layer parent := by
  simp [groups]

/-- The fills of a text are not its background. -/
theorem not_text_of_contains_background {property : String} (named : property ∈ backgroundNames)
    (declared : (declaration layer parent).contains property = true) : layer.shape ≠ .text := by
  rw [contains_declaration_iff mem_groups_background named] at declared
  intro isText
  have noFill : backgroundFill? layer = none := by
    simp [backgroundFill?, Layer.isText, isText]
  rw [backgroundProperties, noFill] at declared
  exact List.not_mem_nil declared

theorem not_contains_backgrounds :
    ¬((declaration layer parent).contains "background-color" = true ∧
      (declaration layer parent).contains "background" = true) := by
  have apart : ∀ written ∈ [[], ["background-color"], ["background"]],
      ¬("background-color" ∈ written ∧ "background" ∈ written) := by decide
  have colorNamed : "background-color" ∈ backgroundNames := by decide
  have imageNamed : "background" ∈ backgroundNames := by decide
  rw [contains_declaration_iff mem_groups_background colorNamed,
    contains_declaration_iff mem_groups_background imageNamed]
  exact apart _ (names_background_cases layer)

theorem mem_groups_type : ⟨typeNames, typeProperties layer⟩ ∈ groups layer parent := by
  simp [groups]

theorem isSome_shownTextStyle?_iff :
    (shownTextStyle? layer).isSome = true ↔
      layer.shape = .text ∧ layer.textStyle.isSome = true := by
  by_cases isText : layer.shape = .text <;> simp [shownTextStyle?, Layer.isText, isText]

/-- The properties of type belong to texts with a setting. -/
theorem isSome_style_of_contains {property : String} (named : property ∈ typeNames)
    (declared : (declaration layer parent).contains property = true) :
    (shownTextStyle? layer).isSome = true := by
  rw [contains_declaration_iff mem_groups_type named, typeProperties] at declared
  cases style : shownTextStyle? layer with
  | none =>
      rw [style] at declared
      exact absurd declared List.not_mem_nil
  | some style => rfl

/-- The properties that every text with a setting has. -/
def settingNames : List String := ["font-family", "font-weight", "font-size", "text-align"]

theorem contains_setting_iff {property : String} (named : property ∈ settingNames) :
    (declaration layer parent).contains property = true ↔
      (shownTextStyle? layer).isSome = true := by
  have isType : property ∈ typeNames := by
    revert property
    decide
  refine ⟨isSome_style_of_contains isType, ?_⟩
  intro shown
  rw [contains_declaration_iff mem_groups_type isType, typeProperties]
  rcases Option.isSome_iff_exists.mp shown with ⟨style, isStyle⟩
  rw [isStyle]
  simp only [names, List.map_append, List.map_cons, List.map_nil, List.append_assoc]
  exact List.mem_append_left _ named

/-! ## All properties -/

/-- What is declared for a layer on the one below: in which order, what for, and when. -/
structure Outline (layer : Layer) (parent : Option Layer) (declared : Declaration) : Prop where
  ordered : names declared.properties <+ propertyOrder
  distinct : (names declared.properties).Nodup
  /-- The value that counts is the only one. -/
  single : ∀ property value, (property, value) ∈ declared.properties →
    declared.get? property = some value
  placed : declared.get? "position" ∈ [some "relative", some "static", some "absolute"]
  relative : declared.get? "position" = some "relative" ↔ parent = none
  margin : declared.contains "margin" = true ↔ parent = none
  /-- The layer below lays this one out, unless it opts out. -/
  static : declared.get? "position" = some "static" ↔
    ∃ outer, parent = some outer ∧ outer.hasAutoLayout = true ∧
      layer.positioning ≠ some .absolute
  absolute : declared.get? "position" = some "absolute" ↔
    ∃ outer, parent = some outer ∧
      ¬(outer.hasAutoLayout = true ∧ layer.positioning ≠ some .absolute)
  /-- The offset is there when it is needed and both bounds are known. -/
  offset : ∀ property ∈ ["left", "top"], declared.contains property = true ↔
    declared.get? "position" = some "absolute" ∧ layer.bounds.isSome = true ∧
      ∃ outer, parent = some outer ∧ outer.bounds.isSome = true
  missing : (∃ id name outerName,
      .missingGeometry id name outerName ∈ diagnostics layer parent) ↔
    declared.get? "position" = some "absolute" ∧
      ∀ property ∈ ["left", "top"], ¬declared.contains property = true
  size : ∀ property ∈ ["width", "height"],
    declared.contains property = true ↔ layer.bounds.isSome = true
  background : ∀ property ∈ ["background-color", "background"],
    declared.contains property = true → layer.shape ≠ .text
  oneBackground : ¬(declared.contains "background-color" = true ∧
    declared.contains "background" = true)
  setting : ∀ property ∈ ["font-family", "font-weight", "font-size", "text-align"],
    declared.contains property = true ↔ layer.shape = .text ∧ layer.textStyle.isSome = true
  type : ∀ property ∈ ["line-height", "letter-spacing", "color"],
    declared.contains property = true → layer.shape = .text ∧ layer.textStyle.isSome = true

/-- The declaration of any layer on any other, or on none, has this outline. -/
theorem declaration_outline (layer : Layer) (parent : Option Layer) :
    Outline layer parent (declaration layer parent) where
  ordered := names_declaration layer parent
  distinct := nodup_names layer parent
  single := fun _ _ member => get?_of_mem (nodup_names layer parent) member
  placed := by
    rw [get?_position]
    cases placement layer parent <;> decide
  relative := (get?_position_eq_iff .root).trans placement_eq_root_iff
  margin := contains_margin_iff.trans placement_eq_root_iff
  static := (get?_position_eq_iff .flow).trans placement_eq_flow_iff
  absolute := get?_position_absolute_iff.trans placement_eq_absolute_iff
  offset := fun _ named => contains_offset_iff_bounds named
  missing := exists_missingGeometry_iff_undeclared
  size := fun _ named => contains_size_iff named
  background := fun _ named => not_text_of_contains_background named
  oneBackground := not_contains_backgrounds
  setting := fun _ named => (contains_setting_iff named).trans isSome_shownTextStyle?_iff
  type := by
    intro property named declared
    have isType : property ∈ typeNames := by
      clear declared
      revert property
      decide
    exact isSome_shownTextStyle?_iff.mp (isSome_style_of_contains isType declared)

end Style
end Artboard
