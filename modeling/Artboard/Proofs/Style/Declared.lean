import Mathlib.Tactic.SplitIfs
import Artboard.Proofs.Style.Value

/-!
# What is declared for a layer

Everything that is declared for a layer is computed from its numbers and keywords, except
for the font family.  The family stands between quotes as the design has it, and it is
the only string.  So the properties of a layer are read back as they are written if there
is no quote in its family.
-/

namespace Artboard
namespace Style

/-! ## Computed entries -/

def familyProperty : String := "font-family"

/-- The name of a property whose value is computed. -/
def isComputedName (name : String) : Bool :=
  isPropertyName name && name != familyProperty

/-- Entries whose values are computed from numbers and keywords. -/
def AreComputed (entries : List (String × String)) : Prop :=
  ∀ entry ∈ entries, isComputedName entry.1 = true ∧ IsPlain entry.2

theorem AreComputed.append {first second : List (String × String)} (one : AreComputed first)
    (other : AreComputed second) : AreComputed (first ++ second) := by
  intro entry member
  rcases List.mem_append.mp member with inFirst | inSecond
  · exact one entry inFirst
  · exact other entry inSecond

theorem areComputed_nil : AreComputed [] := by
  intro entry member
  cases member

theorem AreComputed.cons {name value : String} {entries : List (String × String)}
    (named : isComputedName name = true) (plain : IsPlain value) (others : AreComputed entries) :
    AreComputed ((name, value) :: entries) := by
  intro entry member
  rcases List.mem_cons.mp member with same | later
  · rw [same]
    exact ⟨named, plain⟩
  · exact others entry later

theorem areComputed_optional (name : String) {value : Option String}
    (named : isComputedName name = true) (plain : ∀ text ∈ value, IsPlain text) :
    AreComputed (optional name value) := by
  cases value with
  | none => exact areComputed_nil
  | some text => exact .cons named (plain text rfl) areComputed_nil

theorem areComputed_length (name : String) (length : Option Float)
    (named : isComputedName name = true) : AreComputed (optional name ((nonZero length).map pixels)) := by
  apply areComputed_optional name named
  intro text member
  rcases Option.map_eq_some_iff.mp member with ⟨x, -, written⟩
  rw [← written]
  exact isPlain_pixels x

theorem areComputed_keyword {α : Type} (name : String) (keyword : Option α) {write : α → String}
    (named : isComputedName name = true) (plain : ∀ a, IsPlain (write a)) :
    AreComputed (optional name (keyword.map write)) := by
  apply areComputed_optional name named
  intro text member
  rcases Option.map_eq_some_iff.mp member with ⟨a, -, written⟩
  rw [← written]
  exact plain a

/-! ## The groups of properties -/

theorem isPlain_justifyContent (align : AxisAlign) : IsPlain (justifyContent align) := by
  cases align <;> exact isPlain_of_isWord (by decide)

theorem isPlain_alignItems (align : AxisAlign) : IsPlain (alignItems align) := by
  cases align <;> exact isPlain_of_isWord (by decide)

theorem isPlain_flexDirection (mode : Option LayoutMode) : IsPlain (flexDirection mode) := by
  rcases mode with _ | mode
  · exact isPlain_of_isWord (by decide)
  · cases mode <;> exact isPlain_of_isWord (by decide)

theorem isPlain_textAlign (align : TextAlign) : IsPlain (textAlign align) := by
  cases align <;> exact isPlain_of_isWord (by decide)

theorem areComputed_flex (layer : Layer) : AreComputed (flexProperties layer) := by
  unfold flexProperties
  split
  · have fixed : AreComputed
        [("display", "flex"), ("flex-direction", flexDirection layer.layoutMode)] := by
      apply AreComputed.cons (by decide) (isPlain_of_isWord (by decide))
      exact .cons (by decide) (isPlain_flexDirection layer.layoutMode) areComputed_nil
    have justify := areComputed_keyword "justify-content" layer.primaryAlign (by decide)
      isPlain_justifyContent
    have align := areComputed_keyword "align-items" layer.counterAlign (by decide)
      isPlain_alignItems
    have gap := areComputed_length "gap" layer.itemSpacing (by decide)
    have top := areComputed_length "padding-top" layer.padding.top (by decide)
    have right := areComputed_length "padding-right" layer.padding.right (by decide)
    have bottom := areComputed_length "padding-bottom" layer.padding.bottom (by decide)
    have left := areComputed_length "padding-left" layer.padding.left (by decide)
    exact ((((((fixed.append justify).append align).append gap).append top).append right).append
      bottom).append left
  · exact areComputed_nil

theorem areComputed_position (layer : Layer) (parent : Option Layer) :
    AreComputed (positionProperties layer parent) := by
  unfold positionProperties
  cases placement layer parent with
  | root =>
      apply AreComputed.cons (by decide) (isPlain_of_isWord (by decide))
      exact .cons (by decide) ⟨⟨by decide, by decide⟩, by decide⟩ areComputed_nil
  | flow => exact .cons (by decide) (isPlain_of_isWord (by decide)) areComputed_nil
  | absolute =>
      apply AreComputed.cons (by decide) (isPlain_of_isWord (by decide))
      cases offset? layer parent with
      | none => exact areComputed_nil
      | some offset =>
          apply AreComputed.cons (by decide) (isPlain_pixels offset.x)
          exact .cons (by decide) (isPlain_pixels offset.y) areComputed_nil

theorem areComputed_size (layer : Layer) : AreComputed (sizeProperties layer) := by
  unfold sizeProperties
  cases layer.bounds with
  | none => exact areComputed_nil
  | some bounds =>
      apply AreComputed.cons (by decide) (isPlain_pixels bounds.width)
      exact .cons (by decide) (isPlain_pixels bounds.height) areComputed_nil

theorem areComputed_background (layer : Layer) : AreComputed (backgroundProperties layer) := by
  unfold backgroundProperties
  cases backgroundFill? layer with
  | none => exact areComputed_nil
  | some fill =>
      dsimp only
      split_ifs
      · exact areComputed_keyword "background-color" fill.color (by decide) isPlain_color
      · apply AreComputed.cons (by decide) _ areComputed_nil
        cases Gradient.ofPaint? fill with
        | none => exact isPlain_of_isWord (by decide)
        | some gradient => exact isPlain_gradient gradient
      · exact areComputed_nil

theorem areComputed_border (layer : Layer) : AreComputed (borderProperties layer) := by
  apply areComputed_optional "border" (by decide)
  intro text member
  have solid : isUnmarked " solid ".toList = true := by decide
  rcases Option.bind_eq_some_iff.mp member with ⟨weight, -, behindWeight⟩
  rcases Option.bind_eq_some_iff.mp behindWeight with ⟨stroke, -, behindStroke⟩
  rcases Option.bind_eq_some_iff.mp behindStroke with ⟨color, colored, written⟩
  rw [← Option.some.inj written]
  exact ((isPlain_pixels weight).toIsLead.append solid).isPlain_append (isPlain_solidColor colored)

theorem areComputed_shadow (layer : Layer) : AreComputed (shadowProperties layer) := by
  unfold shadowProperties
  cases collected : layer.visibleEffects.filterMap shadow? with
  | nil => exact areComputed_nil
  | cons first others =>
      apply AreComputed.cons (by decide) _ areComputed_nil
      apply isPlain_shadows (List.cons_ne_nil first others)
      intro shadow member
      rw [← collected] at member
      rcases List.mem_filterMap.mp member with ⟨effect, -, shown⟩
      exact isPlain_shadow shown

theorem areComputed_corner (layer : Layer) : AreComputed (cornerProperties layer) :=
  areComputed_length "border-radius" layer.cornerRadius (by decide)

/-! ## The font family -/

def familyValue (family : String) : String :=
  "'" ++ family ++ "', sans-serif"

def familyEntries (layer : Layer) : List (String × String) :=
  ((fontFamily? layer).map fun family => (familyProperty, familyValue family)).toList

/-- Behind the font family the properties of type are computed. -/
theorem typeProperties_split (layer : Layer) :
    ∃ others, AreComputed others ∧ typeProperties layer = familyEntries layer ++ others := by
  unfold typeProperties familyEntries fontFamily?
  cases shownTextStyle? layer with
  | none => exact ⟨[], areComputed_nil, rfl⟩
  | some style =>
      have fixed : AreComputed [("font-weight", number style.fontWeight),
          ("font-size", pixels style.fontSize),
          ("text-align", textAlign style.alignHorizontal)] := by
        apply AreComputed.cons (by decide) (isPlain_number style.fontWeight)
        apply AreComputed.cons (by decide) (isPlain_pixels style.fontSize)
        exact .cons (by decide) (isPlain_textAlign style.alignHorizontal) areComputed_nil
      have line := areComputed_length "line-height" style.lineHeightPx (by decide)
      have letter := areComputed_length "letter-spacing" style.letterSpacing (by decide)
      have colored : ∀ text ∈ layer.visibleFills.head?.bind solidColor?, IsPlain text := by
        intro text member
        rcases Option.bind_eq_some_iff.mp member with ⟨paint, -, solid⟩
        exact isPlain_solidColor solid
      have color := areComputed_optional "color" (by decide) colored
      exact ⟨_, ((fixed.append line).append letter).append color, rfl⟩

/-- A declaration is computed but for the font family. -/
theorem properties_split (layer : Layer) (parent : Option Layer) :
    ∃ before behind, AreComputed before ∧ AreComputed behind ∧
      (declaration layer parent).properties = before ++ familyEntries layer ++ behind := by
  rcases typeProperties_split layer with ⟨others, computed, split⟩
  have layout := ((areComputed_flex layer).append (areComputed_position layer parent)).append
    (areComputed_size layer)
  have paint := ((layout.append (areComputed_background layer)).append
    (areComputed_border layer)).append (areComputed_shadow layer)
  refine ⟨_, others ++ cornerProperties layer, paint,
    computed.append (areComputed_corner layer), ?_⟩
  rw [declaration, split]
  simp only [List.append_assoc]

theorem mem_familyEntries {layer : Layer} {entry : String × String} :
    entry ∈ familyEntries layer ↔
      ∃ family, fontFamily? layer = some family ∧ entry = (familyProperty, familyValue family) := by
  rw [familyEntries, Option.mem_toList, Option.map_eq_some_iff]
  constructor
  · rintro ⟨family, asked, same⟩
    exact ⟨family, asked, same.symm⟩
  · rintro ⟨family, asked, same⟩
    exact ⟨family, asked, same.symm⟩

/-- An entry of a declaration is computed, or it asks for the font family. -/
theorem mem_properties_cases {layer : Layer} {parent : Option Layer} {entry : String × String}
    (member : entry ∈ (declaration layer parent).properties) :
    (isComputedName entry.1 = true ∧ IsPlain entry.2) ∨
      ∃ family, fontFamily? layer = some family ∧ entry = (familyProperty, familyValue family) := by
  rcases properties_split layer parent with ⟨before, behind, computedBefore, computedBehind, split⟩
  rw [split] at member
  rcases List.mem_append.mp member with first | inBehind
  · rcases List.mem_append.mp first with inBefore | isFamily
    · exact Or.inl (computedBefore entry inBefore)
    · exact Or.inr (mem_familyEntries.mp isFamily)
  · exact Or.inl (computedBehind entry inBehind)

/-! ## Properties as they are read -/

/-- An entry of a declaration as a property, whose only string is the font family. -/
def propertyOf (layer : Layer) (entry : String × String) : Property where
  name := entry.1
  value := entry.2
  strings := if entry.1 = familyProperty then (fontFamily? layer).toList else []

/-- The properties that are declared for a layer on the given parent. -/
def declared (layer : Layer) (parent : Option Layer) : List Property :=
  (declaration layer parent).properties.map (propertyOf layer)

theorem strings_propertyOf_computed (layer : Layer) {entries : List (String × String)}
    (computed : AreComputed entries) :
    (entries.map (propertyOf layer)).flatMap Property.strings = [] := by
  apply List.flatMap_eq_nil_iff.mpr
  intro property member
  rcases List.mem_map.mp member with ⟨entry, inEntries, same⟩
  have isOther := (Bool.and_eq_true_iff.mp (computed entry inEntries).1).2
  rw [← same, propertyOf, if_neg (bne_iff_ne.mp isOther)]

/-- The font family is the only string in what is declared for a layer. -/
theorem strings_declared (layer : Layer) (parent : Option Layer) :
    (declared layer parent).flatMap Property.strings = (fontFamily? layer).toList := by
  rcases properties_split layer parent with ⟨before, behind, computedBefore, computedBehind, split⟩
  rw [declared, split, List.map_append, List.map_append, List.flatMap_append,
    List.flatMap_append, strings_propertyOf_computed layer computedBefore,
    strings_propertyOf_computed layer computedBehind, List.nil_append, List.append_nil]
  cases asked : fontFamily? layer with
  | none =>
      rw [familyEntries, asked]
      rfl
  | some family =>
      rw [familyEntries, asked, Option.map_some, Option.toList_some, List.map_singleton,
        List.flatMap_singleton, propertyOf, if_pos rfl, asked]

theorem exists_property_of_family {layer : Layer} {family : String} (parent : Option Layer)
    (asked : fontFamily? layer = some family) :
    ∃ property ∈ declared layer parent, family.toList <:+: property.value.toList := by
  rcases properties_split layer parent with ⟨before, behind, -, -, split⟩
  have isEntry := mem_familyEntries.mpr ⟨family, asked, rfl⟩
  refine ⟨propertyOf layer (familyProperty, familyValue family), ?_, ?_⟩
  · apply List.mem_map_of_mem
    rw [split]
    exact List.mem_append_left behind (List.mem_append_right before isEntry)
  · change family.toList <:+: (familyValue family).toList
    rw [familyValue, String.toList_append, String.toList_append]
    exact List.infix_append _ _ _

theorem isLegible_family {layer : Layer} {family : String} (asked : fontFamily? layer = some family)
    (noQuote : '\'' ∉ family.toList) :
    (propertyOf layer (familyProperty, familyValue family)).IsLegible := by
  have written : (familyValue family).toList =
      '\'' :: family.toList ++ ['\''] ++ ", sans-serif".toList := by
    have front : "'".toList = ['\''] := String.toList_ofList
    have back : "', sans-serif".toList = '\'' :: ", sans-serif".toList := by
      rw [String.toList_ofList, String.toList_ofList]
    rw [familyValue, String.toList_append, String.toList_append, front, back]
    simp only [List.cons_append, List.append_assoc, List.nil_append]
  have named : isPropertyName familyProperty = true := by decide
  refine ⟨named, ?_, ?_, ?_⟩
  · have unmarked : isUnmarked ", sans-serif".toList = true := by decide
    have reads := (readsAs_quoted noQuote).append (readsAs_of_isUnmarked unmarked)
    rw [propertyOf, if_pos rfl, asked]
    exact written ▸ reads
  · intro c isFirst
    have isQuote : (familyValue family).toList.head? = some '\'' := by
      rw [written]
      rfl
    rw [Option.mem_unique isFirst isQuote]
    rfl
  · intro c isLast
    have isLetter : (familyValue family).toList.getLast? = some 'f' := by
      rw [written, List.getLast?_append]
      rfl
    rw [Option.mem_unique isLast isLetter]
    rfl

/-- The declared properties of a layer are read back as they are written if there is no
quote in its font family. -/
theorem isLegible_of_mem_declared {layer : Layer} {parent : Option Layer}
    (noQuote : ∀ family, fontFamily? layer = some family → '\'' ∉ family.toList) :
    ∀ property ∈ declared layer parent, property.IsLegible := by
  intro property member
  rcases List.mem_map.mp member with ⟨entry, inProperties, same⟩
  rw [← same]
  rcases mem_properties_cases inProperties with ⟨named, plain⟩ | ⟨family, asked, isFamily⟩
  · rcases Bool.and_eq_true_iff.mp named with ⟨isName, isOther⟩
    have noStrings : (propertyOf layer entry).strings = [] := if_neg (bne_iff_ne.mp isOther)
    refine ⟨isName, ?_, plain.tight⟩
    rw [noStrings]
    exact readsAs_of_isUnmarked plain.unmarked
  · rw [isFamily]
    exact isLegible_family asked (noQuote family asked)

end Style
end Artboard
