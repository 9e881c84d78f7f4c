import Artboard.Proofs.Style.Order

/-!
# The fill that decides

Fills are stacked, and one of them decides what is declared.  Of a text it is the first one
that is drawn, which colours the characters; of any other layer it is the last one that is
drawn, which lies in front of the others.  The choice is made before anything else is asked
about the fill.  So a fill in front that declares nothing hides a colour behind it, and two
lists of fills with the same deciding fill have the same style.
-/

namespace Artboard

/-- The same layer with other fills. -/
def Layer.withFills (layer : Layer) (fills : List Paint) : Layer :=
  { layer with fills := fills }

namespace Style

/-- The entries for some of the properties, in order. -/
def entriesFor (wanted : List String) (entries : List (String × String)) :
    List (String × String) :=
  entries.filter fun entry => wanted.contains entry.1

theorem entriesFor_append (wanted : List String) (first second : List (String × String)) :
    entriesFor wanted (first ++ second) = entriesFor wanted first ++ entriesFor wanted second :=
  List.filter_append ..

theorem entriesFor_eq_nil {wanted : List String} {entries : List (String × String)}
    (apart : ∀ property ∈ names entries, property ∉ wanted) : entriesFor wanted entries = [] := by
  apply List.filter_eq_nil_iff.mpr
  intro entry member isWanted
  exact apart entry.1 (List.mem_map_of_mem member) (List.contains_iff_mem.mp isWanted)

theorem entriesFor_eq_self {wanted : List String} {entries : List (String × String)}
    (all : ∀ property ∈ names entries, property ∈ wanted) :
    entriesFor wanted entries = entries := by
  apply List.filter_eq_self.mpr
  intro entry member
  exact List.contains_iff_mem.mpr (all entry.1 (List.mem_map_of_mem member))

/-- Properties of one group are declared in this group only. -/
theorem entriesFor_flatMap {groups : List Group} (named : ∀ group ∈ groups, group.IsNamed)
    (distinct : (groups.flatMap Group.order).Nodup) {group : Group} (member : group ∈ groups)
    {wanted : List String} (inGroup : ∀ property ∈ wanted, property ∈ group.order) :
    entriesFor wanted (groups.flatMap Group.entries) = entriesFor wanted group.entries := by
  induction groups with
  | nil => exact absurd member List.not_mem_nil
  | cons first others inductionHypothesis =>
      rw [List.forall_mem_cons] at named
      rw [List.flatMap_cons] at distinct
      rcases List.nodup_append.mp distinct with ⟨-, distinctOthers, apart⟩
      rw [List.flatMap_cons, entriesFor_append]
      rcases List.mem_cons.mp member with isFirst | inOthers
      · have notLater : entriesFor wanted (others.flatMap Group.entries) = [] := by
          apply entriesFor_eq_nil
          intro property later isWanted
          exact apart property (isFirst ▸ inGroup property isWanted) property
            ((names_flatMap named.2).mem later) rfl
        rw [notLater, List.append_nil, isFirst]
      · have notFirst : entriesFor wanted first.entries = [] := by
          apply entriesFor_eq_nil
          intro property early isWanted
          exact apart property (named.1.mem early) property
            (List.mem_flatMap.mpr ⟨group, inOthers, inGroup property isWanted⟩) rfl
        rw [notFirst, List.nil_append, inductionHypothesis named.2 distinctOthers inOthers]

variable {layer : Layer} {parent : Option Layer}

theorem entriesFor_declaration {group : Group} (member : group ∈ groups layer parent)
    {wanted : List String} (inGroup : ∀ property ∈ wanted, property ∈ group.order) :
    entriesFor wanted (declaration layer parent).properties = entriesFor wanted group.entries := by
  rw [properties_eq_groups]
  exact entriesFor_flatMap (isNamed_groups layer parent) nodup_propertyOrder member inGroup

/-! ## Backgrounds -/

/-- A gradient from one handle to another through all the given stops, in order. -/
def Gradient.along (start finish : Point) (stops : List ColorStop) : Gradient where
  angle := angleBetween start finish
  stops := stops.map fun stop => ⟨stop.color, Decimal.nearestInt (stop.position * 100.0)⟩

/-- A linear gradient with two handles or more and with stops. -/
def IsLinear (fill : Paint) : Prop :=
  fill.kind = .gradientLinear ∧ 2 ≤ fill.handles.length ∧ fill.stops ≠ []

theorem Gradient.ofPaint?_eq {fill : Paint} {start finish : Point} {handles : List Point}
    (linear : fill.kind = .gradientLinear) (handled : fill.handles = start :: finish :: handles)
    (stopped : fill.stops ≠ []) :
    Gradient.ofPaint? fill = some (Gradient.along start finish fill.stops) := by
  rcases List.exists_cons_of_ne_nil stopped with ⟨stop, stops, isStops⟩
  rw [Gradient.ofPaint?, linear, handled, isStops]
  rfl

theorem Gradient.ofPaint?_eq_none {fill : Paint} (notLinear : ¬IsLinear fill) :
    Gradient.ofPaint? fill = none := by
  unfold Gradient.ofPaint?
  split
  · next stop stops start finish handles linear stopped handled =>
      apply absurd _ notLinear
      refine ⟨linear, ?_, ?_⟩
      · rw [handled, List.length_cons, List.length_cons]
        exact Nat.le_add_left 2 handles.length
      · rw [stopped]
        exact List.cons_ne_nil stop stops
  · rfl

/-- What is declared when a fill lies in front of all others. -/
def backgroundOf (fill : Paint) : List (String × String) :=
  if fill.kind == .solid then optional "background-color" (fill.color.map color)
  else if fill.kind.isGradient then
    [("background", ((Gradient.ofPaint? fill).map Gradient.render).getD noGradient)]
  else []

theorem backgroundFill?_of_ne (notText : layer.shape ≠ .text) :
    backgroundFill? layer = layer.visibleFills.getLast? := by
  have isText : layer.isText = false := beq_eq_false_iff_ne.mpr notText
  rw [backgroundFill?, isText]
  rfl

theorem backgroundFill?_of_text (isText : layer.shape = .text) : backgroundFill? layer = none := by
  rw [backgroundFill?, Layer.isText, isText]
  rfl

/-- The background comes from the last fill that is drawn. -/
theorem entriesFor_background (notText : layer.shape ≠ .text) :
    entriesFor backgroundNames (declaration layer parent).properties =
      (layer.visibleFills.getLast?.map backgroundOf).getD [] := by
  have whole : entriesFor backgroundNames (backgroundProperties layer) =
      backgroundProperties layer :=
    entriesFor_eq_self fun _ member => (names_background layer).mem member
  rw [entriesFor_declaration mem_groups_background fun _ inGroup => inGroup, whole,
    backgroundProperties, backgroundFill?_of_ne notText]
  cases layer.visibleFills.getLast? <;> rfl

theorem backgroundOf_flat {fill : Paint} {flat : Color} (solid : fill.kind = .solid)
    (colored : fill.color = some flat) :
    backgroundOf fill = [("background-color", color flat)] := by
  rw [backgroundOf, solid, colored]
  rfl

theorem backgroundOf_linear {fill : Paint} {start finish : Point} {handles : List Point}
    (linear : fill.kind = .gradientLinear) (handled : fill.handles = start :: finish :: handles)
    (stopped : fill.stops ≠ []) :
    backgroundOf fill = [("background", (Gradient.along start finish fill.stops).render)] := by
  rw [backgroundOf, Gradient.ofPaint?_eq linear handled stopped, linear]
  rfl

theorem backgroundOf_otherGradient {fill : Paint} (gradient : fill.kind.isGradient = true)
    (notLinear : ¬IsLinear fill) : backgroundOf fill = [("background", "none")] := by
  have notSolid : (fill.kind == .solid) = false := by
    apply beq_eq_false_iff_ne.mpr
    intro solid
    rw [solid] at gradient
    cases gradient
  rw [backgroundOf, notSolid, gradient, Gradient.ofPaint?_eq_none notLinear]
  rfl

theorem backgroundOf_nothing {fill : Paint} (notGradient : fill.kind.isGradient = false)
    (notFlat : ¬(fill.kind = .solid ∧ fill.color.isSome = true)) : backgroundOf fill = [] := by
  rw [backgroundOf, notGradient]
  by_cases solid : fill.kind = .solid
  · have colorless : fill.color = none := by
      apply Option.not_isSome_iff_eq_none.mp
      intro colored
      exact notFlat ⟨solid, colored⟩
    rw [colorless]
    split <;> rfl
  · rw [if_neg (by simpa using solid)]
    rfl

/-! ## Colours of characters -/

theorem solidColor?_eq_some_iff {fill : Paint} {value : String} :
    solidColor? fill = some value ↔
      ∃ flat, fill.kind = .solid ∧ fill.color = some flat ∧ color flat = value := by
  rw [solidColor?]
  cases fill.kind <;> simp

theorem entriesFor_optional_of_notMem {wanted : List String} {property : String}
    (notWanted : property ∉ wanted) (value : Option String) :
    entriesFor wanted (optional property value) = [] := by
  apply entriesFor_eq_nil
  intro other member
  rw [List.mem_singleton.mp ((names_optional property value).mem member)]
  exact notWanted

/-- The colour of characters comes from the first fill that is drawn. -/
theorem entriesFor_color {setting : TypeStyle} (isText : layer.shape = .text)
    (isSet : layer.textStyle = some setting) :
    entriesFor ["color"] (declaration layer parent).properties =
      optional "color" (layer.visibleFills.head?.bind solidColor?) := by
  have inGroup : ∀ property ∈ ["color"], property ∈ typeNames := by decide
  have shown : shownTextStyle? layer = some setting := by
    rw [shownTextStyle?, Layer.isText, isText, isSet]
    rfl
  have fixed : entriesFor ["color"] [("font-family", "'" ++ setting.fontFamily ++ "', sans-serif"),
      ("font-weight", number setting.fontWeight), ("font-size", pixels setting.fontSize),
      ("text-align", textAlign setting.alignHorizontal)] = [] := rfl
  have height := entriesFor_optional_of_notMem (by decide : "line-height" ∉ ["color"])
  have spacing := entriesFor_optional_of_notMem (by decide : "letter-spacing" ∉ ["color"])
  have colored : ∀ value, entriesFor ["color"] (optional "color" value) = optional "color" value :=
    fun value => entriesFor_eq_self fun _ member => (names_optional "color" value).mem member
  rw [entriesFor_declaration mem_groups_type inGroup, typeProperties, shown]
  dsimp only
  rw [entriesFor_append, entriesFor_append, entriesFor_append, fixed, height, spacing, colored]
  rfl

/-! ## The deciding fill -/

/-- Two layers look the same on the given one: they have the same declaration, need the
same font family and have the same things wrong with them. -/
structure SameStyle (first second : Layer) (parent : Option Layer) : Prop where
  declaration : declaration first parent = declaration second parent
  family : fontFamily? first = fontFamily? second
  diagnostics : diagnostics first parent = diagnostics second parent

/-- Fills show in the background and in the colour of characters only. -/
theorem sameStyle_fills {fills : List Paint}
    (background : backgroundFill? (layer.withFills fills) = backgroundFill? layer)
    (type : typeProperties (layer.withFills fills) = typeProperties layer) :
    SameStyle (layer.withFills fills) layer parent where
  declaration := by
    rw [declaration, type, backgroundProperties, background]
    cases parent <;> rfl
  family := rfl
  diagnostics := by
    rw [diagnostics, gradientDiagnostics, background]
    cases parent <;> rfl

/-- What the fills of a layer decide about its style.  Fills that are not drawn decide
nothing; of the others one is chosen first and looked at then. -/
structure FillsDecide (layer : Layer) (parent : Option Layer) : Prop where
  /-- Only the last fill that is drawn makes a difference. -/
  lastDecides : layer.shape ≠ .text → ∀ fills : List Paint,
    (layer.withFills fills).visibleFills.getLast? = layer.visibleFills.getLast? →
      SameStyle (layer.withFills fills) layer parent
  /-- Only the first fill that is drawn makes a difference for a text. -/
  firstDecides : layer.shape = .text → ∀ fills : List Paint,
    (layer.withFills fills).visibleFills.head? = layer.visibleFills.head? →
      SameStyle (layer.withFills fills) layer parent
  flat : layer.shape ≠ .text → ∀ fill flat, layer.visibleFills.getLast? = some fill →
    fill.kind = .solid → fill.color = some flat →
      entriesFor ["background-color", "background"] (declaration layer parent).properties =
        [("background-color", color flat)]
  linear : layer.shape ≠ .text → ∀ fill start finish handles,
    layer.visibleFills.getLast? = some fill → fill.kind = .gradientLinear →
      fill.handles = start :: finish :: handles → fill.stops ≠ [] →
        entriesFor ["background-color", "background"] (declaration layer parent).properties =
          [("background", (Gradient.along start finish fill.stops).render)]
  otherGradient : layer.shape ≠ .text → ∀ fill, layer.visibleFills.getLast? = some fill →
    fill.kind.isGradient = true → ¬IsLinear fill →
      entriesFor ["background-color", "background"] (declaration layer parent).properties =
        [("background", "none")]
  /-- Whatever lies behind a fill that declares nothing, or behind no fill. -/
  nothing : layer.shape ≠ .text →
    (∀ fill, layer.visibleFills.getLast? = some fill → fill.kind.isGradient = false ∧
      ¬(fill.kind = .solid ∧ fill.color.isSome = true)) →
        entriesFor ["background-color", "background"] (declaration layer parent).properties = []
  colored : layer.shape = .text → layer.textStyle.isSome = true → ∀ fill flat,
    layer.visibleFills.head? = some fill → fill.kind = .solid → fill.color = some flat →
      entriesFor ["color"] (declaration layer parent).properties = [("color", color flat)]
  /-- Whatever comes behind a first fill that has no colour. -/
  uncolored : layer.shape = .text → layer.textStyle.isSome = true →
    (∀ fill, layer.visibleFills.head? = some fill →
      ¬(fill.kind = .solid ∧ fill.color.isSome = true)) →
        entriesFor ["color"] (declaration layer parent).properties = []

/-- On any layer, whatever lies below it, one fill decides. -/
theorem fills_decide (layer : Layer) (parent : Option Layer) : FillsDecide layer parent where
  lastDecides := by
    intro notText fills same
    have otherNotText : (layer.withFills fills).shape ≠ .text := notText
    have hidden : shownTextStyle? layer = none := by
      rw [shownTextStyle?, Layer.isText, beq_eq_false_iff_ne.mpr notText]
      rfl
    have otherHidden : shownTextStyle? (layer.withFills fills) = none := hidden
    apply sameStyle_fills
    · rw [backgroundFill?_of_ne notText, backgroundFill?_of_ne otherNotText, same]
    · rw [typeProperties, typeProperties, hidden, otherHidden]
  firstDecides := by
    intro isText fills same
    have otherIsText : (layer.withFills fills).shape = .text := isText
    apply sameStyle_fills
    · rw [backgroundFill?_of_text isText, backgroundFill?_of_text otherIsText]
    · rw [typeProperties, typeProperties, same]
      rfl
  flat := by
    intro notText fill flat inFront solid colored
    rw [← backgroundOf_flat solid colored]
    exact (entriesFor_background notText).trans (by rw [inFront]; rfl)
  linear := by
    intro notText fill start finish handles inFront linear handled stopped
    rw [← backgroundOf_linear linear handled stopped]
    exact (entriesFor_background notText).trans (by rw [inFront]; rfl)
  otherGradient := by
    intro notText fill inFront gradient notLinear
    rw [← backgroundOf_otherGradient gradient notLinear]
    exact (entriesFor_background notText).trans (by rw [inFront]; rfl)
  nothing := by
    intro notText silent
    refine (entriesFor_background notText).trans ?_
    cases inFront : layer.visibleFills.getLast? with
    | none => rfl
    | some fill =>
        rcases silent fill inFront with ⟨notGradient, notFlat⟩
        exact backgroundOf_nothing notGradient notFlat
  colored := by
    intro isText isSet fill flat first solid colored
    rcases Option.isSome_iff_exists.mp isSet with ⟨setting, set⟩
    rw [entriesFor_color isText set, first, Option.bind_some,
      solidColor?_eq_some_iff.mpr ⟨flat, solid, colored, rfl⟩]
    rfl
  uncolored := by
    intro isText isSet colorless
    rcases Option.isSome_iff_exists.mp isSet with ⟨setting, set⟩
    have noColor : layer.visibleFills.head?.bind solidColor? = none := by
      rw [Option.bind_eq_none_iff]
      intro fill first
      cases shown : solidColor? fill with
      | none => rfl
      | some value =>
          rcases solidColor?_eq_some_iff.mp shown with ⟨flat, solid, colored, -⟩
          refine absurd ⟨solid, ?_⟩ (colorless fill first)
          rw [colored]
          rfl
    rw [entriesFor_color isText set, noColor]
    rfl

end Style
end Artboard
