import Artboard.Proofs.Page.Edited
import Artboard.Proofs.Page.Findings

/-!
# Faults stay where they are

The looks of a layer are all its properties apart from its id and name, what it is,
what it says and whether it is drawn.  Whatever happens to the looks of one layer,
be it that bounds get lost or that a gradient is malformed, the markup and the
classes of the page stay as they are.  What is declared and what is found changes
at that layer and at the layers directly on it, which are placed by its bounds and
its layout, and nowhere else.
-/

namespace Artboard

/-- How a layer looks and is laid out. -/
structure Looks where
  bounds : Option Rect
  fills : List Paint
  strokes : List Paint
  strokeWeight : Option Float
  effects : List Effect
  textStyle : Option TypeStyle
  layoutMode : Option LayoutMode
  primaryAlign : Option AxisAlign
  counterAlign : Option AxisAlign
  padding : Padding
  itemSpacing : Option Float
  positioning : Option Positioning
  cornerRadius : Option Float
  opacity : Option Float

/-- The same layer with other looks. -/
def Layer.withLooks (layer : Layer) (looks : Looks) : Layer :=
  { layer with
    bounds := looks.bounds
    fills := looks.fills
    strokes := looks.strokes
    strokeWeight := looks.strokeWeight
    effects := looks.effects
    textStyle := looks.textStyle
    layoutMode := looks.layoutMode
    primaryAlign := looks.primaryAlign
    counterAlign := looks.counterAlign
    padding := looks.padding
    itemSpacing := looks.itemSpacing
    positioning := looks.positioning
    cornerRadius := looks.cornerRadius
    opacity := looks.opacity }

theorem Layer.sameContent_withLooks (layer : Layer) (looks : Looks) :
    (layer.withLooks looks).SameContent layer :=
  ⟨rfl, rfl, rfl, rfl, rfl⟩

namespace Page

open Node (Edit TreePlace Order)

/-- Give the layer at a path other looks, and leave all others as they are. -/
def restyleAt (target : List Nat) (looks : Looks) : Edit :=
  fun path layer => if path = target then layer.withLooks looks else layer

/-- Whether a path leads neither to the target nor to a place directly on it. -/
def isApart (target path : List Nat) : Bool :=
  path != target && path.dropLast != target

theorem isApart_iff {target path : List Nat} :
    isApart target path = true ↔ path ≠ target ∧ ∀ index, path ≠ target ++ [index] := by
  rw [isApart, Bool.and_eq_true, bne_iff_ne, bne_iff_ne]
  constructor
  · rintro ⟨notTarget, notOn⟩
    refine ⟨notTarget, ?_⟩
    intro index same
    rw [same, List.dropLast_concat] at notOn
    exact notOn rfl
  · rintro ⟨notTarget, notOn⟩
    refine ⟨notTarget, ?_⟩
    intro on
    by_cases empty : path = []
    · rw [empty, List.dropLast_nil] at on
      exact notTarget (empty.trans on)
    · have split := List.dropLast_append_getLast empty
      rw [on] at split
      exact notOn _ split.symm

theorem keepsContent_restyleAt (target : List Nat) (looks : Looks) :
    (restyleAt target looks).KeepsContent := by
  intro path layer
  unfold restyleAt
  split
  · exact layer.sameContent_withLooks looks
  · exact .refl layer

theorem restyleAt_of_ne {target path : List Nat} (looks : Looks) (different : path ≠ target) :
    restyleAt target looks path = id := by
  funext layer
  rw [restyleAt, if_neg different]
  rfl

variable {target : List Nat} {place : TreePlace}

/-- A place apart from the target keeps its layer and the layer below. -/
theorem layer_parent_of_isApart (looks : Looks) (apart : isApart target place.path = true) :
    (place.edited (restyleAt target looks)).layer = place.layer ∧
      (place.edited (restyleAt target looks)).parent = place.parent := by
  rw [isApart, Bool.and_eq_true, bne_iff_ne, bne_iff_ne] at apart
  rw [TreePlace.layer_edited, TreePlace.parent_edited, restyleAt_of_ne looks apart.1,
    restyleAt_of_ne looks apart.2]
  exact ⟨rfl, Option.map_id_apply⟩

/-! ## Rules and findings with their places -/

/-- The rules of a page, each with the path to its place. -/
def locatedRules (images : ImageMap) (root : Node) :
    List (List Nat × String × Declaration) :=
  ((visited images .postorder root).map TreePlace.path).zip (ofNode images root).rules

/-- What is found at the places of a tree, each finding with the path to its place. -/
def locatedFindings (images : ImageMap) (root : Node) : List (List Nat × Diagnostic) :=
  (visited images .preorder root).flatMap fun place =>
    (findings images place).map fun finding => (place.path, finding)

theorem locatedRules_eq (images : ImageMap) (root : Node) :
    locatedRules images root =
      (visited images .postorder root).map fun place =>
        (place.path, ruleOf (number images root place) place) := by
  rw [locatedRules, rules_ofNode, List.zip_map']

theorem rules_eq_located (images : ImageMap) (root : Node) :
    (ofNode images root).rules = (locatedRules images root).map Prod.snd := by
  rw [locatedRules_eq, rules_ofNode, List.map_map]
  rfl

theorem diagnostics_eq_located (images : ImageMap) (root : Node) :
    (ofNode images root).diagnostics = (locatedFindings images root).map Prod.snd := by
  rw [diagnostics_ofNode, locatedFindings, List.map_flatMap]
  simp only [List.map_map, Function.comp_def, List.map_id']

theorem locatedRules_edited {edit : Edit} (keeps : edit.KeepsContent) (images : ImageMap)
    (root : Node) :
    locatedRules images (root.edited edit) =
      (visited images .postorder root).map fun place =>
        (place.path, ruleOf (number images root place) (place.edited edit)) := by
  rw [locatedRules, visited_edited keeps, List.map_map, rules_edited keeps, List.zip_map']
  rfl

theorem locatedFindings_edited {edit : Edit} (keeps : edit.KeepsContent) (images : ImageMap)
    (root : Node) :
    locatedFindings images (root.edited edit) =
      (visited images .preorder root).flatMap fun place =>
        (findings images (place.edited edit)).map fun finding => (place.path, finding) := by
  rw [locatedFindings, visited_edited keeps, List.flatMap_map]
  rfl

/-- The rules of places apart from a restyled layer stay. -/
theorem filter_locatedRules (images : ImageMap) (root : Node) (target : List Nat)
    (looks : Looks) :
    (locatedRules images (root.edited (restyleAt target looks))).filter
        (fun entry => isApart target entry.1) =
      (locatedRules images root).filter fun entry => isApart target entry.1 := by
  rw [locatedRules_edited (keepsContent_restyleAt target looks), locatedRules_eq,
    List.filter_map, List.filter_map]
  refine List.map_congr_left ?_
  intro place member
  have kept := layer_parent_of_isApart looks (List.mem_filter.mp member).2
  rw [ruleOf, ruleOf, kept.1, kept.2]

/-- The findings at places apart from a restyled layer stay. -/
theorem filter_locatedFindings (images : ImageMap) (root : Node) (target : List Nat)
    (looks : Looks) :
    (locatedFindings images (root.edited (restyleAt target looks))).filter
        (fun entry => isApart target entry.1) =
      (locatedFindings images root).filter fun entry => isApart target entry.1 := by
  rw [locatedFindings_edited (keepsContent_restyleAt target looks), locatedFindings,
    List.filter_flatMap, List.filter_flatMap]
  refine congrArg List.flatten (List.map_congr_left ?_)
  intro place _
  rw [List.filter_map, List.filter_map]
  cases apart : isApart target place.path with
  | false => simp [Function.comp_def, apart]
  | true =>
      have kept := layer_parent_of_isApart looks apart
      rw [findings, findings, kept.1, kept.2]

/-- Whatever the looks of the layer at a path become, the body of the page is the same
text and the same classes are registered in the same order.  Of the rules and of the
findings, each told with its place, those of all places but this one and the ones
directly on it stay, in the same order. -/
theorem restyled_contained (images : ImageMap) (root : Node) (target : List Nat)
    (looks : Looks) :
    let changed := root.edited (restyleAt target looks)
    (ofNode images changed).bodyText = (ofNode images root).bodyText ∧
      (ofNode images changed).rules.map Prod.fst = (ofNode images root).rules.map Prod.fst ∧
      (ofNode images root).rules = (locatedRules images root).map Prod.snd ∧
      (ofNode images changed).rules = (locatedRules images changed).map Prod.snd ∧
      (locatedRules images changed).filter (fun entry => isApart target entry.1) =
        (locatedRules images root).filter (fun entry => isApart target entry.1) ∧
      (ofNode images root).diagnostics = (locatedFindings images root).map Prod.snd ∧
      (ofNode images changed).diagnostics = (locatedFindings images changed).map Prod.snd ∧
      (locatedFindings images changed).filter (fun entry => isApart target entry.1) =
        (locatedFindings images root).filter (fun entry => isApart target entry.1) := by
  intro changed
  have keeps := keepsContent_restyleAt target looks
  refine ⟨?_, classes_edited keeps images root, rules_eq_located images root,
    rules_eq_located images changed, filter_locatedRules images root target looks,
    diagnostics_eq_located images root, diagnostics_eq_located images changed,
    filter_locatedFindings images root target looks⟩
  rw [bodyText, bodyText, body_edited keeps images root]

end Page
end Artboard
