import Artboard.Page.Document
import Artboard.Proofs.Design.Edit
import Artboard.Proofs.Page.Registry

/-!
# Pages of edited trees

Markup is made from the content of layers: their ids, names, shapes and characters,
and whether they are drawn.  An edit that keeps the content of all layers keeps the
depiction of the tree, its visited places with their numbers, and the classes of its
rules.  What is declared at a place may change only with the layer there or with the
layer below it.
-/

namespace Artboard

variable {images : ImageMap}

theorem Markup.Element.ofLayer_eq {first second : Layer} (same : first.SameContent second) :
    Markup.Element.ofLayer first = Markup.Element.ofLayer second := by
  rw [Markup.Element.ofLayer, same.name, same.shape, same.characters, ← Markup.Element.ofLayer]

namespace Page

open Node (Edit TreePlace Order editFrom editFromAll editAbove)

theorem isOpen_eq {first second : Layer} (same : first.SameContent second) :
    isOpen images first = isOpen images second := by
  rw [isOpen, same.visible, same.id, ← isOpen]

variable {edit : Edit}

/-! ## Markup -/

mutual

theorem numbered_editFrom (keeps : edit.KeepsContent) : (node : Node) → (path : List Nat) →
    numbered images (editFrom edit path node) = numbered images node
  | ⟨layer, children⟩, path => by
      have same := keeps path layer
      have below := numberedOfAll_editFromAll keeps children path 0
      simp only [editFrom, numbered, same.visible, same.id, below]

theorem numberedOfAll_editFromAll (keeps : edit.KeepsContent) : (nodes : List Node) →
    (path : List Nat) → (index : Nat) →
    numberedOfAll images (editFromAll edit path index nodes) = numberedOfAll images nodes
  | [], _, _ => rfl
  | node :: nodes, path, index => by
      rw [editFromAll, numberedOfAll, numberedOfAll,
        numbered_editFrom keeps node (path ++ [index]),
        numberedOfAll_editFromAll keeps nodes path (index + 1)]

end

mutual

theorem depict_editFrom (keeps : edit.KeepsContent) : (node : Node) → (path : List Nat) →
    (number : Nat) → depict images number (editFrom edit path node) = depict images number node
  | ⟨layer, children⟩, path, number => by
      have same := keeps path layer
      have below := depictAll_editFromAll keeps children path 0 (number + 1)
      simp only [editFrom, depict, elementOf, same.visible, same.id, same.name, same.shape,
        same.characters, Markup.Element.ofLayer_eq same, below]

theorem depictAll_editFromAll (keeps : edit.KeepsContent) : (nodes : List Node) →
    (path : List Nat) → (index number : Nat) →
    depictAll images number (editFromAll edit path index nodes) = depictAll images number nodes
  | [], _, _, _ => rfl
  | node :: nodes, path, index, number => by
      rw [editFromAll, depictAll, depictAll, depict_editFrom keeps node (path ++ [index]),
        numbered_editFrom keeps node (path ++ [index]),
        depictAll_editFromAll keeps nodes path (index + 1)]

end

/-- An edit that keeps the content of all layers keeps the markup of the page. -/
theorem body_edited (keeps : edit.KeepsContent) (images : ImageMap) (root : Node) :
    (ofNode images (root.edited edit)).body = (ofNode images root).body := by
  have body : ∀ node, (ofNode images node).body = depict images 0 node :=
    fun node => markup_visit node none Run.start
  rw [body, body]
  exact depict_editFrom keeps root [] 0

/-! ## Places -/

theorem all_isOpen_editAbove (keeps : edit.KeepsContent) (path : List Nat)
    (above : List Layer) :
    (editAbove edit path above).all (isOpen images) = above.all (isOpen images) := by
  induction above generalizing path with
  | nil => rfl
  | cons layer above inductionHypothesis =>
      rw [editAbove, List.all_cons, List.all_cons, inductionHypothesis,
        isOpen_eq (keeps path.dropLast layer)]

theorem isVisited_edited (keeps : edit.KeepsContent) (place : TreePlace) :
    isVisited images (place.edited edit) = isVisited images place := by
  rw [isVisited, TreePlace.layer_edited, (keeps place.path place.layer).visible]
  exact congrArg (place.layer.visible && ·) (all_isOpen_editAbove keeps place.path place.above)

theorem visited_edited (keeps : edit.KeepsContent) (images : ImageMap) (order : Order)
    (root : Node) :
    visited images order (root.edited edit) =
      (visited images order root).map (TreePlace.edited edit) := by
  rw [visited, Node.places_edited, List.filter_map]
  refine congrArg (List.map _) (List.filter_congr ?_)
  intro place _
  exact isVisited_edited keeps place

theorem number_edited (keeps : edit.KeepsContent) (images : ImageMap) (root : Node)
    (place : TreePlace) :
    number images (root.edited edit) (place.edited edit) = number images root place := by
  rw [number, number, numberIn, visited_edited keeps, List.map_map]
  rfl

/-! ## Rules -/

theorem rules_ofNode (images : ImageMap) (root : Node) :
    (ofNode images root).rules =
      (visited images .postorder root).map fun place =>
        ruleOf (number images root place) place :=
  rules_visit images root

/-- The rules of an edited tree are those of the edited places with the old numbers. -/
theorem rules_edited (keeps : edit.KeepsContent) (images : ImageMap) (root : Node) :
    (ofNode images (root.edited edit)).rules =
      (visited images .postorder root).map fun place =>
        ruleOf (number images root place) (place.edited edit) := by
  rw [rules_ofNode, visited_edited keeps, List.map_map]
  refine List.map_congr_left ?_
  intro place _
  rw [Function.comp_apply, number_edited keeps]

theorem className_ruleOf_edited (keeps : edit.KeepsContent) (number : Nat) (place : TreePlace) :
    (ruleOf number (place.edited edit)).1 = (ruleOf number place).1 := by
  rw [ruleOf, TreePlace.layer_edited, (keeps place.path place.layer).name]
  rfl

theorem classes_edited (keeps : edit.KeepsContent) (images : ImageMap) (root : Node) :
    (ofNode images (root.edited edit)).rules.map Prod.fst =
      (ofNode images root).rules.map Prod.fst := by
  rw [rules_edited keeps, rules_ofNode, List.map_map, List.map_map]
  refine List.map_congr_left ?_
  intro place _
  exact className_ruleOf_edited keeps _ place

end Page
end Artboard
