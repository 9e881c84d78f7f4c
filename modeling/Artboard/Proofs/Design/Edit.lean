import Artboard.Proofs.Design.Place

/-!
# Editing layers where they are

An edit changes the layers of a tree, each by where it is, and leaves the shape of
the tree alone.  The places of an edited tree are the edited places of the tree: an
edited place has the same path, its layer is edited by that path, and so is each
layer that it lies on by the shorter path that leads there.
-/

namespace Artboard

/-- Two layers with the same content differ in their looks only. -/
structure Layer.SameContent (first second : Layer) : Prop where
  id : first.id = second.id
  name : first.name = second.name
  shape : first.shape = second.shape
  characters : first.characters = second.characters
  visible : first.visible = second.visible

theorem Layer.SameContent.refl (layer : Layer) : layer.SameContent layer :=
  ⟨rfl, rfl, rfl, rfl, rfl⟩

namespace Node

/-- A change of a layer that may depend on the path to it. -/
abbrev Edit := List Nat → Layer → Layer

mutual

/-- The edited tree that stands at a path. -/
def editFrom (edit : Edit) (path : List Nat) : Node → Node
  | ⟨layer, children⟩ => ⟨edit path layer, editFromAll edit path 0 children⟩

def editFromAll (edit : Edit) (path : List Nat) : Nat → List Node → List Node
  | _, [] => []
  | index, node :: nodes =>
    editFrom edit (path ++ [index]) node :: editFromAll edit path (index + 1) nodes

end

def edited (edit : Edit) (root : Node) : Node :=
  editFrom edit [] root

/-- The layers that a path leads over, nearest first, each edited. -/
def editAbove (edit : Edit) : List Nat → List Layer → List Layer
  | _, [] => []
  | path, layer :: above => edit path.dropLast layer :: editAbove edit path.dropLast above

def TreePlace.edited (edit : Edit) (place : TreePlace) : TreePlace where
  path := place.path
  above := editAbove edit place.path place.above
  node := editFrom edit place.path place.node

variable (edit : Edit)

@[simp] theorem layer_editFrom (path : List Nat) (node : Node) :
    (editFrom edit path node).layer = edit path node.layer := by
  rcases node with ⟨layer, children⟩
  rw [editFrom]

@[simp] theorem TreePlace.path_edited (place : TreePlace) :
    (place.edited edit).path = place.path := rfl

@[simp] theorem TreePlace.layer_edited (place : TreePlace) :
    (place.edited edit).layer = edit place.path place.layer :=
  layer_editFrom edit place.path place.node

@[simp] theorem TreePlace.parent_edited (place : TreePlace) :
    (place.edited edit).parent = place.parent.map (edit place.path.dropLast) := by
  rcases place with ⟨path, above, node⟩
  cases above <;> rfl

theorem editAbove_child (path : List Nat) (index : Nat) (layer : Layer) (above : List Layer) :
    editAbove edit (path ++ [index]) (layer :: above) =
      edit path layer :: editAbove edit path above := by
  rw [editAbove, List.dropLast_concat]

mutual

theorem placesFrom_editFrom (order : Order) : (node : Node) → (path : List Nat) →
    (above : List Layer) →
    placesFrom order path (editAbove edit path above) (editFrom edit path node) =
      (placesFrom order path above node).map (TreePlace.edited edit)
  | ⟨layer, children⟩, path, above => by
      have below := placesFromAll_editFromAll order children path layer above 0
      simp only [editFrom, placesFrom, below]
      cases order with
      | preorder =>
          simp only [Order.arrange, List.map_cons]
          rfl
      | postorder =>
          simp only [Order.arrange, List.map_append, List.map_cons, List.map_nil]
          rfl

theorem placesFromAll_editFromAll (order : Order) : (nodes : List Node) → (path : List Nat) →
    (below : Layer) → (above : List Layer) → (index : Nat) →
    placesFromAll order path (edit path below :: editAbove edit path above) index
        (editFromAll edit path index nodes) =
      (placesFromAll order path (below :: above) index nodes).map (TreePlace.edited edit)
  | [], _, _, _, _ => rfl
  | node :: nodes, path, below, above, index => by
      have first := placesFrom_editFrom order node (path ++ [index]) (below :: above)
      have others := placesFromAll_editFromAll order nodes path below above (index + 1)
      rw [editAbove_child] at first
      rw [editFromAll, placesFromAll, placesFromAll, first, others, List.map_append]

end

/-- The places of an edited tree are the edited places of the tree. -/
theorem places_edited (order : Order) (root : Node) :
    (root.edited edit).places order = (root.places order).map (TreePlace.edited edit) :=
  placesFrom_editFrom edit order root [] []

mutual

/-- Two edits one after the other are one edit. -/
theorem editFrom_editFrom (next : Edit) : (node : Node) → (path : List Nat) →
    editFrom next path (editFrom edit path node) =
      editFrom (fun path layer => next path (edit path layer)) path node
  | ⟨layer, children⟩, path => by
      rw [editFrom, editFrom, editFrom, editFromAll_editFromAll next children path 0]

theorem editFromAll_editFromAll (next : Edit) : (nodes : List Node) → (path : List Nat) →
    (index : Nat) → editFromAll next path index (editFromAll edit path index nodes) =
      editFromAll (fun path layer => next path (edit path layer)) path index nodes
  | [], _, _ => rfl
  | node :: nodes, path, index => by
      rw [editFromAll, editFromAll, editFromAll, editFrom_editFrom next node (path ++ [index]),
        editFromAll_editFromAll next nodes path (index + 1)]

end

/-- Whether an edit leaves the content of every layer alone. -/
def Edit.KeepsContent (edit : Edit) : Prop :=
  ∀ path layer, (edit path layer).SameContent layer

end Node
end Artboard
