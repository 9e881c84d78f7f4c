import Artboard.Proofs.Design.Place

/-!
# Paths through a design tree

A path by itself says which node of a tree is meant: one child after the other is taken from
the root on.  Nothing is known of the nodes on the way but what the tree has there.  The
places of a tree are its paths with what they lead to, and the layers that a place lies on
are those that its path leads over, which are the layers at the shorter paths that it begins
with.
-/

namespace Artboard
namespace Node

/-- The node that a path leads to, if it does not leave the tree. -/
def at? : Node → List Nat → Option Node
  | node, [] => some node
  | node, index :: path => node.children[index]?.bind fun child => child.at? path

/-- Whether a path leads over a layer before it comes to its end. -/
def LeadsOver (node : Node) (path : List Nat) (layer : Layer) : Prop :=
  ∃ outer passed, outer <+: path ∧ outer ≠ path ∧ node.at? outer = some passed ∧
    passed.layer = layer

theorem at?_cons_eq_some {node found : Node} {index : Nat} {path : List Nat} :
    node.at? (index :: path) = some found ↔
      ∃ child, node.children[index]? = some child ∧ child.at? path = some found :=
  Option.bind_eq_some_iff

theorem not_leadsOver_nil (node : Node) (layer : Layer) : ¬node.LeadsOver [] layer := by
  rintro ⟨outer, passed, begins, proper, -, -⟩
  exact proper (List.prefix_nil.mp begins)

/-- A path leads over the layer that it begins on and then over those below. -/
theorem leadsOver_cons {node child : Node} {index : Nat} (taken : node.children[index]? = some child)
    (path : List Nat) (layer : Layer) :
    node.LeadsOver (index :: path) layer ↔ layer = node.layer ∨ child.LeadsOver path layer := by
  constructor
  · rintro ⟨outer, passed, begins, proper, found, same⟩
    cases outer with
    | nil =>
        cases found
        exact Or.inl same.symm
    | cons first outer =>
        rcases List.cons_prefix_cons.mp begins with ⟨sameIndex, beginsBelow⟩
        subst sameIndex
        rcases at?_cons_eq_some.mp found with ⟨next, sameChild, foundBelow⟩
        rw [taken] at sameChild
        cases sameChild
        refine Or.inr ⟨outer, passed, beginsBelow, ?_, foundBelow, same⟩
        intro whole
        exact proper (congrArg (first :: ·) whole)
  · rintro (same | ⟨outer, passed, begins, proper, found, same⟩)
    · exact ⟨[], node, List.nil_prefix, (List.cons_ne_nil index path).symm, rfl, same.symm⟩
    · refine ⟨index :: outer, passed, List.cons_prefix_cons.mpr ⟨rfl, begins⟩, ?_,
        at?_cons_eq_some.mpr ⟨child, taken, found⟩, same⟩
      intro whole
      exact proper (List.cons.inj whole).2

/-! ## Places and paths -/

mutual

/-- What a place holds is at the end of its path, and it lies on what the path leads over. -/
theorem exists_way {order : Order} {place : TreePlace} : (node : Node) → (path : List Nat) →
    (above : List Layer) → place ∈ placesFrom order path above node →
    ∃ way, place.path = path ++ way ∧ node.at? way = some place.node ∧
      ∀ layer, layer ∈ place.above ↔ layer ∈ above ∨ node.LeadsOver way layer
  | ⟨top, children⟩, path, above, member => by
      simp only [placesFrom, Order.mem_arrange] at member
      rcases member with same | member
      · subst same
        refine ⟨[], (List.append_nil path).symm, rfl, ?_⟩
        intro layer
        exact (or_iff_left (not_leadsOver_nil _ layer)).symm
      · rcases exists_way_all children path (top :: above) 0 member with
          ⟨child, node, way, taken, whole, found, passes⟩
        rw [Nat.zero_add] at whole
        have below : (⟨top, children⟩ : Node).children[child]? = some node := taken
        refine ⟨child :: way, whole, at?_cons_eq_some.mpr ⟨node, below, found⟩, ?_⟩
        intro layer
        rw [passes layer, leadsOver_cons below, List.mem_cons, or_assoc, or_left_comm]

theorem exists_way_all {order : Order} {place : TreePlace} : (nodes : List Node) →
    (path : List Nat) → (above : List Layer) → (index : Nat) →
    place ∈ placesFromAll order path above index nodes →
    ∃ child node way, nodes[child]? = some node ∧ place.path = path ++ (index + child) :: way ∧
      node.at? way = some place.node ∧
      ∀ layer, layer ∈ place.above ↔ layer ∈ above ∨ node.LeadsOver way layer
  | [], _, _, _, member => by
      simp [placesFromAll] at member
  | node :: nodes, path, above, index, member => by
      simp only [placesFromAll, List.mem_append] at member
      rcases member with member | member
      · rcases exists_way node (path ++ [index]) above member with ⟨way, whole, found, passes⟩
        rw [List.append_assoc] at whole
        exact ⟨0, node, way, rfl, whole, found, passes⟩
      · rcases exists_way_all nodes path above (index + 1) member with
          ⟨child, other, way, taken, whole, found, passes⟩
        rw [Nat.add_right_comm] at whole
        exact ⟨child + 1, other, way, taken, whole, found, passes⟩

end

theorem mem_placesFromAll_of_taken {order : Order} {place : TreePlace} {nodes : List Node}
    {child : Nat} {node : Node} (path : List Nat) (above : List Layer) (index : Nat)
    (taken : nodes[child]? = some node)
    (member : place ∈ placesFrom order (path ++ [index + child]) above node) :
    place ∈ placesFromAll order path above index nodes := by
  induction nodes generalizing child index with
  | nil => cases taken
  | cons first nodes inductionHypothesis =>
      rw [placesFromAll, List.mem_append]
      cases child with
      | zero =>
          cases taken
          exact Or.inl member
      | succ child =>
          rw [Nat.add_comm child 1, ← Nat.add_assoc] at member
          exact Or.inr (inductionHypothesis (index + 1) taken member)

/-- Every node that a path leads to has a place. -/
theorem exists_place_of_at? (order : Order) {found : Node} (way : List Nat) (node : Node)
    (path : List Nat) (above : List Layer) (leads : node.at? way = some found) :
    ∃ place ∈ placesFrom order path above node,
      place.path = path ++ way ∧ place.node = found := by
  induction way generalizing node path above with
  | nil =>
      cases leads
      rcases found with ⟨layer, children⟩
      rw [placesFrom]
      exact ⟨_, Order.mem_arrange.mpr (Or.inl rfl), (List.append_nil path).symm, rfl⟩
  | cons index way inductionHypothesis =>
      rcases node with ⟨layer, children⟩
      rcases at?_cons_eq_some.mp leads with ⟨child, taken, leadsBelow⟩
      rcases inductionHypothesis child (path ++ [index]) (layer :: above) leadsBelow with
        ⟨place, member, whole, same⟩
      rw [List.append_assoc] at whole
      rw [placesFrom]
      refine ⟨place, Order.mem_arrange.mpr (Or.inr ?_), whole, same⟩
      apply mem_placesFromAll_of_taken path (layer :: above) 0 taken
      rwa [Nat.zero_add]

variable {root : Node} {order : Order} {place : TreePlace}

theorem at?_path (member : place ∈ root.places order) : root.at? place.path = some place.node := by
  rcases exists_way root [] [] member with ⟨way, whole, found, -⟩
  rwa [whole, List.nil_append]

/-- A place lies on the layers that its path leads over. -/
theorem mem_above_iff (member : place ∈ root.places order) (layer : Layer) :
    layer ∈ place.above ↔ root.LeadsOver place.path layer := by
  rcases exists_way root [] [] member with ⟨way, whole, -, passes⟩
  rw [passes layer, whole, List.nil_append]
  exact or_iff_right List.not_mem_nil

/-- The paths of the places are the paths that lead to a node. -/
theorem mem_paths_iff {path : List Nat} :
    path ∈ (root.places order).map TreePlace.path ↔ ∃ node, root.at? path = some node := by
  constructor
  · intro member
    rcases List.mem_map.mp member with ⟨place, placed, same⟩
    rw [← same]
    exact ⟨place.node, at?_path placed⟩
  · rintro ⟨node, leads⟩
    rcases exists_place_of_at? order path root [] [] leads with ⟨place, member, whole, -⟩
    exact List.mem_map.mpr ⟨place, member, whole⟩

end Node
end Artboard
