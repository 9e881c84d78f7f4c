import Artboard.Design.Node

/-!
# Places in a design tree

A tree may hold equal nodes, and nothing stops ids from repeating, so a node alone
does not say which one of a tree it is.  A place does: it is a node with the way
that leads to it and the layers that it lies on.

The places of a tree come in two orders, a layer before what lies on it or behind
it.  Both are one recursion, and both list the same places.  In preorder a place is
listed before another if its way comes first, comparing the ways child by child, so
no two places have the same way.
-/

namespace Artboard
namespace Node

/-- A node of a tree with where it is. -/
structure TreePlace where
  /-- Which child to take on each layer on the way from the root. -/
  path : List Nat
  /-- The layers that the node lies on, nearest first. -/
  above : List Layer
  node : Node

def TreePlace.layer (place : TreePlace) : Layer :=
  place.node.layer

/-- The layer that a place lies on directly, if any. -/
def TreePlace.parent (place : TreePlace) : Option Layer :=
  place.above.head?

/-- Whether a layer comes before or behind what lies on it. -/
inductive Order where
  | preorder
  | postorder
  deriving DecidableEq, Repr

def Order.arrange (order : Order) (top : TreePlace) (below : List TreePlace) : List TreePlace :=
  match order with
  | .preorder => top :: below
  | .postorder => below ++ [top]

mutual

/-- The places of the tree that stands at a path on the given layers. -/
def placesFrom (order : Order) (path : List Nat) (above : List Layer) : Node → List TreePlace
  | ⟨layer, children⟩ =>
    order.arrange ⟨path, above, ⟨layer, children⟩⟩
      (placesFromAll order path (layer :: above) 0 children)

def placesFromAll (order : Order) (path : List Nat) (above : List Layer) :
    Nat → List Node → List TreePlace
  | _, [] => []
  | index, node :: nodes =>
    placesFrom order (path ++ [index]) above node ++
      placesFromAll order path above (index + 1) nodes

end

def places (order : Order) (root : Node) : List TreePlace :=
  placesFrom order [] [] root

theorem Order.mem_arrange {order : Order} {top place : TreePlace} {below : List TreePlace} :
    place ∈ order.arrange top below ↔ place = top ∨ place ∈ below := by
  cases order with
  | preorder => simp [arrange]
  | postorder => simp [arrange, or_comm]

theorem Order.filter_arrange (order : Order) (top : TreePlace) (below : List TreePlace)
    (keep : TreePlace → Bool) :
    (order.arrange top below).filter keep =
      if keep top then order.arrange top (below.filter keep) else below.filter keep := by
  cases order with
  | preorder => simp [arrange, List.filter_cons]
  | postorder =>
      by_cases kept : keep top = true
      · simp [arrange, kept]
      · simp [arrange, kept]

theorem Order.perm_arrange {top : TreePlace} {first second : List TreePlace}
    (same : first.Perm second) :
    (Order.arrange .preorder top first).Perm (Order.arrange .postorder top second) :=
  (same.cons top).trans (List.perm_append_singleton top second).symm

mutual

/-- Both orders list the same places. -/
theorem placesFrom_perm : (node : Node) → (path : List Nat) → (above : List Layer) →
    (placesFrom .preorder path above node).Perm (placesFrom .postorder path above node)
  | ⟨layer, children⟩, path, above => by
      simp only [placesFrom]
      exact Order.perm_arrange (placesFromAll_perm children path (layer :: above) 0)

theorem placesFromAll_perm : (nodes : List Node) → (path : List Nat) → (above : List Layer) →
    (index : Nat) → (placesFromAll .preorder path above index nodes).Perm
      (placesFromAll .postorder path above index nodes)
  | [], _, _, _ => .refl _
  | node :: nodes, path, above, index => by
      simp only [placesFromAll]
      exact (placesFrom_perm node (path ++ [index]) above).append
        (placesFromAll_perm nodes path above (index + 1))

end

mutual

/-- A place below a path is reached through it, and it lies on what is above the
path. -/
theorem mem_placesFrom {order : Order} {place : TreePlace} : (node : Node) → (path : List Nat) →
    (above : List Layer) → place ∈ placesFrom order path above node →
    path <+: place.path ∧ above <:+ place.above
  | ⟨layer, children⟩, path, above, member => by
      simp only [placesFrom, Order.mem_arrange] at member
      rcases member with same | member
      · subst same
        exact ⟨List.prefix_refl path, List.suffix_refl above⟩
      · rcases mem_placesFromAll children path (layer :: above) 0 member
          with ⟨⟨index, -, way⟩, suffix⟩
        exact ⟨(List.prefix_append path [index]).trans way,
          (List.suffix_cons layer above).trans suffix⟩

theorem mem_placesFromAll {order : Order} {place : TreePlace} : (nodes : List Node) →
    (path : List Nat) → (above : List Layer) → (index : Nat) →
    place ∈ placesFromAll order path above index nodes →
    (∃ child, index ≤ child ∧ path ++ [child] <+: place.path) ∧ above <:+ place.above
  | [], _, _, _, member => by
      simp [placesFromAll] at member
  | node :: nodes, path, above, index, member => by
      simp only [placesFromAll, List.mem_append] at member
      rcases member with member | member
      · rcases mem_placesFrom node (path ++ [index]) above member with ⟨way, suffix⟩
        exact ⟨⟨index, Nat.le_refl index, way⟩, suffix⟩
      · rcases mem_placesFromAll nodes path above (index + 1) member
          with ⟨⟨child, later, way⟩, suffix⟩
        exact ⟨⟨child, Nat.le_of_succ_le later, way⟩, suffix⟩

end

/-! ## The order of the ways

A way comes before the longer ways that begin with it, and before the ways that take a later
child where it takes an earlier one. -/

theorem path_lt_child {path way : List Nat} {child : Nat} (below : path ++ [child] <+: way) :
    path < way := by
  rcases below with ⟨rest, split⟩
  have longer : path ++ [] < path ++ child :: rest := List.append_left_lt (List.nil_lt_cons _ _)
  rw [List.append_nil] at longer
  rwa [← split, List.append_assoc]

theorem path_lt_later {path way otherWay : List Nat} {index child : Nat} (earlier : index < child)
    (first : path ++ [index] <+: way) (later : path ++ [child] <+: otherWay) : way < otherWay := by
  rcases first with ⟨rest, split⟩
  rcases later with ⟨otherRest, otherSplit⟩
  rw [← split, ← otherSplit, List.append_assoc, List.append_assoc]
  exact List.append_left_lt (List.cons_lt_cons_iff.mpr (Or.inl earlier))

/-- The way to a place comes before the ways to the places below. -/
theorem path_lt_of_mem_placesFromAll {order : Order} {place : TreePlace} {nodes : List Node}
    {path : List Nat} {above : List Layer} {index : Nat}
    (member : place ∈ placesFromAll order path above index nodes) : path < place.path := by
  rcases mem_placesFromAll nodes path above index member with ⟨⟨child, -, way⟩, -⟩
  exact path_lt_child way

/-- The ways below one child come before the ways below a later one. -/
theorem path_lt_of_later {order otherOrder : Order} {place other : TreePlace} {node : Node}
    {nodes : List Node} {path : List Nat} {above : List Layer} {index : Nat}
    (first : place ∈ placesFrom order (path ++ [index]) above node)
    (later : other ∈ placesFromAll otherOrder path above (index + 1) nodes) :
    place.path < other.path := by
  rcases mem_placesFrom node (path ++ [index]) above first with ⟨way, -⟩
  rcases mem_placesFromAll nodes path above (index + 1) later
    with ⟨⟨child, behind, otherWay⟩, -⟩
  exact path_lt_later behind way otherWay

/-- No way to a place below is the way to the place itself. -/
theorem path_ne_of_mem_placesFromAll {order : Order} {place : TreePlace} {nodes : List Node}
    {path : List Nat} {above : List Layer} {index : Nat}
    (member : place ∈ placesFromAll order path above index nodes) : place.path ≠ path := by
  intro same
  have longer := path_lt_of_mem_placesFromAll member
  rw [same] at longer
  exact List.lt_irrefl path longer

/-- The ways below one child are not the ways below a later one. -/
theorem path_ne_of_later {order otherOrder : Order} {place other : TreePlace} {node : Node}
    {nodes : List Node} {path : List Nat} {above : List Layer} {index : Nat}
    (first : place ∈ placesFrom order (path ++ [index]) above node)
    (later : other ∈ placesFromAll otherOrder path above (index + 1) nodes) :
    place.path ≠ other.path := by
  intro same
  have before := path_lt_of_later first later
  rw [same] at before
  exact List.lt_irrefl other.path before

mutual

/-- The places in preorder are listed in the order of their ways. -/
theorem pairwise_path_placesFrom : (node : Node) → (path : List Nat) → (above : List Layer) →
    ((placesFrom .preorder path above node).map TreePlace.path).Pairwise (· < ·)
  | ⟨layer, children⟩, path, above => by
      have below := pairwise_path_placesFromAll children path (layer :: above) 0
      simp only [placesFrom, Order.arrange, List.map_cons]
      refine List.pairwise_cons.mpr ⟨?_, below⟩
      intro way member
      rcases List.mem_map.mp member with ⟨place, placed, same⟩
      rw [← same]
      exact path_lt_of_mem_placesFromAll placed

theorem pairwise_path_placesFromAll : (nodes : List Node) → (path : List Nat) →
    (above : List Layer) → (index : Nat) →
    ((placesFromAll .preorder path above index nodes).map TreePlace.path).Pairwise (· < ·)
  | [], _, _, _ => .nil
  | node :: nodes, path, above, index => by
      have first := pairwise_path_placesFrom node (path ++ [index]) above
      have others := pairwise_path_placesFromAll nodes path above (index + 1)
      simp only [placesFromAll, List.map_append]
      refine List.pairwise_append.mpr ⟨first, others, ?_⟩
      intro way member other otherMember
      rcases List.mem_map.mp member with ⟨place, placed, same⟩
      rcases List.mem_map.mp otherMember with ⟨otherPlace, otherPlaced, otherSame⟩
      rw [← same, ← otherSame]
      exact path_lt_of_later placed otherPlaced

end

/-- No two places of a tree have the same way. -/
theorem nodup_path_placesFrom (node : Node) (path : List Nat) (above : List Layer) :
    ((placesFrom .preorder path above node).map TreePlace.path).Nodup := by
  refine (pairwise_path_placesFrom node path above).imp ?_
  intro way other before same
  rw [same] at before
  exact List.lt_irrefl other before

end Node
end Artboard
