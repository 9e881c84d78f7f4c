import Mathlib.Data.List.Nodup
import Artboard.Proofs.Design.Place
import Artboard.Proofs.Page.Depiction

/-!
# Visited places

A place is visited when its layer and everything below it are drawn and nothing
below it is replaced by an image.  This is a condition on the place alone: the
visited places of a tree are those of its places that meet it, and no walk is
needed to tell them.  Their number is their position among the visited places in
preorder.

Each step of the walk has its counterpart here, one equation for a layer that is
not drawn, one for a layer with an image and one for any other layer.
-/

namespace Artboard
namespace Page

open Node (TreePlace Order placesFrom placesFromAll)

/-- Whether the walk goes on above a layer: it is drawn, and not as an image. -/
def isOpen (images : ImageMap) (layer : Layer) : Bool :=
  layer.visible && (images.url? layer.id).isNone

def isVisited (images : ImageMap) (place : TreePlace) : Bool :=
  place.layer.visible && place.above.all (isOpen images)

def visited (images : ImageMap) (order : Order) (root : Node) : List TreePlace :=
  (root.places order).filter (isVisited images)

theorem mem_visited_iff {images : ImageMap} {order : Order} {root : Node} {place : TreePlace} :
    place ∈ visited images order root ↔
      place ∈ root.places order ∧ place.layer.visible = true ∧
        ∀ below ∈ place.above, below.visible = true ∧ images.url? below.id = none := by
  simp [visited, isVisited, isOpen]

def numberIn (places : List TreePlace) (place : TreePlace) : Nat :=
  (places.map TreePlace.path).idxOf place.path

/-- The number of a visited place of a tree. -/
def number (images : ImageMap) (root : Node) (place : TreePlace) : Nat :=
  numberIn (visited images .preorder root) place

/-- The visited places of the tree at a path on the given layers. -/
def visitedFrom (images : ImageMap) (order : Order) (path : List Nat) (above : List Layer)
    (node : Node) : List TreePlace :=
  (placesFrom order path above node).filter (isVisited images)

def visitedFromAll (images : ImageMap) (order : Order) (path : List Nat)
    (above : List Layer) (index : Nat) (nodes : List Node) : List TreePlace :=
  (placesFromAll order path above index nodes).filter (isVisited images)

/-! ## One step -/

/-- Nothing is visited on a layer that is not drawn or is replaced by its image. -/
theorem visitedFromAll_of_not_isOpen {images : ImageMap} {layer : Layer} (order : Order)
    (path : List Nat) (above : List Layer) (index : Nat) (nodes : List Node)
    (closed : isOpen images layer = false) :
    visitedFromAll images order path (layer :: above) index nodes = [] := by
  apply List.filter_eq_nil_iff.mpr
  intro place member isVisited
  rcases Node.mem_placesFromAll nodes path (layer :: above) index member with ⟨-, suffix⟩
  have opened := (Bool.and_eq_true_iff.mp isVisited).2
  have layerOpen := List.all_eq_true.mp opened layer (suffix.mem List.mem_cons_self)
  rw [closed] at layerOpen
  cases layerOpen

variable {images : ImageMap} {order : Order} {path : List Nat} {above : List Layer}
  {layer : Layer} {index : Nat}

theorem visitedFrom_hidden (children : List Node) (hidden : layer.visible = false) :
    visitedFrom images order path above ⟨layer, children⟩ = [] := by
  have closed : isOpen images layer = false := by
    simp [isOpen, hidden]
  have below := visitedFromAll_of_not_isOpen order path above 0 children closed
  rw [visitedFrom, placesFrom, Order.filter_arrange, if_neg]
  · exact below
  · simp [isVisited, TreePlace.layer, hidden]

theorem visitedFrom_image {url : String} (children : List Node) (visible : layer.visible = true)
    (known : images.url? layer.id = some url) (opened : above.all (isOpen images) = true) :
    visitedFrom images order path above ⟨layer, children⟩ =
      [⟨path, above, ⟨layer, children⟩⟩] := by
  have closed : isOpen images layer = false := by
    simp [isOpen, known]
  have below := visitedFromAll_of_not_isOpen order path above 0 children closed
  rw [visitedFromAll] at below
  rw [visitedFrom, placesFrom, Order.filter_arrange, if_pos, below]
  · cases order <;> rfl
  · simp only [isVisited, TreePlace.layer, visible, opened, Bool.and_self]

theorem visitedFrom_element (children : List Node) (visible : layer.visible = true)
    (opened : above.all (isOpen images) = true) :
    visitedFrom images order path above ⟨layer, children⟩ =
      order.arrange ⟨path, above, ⟨layer, children⟩⟩
        (visitedFromAll images order path (layer :: above) 0 children) := by
  rw [visitedFrom, placesFrom, Order.filter_arrange, if_pos]
  · rfl
  · simp only [isVisited, TreePlace.layer, visible, opened, Bool.and_self]

theorem all_isOpen_cons (visible : layer.visible = true) (unknown : images.url? layer.id = none)
    (opened : above.all (isOpen images) = true) :
    (layer :: above).all (isOpen images) = true := by
  simp only [List.all_cons, opened, isOpen, visible, unknown]
  rfl

@[simp] theorem visitedFromAll_nil : visitedFromAll images order path above index [] = [] := rfl

theorem visitedFromAll_cons (node : Node) (nodes : List Node) :
    visitedFromAll images order path above index (node :: nodes) =
      visitedFrom images order (path ++ [index]) above node ++
        visitedFromAll images order path above (index + 1) nodes :=
  List.filter_append _ _

/-! ## Numbers -/

theorem visitedFrom_perm (images : ImageMap) (path : List Nat) (above : List Layer)
    (node : Node) :
    (visitedFrom images .preorder path above node).Perm
      (visitedFrom images .postorder path above node) :=
  (Node.placesFrom_perm node path above).filter _

theorem visited_perm (images : ImageMap) (root : Node) :
    (visited images .preorder root).Perm (visited images .postorder root) :=
  visitedFrom_perm images [] [] root

theorem nodup_path_visited (images : ImageMap) (root : Node) :
    ((visited images .preorder root).map TreePlace.path).Nodup :=
  (Node.nodup_path_placesFrom root [] []).sublist (List.filter_sublist.map TreePlace.path)

theorem numberIn_self (top : TreePlace) (below : List TreePlace) :
    numberIn (top :: below) top = 0 := by
  simp [numberIn]

/-- The places on a layer come right after it. -/
theorem numberIn_below {top place : TreePlace} {nodes : List Node}
    (member : place ∈ visitedFromAll images order top.path above index nodes)
    (below : List TreePlace) : numberIn (top :: below) place = numberIn below place + 1 := by
  have different := Node.path_ne_of_mem_placesFromAll (List.mem_filter.mp member).1
  rw [numberIn, List.map_cons, List.idxOf_cons_ne _ different.symm]
  rfl

theorem numberIn_append_left {first second : List TreePlace} {place : TreePlace}
    (member : place ∈ first) : numberIn (first ++ second) place = numberIn first place := by
  rw [numberIn, List.map_append, List.idxOf_append_of_mem (List.mem_map_of_mem member)]
  rfl

/-- The places of a later tree come after all places of an earlier one. -/
theorem numberIn_later {otherOrder : Order} {place : TreePlace} {node : Node} {nodes : List Node}
    (member : place ∈ visitedFromAll images otherOrder path above (index + 1) nodes)
    (second : List TreePlace) :
    numberIn (visitedFrom images order (path ++ [index]) above node ++ second) place =
      (visitedFrom images order (path ++ [index]) above node).length +
        numberIn second place := by
  have absent : place.path ∉
      (visitedFrom images order (path ++ [index]) above node).map TreePlace.path := by
    intro present
    rcases List.mem_map.mp present with ⟨other, otherMember, same⟩
    exact Node.path_ne_of_later (List.mem_filter.mp otherMember).1
      (List.mem_filter.mp member).1 same
  rw [numberIn, List.map_append, List.idxOf_append_of_notMem absent, List.length_map]
  rfl

/-! ## What is listed by number

Rules and tags are both listed for places by their numbers.  How such a list comes apart
does not depend on what is listed. -/

section Listed

variable {Entry : Type} (entry : Nat → TreePlace → Entry) (number : Nat)

/-- Places on a layer have numbers one higher when the layer is numbered too. -/
theorem map_numberIn_below {top : TreePlace} {nodes : List Node} {places : List TreePlace}
    (inside : ∀ place ∈ places,
      place ∈ visitedFromAll images order top.path above index nodes)
    (below : List TreePlace) :
    (places.map fun place => entry (number + numberIn (top :: below) place) place) =
      places.map fun place => entry (number + 1 + numberIn below place) place := by
  apply List.map_congr_left
  intro place member
  rw [numberIn_below (inside place member), Nat.add_assoc, Nat.add_comm 1]

/-- Places of the first tree keep their numbers, and those of later trees are numbered
from the end of the first tree on. -/
theorem map_numberIn_append {otherOrder : Order} {node : Node} {nodes : List Node}
    {first later : List TreePlace}
    (inFirst : ∀ place ∈ first, place ∈ visitedFrom images order (path ++ [index]) above node)
    (inLater : ∀ place ∈ later,
      place ∈ visitedFromAll images otherOrder path above (index + 1) nodes)
    (others : List TreePlace) :
    ((first ++ later).map fun place =>
        entry (number + numberIn (visitedFrom images order (path ++ [index]) above node ++
          others) place) place) =
      (first.map fun place => entry (number +
          numberIn (visitedFrom images order (path ++ [index]) above node) place) place) ++
        later.map fun place => entry
          (number + (visitedFrom images order (path ++ [index]) above node).length +
            numberIn others place) place := by
  rw [List.map_append]
  refine congrArg₂ (· ++ ·) (List.map_congr_left ?_) (List.map_congr_left ?_)
  · intro place member
    rw [numberIn_append_left (inFirst place member)]
  · intro place member
    rw [numberIn_later (inLater place member), Nat.add_assoc]

end Listed

/-- Different visited places of a tree have different numbers. -/
theorem path_eq_of_number_eq {images : ImageMap} {root : Node} {place other : TreePlace}
    (member : place ∈ visited images .preorder root)
    (same : number images root place = number images root other) :
    place.path = other.path :=
  (List.idxOf_inj (List.mem_map_of_mem member)).mp same

mutual

/-- The walk numbers exactly the visited places. -/
theorem numbered_eq_length (order : Order) : (node : Node) → (path : List Nat) →
    (above : List Layer) → above.all (isOpen images) = true →
    numbered images node = (visitedFrom images order path above node).length
  | ⟨layer, children⟩, path, above, opened => by
      cases visible : layer.visible with
      | false => simp [visitedFrom_hidden children visible, numbered, visible]
      | true =>
          cases known : images.url? layer.id with
          | some url =>
              simp [visitedFrom_image children visible known opened, numbered, visible, known]
          | none =>
              have below := numberedOfAll_eq_length order children path (layer :: above) 0
                (all_isOpen_cons visible known opened)
              rw [visitedFrom_element children visible opened]
              simp only [numbered, visible, known, if_true, below]
              cases order <;> simp [Order.arrange]

theorem numberedOfAll_eq_length (order : Order) : (nodes : List Node) → (path : List Nat) →
    (above : List Layer) → (index : Nat) → above.all (isOpen images) = true →
    numberedOfAll images nodes = (visitedFromAll images order path above index nodes).length
  | [], _, _, _, _ => rfl
  | node :: nodes, path, above, index, opened => by
      have first := numbered_eq_length order node (path ++ [index]) above opened
      have others := numberedOfAll_eq_length order nodes path above (index + 1) opened
      rw [visitedFromAll_cons, List.length_append, ← first, ← others, numberedOfAll]

end

end Page
end Artboard
