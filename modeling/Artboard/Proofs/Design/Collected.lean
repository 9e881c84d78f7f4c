import Mathlib.Data.List.Nodup
import Artboard.Proofs.Design.Place

/-!
# Collected places

The places whose images are asked for are the outermost image-like ones: a layer is
collected when it is image-like and nothing it lies on is.  The list of ids that
the collector makes is read off these places.
-/

namespace Artboard
namespace Node

/-- Whether the image of a place is asked for. -/
def isCollected (place : TreePlace) : Bool :=
  place.layer.isImageLike && place.above.all fun layer => !layer.isImageLike

def collectedFrom (path : List Nat) (above : List Layer) (node : Node) : List TreePlace :=
  (placesFrom .preorder path above node).filter isCollected

def collectedFromAll (path : List Nat) (above : List Layer) (index : Nat)
    (nodes : List Node) : List TreePlace :=
  (placesFromAll .preorder path above index nodes).filter isCollected

/-- Nothing is collected on an image-like layer. -/
theorem collectedFromAll_of_isImageLike (path : List Nat) {layer : Layer} (above : List Layer)
    (index : Nat) (nodes : List Node) (imageLike : layer.isImageLike = true) :
    collectedFromAll path (layer :: above) index nodes = [] := by
  apply List.filter_eq_nil_iff.mpr
  intro place member collected
  rcases mem_placesFromAll nodes path (layer :: above) index member with ⟨-, suffix⟩
  have outer := List.all_eq_true.mp (Bool.and_eq_true_iff.mp collected).2 layer
    (suffix.mem List.mem_cons_self)
  rw [imageLike] at outer
  cases outer

theorem collectedFromAll_cons (path : List Nat) (above : List Layer) (index : Nat)
    (node : Node) (nodes : List Node) :
    collectedFromAll path above index (node :: nodes) =
      collectedFrom (path ++ [index]) above node ++
        collectedFromAll path above (index + 1) nodes :=
  List.filter_append _ _

mutual

/-- The collector lists the ids of the collected places in preorder. -/
theorem imageIds_eqFrom : (node : Node) → (path : List Nat) → (above : List Layer) →
    (above.all fun layer => !layer.isImageLike) = true →
    imageIds node = (collectedFrom path above node).map fun place => place.layer.id
  | ⟨layer, children⟩, path, above, outer => by
      rw [imageIds, collectedFrom, placesFrom, Order.filter_arrange]
      cases imageLike : layer.isImageLike with
      | true =>
          have below := collectedFromAll_of_isImageLike path above 0 children imageLike
          rw [collectedFromAll] at below
          have collected : isCollected ⟨path, above, ⟨layer, children⟩⟩ = true := by
            simp only [isCollected, TreePlace.layer, imageLike, outer, Bool.and_self]
          rw [if_pos rfl, if_pos collected, below]
          rfl
      | false =>
          have below := imageIds_eqFromAll children path (layer :: above) 0
            (by simpa [imageLike] using outer)
          have notCollected : ¬isCollected ⟨path, above, ⟨layer, children⟩⟩ = true := by
            simp [isCollected, TreePlace.layer, imageLike]
          rw [if_neg Bool.false_ne_true, if_neg notCollected]
          exact below

theorem imageIds_eqFromAll : (nodes : List Node) → (path : List Nat) → (above : List Layer) →
    (index : Nat) → (above.all fun layer => !layer.isImageLike) = true →
    imageIdsOfAll nodes =
      (collectedFromAll path above index nodes).map fun place => place.layer.id
  | [], _, _, _, _ => rfl
  | node :: nodes, path, above, index, outer => by
      have first := imageIds_eqFrom node (path ++ [index]) above outer
      have others := imageIds_eqFromAll nodes path above (index + 1) outer
      rw [imageIdsOfAll, first, others, collectedFromAll_cons, List.map_append]

end

theorem imageIds_eq (root : Node) :
    imageIds root = ((root.places .preorder).filter isCollected).map fun place =>
      place.layer.id :=
  imageIds_eqFrom root [] [] rfl

mutual

/-- What a place lies on is at a place itself. -/
theorem exists_place_of_mem_above {place : TreePlace} {below : Layer} : (node : Node) →
    (path : List Nat) → (above : List Layer) → place ∈ placesFrom .preorder path above node →
    below ∈ place.above →
    below ∈ above ∨ ∃ other ∈ placesFrom .preorder path above node, other.layer = below
  | ⟨layer, children⟩, path, above, member, under => by
      simp only [placesFrom, Order.mem_arrange] at member ⊢
      rcases member with same | member
      · subst same
        exact Or.inl under
      · have further :=
          exists_place_of_mem_aboveAll children path (layer :: above) 0 member under
        rcases further with inAbove | ⟨other, otherMember, same⟩
        · rcases List.mem_cons.mp inAbove with isTop | inAbove
          · exact Or.inr ⟨⟨path, above, ⟨layer, children⟩⟩, Or.inl rfl, isTop.symm⟩
          · exact Or.inl inAbove
        · exact Or.inr ⟨other, Or.inr otherMember, same⟩

theorem exists_place_of_mem_aboveAll {place : TreePlace} {below : Layer} : (nodes : List Node) →
    (path : List Nat) → (above : List Layer) → (index : Nat) →
    place ∈ placesFromAll .preorder path above index nodes → below ∈ place.above →
    below ∈ above ∨
      ∃ other ∈ placesFromAll .preorder path above index nodes, other.layer = below
  | [], _, _, _, member, _ => by
      simp [placesFromAll] at member
  | node :: nodes, path, above, index, member, under => by
      simp only [placesFromAll, List.mem_append] at member ⊢
      rcases member with member | member
      · rcases exists_place_of_mem_above node (path ++ [index]) above member under with
          inAbove | ⟨other, otherMember, same⟩
        · exact Or.inl inAbove
        · exact Or.inr ⟨other, Or.inl otherMember, same⟩
      · rcases exists_place_of_mem_aboveAll nodes path above (index + 1) member under with
          inAbove | ⟨other, otherMember, same⟩
        · exact Or.inl inAbove
        · exact Or.inr ⟨other, Or.inr otherMember, same⟩

end

/-- When no id repeats, a place whose id is collected is a collected place. -/
theorem isCollected_of_id_mem {root : Node} {place : TreePlace}
    (unique : ((root.places .preorder).map fun place => place.layer.id).Nodup)
    (member : place ∈ root.places .preorder) (collected : place.layer.id ∈ imageIds root) :
    isCollected place = true := by
  rw [imageIds_eq] at collected
  rcases List.mem_map.mp collected with ⟨other, otherCollected, same⟩
  rcases List.mem_filter.mp otherCollected with ⟨otherMember, isCollected⟩
  have equal := List.inj_on_of_nodup_map unique otherMember member same
  exact equal ▸ isCollected

/-- When no id repeats, no id below a collected place is collected. -/
theorem id_notMem_of_mem_above {root : Node} {place : TreePlace} {below : Layer}
    (unique : ((root.places .preorder).map fun place => place.layer.id).Nodup)
    (member : place ∈ root.places .preorder) (collected : place.layer.id ∈ imageIds root)
    (under : below ∈ place.above) : below.id ∉ imageIds root := by
  intro belowCollected
  have outer := (Bool.and_eq_true_iff.mp (isCollected_of_id_mem unique member collected)).2
  have notImageLike := List.all_eq_true.mp outer below under
  rcases exists_place_of_mem_above root [] [] member under with inNone | ⟨other, placed, same⟩
  · cases inNone
  · rw [← same] at belowCollected notImageLike
    have imageLike :=
      (Bool.and_eq_true_iff.mp (isCollected_of_id_mem unique placed belowCollected)).1
    rw [imageLike] at notImageLike
    cases notImageLike

end Node
end Artboard
