import Artboard.Proofs.Design.Collected
import Artboard.Proofs.Design.Path

/-!
# The collected layers cut the tree

Going down from the root of a design, one comes to at most one collected layer, and to one
before anything image-like: the collected layers lie apart, and whatever is image-like is
collected or lies on exactly one collected layer.  All of this is said of paths, that is of
the layers where they are, because neither an id nor a layer tells which one is meant.
Whether a layer is drawn plays no part.
-/

namespace Artboard
namespace Node

/-- Whether an image-like layer is at the end of a path. -/
def IsImageAt (root : Node) (path : List Nat) : Prop :=
  ∃ node, root.at? path = some node ∧ node.layer.isImageLike = true

/-- Whether an image-like layer is at the end of a path and none on the way. -/
def IsOutermostAt (root : Node) (path : List Nat) : Prop :=
  root.IsImageAt path ∧ ∀ outer, outer <+: path → outer ≠ path → ¬root.IsImageAt outer

/-- The paths to the collected places in preorder. -/
def collectedPaths (root : Node) : List (List Nat) :=
  ((root.places .preorder).filter isCollected).map TreePlace.path

/-- The id of the layer at the end of a path. -/
def idAt? (root : Node) (path : List Nat) : Option String :=
  (root.at? path).map fun node => node.layer.id

variable {root : Node} {place : TreePlace}

theorem isImageAt_iff (member : place ∈ root.places .preorder) :
    root.IsImageAt place.path ↔ place.layer.isImageLike = true := by
  constructor
  · rintro ⟨node, found, imageLike⟩
    rw [at?_path member] at found
    cases found
    exact imageLike
  · intro imageLike
    exact ⟨place.node, at?_path member, imageLike⟩

/-- A place is collected if its path leads to the first image-like layer on the way. -/
theorem isCollected_iff (member : place ∈ root.places .preorder) :
    isCollected place = true ↔ root.IsOutermostAt place.path := by
  rw [isCollected, Bool.and_eq_true, IsOutermostAt, isImageAt_iff member, List.all_eq_true]
  refine and_congr_right fun _ => ?_
  constructor
  · rintro free outer begins proper ⟨node, found, imageLike⟩
    have under : node.layer ∈ place.above :=
      (mem_above_iff member node.layer).mpr ⟨outer, node, begins, proper, found, rfl⟩
    have notImageLike := free node.layer under
    rw [imageLike] at notImageLike
    cases notImageLike
  · intro free layer under
    rcases (mem_above_iff member layer).mp under with ⟨outer, node, begins, proper, found, same⟩
    rw [Bool.not_eq_true', ← same]
    apply Bool.eq_false_iff.mpr
    intro imageLike
    exact free outer begins proper ⟨node, found, imageLike⟩

theorem mem_collectedPaths_iff {path : List Nat} :
    path ∈ root.collectedPaths ↔ root.IsOutermostAt path := by
  constructor
  · intro member
    rcases List.mem_map.mp member with ⟨place, collected, same⟩
    rcases List.mem_filter.mp collected with ⟨placed, isCollected⟩
    rw [← same]
    exact (isCollected_iff placed).mp isCollected
  · intro outermost
    rcases outermost.1 with ⟨node, found, -⟩
    rcases List.mem_map.mp (mem_paths_iff.mpr ⟨node, found⟩) with ⟨place, placed, same⟩
    rw [← same] at outermost ⊢
    apply List.mem_map_of_mem
    exact List.mem_filter.mpr ⟨placed, (isCollected_iff placed).mpr outermost⟩

theorem pairwise_collectedPaths (root : Node) : root.collectedPaths.Pairwise (· < ·) :=
  (pairwise_path_placesFrom root [] []).sublist (List.filter_sublist.map TreePlace.path)

/-- The collector lists the ids at the collected paths. -/
theorem map_idAt?_collectedPaths (root : Node) :
    root.collectedPaths.map root.idAt? = (imageIds root).map some := by
  rw [imageIds_eq, collectedPaths, List.map_map, List.map_map]
  apply List.map_congr_left
  intro place collected
  have found := at?_path (List.mem_filter.mp collected).1
  simp only [Function.comp_apply, idAt?, found, Option.map_some]
  rfl

/-! ## Every image-like layer is cut off once -/

/-- On the way to an image-like layer there is a first one. -/
theorem exists_outermost {path : List Nat} (isImage : root.IsImageAt path) :
    ∃ outer, outer <+: path ∧ root.IsOutermostAt outer := by
  by_cases free : ∀ outer, outer <+: path → outer ≠ path → ¬root.IsImageAt outer
  · exact ⟨path, List.prefix_refl path, isImage, free⟩
  · simp only [not_forall, not_not] at free
    rcases free with ⟨outer, begins, proper, isImageOuter⟩
    have shorter : outer.length < path.length :=
      Nat.lt_of_le_of_ne begins.length_le fun same => proper (begins.eq_of_length same)
    rcases exists_outermost isImageOuter with ⟨first, beginsFirst, outermost⟩
    exact ⟨first, beginsFirst.trans begins, outermost⟩
termination_by path.length

theorem IsOutermostAt.eq_of_prefix {outer path : List Nat} (outermost : root.IsOutermostAt outer)
    (other : root.IsOutermostAt path) (begins : outer <+: path) : outer = path := by
  by_contra proper
  exact other.2 outer begins proper outermost.1

/-- Of two paths that one path begins with, one begins with the other. -/
theorem IsOutermostAt.unique {first second path : List Nat} (outermost : root.IsOutermostAt first)
    (other : root.IsOutermostAt second) (beginsFirst : first <+: path)
    (beginsSecond : second <+: path) : first = second := by
  rcases List.prefix_or_prefix_of_prefix beginsFirst beginsSecond with begins | begins
  · exact outermost.eq_of_prefix other begins
  · exact (other.eq_of_prefix outermost begins).symm

/-- A list of paths that cuts off what is image-like in a tree. -/
structure IsCompleteCut (root : Node) (cut : List (List Nat)) : Prop where
  /-- A path comes before the longer ones that begin with it, and before those that take a
  later child where it takes an earlier one. -/
  preorder : cut.Pairwise (· < ·)
  outermost : ∀ path, path ∈ cut ↔ root.IsOutermostAt path
  /-- No layer of the cut lies on another one. -/
  apart : cut.Pairwise fun first second => ¬first <+: second ∧ ¬second <+: first
  /-- There is one layer of the cut at or below every image-like layer. -/
  covers : ∀ path, root.IsImageAt path → ∃! outer, outer ∈ cut ∧ outer <+: path

theorem apart_collectedPaths (root : Node) :
    root.collectedPaths.Pairwise fun first second => ¬first <+: second ∧ ¬second <+: first := by
  refine (pairwise_collectedPaths root).imp_of_mem ?_
  intro first second member otherMember before
  have outermost := mem_collectedPaths_iff.mp member
  have other := mem_collectedPaths_iff.mp otherMember
  have different : first ≠ second := by
    intro same
    rw [same] at before
    exact List.lt_irrefl second before
  constructor
  · intro begins
    exact different (outermost.eq_of_prefix other begins)
  · intro begins
    exact different (other.eq_of_prefix outermost begins).symm

theorem existsUnique_collected {path : List Nat} (isImage : root.IsImageAt path) :
    ∃! outer, outer ∈ root.collectedPaths ∧ outer <+: path := by
  rcases exists_outermost isImage with ⟨outer, begins, outermost⟩
  refine ⟨outer, ⟨mem_collectedPaths_iff.mpr outermost, begins⟩, ?_⟩
  rintro other ⟨member, otherBegins⟩
  exact (mem_collectedPaths_iff.mp member).unique outermost otherBegins begins

/-- The ids that the collector lists are those at the paths that lead to an image-like layer
over no other one, in preorder, whatever the ids are and whether or not the layers are drawn.
None of these layers lies on another, and on the way to anything image-like, its end
included, there is exactly one of them. -/
theorem imageIds_completeCut (root : Node) :
    root.collectedPaths.map root.idAt? = (imageIds root).map some ∧
      IsCompleteCut root root.collectedPaths := by
  refine ⟨map_idAt?_collectedPaths root, pairwise_collectedPaths root, ?_,
    apart_collectedPaths root, ?_⟩
  · intro path
    exact mem_collectedPaths_iff
  · intro path isImage
    exact existsUnique_collected isImage

end Node
end Artboard
