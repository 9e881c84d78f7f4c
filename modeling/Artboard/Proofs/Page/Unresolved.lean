import Artboard.Proofs.Design.Collected
import Artboard.Proofs.Page.Reports

/-!
# Missing images that nobody asked for

The collector asks for the outermost image-like layers only, because what lies on them
is part of their images.  When such an image is missing, the walk goes on to what lies
on the layer, and comes to image-like layers whose images were never asked for.  These
are reported as missing too.  So a report need not name a collected id, but each one
that does not comes from a place on a collected layer whose own image is missing.
-/

namespace Artboard
namespace Page

open Node (TreePlace Order placesFrom placesFromAll)

/-- Every missing image that a page reports is one that the collector asks for. -/
def ReportsOnlyCollected (images : ImageMap) (root : Node) : Prop :=
  ∀ id name, .unresolvedImage id name ∈ (ofNode images root).diagnostics →
    id ∈ Node.imageIds root

/-- A missing image is reported for a visited place that lacks its image, and for no
other. -/
theorem unresolvedImage_mem_iff (images : ImageMap) (root : Node) (id name : String) :
    .unresolvedImage id name ∈ (ofNode images root).diagnostics ↔
      ∃ place ∈ visited images .preorder root, LacksImage images place.layer ∧
        place.layer.id = id ∧ place.layer.name = name := by
  have noGeometry : ∀ (layer : Layer) (parent : Option Layer),
      .unresolvedImage id name ∉ geometryReports layer parent := by
    intro layer parent
    cases parent with
    | none => simp [geometryReports]
    | some outer => by_cases lacks : LacksGeometry layer outer <;> simp [geometryReports, lacks]
  have noGradient : ∀ layer : Layer, .unresolvedImage id name ∉ gradientReports layer := by
    intro layer
    by_cases malformed : HasMalformedGradient layer <;> simp [gradientReports, malformed]
  have atPlace : ∀ place : TreePlace, .unresolvedImage id name ∈ reports images place ↔
      LacksImage images place.layer ∧ place.layer.id = id ∧ place.layer.name = name := by
    intro place
    rw [reports, List.mem_append, List.mem_append, imageReports]
    by_cases lacks : LacksImage images place.layer <;>
      simp [noGeometry, noGradient, lacks, eq_comm]
  rw [diagnostics_eq_reports, List.mem_flatMap]
  simp only [atPlace]

mutual

/-- The outermost image-like layer below a place without image, or that of the place
itself, is at a visited place that is collected and lacks its image as well. -/
theorem exists_collected_visitedFrom {images : ImageMap} {place : TreePlace} : (node : Node) →
    (path : List Nat) → (above : List Layer) → above.all (isOpen images) = true →
    (above.all fun layer => !layer.isImageLike) = true →
    place ∈ visitedFrom images .preorder path above node → LacksImage images place.layer →
    ∃ outer ∈ visitedFrom images .preorder path above node, Node.isCollected outer = true ∧
      LacksImage images outer.layer ∧ outer.path <+: place.path
  | ⟨layer, children⟩, path, above, opened, outside, member, lacks => by
      cases visible : layer.visible with
      | false =>
          rw [visitedFrom_hidden children visible] at member
          cases member
      | true =>
          cases known : images.url? layer.id with
          | some url =>
              rw [visitedFrom_image children visible known opened] at member
              have same := List.mem_singleton.mp member
              rw [same, LacksImage, TreePlace.layer, known] at lacks
              cases lacks.1
          | none =>
              have through := Node.mem_placesFrom ⟨layer, children⟩ path above
                (List.mem_filter.mp member).1
              rw [visitedFrom_element children visible opened] at member ⊢
              cases imageLike : layer.isImageLike with
              | true =>
                  refine ⟨⟨path, above, ⟨layer, children⟩⟩, List.mem_cons_self, ?_, ?_, through.1⟩
                  · simp only [Node.isCollected, TreePlace.layer, imageLike, outside,
                      Bool.and_self]
                  · exact ⟨known, imageLike⟩
              | false =>
                  rcases Order.mem_arrange.mp member with same | member
                  · rw [same, LacksImage, TreePlace.layer, imageLike] at lacks
                    cases lacks.2
                  · rcases exists_collected_visitedFromAll children path (layer :: above) 0
                        (all_isOpen_cons visible known opened)
                        (by simpa [imageLike] using outside) member lacks with
                      ⟨outer, outerMember, rest⟩
                    exact ⟨outer, List.mem_cons_of_mem _ outerMember, rest⟩

theorem exists_collected_visitedFromAll {images : ImageMap} {place : TreePlace} :
    (nodes : List Node) → (path : List Nat) → (above : List Layer) → (index : Nat) →
    above.all (isOpen images) = true → (above.all fun layer => !layer.isImageLike) = true →
    place ∈ visitedFromAll images .preorder path above index nodes →
    LacksImage images place.layer →
    ∃ outer ∈ visitedFromAll images .preorder path above index nodes,
      Node.isCollected outer = true ∧ LacksImage images outer.layer ∧ outer.path <+: place.path
  | [], _, _, _, _, _, member, _ => by
      cases member
  | node :: nodes, path, above, index, opened, outside, member, lacks => by
      rw [visitedFromAll_cons] at member ⊢
      rcases List.mem_append.mp member with member | member
      · rcases exists_collected_visitedFrom node (path ++ [index]) above opened outside member
            lacks with ⟨outer, outerMember, rest⟩
        exact ⟨outer, List.mem_append_left _ outerMember, rest⟩
      · rcases exists_collected_visitedFromAll nodes path above (index + 1) opened outside member
            lacks with ⟨outer, outerMember, rest⟩
        exact ⟨outer, List.mem_append_right _ outerMember, rest⟩

end

theorem id_mem_imageIds {images : ImageMap} {root : Node} {place : TreePlace}
    (member : place ∈ visited images .preorder root) (collected : Node.isCollected place = true) :
    place.layer.id ∈ Node.imageIds root := by
  rw [Node.imageIds_eq]
  apply List.mem_map_of_mem
  exact List.mem_filter.mpr ⟨(List.mem_filter.mp member).1, collected⟩

/-- Each missing image that a page reports belongs to a visited place that lacks it, and
on the way to this place or at it is a collected one whose own image is missing and
reported.  The reports name collected ids only, exactly when the image-like layers that
lie on other image-like ones and lack their image share their ids with collected ones;
so a report names an id that was not asked for as soon as one such layer has an id of
its own. -/
theorem reportsOnlyCollected_iff (images : ImageMap) (root : Node) :
    (∀ id name, .unresolvedImage id name ∈ (ofNode images root).diagnostics →
        ∃ place ∈ visited images .preorder root,
          place.layer.id = id ∧ place.layer.name = name ∧ LacksImage images place.layer ∧
          ∃ outer ∈ visited images .preorder root,
            outer.path <+: place.path ∧ outer.layer.id ∈ Node.imageIds root ∧
              .unresolvedImage outer.layer.id outer.layer.name ∈
                (ofNode images root).diagnostics) ∧
      (ReportsOnlyCollected images root ↔
        ∀ place ∈ visited images .preorder root, LacksImage images place.layer →
          (∃ below ∈ place.above, below.isImageLike = true) →
            place.layer.id ∈ Node.imageIds root) := by
  constructor
  · intro id name reported
    rcases (unresolvedImage_mem_iff images root id name).mp reported with
      ⟨place, member, lacks, sameId, sameName⟩
    rcases exists_collected_visitedFrom root [] [] rfl rfl member lacks with
      ⟨outer, outerMember, collected, outerLacks, way⟩
    refine ⟨place, member, sameId, sameName, lacks, outer, outerMember, way,
      id_mem_imageIds outerMember collected, ?_⟩
    exact (unresolvedImage_mem_iff images root _ _).mpr ⟨outer, outerMember, outerLacks, rfl, rfl⟩
  · constructor
    · intro only place member lacks _
      apply only place.layer.id place.layer.name
      exact (unresolvedImage_mem_iff images root _ _).mpr ⟨place, member, lacks, rfl, rfl⟩
    · intro nested id name reported
      rcases (unresolvedImage_mem_iff images root id name).mp reported with
        ⟨place, member, lacks, sameId, -⟩
      rw [← sameId]
      by_cases inside : ∃ below ∈ place.above, below.isImageLike = true
      · exact nested place member lacks inside
      · apply id_mem_imageIds member
        simpa [Node.isCollected, lacks.2] using inside

/-- A drawing made of one part; only the drawing as a whole is asked for. -/
def combinedDrawing : Node :=
  ((Node.ofShape "1" "Logo" .booleanOperation).withBounds ⟨0.0, 0.0, 16.0, 16.0⟩).withChildren
    [(Node.ofShape "2" "Part" .vector).withBounds ⟨0.0, 0.0, 8.0, 8.0⟩]

/-- Without any images the part of a drawing is reported although nobody asked for its
image. -/
theorem not_reportsOnlyCollected_combinedDrawing : ¬ReportsOnlyCollected [] combinedDrawing := by
  intro only
  have reported : .unresolvedImage "2" "Part" ∈ (ofNode [] combinedDrawing).diagnostics := by
    rw [unresolvedImage_mem_iff]
    decide
  have notAsked : "2" ∉ Node.imageIds combinedDrawing := by decide
  exact notAsked (only "2" "Part" reported)

end Page
end Artboard
