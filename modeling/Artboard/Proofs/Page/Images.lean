import Artboard.Page.Document
import Artboard.Proofs.Design.Collected
import Artboard.Proofs.Page.Body

/-!
# Collected images in the walk

The collector and the walk go through a tree by different rules: the collector
stops at image-like layers and does not care what is drawn, the walk stops at
layers whose image is known and at layers that are not drawn.  When the image of
every collected layer is known, the walk comes to no image-like layer without an
image, because an image-like layer that is not collected lies on one that is.

Then what lies on image-like layers does not matter to the page at all.  When
moreover no id repeats and only collected layers have images, the images of the
body are the collected places that are drawn and shown.
-/

namespace Artboard
namespace Node

mutual

/-- The tree without anything on image-like layers. -/
def withoutImageContent : Node → Node
  | ⟨layer, children⟩ =>
    ⟨layer, if layer.isImageLike then [] else withoutImageContentAll children⟩

def withoutImageContentAll : List Node → List Node
  | [] => []
  | node :: nodes => node.withoutImageContent :: withoutImageContentAll nodes

end

end Node

namespace Page

open Node (TreePlace Order placesFrom placesFromAll)

variable {images : ImageMap}

/-- Whether the image of every listed layer is known. -/
def Covers (images : ImageMap) (ids : List String) : Prop :=
  ∀ id ∈ ids, (images.url? id).isSome = true

/-- A covered tree has an image-like layer with a known image at its root, or its
children are covered. -/
theorem covers_cases {layer : Layer} {children : List Node}
    (covered : Covers images (Node.imageIds ⟨layer, children⟩)) :
    (layer.isImageLike = true ∧ ∃ url, images.url? layer.id = some url) ∨
      (layer.isImageLike = false ∧ Covers images (Node.imageIdsOfAll children)) := by
  rw [Node.imageIds] at covered
  cases imageLike : layer.isImageLike with
  | true =>
      rw [imageLike, if_pos rfl] at covered
      exact Or.inl ⟨rfl, Option.isSome_iff_exists.mp (covered layer.id List.mem_cons_self)⟩
  | false =>
      rw [imageLike, if_neg Bool.false_ne_true] at covered
      exact Or.inr ⟨rfl, covered⟩

theorem covers_cons {node : Node} {nodes : List Node}
    (covered : Covers images (Node.imageIdsOfAll (node :: nodes))) :
    Covers images (Node.imageIds node) ∧ Covers images (Node.imageIdsOfAll nodes) := by
  rw [Node.imageIdsOfAll] at covered
  constructor
  · intro id member
    exact covered id (List.mem_append_left _ member)
  · intro id member
    exact covered id (List.mem_append_right _ member)

/-! ## No image is missed -/

theorem unresolvedImage_notMem_style (layer : Layer) (parent : Option Layer) (id name : String) :
    .unresolvedImage id name ∉ Style.diagnostics layer parent := by
  intro member
  rcases List.mem_append.mp member with member | member
  · unfold Style.geometryDiagnostics at member
    split at member
    · cases List.mem_singleton.mp member
    · cases member
  · rw [Style.gradientDiagnostics] at member
    cases front : Style.backgroundFill? layer with
    | none =>
        rw [front] at member
        cases member
    | some fill =>
        simp only [front] at member
        split at member
        · cases List.mem_singleton.mp member
        · cases member

mutual

/-- A walk over a covered tree reports no missing image. -/
theorem unresolvedImage_visit {id name : String} : (node : Node) → (parent : Option Layer) →
    (run : Run) → Covers images (Node.imageIds node) →
    .unresolvedImage id name ∈ (visit images node parent run).2.diagnostics →
    .unresolvedImage id name ∈ run.diagnostics
  | ⟨layer, children⟩, parent, run, covered, found => by
      have fromStyle := unresolvedImage_notMem_style layer parent id name
      cases visible : layer.visible with
      | false =>
          rw [visit_hidden children run visible] at found
          exact found
      | true =>
          cases known : images.url? layer.id with
          | some url =>
              rw [visit_image children run visible known, Run.diagnostics_register, reached,
                Run.diagnostics_report, Run.diagnostics_count] at found
              exact (List.mem_append.mp found).resolve_right fromStyle
          | none =>
              rcases covers_cases covered with ⟨-, url, resolved⟩ | ⟨notImageLike, below⟩
              · rw [known] at resolved
                cases resolved
              · rw [visit_element children run visible known, Run.diagnostics_register] at found
                have before := unresolvedImage_visitAll children layer _ below found
                rw [entered, Run.diagnostics_useFont, Run.diagnostics_report, reached,
                  Run.diagnostics_report, Run.diagnostics_count, imageDiagnostics, notImageLike,
                  if_neg Bool.false_ne_true, List.append_nil] at before
                exact (List.mem_append.mp before).resolve_right fromStyle

theorem unresolvedImage_visitAll {id name : String} : (nodes : List Node) → (below : Layer) →
    (run : Run) → Covers images (Node.imageIdsOfAll nodes) →
    .unresolvedImage id name ∈ (visitAll images nodes below run).2.diagnostics →
    .unresolvedImage id name ∈ run.diagnostics
  | [], _, _, _, found => found
  | node :: nodes, below, run, covered, found => by
      rcases covers_cons covered with ⟨first, others⟩
      rw [visitAll_cons] at found
      exact unresolvedImage_visit node (some below) run first
        (unresolvedImage_visitAll nodes below _ others found)

end

mutual

/-- The image of every visited image-like place of a covered tree is known. -/
theorem known_of_visitedFrom {place : TreePlace} : (node : Node) → (path : List Nat) →
    (above : List Layer) → above.all (isOpen images) = true →
    Covers images (Node.imageIds node) →
    place ∈ visitedFrom images .preorder path above node → place.layer.isImageLike = true →
    ∃ url, images.url? place.layer.id = some url
  | ⟨layer, children⟩, path, above, opened, covered, member, imageLike => by
      cases visible : layer.visible with
      | false =>
          rw [visitedFrom_hidden children visible] at member
          cases member
      | true =>
          cases known : images.url? layer.id with
          | some url =>
              rw [visitedFrom_image children visible known opened] at member
              have same := List.mem_singleton.mp member
              subst same
              exact ⟨url, known⟩
          | none =>
              rcases covers_cases covered with ⟨-, url, resolved⟩ | ⟨notImageLike, below⟩
              · rw [known] at resolved
                cases resolved
              · rw [visitedFrom_element children visible opened] at member
                rcases Order.mem_arrange.mp member with same | member
                · subst same
                  rw [TreePlace.layer, notImageLike] at imageLike
                  cases imageLike
                · exact known_of_visitedFromAll children path (layer :: above) 0
                    (all_isOpen_cons visible known opened) below member imageLike

theorem known_of_visitedFromAll {place : TreePlace} : (nodes : List Node) → (path : List Nat) →
    (above : List Layer) → (index : Nat) → above.all (isOpen images) = true →
    Covers images (Node.imageIdsOfAll nodes) →
    place ∈ visitedFromAll images .preorder path above index nodes →
    place.layer.isImageLike = true → ∃ url, images.url? place.layer.id = some url
  | [], _, _, _, _, _, member, _ => by
      cases member
  | node :: nodes, path, above, index, opened, covered, member, imageLike => by
      rcases covers_cons covered with ⟨first, others⟩
      rw [visitedFromAll_cons] at member
      rcases List.mem_append.mp member with member | member
      · exact known_of_visitedFrom node (path ++ [index]) above opened first member imageLike
      · exact known_of_visitedFromAll nodes path above (index + 1) opened others member imageLike

end

theorem visible_of_visited {order : Order} {root : Node} {place : TreePlace}
    (member : place ∈ visited images order root) : place.layer.visible = true :=
  (Bool.and_eq_true_iff.mp (List.mem_filter.mp member).2).1

/-! ## What lies on image-like layers does not matter -/

mutual

/-- A walk over a covered tree goes as if nothing lay on image-like layers. -/
theorem visit_withoutImageContent : (node : Node) → (parent : Option Layer) → (run : Run) →
    Covers images (Node.imageIds node) →
    visit images node.withoutImageContent parent run = visit images node parent run
  | ⟨layer, children⟩, parent, run, covered => by
      rw [Node.withoutImageContent]
      cases visible : layer.visible with
      | false => rw [visit_hidden _ run visible, visit_hidden children run visible]
      | true =>
          rcases covers_cases covered with ⟨-, url, known⟩ | ⟨notImageLike, below⟩
          · rw [visit_image _ run visible known, visit_image children run visible known]
          · rw [notImageLike, if_neg Bool.false_ne_true]
            cases known : images.url? layer.id with
            | some url =>
                rw [visit_image _ run visible known, visit_image children run visible known]
            | none =>
                rw [visit_element _ run visible known, visit_element children run visible known,
                  visitAll_withoutImageContentAll children layer _ below]

theorem visitAll_withoutImageContentAll : (nodes : List Node) → (below : Layer) →
    (run : Run) → Covers images (Node.imageIdsOfAll nodes) →
    visitAll images (Node.withoutImageContentAll nodes) below run =
      visitAll images nodes below run
  | [], _, _, _ => rfl
  | node :: nodes, below, run, covered => by
      rcases covers_cons covered with ⟨first, others⟩
      rw [Node.withoutImageContentAll, visitAll_cons, visitAll_cons,
        visit_withoutImageContent node (some below) run first,
        visitAll_withoutImageContentAll nodes below _ others]

end

/-- The page of a covered tree is the page of the tree without anything on
image-like layers. -/
theorem ofNode_withoutImageContent {root : Node} (covered : Covers images (Node.imageIds root)) :
    ofNode images root.withoutImageContent = ofNode images root := by
  have sameWalk := visit_withoutImageContent root none Run.start covered
  have sameTitle : root.withoutImageContent.layer = root.layer := by
    rcases root with ⟨layer, children⟩
    rw [Node.withoutImageContent]
  rw [ofNode, ofNode, sameWalk, sameTitle]

/-! ## The images of the body -/

def imageTags (trees : List Markup.Tree) : List Markup.Tag :=
  (Markup.forestTags trees).filter (·.name == "img")

theorem isImage_tagOf (number : Nat) (layer : Layer) :
    ((tagOf images number layer).name == "img") = (images.url? layer.id).isSome := by
  have known : ∀ tag ∈ ["button", "input", "span", "div"], (tag == "img") = false := by decide
  rw [tagOf]
  split
  · next url resolved => simp [resolved]
  · next unresolved =>
      rw [unresolved]
      apply known
      cases Markup.Element.ofLayer layer <;> simp [Markup.Element.tag]

theorem imageTags_depict (images : ImageMap) (root : Node) :
    imageTags (depict images 0 root) =
      (((visited images .preorder root).filter isShown).filter fun place =>
          (images.url? place.layer.id).isSome).map fun place =>
        tagOf images (number images root place) place.layer := by
  rw [imageTags, tags_depict, List.filter_map]
  refine congrArg (List.map _) (List.filter_congr ?_)
  intro place _
  exact isImage_tagOf _ place.layer

def isDrawn (place : TreePlace) : Bool :=
  place.layer.visible && place.above.all (·.visible)

/-- When no id repeats and exactly the collected layers have images, the shown
places with images are the collected ones that are drawn and shown. -/
theorem filter_known_eq {root : Node}
    (unique : ((root.places .preorder).map fun place => place.layer.id).Nodup)
    (resolved : ∀ id, (images.url? id).isSome = true ↔ id ∈ Node.imageIds root) :
    (((visited images .preorder root).filter isShown).filter fun place =>
        (images.url? place.layer.id).isSome) =
      (root.places .preorder).filter fun place =>
        (Node.imageIds root).contains place.layer.id && isDrawn place && isShown place := by
  rw [visited, List.filter_filter, List.filter_filter]
  apply List.filter_congr
  intro place member
  apply Bool.eq_iff_iff.mpr
  simp only [Bool.and_eq_true, List.contains_iff_mem, resolved]
  constructor
  · rintro ⟨⟨collected, shown⟩, visited⟩
    rcases Bool.and_eq_true_iff.mp visited with ⟨visible, opened⟩
    refine ⟨⟨collected, Bool.and_eq_true_iff.mpr ⟨visible, ?_⟩⟩, shown⟩
    apply List.all_eq_true.mpr
    intro below under
    exact (Bool.and_eq_true_iff.mp (List.all_eq_true.mp opened below under)).1
  · rintro ⟨⟨collected, drawn⟩, shown⟩
    rcases Bool.and_eq_true_iff.mp drawn with ⟨visible, drawnBelow⟩
    refine ⟨⟨collected, shown⟩, Bool.and_eq_true_iff.mpr ⟨visible, ?_⟩⟩
    apply List.all_eq_true.mpr
    intro below under
    have notCollected := Node.id_notMem_of_mem_above unique member collected under
    have unknown : images.url? below.id = none := by
      apply Option.not_isSome_iff_eq_none.mp
      intro known
      exact notCollected ((resolved below.id).mp known)
    simp [isOpen, List.all_eq_true.mp drawnBelow below under, unknown]

/-- Collector and walk agree.  When the image of every collected layer is known, the
page reports no missing image, the walk makes an `img` of every image-like place it
visits, and the page is the same as if nothing lay on image-like layers.  When,
moreover, no id repeats in the tree and no other layers have images, the images of
the body are, in order, the collected places that are drawn and whose markup
nothing below them drops. -/
theorem images_of_collected (images : ImageMap) (root : Node)
    (covered : ∀ id ∈ Node.imageIds root, (images.url? id).isSome = true) :
    (∀ id name, .unresolvedImage id name ∉ (ofNode images root).diagnostics) ∧
      (∀ place ∈ visited images .preorder root, place.layer.isImageLike = true →
        ∃ url, images.url? place.layer.id = some url ∧
          ∀ run, (visit images place.node place.parent run).1 =
            [imageTree place.layer url (Markup.className run.counter place.layer.name)]) ∧
      ofNode images root.withoutImageContent = ofNode images root ∧
      (((root.places .preorder).map fun place => place.layer.id).Nodup →
        (∀ id, (images.url? id).isSome = true → id ∈ Node.imageIds root) →
        ∃ forest, Markup.read? (Markup.renderForest (ofNode images root).body) = some forest ∧
          imageTags forest =
            ((root.places .preorder).filter fun place =>
                (Node.imageIds root).contains place.layer.id && isDrawn place &&
                  isShown place).map fun place =>
              tagOf images (number images root place) place.layer) := by
  refine ⟨?_, ?_, ofNode_withoutImageContent covered, ?_⟩
  · intro id name found
    cases unresolvedImage_visit root none Run.start covered found
  · intro place member imageLike
    rcases known_of_visitedFrom root [] [] rfl covered member imageLike with ⟨url, known⟩
    refine ⟨url, known, ?_⟩
    intro run
    rcases place with ⟨path, above, layer, children⟩
    have visible := visible_of_visited member
    exact congrArg Prod.fst (visit_image children run visible known)
  · intro unique only
    have body : (ofNode images root).body = depict images 0 root :=
      markup_visit root none Run.start
    refine ⟨depict images 0 root, ?_, ?_⟩
    · rw [body]
      exact read?_depict images 0 root
    · rw [imageTags_depict, filter_known_eq unique (fun id => ⟨only id, covered id⟩)]

/-! ## A sketch -/

/-- A page with an icon that has a label on it, an input with a star, an icon that is
not drawn and a bare rectangle. -/
def sketch : Node :=
  (Node.ofShape "0" "Page" .frame).withChildren [
    (Node.ofShape "1" "Icon" .vector).withChildren [Node.ofShape "2" "Label" .text],
    (Node.ofShape "3" "Email Field" .frame).withChildren [Node.ofShape "4" "Star" .star],
    ((Node.ofShape "5" "Spare" .frame).withChildren [Node.ofShape "6" "Dot" .ellipse]).hidden,
    Node.ofShape "7" "Box" .rectangle]

def sketchImages : ImageMap :=
  [("1", "icon.png"), ("4", "star.png"), ("6", "dot.png")]

/-- Of the three collected icons only the first one is in the body. -/
theorem images_of_sketch :
    (∀ id ∈ Node.imageIds sketch, (sketchImages.url? id).isSome = true) ∧
      ∃ forest, Markup.read? (Markup.renderForest (ofNode sketchImages sketch).body) =
          some forest ∧
        imageTags forest =
          [⟨"img", [⟨"src", "icon.png"⟩, ⟨"class", "node-1-Icon"⟩, ⟨"alt", "Icon"⟩]⟩] := by
  have covered : ∀ id ∈ Node.imageIds sketch, (sketchImages.url? id).isSome = true := by
    decide +kernel
  have unique : ((sketch.places .preorder).map fun place => place.layer.id).Nodup := by
    decide +kernel
  have listed : ∀ entry ∈ sketchImages, entry.1 ∈ Node.imageIds sketch := by
    decide +kernel
  have only : ∀ id, (sketchImages.url? id).isSome = true → id ∈ Node.imageIds sketch := by
    intro id known
    rcases List.lookup_isSome_iff.mp known with ⟨entry, member, same⟩
    rw [eq_of_beq same]
    exact listed entry member
  rcases (images_of_collected sketchImages sketch covered).2.2.2 unique only with
    ⟨forest, reads, tags⟩
  exact ⟨covered, forest, reads, tags.trans (by decide +kernel)⟩

end Page
end Artboard
