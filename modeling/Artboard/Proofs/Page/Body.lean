import Artboard.Proofs.Page.Visited

/-!
# The tags of a body

The start tags of a body, from front to back, are those of the visited places in
preorder, less the places whose markup is dropped because they lie on an input or
on a text that shows its own characters.  Each tag carries the class of its place.
The main statement is `tags_depict`.
-/

namespace Artboard
namespace Markup

/-- A start tag, or a tag that closes itself. -/
structure Tag where
  name : String
  attributes : List Attribute
  deriving DecidableEq, Repr

mutual

def Tree.tags : Tree → List Tag
  | .element tag attributes content => ⟨tag, attributes⟩ :: forestTags content
  | .void tag attributes => [⟨tag, attributes⟩]
  | .text _ => []

def forestTags : List Tree → List Tag
  | [] => []
  | tree :: trees => tree.tags ++ forestTags trees

end

theorem forestTags_append (first second : List Tree) :
    forestTags (first ++ second) = forestTags first ++ forestTags second := by
  induction first with
  | nil => rfl
  | cons tree trees inductionHypothesis =>
      rw [List.cons_append, forestTags, forestTags, inductionHypothesis, List.append_assoc]

theorem forestTags_singleton (tree : Tree) : forestTags [tree] = tree.tags := by
  rw [forestTags, forestTags, List.append_nil]

def Tag.classes (tag : Tag) : List String :=
  (tag.attributes.filter (·.name == "class")).map (·.value)

def forestClasses (trees : List Tree) : List String :=
  (forestTags trees).flatMap Tag.classes

end Markup

namespace Page

open Node (TreePlace Order placesFrom placesFromAll)

/-- Whether the markup of what lies on a layer is dropped: an input has no content,
and a text with characters shows nothing else. -/
def dropsContent (layer : Layer) : Bool :=
  (Markup.Element.ofLayer layer).isVoid ||
    (layer.shape == .text && !(layer.characters.getD "").isEmpty)

def isShown (place : TreePlace) : Bool :=
  place.above.all fun layer => !dropsContent layer

def tagOf (images : ImageMap) (number : Nat) (layer : Layer) : Markup.Tag :=
  let className := Markup.className number layer.name
  match images.url? layer.id with
  | some url => ⟨"img", [⟨"src", url⟩, ⟨"class", className⟩, ⟨"alt", layer.name⟩]⟩
  | none =>
    let element := Markup.Element.ofLayer layer
    ⟨element.tag, ⟨"class", className⟩ :: element.attributes⟩

variable {images : ImageMap}

/-- A tag names the class of its layer once and no other class. -/
theorem classes_tagOf (number : Nat) (layer : Layer) :
    (tagOf images number layer).classes = [Markup.className number layer.name] := by
  have source : ("src" == "class") = false := by decide
  have alternative : ("alt" == "class") = false := by decide
  have type : ("type" == "class") = false := by decide
  have placeholder : ("placeholder" == "class") = false := by decide
  rw [tagOf]
  split
  · simp [Markup.Tag.classes, source, alternative]
  · cases Markup.Element.ofLayer layer <;>
      simp [Markup.Tag.classes, Markup.Element.attributes, type, placeholder]

theorem filter_isShown_of_dropsContent {layer : Layer} {path : List Nat} {above : List Layer}
    {index : Nat} (nodes : List Node) (drops : dropsContent layer = true) :
    (visitedFromAll images .preorder path (layer :: above) index nodes).filter isShown = [] := by
  apply List.filter_eq_nil_iff.mpr
  intro place member shown
  rcases Node.mem_placesFromAll nodes path (layer :: above) index (List.mem_filter.mp member).1
    with ⟨-, suffix⟩
  have kept := List.all_eq_true.mp shown layer (suffix.mem List.mem_cons_self)
  rw [drops] at kept
  cases kept

/-- The places of a list with their tags, numbered from a number on by their
position in another list. -/
def tagsOf (images : ImageMap) (number : Nat) (numbering places : List TreePlace) :
    List Markup.Tag :=
  places.map fun place => tagOf images (number + numberIn numbering place) place.layer

/-- Places on a layer have numbers one higher when the layer is numbered too. -/
theorem tagsOf_below (number : Nat) (top : TreePlace) (above : List Layer) (index : Nat)
    (nodes : List Node) :
    tagsOf images number
        (top :: visitedFromAll images .preorder top.path above index nodes)
        ((visitedFromAll images .preorder top.path above index nodes).filter isShown) =
      tagsOf images (number + 1) (visitedFromAll images .preorder top.path above index nodes)
        ((visitedFromAll images .preorder top.path above index nodes).filter isShown) := by
  exact map_numberIn_below (fun number place => tagOf images number place.layer) number
    (fun _ member => (List.mem_filter.mp member).1) _

/-- The tag of the element that a layer stands for, in front of the tags of its content
if it can have any. -/
theorem tags_elementOf (number : Nat) {layer : Layer} (content : List Markup.Tree)
    (unknown : images.url? layer.id = none) :
    (elementOf number layer content).tags =
      tagOf images number layer ::
        if (Markup.Element.ofLayer layer).isVoid then [] else Markup.forestTags content := by
  rw [elementOf_eq, tagOf, unknown]
  cases (Markup.Element.ofLayer layer).isVoid <;> rfl

/-- The tag of the first layer of a depiction that is not an image, in front of the
tags of its content. -/
theorem tags_element (number : Nat) {layer : Layer} (children : List Node)
    (visible : layer.visible = true) (unknown : images.url? layer.id = none) :
    Markup.forestTags (depict images number ⟨layer, children⟩) =
      tagOf images number layer ::
        if dropsContent layer then []
        else Markup.forestTags (depictAll images (number + 1) children) := by
  simp only [depict, visible, unknown, Bool.true_eq_false, if_false]
  rw [Markup.forestTags_singleton, tags_elementOf number _ unknown, dropsContent]
  refine congrArg (List.cons (tagOf images number layer)) ?_
  cases (Markup.Element.ofLayer layer).isVoid with
  | true => rfl
  | false =>
      by_cases own : layer.shape = .text ∧ (layer.characters.getD "").isEmpty = false
      · rw [if_pos own]
        simp [own, Markup.forestTags, Markup.Tree.tags]
      · have keeps : (layer.shape == .text && !(layer.characters.getD "").isEmpty) = false := by
          apply Bool.eq_false_iff.mpr
          intro drops
          simp only [Bool.and_eq_true, beq_iff_eq, Bool.not_eq_true'] at drops
          exact own drops
        rw [if_neg own, keeps]
        rfl

mutual

/-- The tags of a depiction are those of the shown places, in order and with their
numbers. -/
theorem tags_depictFrom : (node : Node) → (number : Nat) → (path : List Nat) →
    (above : List Layer) → above.all (isOpen images) = true →
    above.all (fun layer => !dropsContent layer) = true →
    Markup.forestTags (depict images number node) =
      tagsOf images number (visitedFrom images .preorder path above node)
        ((visitedFrom images .preorder path above node).filter isShown)
  | ⟨layer, children⟩, number, path, above, opened, keeps => by
      cases visible : layer.visible with
      | false =>
          simp [visitedFrom_hidden children visible, depict, visible, tagsOf,
            Markup.forestTags]
      | true =>
          have shown : isShown ⟨path, above, ⟨layer, children⟩⟩ = true := keeps
          cases known : images.url? layer.id with
          | some url =>
              rw [visitedFrom_image children visible known opened]
              simp [depict, visible, known, tagsOf, tagOf, shown, numberIn_self, TreePlace.layer,
                Markup.forestTags_singleton, Markup.Tree.tags, classOf_eq]
          | none =>
              rw [visitedFrom_element children visible opened, tags_element number children
                visible known, Order.arrange, List.filter_cons_of_pos shown, tagsOf,
                List.map_cons, numberIn_self, Nat.add_zero]
              refine congrArg (List.cons (tagOf images number layer)) ?_
              cases drops : dropsContent layer with
              | true => simp [filter_isShown_of_dropsContent children drops]
              | false =>
                  have below := tags_depictAllFrom children (number + 1) path (layer :: above) 0
                    (all_isOpen_cons visible known opened) (by simpa [drops] using keeps)
                  rw [if_neg Bool.false_ne_true, below]
                  exact (tagsOf_below number ⟨path, above, ⟨layer, children⟩⟩ (layer :: above) 0
                    children).symm

theorem tags_depictAllFrom : (nodes : List Node) → (number : Nat) → (path : List Nat) →
    (above : List Layer) → (index : Nat) → above.all (isOpen images) = true →
    above.all (fun layer => !dropsContent layer) = true →
    Markup.forestTags (depictAll images number nodes) =
      tagsOf images number (visitedFromAll images .preorder path above index nodes)
        ((visitedFromAll images .preorder path above index nodes).filter isShown)
  | [], _, _, _, _, _, _ => rfl
  | node :: nodes, number, path, above, index, opened, keeps => by
      have first := tags_depictFrom node number (path ++ [index]) above opened keeps
      have others := tags_depictAllFrom nodes (number + numbered images node) path above
        (index + 1) opened keeps
      have count := numbered_eq_length .preorder node (path ++ [index]) above opened
      rw [depictAll, Markup.forestTags_append, first, others, visitedFromAll_cons,
        List.filter_append, count]
      exact (map_numberIn_append (fun number place => tagOf images number place.layer) number
        (fun _ member => (List.mem_filter.mp member).1)
        (fun _ member => (List.mem_filter.mp member).1) _).symm

end

theorem tags_depict (images : ImageMap) (root : Node) :
    Markup.forestTags (depict images 0 root) =
      ((visited images .preorder root).filter isShown).map fun place =>
        tagOf images (number images root place) place.layer := by
  have opened : ([] : List Layer).all (isOpen images) = true := rfl
  have tags := tags_depictFrom root 0 [] [] opened rfl
  simp only [tagsOf, Nat.zero_add] at tags
  exact tags

theorem classes_depict (images : ImageMap) (root : Node) :
    Markup.forestClasses (depict images 0 root) =
      ((visited images .preorder root).filter isShown).map fun place =>
        Markup.className (number images root place) place.layer.name := by
  rw [Markup.forestClasses, tags_depict, List.flatMap_map]
  simp only [classes_tagOf]
  exact List.map_eq_flatMap.symm

end Page
end Artboard
