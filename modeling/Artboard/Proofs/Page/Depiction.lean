import Artboard.Proofs.Markup.Inference
import Artboard.Proofs.Markup.RoundTrip
import Artboard.Proofs.Page.Walk

/-!
# What the body of a page depicts

The depiction of a design tree is the forest of elements that it stands for, said
without a walk: only the number of the first layer goes in, and nothing comes out
but trees.  The body of a page, read by a strict reader, is this forest.  So no
name, text, placeholder or address in a design can open or close an element or an
attribute, or change one, whatever characters are in it.
-/

namespace Artboard
namespace Page

variable {images : ImageMap}

mutual

/-- How many layers of a tree are numbered: those that are drawn on layers that
are drawn and are not replaced by their images. -/
def numbered (images : ImageMap) : Node → Nat
  | ⟨layer, children⟩ =>
    if layer.visible then
      match images.url? layer.id with
      | some _ => 1
      | none => numberedOfAll images children + 1
    else 0

def numberedOfAll (images : ImageMap) : List Node → Nat
  | [] => 0
  | node :: nodes => numbered images node + numberedOfAll images nodes

end

/-- The class of a layer is the word `node`, the number and the name of the layer, with
hyphens between.  In the name a hyphen stands for whatever is no letter and no digit of
ASCII. -/
def classOf (number : Nat) (name : String) : Markup.Attribute :=
  ⟨"class", "node-" ++ toString number ++ "-" ++
    String.ofList (name.toList.map fun c => if c.isAlphanum then c else '-')⟩

/-- The element that the name and the shape of a layer suggest, around the given content.
An input has no content; without a purpose of its own it shows the characters of a text as
its placeholder. -/
def elementOf (number : Nat) (layer : Layer) (content : List Markup.Tree) : Markup.Tree :=
  match Markup.Element.ofLayer layer with
  | .button => .element "button" [classOf number layer.name, ⟨"type", "button"⟩] content
  | .passwordInput =>
    .void "input"
      [classOf number layer.name, ⟨"type", "password"⟩, ⟨"placeholder", "Password"⟩]
  | .emailInput =>
    .void "input" [classOf number layer.name, ⟨"type", "email"⟩, ⟨"placeholder", "Email"⟩]
  | .textInput _ =>
    .void "input" [classOf number layer.name, ⟨"type", "text"⟩,
      ⟨"placeholder", if layer.shape = .text then layer.characters.getD "" else ""⟩]
  | .span => .element "span" [classOf number layer.name] content
  | .div => .element "div" [classOf number layer.name] content

mutual

/-- The elements that a tree stands for when its first layer has the given number.
A layer that is not drawn stands for nothing, and one with an image for an `img`
without content.  Any other layer stands for the element that its name and its
shape suggest.  In it a text with characters shows these, and everything else shows
what lies on it. -/
def depict (images : ImageMap) (number : Nat) : Node → List Markup.Tree
  | ⟨layer, children⟩ =>
    if layer.visible = false then []
    else match images.url? layer.id with
      | some url =>
        [.void "img" [⟨"src", url⟩, classOf number layer.name, ⟨"alt", layer.name⟩]]
      | none =>
        [elementOf number layer
          (if layer.shape = .text ∧ (layer.characters.getD "").isEmpty = false then
            [.text (layer.characters.getD "")]
          else depictAll images (number + 1) children)]

def depictAll (images : ImageMap) (number : Nat) : List Node → List Markup.Tree
  | [] => []
  | node :: nodes =>
    depict images number node ++ depictAll images (number + numbered images node) nodes

end

/-! ## The walk makes the depiction -/

mutual

/-- The walk numbers as many layers as the tree says. -/
theorem counter_visit : (node : Node) → (parent : Option Layer) → (run : Run) →
    (visit images node parent run).2.counter = run.counter + numbered images node
  | ⟨layer, children⟩, parent, run => by
      cases visible : layer.visible with
      | false => simp [visit_hidden children run visible, numbered, visible]
      | true =>
          cases known : images.url? layer.id with
          | some url => simp [visit_image children run visible known, numbered, visible, known]
          | none =>
              have below := counter_visitAll children layer (entered layer parent run)
              rw [counter_entered] at below
              rw [visit_element children run visible known, Run.counter_register, below]
              simp only [numbered, visible, known, if_true]
              omega

theorem counter_visitAll : (nodes : List Node) → (below : Layer) → (run : Run) →
    (visitAll images nodes below run).2.counter = run.counter + numberedOfAll images nodes
  | [], _, _ => rfl
  | node :: nodes, below, run => by
      have first := counter_visit node (some below) run
      have others := counter_visitAll nodes below (visit images node (some below) run).2
      rw [visitAll_cons, others, first, numberedOfAll, Nat.add_assoc]

end

theorem contentOf_eq (layer : Layer) (children : List Markup.Tree) :
    contentOf layer children =
      if layer.shape = .text ∧ (layer.characters.getD "").isEmpty = false then
        [.text (layer.characters.getD "")]
      else children := by
  rw [contentOf]
  split
  · next characters isText written =>
      simp only [isText, written, Option.getD_some, true_and]
      cases empty : characters.isEmpty <;> simp
  · next others =>
      rw [if_neg]
      rintro ⟨isText, notEmpty⟩
      cases written : layer.characters with
      | none => simp [written] at notEmpty
      | some characters => exact others characters isText written

theorem classOf_eq (number : Nat) (name : String) :
    classOf number name = ⟨"class", Markup.className number name⟩ := rfl

/-- The tag and the attributes of the element that a layer stands for are those that the
walk writes. -/
theorem elementOf_eq (number : Nat) (layer : Layer) (content : List Markup.Tree) :
    elementOf number layer content =
      if (Markup.Element.ofLayer layer).isVoid then
        .void (Markup.Element.ofLayer layer).tag
          (⟨"class", Markup.className number layer.name⟩ ::
            (Markup.Element.ofLayer layer).attributes)
      else
        .element (Markup.Element.ofLayer layer).tag
          (⟨"class", Markup.className number layer.name⟩ ::
            (Markup.Element.ofLayer layer).attributes) content := by
  rw [elementOf]
  cases suggested : Markup.Element.ofLayer layer with
  | button => rfl
  | passwordInput => rfl
  | emailInput => rfl
  | textInput placeholder =>
      have shown := ((Markup.Element.ofLowerName_eq_textInput_iff layer.shape layer.characters _
        placeholder).mp suggested).2
      rw [← shown]
      rfl
  | span => rfl
  | div => rfl

mutual

/-- What the walk makes of a node depends on the node and its number only. -/
theorem markup_visit : (node : Node) → (parent : Option Layer) → (run : Run) →
    (visit images node parent run).1 = depict images run.counter node
  | ⟨layer, children⟩, parent, run => by
      cases visible : layer.visible with
      | false => simp [visit_hidden children run visible, depict, visible]
      | true =>
          cases known : images.url? layer.id with
          | some url =>
              simp [visit_image children run visible known, depict, visible, known, imageTree,
                classOf_eq]
          | none =>
              have below := markup_visitAll children layer (entered layer parent run)
              rw [counter_entered] at below
              rw [visit_element children run visible known, below]
              simp [depict, visible, known, elementTree, elementOf_eq, contentOf_eq]

theorem markup_visitAll : (nodes : List Node) → (below : Layer) → (run : Run) →
    (visitAll images nodes below run).1 = depictAll images run.counter nodes
  | [], _, _ => rfl
  | node :: nodes, below, run => by
      have first := markup_visit node (some below) run
      have others := markup_visitAll nodes below (visit images node (some below) run).2
      rw [counter_visit] at others
      rw [visitAll_cons, first, others, depictAll]

end

/-! ## The depiction can be written -/

theorem legible_elementOf (number : Nat) (layer : Layer) {content : List Markup.Tree}
    (legible : Markup.legibleForest content = true) :
    (elementOf number layer content).isLegible = true ∧
      (elementOf number layer content).isText = false := by
  have tagsNamed : ∀ tag ∈ ["button", "input", "span", "div"],
      Markup.isName tag = true ∧ tag ≠ "br" := by decide
  have attributesNamed : ∀ name ∈ ["class", "type", "placeholder"],
      Markup.isName name = true := by decide
  simp only [List.forall_mem_cons] at tagsNamed attributesNamed
  rcases tagsNamed with ⟨button, input, span, div⟩
  rcases attributesNamed with ⟨classNamed, typeNamed, placeholderNamed⟩
  rw [elementOf]
  cases Markup.Element.ofLayer layer <;>
    simp [Markup.Tree.isLegible, Markup.Tree.isText, classOf, button, input, span, div,
      classNamed, typeNamed, placeholderNamed, legible]

theorem legibleForest_of_elements {trees : List Markup.Tree}
    (elements : ∀ tree ∈ trees, tree.isLegible = true ∧ tree.isText = false) :
    Markup.legibleForest trees = true := by
  induction trees with
  | nil => rfl
  | cons tree trees inductionHypothesis =>
      have first := elements tree List.mem_cons_self
      have others := inductionHypothesis (fun other member =>
        elements other (List.mem_cons_of_mem _ member))
      simp [Markup.legibleForest, first.1, first.2, others]

mutual

/-- A depiction consists of legible elements. -/
theorem legible_depict : (node : Node) → (number : Nat) →
    ∀ tree ∈ depict images number node, tree.isLegible = true ∧ tree.isText = false
  | ⟨layer, children⟩, number => by
      intro tree member
      have below := legibleForest_of_elements (legible_depictAll children (number + 1))
      simp only [depict] at member
      split at member
      · cases member
      · split at member
        · have same := List.mem_singleton.mp member
          subst same
          have tagNamed : Markup.isName "img" = true := by decide
          have attributesNamed : ∀ name ∈ ["src", "class", "alt"],
              Markup.isName name = true := by decide
          simp only [List.forall_mem_cons] at attributesNamed
          refine ⟨?_, rfl⟩
          simp [Markup.Tree.isLegible, classOf, tagNamed, attributesNamed]
        · have same := List.mem_singleton.mp member
          subst same
          apply legible_elementOf
          split
          · next shown =>
              have notEmpty : layer.characters.getD "" ≠ "" := by
                intro empty
                rw [empty] at shown
                exact absurd shown.2 (by decide)
              simp [Markup.legibleForest, Markup.Tree.isLegible, Markup.startsWithText,
                notEmpty]
          · exact below

theorem legible_depictAll : (nodes : List Node) → (number : Nat) →
    ∀ tree ∈ depictAll images number nodes, tree.isLegible = true ∧ tree.isText = false
  | [], _ => by
      intro tree member
      cases member
  | node :: nodes, number => by
      intro tree member
      simp only [depictAll, List.mem_append] at member
      rcases member with member | member
      · exact legible_depict node number tree member
      · exact legible_depictAll nodes (number + numbered images node) tree member

end

theorem read?_depict (images : ImageMap) (number : Nat) (root : Node) :
    Markup.read? (Markup.renderForest (depict images number root)) =
      some (depict images number root) :=
  Markup.read?_renderForest _ (legibleForest_of_elements (legible_depict root number))

/-- Whatever was collected before, a strict reader takes the markup of a walk to
its end and finds the depiction of the tree, no more and no less. -/
theorem read?_markup_visit (images : ImageMap) (root : Node) (parent : Option Layer) (run : Run) :
    Markup.read? (Markup.renderForest (visit images root parent run).1) =
      some (depict images run.counter root) := by
  rw [markup_visit]
  exact read?_depict images run.counter root

end Page
end Artboard
