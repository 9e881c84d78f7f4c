import Artboard.Page.Document
import Artboard.Proofs.Page.Visited

/-!
# What is not drawn

The shown part of a design tree is what is left without the layers that are not
drawn, without what lies on layers that are replaced by their images, and without
the paints and effects that are not drawn.  The walk makes the same of a tree and
of its shown part, step for step.  So two trees with the same shown part have the
same page: nothing about what is hidden can be read off it, neither from markup,
numbers and rules nor from the findings.
-/

namespace Artboard

/-- The layer without its paints and effects that are not drawn. -/
def Layer.shownPart (layer : Layer) : Layer :=
  { layer with
    fills := layer.visibleFills
    strokes := layer.visibleStrokes
    effects := layer.visibleEffects }

namespace Layer

variable (layer : Layer)

@[simp] theorem visibleFills_shownPart : layer.shownPart.visibleFills = layer.visibleFills := by
  simp [shownPart, visibleFills]

@[simp] theorem visibleStrokes_shownPart :
    layer.shownPart.visibleStrokes = layer.visibleStrokes := by
  simp [shownPart, visibleStrokes]

@[simp] theorem visibleEffects_shownPart :
    layer.shownPart.visibleEffects = layer.visibleEffects := by
  simp [shownPart, visibleEffects]

@[simp] theorem isImageLike_shownPart : layer.shownPart.isImageLike = layer.isImageLike := by
  rw [isImageLike, visibleFills_shownPart]
  rfl

end Layer

namespace Style

variable (layer : Layer) (parent : Option Layer)

@[simp] theorem backgroundFill?_shownPart :
    backgroundFill? layer.shownPart = backgroundFill? layer := by
  rw [backgroundFill?, Layer.visibleFills_shownPart]
  rfl

/-- What is on the layer below is never asked for its paints and effects. -/
theorem positionProperties_shownPart :
    positionProperties layer.shownPart (parent.map Layer.shownPart) =
      positionProperties layer parent := by
  cases parent <;> rfl

theorem declaration_shownPart :
    declaration layer.shownPart (parent.map Layer.shownPart) = declaration layer parent := by
  have background : backgroundProperties layer.shownPart = backgroundProperties layer := by
    rw [backgroundProperties, backgroundFill?_shownPart]
    rfl
  have border : borderProperties layer.shownPart = borderProperties layer := by
    rw [borderProperties, Layer.visibleStrokes_shownPart]
    rfl
  have shadow : shadowProperties layer.shownPart = shadowProperties layer := by
    rw [shadowProperties, Layer.visibleEffects_shownPart]
    rfl
  have type : typeProperties layer.shownPart = typeProperties layer := by
    rw [typeProperties, Layer.visibleFills_shownPart]
    rfl
  rw [declaration, positionProperties_shownPart, background, border, shadow, type]
  rfl

theorem diagnostics_shownPart :
    diagnostics layer.shownPart (parent.map Layer.shownPart) = diagnostics layer parent := by
  have geometry : geometryDiagnostics layer.shownPart (parent.map Layer.shownPart) =
      geometryDiagnostics layer parent := by
    cases parent with
    | none => rfl
    | some outer =>
        have placed : placement layer.shownPart (some outer.shownPart) =
            placement layer (some outer) := rfl
        have offset : offset? layer.shownPart (some outer.shownPart) =
            offset? layer (some outer) := rfl
        unfold geometryDiagnostics
        rw [Option.map_some, placed, offset]
        cases placement layer (some outer) <;> cases offset? layer (some outer) <;> rfl
  have gradient : gradientDiagnostics layer.shownPart = gradientDiagnostics layer := by
    rw [gradientDiagnostics, backgroundFill?_shownPart]
    rfl
  rw [diagnostics, geometry, gradient]
  rfl

end Style

namespace Page

variable {images : ImageMap}

mutual

/-- The tree without what is not drawn. The first layer stays even when it is not
drawn itself. -/
def shownPart (images : ImageMap) : Node → Node
  | ⟨layer, children⟩ =>
    ⟨layer.shownPart, if isOpen images layer then shownPartOfAll images children else []⟩

/-- The shown parts of the trees whose first layers are drawn. -/
def shownPartOfAll (images : ImageMap) : List Node → List Node
  | [] => []
  | node :: nodes =>
    if node.layer.visible then shownPart images node :: shownPartOfAll images nodes
    else shownPartOfAll images nodes

end

theorem reached_shownPart (layer : Layer) (parent : Option Layer) (run : Run) :
    reached layer.shownPart (parent.map Layer.shownPart) run = reached layer parent run := by
  rw [reached, Style.diagnostics_shownPart]
  rfl

theorem entered_shownPart (layer : Layer) (parent : Option Layer) (run : Run) :
    entered layer.shownPart (parent.map Layer.shownPart) run = entered layer parent run := by
  have unresolved : imageDiagnostics layer.shownPart = imageDiagnostics layer := by
    rw [imageDiagnostics, Layer.isImageLike_shownPart]
    rfl
  rw [entered, reached_shownPart, unresolved]
  rfl

mutual

/-- The walk makes the same of a tree and of its shown part. -/
theorem visit_shownPart : (node : Node) → (parent : Option Layer) → (run : Run) →
    visit images (shownPart images node) (parent.map Layer.shownPart) run =
      visit images node parent run
  | ⟨layer, children⟩, parent, run => by
      rw [shownPart]
      cases visible : layer.visible with
      | false =>
          have hidden : layer.shownPart.visible = false := visible
          rw [visit_hidden _ run hidden, visit_hidden children run visible]
      | true =>
          have drawn : layer.shownPart.visible = true := visible
          cases known : images.url? layer.id with
          | some url =>
              have resolved : images.url? layer.shownPart.id = some url := known
              rw [visit_image _ run drawn resolved, visit_image children run visible known,
                reached_shownPart, Style.declaration_shownPart]
              rfl
          | none =>
              have unknown : images.url? layer.shownPart.id = none := known
              have opened : isOpen images layer = true := by
                simp [isOpen, visible, known]
              have below := visitAll_shownPartOfAll children layer (entered layer parent run)
              rw [if_pos opened, visit_element _ run drawn unknown,
                visit_element children run visible known, entered_shownPart, below,
                Style.declaration_shownPart]
              rfl

/-- Nodes that are not drawn leave no trace between those that are. -/
theorem visitAll_shownPartOfAll : (nodes : List Node) → (below : Layer) → (run : Run) →
    visitAll images (shownPartOfAll images nodes) below.shownPart run =
      visitAll images nodes below run
  | [], _, _ => rfl
  | ⟨layer, children⟩ :: nodes, below, run => by
      cases visible : layer.visible with
      | false =>
          rw [shownPartOfAll, if_neg (by simp [visible]), visitAll_cons, visit_hidden children run visible,
            visitAll_shownPartOfAll nodes below run]
          rfl
      | true =>
          have first := visit_shownPart ⟨layer, children⟩ (some below) run
          rw [Option.map_some] at first
          rw [shownPartOfAll, if_pos visible, visitAll_cons, visitAll_cons, first,
            visitAll_shownPartOfAll nodes below _]

end

theorem layer_shownPart (node : Node) :
    (shownPart images node).layer = node.layer.shownPart := by
  rcases node with ⟨layer, children⟩
  rw [shownPart]

/-- A tree and its shown part have the same page. -/
theorem ofNode_shownPart (images : ImageMap) (root : Node) :
    ofNode images (shownPart images root) = ofNode images root := by
  have sameWalk : visit images (shownPart images root) none Run.start =
      visit images root none Run.start := visit_shownPart root none Run.start
  have sameTitle : (shownPart images root).layer.name = root.layer.name := by
    rw [layer_shownPart]
    rfl
  rw [ofNode, ofNode, sameWalk, sameTitle]

/-- What is hidden does not show.  Two trees with the same shown part have the same
document under all options, character for character, and the same findings in the
same order. -/
theorem render_eq_of_shownPart_eq (images : ImageMap) (options : PageOptions)
    {first second : Node} (same : shownPart images first = shownPart images second) :
    (ofNode images first).render options = (ofNode images second).render options ∧
      (ofNode images first).diagnostics = (ofNode images second).diagnostics := by
  have samePage : ofNode images first = ofNode images second := by
    calc ofNode images first
      _ = ofNode images (shownPart images first) := (ofNode_shownPart images first).symm
      _ = ofNode images (shownPart images second) := by rw [same]
      _ = ofNode images second := ofNode_shownPart images second
  rw [samePage]
  exact ⟨rfl, rfl⟩

/-! ## A card -/

/-- A card with a title and an icon. -/
def card : Node :=
  ((Node.ofShape "0" "Card" .frame).withFills [Paint.ofKind .gradientLinear]).withChildren [
    Node.ofShape "2" "Icon" .vector,
    Node.ofShape "4" "Title" .text]

/-- The same card with a photograph that is switched off in front of its background,
a panel of notes that is not drawn, and an outline on its icon. -/
def cardWithNotes : Node :=
  ((Node.ofShape "0" "Card" .frame).withFills
      [Paint.ofKind .gradientLinear, (Paint.ofKind .image).hidden]).withChildren [
    ((Node.ofShape "1" "Notes" .frame).withChildren [Node.ofShape "5" "Draft" .text]).hidden,
    (Node.ofShape "2" "Icon" .vector).withChildren [Node.ofShape "3" "Outline" .line],
    Node.ofShape "4" "Title" .text]

def cardImages : ImageMap :=
  [("2", "icon.png")]

/-- The notes on the card do not show. -/
theorem render_cardWithNotes :
    shownPart cardImages cardWithNotes = shownPart cardImages card ∧
      cardWithNotes.children.length ≠ card.children.length ∧
      (ofNode cardImages cardWithNotes).render .standard =
        (ofNode cardImages card).render .standard ∧
      (ofNode cardImages cardWithNotes).diagnostics = (ofNode cardImages card).diagnostics := by
  have same : shownPart cardImages cardWithNotes = shownPart cardImages card := by rfl
  exact ⟨same, by decide, render_eq_of_shownPart_eq cardImages .standard same⟩

end Page
end Artboard
