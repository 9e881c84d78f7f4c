import Artboard.Page.Document
import Artboard.Proofs.Page.Walk

/-!
# What a layer says in its context

Design files carry values that nothing reads where they stand: the alignment and the paddings
of a layer that does not lay out what lies on it, a placement on a layer that lays out nothing,
characters on a layer that is not a text, the weight of an outline without a colour.  Other
values, like the opacity of a paint, are not read anywhere.  The effective part of a tree is
what is left without them.

Whether a value counts depends on the layer itself and on whether the layer below lays it out,
and the effective part of a layer says both just as the layer does.  So the walk makes the same
of a tree and of its effective part, step for step.
-/

namespace Artboard

/-! ## Effective parts -/

/-- The paint without what no paint shows. -/
def Paint.effective (paint : Paint) : Paint :=
  { paint with
    opacity := none
    scaleMode := none
    imageRef := none }

/-- The setting without what no text shows. -/
def TypeStyle.effective (setting : TypeStyle) : TypeStyle :=
  { setting with
    fontPostScriptName := none
    alignVertical := none
    lineHeightPercent := none
    lineHeightUnit := none
    italic := none }

namespace Layer

/-- Whether the first stroke that is drawn is one flat colour. -/
def hasFlatStroke (layer : Layer) : Bool :=
  layer.visibleStrokes.head?.any fun stroke => stroke.kind == .solid && stroke.color.isSome

/-- The layer without what it says in vain where it is; `isLaidOut` says whether it lies on a
layer that lays out what lies on it. -/
def effective (isLaidOut : Bool) (layer : Layer) : Layer :=
  { layer with
    fills := layer.fills.map Paint.effective
    strokes := layer.strokes.map Paint.effective
    strokeWeight := if layer.hasFlatStroke then layer.strokeWeight else none
    characters := if layer.isText then layer.characters else none
    textStyle := if layer.isText then layer.textStyle.map TypeStyle.effective else none
    layoutMode := if layer.hasAutoLayout then layer.layoutMode else none
    primaryAlign := if layer.hasAutoLayout then layer.primaryAlign else none
    counterAlign := if layer.hasAutoLayout then layer.counterAlign else none
    padding := if layer.hasAutoLayout then layer.padding else ⟨none, none, none, none⟩
    itemSpacing := if layer.hasAutoLayout then layer.itemSpacing else none
    positioning := if isLaidOut then layer.positioning else none
    opacity := none }

end Layer

namespace Node

mutual

/-- The tree without what its layers say in vain. -/
def effective (isLaidOut : Bool) : Node → Node
  | ⟨layer, children⟩ =>
    ⟨layer.effective isLaidOut, effectiveOfAll layer.hasAutoLayout children⟩

def effectiveOfAll (isLaidOut : Bool) : List Node → List Node
  | [] => []
  | node :: nodes => effective isLaidOut node :: effectiveOfAll isLaidOut nodes

end

end Node

/-! ## What the effective part of a layer says -/

namespace Layer

variable (isLaidOut : Bool) (layer : Layer)

theorem filter_map_effective (paints : List Paint) :
    (paints.map Paint.effective).filter (·.visible) =
      (paints.filter (·.visible)).map Paint.effective :=
  List.filter_map ..

@[simp] theorem visibleFills_effective :
    (layer.effective isLaidOut).visibleFills = layer.visibleFills.map Paint.effective :=
  filter_map_effective layer.fills

@[simp] theorem visibleStrokes_effective :
    (layer.effective isLaidOut).visibleStrokes = layer.visibleStrokes.map Paint.effective :=
  filter_map_effective layer.strokes

@[simp] theorem hasAutoLayout_effective :
    (layer.effective isLaidOut).hasAutoLayout = layer.hasAutoLayout := by
  cases flows : layer.hasAutoLayout with
  | true =>
      have kept : (layer.effective isLaidOut).layoutMode = layer.layoutMode := if_pos flows
      rw [hasAutoLayout, kept, ← hasAutoLayout, flows]
  | false =>
      have lost : (layer.effective isLaidOut).layoutMode = none := by
        simp [effective, flows]
      rw [hasAutoLayout, lost]

@[simp] theorem isImageLike_effective :
    (layer.effective isLaidOut).isImageLike = layer.isImageLike := by
  rw [isImageLike, visibleFills_effective, List.any_map]
  rfl

end Layer

namespace Style

variable (isLaidOut : Bool) (layer : Layer)

theorem flexProperties_effective :
    flexProperties (layer.effective isLaidOut) = flexProperties layer := by
  rw [flexProperties, flexProperties, Layer.hasAutoLayout_effective]
  cases flows : layer.hasAutoLayout with
  | false => rfl
  | true => simp only [Layer.effective, flows, if_true]

/-- Whether there is a layer below that lays out what lies on it. -/
def laysOut (parent : Option Layer) : Bool :=
  parent.any Layer.hasAutoLayout

variable (parent : Option Layer)

theorem placement_effective :
    placement (layer.effective (laysOut parent)) (parent.map (Layer.effective isLaidOut)) =
      placement layer parent := by
  cases parent with
  | none => rfl
  | some outer =>
      rw [Option.map_some, placement, placement, Layer.hasAutoLayout_effective]
      cases flows : outer.hasAutoLayout with
      | false => rfl
      | true => simp [Layer.effective, laysOut, flows]

theorem offset?_effective (isOnLaidOut : Bool) :
    offset? (layer.effective isOnLaidOut) (parent.map (Layer.effective isLaidOut)) =
      offset? layer parent := by
  cases parent <;> rfl

theorem positionProperties_effective :
    positionProperties (layer.effective (laysOut parent)) (parent.map (Layer.effective isLaidOut)) =
      positionProperties layer parent := by
  rw [positionProperties, placement_effective, offset?_effective, ← positionProperties]

theorem backgroundFill?_effective :
    backgroundFill? (layer.effective isLaidOut) = (backgroundFill? layer).map Paint.effective := by
  rw [backgroundFill?, backgroundFill?, Layer.visibleFills_effective, List.getLast?_map]
  change (if layer.isText = true then none else _) = _
  split <;> rfl

theorem backgroundProperties_effective :
    backgroundProperties (layer.effective isLaidOut) = backgroundProperties layer := by
  rw [backgroundProperties, backgroundProperties, backgroundFill?_effective]
  cases backgroundFill? layer <;> rfl

theorem solidColor?_eq_none_iff {paint : Paint} :
    solidColor? paint = none ↔ (paint.kind == .solid && paint.color.isSome) = false := by
  rw [solidColor?]
  cases paint.kind <;> simp

theorem borderProperties_of_not_hasFlatStroke {layer : Layer}
    (colorless : layer.hasFlatStroke = false) : borderProperties layer = [] := by
  rw [borderProperties]
  cases nonZero layer.strokeWeight with
  | none => rfl
  | some weight =>
      cases first : layer.visibleStrokes.head? with
      | none => rfl
      | some stroke =>
          rw [Layer.hasFlatStroke, first, Option.any_some] at colorless
          simp [solidColor?_eq_none_iff.mpr colorless, optional]

/-- The weight of an outline counts only with a colour. -/
theorem borderProperties_effective :
    borderProperties (layer.effective isLaidOut) = borderProperties layer := by
  have sameStroke : (layer.effective isLaidOut).hasFlatStroke = layer.hasFlatStroke := by
    rw [Layer.hasFlatStroke, Layer.visibleStrokes_effective, List.head?_map, Option.any_map]
    rfl
  cases flat : layer.hasFlatStroke with
  | false =>
      rw [flat] at sameStroke
      rw [borderProperties_of_not_hasFlatStroke flat,
        borderProperties_of_not_hasFlatStroke sameStroke]
  | true =>
      have sameWeight : (layer.effective isLaidOut).strokeWeight = layer.strokeWeight :=
        if_pos flat
      rw [borderProperties, borderProperties, sameWeight, Layer.visibleStrokes_effective,
        List.head?_map]
      cases layer.visibleStrokes.head? <;> rfl

theorem shownTextStyle?_effective :
    shownTextStyle? (layer.effective isLaidOut) =
      (shownTextStyle? layer).map TypeStyle.effective := by
  rw [shownTextStyle?, shownTextStyle?]
  change (if layer.isText = true then
    (if layer.isText = true then layer.textStyle.map TypeStyle.effective else none) else none) = _
  cases layer.isText <;> rfl

theorem typeProperties_effective :
    typeProperties (layer.effective isLaidOut) = typeProperties layer := by
  rw [typeProperties, typeProperties, shownTextStyle?_effective, Layer.visibleFills_effective,
    List.head?_map]
  cases shownTextStyle? layer with
  | none => rfl
  | some setting => cases layer.visibleFills.head? <;> rfl

theorem declaration_effective :
    declaration (layer.effective (laysOut parent)) (parent.map (Layer.effective isLaidOut)) =
      declaration layer parent := by
  rw [declaration, flexProperties_effective, positionProperties_effective,
    backgroundProperties_effective, borderProperties_effective, typeProperties_effective]
  rfl

theorem geometryDiagnostics_effective :
    geometryDiagnostics (layer.effective (laysOut parent))
        (parent.map (Layer.effective isLaidOut)) =
      geometryDiagnostics layer parent := by
  cases parent with
  | none => rfl
  | some outer =>
      have placed := placement_effective isLaidOut layer (some outer)
      have offset := offset?_effective isLaidOut layer (some outer) (laysOut (some outer))
      rw [Option.map_some] at placed offset
      unfold geometryDiagnostics
      rw [Option.map_some, placed, offset]
      cases placement layer (some outer) <;> cases offset? layer (some outer) <;> rfl

theorem gradientDiagnostics_effective :
    gradientDiagnostics (layer.effective isLaidOut) = gradientDiagnostics layer := by
  rw [gradientDiagnostics, gradientDiagnostics, backgroundFill?_effective]
  cases backgroundFill? layer <;> rfl

theorem diagnostics_effective :
    diagnostics (layer.effective (laysOut parent)) (parent.map (Layer.effective isLaidOut)) =
      diagnostics layer parent := by
  rw [diagnostics, geometryDiagnostics_effective, gradientDiagnostics_effective, ← diagnostics]

theorem fontFamily?_effective : fontFamily? (layer.effective isLaidOut) = fontFamily? layer := by
  rw [fontFamily?, fontFamily?, shownTextStyle?_effective, Option.map_map]
  rfl

end Style

/-! ## The walk -/

theorem Markup.Element.ofLayer_effective (isLaidOut : Bool) (layer : Layer) :
    Markup.Element.ofLayer (layer.effective isLaidOut) = Markup.Element.ofLayer layer := by
  have sameText : ownText layer.shape (layer.effective isLaidOut).characters =
      ownText layer.shape layer.characters := by
    change ownText layer.shape (if layer.isText = true then layer.characters else none) = _
    rw [Layer.isText]
    cases layer.shape <;> rfl
  change ofLowerName (Text.lowercase layer.name.toList) layer.shape
      (layer.effective isLaidOut).characters = _
  rw [ofLowerName, sameText, ← ofLowerName, ofLayer]

namespace Page

variable {images : ImageMap} (isLaidOut : Bool) (layer : Layer) (parent : Option Layer)

theorem contentOf_effective (children : List Markup.Tree) :
    contentOf (layer.effective isLaidOut) children = contentOf layer children := by
  have sameShape : (layer.effective isLaidOut).shape = layer.shape := rfl
  have kept : (layer.effective isLaidOut).characters =
      if layer.isText = true then layer.characters else none := rfl
  rw [contentOf, contentOf, sameShape, kept, Layer.isText]
  cases layer.shape <;> rfl

theorem elementTree_effective (className : String) (children : List Markup.Tree) :
    elementTree (layer.effective isLaidOut) className children =
      elementTree layer className children := by
  rw [elementTree, elementTree, Markup.Element.ofLayer_effective, contentOf_effective]

theorem reached_effective (run : Run) :
    reached (layer.effective (Style.laysOut parent)) (parent.map (Layer.effective isLaidOut)) run =
      reached layer parent run := by
  rw [reached, Style.diagnostics_effective, ← reached]

theorem entered_effective (run : Run) :
    entered (layer.effective (Style.laysOut parent)) (parent.map (Layer.effective isLaidOut)) run =
      entered layer parent run := by
  have unresolved : imageDiagnostics (layer.effective (Style.laysOut parent)) =
      imageDiagnostics layer := by
    rw [imageDiagnostics, Layer.isImageLike_effective]
    rfl
  rw [entered, reached_effective, unresolved, Style.fontFamily?_effective, ← entered]

mutual

/-- The walk makes the same of a tree and of its effective part. What `isLaidOut` says of the
layer below makes no difference to the layers on it. -/
theorem visit_effective : (node : Node) → (parent : Option Layer) → (isLaidOut : Bool) →
    (run : Run) →
    visit images (node.effective (Style.laysOut parent)) (parent.map (Layer.effective isLaidOut))
        run =
      visit images node parent run
  | ⟨layer, children⟩, parent, isLaidOut, run => by
      rw [Node.effective]
      cases visible : layer.visible with
      | false =>
          have hidden : (layer.effective (Style.laysOut parent)).visible = false := visible
          rw [visit_hidden _ run hidden, visit_hidden children run visible]
      | true =>
          have drawn : (layer.effective (Style.laysOut parent)).visible = true := visible
          cases known : images.url? layer.id with
          | some url =>
              have resolved : images.url? (layer.effective (Style.laysOut parent)).id = some url :=
                known
              rw [visit_image _ run drawn resolved, visit_image children run visible known,
                reached_effective, Style.declaration_effective]
              rfl
          | none =>
              have unknown : images.url? (layer.effective (Style.laysOut parent)).id = none :=
                known
              have below := visitAll_effective children layer (Style.laysOut parent)
                (entered layer parent run)
              rw [visit_element _ run drawn unknown, visit_element children run visible known,
                entered_effective, below, elementTree_effective, Style.declaration_effective]
              rfl

theorem visitAll_effective : (nodes : List Node) → (below : Layer) → (isLaidOut : Bool) →
    (run : Run) →
    visitAll images (Node.effectiveOfAll below.hasAutoLayout nodes) (below.effective isLaidOut)
        run =
      visitAll images nodes below run
  | [], _, _, _ => rfl
  | node :: nodes, below, isLaidOut, run => by
      have first := visit_effective node (some below) isLaidOut run
      rw [Option.map_some] at first
      change visit images (node.effective below.hasAutoLayout) _ run = _ at first
      rw [Node.effectiveOfAll, visitAll_cons, visitAll_cons, first,
        visitAll_effective nodes below isLaidOut _]

end

theorem layer_effective (isLaidOut : Bool) (node : Node) :
    (node.effective isLaidOut).layer = node.layer.effective isLaidOut := by
  rcases node with ⟨layer, children⟩
  rw [Node.effective]

/-- A tree and its effective part have the same page. -/
theorem ofNode_effective (images : ImageMap) (root : Node) :
    ofNode images (root.effective false) = ofNode images root := by
  have sameWalk : visit images (root.effective false) none Run.start =
      visit images root none Run.start := visit_effective root none false Run.start
  have sameTitle : (root.effective false).layer.name = root.layer.name := by
    rw [layer_effective]
    rfl
  rw [ofNode, ofNode, sameWalk, sameTitle]

end Page

namespace Node

mutual

/-- The same images are asked for. -/
theorem imageIds_effective : (node : Node) → (isLaidOut : Bool) →
    (node.effective isLaidOut).imageIds = node.imageIds
  | ⟨layer, children⟩, isLaidOut => by
      rw [effective, imageIds, imageIds, Layer.isImageLike_effective,
        imageIdsOfAll_effective children layer.hasAutoLayout]
      rfl

theorem imageIdsOfAll_effective : (nodes : List Node) → (isLaidOut : Bool) →
    imageIdsOfAll (effectiveOfAll isLaidOut nodes) = imageIdsOfAll nodes
  | [], _ => rfl
  | node :: nodes, isLaidOut => by
      rw [effectiveOfAll, imageIdsOfAll, imageIdsOfAll, imageIds_effective node isLaidOut,
        imageIdsOfAll_effective nodes isLaidOut]

end

end Node

namespace Page

/-- Nothing that a layer says in vain where it is can be seen.  Two trees with the same
effective part have the same document under all options, character for character, and the same
findings in the same order, and the same images are asked for. -/
theorem render_eq_of_effective_eq (images : ImageMap) (options : PageOptions)
    {first second : Node} (same : first.effective false = second.effective false) :
    (ofNode images first).render options = (ofNode images second).render options ∧
      (ofNode images first).diagnostics = (ofNode images second).diagnostics ∧
      first.imageIds = second.imageIds := by
  have samePage : ofNode images first = ofNode images second := by
    calc ofNode images first
      _ = ofNode images (first.effective false) := (ofNode_effective images first).symm
      _ = ofNode images (second.effective false) := by rw [same]
      _ = ofNode images second := ofNode_effective images second
  have sameIds : first.imageIds = second.imageIds := by
    calc first.imageIds
      _ = (first.effective false).imageIds := (Node.imageIds_effective first false).symm
      _ = (second.effective false).imageIds := by rw [same]
      _ = second.imageIds := Node.imageIds_effective second false
  rw [samePage]
  exact ⟨rfl, rfl, sameIds⟩

/-! ## A poster -/

/-- What is left over in a layer from an earlier design. -/
structure Leftover where
  mode : Option LayoutMode
  align : AxisAlign
  space : Float
  positioning : Positioning
  characters : String
  unit : String

def Leftover.paint (leftover : Leftover) (paint : Paint) : Paint :=
  { paint with
    opacity := some leftover.space
    imageRef := some leftover.characters }

/-- A poster with a headline and a row of two badges, the second of which is not laid out. The
poster lays out nothing, and the headline and the row do not lie on a layer that does. -/
def poster (leftover : Leftover) : Node :=
  let frame := (Node.ofShape "0" "Poster" .frame).layer
  let headline := (Node.ofShape "1" "Headline" .text).layer
  let row := (Node.ofShape "2" "Row" .frame).layer
  let badge := (Node.ofShape "3" "Badge" .ellipse).layer
  let setting := TypeStyle.ofFamily "Inter" 24
  let space := some leftover.space
  { layer := { frame with
      fills := [leftover.paint (Paint.solid ⟨1, 1, 1, 1⟩)]
      strokes := [Paint.ofKind .gradientLinear]
      strokeWeight := space
      characters := some leftover.characters
      textStyle := some (TypeStyle.ofFamily leftover.characters leftover.space)
      layoutMode := leftover.mode
      primaryAlign := some leftover.align
      counterAlign := some leftover.align
      padding := ⟨space, space, space, space⟩
      itemSpacing := space
      positioning := some leftover.positioning
      opacity := space }
    children := [
      { layer := { headline with
          characters := some "Today"
          textStyle := some { setting with lineHeightUnit := some leftover.unit }
          positioning := some leftover.positioning }
        children := [] },
      { layer := { row with
          layoutMode := some .horizontal
          itemSpacing := some 8
          positioning := some leftover.positioning }
        children := [
          ⟨{ badge with itemSpacing := space }, []⟩,
          ⟨{ badge with id := "4", positioning := some .absolute }, []⟩] }] }

/-- What is left over in the poster does not show. -/
theorem render_poster :
    let first := poster ⟨none, .center, 16, .auto, "Yesterday", "PIXELS"⟩
    let second := poster ⟨some .none, .max, 0.5, .absolute, "Draft", "FONT_SIZE_%"⟩
    first.effective false = second.effective false ∧
      first.layer.characters ≠ second.layer.characters ∧
      (ofNode [] first).render .standard = (ofNode [] second).render .standard ∧
      (ofNode [] first).diagnostics = (ofNode [] second).diagnostics ∧
      first.imageIds = second.imageIds := by
  intro first second
  have same : first.effective false = second.effective false := rfl
  exact ⟨same, by decide, render_eq_of_effective_eq [] .standard same⟩

end Page

end Artboard
