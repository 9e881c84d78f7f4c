import Artboard.Page.Document
import Artboard.Proofs.Design.Edit
import Artboard.Proofs.Page.Reports
import Artboard.Proofs.Page.Walk
import Artboard.Proofs.Style.Number

/-!
# Where bounds lie

A page does not show where the bounds of a layer lie.  It shows how far a layer lies from
the one below, and that only where the offset places it: not for the first layer of a
design, and not for a layer that the one below lays out.  So two designs that differ in
nothing but the corners of their bounds have the same page if those offsets are the same.
In particular a whole design may be moved, as long as moving it does not change the
differences of the rounded coordinates.
-/

namespace Artboard

/-! ## Equal numbers -/

/-- Two doubles have the same value if they are equal, where zero is equal to negative
zero, or if both are not a number. -/
def SameValue (first second : Float) : Prop :=
  (first == second) = true ∨ first.isNaN = true ∧ second.isNaN = true

instance (layer outer : Layer) : Decidable (Page.IsFlowChild layer outer) :=
  inferInstanceAs (Decidable (_ ∧ _))

instance (first second : Float) : Decidable (SameValue first second) :=
  inferInstanceAs (Decidable (_ ∨ _))

/-- The sign of zero is not written. -/
theorem Style.number_eq {first second : Float} (same : SameValue first second) :
    Style.number first = Style.number second := by
  rcases same with equal | ⟨firstNaN, secondNaN⟩
  · rcases Decimal.magnitude_eq_of_beq equal with ⟨magnitudes, signs⟩
    exact number_congr magnitudes signs
  · rcases Decimal.magnitude_of_isNaN firstNaN with ⟨first, noSign⟩
    rcases Decimal.magnitude_of_isNaN secondNaN with ⟨second, otherNoSign⟩
    exact number_congr (first.trans second.symm) (Or.inl (noSign.trans otherNoSign.symm))

/-! ## Layers without coordinates -/

/-- The rectangle of the same size at the origin. -/
def Rect.atOrigin (rect : Rect) : Rect :=
  { rect with x := 0.0, y := 0.0 }

/-- The layer as if its bounds began at the origin, if it has any. -/
def Layer.atOrigin (layer : Layer) : Layer :=
  { layer with bounds := layer.bounds.map Rect.atOrigin }

/-- What does not look at coordinates is the same for layers that differ in these only. -/
theorem Layer.eq_of_atOrigin_eq {α : Type} (look : Layer → α)
    (blind : ∀ layer : Layer, look layer.atOrigin = look layer) {first second : Layer}
    (same : first.atOrigin = second.atOrigin) : look first = look second := by
  rw [← blind first, same, blind second]

def Node.toOrigin : Node.Edit :=
  fun _ => Layer.atOrigin

/-- The tree as if all bounds began at the origin. -/
def Node.atOrigin (root : Node) : Node :=
  root.edited toOrigin

namespace Page

open Node (TreePlace)

/-- If a layer is placed by its offset from the one below and the other layer likewise,
and if all their bounds are known, the two offsets have the same values. -/
def SameOffset (layer outer otherLayer otherOuter : Layer) : Prop :=
  ¬IsFlowChild layer outer →
    ∀ own ∈ layer.bounds, ∀ below ∈ outer.bounds,
      ∀ otherOwn ∈ otherLayer.bounds, ∀ otherBelow ∈ otherOuter.bounds,
        SameValue (own.x - below.x) (otherOwn.x - otherBelow.x) ∧
          SameValue (own.y - below.y) (otherOwn.y - otherBelow.y)

/-- The layers at two places have the same offset from the layers below them, if there
are any. -/
def SameOffsetAt (place other : TreePlace) : Prop :=
  ∀ outer ∈ place.parent, ∀ otherOuter ∈ other.parent,
    SameOffset place.layer outer other.layer otherOuter

instance (layer outer otherLayer otherOuter : Layer) :
    Decidable (SameOffset layer outer otherLayer otherOuter) :=
  inferInstanceAs (Decidable (_ → ∀ own ∈ layer.bounds, ∀ below ∈ outer.bounds,
    ∀ otherOwn ∈ otherLayer.bounds, ∀ otherBelow ∈ otherOuter.bounds, _ ∧ _))

instance (place other : TreePlace) : Decidable (SameOffsetAt place other) :=
  inferInstanceAs (Decidable (∀ outer ∈ place.parent, ∀ otherOuter ∈ other.parent, _))

/-- Layers at the same path have the same offsets. -/
def SameOffsets (places others : List TreePlace) : Prop :=
  ∀ place ∈ places, ∀ other ∈ others, place.path = other.path → SameOffsetAt place other

instance (places others : List TreePlace) : Decidable (SameOffsets places others) :=
  inferInstanceAs (Decidable (∀ place ∈ places, ∀ other ∈ others, _ → _))

theorem SameOffsets.subset {places others morePlaces moreOthers : List TreePlace}
    (same : SameOffsets morePlaces moreOthers) (first : places ⊆ morePlaces)
    (second : others ⊆ moreOthers) : SameOffsets places others :=
  fun place member other otherMember => same place (first member) other (second otherMember)

end Page

namespace Style

variable {layer other : Layer} {parent otherParent : Option Layer}

/-- Two layers that differ in their coordinates only, each on a layer below that differs
in its coordinates only, at the same offset. -/
structure SameButCoordinates (layer other : Layer) (parent otherParent : Option Layer) :
    Prop where
  layers : layer.atOrigin = other.atOrigin
  parents : parent.map Layer.atOrigin = otherParent.map Layer.atOrigin
  offsets : ∀ outer ∈ parent, ∀ otherOuter ∈ otherParent,
    Page.SameOffset layer outer other otherOuter

/-- Bounds that differ in their coordinates only are both there or both missing. -/
theorem bounds_cases (same : layer.atOrigin = other.atOrigin) :
    layer.bounds = none ∧ other.bounds = none ∨
      ∃ own otherOwn, layer.bounds = some own ∧ other.bounds = some otherOwn ∧
        own.width = otherOwn.width ∧ own.height = otherOwn.height := by
  have bounds : layer.bounds.map Rect.atOrigin = other.bounds.map Rect.atOrigin :=
    congrArg Layer.bounds same
  cases first : layer.bounds with
  | none =>
      rw [first, Option.map_none] at bounds
      exact Or.inl ⟨rfl, Option.map_eq_none_iff.mp bounds.symm⟩
  | some own =>
      rw [first, Option.map_some] at bounds
      rcases Option.map_eq_some_iff.mp bounds.symm with ⟨otherOwn, second, sizes⟩
      refine Or.inr ⟨own, otherOwn, rfl, second, ?_, ?_⟩
      · exact (congrArg Rect.width sizes).symm
      · exact (congrArg Rect.height sizes).symm

theorem sizeProperties_eq (same : layer.atOrigin = other.atOrigin) :
    sizeProperties layer = sizeProperties other := by
  rcases bounds_cases same with ⟨first, second⟩ | ⟨own, otherOwn, first, second, width, height⟩
  · rw [sizeProperties, sizeProperties, first, second]
  · rw [sizeProperties, sizeProperties, first, second]
    dsimp only
    rw [width, height]

theorem placement_eq (layers : layer.atOrigin = other.atOrigin)
    (parents : parent.map Layer.atOrigin = otherParent.map Layer.atOrigin) :
    placement layer parent = placement other otherParent := by
  calc placement layer parent
    _ = placement layer.atOrigin (parent.map Layer.atOrigin) := by cases parent <;> rfl
    _ = placement other.atOrigin (otherParent.map Layer.atOrigin) := by rw [layers, parents]
    _ = placement other otherParent := by cases otherParent <;> rfl

/-- Where an offset places the layers, it is unknown for both or has the same values. -/
theorem offset?_cases (same : SameButCoordinates layer other parent otherParent)
    (placed : placement layer parent = .absolute) :
    offset? layer parent = none ∧ offset? other otherParent = none ∨
      ∃ first second, offset? layer parent = some first ∧
        offset? other otherParent = some second ∧
          SameValue first.x second.x ∧ SameValue first.y second.y := by
  have parents := same.parents
  cases parent with
  | none => cases placed
  | some outer =>
      rw [Option.map_some] at parents
      rcases Option.map_eq_some_iff.mp parents.symm with ⟨otherOuter, isParent, outers⟩
      rw [isParent]
      have notFlow := (Page.placement_eq_absolute_iff layer outer).mp placed
      rcases bounds_cases same.layers with ⟨first, second⟩ | ⟨own, otherOwn, first, second, -⟩
      · exact Or.inl (by simp [offset?, first, second])
      · rcases bounds_cases outers.symm with ⟨below, otherBelow⟩ |
          ⟨belowBounds, otherBelowBounds, below, otherBelow, -⟩
        · exact Or.inl (by simp [offset?, first, second, below, otherBelow])
        · refine Or.inr ⟨own.offsetFrom belowBounds, otherOwn.offsetFrom otherBelowBounds, ?_⟩
          have offsets := same.offsets outer rfl otherOuter isParent notFlow own first
            belowBounds below otherOwn second otherBelowBounds otherBelow
          refine ⟨?_, ?_, offsets⟩
          · simp [offset?, first, below]
          · simp [offset?, second, otherBelow]

theorem positionProperties_eq (same : SameButCoordinates layer other parent otherParent) :
    positionProperties layer parent = positionProperties other otherParent := by
  have placed := placement_eq same.layers same.parents
  unfold positionProperties
  rw [← placed]
  cases own : placement layer parent with
  | root => rfl
  | flow => rfl
  | absolute =>
      rcases offset?_cases same own with ⟨first, second⟩ | ⟨one, two, first, second, x, y⟩
      · rw [first, second]
      · rw [first, second]
        dsimp only
        rw [pixels, pixels, number_eq x, number_eq y, ← pixels, ← pixels]

theorem declaration_eq (same : SameButCoordinates layer other parent otherParent) :
    declaration layer parent = declaration other otherParent := by
  have flex : flexProperties layer = flexProperties other :=
    Layer.eq_of_atOrigin_eq flexProperties (fun _ => rfl) same.layers
  have background : backgroundProperties layer = backgroundProperties other :=
    Layer.eq_of_atOrigin_eq backgroundProperties (fun _ => rfl) same.layers
  have border : borderProperties layer = borderProperties other :=
    Layer.eq_of_atOrigin_eq borderProperties (fun _ => rfl) same.layers
  have shadow : shadowProperties layer = shadowProperties other :=
    Layer.eq_of_atOrigin_eq shadowProperties (fun _ => rfl) same.layers
  have type : typeProperties layer = typeProperties other :=
    Layer.eq_of_atOrigin_eq typeProperties (fun _ => rfl) same.layers
  have corner : cornerProperties layer = cornerProperties other :=
    Layer.eq_of_atOrigin_eq cornerProperties (fun _ => rfl) same.layers
  rw [declaration, declaration, positionProperties_eq same, sizeProperties_eq same.layers, flex,
    background, border, shadow, type, corner]

/-- Whether an offset is missing does not depend on coordinates. -/
theorem geometryDiagnostics_atOrigin (layer : Layer) (parent : Option Layer) :
    geometryDiagnostics layer.atOrigin (parent.map Layer.atOrigin) =
      geometryDiagnostics layer parent := by
  rw [Page.geometryDiagnostics_eq, Page.geometryDiagnostics_eq]
  cases parent with
  | none => rfl
  | some outer =>
      have lacks : Page.LacksGeometry layer.atOrigin outer.atOrigin ↔
          Page.LacksGeometry layer outer := by
        simp [Page.LacksGeometry, Page.IsFlowChild, Layer.atOrigin, Layer.hasAutoLayout]
      simp only [Option.map_some, Page.geometryReports, lacks]
      rfl

theorem diagnostics_eq (same : SameButCoordinates layer other parent otherParent) :
    diagnostics layer parent = diagnostics other otherParent := by
  have gradient := Layer.eq_of_atOrigin_eq gradientDiagnostics (fun _ => rfl) same.layers
  have geometry : geometryDiagnostics layer parent = geometryDiagnostics other otherParent := by
    rw [← geometryDiagnostics_atOrigin layer, same.layers, same.parents,
      geometryDiagnostics_atOrigin]
  rw [diagnostics, diagnostics, geometry, gradient]

end Style

namespace Page

open Node (placesFrom placesFromAll editFrom editFromAll toOrigin)

variable {images : ImageMap}

theorem reached_eq {layer other : Layer} {parent otherParent : Option Layer}
    (same : Style.SameButCoordinates layer other parent otherParent) (run : Run) :
    reached layer parent run = reached other otherParent run := by
  rw [reached, reached, Style.diagnostics_eq same]

theorem entered_eq {layer other : Layer} {parent otherParent : Option Layer}
    (same : Style.SameButCoordinates layer other parent otherParent) (run : Run) :
    entered layer parent run = entered other otherParent run := by
  have image := Layer.eq_of_atOrigin_eq imageDiagnostics (fun _ => rfl) same.layers
  have family := Layer.eq_of_atOrigin_eq Style.fontFamily? (fun _ => rfl) same.layers
  rw [entered, entered, reached_eq same, image, family]

mutual

/-- The walk makes the same of two trees that differ in their coordinates only, but not in
their offsets. -/
theorem visit_eq : (first second : Node) → (path : List Nat) → (above otherAbove : List Layer) →
    (run : Run) → editFrom toOrigin path first = editFrom toOrigin path second →
    above.head?.map Layer.atOrigin = otherAbove.head?.map Layer.atOrigin →
    SameOffsets (placesFrom .preorder path above first)
      (placesFrom .preorder path otherAbove second) →
    visit images first above.head? run = visit images second otherAbove.head? run
  | ⟨layer, children⟩, ⟨other, others⟩, path, above, otherAbove, run, sameTree, parents,
      offsets => by
      simp only [editFrom, Node.mk.injEq] at sameTree
      rcases sameTree with ⟨layers, sameChildren⟩
      have same : Style.SameButCoordinates layer other above.head? otherAbove.head? :=
        ⟨layers, parents, offsets ⟨path, above, ⟨layer, children⟩⟩ List.mem_cons_self
          ⟨path, otherAbove, ⟨other, others⟩⟩ List.mem_cons_self rfl⟩
      have id := Layer.eq_of_atOrigin_eq Layer.id (fun _ => rfl) layers
      have name := Layer.eq_of_atOrigin_eq Layer.name (fun _ => rfl) layers
      have shown := Layer.eq_of_atOrigin_eq Layer.visible (fun _ => rfl) layers
      cases visible : other.visible with
      | false =>
          rw [visible] at shown
          rw [visit_hidden children run shown, visit_hidden others run visible]
      | true =>
          rw [visible] at shown
          cases known : images.url? other.id with
          | some url =>
              have knownFirst := known
              rw [← id] at knownFirst
              rw [visit_image children run shown knownFirst, visit_image others run visible known,
                reached_eq same, Style.declaration_eq same, imageTree, imageTree, name]
          | none =>
              have unknown := known
              rw [← id] at unknown
              have element := Layer.eq_of_atOrigin_eq elementTree (fun _ => rfl) layers
              have inside := offsets.subset (List.subset_cons_self _ _)
                (List.subset_cons_self _ _)
              have below := visitAll_eq children others path layer other above otherAbove 0
                (entered layer above.head? run) sameChildren layers inside
              rw [visit_element children run shown unknown, visit_element others run visible known,
                below, entered_eq same, Style.declaration_eq same, name, element]

theorem visitAll_eq : (first second : List Node) → (path : List Nat) →
    (below otherBelow : Layer) → (above otherAbove : List Layer) → (index : Nat) → (run : Run) →
    editFromAll toOrigin path index first = editFromAll toOrigin path index second →
    below.atOrigin = otherBelow.atOrigin →
    SameOffsets (placesFromAll .preorder path (below :: above) index first)
      (placesFromAll .preorder path (otherBelow :: otherAbove) index second) →
    visitAll images first below run = visitAll images second otherBelow run
  | [], [], _, _, _, _, _, _, _, _, _, _ => rfl
  | [], _ :: _, _, _, _, _, _, _, _, sameTrees, _, _ => by
      cases sameTrees
  | _ :: _, [], _, _, _, _, _, _, _, sameTrees, _, _ => by
      cases sameTrees
  | node :: nodes, other :: others, path, below, otherBelow, above, otherAbove, index, run,
      sameTrees, sameBelow, offsets => by
      simp only [editFromAll, List.cons.injEq] at sameTrees
      have inFirst := offsets.subset (List.subset_append_left _ _) (List.subset_append_left _ _)
      have inOthers := offsets.subset (List.subset_append_right _ _)
        (List.subset_append_right _ _)
      have first := visit_eq node other (path ++ [index]) (below :: above)
        (otherBelow :: otherAbove) run sameTrees.1 (congrArg some sameBelow) inFirst
      rw [List.head?_cons, List.head?_cons] at first
      rw [visitAll_cons, visitAll_cons, first]
      rw [visitAll_eq nodes others path below otherBelow above otherAbove (index + 1) _
        sameTrees.2 sameBelow inOthers]

end

theorem ofNode_eq (images : ImageMap) {first second : Node}
    (same : first.atOrigin = second.atOrigin)
    (offsets : SameOffsets (first.places .preorder) (second.places .preorder)) :
    ofNode images first = ofNode images second := by
  have layers : first.layer.atOrigin = second.layer.atOrigin := by
    have tops := congrArg Node.layer same
    rw [Node.atOrigin, Node.atOrigin, Node.edited, Node.edited, Node.layer_editFrom,
      Node.layer_editFrom] at tops
    exact tops
  have sameWalk : visit images first none Run.start = visit images second none Run.start :=
    visit_eq first second [] [] [] Run.start same rfl offsets
  have sameTitle := Layer.eq_of_atOrigin_eq Layer.name (fun _ => rfl) layers
  rw [ofNode, ofNode, sameWalk, sameTitle]

/-- Coordinates show as differences only.  Take two designs that are equal apart from where
their bounds lie.  If each layer that is placed by its offset from the layer below has an
offset of the same value in both, then the two have the same document under all options,
character for character, and the same findings in the same order. -/
theorem render_eq_of_sameOffsets (images : ImageMap) (options : PageOptions)
    {first second : Node} (same : first.atOrigin = second.atOrigin)
    (offsets : SameOffsets (first.places .preorder) (second.places .preorder)) :
    (ofNode images first).render options = (ofNode images second).render options ∧
      (ofNode images first).diagnostics = (ofNode images second).diagnostics := by
  rw [ofNode_eq images same offsets]
  exact ⟨rfl, rfl⟩

end Page

/-! ## Moving a design -/

def Layer.moved (shift : Point) (layer : Layer) : Layer :=
  { layer with
    bounds := layer.bounds.map fun own =>
      { own with x := own.x + shift.x, y := own.y + shift.y } }

namespace Page

open Node (TreePlace toOrigin)

/-- Move all bounds alike. -/
def moveBy (shift : Point) : Node.Edit :=
  fun _ => Layer.moved shift

theorem atOrigin_moved (shift : Point) (layer : Layer) :
    (layer.moved shift).atOrigin = layer.atOrigin := by
  rw [Layer.atOrigin, Layer.moved, Option.map_map]
  rfl

theorem atOrigin_edited_moveBy (shift : Point) (root : Node) :
    (root.edited (moveBy shift)).atOrigin = root.atOrigin := by
  have once : (fun path layer => toOrigin path (moveBy shift path layer)) = toOrigin := by
    funext path layer
    exact atOrigin_moved shift layer
  rw [Node.atOrigin, Node.atOrigin, Node.edited, Node.edited, Node.editFrom_editFrom, once,
    Node.edited]

/-- Places of an edited tree are told from the others by their paths. -/
theorem sameOffsets_edited {edit : Node.Edit} {root : Node}
    (keeps : ∀ place ∈ root.places .preorder, SameOffsetAt place (place.edited edit)) :
    SameOffsets (root.places .preorder) ((root.edited edit).places .preorder) := by
  intro place member other otherMember samePath
  rw [Node.places_edited] at otherMember
  rcases List.mem_map.mp otherMember with ⟨source, sourceMember, isEdited⟩
  have distinct : ((root.places .preorder).map TreePlace.path).Nodup :=
    Node.nodup_path_placesFrom root [] []
  have sameSource : place = source := by
    apply List.inj_on_of_nodup_map distinct member sourceMember
    rw [samePath, ← isEdited, TreePlace.path_edited]
  rw [← isEdited, ← sameSource]
  exact keeps place member

/-- A design may be moved wherever rounding leaves its offsets as they are. -/
theorem render_moved (images : ImageMap) (options : PageOptions) (root : Node) (shift : Point)
    (keeps : ∀ place ∈ root.places .preorder,
      SameOffsetAt place (place.edited (moveBy shift))) :
    (ofNode images (root.edited (moveBy shift))).render options =
        (ofNode images root).render options ∧
      (ofNode images (root.edited (moveBy shift))).diagnostics =
        (ofNode images root).diagnostics := by
  have same := ofNode_eq images (atOrigin_edited_moveBy shift root).symm
    (sameOffsets_edited keeps)
  rw [same]
  exact ⟨rfl, rfl⟩

/-! ## A board -/

/-- A board that lays out a panel, on which a label is placed, and a badge that opts out of
the layout, with the corners of the four. -/
def boardAt (board panel label badge : Point) : Node :=
  let boardNode := (Node.ofShape "0" "Board" .frame).withBounds ⟨board.x, board.y, 300, 200⟩
  let panelNode := (Node.ofShape "1" "Panel" .frame).withBounds ⟨panel.x, panel.y, 80, 40⟩
  let labelNode := (Node.ofShape "2" "Label" .text).withBounds ⟨label.x, label.y, 20, 10⟩
  let badgeNode := (Node.ofShape "3" "Badge" .frame).withBounds ⟨badge.x, badge.y, 16, 16⟩
  (boardNode.withLayout .horizontal).withChildren [
    panelNode.withChildren [labelNode],
    { badgeNode with layer := { badgeNode.layer with positioning := some .absolute } }]

theorem atOrigin_boardAt (board panel label badge : Point) :
    (boardAt board panel label badge).atOrigin = boardAt .zero .zero .zero .zero := rfl

/-- A page does not show where the board is, nor where the panel that it lays out is. -/
theorem render_boardAt :
    let first := boardAt ⟨100, 50⟩ ⟨110, 60⟩ ⟨113, 64.5⟩ ⟨380, 40⟩
    let second := boardAt ⟨0, 0⟩ ⟨500, -7⟩ ⟨503, -2.5⟩ ⟨280, -10⟩
    first.atOrigin = second.atOrigin ∧
      SameOffsets (first.places .preorder) (second.places .preorder) ∧
      (ofNode [] first).render .standard = (ofNode [] second).render .standard ∧
      (ofNode [] first).diagnostics = (ofNode [] second).diagnostics := by
  intro first second
  have same : first.atOrigin = second.atOrigin :=
    (atOrigin_boardAt _ _ _ _).trans (atOrigin_boardAt _ _ _ _).symm
  have offsets : SameOffsets (first.places .preorder) (second.places .preorder) := by
    decide +kernel
  exact ⟨same, offsets, render_eq_of_sameOffsets [] .standard same offsets⟩

end Page

end Artboard
