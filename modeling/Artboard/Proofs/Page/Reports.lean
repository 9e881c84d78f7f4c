import Artboard.Proofs.Page.Findings

/-!
# What a page reports

Three things can be wrong with a layer at a visited place.  It needs an offset that
cannot be worked out, its background is a gradient that cannot be written, or it has
to be an image and there is none.  Each is a condition on the layer, the layer below
and the image map, told here without the style that the walk makes of them.  A page
reports these conditions and nothing else: place by place in preorder, in this order
at each place, each condition that holds once.
-/

namespace Artboard
namespace Page

open Node (TreePlace)

/-- The layer below lays this one out. -/
def IsFlowChild (layer outer : Layer) : Prop :=
  outer.hasAutoLayout = true ∧ layer.positioning ≠ some .absolute

/-- The layer is placed by an offset, and one end of the offset is not known. -/
def LacksGeometry (layer outer : Layer) : Prop :=
  ¬IsFlowChild layer outer ∧ (layer.bounds = none ∨ outer.bounds = none)

/-- The fill in front is a linear gradient with too few handles or no stops. The fills
of a text are not its background. -/
def HasMalformedGradient (layer : Layer) : Prop :=
  layer.shape ≠ .text ∧ ∃ fill ∈ layer.visibleFills.getLast?,
    fill.kind = .gradientLinear ∧ (fill.handles.length < 2 ∨ fill.stops = [])

/-- Only an image can show the layer, and none is known. -/
def LacksImage (images : ImageMap) (layer : Layer) : Prop :=
  images.url? layer.id = none ∧ layer.isImageLike = true

instance (layer outer : Layer) : Decidable (LacksGeometry layer outer) :=
  inferInstanceAs (Decidable (¬(_ ∧ _) ∧ (_ ∨ _)))

instance (layer : Layer) : Decidable (HasMalformedGradient layer) :=
  inferInstanceAs (Decidable (_ ∧ ∃ fill ∈ layer.visibleFills.getLast?, _ ∧ (_ ∨ _)))

instance (images : ImageMap) (layer : Layer) : Decidable (LacksImage images layer) :=
  inferInstanceAs (Decidable (_ ∧ _))

/-- The report on the geometry of a layer; the root of a page needs none. -/
def geometryReports (layer : Layer) : Option Layer → List Diagnostic
  | none => []
  | some outer =>
    if LacksGeometry layer outer then [.missingGeometry layer.id layer.name outer.name] else []

def gradientReports (layer : Layer) : List Diagnostic :=
  if HasMalformedGradient layer then [.malformedGradient layer.id layer.name] else []

def imageReports (images : ImageMap) (layer : Layer) : List Diagnostic :=
  if LacksImage images layer then [.unresolvedImage layer.id layer.name] else []

/-- What is reported on a place. -/
def reports (images : ImageMap) (place : TreePlace) : List Diagnostic :=
  geometryReports place.layer place.parent ++ gradientReports place.layer ++
    imageReports images place.layer

/-! ## Findings and reports agree -/

theorem placement_eq_absolute_iff (layer outer : Layer) :
    Style.placement layer (some outer) = .absolute ↔ ¬IsFlowChild layer outer := by
  rw [Style.placement, IsFlowChild]
  cases outer.hasAutoLayout <;> by_cases absolute : layer.positioning = some .absolute <;>
    simp [absolute]

theorem offset?_eq_none_iff (layer outer : Layer) :
    Style.offset? layer (some outer) = none ↔ layer.bounds = none ∨ outer.bounds = none := by
  cases own : layer.bounds <;> cases other : outer.bounds <;>
    simp [Style.offset?, own, other]

theorem geometryDiagnostics_eq (layer : Layer) (parent : Option Layer) :
    Style.geometryDiagnostics layer parent = geometryReports layer parent := by
  cases parent with
  | none => simp [Style.geometryDiagnostics, geometryReports, Style.placement]
  | some outer =>
      have needed := placement_eq_absolute_iff layer outer
      have unknown := offset?_eq_none_iff layer outer
      unfold Style.geometryDiagnostics
      by_cases lacks : LacksGeometry layer outer
      · rw [geometryReports, if_pos lacks, needed.mpr lacks.1, unknown.mpr lacks.2]
      · rw [geometryReports, if_neg lacks]
        split
        · next absolute parentIs missing =>
            cases parentIs
            exact absurd ⟨needed.mp absolute, unknown.mp missing⟩ lacks
        · rfl

/-- A linear gradient cannot be written exactly when handles or stops are missing. -/
theorem ofPaint?_eq_none_iff {fill : Paint} (linear : fill.kind = .gradientLinear) :
    Style.Gradient.ofPaint? fill = none ↔ fill.handles.length < 2 ∨ fill.stops = [] := by
  rw [Style.Gradient.ofPaint?, linear]
  rcases fill.stops with _ | ⟨stop, stops⟩ <;>
    rcases fill.handles with _ | ⟨start, _ | ⟨finish, handles⟩⟩ <;> simp

theorem gradientDiagnostics_eq (layer : Layer) :
    Style.gradientDiagnostics layer = gradientReports layer := by
  rw [Style.gradientDiagnostics, Style.backgroundFill?, gradientReports, Layer.isText]
  by_cases isText : layer.shape = .text
  · simp [isText, HasMalformedGradient]
  · cases front : layer.visibleFills.getLast? with
    | none => simp [isText, HasMalformedGradient, front]
    | some fill =>
        by_cases linear : fill.kind = .gradientLinear
        · have missing := ofPaint?_eq_none_iff linear
          simp [isText, HasMalformedGradient, front, linear, missing]
        · simp [isText, HasMalformedGradient, front, linear]

theorem imageDiagnostics_eq (images : ImageMap) (layer : Layer) :
    (if (images.url? layer.id).isSome then [] else imageDiagnostics layer) =
      imageReports images layer := by
  cases known : images.url? layer.id <;> cases imageLike : layer.isImageLike <;>
    simp [imageDiagnostics, imageReports, LacksImage, known, imageLike]

theorem findings_eq_reports (images : ImageMap) (place : TreePlace) :
    findings images place = reports images place := by
  rw [findings, findingsOn, Style.diagnostics, geometryDiagnostics_eq, gradientDiagnostics_eq,
    imageDiagnostics_eq, reports]

theorem diagnostics_eq_reports (images : ImageMap) (root : Node) :
    (ofNode images root).diagnostics =
      (visited images .preorder root).flatMap (reports images) := by
  rw [diagnostics_ofNode]
  exact congrArg (List.flatMap · _) (funext (findings_eq_reports images))

/-- A page reports exactly what is wrong at its visited places, one place after the other
in preorder and no place twice.  At each place that is a missing offset, then a malformed
gradient, then a missing image.  A place is visited when its layer and all layers below it
are drawn and no layer below it is replaced by an image; whether the place itself is drawn
as an image, or loses its markup to a layer below, makes no difference. -/
theorem diagnostics_exact (images : ImageMap) (root : Node) :
    (ofNode images root).diagnostics =
        (visited images .preorder root).flatMap (reports images) ∧
      ((visited images .preorder root).map TreePlace.path).Nodup ∧
      ∀ place, place ∈ visited images .preorder root ↔
        place ∈ root.places .preorder ∧ place.layer.visible = true ∧
          ∀ below ∈ place.above, below.visible = true ∧ images.url? below.id = none := by
  refine ⟨diagnostics_eq_reports images root, nodup_path_visited images root, ?_⟩
  intro place
  simp [visited, isVisited, isOpen]

end Page
end Artboard
