import Artboard.Page.Document
import Artboard.Proofs.Page.Visited

/-!
# The findings of a walk

What a page reports is what is found at its visited places, one place after the
other in preorder.  At a place the walk looks at its layer and at the layer below
and at nothing else; findings of one place do not depend on what was found before.
-/

namespace Artboard
namespace Page

open Node (TreePlace Order placesFrom placesFromAll)

/-- What is wrong with the style of a layer on the given one, and that it has no
image although it needs one. -/
def findingsOn (images : ImageMap) (layer : Layer) (parent : Option Layer) : List Diagnostic :=
  Style.diagnostics layer parent ++
    if (images.url? layer.id).isSome then [] else imageDiagnostics layer

/-- What the walk reports when it comes to a place. -/
def findings (images : ImageMap) (place : TreePlace) : List Diagnostic :=
  findingsOn images place.layer place.parent

variable {images : ImageMap}

theorem diagnostics_reached {layer : Layer} {url : String} (parent : Option Layer) (run : Run)
    (known : images.url? layer.id = some url) :
    (reached layer parent run).diagnostics = run.diagnostics ++ findingsOn images layer parent := by
  simp [reached, findingsOn, known]

theorem diagnostics_entered {layer : Layer} (parent : Option Layer) (run : Run)
    (unknown : images.url? layer.id = none) :
    (entered layer parent run).diagnostics = run.diagnostics ++ findingsOn images layer parent := by
  simp [entered, reached, findingsOn, unknown]

mutual

/-- A walk adds the findings of the visited places in preorder. -/
theorem diagnostics_visitFrom : (node : Node) → (path : List Nat) → (above : List Layer) →
    (run : Run) → above.all (isOpen images) = true →
    (visit images node above.head? run).2.diagnostics =
      run.diagnostics ++
        (visitedFrom images .preorder path above node).flatMap (findings images)
  | ⟨layer, children⟩, path, above, run, opened => by
      cases visible : layer.visible with
      | false => simp [visit_hidden children run visible, visitedFrom_hidden children visible]
      | true =>
          cases known : images.url? layer.id with
          | some url =>
              rw [visit_image children run visible known, Run.diagnostics_register,
                diagnostics_reached _ run known,
                visitedFrom_image children visible known opened, List.flatMap_singleton]
              rfl
          | none =>
              have below := diagnostics_visitAllFrom children path layer above 0
                (entered layer above.head? run) (all_isOpen_cons visible known opened)
              rw [diagnostics_entered _ run known, List.append_assoc] at below
              rw [visit_element children run visible known, Run.diagnostics_register, below,
                visitedFrom_element children visible opened, Order.arrange, List.flatMap_cons]
              rfl

theorem diagnostics_visitAllFrom : (nodes : List Node) → (path : List Nat) → (below : Layer) →
    (above : List Layer) → (index : Nat) → (run : Run) →
    (below :: above).all (isOpen images) = true →
    (visitAll images nodes below run).2.diagnostics =
      run.diagnostics ++
        (visitedFromAll images .preorder path (below :: above) index nodes).flatMap
          (findings images)
  | [], _, _, _, _, run, _ => by
      simp
  | node :: nodes, path, below, above, index, run, opened => by
      have first := diagnostics_visitFrom node (path ++ [index]) (below :: above) run opened
      have others := diagnostics_visitAllFrom nodes path below above (index + 1)
        (visit images node (some below) run).2 opened
      rw [List.head?_cons] at first
      rw [visitAll_cons, others, first, visitedFromAll_cons, List.flatMap_append,
        List.append_assoc]

end

theorem diagnostics_ofNode (images : ImageMap) (root : Node) :
    (ofNode images root).diagnostics =
      (visited images .preorder root).flatMap (findings images) :=
  diagnostics_visitFrom root [] [] Run.start rfl

end Page
end Artboard
