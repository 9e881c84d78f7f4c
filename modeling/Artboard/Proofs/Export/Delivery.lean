import Artboard.Proofs.Export.Course
import Artboard.Proofs.Export.FileTree

/-!
# The end of an export

An export that comes to no page ends there, with the files untouched.  A page is
delivered: its directory is made, then the page is written, and either may fail.
-/

namespace Artboard
namespace Export

/-- How the delivery of a page ends: before its directory is made, or as the page is
written. -/
inductive Delivered (disk : Disk) (delivery : Delivery) (tree : FileTree) :
    Except ExportError Unit → FileTree → Prop
  | noDirectory {reason : SystemError}
    (failed : (tree.createDirectories disk delivery.directory).1 = .error reason) :
    Delivered disk delivery tree (.error (.write delivery.directory reason))
      (tree.createDirectories disk delivery.directory).2
  | writes {outcome : Except SystemError Unit} {after : FileTree}
    (ready : (tree.createDirectories disk delivery.directory).1 = .ok ())
    (writes : (tree.createDirectories disk delivery.directory).2.Writes disk delivery.path
      (Text.toBytes delivery.content.toList) outcome after) :
    Delivered disk delivery tree (outcome.mapError (.write delivery.path)) after

theorem delivered_deliver (disk : Disk) (delivery : Delivery) (tree : FileTree) :
    Delivered disk delivery tree (deliver disk delivery tree).1
      (deliver disk delivery tree).2 := by
  have noDirectory := @Delivered.noDirectory disk delivery tree
  have writes := @Delivered.writes disk delivery tree
  unfold deliver
  generalize tree.createDirectories disk delivery.directory = created at noDirectory writes ⊢
  rcases created with ⟨reason | ⟨⟩, made⟩
  · exact noDirectory rfl
  · have ends := writes rfl (made.writes_write disk delivery.path delivery.content)
    dsimp only
    generalize made.write disk delivery.path delivery.content = finished at ends ⊢
    rcases finished with ⟨reason | ⟨⟩, after⟩
    · exact ends
    · exact ends

/-- After a delivery the path of the page leads to the page. -/
theorem Delivered.contentAt?_eq {disk : Disk} {delivery : Delivery} {tree after : FileTree}
    {done : Unit} (delivered : Delivered disk delivery tree (.ok done) after) :
    after.contentAt? delivery.path = some (Text.toBytes delivery.content.toList) := by
  generalize came : (.ok done : Except ExportError Unit) = result at delivered
  cases delivered with
  | noDirectory failed => cases came
  | writes ready writes =>
      cases writes with
      | notOpened refused => cases came
      | cutShort opening fault rewritten => cases came
      | written opening faultless rewritten => exact rewritten.contentAt?_eq

variable {service : Service} {settings : Settings} (tree : FileTree) (disk : Disk)

/-- To deliver a page asks for nothing more. -/
theorem requests_run :
    (run service settings tree disk).journal.requests =
      (Attempt.trace service (prepare settings)).2 := by
  unfold run Attempt.trace
  rcases (prepare settings).run.perform service with ⟨error | delivery, journal⟩
  · rfl
  · dsimp only
    rcases deliver disk delivery tree with ⟨_ | _, made⟩ <;> rfl

/-- Without a page the export ends before it touches a file. -/
theorem run_of_error {error : ExportError}
    (came : (Attempt.trace service (prepare settings)).1 = .error error) :
    (run service settings tree disk).result = .error error ∧
      (run service settings tree disk).files = tree := by
  unfold Attempt.trace at came
  unfold run
  generalize (prepare settings).run.perform service = performed at came ⊢
  rcases performed with ⟨other | delivery, journal⟩
  · cases came
    exact ⟨rfl, rfl⟩
  · cases came

/-- A page is delivered. -/
theorem run_of_ok {delivery : Delivery}
    (came : (Attempt.trace service (prepare settings)).1 = .ok delivery) :
    (run service settings tree disk).result =
        (deliver disk delivery tree).1.map (fun _ => delivery.path) ∧
      (run service settings tree disk).files = (deliver disk delivery tree).2 := by
  unfold Attempt.trace at came
  unfold run
  generalize (prepare settings).run.perform service = performed at came ⊢
  rcases performed with ⟨error | other, journal⟩
  · cases came
  · cases came
    dsimp only
    rcases deliver disk delivery tree with ⟨_ | _, made⟩ <;> exact ⟨rfl, rfl⟩

end Export
end Artboard
