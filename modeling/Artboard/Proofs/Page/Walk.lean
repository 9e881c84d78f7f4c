import Artboard.Page.Walk

/-!
# One step of the walk

A step of the walk does one of three things: it passes over a layer that is not
drawn, it replaces a layer by its image, or it walks what lies on the layer and
then puts an element around it.  Each of them is one equation, and what the
operations on a run leave alone is one lemma for each field.  Everything that is
proved about whole walks starts from these.
-/

namespace Artboard
namespace Page

namespace Run

variable (run : Run)

@[simp] theorem counter_count : run.count.counter = run.counter + 1 := rfl

@[simp] theorem rules_count : run.count.rules = run.rules := rfl

@[simp] theorem diagnostics_count : run.count.diagnostics = run.diagnostics := rfl

@[simp] theorem fonts_count : run.count.fonts = run.fonts := rfl

@[simp] theorem counter_report (found : List Diagnostic) :
    (run.report found).counter = run.counter := rfl

@[simp] theorem rules_report (found : List Diagnostic) :
    (run.report found).rules = run.rules := rfl

@[simp] theorem diagnostics_report (found : List Diagnostic) :
    (run.report found).diagnostics = run.diagnostics ++ found := rfl

@[simp] theorem fonts_report (found : List Diagnostic) :
    (run.report found).fonts = run.fonts := rfl

@[simp] theorem counter_useFont (family : Option String) :
    (run.useFont family).counter = run.counter := by
  cases family with
  | none => rfl
  | some family =>
      simp only [useFont]
      split <;> rfl

@[simp] theorem rules_useFont (family : Option String) :
    (run.useFont family).rules = run.rules := by
  cases family with
  | none => rfl
  | some family =>
      simp only [useFont]
      split <;> rfl

@[simp] theorem diagnostics_useFont (family : Option String) :
    (run.useFont family).diagnostics = run.diagnostics := by
  cases family with
  | none => rfl
  | some family =>
      simp only [useFont]
      split <;> rfl

@[simp] theorem counter_register (className : String) (declaration : Declaration) :
    (run.register className declaration).counter = run.counter := rfl

@[simp] theorem rules_register (className : String) (declaration : Declaration) :
    (run.register className declaration).rules = run.rules ++ [(className, declaration)] := rfl

@[simp] theorem diagnostics_register (className : String) (declaration : Declaration) :
    (run.register className declaration).diagnostics = run.diagnostics := rfl

@[simp] theorem fonts_register (className : String) (declaration : Declaration) :
    (run.register className declaration).fonts = run.fonts := rfl

end Run

variable {images : ImageMap} {layer : Layer} {parent : Option Layer}

/-- The run with a layer numbered and with what is wrong with its style. -/
def reached (layer : Layer) (parent : Option Layer) (run : Run) : Run :=
  run.count.report (Style.diagnostics layer parent)

/-- The run that the walk over what lies on a layer starts from. -/
def entered (layer : Layer) (parent : Option Layer) (run : Run) : Run :=
  ((reached layer parent run).report (imageDiagnostics layer)).useFont
    (Style.fontFamily? layer)

@[simp] theorem counter_reached (run : Run) :
    (reached layer parent run).counter = run.counter + 1 := rfl

@[simp] theorem rules_reached (run : Run) :
    (reached layer parent run).rules = run.rules := rfl

@[simp] theorem counter_entered (run : Run) :
    (entered layer parent run).counter = run.counter + 1 := by
  simp [entered]

@[simp] theorem rules_entered (run : Run) :
    (entered layer parent run).rules = run.rules := by
  simp [entered]

/-- A layer that is not drawn leaves no trace. -/
theorem visit_hidden (children : List Node) (run : Run) (hidden : layer.visible = false) :
    visit images ⟨layer, children⟩ parent run = ([], run) := by
  simp only [visit, hidden]
  rfl

/-- A layer whose image is known becomes this image. What lies on it is not
looked at. -/
theorem visit_image {url : String} (children : List Node) (run : Run)
    (visible : layer.visible = true) (known : images.url? layer.id = some url) :
    visit images ⟨layer, children⟩ parent run =
      ([imageTree layer url (Markup.className run.counter layer.name)],
        (reached layer parent run).register (Markup.className run.counter layer.name)
          (Style.declaration layer parent)) := by
  simp only [visit, visible, known]
  rfl

/-- Any other layer becomes an element around what lies on it, and its rule is
registered last. -/
theorem visit_element (children : List Node) (run : Run) (visible : layer.visible = true)
    (unknown : images.url? layer.id = none) :
    visit images ⟨layer, children⟩ parent run =
      ([elementTree layer (Markup.className run.counter layer.name)
          (visitAll images children layer (entered layer parent run)).1],
        (visitAll images children layer (entered layer parent run)).2.register
          (Markup.className run.counter layer.name) (Style.declaration layer parent)) := by
  simp only [visit, visible, unknown]
  rfl

@[simp] theorem visitAll_nil (below : Layer) (run : Run) :
    visitAll images [] below run = ([], run) := rfl

/-- Nodes side by side are walked one after the other. -/
theorem visitAll_cons (node : Node) (nodes : List Node) (below : Layer) (run : Run) :
    visitAll images (node :: nodes) below run =
      ((visit images node (some below) run).1 ++
          (visitAll images nodes below (visit images node (some below) run).2).1,
        (visitAll images nodes below (visit images node (some below) run).2).2) := rfl

end Page
end Artboard
