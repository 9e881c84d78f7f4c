import Artboard.Journal.Directive

/-!
# Event filters

A filter says up to which level events are shown.  It is written as a list of
directives with commas between them.  Of the directives that speak of an event, the
weightiest decides, and of equal ones the last.
-/

namespace Artboard

/-- Which events are shown. -/
abbrev EventFilter := List Directive

namespace EventFilter

/-- Directives shown on their own: everything that informs, and what the export
itself reports in detail. -/
def standard : EventFilter :=
  [.ofTarget "" ⟨3⟩, .ofTarget "design_cli" ⟨4⟩, .ofTarget "design_core" ⟨3⟩]

def errorsOnly : EventFilter :=
  [.ofTarget "" ⟨1⟩]

/-- Read a filter, every directive of which must be readable. No directives at all
show only errors. -/
def read? (text : String) : Option EventFilter := do
  let parts := (Text.splitAt ',' text.toList).filter (!·.isEmpty)
  let directives ← parts.mapM Directive.read?
  return if directives.isEmpty then errorsOnly else directives.filter (·.isForEvents)

/-- The filter that a setting asks for; one that cannot be read does not
count. -/
def ofSetting (setting : Option String) : EventFilter :=
  (setting.bind read?).getD standard

/-- The directive that decides about an event. -/
def decisive? (filter : EventFilter) (event : Event) : Option Directive :=
  (filter.filter (·.covers event)).foldl
    (fun best directive =>
      match best with
      | none => some directive
      | some earlier => if directive.outweighs earlier then some directive else best)
    none

def allows (filter : EventFilter) (event : Event) : Bool :=
  match filter.decisive? event with
  | some directive => event.level.rank ≤ directive.limit.rank
  | none => false

end EventFilter

end Artboard
