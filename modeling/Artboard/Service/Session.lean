import Artboard.Journal.Event
import Artboard.Service.Exchange

/-!
# Sessions

A session is a computation that asks the service and reports events.  It is a
tree: behind a request stands one branch for each reply there could be.  Nothing
but this tree decides what is asked next, so what a service is asked can be read
off it.
-/

namespace Artboard

/-- A computation that asks the service and reports events on its way. -/
inductive Session (α : Type) where
  | done (value : α)
  | note (event : Event) (rest : Session α)
  | ask (request : Request) (rest : Except Hindrance Reply → Session α)

/-- What happened in a session. -/
@[ext]
structure Journal where
  requests : List Request
  events : List Event
  deriving DecidableEq, Repr

namespace Journal

def empty : Journal := ⟨[], []⟩

def append (first second : Journal) : Journal :=
  ⟨first.requests ++ second.requests, first.events ++ second.events⟩

instance : Append Journal := ⟨append⟩

/-- The journal with one more event at its end. -/
def add (journal : Journal) (event : Event) : Journal :=
  { journal with events := journal.events ++ [event] }

@[simp] theorem requests_append (first second : Journal) :
    (first ++ second).requests = first.requests ++ second.requests := rfl

@[simp] theorem events_append (first second : Journal) :
    (first ++ second).events = first.events ++ second.events := rfl

@[simp] theorem empty_append (journal : Journal) : empty ++ journal = journal := rfl

@[simp] theorem append_empty (journal : Journal) : journal ++ empty = journal := by
  ext1 <;> simp [empty]

end Journal

namespace Session

/-- First one session, then the one that its value decides on. -/
def bind : Session α → (α → Session β) → Session β
  | done value, next => next value
  | note event rest, next => note event (rest.bind next)
  | ask request rest, next => ask request fun reply => (rest reply).bind next

instance : Monad Session where
  pure := done
  bind := bind

/-- Follow a session with the replies of a service. -/
def perform (service : Service) : Session α → α × Journal
  | done value => (value, .empty)
  | note event rest =>
    let (value, journal) := rest.perform service
    (value, { journal with events := event :: journal.events })
  | ask request rest =>
    let (value, journal) := (rest (service request)).perform service
    (value, { journal with requests := request :: journal.requests })

/-- Follow a session with the means of another computation. -/
def follow [Monad m] (onEvent : Event → m Unit)
    (onRequest : Request → m (Except Hindrance Reply)) : Session α → m α
  | done value => pure value
  | note event rest => do
    onEvent event
    rest.follow onEvent onRequest
  | ask request rest => do
    let reply ← onRequest request
    (rest reply).follow onEvent onRequest

@[simp] theorem perform_pure (service : Service) (value : α) :
    (pure value : Session α).perform service = (value, .empty) := rfl

/-- Of two sessions in a row the journals are joined. -/
theorem perform_bind (service : Service) (first : Session α) (next : α → Session β) :
    (first >>= next).perform service =
      (((next (first.perform service).1).perform service).1,
        (first.perform service).2 ++ ((next (first.perform service).1).perform service).2) := by
  change (first.bind next).perform service = _
  induction first with
  | done value => rfl
  | note event rest ih => simp only [bind, perform, ih]; rfl
  | ask request rest ih => simp only [bind, perform, ih]; rfl

end Session

/-- A session that may fail. What happened until then stays in its journal. -/
abbrev Attempt (ε : Type) := ExceptT ε Session

namespace Attempt

def note (event : Event) : Attempt ε Unit :=
  ExceptT.lift (.note event (.done ()))

def ask (request : Request) : Attempt ε (Except Hindrance Reply) :=
  ExceptT.lift (.ask request .done)

/-- The outcome of what is already known. -/
def ofExcept (outcome : Except ε α) : Attempt ε α :=
  ExceptT.mk (.done outcome)

end Attempt

end Artboard
