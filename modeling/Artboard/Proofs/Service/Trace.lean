import Artboard.Service.Session

/-!
# Traces of attempts

The trace of an attempt with a service is its outcome together with the requests
that the service was asked, in order; events are left out.  A trace is put together
along the attempt: what an attempt asks after an earlier one depends on the outcome
of the earlier one only, and after an error nothing is asked any more.
-/

namespace Artboard
namespace Attempt

variable {ε ζ α β : Type}

/-- The outcome of an attempt with a service, and what the service was asked. -/
def trace (service : Service) (attempt : Attempt ε α) : Except ε α × List Request :=
  ((attempt.run.perform service).1, (attempt.run.perform service).2.requests)

variable (service : Service)

@[simp] theorem trace_pure (value : α) :
    trace service (pure value : Attempt ε α) = (.ok value, []) := rfl

@[simp] theorem trace_note (event : Event) :
    trace service (note event : Attempt ε Unit) = (.ok (), []) := rfl

@[simp] theorem trace_ask (request : Request) :
    trace service (ask request : Attempt ε (Except Hindrance Reply)) =
      (.ok (service request), [request]) := rfl

@[simp] theorem trace_ofExcept (outcome : Except ε α) :
    trace service (ofExcept outcome) = (outcome, []) := rfl

/-- Behind an attempt that came to a value, the next one goes on from there; behind an
error nothing is asked any more. -/
theorem trace_bind (first : Attempt ε α) (next : α → Attempt ε β) :
    trace service (first >>= next) =
      match trace service first with
      | (.ok value, asked) =>
        ((trace service (next value)).1, asked ++ (trace service (next value)).2)
      | (.error error, asked) => (.error error, asked) := by
  have joined := Session.perform_bind service first.run (ExceptT.bindCont next)
  change ((first.run >>= ExceptT.bindCont next).perform service |>.1,
    ((first.run >>= ExceptT.bindCont next).perform service).2.requests) = _
  rw [joined, trace, Journal.requests_append]
  cases (first.run.perform service).1 with
  | ok value => rfl
  | error error => exact congrArg (Prod.mk _) (List.append_nil _)

variable {service} {first : Attempt ε α} {asked : List Request}

theorem trace_bind_ok {value : α} (next : α → Attempt ε β)
    (came : trace service first = (.ok value, asked)) :
    trace service (first >>= next) =
      ((trace service (next value)).1, asked ++ (trace service (next value)).2) := by
  rw [trace_bind, came]

theorem trace_bind_error {error : ε} (next : α → Attempt ε β)
    (came : trace service first = (.error error, asked)) :
    trace service (first >>= next) = (.error error, asked) := by
  rw [trace_bind, came]

@[simp] theorem trace_note_bind (event : Event) (next : Unit → Attempt ε β) :
    trace service (note event >>= next) = trace service (next ()) :=
  trace_bind_ok next (trace_note service event)

/-- To name errors differently changes nothing about what is asked. -/
theorem trace_adapt (wrap : ε → ζ) (attempt : Attempt ε α) :
    trace service (attempt.adapt wrap) =
      ((trace service attempt).1.mapError wrap, (trace service attempt).2) := by
  have joined := Session.perform_bind service attempt.run
    fun outcome => pure (outcome.mapError wrap)
  change ((attempt.run >>= fun outcome => pure (outcome.mapError wrap)).perform service |>.1,
    ((attempt.run >>= fun outcome => pure (outcome.mapError wrap)).perform service).2.requests) = _
  rw [joined, Session.perform_pure, Journal.append_empty]
  rfl

end Attempt
end Artboard
