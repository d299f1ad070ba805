import Telemetry.Deadline
import Telemetry.Fault
import Telemetry.Log.Event

/-!
# Teardown hooks

A hook is a step that the owner of a pipeline adds to its teardown. It is given the deadline, and it
succeeds, fails with a text, or panics, which counts as a failure.

Main statement: `HookOutcome.failure?_eq_none_iff`.
-/

namespace Telemetry

/-- How a hook ends. -/
inductive HookOutcome
  | done
  | failed (text : String)
  | panicked (payload : PanicPayload)
  deriving DecidableEq, Repr

/-- The text of the failure of a hook. A panic is a failure like any other. -/
def HookOutcome.failure? : HookOutcome → Option String
  | done => none
  | failed text => some text
  | panicked payload => some ("panicked: " ++ payload.message)

/-- What running a hook brings about. -/
structure HookRun where
  outcome : HookOutcome
  events : List Event := []
  elapsed : Duration := .zero

/-- A teardown step that the host has registered. It is given the deadline and reads the clock. -/
structure Hook where
  name : String
  run : Deadline → Instant → HookRun

theorem HookOutcome.failure?_eq_none_iff {o : HookOutcome} : o.failure? = none ↔ o = .done := by
  cases o <;> simp [failure?]

end Telemetry
