import Telemetry.Deadline
import Telemetry.Log.Event

/-!
# Shutting a provider down

Providers of loggers and of meters are shut down alike: a worker asks for it, which brings about some
work, the work is waited for, and its outcome is either an error of the provider or a failure of the
waiting.

Every request starts a worker of its own. One that has not begun when the wait is over is left
behind: it begins at some later time, when nobody waits for it any more.

Main statement: `Waiting.outcome_eq_ok_iff`.
-/

namespace Telemetry

/-- How a component behaves when it is asked to shut down: what its work comes to, and the events
that it reports meanwhile. -/
structure ShutdownBehaviour where
  work : Work (Except ProviderError Unit) := .returns .zero (.ok ())
  events : List Event := []

/-- The workers of a component: what becomes of each that is started from now on, and how many were
left behind and have not begun. -/
structure Workers where
  spawns : Nat → Spawn := fun _ => .begins .zero
  waiting : Nat := 0

namespace Workers

/-- What becomes of the worker that is started next. -/
def next (w : Workers) : Spawn := w.spawns 0

/-- The workers after one more was started by a request with a bound. -/
def start (w : Workers) (bound : Duration) : Workers where
  spawns n := w.spawns (n + 1)
  waiting :=
    match w.next with
    | .refused _ => w.waiting
    | .begins delay => if delay ≤ bound then w.waiting else w.waiting + 1

/-- The workers after one that was left behind has begun. -/
def begin (w : Workers) : Workers := { w with waiting := w.waiting - 1 }

end Workers

/-- Work with the errors of its outcome replaced. -/
def Work.mapError (f : ProviderError → ProviderError) :
    Work (Except ProviderError Unit) → Work (Except ProviderError Unit)
  | .returns delay outcome => .returns delay (outcome.mapError f)
  | .panics delay => .panics delay
  | .hangs => .hangs

/-- The outcome of waiting for a provider to shut down. -/
def Waiting.outcome (w : Waiting (Except ProviderError Unit)) : Except ComponentError Unit :=
  match w.result with
  | .ok (.ok ()) => .ok ()
  | .ok (.error e) => .error (.provider e)
  | .error e => .error e

theorem Waiting.outcome_eq_ok_iff {w : Waiting (Except ProviderError Unit)} :
    w.outcome = .ok () ↔ w.result = .ok (.ok ()) := by
  unfold outcome
  split <;> simp_all

end Telemetry
