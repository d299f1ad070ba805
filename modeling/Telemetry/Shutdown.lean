import Telemetry.Duration
import Telemetry.Text.Quoted

/-!
# Failures of a shutdown

A provider reports an error of its own. A component, which is a provider that is waited for, fails
with that error, or because the time was up, or because its worker ended without a result. A
teardown has several steps; the error of a teardown lists its failed steps in their order, and there
is none without a failed step.

Main statements:

* `ShutdownError.ofFailures?_eq_none_iff`: no failure, no error.
* `ShutdownError.failures_ofFailures?`: the error keeps the failures and their order.
-/

namespace Telemetry

/-- An error that a provider reports. -/
inductive ProviderError
  | alreadyShutdown
  | timeout (after : Duration)
  | internalFailure (text : String)
  deriving DecidableEq, Repr

namespace ProviderError

def message : ProviderError → String
  | alreadyShutdown => "Shutdown already invoked"
  | timeout d => "Operation timed out after " ++ d.text
  | internalFailure text => "Operation failed: " ++ text

/-- The error as a term, the way it is listed inside another error. -/
def term : ProviderError → String
  | alreadyShutdown => "AlreadyShutdown"
  | timeout d => "Timeout(" ++ d.text ++ ")"
  | internalFailure text => "InternalFailure(" ++ Text.quote text ++ ")"

end ProviderError

/-- Why a component was not closed in order. -/
inductive ComponentError
  | provider (error : ProviderError)
  | deadlineExceeded (after : Duration)
  | worker (text : String)
  deriving DecidableEq, Repr

def ComponentError.message : ComponentError → String
  | provider error => error.message
  | deadlineExceeded d => "deadline exceeded after " ++ d.text
  | worker text => "shutdown worker failed: " ++ text

/-- A failed step of a teardown. -/
inductive ShutdownFailure
  | logHook (cause : ComponentError)
  | metricsBridge (cause : ComponentError)
  | callback (name cause : String)
  deriving DecidableEq, Repr

namespace ShutdownFailure

def cause : ShutdownFailure → String
  | logHook cause => cause.message
  | metricsBridge cause => cause.message
  | callback _ cause => cause

def message (f : ShutdownFailure) : String :=
  match f with
  | logHook _ => "log hook shutdown: " ++ f.cause
  | metricsBridge _ => "metrics bridge shutdown: " ++ f.cause
  | callback name _ => "exporter shutdown (" ++ name ++ "): " ++ f.cause

end ShutdownFailure

/-- The failed steps of a teardown, at least one. -/
structure ShutdownError where
  failures : List ShutdownFailure
  failures_ne_nil : failures ≠ []
  deriving DecidableEq, Repr

namespace ShutdownError

/-- The error of a teardown with these failures. -/
def ofFailures? (failures : List ShutdownFailure) : Option ShutdownError :=
  if h : failures = [] then none else some ⟨failures, h⟩

def message (e : ShutdownError) : String :=
  "OTEL shutdown errors: [" ++ String.intercalate "; " (e.failures.map (·.message)) ++ "]"

theorem ofFailures?_eq_none_iff {failures : List ShutdownFailure} :
    ofFailures? failures = none ↔ failures = [] := by
  by_cases h : failures = [] <;> simp [ofFailures?, h]

theorem failures_ofFailures? {failures : List ShutdownFailure} {e : ShutdownError}
    (h : ofFailures? failures = some e) : e.failures = failures := by
  by_cases hf : failures = []
  · simp [ofFailures?, hf] at h
  · simp only [ofFailures?, hf, dite_false, Option.some.injEq] at h
    rw [← h]

end ShutdownError

end Telemetry
