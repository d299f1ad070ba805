import Telemetry.Fault
import Telemetry.Log.Record
import Telemetry.Provider

/-!
# Logger providers

A provider hands records to its processor. What the processor does with a record, at once or later,
is its own affair, except that it may panic over it. A request to shut the provider down goes to the
processor the first time and is answered with an error every later time.

Main statements:

* `shutdown_again`: a second request reaches nothing and changes nothing.
* `isShutdown_shutdown`: after any request the provider is shut down.
-/

namespace Telemetry

/-- What takes the records of a provider: the records that it panics over, and what shutting it down
comes to. -/
structure LogProcessor where
  onEmit : Record → Option PanicPayload := fun _ => none
  onShutdown : ShutdownBehaviour := {}

/-- A provider of loggers. -/
structure LoggerProvider where
  processor : Option LogProcessor
  isShutdown : Bool := false

/-- What a request to shut a provider down brings about: the work, whether the processor was asked,
and the events reported. -/
structure ProviderShutdown where
  work : Work (Except ProviderError Unit)
  asked : Bool
  events : List Event
  provider : LoggerProvider

namespace LoggerProvider

/-- Hands a record to the processor, if there is one. The answer lists what the processor took. -/
def emit (p : LoggerProvider) (r : Record) : Except PanicPayload (List Record) :=
  match p.processor with
  | none => .ok []
  | some processor =>
    match processor.onEmit r with
    | some payload => .error payload
    | none => .ok [r]

/-- The error of a provider whose processor failed. -/
def processorFailure (e : ProviderError) : ProviderError :=
  .internalFailure ("Shutdown errors: [" ++ e.term ++ "]")

def shutdown (p : LoggerProvider) : ProviderShutdown :=
  if p.isShutdown then ⟨.returns .zero (.error .alreadyShutdown), false, [], p⟩
  else
    let shut := { p with isShutdown := true }
    match p.processor with
    | none => ⟨.returns .zero (.ok ()), false, [], shut⟩
    | some processor =>
      ⟨processor.onShutdown.work.mapError processorFailure, true, processor.onShutdown.events, shut⟩

theorem shutdown_again {p : LoggerProvider} (h : p.isShutdown = true) :
    p.shutdown = ⟨.returns .zero (.error .alreadyShutdown), false, [], p⟩ := by
  simp [shutdown, h]

theorem isShutdown_shutdown (p : LoggerProvider) : p.shutdown.provider.isShutdown = true := by
  unfold shutdown
  split
  · assumption
  · dsimp only
    split <;> rfl

theorem processor_shutdown (p : LoggerProvider) :
    p.shutdown.provider.processor = p.processor := by
  unfold shutdown
  split
  · rfl
  · dsimp only
    split <;> rfl

end LoggerProvider

end Telemetry
