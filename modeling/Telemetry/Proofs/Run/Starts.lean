import Telemetry.Proofs.Run.Moments

/-!
# How starts end

A start with telemetry off succeeds and does no more than say so. A start that is on without an
endpoint is refused and does nothing. Every other start leaves a pipeline active, whether or not
the teardown of the one before it fails and whichever errors the calls of the factory return; only
a call that panics keeps it from that. So no start fails but for a missing endpoint.

* `install_of_neverPanics`: an installation is completed unless a call panics.
* `start_succeeds_or_refuses`: the result of every start.
-/

namespace Telemetry

/-- The calls of the factory end with a component or an error, and not in a panic. -/
structure Factory.NeverPanics (factory : Factory) : Prop where
  logs : ∀ config resource payload, factory.logs config resource ≠ .panicked payload
  metrics : ∀ config resource payload, factory.metrics config resource ≠ .panicked payload

theorem Factory.neverPanics_constant {logs : Build Emitter} {metrics : Build Bridge}
    (hl : ∀ payload, logs ≠ .panicked payload) (hm : ∀ payload, metrics ≠ .panicked payload) :
    (Factory.constant logs metrics).NeverPanics :=
  ⟨fun _ _ => hl, fun _ _ => hm⟩

theorem Build.exists_outcome {α : Type} {build : Build α}
    (h : ∀ payload, build ≠ .panicked payload) (wanted : Bool) :
    ∃ component, build.outcome wanted = .ok component := by
  cases build with
  | built component => exact ⟨_, rfl⟩
  | failed e => exact ⟨_, rfl⟩
  | panicked payload => exact absurd rfl (h payload)

namespace Config

theorem isEffective_eq_true_iff {c : Config} :
    c.isEffective = true ↔ c.enabled = true ∧ ∃ x ∈ c.endpoint.toList, Text.isBlank x = false := by
  rw [isEffective, Bool.and_eq_true, Bool.not_eq_true', ← Bool.not_eq_true, hasBlankEndpoint_iff]
  simp

end Config

namespace Manager

/-- A factory whose calls all return has a product for every start. -/
theorem exists_product {factory : Factory} (returns : factory.NeverPanics) (m : Manager)
    (config : Config) (version : String) (sink : Option SinkName) (h : Host) :
    ∃ p, m.product factory config version sink h = .ok p := by
  obtain ⟨logs, hl⟩ := Build.exists_outcome
    (returns.logs config (h.resource config version)) config.exportLogs
  obtain ⟨metrics, hm⟩ := Build.exists_outcome
    (returns.metrics config (h.resource config version)) config.exportMetrics
  refine ⟨⟨config, sink.getD m.ownSink, logs.map fun _ => h.generation + 1,
    metrics.map fun _ => h.generation + 1, []⟩, ?_⟩
  simp only [product, logOutcome, metricsOutcome, hl, hm, Except.map]

theorem install_of_neverPanics {factory : Factory} (returns : factory.NeverPanics) (m : Manager)
    (config : Config) (version : String) (sink : Option SinkName) (h : Host) :
    (m.install factory config version sink h).1 = .ok ∧
      (m.install factory config version sink h).2.1.isActive = true := by
  obtain ⟨p, hp⟩ := exists_product returns m config version sink h
  rw [fst_install, manager_install, hp]
  exact ⟨rfl, rfl⟩

/-- A start is refused for nothing but a missing endpoint. -/
theorem eq_missingEndpoint_of_refused {m : Manager} {factory : Factory} {config : Config}
    {version : String} {sink : Option SinkName} {h : Host} {e : SetupError}
    (refused : (m.start factory config version sink h).1 = .refused e) :
    e = .missingEndpoint ∧ config.enabled = true ∧ config.hasBlankEndpoint = true := by
  cases effective : config.isEffective with
  | true =>
    rw [start_of_effective m factory version sink h effective, fst_install] at refused
    split at refused
    · cases refused
    · -- a panic breaks the start off, whatever becomes of the emitter
      rename_i payload _
      cases released : releaseWork factory config ((m.retire h).2.resource config version) <;>
        rw [released] at refused <;> cases refused
  | false =>
    rcases start_of_ineffective m factory version sink h effective with ⟨told, -⟩ | ⟨left, on⟩
    · rw [told] at refused
      cases refused
    · rw [left] at refused
      exact ⟨(StartResult.refused.inj refused).symm, on,
        by simpa [Config.isEffective, on] using effective⟩

end Manager

namespace Moment

theorem effects_of_reaches {m : Moment} {milestones : List Effect}
    (reached : m.before.host.Reaches milestones m.after.host) :
    m.effects.filter Effect.isMilestone = milestones :=
  reached.filter_drop_journal

theorem effects_of_same {m : Moment} (same : m.after.host = m.before.host) : m.effects = [] := by
  rw [Moment.effects, same, List.drop_length]

end Moment

namespace System

/-- A start succeeds and does nothing but say so if telemetry is off, is refused and does nothing if
it is on and has no endpoint, and succeeds with an active pipeline otherwise. -/
theorem start_succeeds_or_refuses (s : System) (factory : Factory) (config : Config)
    (version : String) (sink : Option SinkName) :
    let m : Moment := ⟨s, .start factory config version sink⟩
    (config.enabled = false →
      m.answer = .started .ok ∧ m.after.manager = s.manager ∧
      m.after.host.unwritten = s.host.unwritten ∧ m.after.host.sinks = s.host.sinks ∧
      (∀ g : Generation, m.after.host.emitters[g]?.map Emitter.labels =
        s.host.emitters[g]?.map Emitter.labels) ∧
      m.effects.filter Effect.isMilestone = [.emitted .manager (disabledEvent s.host.clock)]) ∧
    (config.enabled = true → (∀ c ∈ config.endpoint.toList, Text.isBlank c = true) →
      m.answer = .started (.refused .missingEndpoint) ∧ m.after = s ∧ m.effects = []) ∧
    (config.enabled = true → (∃ c ∈ config.endpoint.toList, Text.isBlank c = false) →
      factory.NeverPanics → m.answer = .started .ok ∧ m.after.manager.isActive = true) ∧
    ∀ e, m.answer = .started (.refused e) → e = .missingEndpoint := by
  intro m
  refine ⟨fun off => ?_, fun on blank => ?_, fun on endpoint returns => ?_, fun e refused => ?_⟩
  · have told : s.manager.start factory config version sink s.host =
        (.ok, s.manager, s.host.report .info "OTEL integration is disabled" []) :=
      Manager.start_of_disabled off
    have host : m.after.host = s.host.report .info "OTEL integration is disabled" [] := by
      simp [m, Moment.after, step, told]
    have same : m.after.host.unwritten = s.host.unwritten := by rw [host, Host.unwritten_report]
    refine ⟨by simp [m, Moment.answer, step, told], by simp [m, Moment.after, step, told], same,
      Host.sinks_of_unwritten same, fun g => by rw [Host.emitters_of_unwritten same],
      Moment.effects_of_reaches ?_⟩
    rw [host]
    exact Host.reaches_report s.host .info "OTEL integration is disabled" []
  · have refused : s.manager.start factory config version sink s.host =
        (.refused .missingEndpoint, s.manager, s.host) :=
      Manager.start_of_missing_endpoint on (Config.hasBlankEndpoint_iff.mpr blank)
    have same : m.after = s := by simp [m, Moment.after, step, refused]
    exact ⟨by simp [m, Moment.answer, step, refused], same, Moment.effects_of_same (by rw [same])⟩
  · have installed := Manager.install_of_neverPanics returns (s.manager.retire s.host).1 config
      version sink (s.manager.retire s.host).2
    have started := Manager.start_of_effective s.manager factory version sink s.host
      (Config.isEffective_eq_true_iff.mpr ⟨on, endpoint⟩)
    refine ⟨?_, ?_⟩
    · rw [Moment.answer_start, started, installed.1]
    · change (s.manager.start factory config version sink s.host).2.1.isActive = true
      rw [started, installed.2]
  · exact (Manager.eq_missingEndpoint_of_refused (Answer.started.inj refused)).1

/-- Three starts while a pipeline is active whose emitter never closes: one with telemetry off, one
with a blank endpoint, and one for which no component can be built. -/
theorem start_succeeds_or_refuses_of_active :
    let stuck : Emitter := .ofProvider ⟨some { onShutdown := { work := .hangs } }, false⟩
    let failing : Factory := .constant (.failed (.noRuntime "logs")) (.failed .missingEndpoint)
    let s := (fresh "own" ⟨"linux", "x86_64", 1, none⟩ [{ sink := "own" }]).run [
      .start (.constant (.built stuck) (.built {})) .toLocalhost "" none,
      .updateLabels 1 [("zone", "a")]]
    let off : Moment := ⟨s, .start failing {} "" (some "other")⟩
    let blank : Moment := ⟨s, .start failing { enabled := true, endpoint := " \t" } "" none⟩
    let on : Moment := ⟨s, .start failing .toLocalhost "" none⟩
    s.manager.isActive = true ∧
      (off.answer = .started .ok ∧ off.after.manager = s.manager) ∧
      (blank.answer = .started (.refused .missingEndpoint) ∧ blank.after = s) ∧
      on.answer = .started .ok ∧ on.after.manager.isActive = true := by
  intro stuck failing s off blank on
  obtain ⟨told, -⟩ := start_succeeds_or_refuses s failing {} "" (some "other")
  obtain ⟨-, refused, -⟩ :=
    start_succeeds_or_refuses s failing { enabled := true, endpoint := " \t" } "" none
  obtain ⟨-, -, started, -⟩ := start_succeeds_or_refuses s failing .toLocalhost "" none
  obtain ⟨told, same, -⟩ := told rfl
  obtain ⟨refused, unchanged, -⟩ := refused rfl (Config.hasBlankEndpoint_iff.mp (by decide +kernel))
  exact ⟨by decide +kernel, ⟨told, same⟩, ⟨refused, unchanged⟩,
    started rfl ⟨'h', by decide +kernel, by decide +kernel⟩
      (Factory.neverPanics_constant (fun _ => nofun) fun _ => nofun)⟩

end System

end Telemetry
