import Telemetry.Proofs.Run.History

/-!
# What an effective start installs

An effective start makes at most two calls of the factory, for the emitter and then for the bridge,
each if the configuration asks for it. What a call returns is what the new pipeline holds for the
signal. So the outcome for a signal hangs on nothing but its own flag and its own call: neither the
other signal nor what was active before has a part in it.

* `emitter?_after`, `bridge?_after`: the component of a signal after a start.
* `start_installs`: everything that an effective start installs, and two starts compared.
-/

namespace Telemetry

namespace System

/-- The emitter of the active pipeline. -/
def emitter? (s : System) : Option Emitter := s.manager.logHook.bind fun g => s.host.emitters[g]?

/-- The bridge of the active pipeline. -/
def bridge? (s : System) : Option Bridge := s.manager.bridge.bind fun g => s.host.bridges[g]?

end System

/-- A start of a pipeline in some system. -/
structure Start where
  before : System
  factory : Factory
  config : Config
  version : String
  sink : Option SinkName

namespace Start

variable (a : Start)

def moment : Moment := ⟨a.before, .start a.factory a.config a.version a.sink⟩

/-- The resource that both calls are given. -/
def resource : Resource := a.before.host.resource a.config a.version

/-- The number under which the components are kept. -/
def number : Generation := a.before.host.generation + 1

def logCall : Build Emitter := a.factory.logs a.config a.resource

def metricsCall : Build Bridge := a.factory.metrics a.config a.resource

/-- Nobody has set labels of the emitter before the factory hands it over. -/
def IsUnlabelled : Prop := ∀ e, a.logCall = .built e → e.written = []

/-- A start of a reachable system with telemetry on and an endpoint, whose calls return. -/
structure IsRegular : Prop where
  reachable : a.before.IsReachable
  on : a.config.enabled = true
  endpoint : ∃ c ∈ a.config.endpoint.toList, Text.isBlank c = false
  logs : a.config.exportLogs = true → ∀ payload, a.logCall ≠ .panicked payload
  metrics : a.config.exportMetrics = true → ∀ payload, a.metricsCall ≠ .panicked payload

variable {a}

theorem exists_outcome {α : Type} {wanted : Bool} {build : Build α}
    (returns : wanted = true → ∀ payload, build ≠ .panicked payload) :
    ∃ component, build.outcome wanted = .ok component := by
  by_cases asked : wanted = true
  · exact Build.exists_outcome (returns asked) wanted
  · refine ⟨none, ?_⟩
    cases build <;> simp [Build.outcome, asked]

namespace IsRegular

variable (regular : a.IsRegular)

include regular

theorem isEffective : a.config.isEffective = true :=
  Config.isEffective_eq_true_iff.mpr ⟨regular.on, regular.endpoint⟩

/-- A regular start has a pipeline to install. -/
theorem exists_product : ∃ p, a.before.manager.product a.factory a.config a.version a.sink
    a.before.host = .ok p := by
  obtain ⟨logs, hl⟩ := exists_outcome regular.logs
  obtain ⟨metrics, hm⟩ := exists_outcome regular.metrics
  rw [logCall, resource] at hl
  rw [metricsCall, resource] at hm
  refine ⟨⟨a.config, a.sink.getD a.before.manager.ownSink, logs.map fun _ => a.number,
    metrics.map fun _ => a.number, []⟩, ?_⟩
  simp only [Manager.product, Manager.logOutcome, Manager.metricsOutcome, hl, hm, Except.map]
  rfl

/-- A regular start is completed, and its pipeline holds what its calls have returned. -/
theorem completed : a.moment.answer = .started .ok ∧
    a.moment.after.manager.active = some ⟨a.config, a.sink.getD a.before.manager.ownSink,
      if a.config.exportLogs && a.logCall.isBuilt then some a.number else none,
      if a.config.exportMetrics && a.metricsCall.isBuilt then some a.number else none, []⟩ := by
  obtain ⟨p, hp⟩ := regular.exists_product
  have backed := regular.reachable.isSound.backed
  have result := Manager.fst_start_of_effective a.factory a.version a.sink regular.isEffective
    backed
  have manager := Manager.manager_start_of_effective a.factory a.version a.sink
    regular.isEffective backed
  rw [hp] at result manager
  constructor
  · rw [moment, Moment.answer_start, result]
  · have active : a.moment.after.manager.active = some p := congrArg Manager.active manager
    rw [active, Manager.eq_of_product hp]
    rfl

theorem logHook_after : a.moment.after.manager.logHook =
    if a.config.exportLogs && a.logCall.isBuilt then some a.number else none := by
  rw [Manager.logHook, regular.completed.2]
  rfl

theorem bridge_after : a.moment.after.manager.bridge =
    if a.config.exportMetrics && a.metricsCall.isBuilt then some a.number else none := by
  rw [Manager.bridge, regular.completed.2]
  rfl

/-- The host that a regular start leaves is that of an installation after a replacement. -/
theorem exists_install : ∃ (m : Manager) (h : Host) (p : Pipeline),
    m.product a.factory a.config a.version a.sink h = .ok p ∧
    h.resource a.config a.version = a.resource ∧ h.generation + 1 = a.number ∧
    a.moment.after.host = (m.install a.factory a.config a.version a.sink h).2.2 := by
  obtain ⟨p, hp⟩ := regular.exists_product
  have backed := regular.reachable.isSound.backed
  have retired := Manager.reaches_replacement backed
  have started := Manager.start_of_effective a.before.manager a.factory a.version a.sink
    a.before.host regular.isEffective
  refine ⟨_, _, p, (Manager.product_retire a.factory a.version a.sink backed).trans hp, ?_,
    congrArg (· + 1) retired.generation, congrArg (·.2.2) started⟩
  rw [retired.resource]
  rfl

/-- After a start the emitter is the one that the call has returned. -/
theorem emitter?_after :
    a.moment.after.emitter? = a.logCall.component? a.config.exportLogs := by
  rw [System.emitter?, regular.logHook_after]
  cases wanted : a.config.exportLogs with
  | false => cases a.logCall <;> rfl
  | true =>
    cases call : a.logCall with
    | built e =>
      obtain ⟨m, h, p, hp, same, counted, host⟩ := regular.exists_install
      rw [logCall, ← same] at call
      have built := (Manager.components_install hp).1 e wanted call
      rwa [counted, ← host] at built
    | failed e => rfl
    | panicked payload => rfl

/-- After a start the bridge is the one that the call has returned. -/
theorem bridge?_after :
    a.moment.after.bridge? = a.metricsCall.component? a.config.exportMetrics := by
  rw [System.bridge?, regular.bridge_after]
  cases wanted : a.config.exportMetrics with
  | false => cases a.metricsCall <;> rfl
  | true =>
    cases call : a.metricsCall with
    | built bridge =>
      obtain ⟨m, h, p, hp, same, counted, host⟩ := regular.exists_install
      rw [metricsCall, ← same] at call
      have built := (Manager.components_install hp).2 bridge wanted call
      rwa [counted, ← host] at built
    | failed e => rfl
    | panicked payload => rfl

/-! ## Calls -/

/-- A start calls the factory for the emitter and then for the bridge, each if it is asked for. -/
theorem filter_isCall_effects : a.moment.effects.filter Effect.isCall =
    (if a.config.exportLogs then [.built .logs a.config a.resource] else []) ++
      if a.config.exportMetrics then [.built .metrics a.config a.resource] else [] := by
  have sound := regular.reachable.isSound
  have retired := Manager.reaches_replacement sound.backed
  obtain ⟨p, hp⟩ := regular.exists_product
  obtain ⟨logs, -, -⟩ := Manager.outcomes_of_product
    ((Manager.product_retire a.factory a.version a.sink sound.backed).trans hp)
  rw [(Moment.extends_of_isBacked (m := a.moment) sound.backed).filter_isCall, moment,
    System.effectsOf, if_pos regular.isEffective, List.filter_append,
    Manager.filter_isCall_replacementEffects, List.nil_append,
    Manager.filter_isCall_installEffects, logs, retired.resource]
  rfl

/-- After a start the sink that was given, or the manager's own, holds the new emitter, and no other
sink holds anything. -/
theorem sinks_after (place : SinkName) : a.moment.after.host.sinks[place]? =
    if place = a.sink.getD a.before.manager.ownSink then a.moment.after.manager.logHook
    else none := by
  have sound : a.moment.after.IsSound := System.isSound_step regular.reachable.isSound _
  rw [sound.holder, Manager.holder, Manager.logHook, regular.completed.2]
  simp only [Option.bind_some, eq_comm]

end IsRegular

end Start

namespace System

/-- An effective start makes its calls in order and installs what they return: the emitter, without
labels unless the factory has set any, attached to its sink, and the bridge, with no hooks. Another
such start with the same flag for a signal, whose call for it ends in the same way, has the same
outcome for the signal. -/
theorem start_installs {a : Start} (regular : a.IsRegular) :
    let m := a.moment
    let manager := m.after.manager
    m.answer = .started .ok ∧
    m.effects.filter Effect.isCall =
      (if a.config.exportLogs then [.built .logs a.config a.resource] else []) ++
        (if a.config.exportMetrics then [.built .metrics a.config a.resource] else []) ∧
    manager.isActive = true ∧
    manager.logHook =
      (if a.config.exportLogs && a.logCall.isBuilt then some a.number else none) ∧
    m.after.emitter? = a.logCall.component? a.config.exportLogs ∧
    (a.IsUnlabelled → ∀ e, m.after.emitter? = some e → e.labels = ∅) ∧
    (∀ place, m.after.host.sinks[place]? =
      if place = a.sink.getD a.before.manager.ownSink then manager.logHook else none) ∧
    manager.bridge =
      (if a.config.exportMetrics && a.metricsCall.isBuilt then some a.number else none) ∧
    m.after.bridge? = a.metricsCall.component? a.config.exportMetrics ∧
    manager.hooks = [] ∧
    ∀ b : Start, b.IsRegular →
      (b.config.exportLogs = a.config.exportLogs → b.logCall = a.logCall →
        b.moment.after.emitter? = m.after.emitter? ∧
        b.moment.after.manager.logHook.isSome = manager.logHook.isSome) ∧
      (b.config.exportMetrics = a.config.exportMetrics → b.metricsCall = a.metricsCall →
        b.moment.after.bridge? = m.after.bridge? ∧
        b.moment.after.manager.bridge.isSome = manager.bridge.isSome) := by
  intro m manager
  obtain ⟨answer, active⟩ := regular.completed
  have emitter := regular.emitter?_after
  refine ⟨answer, regular.filter_isCall_effects, ?_, regular.logHook_after, emitter, ?_,
    regular.sinks_after, regular.bridge_after, regular.bridge?_after, ?_, ?_⟩
  · exact congrArg Option.isSome active
  · intro unlabelled e found
    rw [found] at emitter
    have unwritten : e.written = [] := unlabelled e (Build.eq_built_of_component? emitter.symm)
    rw [Emitter.labels, unwritten]
    rfl
  · rw [Manager.hooks, show manager.active = _ from active]
    rfl
  · intro b other
    refine ⟨fun flag call => ?_, fun flag call => ?_⟩
    · constructor
      · rw [other.emitter?_after, emitter, flag, call]
      · rw [other.logHook_after, regular.logHook_after, flag, call]
        split <;> rfl
    · constructor
      · rw [other.bridge?_after, regular.bridge?_after, flag, call]
      · rw [other.bridge_after, regular.bridge_after, flag, call]
        split <;> rfl

/-- A pipeline is replaced by one on another sink whose bridge cannot be built. It gets the same
emitter as a first start that asks for no bridge, although a call for one would panic there. -/
theorem start_installs_of_sibling :
    let exporter : Emitter := .ofProvider { processor := some {} }
    let s := fresh "own" ⟨"linux", "x86_64", 1, none⟩ [{ sink := "own" }, { sink := "other" }]
    let active := s.run [.start (.constant (.built exporter) (.built {})) .toLocalhost "" none]
    let a : Start := ⟨active, .constant (.built exporter) (.failed (.noRuntime "metric")),
      .toLocalhost, "2.0", some "other"⟩
    let b : Start := ⟨s, .constant (.built exporter) (.panicked .other),
      { Config.toLocalhost with exportMetrics := false }, "", none⟩
    (a.IsRegular ∧ b.IsRegular ∧ a.IsUnlabelled) ∧ a.moment.answer = .started .ok ∧
      a.moment.after.manager.logHook = some 2 ∧ a.moment.after.manager.bridge = none ∧
      a.moment.after.host.sinks["other"]? = some 2 ∧ a.moment.after.host.sinks["own"]? = none ∧
      a.moment.after.emitter? = some exporter ∧
      b.moment.after.emitter? = some exporter ∧ exporter.labels = ∅ ∧
      b.moment.after.manager.logHook.isSome = true := by
  intro exporter s active a b
  have endpoint : ∃ c ∈ Config.toLocalhost.endpoint.toList, Text.isBlank c = false :=
    ⟨'h', by decide +kernel, by decide +kernel⟩
  have restarted : a.IsRegular :=
    ⟨⟨_, _, isNew_fresh _ _ _, rfl⟩, rfl, endpoint, fun _ _ => nofun, fun _ _ => nofun⟩
  have started : b.IsRegular :=
    ⟨⟨s, [], isNew_fresh _ _ _, rfl⟩, rfl, endpoint, fun _ _ => nofun, nofun⟩
  have unlabelled : a.IsUnlabelled := by
    rintro e ⟨⟩
    rfl
  obtain ⟨answer, -, -, logHook, emitter, labels, sinks, bridge, -, -, others⟩ :=
    start_installs restarted
  have hook : a.moment.after.manager.logHook = some 2 := by
    rw [logHook]
    decide +kernel
  obtain ⟨same, present⟩ := (others b started).1 rfl rfl
  refine ⟨⟨restarted, started, unlabelled⟩, answer, hook, ?_, ?_, ?_, emitter, same.trans emitter,
    labels unlabelled exporter emitter, ?_⟩
  · rw [bridge]
    rfl
  · exact (sinks "other").trans hook
  · exact sinks "own"
  · rw [present, hook]
    rfl

end System

end Telemetry
