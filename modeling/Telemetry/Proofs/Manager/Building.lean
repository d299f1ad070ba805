import Telemetry.Manager.Basic
import Telemetry.Proofs.Host.Components
import Telemetry.Proofs.Host.Routing

/-!
# Building the components of a pipeline

A start calls the factory for the emitter and then for the bridge, each if it is asked for. A call
is noted, an error that it returns is reported, and a panic ends the start. What a call returns is
kept under the number of the start.

* `reaches_buildEmitter`, `reaches_buildBridge`: the milestones of the two calls.
* `fst_buildEmitter`, `fst_buildBridge`: the calls determine what the start gets.
-/

namespace Telemetry

/-- What a call of the factory comes to for a start, if the start makes it. -/
def Build.outcome {α : Type} (wanted : Bool) : Build α → Except PanicPayload (Option α)
  | .built component => .ok (if wanted then some component else none)
  | .failed _ => .ok none
  | .panicked payload => if wanted then .error payload else .ok none

/-- The component that a start gets of a call of the factory, if it gets one. -/
def Build.component? {α : Type} (wanted : Bool) (build : Build α) : Option α :=
  match build.outcome wanted with
  | .ok component => component
  | .error _ => none

theorem Build.eq_built_of_component? {α : Type} {wanted : Bool} {build : Build α} {component : α}
    (got : build.component? wanted = some component) : build = .built component := by
  revert got
  cases wanted <;> cases build <;> simp [Build.outcome, Build.component?]

/-- The factory whose calls all end in the same way. -/
def Factory.constant (logs : Build Emitter) (metrics : Build Bridge) : Factory :=
  ⟨fun _ _ => logs, fun _ _ => metrics⟩

def Build.isBuilt {α : Type} : Build α → Bool
  | .built _ => true
  | _ => false

def Factory.returns (factory : Factory) (signal : Signal) (config : Config) (resource : Resource) :
    Bool :=
  match signal with
  | .logs => (factory.logs config resource).isBuilt
  | .metrics => (factory.metrics config resource).isBuilt

namespace Manager

/-- The event of a call that returns an error. -/
def complaints {α : Type} (clock : Timestamp) (failed : String) : Build α → List Event
  | .failed e => [.report clock .error target failed [("error", .display e.message)]]
  | _ => []

/-- The milestones of a call of the factory, if the start makes it. -/
def callEffects {α : Type} (clock : Timestamp) (signal : Signal) (wanted : Bool) (config : Config)
    (resource : Resource) (failed : String) (build : Build α) : List Effect :=
  if wanted then
    .built signal config resource :: (complaints clock failed build).map (.emitted .manager)
  else []

def logsFailed : String := "failed to create OTLP log exporter; log export disabled"

def metricsFailed : String := "failed to create OTLP metric reader; metric export disabled"

theorem fst_buildWith {α : Type} (h : Host) (signal : Signal) (wanted : Bool) (config : Config)
    (resource : Resource) (failed : String) (build : Config → Resource → Build α) :
    (buildWith h signal wanted config resource failed build).1 =
      (build config resource).outcome wanted := by
  cases wanted <;> cases hb : build config resource <;> simp [buildWith, Build.outcome, hb]

theorem reaches_buildWith {α : Type} (h : Host) (signal : Signal) (wanted : Bool) (config : Config)
    (resource : Resource) (failed : String) (build : Config → Resource → Build α) :
    h.Reaches (callEffects h.clock signal wanted config resource failed (build config resource))
      (buildWith h signal wanted config resource failed build).2 := by
  have called := Host.reaches_note h (.built signal config resource) rfl
  cases wanted with
  | false => exact .refl h
  | true =>
    simp only [buildWith, callEffects]
    cases build config resource with
    | built component => exact called
    | failed e => exact called.trans (Host.reaches_report _ .error failed _)
    | panicked payload => exact called

theorem unwritten_buildWith {α : Type} (h : Host) (signal : Signal) (wanted : Bool) (config : Config)
    (resource : Resource) (failed : String) (build : Config → Resource → Build α) :
    (buildWith h signal wanted config resource failed build).2.unwritten = h.unwritten := by
  cases wanted with
  | false => rfl
  | true =>
    simp only [buildWith]
    cases build config resource <;> simp

/-! ## The emitter -/

variable (h : Host) (factory : Factory) (config : Config) (resource : Resource) (g : Generation)

def logEffects (clock : Timestamp) : List Effect :=
  callEffects clock .logs config.exportLogs config resource logsFailed
    (factory.logs config resource)

def metricsEffects (clock : Timestamp) : List Effect :=
  callEffects clock .metrics config.exportMetrics config resource metricsFailed
    (factory.metrics config resource)

/-- Whether a start gets an emitter, or the panic of the call. -/
def logOutcome : Except PanicPayload (Option Generation) :=
  ((factory.logs config resource).outcome config.exportLogs).map (Option.map fun _ => g)

/-- Whether a start gets a bridge, or the panic of the call. -/
def metricsOutcome : Except PanicPayload (Option Generation) :=
  ((factory.metrics config resource).outcome config.exportMetrics).map (Option.map fun _ => g)

/-- A start gets a component just if it asks for it and the call returns one. -/
theorem eq_of_map_outcome {α : Type} {build : Build α} {wanted : Bool} {g : Generation}
    {number : Option Generation}
    (got : (build.outcome wanted).map (Option.map fun _ => g) = .ok number) :
    number = if wanted && build.isBuilt then some g else none := by
  revert got
  cases wanted <;> cases build <;> simp [Build.outcome, Build.isBuilt, Except.map, eq_comm]

theorem component?_of_map_outcome_eq_error {α β : Type} {build : Build α} {wanted : Bool}
    {f : Option α → β} {payload : PanicPayload}
    (panicked : (build.outcome wanted).map f = .error payload) : build.component? wanted = none := by
  revert panicked
  cases wanted <;> cases build <;> simp [Build.outcome, Build.component?, Except.map]

/-- A start that goes on after a call has a number for what it has got, and for nothing else. -/
theorem map_component?_of_map_outcome {α : Type} {build : Build α} {wanted : Bool}
    {g : Generation} {number : Option Generation}
    (got : (build.outcome wanted).map (Option.map fun _ => g) = .ok number) :
    (build.component? wanted).map (fun _ => g) = number := by
  revert got
  cases wanted <;> cases build <;> simp [Build.outcome, Build.component?, Except.map]

theorem exists_component?_of_map_outcome {α : Type} {build : Build α} {wanted : Bool}
    {g k : Generation} (got : (build.outcome wanted).map (Option.map fun _ => g) = .ok (some k)) :
    k = g ∧ ∃ component, build.component? wanted = some component := by
  have numbered := map_component?_of_map_outcome got
  cases returned : build.component? wanted with
  | none => rw [returned] at numbered; cases numbered
  | some component => exact ⟨by simpa [returned, eq_comm] using numbered, component, rfl⟩

theorem eq_of_logOutcome {hook : Option Generation}
    (got : logOutcome factory config resource g = .ok hook) :
    hook = if config.exportLogs && factory.returns .logs config resource then some g else none :=
  eq_of_map_outcome got

theorem eq_of_metricsOutcome {bridge : Option Generation}
    (got : metricsOutcome factory config resource g = .ok bridge) :
    bridge =
      if config.exportMetrics && factory.returns .metrics config resource then some g else none :=
  eq_of_map_outcome got

theorem fst_buildEmitter :
    (buildEmitter h factory config resource g).1 = logOutcome factory config resource g := by
  have result := fst_buildWith h .logs config.exportLogs config resource logsFailed factory.logs
  rw [logOutcome, ← result]
  simp only [buildEmitter, logsFailed]
  split <;> rename_i found <;> simp only [found] <;> rfl

theorem fst_buildBridge :
    (buildBridge h factory config resource g).1 = metricsOutcome factory config resource g := by
  have result := fst_buildWith h .metrics config.exportMetrics config resource metricsFailed
    factory.metrics
  rw [metricsOutcome, ← result]
  simp only [buildBridge, metricsFailed]
  split <;> rename_i found <;> simp only [found] <;> rfl

/-- After its call the emitter, if there is one, is held under the number of the start. -/
theorem buildEmitter_eq :
    (buildEmitter h factory config resource g).2 =
      let called := (buildWith h .logs config.exportLogs config resource logsFailed factory.logs).2
      ((factory.logs config resource).component? config.exportLogs).elim called
        (called.setEmitter g) := by
  have result := fst_buildWith h .logs config.exportLogs config resource logsFailed factory.logs
  simp only [Build.component?, ← result, buildEmitter, logsFailed]
  split <;> rename_i found <;> rw [found] <;> rfl

theorem reaches_buildEmitter :
    h.Reaches (logEffects factory config resource h.clock)
      (buildEmitter h factory config resource g).2 := by
  have called := reaches_buildWith h .logs config.exportLogs config resource logsFailed factory.logs
  rw [buildEmitter_eq]
  cases (factory.logs config resource).component? config.exportLogs with
  | none => exact called
  | some emitter => exact called.setEmitter g _

theorem getElem?_emitters_buildEmitter {e : Emitter}
    (built : (factory.logs config resource).component? config.exportLogs = some e) :
    (buildEmitter h factory config resource g).2.emitters[g]? = some e := by
  rw [buildEmitter_eq, built]
  exact Std.ExtTreeMap.getElem?_insert_self

/-! ## The bridge -/

theorem buildBridge_eq :
    (buildBridge h factory config resource g).2 =
      let called :=
        (buildWith h .metrics config.exportMetrics config resource metricsFailed factory.metrics).2
      ((factory.metrics config resource).component? config.exportMetrics).elim called
        (called.setBridge g) := by
  have result := fst_buildWith h .metrics config.exportMetrics config resource metricsFailed
    factory.metrics
  simp only [Build.component?, ← result, buildBridge, metricsFailed]
  split <;> rename_i found <;> rw [found] <;> rfl

theorem reaches_buildBridge :
    h.Reaches (metricsEffects factory config resource h.clock)
      (buildBridge h factory config resource g).2 := by
  have called := reaches_buildWith h .metrics config.exportMetrics config resource metricsFailed
    factory.metrics
  rw [buildBridge_eq]
  cases (factory.metrics config resource).component? config.exportMetrics with
  | none => exact called
  | some bridge => exact called.setBridge g _

/-- The call for the bridge touches no emitter. -/
theorem emitters_buildBridge :
    (buildBridge h factory config resource g).2.emitters = h.emitters := by
  have called := Host.emitters_of_unwritten (unwritten_buildWith h .metrics config.exportMetrics
    config resource metricsFailed factory.metrics)
  rw [buildBridge_eq]
  cases (factory.metrics config resource).component? config.exportMetrics with
  | none => exact called
  | some bridge => exact called

theorem getElem?_bridges_buildBridge {b : Bridge}
    (built : (factory.metrics config resource).component? config.exportMetrics = some b) :
    (buildBridge h factory config resource g).2.bridges[g]? = some b := by
  rw [buildBridge_eq, built]
  exact Std.ExtTreeMap.getElem?_insert_self

end Manager

end Telemetry
