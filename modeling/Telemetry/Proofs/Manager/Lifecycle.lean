import Telemetry.Proofs.Manager.Building
import Telemetry.Proofs.Pipeline.Steps

/-!
# What the operations of a manager bring about

Every start and shutdown of a manager, with its result and with its milestones in order.

* `fst_teardown`, `reaches_teardown`: a teardown reports the failures of its steps, or that it is
  complete.
* `reaches_retire`: a replacement announces itself before the teardown and complains after it.
* `manager_install`, `reaches_install`: a pipeline is installed with what the calls of the factory
  return, unless one of them panics.
* `start_of_effective`: an effective start is a replacement followed by an installation.
* `eq_of_product`, `components_install`: a new pipeline holds what its calls have returned.
-/

namespace Telemetry

/-- Whether a start with the configuration takes effect: telemetry is on and has an endpoint. -/
def Config.isEffective (c : Config) : Bool := c.enabled && !c.hasBlankEndpoint

/-- Telemetry that goes to a collector on the same machine. -/
def Config.toLocalhost : Config := { enabled := true, endpoint := "http://localhost:4317" }

namespace Pipeline

variable (p : Pipeline) (deadline : Deadline) (h : Host)

/-- The steps of a teardown that begins in a host. -/
def steps : List Step := schedule deadline h.now (p.parts h)

def failures : List ShutdownFailure := (p.steps deadline h).filterMap (Step.failure? deadline)

def shutDownEvent (clock : Timestamp) : Event :=
  .report clock .info Manager.target "telemetry pipeline shut down"
    [("endpoint", .display p.config.endpoint)]

/-- The milestones of a teardown. -/
def teardownEffects : List Effect :=
  (p.steps deadline h).flatMap (Step.effects deadline) ++
    if p.failures deadline h = [] then [.emitted .manager (p.shutDownEvent h.clock)] else []

variable {p h}

theorem fst_teardown (backed : p.IsBacked h) :
    (p.teardown deadline h).1 =
      match ShutdownError.ofFailures? (p.failures deadline h) with
      | some e => .error e
      | none => .ok () := by
  rw [failures_teardown, (takesDown_dismantle backed deadline).failures]
  rfl

theorem reaches_teardown (backed : p.IsBacked h) :
    h.Reaches (p.teardownEffects deadline h) (p.teardown deadline h).2 := by
  have taken := takesDown_dismantle backed deadline
  have failed : p.failures deadline h = (p.dismantle deadline h).1 := taken.failures.symm
  simp only [teardown, teardownEffects, failed]
  by_cases clean : (p.dismantle deadline h).1 = []
  · have told := Host.reaches_report (p.dismantle deadline h).2 .info
      "telemetry pipeline shut down" [("endpoint", .display p.config.endpoint)]
    rw [taken.reaches.clock] at told
    rw [ShutdownError.ofFailures?_eq_none_iff.mpr clean, if_pos clean]
    exact taken.reaches.trans told
  · obtain ⟨e, he⟩ : ∃ e, ShutdownError.ofFailures? (p.dismantle deadline h).1 = some e :=
      Option.ne_none_iff_exists'.mp (mt ShutdownError.ofFailures?_eq_none_iff.mp clean)
    rw [he, if_neg clean, List.append_nil]
    exact taken.reaches

end Pipeline

namespace Manager

/-- A shutdown takes the active pipeline down, if there is one, and does nothing else. -/
theorem reaches_shutdown {m : Manager} {h : Host} (backed : ∀ p, m.active = some p → p.IsBacked h)
    (deadline : Deadline) :
    h.Reaches (m.active.elim [] fun p => p.teardownEffects deadline h)
      (m.shutdown deadline h).2.2 := by
  cases active : m.active with
  | none => simpa [shutdown, active] using Host.Reaches.refl h
  | some p =>
    simpa [shutdown, active] using Pipeline.reaches_teardown deadline (backed p active)

/-! ## Replacement -/

def replacingEvent (clock : Timestamp) : Event :=
  .report clock .info target "replacing active telemetry pipeline"

def uncleanEvent (clock : Timestamp) (e : ShutdownError) : Event :=
  .report clock .warn target "previous telemetry pipeline did not shut down cleanly"
    [("error", .display e.message)]

/-- The host in which the teardown of a replaced pipeline begins. -/
def announced (h : Host) : Host := h.report .info "replacing active telemetry pipeline" []

def replaceDeadline (h : Host) : Deadline := .after (announced h).now replaceTimeout

/-- The milestones of the teardown of a replaced pipeline and of the complaint about it. -/
def retirement (p : Pipeline) (h : Host) : List Effect :=
  p.teardownEffects (replaceDeadline h) (announced h) ++
    match ShutdownError.ofFailures? (p.failures (replaceDeadline h) (announced h)) with
    | some e => [.emitted .manager (uncleanEvent h.clock e)]
    | none => []

theorem retire_of_inactive {m : Manager} (inactive : m.active = none) (h : Host) :
    m.retire h = (m, h) := by
  simp [retire, inactive]

theorem fst_retire (m : Manager) (h : Host) : (m.retire h).1 = { m with active := none } := by
  cases hp : m.active with
  | none =>
    rw [retire_of_inactive hp]
    cases m
    simp_all
  | some p =>
    simp only [retire, shutdown, hp]
    split <;> rfl

theorem reaches_announced (h : Host) :
    h.Reaches [.emitted .manager (replacingEvent h.clock)] (announced h) :=
  Host.reaches_report h _ _ _

theorem isBacked_announced {p : Pipeline} {h : Host} (backed : p.IsBacked h) :
    p.IsBacked (announced h) :=
  backed.of_retains (.of_unwritten (Host.unwritten_report h _ _ _))

/-- A replaced pipeline that comes down cleanly leaves the host of its teardown. -/
theorem retire_of_ok {m : Manager} {p : Pipeline} {h k : Host} (active : m.active = some p)
    (torn : p.teardown (replaceDeadline h) (announced h) = (.ok (), k)) :
    m.retire h = ({ m with active := none }, k) := by
  simp only [announced, replaceDeadline] at torn
  simp only [retire, shutdown, active, torn]

/-- A failure to take the replaced pipeline down is reported. -/
theorem retire_of_error {m : Manager} {p : Pipeline} {h k : Host} {e : ShutdownError}
    (active : m.active = some p)
    (torn : p.teardown (replaceDeadline h) (announced h) = (.error e, k)) :
    m.retire h = ({ m with active := none },
      k.report .warn "previous telemetry pipeline did not shut down cleanly"
        [("error", .display e.message)]) := by
  simp only [announced, replaceDeadline] at torn
  simp only [retire, shutdown, active, torn]

theorem reaches_retire {m : Manager} {p : Pipeline} {h : Host} (active : m.active = some p)
    (backed : p.IsBacked h) :
    h.Reaches (.emitted .manager (replacingEvent h.clock) :: retirement p h) (m.retire h).2 := by
  have backed' := isBacked_announced backed
  have result := Pipeline.fst_teardown (replaceDeadline h) backed'
  have torn := (reaches_announced h).trans
    (Pipeline.reaches_teardown (replaceDeadline h) backed')
  rw [retirement]
  cases failed : ShutdownError.ofFailures? (p.failures (replaceDeadline h) (announced h)) with
  | none =>
    rw [failed] at result
    rw [retire_of_ok active (Prod.ext result rfl)]
    simpa using torn
  | some e =>
    rw [failed] at result
    have complained := Host.reaches_report (p.teardown (replaceDeadline h) (announced h)).2 .warn
      "previous telemetry pipeline did not shut down cleanly" [("error", .display e.message)]
    rw [torn.clock] at complained
    rw [retire_of_error active (Prod.ext result rfl)]
    simpa [uncleanEvent] using torn.trans complained

/-- The milestones of taking the active pipeline down for another one. -/
def replacementEffects (m : Manager) (h : Host) : List Effect :=
  m.active.elim [] fun p => .emitted .manager (replacingEvent h.clock) :: retirement p h

theorem reaches_replacement {m : Manager} {h : Host}
    (backed : ∀ p, m.active = some p → p.IsBacked h) :
    h.Reaches (m.replacementEffects h) (m.retire h).2 := by
  cases active : m.active with
  | none =>
    rw [replacementEffects, active, retire_of_inactive active]
    exact .refl h
  | some p =>
    rw [replacementEffects, active]
    exact reaches_retire active (backed p active)

/-! ## Installation -/

variable (m : Manager) (factory : Factory) (config : Config) (version : String)
  (sink : Option SinkName) (h : Host)

/-- The pipeline that a start installs, or the panic of a call of the factory. -/
def product : Except PanicPayload Pipeline :=
  let g := h.generation + 1
  let resource := h.resource config version
  match logOutcome factory config resource g with
  | .error payload => .error payload
  | .ok logHook =>
    match metricsOutcome factory config resource g with
    | .error payload => .error payload
    | .ok bridge => .ok ⟨config, sink.getD m.ownSink, logHook, bridge, []⟩

variable {m factory config version sink h} in
/-- A start has a pipeline to install if both calls return, and then this holds what they have
returned. -/
theorem outcomes_of_product {p : Pipeline} (hp : product m factory config version sink h = .ok p) :
    logOutcome factory config (h.resource config version) (h.generation + 1) = .ok p.logHook ∧
      metricsOutcome factory config (h.resource config version) (h.generation + 1) =
        .ok p.bridge ∧
      p = ⟨config, sink.getD m.ownSink, p.logHook, p.bridge, []⟩ := by
  rw [product] at hp
  cases hl : logOutcome factory config (h.resource config version) (h.generation + 1) with
  | error payload => simp [hl] at hp
  | ok hook =>
    cases hm : metricsOutcome factory config (h.resource config version) (h.generation + 1) with
    | error payload => simp [hl, hm] at hp
    | ok bridge =>
      simp only [hl, hm, Except.ok.injEq] at hp
      subst hp
      exact ⟨rfl, rfl, rfl⟩

/-- The milestones of an installation up to its last call of the factory. -/
def callsEffects : List Effect :=
  let resource := h.resource config version
  (Resource.warnings h.clock (Resource.hostName? h.hostNames)).map (.emitted .manager) ++
    logEffects factory config resource h.clock ++
    match logOutcome factory config resource (h.generation + 1) with
    | .error _ => []
    | .ok _ => metricsEffects factory config resource h.clock

def startedEvent (clock : Timestamp) (p : Pipeline) : Event :=
  .report clock .info target
    "telemetry pipeline started; SDK diagnostics are reported through tracing"
    [("endpoint", .display p.config.endpoint), ("protocol", .str p.config.protocol.name),
      ("logs", .bool p.logHook.isSome), ("metrics", .bool p.bridge.isSome)]

/-- The milestones of installing a pipeline that has been built. -/
def openingEffects (clock : Timestamp) (p : Pipeline) : List Effect :=
  (p.logHook.map (.attached p.sink)).toList ++ [.emitted .manager (startedEvent clock p)]

theorem reaches_attachTo (sink : SinkName) (hook : Option Generation) :
    h.Reaches (hook.map (.attached sink)).toList (attachTo h sink hook) := by
  cases hook with
  | none => exact .refl h
  | some g => exact Host.reaches_attach h sink g

theorem retains_attachTo (sink : SinkName) (hook : Option Generation) :
    h.Retains (attachTo h sink hook) := by
  cases hook with
  | none => exact .refl h
  | some g => exact ⟨fun _ => id, fun _ => id⟩

theorem reaches_reportStarted (p : Pipeline) :
    h.Reaches [.emitted .manager (startedEvent h.clock p)] (reportStarted h p) :=
  Host.reaches_report h _ _ _

theorem retains_reportStarted (p : Pipeline) : h.Retains (reportStarted h p) :=
  .of_unwritten (Host.unwritten_report h .info _ _)

/-- The milestones of letting an emitter go that was built in vain. -/
def releaseEffects (resource : Resource) (g : Generation) : List Effect :=
  ((factory.logs config resource).component? config.exportLogs).elim [] (·.dropEffects g)

/-- What letting an emitter go comes to that was built in vain. -/
def releaseWork (resource : Resource) : Work (Except ProviderError Unit) :=
  ((factory.logs config resource).component? config.exportLogs).elim (.returns .zero (.ok ()))
    Emitter.dropWork

/-- The host in which a start calls the factory. -/
def greeted (h : Host) : Host :=
  Host.emitAll { h with generation := h.generation + 1 } .manager
    (Resource.warnings h.clock (Resource.hostName? h.hostNames))

def afterLogs : Host :=
  (buildEmitter (greeted h) factory config (h.resource config version) (h.generation + 1)).2

def afterMetrics : Host :=
  (buildBridge (afterLogs factory config version h) factory config (h.resource config version)
    (h.generation + 1)).2

theorem install_eq :
    m.install factory config version sink h =
      match logOutcome factory config (h.resource config version) (h.generation + 1) with
      | .error payload => (.panicked payload, m, afterLogs factory config version h)
      | .ok hook =>
        match metricsOutcome factory config (h.resource config version) (h.generation + 1) with
        | .error payload => m.unwind payload hook (afterMetrics factory config version h)
        | .ok bridge =>
          let p : Pipeline := ⟨config, sink.getD m.ownSink, hook, bridge, []⟩
          (.ok, { m with active := some p },
            reportStarted (attachTo (afterMetrics factory config version h) p.sink hook) p) := by
  rw [← fst_buildEmitter (greeted h), ← fst_buildBridge (afterLogs factory config version h),
    afterMetrics, afterLogs]
  cases logs : buildEmitter (greeted h) factory config (h.resource config version)
    (h.generation + 1) with
  | mk result k =>
    have same : Host.resource { h with generation := h.generation + 1 } config version =
        h.resource config version := rfl
    rw [greeted] at logs
    cases result with
    | error payload => simp only [install, same, logs]
    | ok hook =>
      cases metrics : buildBridge k factory config (h.resource config version)
        (h.generation + 1) with
      | mk result l => cases result <;> simp only [install, same, logs, metrics]

theorem reaches_afterLogs :
    Host.Reaches { h with generation := h.generation + 1 }
      ((Resource.warnings h.clock (Resource.hostName? h.hostNames)).map (.emitted .manager) ++
        logEffects factory config (h.resource config version) h.clock)
      (afterLogs factory config version h) := by
  have warned := Host.reaches_emitAll { h with generation := h.generation + 1 } .manager
    (Resource.warnings h.clock (Resource.hostName? h.hostNames))
  have called := reaches_buildEmitter (greeted h) factory config (h.resource config version)
    (h.generation + 1)
  rw [show (greeted h).clock = h.clock from warned.clock] at called
  exact warned.trans called

theorem reaches_afterMetrics :
    Host.Reaches (afterLogs factory config version h)
      (metricsEffects factory config (h.resource config version) h.clock)
      (afterMetrics factory config version h) := by
  have called := reaches_buildBridge (afterLogs factory config version h) factory config
    (h.resource config version) (h.generation + 1)
  rwa [show (afterLogs factory config version h).clock = h.clock from
    (reaches_afterLogs factory config version h).clock] at called

/-- When the factory has been called the emitter is there that it has returned. -/
theorem getElem?_emitters_afterMetrics {e : Emitter}
    (built : (factory.logs config (h.resource config version)).component? config.exportLogs =
      some e) :
    (afterMetrics factory config version h).emitters[h.generation + 1]? = some e := by
  rw [afterMetrics, emitters_buildBridge, afterLogs]
  exact getElem?_emitters_buildEmitter _ _ _ _ _ built

theorem getElem?_bridges_afterMetrics {b : Bridge}
    (built : (factory.metrics config (h.resource config version)).component?
      config.exportMetrics = some b) :
    (afterMetrics factory config version h).bridges[h.generation + 1]? = some b := by
  rw [afterMetrics]
  exact getElem?_bridges_buildBridge _ _ _ _ _ built

/-- A panic over the bridge lets the emitter go that was built, if there is one. -/
theorem unwind_afterMetrics (payload : PanicPayload) {hook : Option Generation}
    (got : logOutcome factory config (h.resource config version) (h.generation + 1) = .ok hook) :
    (m.unwind payload hook (afterMetrics factory config version h)).1 =
        .ofUnwinding payload (releaseWork factory config (h.resource config version)) ∧
      Host.Reaches (afterMetrics factory config version h)
        (releaseEffects factory config (h.resource config version) (h.generation + 1))
        (m.unwind payload hook (afterMetrics factory config version h)).2.2 := by
  have numbered := map_component?_of_map_outcome got
  cases built : (factory.logs config (h.resource config version)).component? config.exportLogs with
  | none =>
    obtain rfl : none = hook := by rwa [built] at numbered
    simp only [releaseWork, releaseEffects, built]
    exact ⟨rfl, .refl _⟩
  | some e =>
    obtain rfl : some (h.generation + 1) = hook := by rwa [built] at numbered
    have found := getElem?_emitters_afterMetrics factory config version h built
    have dropped := Host.reaches_dropEmitter (afterMetrics factory config version h)
      (h.generation + 1)
    rw [found] at dropped
    simp only [releaseWork, releaseEffects, built, unwind, Host.fst_dropEmitter found]
    exact ⟨rfl, dropped⟩

/-- The components that a start gets exist when it has told so. -/
theorem isBacked_built (p : Pipeline)
    (hl : logOutcome factory config (h.resource config version) (h.generation + 1) = .ok p.logHook)
    (hm : metricsOutcome factory config (h.resource config version) (h.generation + 1) =
      .ok p.bridge) :
    p.IsBacked (reportStarted
      (attachTo (afterMetrics factory config version h) p.sink p.logHook) p) := by
  have kept := (retains_attachTo (afterMetrics factory config version h) p.sink p.logHook).trans
    (retains_reportStarted _ p)
  constructor
  · intro g hook
    rw [hook] at hl
    obtain ⟨rfl, e, built⟩ := exists_component?_of_map_outcome hl
    exact kept.emitters _ (Std.ExtTreeMap.mem_iff_isSome_getElem?.mpr (by
      rw [getElem?_emitters_afterMetrics _ _ _ _ built]; rfl))
  · intro g bridge
    rw [bridge] at hm
    obtain ⟨rfl, b, built⟩ := exists_component?_of_map_outcome hm
    exact kept.bridges _ (Std.ExtTreeMap.mem_iff_isSome_getElem?.mpr (by
      rw [getElem?_bridges_afterMetrics _ _ _ _ built]; rfl))

def installEffects : List Effect :=
  callsEffects factory config version h ++
    match product m factory config version sink h with
    | .ok p => openingEffects h.clock p
    | .error _ =>
      releaseEffects factory config (h.resource config version) (h.generation + 1)

theorem fst_install :
    (m.install factory config version sink h).1 =
      match product m factory config version sink h with
      | .ok _ => .ok
      | .error payload =>
        .ofUnwinding payload (releaseWork factory config (h.resource config version)) := by
  rw [install_eq, product]
  cases hl : logOutcome factory config (h.resource config version) (h.generation + 1) with
  | error payload =>
    have nothing := component?_of_map_outcome_eq_error hl
    simp only [releaseWork, nothing]
    rfl
  | ok hook =>
    cases metricsOutcome factory config (h.resource config version) (h.generation + 1) with
    | error payload => exact (unwind_afterMetrics m factory config version h payload hl).1
    | ok bridge => rfl

theorem manager_unwind (payload : PanicPayload) (hook : Option Generation) :
    (m.unwind payload hook h).2.1 = m := by
  cases hook <;> rfl

theorem manager_install :
    (m.install factory config version sink h).2.1 =
      match product m factory config version sink h with
      | .ok p => { m with active := some p }
      | .error _ => m := by
  rw [install_eq, product]
  cases logOutcome factory config (h.resource config version) (h.generation + 1) with
  | error payload => rfl
  | ok hook =>
    cases metricsOutcome factory config (h.resource config version) (h.generation + 1) with
    | error payload => exact manager_unwind m _ payload hook
    | ok bridge => rfl

theorem reaches_install :
    Host.Reaches { h with generation := h.generation + 1 }
      (installEffects m factory config version sink h)
      (m.install factory config version sink h).2.2 := by
  have logs := reaches_afterLogs factory config version h
  have called := logs.trans (reaches_afterMetrics factory config version h)
  rw [install_eq, installEffects, callsEffects, product]
  cases hl : logOutcome factory config (h.resource config version) (h.generation + 1) with
  | error payload =>
    have nothing := component?_of_map_outcome_eq_error hl
    simpa [hl, releaseEffects, nothing] using logs
  | ok hook =>
    cases hm : metricsOutcome factory config (h.resource config version) (h.generation + 1) with
    | error payload =>
      have unwound := unwind_afterMetrics m factory config version h payload hl
      simpa [hl, hm] using called.trans unwound.2
    | ok bridge =>
      have attached := called.trans (reaches_attachTo (afterMetrics factory config version h)
        (sink.getD m.ownSink) hook)
      have told := reaches_reportStarted
        (attachTo (afterMetrics factory config version h) (sink.getD m.ownSink) hook)
        ⟨config, sink.getD m.ownSink, hook, bridge, []⟩
      rw [attached.clock] at told
      simpa [hl, hm, openingEffects] using attached.trans told

variable {m factory config version sink h} in
/-- A completed installation ends with the report of the pipeline that it has attached. -/
theorem host_install_of_product {p : Pipeline}
    (hp : product m factory config version sink h = .ok p) :
    (m.install factory config version sink h).2.2 =
      reportStarted (attachTo (afterMetrics factory config version h) p.sink p.logHook) p := by
  obtain ⟨hl, hm, contents⟩ := outcomes_of_product hp
  rw [install_eq, hl, hm, contents]

theorem isBacked_install {p : Pipeline} (hp : product m factory config version sink h = .ok p) :
    p.IsBacked (m.install factory config version sink h).2.2 := by
  obtain ⟨hl, hm, -⟩ := outcomes_of_product hp
  rw [host_install_of_product hp]
  exact isBacked_built factory config version h p hl hm

/-! ## Starts -/

variable {config}

theorem start_of_effective (on : config.isEffective = true) :
    m.start factory config version sink h =
      (m.retire h).1.install factory config version sink (m.retire h).2 := by
  obtain ⟨enabled, endpoint⟩ : config.enabled = true ∧ config.hasBlankEndpoint = false := by
    simpa [Config.isEffective] using on
  simp [start, Config.validate, enabled, endpoint]

theorem start_of_ineffective (off : config.isEffective = false) :
    m.start factory config version sink h =
        (.ok, m, h.report .info "OTEL integration is disabled" []) ∧ config.enabled = false ∨
      m.start factory config version sink h = (.refused .missingEndpoint, m, h) ∧
        config.enabled = true := by
  cases enabled : config.enabled with
  | false => exact Or.inl ⟨start_of_disabled enabled, rfl⟩
  | true =>
    have blank : config.hasBlankEndpoint = true := by simpa [Config.isEffective, enabled] using off
    exact Or.inr ⟨start_of_missing_endpoint enabled blank, rfl⟩

variable {m h}

/-- A start is of the same pipeline whether another one is replaced or not. -/
theorem product_retire (backed : ∀ p, m.active = some p → p.IsBacked h) :
    product (m.retire h).1 factory config version sink (m.retire h).2 =
      product m factory config version sink h := by
  have retired := reaches_replacement backed
  simp only [product, retired.generation, retired.resource, fst_retire]

theorem fst_start_of_effective (on : config.isEffective = true)
    (backed : ∀ p, m.active = some p → p.IsBacked h) :
    (m.start factory config version sink h).1 =
      match product m factory config version sink h with
      | .ok _ => .ok
      | .error payload =>
        .ofUnwinding payload (releaseWork factory config (h.resource config version)) := by
  rw [start_of_effective m factory version sink h on, fst_install,
    product_retire factory version sink backed, (reaches_replacement backed).resource]

theorem manager_start_of_effective (on : config.isEffective = true)
    (backed : ∀ p, m.active = some p → p.IsBacked h) :
    (m.start factory config version sink h).2.1 =
      { m with active := (product m factory config version sink h).toOption } := by
  rw [start_of_effective m factory version sink h on, manager_install,
    product_retire factory version sink backed, fst_retire]
  cases product m factory config version sink h <;> rfl

theorem isBacked_start_of_effective (on : config.isEffective = true)
    (backed : ∀ p, m.active = some p → p.IsBacked h) {p : Pipeline}
    (hp : product m factory config version sink h = .ok p) :
    p.IsBacked (m.start factory config version sink h).2.2 := by
  rw [start_of_effective m factory version sink h on]
  exact isBacked_install _ factory config version sink _
    ((product_retire factory version sink backed).trans hp)

variable {factory version sink}

/-- The components of a new pipeline are held under the number of its start, if they were asked for
and the calls have returned them, and it has no hooks. -/
theorem eq_of_product {p : Pipeline} (hp : product m factory config version sink h = .ok p) :
    p = ⟨config, sink.getD m.ownSink,
      if config.exportLogs && factory.returns .logs config (h.resource config version) then
        some (h.generation + 1) else none,
      if config.exportMetrics && factory.returns .metrics config (h.resource config version) then
        some (h.generation + 1) else none, []⟩ := by
  obtain ⟨hl, hm, contents⟩ := outcomes_of_product hp
  rw [contents, eq_of_logOutcome _ _ _ _ hl, eq_of_metricsOutcome _ _ _ _ hm]

theorem numbered_of_product {p : Pipeline}
    (hp : product m factory config version sink h = .ok p) :
    (p.logHook = none ∨ p.logHook = some (h.generation + 1)) ∧
      (p.bridge = none ∨ p.bridge = some (h.generation + 1)) ∧ p.hooks = [] := by
  have either : ∀ b : Bool, (if b then some (h.generation + 1) else none) = none ∨
      (if b then some (h.generation + 1) else none) = some (h.generation + 1) := by
    intro b
    cases b <;> simp
  rw [eq_of_product hp]
  exact ⟨either _, either _, rfl⟩

/-- What is reported at the end of an installation changes no component. -/
theorem components_opening (h : Host) (p : Pipeline) :
    (reportStarted (attachTo h p.sink p.logHook) p).emitters = h.emitters ∧
      (reportStarted (attachTo h p.sink p.logHook) p).bridges = h.bridges := by
  have told := Host.unwritten_report (attachTo h p.sink p.logHook)
  have emitters : (attachTo h p.sink p.logHook).emitters = h.emitters := by
    cases p.logHook <;> rfl
  have bridges : (attachTo h p.sink p.logHook).bridges = h.bridges := by
    cases p.logHook <;> rfl
  exact ⟨(Host.emitters_of_unwritten (told _ _ _)).trans emitters,
    (Host.bridges_of_unwritten (told _ _ _)).trans bridges⟩

/-- The components of a new pipeline are those that the calls of the factory have returned. -/
theorem components_install {p : Pipeline}
    (hp : product m factory config version sink h = .ok p) :
    (∀ e, config.exportLogs = true →
      factory.logs config (h.resource config version) = .built e →
        (m.install factory config version sink h).2.2.emitters[h.generation + 1]? = some e) ∧
    ∀ b, config.exportMetrics = true →
      factory.metrics config (h.resource config version) = .built b →
        (m.install factory config version sink h).2.2.bridges[h.generation + 1]? = some b := by
  rw [host_install_of_product hp, (components_opening _ p).1, (components_opening _ p).2]
  refine ⟨fun e wanted built => ?_, fun b wanted built => ?_⟩
  · exact getElem?_emitters_afterMetrics _ _ _ _ (by rw [wanted, built]; rfl)
  · exact getElem?_bridges_afterMetrics _ _ _ _ (by rw [wanted, built]; rfl)

end Manager

end Telemetry
