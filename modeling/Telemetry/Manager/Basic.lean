import Telemetry.Manager.Factory
import Telemetry.Manager.Pipeline

/-!
# Managers

A manager holds at most one active pipeline. A start with telemetry off does nothing, a start
without an endpoint is refused, and every other start takes the active pipeline down first, if there
is one, and then builds the components that are asked for. A component that cannot be built is
missing from the new pipeline, which is installed without it. A factory that panics ends the start,
with no pipeline active. If it panics over the bridge, the emitter that it has built before is let go
while the panic unwinds: a processor that panics then ends the whole process, and one that hangs
keeps the start from ever ending.

Main statements:

* `start_of_disabled`, `start_of_missing_endpoint`: the starts that leave everything as it is.
* `active_shutdown`: after a shutdown nothing is active.
-/

namespace Telemetry

/-- An owner of the active pipeline. Its own sink is used by starts that name none. -/
structure Manager where
  ownSink : SinkName
  active : Option Pipeline := none

/-- How a start ends: it returns, it panics, a second panic on the way out ends the process, or it
does not end. After an end of the last two kinds nobody gets hold of the manager any more. -/
inductive StartResult
  | ok
  | refused (error : SetupError)
  | panicked (payload : PanicPayload)
  | aborted
  | stuck
  deriving DecidableEq, Repr

/-- How a start ends that panics, when the work of letting its emitter go is done on the way out. -/
def StartResult.ofUnwinding {α : Type} (payload : PanicPayload) : Work α → StartResult
  | .returns .. => panicked payload
  | .panics _ => aborted
  | .hangs => stuck

namespace Manager

/-- How long taking down a pipeline may take that a start replaces. -/
def replaceTimeout : Duration := .ofSecs 30

def isActive (m : Manager) : Bool := m.active.isSome

def logHook (m : Manager) : Option Generation := m.active.bind (·.logHook)

def bridge (m : Manager) : Option Generation := m.active.bind (·.bridge)

def sinkDescription (h : Host) (sink : SinkName) : String :=
  "LogSink \x7b attached: " ++ toString (h.isAttached sink) ++ " \x7d"

/-- A short description of a manager and its own sink. -/
def description (m : Manager) (h : Host) : String :=
  "Manager \x7b active: " ++ toString m.isActive ++ ", sink: " ++ sinkDescription h m.ownSink ++
    ", .. \x7d"

/-! ## Shutdown -/

/-- Takes the active pipeline down, if there is one. -/
def shutdown (m : Manager) (deadline : Deadline) (h : Host) :
    Except ShutdownError Unit × Manager × Host :=
  match m.active with
  | none => (.ok (), m, h)
  | some p =>
    let (result, h) := p.teardown deadline h
    (result, { m with active := none }, h)

/-- Registers a hook with the active pipeline, if there is one. -/
def addHook (m : Manager) (hook : Hook) : Bool × Manager :=
  match m.active with
  | none => (false, m)
  | some p => (true, { m with active := some { p with hooks := p.hooks ++ [hook] } })

/-! ## Start -/

/-- Takes the active pipeline down for another one. A teardown that fails is reported and has no
other consequence. -/
def retire (m : Manager) (h : Host) : Manager × Host :=
  match m.active with
  | none => (m, h)
  | some _ =>
    let h := h.report .info "replacing active telemetry pipeline" []
    let (result, m, h) := m.shutdown (.after h.now replaceTimeout) h
    match result with
    | .ok () => (m, h)
    | .error e =>
      (m, h.report .warn "previous telemetry pipeline did not shut down cleanly"
        [("error", .display e.message)])

/-- Builds one component, if it is asked for, and reports the error if that fails. -/
def buildWith {α : Type} (h : Host) (signal : Signal) (wanted : Bool) (config : Config)
    (resource : Resource) (failed : String) (build : Config → Resource → Build α) :
    Except PanicPayload (Option α) × Host :=
  if !wanted then (.ok none, h)
  else
    let h := h.note (.built signal config resource)
    match build config resource with
    | .built component => (.ok (some component), h)
    | .failed e => (.ok none, h.report .error failed [("error", .display e.message)])
    | .panicked payload => (.error payload, h)

def buildEmitter (h : Host) (factory : Factory) (config : Config) (resource : Resource)
    (g : Generation) : Except PanicPayload (Option Generation) × Host :=
  match buildWith h .logs config.exportLogs config resource
      "failed to create OTLP log exporter; log export disabled" factory.logs with
  | (.error payload, h) => (.error payload, h)
  | (.ok none, h) => (.ok none, h)
  | (.ok (some emitter), h) => (.ok (some g), h.setEmitter g emitter)

def buildBridge (h : Host) (factory : Factory) (config : Config) (resource : Resource)
    (g : Generation) : Except PanicPayload (Option Generation) × Host :=
  match buildWith h .metrics config.exportMetrics config resource
      "failed to create OTLP metric reader; metric export disabled" factory.metrics with
  | (.error payload, h) => (.error payload, h)
  | (.ok none, h) => (.ok none, h)
  | (.ok (some bridge), h) => (.ok (some g), h.setBridge g bridge)

/-- The event that a pipeline has been installed. -/
def reportStarted (h : Host) (p : Pipeline) : Host :=
  h.report .info "telemetry pipeline started; SDK diagnostics are reported through tracing"
    [("endpoint", .display p.config.endpoint), ("protocol", .str p.config.protocol.name),
      ("logs", .bool p.logHook.isSome), ("metrics", .bool p.bridge.isSome)]

/-- Lets a sink hold the emitter of a pipeline, if there is one. -/
def attachTo (h : Host) (sink : SinkName) : Option Generation → Host
  | none => h
  | some g => h.attach sink g

/-- Ends a start that panics. An emitter that was built before is let go. -/
def unwind (m : Manager) (payload : PanicPayload) (logHook : Option Generation) (h : Host) :
    StartResult × Manager × Host :=
  match logHook with
  | none => (.panicked payload, m, h)
  | some g =>
    let (work, h) := h.dropEmitter g
    (.ofUnwinding payload work, m, h)

/-- Builds and installs a pipeline where none is active. -/
def install (m : Manager) (factory : Factory) (config : Config) (version : String)
    (sink : Option SinkName) (h : Host) : StartResult × Manager × Host :=
  let g := h.generation + 1
  let h := { h with generation := g }
  let resource := h.resource config version
  let h := h.emitAll .manager (Resource.warnings h.clock (Resource.hostName? h.hostNames))
  match buildEmitter h factory config resource g with
  | (.error payload, h) => (.panicked payload, m, h)
  | (.ok logHook, h) =>
    match buildBridge h factory config resource g with
    | (.error payload, h) => m.unwind payload logHook h
    | (.ok bridge, h) =>
      let sink := sink.getD m.ownSink
      let pipeline : Pipeline := ⟨config, sink, logHook, bridge, []⟩
      let h := reportStarted (attachTo h sink logHook) pipeline
      (.ok, { m with active := some pipeline }, h)

/-- Starts, or restarts, the pipeline of a configuration. -/
def start (m : Manager) (factory : Factory) (config : Config) (version : String)
    (sink : Option SinkName) (h : Host) : StartResult × Manager × Host :=
  if !config.enabled then (.ok, m, h.report .info "OTEL integration is disabled" [])
  else
    match config.validate with
    | .error e => (.refused e, m, h)
    | .ok () =>
      let (m, h) := m.retire h
      m.install factory config version sink h

theorem start_of_disabled {m : Manager} {factory : Factory} {config : Config} {version : String}
    {sink : Option SinkName} {h : Host} (off : config.enabled = false) :
    m.start factory config version sink h =
      (.ok, m, h.report .info "OTEL integration is disabled" []) := by
  simp [start, off]

theorem start_of_missing_endpoint {m : Manager} {factory : Factory} {config : Config}
    {version : String} {sink : Option SinkName} {h : Host} (on : config.enabled = true)
    (blank : config.hasBlankEndpoint = true) :
    m.start factory config version sink h = (.refused .missingEndpoint, m, h) := by
  simp [start, Config.validate, on, blank]

theorem active_shutdown (m : Manager) (deadline : Deadline) (h : Host) :
    (m.shutdown deadline h).2.1.active = none := by
  unfold shutdown
  split
  · assumption
  · rfl

end Manager

end Telemetry
