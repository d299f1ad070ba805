import Telemetry.Host

/-!
# Pipelines and their teardown

A pipeline is what a start has installed: the configuration, the sink, the emitter and the bridge
that were built, each of which may be missing, and the hooks registered since. Its teardown closes
the emitter, after the sink has let go of it, then shuts the bridge down, then runs the hooks in the
order of their registration. A step that fails keeps no later step from running; all failures are
collected in their order.

Main statements:

* `sinks_teardown`: a teardown frees the sink of a pipeline with an emitter, and no other.
* `failures_teardown`: the failures of a teardown are those of its three parts, in order.
-/

namespace Telemetry

/-- An installed pipeline. -/
structure Pipeline where
  config : Config
  sink : SinkName
  logHook : Option Generation
  bridge : Option Generation
  hooks : List Hook := []

namespace Manager

def target : String := "otel_bridge::manager"

end Manager

def Host.report (h : Host) (level : EventLevel) (message : String)
    (fields : List (String × Value)) : Host :=
  h.emit .manager (.report h.clock level Manager.target message fields)

/-- The failure of a step, if it failed. -/
def ShutdownFailure.ofResult (failure : ComponentError → ShutdownFailure) :
    Option (Except ComponentError Unit) → List ShutdownFailure
  | some (.error e) => [failure e]
  | _ => []

namespace Pipeline

/-! ## Teardown -/

/-- Frees the sink and closes the emitter, if there is one. Closing may take its usual time or what
remains until the deadline, whichever is shorter. -/
def closeLog (p : Pipeline) (deadline : Deadline) (h : Host) : List ShutdownFailure × Host :=
  match p.logHook with
  | none => ([], h)
  | some g =>
    let h := h.detach p.sink
    let (result, h) := h.closeEmitter g (Emitter.closeTimeout.min (deadline.remaining h.now))
    (ShutdownFailure.ofResult .logHook result, h)

/-- Shuts the bridge down, if there is one. -/
def closeMetrics (p : Pipeline) (deadline : Deadline) (h : Host) : List ShutdownFailure × Host :=
  match p.bridge with
  | none => ([], h)
  | some g =>
    let (result, h) := h.shutdownBridge g deadline
    (ShutdownFailure.ofResult .metricsBridge result, h)

def runHook (hook : Hook) (deadline : Deadline) (h : Host) : List ShutdownFailure × Host :=
  let run := hook.run deadline h.now
  let h := ((h.note (.hookRun hook deadline h.now)).emitAll .hook run.events).pass run.elapsed
  ((run.outcome.failure?.map (.callback hook.name)).toList, h)

def runHooks : List Hook → Deadline → Host → List ShutdownFailure × Host
  | [], _, h => ([], h)
  | hook :: rest, deadline, h =>
    let (failures, h) := runHook hook deadline h
    let (more, h) := runHooks rest deadline h
    (failures ++ more, h)

/-- The three parts of a teardown, in order, with their failures. -/
def dismantle (p : Pipeline) (deadline : Deadline) (h : Host) : List ShutdownFailure × Host :=
  let (logs, h) := p.closeLog deadline h
  let (metrics, h) := p.closeMetrics deadline h
  let (hooks, h) := runHooks p.hooks deadline h
  (logs ++ metrics ++ hooks, h)

/-- Takes a pipeline down. Only a teardown without failures is reported. -/
def teardown (p : Pipeline) (deadline : Deadline) (h : Host) : Except ShutdownError Unit × Host :=
  let (failures, h) := p.dismantle deadline h
  match ShutdownError.ofFailures? failures with
  | some e => (.error e, h)
  | none =>
    (.ok (), h.report .info "telemetry pipeline shut down"
      [("endpoint", .display p.config.endpoint)])

/-! ## What a teardown does to the sinks -/

theorem sinks_closeLog (p : Pipeline) (deadline : Deadline) (h : Host) :
    (p.closeLog deadline h).2.sinks =
      if p.logHook.isSome then (h.detach p.sink).sinks else h.sinks := by
  unfold closeLog
  split <;> rename_i found <;> simp [found]

theorem sinks_closeMetrics (p : Pipeline) (deadline : Deadline) (h : Host) :
    (p.closeMetrics deadline h).2.sinks = h.sinks := by
  unfold closeMetrics
  split
  · rfl
  · simp

theorem sinks_runHook (hook : Hook) (deadline : Deadline) (h : Host) :
    (runHook hook deadline h).2.sinks = h.sinks := by
  simp [runHook]

theorem sinks_runHooks (hooks : List Hook) (deadline : Deadline) (h : Host) :
    (runHooks hooks deadline h).2.sinks = h.sinks := by
  induction hooks generalizing h with
  | nil => rfl
  | cons hook rest ih => simp only [runHooks]; rw [ih, sinks_runHook]

theorem sinks_teardown (p : Pipeline) (deadline : Deadline) (h : Host) :
    (p.teardown deadline h).2.sinks =
      if p.logHook.isSome then (h.detach p.sink).sinks else h.sinks := by
  have dismantled : (p.dismantle deadline h).2.sinks =
      if p.logHook.isSome then (h.detach p.sink).sinks else h.sinks := by
    simp only [dismantle]
    rw [sinks_runHooks, sinks_closeMetrics, sinks_closeLog]
  simp only [teardown]
  split
  · exact dismantled
  · simpa [Host.report] using dismantled

/-- A teardown succeeds exactly if no part of it fails, and otherwise lists the failures of its
parts in order. -/
theorem failures_teardown (p : Pipeline) (deadline : Deadline) (h : Host) :
    (p.teardown deadline h).1 =
      match ShutdownError.ofFailures? (p.dismantle deadline h).1 with
      | some e => .error e
      | none => .ok () := by
  simp only [teardown]
  split <;> simp_all

end Pipeline

end Telemetry
