import Telemetry.Config.Loading
import Telemetry.Runner.Filter
import Telemetry.Runner.Heartbeat
import Telemetry.Runner.Settings

/-!
# The runner

The runner loads its own settings and those of telemetry, starts the pipeline and a heartbeat, and
goes on until it is told to stop. Then it stops the heartbeat and takes the pipeline down within the
time that its settings allow. Events that its filter admits are shown as lines; what keeps it from
starting, and a shutdown that is not complete, goes to the error output.

Main statement: `boot_of_settings_error`, the settings of the runner are looked at first.
-/

namespace Telemetry.Runner

/-- What a program finds when it starts. The attributes that its resource is built on and what
stands behind its exporters are given by the SDK. -/
structure Surroundings where
  env : Environment
  platform : Platform
  machineNames : List (Option String) := []
  now : Instant := .zero
  clock : Timestamp := 0
  baseResource : Resource := ∅
  sdk : Sdk := {}

/-- A program that has started. -/
structure Running where
  settings : Settings
  system : System
  task : Task
  filter : Filter

/-- How a start of the program ends. -/
inductive Boot
  | refused (complaint : String)
  | running (running : Running) (complaints : List String)

/-- How the program ends. -/
structure Ending where
  exitCode : Nat
  complaint : String := ""
  host : Host

namespace Program

def version : String := "0.1.0"

/-- The target of the events of the program. -/
def target : String := "otel_runner"

def sink : SinkName := "default"

/-- The variable with the preferred filter. -/
def filterVariable : String := "RUST_LOG"

def report (h : Host) (level : EventLevel) (message : String) (fields : List (String × Value)) :
    Host :=
  h.emit .application (.report h.clock level target message fields)

/-- The complaint about settings that are refused. -/
def refusal (what summary detail : String) : String :=
  "ERROR: " ++ what ++ " invalid: " ++ summary ++ "\nError: " ++ detail ++ "\n"

/-- The host that a program works in, with one layer, which admits what the filter admits. -/
def hostOf (s : Surroundings) (filter : Filter) : Host where
  now := s.now
  clock := s.clock
  platform := s.platform
  baseResource := s.baseResource
  hostNames := ["HOSTNAME", "COMPUTERNAME"].map (TextMap.lastValue? · s.env) ++ s.machineNames
  layers := [⟨sink, filter.admits⟩]

/-- Labels the emitter of a manager with the number of the process. -/
def label (m : Manager) (h : Host) : Host :=
  m.logHook.elim h fun g => h.updateLabels g [("runner.pid", toString h.platform.pid)]

/-- Starts the pipeline and the heartbeat of a program whose settings are in order. -/
def launch (s : Surroundings) (settings : Settings) (config : Config) : Boot :=
  let (filter, complaints) :=
    Filter.choose (TextMap.lastValue? filterVariable s.env) settings.logLevel
  let (result, m, h) := (⟨sink, none⟩ : Manager).start (.otlp s.sdk true s.env) config version none
    (hostOf s filter)
  match result with
  | .refused e =>
    .refused ("Error: failed to start telemetry pipeline\n\nCaused by:\n    " ++ e.message ++ "\n")
  | .panicked payload => .refused (payload.message ++ "\n")
  -- nothing is said where the process breaks off or hangs, which no OTLP factory makes it do
  | .aborted | .stuck => .refused ""
  | .ok =>
    let h := report (label m h) .info "otel-runner starting"
      [("version", .str version), ("telemetry", .bool m.isActive),
        ("endpoint", .display config.endpoint)]
    let (task, h) := Task.spawn settings.heartbeatInterval m.bridge h
    .running ⟨settings, ⟨m, h⟩, task, filter⟩ complaints

def boot (s : Surroundings) : Boot :=
  match Settings.load s.env with
  | .error e => .refused (refusal "configuration" e.summary e.report)
  | .ok settings =>
    match (Config.load s.env s.clock).result with
    | .error e => .refused (refusal "telemetry configuration" e.message e.message)
    | .ok config => launch s settings config

/-- Lets time go by for a program. -/
def sleep (r : Running) (d : Duration) : Running :=
  let (task, h) := r.task.sleep d r.system.manager.bridge r.system.host
  { r with task := task, system := { r.system with host := h.pass d } }

/-- Ends the program after it was told to stop. A time for the shutdown that the clock cannot hold
makes it panic. -/
def stop (r : Running) : Ending :=
  let h := report r.system.host .info "shutdown signal received; flushing telemetry" []
  let h := r.task.stop h
  match Deadline.after? h.now r.settings.shutdownTimeout with
  | none => ⟨101, Deadline.overflowText ++ "\n", h⟩
  | some deadline =>
    match r.system.manager.shutdown deadline h with
    | (.ok (), _, h) => ⟨0, "", h⟩
    | (.error e, _, h) =>
      ⟨1, "Error: " ++ e.message ++ "\n",
        report h .error "telemetry shutdown incomplete" [("error", .display e.message)]⟩

/-- The events in a journal that a filter admits. -/
def shown (filter : Filter) (journal : List Effect) : List Event :=
  journal.filterMap fun
    | .emitted _ event => if filter.admits event then some event else none
    | _ => none

theorem boot_of_settings_error {s : Surroundings} {e : SettingsError}
    (h : Settings.load s.env = .error e) :
    boot s = .refused (refusal "configuration" e.summary e.report) := by
  simp [boot, h]

end Program

end Telemetry.Runner
