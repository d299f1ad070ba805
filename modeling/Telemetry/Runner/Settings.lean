import Telemetry.Config.Environment
import Telemetry.Duration

/-!
# Settings of the runner

The runner has a log level, an interval between heartbeats and a bound on the shutdown, each with a
default. An interval or a bound of zero is refused, the interval first.

Main statement: `Settings.load_pos`, an interval and a bound that load are positive.
-/

namespace Telemetry.Runner

/-- The settings of the runner. -/
structure Settings where
  logLevel : String := "info"
  heartbeatSecs : Nat := 15
  shutdownSecs : Nat := 20
  deriving DecidableEq, Repr

/-- Why the settings are refused. -/
inductive SettingsError
  | mismatch (error : TypeMismatch)
  | zero (name : String)
  deriving DecidableEq, Repr

namespace SettingsError

/-- The text of the error, without what caused it. -/
def summary : SettingsError → String
  | mismatch _ => "failed to deserialise runner configuration"
  | zero name => name ++ " must be greater than zero"

/-- The text of what caused the error. -/
def cause? : SettingsError → Option String
  | mismatch error => some error.message
  | zero _ => none

/-- The text of the error and of its cause on one line. -/
def message (e : SettingsError) : String :=
  e.summary ++ e.cause?.elim "" (": " ++ ·)

/-- The text of the error with its cause in a paragraph of its own. -/
def report (e : SettingsError) : String :=
  e.summary ++ e.cause?.elim "" ("\n\nCaused by:\n    " ++ ·)

end SettingsError

namespace Settings

def group : String := "OTEL_RUNNER"

def heartbeatInterval (s : Settings) : Duration := .ofSecs s.heartbeatSecs

def shutdownTimeout (s : Settings) : Duration := .ofSecs s.shutdownSecs

def read (s : Telemetry.Settings) : Except TypeMismatch Settings := do
  let d : Settings := {}
  return {
    logLevel := ← s.readText "log_level" d.logLevel
    heartbeatSecs := ← s.readCount "heartbeat_interval_secs" d.heartbeatSecs
    shutdownSecs := ← s.readCount "shutdown_timeout_secs" d.shutdownSecs }

/-- Refuses an interval or a bound of zero. -/
def check (s : Settings) : Except SettingsError Settings :=
  if s.heartbeatSecs = 0 then .error (.zero "OTEL_RUNNER_HEARTBEAT_INTERVAL_SECS")
  else if s.shutdownSecs = 0 then .error (.zero "OTEL_RUNNER_SHUTDOWN_TIMEOUT_SECS")
  else .ok s

/-- Loads the settings from the environment. -/
def load (env : Environment) : Except SettingsError Settings :=
  match read (.ofEnvironment group env) with
  | .error mismatch => .error (.mismatch mismatch)
  | .ok settings => settings.check

theorem check_pos {s t : Settings} (h : s.check = .ok t) :
    0 < t.heartbeatSecs ∧ 0 < t.shutdownSecs := by
  unfold check at h
  split at h
  · cases h
  · split at h
    · cases h
    · cases h; omega

theorem load_pos {env : Environment} {t : Settings} (h : load env = .ok t) :
    0 < t.heartbeatSecs ∧ 0 < t.shutdownSecs := by
  unfold load at h
  split at h
  · cases h
  · exact check_pos h

end Settings

end Telemetry.Runner
