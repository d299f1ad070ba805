/-!
# Levels and severities

An entry has one of seven levels, numbered from the most severe one. An event has one of five
levels, each of which is also a level of entries. Every level has an OpenTelemetry severity, and a
number that is no level has the severity of information.

Main statements: `Level.ofCode?_code` and `Level.severity_lt_iff`.
-/

namespace Telemetry

/-- The OpenTelemetry severities in use. -/
inductive Severity
  | trace
  | debug
  | info
  | warn
  | error
  | fatal
  | fatal4
  deriving DecidableEq, Repr

namespace Severity

def number : Severity → Nat
  | trace => 1
  | debug => 5
  | info => 9
  | warn => 13
  | error => 17
  | fatal => 21
  | fatal4 => 24

def name : Severity → String
  | trace => "TRACE"
  | debug => "DEBUG"
  | info => "INFO"
  | warn => "WARN"
  | error => "ERROR"
  | fatal => "FATAL"
  | fatal4 => "FATAL4"

end Severity

/-- The levels of entries, most severe first. -/
inductive Level
  | panic
  | fatal
  | error
  | warn
  | info
  | debug
  | trace
  deriving DecidableEq, Repr

namespace Level

/-- Every level, most severe first. -/
def all : List Level := [panic, fatal, error, warn, info, debug, trace]

def code : Level → Nat
  | panic => 0
  | fatal => 1
  | error => 2
  | warn => 3
  | info => 4
  | debug => 5
  | trace => 6

def ofCode? (n : Nat) : Option Level := all[n]?

def text : Level → String
  | panic => "panic"
  | fatal => "fatal"
  | error => "error"
  | warn => "warning"
  | info => "info"
  | debug => "debug"
  | trace => "trace"

def name : Level → String
  | panic => "Panic"
  | fatal => "Fatal"
  | error => "Error"
  | warn => "Warn"
  | info => "Info"
  | debug => "Debug"
  | trace => "Trace"

def severity : Level → Severity
  | panic => .fatal4
  | fatal => .fatal
  | error => .error
  | warn => .warn
  | info => .info
  | debug => .debug
  | trace => .trace

/-- The severity of the level with a number, that of information if there is none. -/
def severityOfCode (n : Nat) : Severity :=
  (ofCode? n).elim .info severity

theorem ofCode?_code (l : Level) : ofCode? l.code = some l := by
  cases l <;> rfl

/-- The smaller the number, the higher the severity. -/
theorem severity_lt_iff (k l : Level) :
    k.severity.number < l.severity.number ↔ l.code < k.code := by
  cases k <;> cases l <;> decide

end Level

/-- The levels of events, most severe first. -/
inductive EventLevel
  | error
  | warn
  | info
  | debug
  | trace
  deriving DecidableEq, Repr

namespace EventLevel

/-- The level of the entry that an event becomes. -/
def toLevel : EventLevel → Level
  | error => .error
  | warn => .warn
  | info => .info
  | debug => .debug
  | trace => .trace

def name : EventLevel → String
  | error => "ERROR"
  | warn => "WARN"
  | info => "INFO"
  | debug => "DEBUG"
  | trace => "TRACE"

/-- How much is shown at a level: one for errors only, five for everything. -/
def verbosity : EventLevel → Nat
  | error => 1
  | warn => 2
  | info => 3
  | debug => 4
  | trace => 5

end EventLevel

end Telemetry
