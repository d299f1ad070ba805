import Std.Async.Signal
import Telemetry.Runner.Line
import Telemetry.Runner.Program

/-!
# Command line

The runner takes its settings from the environment, shows events on the standard output, and ends
when it is interrupted or terminated.
-/

open Telemetry Telemetry.Runner

namespace Telemetry.Runner.Command

/-- The content of a file, if it can be read. -/
def contentOf (path : String) : IO (Option String) := do
  try return some (← IO.FS.readFile path) catch _ => return none

/-- Splits a variable at the first equals sign. -/
def variableOf (text : String) : Option (String × String) :=
  (HeaderList.splitOnce '=' text.toList).map fun pair =>
    (String.ofList pair.1, String.ofList pair.2)

def environment : IO Environment := do
  let content := (← contentOf "/proc/self/environ").getD ""
  return (content.splitOn "\x00").filterMap variableOf

/-- The number of this process, the first word of its state. -/
def processNumber : IO Nat := do
  let content := (← contentOf "/proc/self/stat").getD ""
  return (((content.splitOn " ").head?.bind String.toNat?).getD 0)

def surroundings : IO Surroundings := do
  let names ← ["/proc/sys/kernel/hostname", "/etc/hostname"].mapM contentOf
  return {
    env := ← environment
    platform := ⟨"linux", "x86_64", ← processNumber, some "otel-runner"⟩
    machineNames := names
    now := ⟨← IO.monoNanosNow⟩ }

/-- Shows the events that a host has not shown yet. -/
def showEvents (filter : Filter) (shown : Nat) (h : Host) : IO Nat := do
  for event in Program.shown filter (h.journal.drop shown) do
    IO.println (Line.ofEvent event)
  (← IO.getStdout).flush
  return h.journal.length

/-- How often the program looks for a signal. -/
def patience : Duration := .ofMillis 50

/-- Goes on until a signal has arrived, which is looked for at a fixed interval. -/
partial def serve (arrived : IO Bool) (r : Running) (shown : Nat) : IO (Running × Nat) := do
  if ← arrived then return (r, shown)
  IO.sleep 50
  let r := Program.sleep r patience
  let shown ← showEvents r.filter shown r.system.host
  serve arrived r shown

end Telemetry.Runner.Command

open Telemetry.Runner.Command in
def main : IO UInt32 := do
  match Program.boot (← surroundings) with
  | .refused complaint =>
    IO.eprint complaint
    return 1
  | .running r complaints =>
    complaints.forM IO.eprintln
    let interrupt ← (← Std.Async.Signal.Waiter.mk .sigint false).wait
    let terminate ← (← Std.Async.Signal.Waiter.mk .sigterm false).wait
    let shown ← showEvents r.filter 0 r.system.host
    let arrived := do return (← IO.hasFinished interrupt) || (← IO.hasFinished terminate)
    let (r, shown) ← serve arrived r shown
    let ending := Program.stop r
    let _ ← showEvents r.filter shown ending.host
    IO.eprint ending.complaint
    return ending.exitCode.toUInt32
