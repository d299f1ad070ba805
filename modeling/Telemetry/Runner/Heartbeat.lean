import Telemetry.Manager.Run

/-!
# Heartbeats

A heartbeat ticks at once and then at a fixed interval, as long as it runs. A tick that finds a
metrics bridge counts one heartbeat and records how long the heartbeat has run; a tick that finds
none records nothing. The instruments belong to one bridge; at a tick that finds another one, or the
first one after a tick that found none, they are made anew, which is reported. Instruments that are
made after the bridge was shut down record nothing, those made before go on.

An interval of zero makes the heartbeat panic, which shows when it is stopped. An owner of
heartbeats stops the latest one only; the others go on by themselves, and each holds the manager.

Main statements:

* `ticksWithin_eq_zero_iff`: no tick is due before the next one.
* `holders_stop`: stopping one heartbeat frees the manager of it and of no other.
-/

namespace Telemetry.Runner

/-- The instruments of a heartbeat: the bridge that they belong to, and whether they record. -/
structure Binding where
  bridge : Generation
  live : Bool
  deriving DecidableEq, Repr

/-- Gives a reading to an instrument of a binding. -/
def Binding.record (binding : Binding) (instrument : Instrument) (reading : Reading) (h : Host) :
    Host :=
  h.record binding.bridge instrument ∅ reading binding.live

/-- A heartbeat that runs. -/
structure Heartbeat where
  interval : Duration
  untilNext : Duration
  uptime : Duration := .zero
  bound : Option Binding := none
  deriving DecidableEq, Repr

namespace Heartbeat

def meter : String := "otel-runner"

/-- The target of the events of the heartbeat. -/
def target : String := "otel_runner::heartbeat"

def beats : Instrument where
  meter := meter
  name := "otel_runner.heartbeats"
  description := "Heartbeat ticks since the runner started"
  kind := .counter

/-- How long the heartbeat has run. -/
def uptimeSeconds : Instrument where
  meter := meter
  name := "otel_runner.uptime_seconds"
  description := "Seconds since the runner started"
  unit := "s"
  kind := .secondsGauge

def report (h : Host) (level : EventLevel) (message : String) (fields : List (String × Value)) :
    Host :=
  h.emit .heartbeat (.report h.clock level target message fields)

/-- The instruments for a bridge, which are made unless they belong to it already. -/
def bind (b : Heartbeat) (g : Generation) (h : Host) : Binding × Host :=
  match b.bound.filter (·.bridge = g) with
  | some binding => (binding, h)
  | none => (⟨g, h.offers g beats⟩,
      report h .debug "binding heartbeat instruments to metrics bridge" [])

/-- One tick, which finds a bridge or none. -/
def tick (b : Heartbeat) (bridge : Option Generation) (h : Host) : Heartbeat × Host :=
  match bridge with
  | none => ({ b with bound := none }, h)
  | some g =>
    let (binding, h) := b.bind g h
    ({ b with bound := some binding },
      binding.record uptimeSeconds (.seconds b.uptime) (binding.record beats (.whole 1) h))

/-- The ticks that are due within some time, its end included. -/
def ticksWithin (b : Heartbeat) (d : Duration) : Nat :=
  if d.nanos < b.untilNext.nanos then 0
  else 1 + (d.nanos - b.untilNext.nanos) / b.interval.nanos

/-- Lets a heartbeat tick several times, an interval apart. -/
def beat (bridge : Option Generation) : Nat → Heartbeat → Host → Heartbeat × Host
  | 0, b, h => (b, h)
  | n + 1, b, h =>
    let due := { b with uptime := b.uptime.add b.untilNext, untilNext := b.interval }
    let (b, h) := due.tick bridge h
    beat bridge n b h

/-- Lets time go by for a heartbeat. -/
def sleep (b : Heartbeat) (d : Duration) (bridge : Option Generation) (h : Host) :
    Heartbeat × Host :=
  let awake := b.uptime.add d
  let (b, h) := beat bridge (b.ticksWithin d) b h
  ({ b with uptime := awake, untilNext := (b.uptime.add b.untilNext).sub awake }, h)

theorem ticksWithin_eq_zero_iff {b : Heartbeat} {d : Duration} :
    b.ticksWithin d = 0 ↔ d.nanos < b.untilNext.nanos := by
  unfold ticksWithin
  split <;> rename_i h
  · simp [h]
  · exact iff_of_false (by simp) h

end Heartbeat

/-- The task of a heartbeat: it runs, or it has panicked. -/
inductive Task
  | beating (heartbeat : Heartbeat)
  | panicked
  deriving DecidableEq, Repr

namespace Task

/-- The text of the error of a heartbeat without an interval. -/
def panicText : String :=
  "task <id> panicked with message \"`period` must be non-zero.\""

/-- Starts a heartbeat, which ticks at once. -/
def spawn (interval : Duration) (bridge : Option Generation) (h : Host) : Task × Host :=
  if interval = .zero then (.panicked, h)
  else
    let (b, h) := Heartbeat.tick ⟨interval, interval, .zero, none⟩ bridge h
    (.beating b, h)

/-- Lets time go by for a task. -/
def sleep (t : Task) (d : Duration) (bridge : Option Generation) (h : Host) : Task × Host :=
  match t with
  | beating b =>
    let (b, h) := b.sleep d bridge h
    (.beating b, h)
  | panicked => (.panicked, h)

/-- Stops a task. One that has panicked is reported. -/
def stop (t : Task) (h : Host) : Host :=
  match t with
  | beating _ => h
  | panicked => Heartbeat.report h .warn "heartbeat task failed" [("error", .display panicText)]

def isRunning : Task → Bool
  | beating _ => true
  | panicked => false

end Task

/-- The heartbeats of one owner: the latest, if it was not stopped, and those started before it. -/
structure Heartbeats where
  latest : Option Task := none
  others : List Task := []

namespace Heartbeats

/-- Starts a heartbeat. The latest one so far goes on by itself. -/
def spawn (t : Heartbeats) (interval : Duration) (bridge : Option Generation) (h : Host) :
    Heartbeats × Host :=
  let (task, h) := Task.spawn interval bridge h
  (⟨some task, t.latest.toList ++ t.others⟩, h)

/-- Lets time go by for tasks, one after the other. -/
def sleepAll (d : Duration) (bridge : Option Generation) : List Task → Host → List Task × Host
  | [], h => ([], h)
  | task :: rest, h =>
    let (task, h) := task.sleep d bridge h
    let (rest, h) := sleepAll d bridge rest h
    (task :: rest, h)

/-- Lets time go by for all heartbeats. -/
def sleep (t : Heartbeats) (d : Duration) (bridge : Option Generation) (h : Host) :
    Heartbeats × Host :=
  let (others, h) := sleepAll d bridge t.others h
  match t.latest with
  | none => (⟨none, others⟩, h)
  | some task =>
    let (task, h) := task.sleep d bridge h
    (⟨some task, others⟩, h)

/-- Stops the latest heartbeat, if there is one. -/
def stop (t : Heartbeats) (h : Host) : Heartbeats × Host :=
  ({ t with latest := none }, t.latest.elim h (·.stop h))

/-- How many hold the manager: the owner, and every heartbeat that runs. -/
def holders (t : Heartbeats) : Nat :=
  1 + (t.latest.toList ++ t.others).countP Task.isRunning

theorem holders_stop (t : Heartbeats) (h : Host) :
    t.holders = (t.stop h).1.holders + t.latest.toList.countP Task.isRunning := by
  simp [holders, stop]
  omega

end Heartbeats

end Telemetry.Runner
