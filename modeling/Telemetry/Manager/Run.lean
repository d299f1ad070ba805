import Telemetry.Manager.Basic

/-!
# Runs of a manager

A system is a manager and its host. What can be done to it, by the owner of the manager and by those
who hold its sinks and components, is an operation; every operation has an answer. A reading is
recorded on an instrument that is made for it. A worker of a component that was left behind begins
by itself, at any time, which is an operation too. A run is a list of operations, done in order.

Main statement: `run_append`.
-/

namespace Telemetry

/-- A manager in its host. -/
structure System where
  manager : Manager
  host : Host

/-- Something that is done to a system. Components are named by their generations. -/
inductive Operation
  | start (factory : Factory) (config : Config) (version : String) (sink : Option SinkName)
  | shutdown (deadline : Deadline)
  | addHook (hook : Hook)
  | event (event : Event)
  | fire (emitter : Generation) (entry : Entry)
  | updateLabels (emitter : Generation) (labels : List (String × String))
  | closeEmitter (emitter : Generation) (bound : Duration)
  | shutdownBridge (bridge : Generation) (deadline : Deadline)
  | record (bridge : Generation) (instrument : Instrument) (attributes : Attributes)
      (reading : Reading)
  | wake (signal : Signal) (component : Generation)

/-- What an operation answers. An operation on a component that does not exist answers with
nothing. -/
inductive Answer
  | done
  | started (result : StartResult)
  | stopped (result : Except ShutdownError Unit)
  | registered (accepted : Bool)
  | fired (result : Option (Except EmitError Unit))
  | closed (result : Option (Except ComponentError Unit))

namespace System

def step (s : System) : Operation → Answer × System
  | .start factory config version sink =>
    let (result, m, h) := s.manager.start factory config version sink s.host
    (.started result, ⟨m, h⟩)
  | .shutdown deadline =>
    let (result, m, h) := s.manager.shutdown deadline s.host
    (.stopped result, ⟨m, h⟩)
  | .addHook hook =>
    let (accepted, m) := s.manager.addHook hook
    (.registered accepted, { s with manager := m })
  | .event event => (.done, { s with host := s.host.emit .application event })
  | .fire g entry =>
    let (result, h) := s.host.fire g entry
    (.fired result, { s with host := h })
  | .updateLabels g labels => (.done, { s with host := s.host.updateLabels g labels })
  | .closeEmitter g bound =>
    let (result, h) := s.host.closeEmitter g bound
    (.closed result, { s with host := h })
  | .shutdownBridge g deadline =>
    let (result, h) := s.host.shutdownBridge g deadline
    (.closed result, { s with host := h })
  | .record g instrument attributes reading =>
    let live := s.host.offers g instrument
    (.done, { s with host := s.host.record g instrument attributes reading live })
  | .wake signal g => (.done, { s with host := s.host.wake signal g })

def run (s : System) (operations : List Operation) : System :=
  operations.foldl (fun s operation => (s.step operation).2) s

theorem run_append (s : System) (before after : List Operation) :
    s.run (before ++ after) = (s.run before).run after :=
  List.foldl_append

end System

end Telemetry
