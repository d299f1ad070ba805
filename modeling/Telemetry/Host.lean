import Std.Data.ExtTreeMap
import Telemetry.Endpoint
import Telemetry.Hook
import Telemetry.Log.Emitter
import Telemetry.Log.Target
import Telemetry.Metrics.Bridge
import Telemetry.Resource

/-!
# The host process

A host is what managers work in: the clocks, the log sinks with the layers that listen to them, the
components that factories have built, and a journal of all that has happened. A component is known
by its generation, the number of the start that built it, and goes on existing for those who hold it
when no pipeline holds it any more.

An event goes through every layer. A layer that admits it forwards it to the emitter that its sink
holds, unless the event comes from a library that carries telemetry out.

Closing a component starts a worker. One that has not begun when nobody waits for it any more begins
later, at any time, and shuts the component down then.

Main statements:

* `unwritten_emit`: an event changes nothing but the journal.
* `sinks_closeEmitter`, `sinks_shutdownBridge`: closing a component changes no sink.
-/

namespace Telemetry

/-- The name of a log sink. -/
abbrev SinkName := String

/-- The number of the start that built a component. -/
abbrev Generation := Nat

/-- Who reports an event. -/
inductive Origin
  | application
  | manager
  | component
  | hook
  | heartbeat
  deriving DecidableEq, Repr

/-- Something that has happened. -/
inductive Effect
  | built (signal : Signal) (config : Config) (resource : Resource)
  | attached (sink : SinkName) (emitter : Generation)
  | detached (sink : SinkName)
  | emitted (origin : Origin) (event : Event)
  | forwarded (sink : SinkName) (emitter : Generation) (entry : Entry)
  | handed (emitter : Generation) (record : Record)
  | dropped (emitter : Generation) (error : EmitError)
  | closeRequested (emitter : Generation) (bound : Duration)
  | shutdownRequested (bridge : Generation) (deadline : Deadline)
  | shutDown (signal : Signal) (component : Generation)
  | collected (bridge : Generation) (series : List Series)
  | hookRun (hook : Hook) (deadline : Deadline) (now : Instant)
  | recorded (bridge : Generation) (instrument : Instrument) (attributes : Attributes)
      (reading : Reading) (live : Bool)

/-- A listener that forwards the events that it admits to the emitter that a sink holds. -/
structure Layer where
  sink : SinkName
  admits : Event → Bool := fun _ => true

/-- A process that managers work in. What has happened is kept with the latest first. -/
structure Host where
  now : Instant := .zero
  clock : Timestamp := 0
  ambient : Ambient := {}
  hostNames : List (Option String) := []
  platform : Platform
  baseResource : Resource := ∅
  layers : List Layer := []
  sinks : Std.ExtTreeMap SinkName Generation := ∅
  emitters : Std.ExtTreeMap Generation Emitter := ∅
  bridges : Std.ExtTreeMap Generation Bridge := ∅
  generation : Generation := 0
  past : List Effect := []

namespace Host

/-! ## Elementary changes -/

/-- All that has happened, in order. -/
def journal (h : Host) : List Effect := h.past.reverse

/-- Adds to the journal. -/
def note (h : Host) (effect : Effect) : Host :=
  { h with past := effect :: h.past }

/-- Lets time pass. -/
def pass (h : Host) (d : Duration) : Host :=
  { h with now := h.now.add d }

/-- Puts an emitter under its generation. -/
def setEmitter (h : Host) (g : Generation) (e : Emitter) : Host :=
  { h with emitters := h.emitters.insert g e }

/-- Puts a bridge under its generation. -/
def setBridge (h : Host) (g : Generation) (b : Bridge) : Host :=
  { h with bridges := h.bridges.insert g b }

def attach (h : Host) (sink : SinkName) (g : Generation) : Host :=
  { h.note (.attached sink g) with sinks := h.sinks.insert sink g }

def detach (h : Host) (sink : SinkName) : Host :=
  { h.note (.detached sink) with sinks := h.sinks.erase sink }

def isAttached (h : Host) (sink : SinkName) : Bool := h.sinks[sink]?.isSome

/-- The resource of a configuration in this process. -/
def resource (h : Host) (c : Config) (version : String) : Resource :=
  .build h.baseResource h.platform c version (Resource.hostName? h.hostNames)

/-- The host with an empty journal. -/
def unwritten (h : Host) : Host := { h with past := [] }

/-! ## Records, labels and readings -/

/-- Notes records that the processor of an emitter was handed. -/
def noteHanded (h : Host) (g : Generation) (records : List Record) : Host :=
  records.foldl (fun h r => h.note (.handed g r)) h

/-- Emits an entry through an emitter, if there is one. -/
def fire (h : Host) (g : Generation) (entry : Entry) : Option (Except EmitError Unit) × Host :=
  match h.emitters[g]? with
  | none => (none, h)
  | some e =>
    let firing := e.fire h.ambient h.clock entry
    let h := { h with ambient := firing.ambient }.setEmitter g firing.emitter
    (some firing.result, h.noteHanded g firing.handed)

/-- Sets labels of an emitter, if there is one. -/
def updateLabels (h : Host) (g : Generation) (labels : List (String × String)) : Host :=
  h.emitters[g]?.elim h fun e => h.setEmitter g (e.update labels)

/-- Whether a bridge makes an instrument that records anything. -/
def offers (h : Host) (g : Generation) (instrument : Instrument) : Bool :=
  h.bridges[g]?.any (·.offers instrument)

/-- Gives a reading to an instrument of a bridge, if there is one. The instrument is live, or it
records nothing. -/
def record (h : Host) (g : Generation) (instrument : Instrument) (attributes : Attributes)
    (reading : Reading) (live : Bool) : Host :=
  h.bridges[g]?.elim h fun b =>
    (h.note (.recorded g instrument attributes reading live)).setBridge g
      (if live then b.record instrument attributes reading else b)

/-! ## Events -/

/-- Notes the loss of a record, if emission failed. -/
def noteLoss (h : Host) (g : Generation) : Option (Except EmitError Unit) → Host
  | some (.error e) => h.note (.dropped g e)
  | _ => h

/-- Takes an event through a layer. A record that is lost on the way is noted and has no other
consequence. -/
def forward (h : Host) (event : Event) (layer : Layer) : Host :=
  if !layer.admits event || Target.isOfTransport event.target then h
  else
    match h.sinks[layer.sink]? with
    | none => h
    | some g =>
      let entry := Entry.ofEvent event
      let (result, h) := (h.note (.forwarded layer.sink g entry)).fire g entry
      h.noteLoss g result

/-- Reports an event, which goes through every layer. -/
def emit (h : Host) (origin : Origin) (event : Event) : Host :=
  h.layers.foldl (fun h layer => h.forward event layer) (h.note (.emitted origin event))

def emitAll (h : Host) (origin : Origin) (events : List Event) : Host :=
  events.foldl (fun h event => h.emit origin event) h

/-! ## Closing components -/

/-- Notes that a component is shut down, if its processor or reader was asked. -/
def noteShutDown (h : Host) (signal : Signal) (g : Generation) (asked : Bool) : Host :=
  if asked then h.note (.shutDown signal g) else h

/-- Notes what the reader of a bridge collected, if it did. -/
def noteCollected (h : Host) (g : Generation) (collected : Option (List Series)) : Host :=
  collected.elim h fun series => h.note (.collected g series)

/-- Asks an emitter to close and waits no longer than a bound. -/
def closeEmitter (h : Host) (g : Generation) (bound : Duration) :
    Option (Except ComponentError Unit) × Host :=
  match h.emitters[g]? with
  | none => (none, h)
  | some e =>
    let closing := e.closeWithin bound
    let h := (h.note (.closeRequested g bound)).setEmitter g closing.emitter
    let h := h.noteShutDown .logs g closing.asked
    (some closing.result, (h.emitAll .component closing.events).pass closing.elapsed)

/-- Asks a bridge to shut down and waits for it until a deadline. -/
def shutdownBridge (h : Host) (g : Generation) (deadline : Deadline) :
    Option (Except ComponentError Unit) × Host :=
  match h.bridges[g]? with
  | none => (none, h)
  | some b =>
    let closing := b.shutdown deadline h.now
    let h := (h.note (.shutdownRequested g deadline)).setBridge g closing.bridge
    let h := (h.noteShutDown .metrics g closing.asked).noteCollected g closing.collected
    (some closing.result, (h.emitAll .component closing.events).pass closing.elapsed)

/-- Lets a worker begin that was left behind when an emitter was closed, if there is one. -/
def wakeEmitter (h : Host) (g : Generation) : Host :=
  match h.emitters[g]? with
  | none => h
  | some e =>
    if e.workers.waiting = 0 then h
    else
      let request := e.provider.shutdown
      let h := (h.setEmitter g e.closeLate).noteShutDown .logs g request.asked
      h.emitAll .component request.events

/-- Lets a worker begin that was left behind when a bridge was shut down, if there is one. -/
def wakeBridge (h : Host) (g : Generation) : Host :=
  match h.bridges[g]? with
  | none => h
  | some b =>
    if b.workers.waiting = 0 then h
    else
      let request := b.shutReader
      let h := (h.setBridge g b.shutdownLate).noteShutDown .metrics g request.asked
      (h.noteCollected g request.collected).emitAll .component request.events

/-- Lets a worker of a component begin that was left behind, if there is one. -/
def wake (h : Host) : Signal → Generation → Host
  | .logs, g => h.wakeEmitter g
  | .metrics, g => h.wakeBridge g

/-- Lets an emitter go that nobody holds. Its provider is shut down on the way, by the thread that
lets go, unless a worker that was left behind still holds it. The work says how that ends. -/
def dropEmitter (h : Host) (g : Generation) : Work (Except ProviderError Unit) × Host :=
  match h.emitters[g]? with
  | none => (.returns .zero (.ok ()), h)
  | some e =>
    if e.workers.waiting = 0 then
      let request := e.provider.shutdown
      let h := { h with emitters := h.emitters.erase g }.noteShutDown .logs g request.asked
      (request.work, (h.emitAll .component request.events).pass request.work.time)
    else (.returns .zero (.ok ()), h)

/-! ## What events change -/

@[simp] theorem unwritten_note (h : Host) (effect : Effect) :
    (h.note effect).unwritten = h.unwritten := rfl

@[simp] theorem unwritten_noteHanded (h : Host) (g : Generation) (records : List Record) :
    (h.noteHanded g records).unwritten = h.unwritten := by
  unfold noteHanded
  induction records generalizing h with
  | nil => rfl
  | cons record rest ih => rw [List.foldl_cons, ih, unwritten_note]

theorem setEmitter_self {h : Host} {g : Generation} {e : Emitter}
    (found : h.emitters[g]? = some e) : h.setEmitter g e = h := by
  have same : h.emitters.insert g e = h.emitters := by
    refine Std.ExtTreeMap.ext_getElem? fun {k} => ?_
    simp only [Std.ExtTreeMap.getElem?_insert, Std.LawfulEqOrd.compare_eq_iff_eq]
    split
    · rename_i here
      rw [← here, found]
    · rfl
  rw [setEmitter, same]

/-- Emitting an entry changes nothing but the journal. -/
@[simp] theorem unwritten_fire (h : Host) (g : Generation) (entry : Entry) :
    (h.fire g entry).2.unwritten = h.unwritten := by
  unfold fire
  split
  · rfl
  · rename_i e found
    simp only [unwritten_noteHanded, Emitter.ambient_fire, Emitter.emitter_fire]
    rw [setEmitter_self (h := { h with ambient := h.ambient }) found]

@[simp] theorem unwritten_noteLoss (h : Host) (g : Generation)
    (result : Option (Except EmitError Unit)) : (h.noteLoss g result).unwritten = h.unwritten := by
  unfold noteLoss; split <;> rfl

@[simp] theorem unwritten_forward (h : Host) (event : Event) (layer : Layer) :
    (h.forward event layer).unwritten = h.unwritten := by
  unfold forward
  split
  · rfl
  · split
    · rfl
    · simp

/-- An event changes nothing but the journal. -/
@[simp] theorem unwritten_emit (h : Host) (origin : Origin) (event : Event) :
    (h.emit origin event).unwritten = h.unwritten := by
  suffices kept : ∀ (layers : List Layer) (k : Host),
      (layers.foldl (fun h layer => h.forward event layer) k).unwritten = k.unwritten from
    kept h.layers (h.note (.emitted origin event))
  intro layers
  induction layers with
  | nil => intro k; rfl
  | cons layer rest ih => intro k; rw [List.foldl_cons, ih, unwritten_forward]

@[simp] theorem unwritten_emitAll (h : Host) (origin : Origin) (events : List Event) :
    (h.emitAll origin events).unwritten = h.unwritten := by
  unfold emitAll
  induction events generalizing h with
  | nil => rfl
  | cons event rest ih => rw [List.foldl_cons, ih, unwritten_emit]

@[simp] theorem unwritten_noteShutDown (h : Host) (signal : Signal) (g : Generation)
    (asked : Bool) : (h.noteShutDown signal g asked).unwritten = h.unwritten := by
  cases asked <;> rfl

@[simp] theorem unwritten_noteCollected (h : Host) (g : Generation)
    (collected : Option (List Series)) :
    (h.noteCollected g collected).unwritten = h.unwritten := by
  cases collected <;> rfl

/-! ## What keeps the sinks -/

/-- Hosts that differ in nothing but the journal have the same sinks. -/
theorem sinks_of_unwritten {h k : Host} (same : k.unwritten = h.unwritten) : k.sinks = h.sinks :=
  (congrArg sinks same :)

@[simp] theorem sinks_note (h : Host) (effect : Effect) : (h.note effect).sinks = h.sinks := rfl

@[simp] theorem sinks_pass (h : Host) (d : Duration) : (h.pass d).sinks = h.sinks := rfl

@[simp] theorem sinks_setEmitter (h : Host) (g : Generation) (e : Emitter) :
    (h.setEmitter g e).sinks = h.sinks := rfl

@[simp] theorem sinks_setBridge (h : Host) (g : Generation) (b : Bridge) :
    (h.setBridge g b).sinks = h.sinks := rfl

@[simp] theorem sinks_fire (h : Host) (g : Generation) (entry : Entry) :
    (h.fire g entry).2.sinks = h.sinks := sinks_of_unwritten (unwritten_fire h g entry)

@[simp] theorem sinks_emit (h : Host) (origin : Origin) (event : Event) :
    (h.emit origin event).sinks = h.sinks := sinks_of_unwritten (unwritten_emit h origin event)

@[simp] theorem sinks_emitAll (h : Host) (origin : Origin) (events : List Event) :
    (h.emitAll origin events).sinks = h.sinks :=
  sinks_of_unwritten (unwritten_emitAll h origin events)

@[simp] theorem sinks_noteShutDown (h : Host) (signal : Signal) (g : Generation) (asked : Bool) :
    (h.noteShutDown signal g asked).sinks = h.sinks :=
  sinks_of_unwritten (unwritten_noteShutDown h signal g asked)

@[simp] theorem sinks_noteCollected (h : Host) (g : Generation)
    (collected : Option (List Series)) : (h.noteCollected g collected).sinks = h.sinks :=
  sinks_of_unwritten (unwritten_noteCollected h g collected)

@[simp] theorem sinks_closeEmitter (h : Host) (g : Generation) (bound : Duration) :
    (h.closeEmitter g bound).2.sinks = h.sinks := by
  unfold closeEmitter
  split <;> simp

@[simp] theorem sinks_shutdownBridge (h : Host) (g : Generation) (deadline : Deadline) :
    (h.shutdownBridge g deadline).2.sinks = h.sinks := by
  unfold shutdownBridge
  split <;> simp

@[simp] theorem sinks_wake (h : Host) (signal : Signal) (g : Generation) :
    (h.wake signal g).sinks = h.sinks := by
  cases signal <;> simp only [wake, wakeEmitter, wakeBridge] <;> split <;> try rfl
  all_goals split <;> simp

end Host

end Telemetry
