import Telemetry.Log.Provider
import Telemetry.TextMap

/-!
# Log emitters

An emitter turns entries into records and hands them to its provider. It keeps labels that go with
every record; labels are set and overwritten, never removed. They stand in a hash map, which lists
them in an order of its own: two maps with the same entries may list them differently. An entry is
emitted in its own context if it has one, and in the current context of the thread otherwise; where
telemetry is suppressed nothing is emitted. A processor that panics costs the record and nothing
else.

Main statements:

* `ambient_fire`, `emitter_fire`: emission leaves the current context and the emitter as they were.
* `getElem?_labels_update`: the last pair of an update counts.
* `listing_perm`: the labels are listed in some order.
-/

namespace Telemetry

/-- The labels of an emitter. -/
abbrev Labels := TextMap

/-- How a hash map lists its entries once some pairs were inserted, one after the other. Nothing is
known of the order but that it is the same as long as nothing is inserted. -/
structure Hashing where
  order : List (String × String) → List (String × String)
  perm : ∀ written, (order written).Perm (TextMap.ofPairs written).toList

/-- The hashing that happens to list all entries by ascending key. -/
def Hashing.ascending : Hashing := ⟨fun written => (TextMap.ofPairs written).toList, fun _ => .rfl⟩

/-- A logger of a provider that was open when the logger was made, or one that drops everything. -/
inductive Logger
  | live
  | silent
  deriving DecidableEq, Repr

/-- An emitter of log records, with all the pairs that were written to its labels. Without a logger
it is not initialised. -/
structure Emitter where
  provider : LoggerProvider
  logger : Option Logger
  written : List (String × String) := []
  hashing : Hashing := .ascending
  workers : Workers := {}

/-- What emitting an entry brings about, and what the processor was handed. -/
structure Firing where
  result : Except EmitError Unit
  handed : List Record
  emitter : Emitter
  ambient : Ambient

/-- What closing an emitter brings about. -/
structure Closing where
  result : Except ComponentError Unit
  elapsed : Duration
  asked : Bool
  events : List Event
  emitter : Emitter

namespace Emitter

/-- The name under which the records of an emitter are emitted. -/
def loggerName : String := "otel-bridge"

/-- How long closing an emitter may take. -/
def closeTimeout : Duration := .ofSecs 15

def closeWork : String := "log-close"

/-- An emitter with no labels around a provider. -/
def ofProvider (p : LoggerProvider) : Emitter where
  provider := p
  logger := some (if p.isShutdown then .silent else .live)

/-- An emitter that was never given a logger. -/
def uninitialised : Emitter := { provider := { processor := none }, logger := none }

/-- The levels that an emitter takes. -/
def levels (_ : Emitter) : List Level := Level.all

def labels (e : Emitter) : Labels := TextMap.ofPairs e.written

/-- The labels in the order in which they are listed. -/
def listing (e : Emitter) : List (String × String) := e.hashing.order e.written

/-- Hands the record of an entry to the provider, unless the context suppresses it. -/
def send (e : Emitter) (logger : Logger) (context : Context) (clock : Timestamp) (entry : Entry) :
    Except PanicPayload (List Record) :=
  match logger with
  | .silent => .ok []
  | .live =>
    if context.suppressed then .ok []
    else e.provider.emit (.ofEntry e.listing context clock entry)

/-- Emits an entry on a thread with some current context, observed at a reading of the clock. -/
def fire (e : Emitter) (ambient : Ambient) (clock : Timestamp) (entry : Entry) : Firing :=
  match e.logger with
  | none => ⟨.error .uninitialised, [], e, ambient⟩
  | some logger =>
    let inside := ambient.enter entry.context
    let after := inside.leave entry.context
    match e.send logger inside.current clock entry with
    | .ok handed => ⟨.ok (), handed, e, after⟩
    | .error payload => ⟨.error (.panicked payload.message), [], e, after⟩

def update (e : Emitter) (pairs : List (String × String)) : Emitter :=
  { e with written := e.written ++ pairs }

/-- Has a worker shut the provider down and waits for it no longer than a bound. As long as the
worker has not begun nothing happens to the provider. -/
def closeWithin (e : Emitter) (bound : Duration) : Closing :=
  let request := e.provider.shutdown
  let waiting := request.work.wait closeWork bound e.workers.next
  let begun := e.workers.next.isTimely bound
  { result := waiting.outcome
    elapsed := waiting.elapsed
    asked := begun && request.asked
    events := if begun then request.events else []
    emitter := { e with
      provider := if begun then request.provider else e.provider
      workers := e.workers.start bound } }

/-- Has the provider shut down and waits for it no longer than fifteen seconds. -/
def close (e : Emitter) : Closing := e.closeWithin closeTimeout

/-- The emitter after a worker that was left behind has shut the provider down. -/
def closeLate (e : Emitter) : Emitter :=
  { e with provider := e.provider.shutdown.provider, workers := e.workers.begin }

/-- A short description of an emitter and its labels. -/
def description (e : Emitter) : String :=
  let label (pair : String × String) : String := Text.quote pair.1 ++ ": " ++ Text.quote pair.2
  "LogEmitter \x7b initialised: " ++ toString e.logger.isSome ++ ", labels: \x7b" ++
    String.intercalate ", " (e.listing.map label) ++ "\x7d, .. \x7d"

theorem ambient_fire (e : Emitter) (ambient : Ambient) (clock : Timestamp) (entry : Entry) :
    (e.fire ambient clock entry).ambient = ambient := by
  unfold fire
  split
  · rfl
  · simp only [Ambient.leave_enter]
    split <;> rfl

/-- Emission changes nothing in the emitter. -/
theorem emitter_fire (e : Emitter) (ambient : Ambient) (clock : Timestamp) (entry : Entry) :
    (e.fire ambient clock entry).emitter = e := by
  unfold fire
  split
  · rfl
  · dsimp only
    split <;> rfl

theorem labels_update (e : Emitter) (pairs : List (String × String)) :
    (e.update pairs).labels = TextMap.insertAll e.labels pairs :=
  TextMap.insertAll_append ∅ e.written pairs

theorem getElem?_labels_update (e : Emitter) (pairs : List (String × String)) (key : String) :
    (e.update pairs).labels[key]? = (TextMap.lastValue? key pairs).or e.labels[key]? := by
  rw [labels_update, TextMap.getElem?_insertAll]

theorem listing_perm (e : Emitter) : e.listing.Perm e.labels.toList := e.hashing.perm e.written

end Emitter

end Telemetry
