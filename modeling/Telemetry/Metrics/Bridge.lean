import Telemetry.Metrics.Instrument
import Telemetry.Provider

/-!
# Metrics bridges

A bridge holds the provider of the meters. Instruments that it has made record on it; a reader
collects what they recorded. The provider passes on the first request to shut down and answers every
later one with an error. On the first request the reader collects a last time and is closed, unless
its shutdown fails: then it stays open, and what was recorded can still be collected. A request is
made on a worker, and as long as that has not begun nothing happens to the provider.

A bridge that is shut down makes instruments that record nothing, as it does for a name that no
instrument may have. Those that it made before go on recording.

Main statements:

* `reading?_record`: what a reading changes in what can be collected.
* `isShutdown_shutReader`: after any request that has begun the bridge is shut down.
* `collect_shutReader_of_fails`: a reader whose shutdown fails can still be read.
-/

namespace Telemetry

/-- A bridge to the metrics of a process. -/
structure Bridge where
  onShutdown : ShutdownBehaviour := {}
  isShutdown : Bool := false
  isClosed : Bool := false
  series : List Series := []
  workers : Workers := {}

/-- What shutting the provider of a bridge down brings about: the work, whether the reader was
asked, what it collected, and the events reported. -/
structure ReaderShutdown where
  work : Work (Except ProviderError Unit)
  asked : Bool
  collected : Option (List Series)
  events : List Event
  bridge : Bridge

/-- What a request to shut a bridge down brings about: how it ends for the caller, how long it took,
whether the reader was asked, what it collected, and the events reported. -/
structure BridgeShutdown where
  result : Except ComponentError Unit
  elapsed : Duration
  asked : Bool
  collected : Option (List Series)
  events : List Event
  bridge : Bridge

namespace Bridge

def shutdownWork : String := "metrics-shutdown"

/-- The error of a bridge whose reader failed. -/
def readerFailure (e : ProviderError) : ProviderError :=
  .internalFailure ("[" ++ e.term ++ "]")

/-- The text of the error of collecting from a reader that was shut down. -/
def notRegistered : ProviderError :=
  .internalFailure "reader is shut down or not registered"

/-- Whether an instrument that is made now records anything. -/
def offers (b : Bridge) (instrument : Instrument) : Bool :=
  !b.isShutdown && instrument.isValid

/-- Series with a reading recorded on an instrument. The first spelling of its name is kept. -/
def recordIn (instrument : Instrument) (attributes : Attributes) (reading : Reading) :
    List Series → List Series
  | [] => [Series.record ⟨instrument, []⟩ attributes reading]
  | s :: rest =>
    if s.instrument.isSame instrument then s.record attributes reading :: rest
    else s :: recordIn instrument attributes reading rest

/-- Records a reading on an instrument that was made while the bridge offered it. -/
def record (b : Bridge) (instrument : Instrument) (attributes : Attributes) (reading : Reading) :
    Bridge :=
  { b with series := recordIn instrument attributes reading b.series }

/-- What an instrument has recorded. -/
def seriesOf? (b : Bridge) (instrument : Instrument) : Option Series :=
  b.series.find? (·.instrument.isSame instrument)

/-- The value that an instrument has come to under a set of attributes. -/
def reading? (b : Bridge) (instrument : Instrument) (attributes : Attributes) : Option Reading :=
  (b.seriesOf? instrument).bind (·.getPoint? attributes)

/-- Collects everything recorded so far. -/
def collect (b : Bridge) : Except ProviderError (List Series) :=
  if b.isClosed then .error notRegistered else .ok b.series

/-- Whether work ends in an error or a panic. -/
def fails : Work (Except ProviderError Unit) → Bool
  | .returns _ (.error _) => true
  | .panics _ => true
  | _ => false

/-- Shuts the provider down. -/
def shutReader (b : Bridge) : ReaderShutdown :=
  if b.isShutdown then ⟨.returns .zero (.error .alreadyShutdown), false, none, [], b⟩
  else
    { work := b.onShutdown.work.mapError readerFailure
      asked := true
      collected := if fails b.onShutdown.work then none else some b.series
      events := b.onShutdown.events
      bridge := { b with isShutdown := true, isClosed := !fails b.onShutdown.work } }

/-- Has a worker shut the provider down and waits for it until a deadline, where the clock reads
`now`. -/
def shutdown (b : Bridge) (deadline : Deadline) (now : Instant) : BridgeShutdown :=
  let bound := deadline.remaining now
  let request := b.shutReader
  let waiting := request.work.wait shutdownWork bound b.workers.next
  let begun := b.workers.next.isTimely bound
  { result := waiting.outcome
    elapsed := waiting.elapsed
    asked := begun && request.asked
    collected := if begun then request.collected else none
    events := if begun then request.events else []
    bridge := { if begun then request.bridge else b with workers := b.workers.start bound } }

/-- The bridge after a worker that was left behind has shut the provider down. -/
def shutdownLate (b : Bridge) : Bridge :=
  { b.shutReader.bridge with workers := b.workers.begin }

def description (_ : Bridge) : String := "MetricsBridge \x7b .. \x7d"

theorem find?_recordIn (i j : Instrument) (attributes : Attributes) (reading : Reading)
    (all : List Series) :
    (recordIn i attributes reading all).find? (·.instrument.isSame j) =
      if i.isSame j then
        some (((all.find? (·.instrument.isSame i)).getD ⟨i, []⟩).record attributes reading)
      else all.find? (·.instrument.isSame j) := by
  have instrument (s : Series) : (s.record attributes reading).instrument = s.instrument := rfl
  induction all with
  | nil => by_cases h : i.key = j.key <;> simp [recordIn, instrument, Instrument.isSame, h]
  | cons s rest ih =>
    simp only [Instrument.isSame, decide_eq_true_eq] at ih ⊢
    by_cases here : s.instrument.key = i.key
    · by_cases h : i.key = j.key <;> simp [recordIn, instrument, Instrument.isSame, here, h]
    · by_cases there : s.instrument.key = j.key
      · have other : i.key ≠ j.key := fun h => here (there.trans h.symm)
        rw [there] at here
        simp [recordIn, Instrument.isSame, here, there, other]
      · simp [recordIn, Instrument.isSame, here, there, ih]

/-- A reading changes the value of its instrument under its attributes and no other. -/
theorem reading?_record (b : Bridge) (i j : Instrument) (attributes others : Attributes)
    (reading : Reading) :
    (b.record i attributes reading).reading? j others =
      if i.isSame j ∧ others = attributes then
        some ((b.reading? i attributes).elim reading (i.kind.combine · reading))
      else b.reading? j others := by
  have recorded := find?_recordIn i j attributes reading b.series
  by_cases same : i.isSame j = true
  · -- both instruments are one, so they have one series
    have one : b.seriesOf? j = b.seriesOf? i := by
      simp only [seriesOf?, Instrument.isSame, Instrument.isSame_iff.mp same]
    rw [if_pos same] at recorded
    rw [reading?, seriesOf?, record, recorded, Option.bind_some, Series.getPoint?_record, reading?,
      reading?, one, seriesOf?]
    cases found : b.series.find? (·.instrument.isSame i) with
    | none => by_cases h : others = attributes <;> simp [same, h, Series.getPoint?]
    | some s =>
      have kind : s.instrument.kind = i.kind := Instrument.kind_eq_of_isSame (by
        simpa using List.find?_some found)
      by_cases h : others = attributes <;> simp [same, h, kind]
  · rw [if_neg same] at recorded
    rw [if_neg fun h => same h.1, reading?, seriesOf?, record, recorded]
    rfl

theorem isShutdown_shutReader (b : Bridge) : b.shutReader.bridge.isShutdown = true := by
  unfold shutReader
  split
  · assumption
  · rfl

theorem asked_shutReader (b : Bridge) : b.shutReader.asked = !b.isShutdown := by
  unfold shutReader
  split <;> simp_all

theorem collect_shutReader_of_fails {b : Bridge} (opened : b.isShutdown = false)
    (h : fails b.onShutdown.work = true) : b.shutReader.bridge.collect = .ok b.series := by
  simp [shutReader, opened, collect, h]

end Bridge

end Telemetry
