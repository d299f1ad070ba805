import Telemetry.Proofs.Host.Calls
import Telemetry.Proofs.Host.Guard

/-!
# The entry of an event

A layer turns an event into an entry by taking over its recorded fields one after the other. A
message replaces the message of the entry, an error value under the name of errors replaces its
error, and everything but a message is added to its fields. So names that come again lose nothing
but earlier messages and errors: the last message and the last error count, and every other field is
there, in order and with its text.

* `error_record`, `error_foldl_record`: what becomes of the error of an entry.
* `conveys_ofEvent`: what the entry of an event says.
* `entries_convey`: the entries that layers fire for an event.
-/

namespace Telemetry

/-- The text of an error value under the name of errors. -/
def Entry.errorText? (field : String × Value) : Option String :=
  match field.2 with
  | .error text => if field.1 = errorKey then some text else none
  | _ => none

/-- The text of the last error value that is recorded under the name of errors. -/
def Event.error? (e : Event) : Option String :=
  (e.recordedFields.filterMap Entry.errorText?).getLast?

namespace Entry

/-- The entry says what the event says. -/
structure Conveys (entry : Entry) (e : Event) : Prop where
  level : entry.level = e.level.toLevel
  message : entry.message = e.message
  fields : entry.fields = e.details.map fun field => (field.1, field.2.recorded)
  error : entry.error = e.error?
  caller : ∀ c, entry.caller = some c ↔
    e.file = some c.file ∧ e.line = some c.line ∧ c.function = e.module.getD e.target

/-! ## One field after the other -/

theorem error_place (e : Entry) (name text : String) : (e.place name text).error = e.error := by
  unfold place; split <;> rfl

/-- A field replaces the error just if it is an error value under the name of errors. -/
theorem error_record (e : Entry) (field : String × Value) :
    (e.record field).error = (errorText? field).or e.error := by
  obtain ⟨name, value⟩ := field
  cases value with
  | error text =>
    simp only [record, errorText?, error_place]
    split <;> rfl
  | _ => exact error_place e name _

theorem error_foldl_record (fields : List (String × Value)) (e : Entry) :
    (fields.foldl record e).error = (fields.filterMap errorText?).getLast?.or e.error := by
  induction fields generalizing e with
  | nil => rfl
  | cons field rest ih =>
    rw [List.foldl_cons, ih, error_record]
    cases found : errorText? field with
    | none => rw [List.filterMap_cons_none found, Option.none_or]
    | some text =>
      rw [List.filterMap_cons_some found, List.getLast?_cons, Option.some_or]
      cases (rest.filterMap errorText?).getLast? <;> rfl

/-- An entry without the parts that recording a field may touch. -/
def blank (e : Entry) : Entry := { e with message := "", fields := [], error := none }

@[simp] theorem blank_place (e : Entry) (name text : String) :
    (e.place name text).blank = e.blank := by
  unfold place; split <;> rfl

@[simp] theorem blank_record (e : Entry) (field : String × Value) :
    (e.record field).blank = e.blank := by
  obtain ⟨name, value⟩ := field
  cases value with
  | error text =>
    simp only [record, blank_place]
    split <;> rfl
  | _ => exact blank_place e name _

theorem blank_foldl_record (fields : List (String × Value)) (e : Entry) :
    (fields.foldl record e).blank = e.blank := by
  induction fields generalizing e with
  | nil => rfl
  | cons field rest ih => rw [List.foldl_cons, ih, blank_record]

/-! ## All fields -/

/-- An event has a caller just if its file and its line are known. -/
theorem callerOf_eq_some_iff {e : Event} {c : Caller} :
    callerOf e = some c ↔
      e.file = some c.file ∧ e.line = some c.line ∧ c.function = e.module.getD e.target := by
  obtain ⟨file, function, line⟩ := c
  rw [callerOf]
  cases e.file with
  | none => simp
  | some file =>
    cases e.line with
    | none => simp
    | some line =>
      simp only [Option.some.injEq, Caller.mk.injEq]
      constructor
      · rintro ⟨rfl, rfl, rfl⟩
        exact ⟨rfl, rfl, rfl⟩
      · rintro ⟨rfl, rfl, rfl⟩
        exact ⟨rfl, rfl, rfl⟩

theorem conveys_ofEvent (e : Event) : (ofEvent e).Conveys e where
  level := congrArg Entry.level (blank_foldl_record e.recordedFields
    { time := e.time, level := e.level.toLevel, message := "" } :)
  message := message_ofEvent e
  fields := fields_ofEvent e
  error := by simp [ofEvent, error_foldl_record, Event.error?]
  caller := fun _ => callerOf_eq_some_iff

end Entry

/-! ## The entries that are fired -/

theorem Effect.delivery?_eq_some_iff {effect : Effect} {d : Delivery} :
    effect.delivery? = some d ↔ effect = .forwarded d.sink d.emitter d.entry := by
  constructor
  · intro asked
    cases effect with
    | forwarded sink g entry =>
      obtain rfl := Option.some.inj asked
      rfl
    | _ => cases asked
  · rintro rfl
    rfl

namespace Host

/-- What reporting an event adds to the journal. -/
def effectsOfEmit (h : Host) (origin : Origin) (e : Event) : List Effect :=
  (h.emit origin e).journal.drop h.journal.length

/-- An entry is fired for an event by a layer that takes it and whose sink holds an emitter, and is
the entry of the event. -/
theorem forwarded_mem_effectsOfEmit_iff {h : Host} {origin : Origin} {e : Event} {sink : SinkName}
    {g : Generation} {entry : Entry} :
    .forwarded sink g entry ∈ h.effectsOfEmit origin e ↔
      ∃ layer ∈ h.layers, layer.admits e = true ∧ Target.isOfTransport e.target = false ∧
        layer.sink = sink ∧ h.sinks[sink]? = some g ∧ entry = .ofEvent e := by
  obtain ⟨block, journal, -, calls⟩ := carries_foldl_forward e h.layers (h.note (.emitted origin e))
  have added : h.effectsOfEmit origin e = .emitted origin e :: block := by
    rw [effectsOfEmit, emit, journal, journal_note, List.append_assoc, List.drop_left]
    rfl
  have same : deliveries h.layers h.sinks e = block.filterMap Effect.delivery? := calls.symm
  refine Iff.trans ?_ (mem_deliveries_iff (d := ⟨sink, g, entry⟩))
  simp only [added, same, List.mem_cons, reduceCtorEq, false_or, List.mem_filterMap,
    Effect.delivery?_eq_some_iff, exists_eq_right]

/-- For an event that is none of the transport, every layer that admits it and whose sink holds an
emitter fires an entry, and no entry is fired for an event but says what the event says. Strings and
errors are taken as they are. -/
theorem entries_convey (h : Host) (origin : Origin) (e : Event) :
    (∀ layer ∈ h.layers, layer.admits e = true → Target.isOfTransport e.target = false →
      ∀ g, h.sinks[layer.sink]? = some g →
        ∃ entry, .forwarded layer.sink g entry ∈ h.effectsOfEmit origin e) ∧
    (∀ sink g entry, .forwarded sink g entry ∈ h.effectsOfEmit origin e → entry.Conveys e) ∧
    ∀ field ∈ e.recordedFields, ∀ text, field.2 = .str text ∨ field.2 = .error text →
      field.2.recorded = text := by
  refine ⟨fun layer hl admitted passes g held => ?_, fun sink g entry fired => ?_, ?_⟩
  · exact ⟨.ofEvent e, forwarded_mem_effectsOfEmit_iff.mpr
      ⟨layer, hl, admitted, passes, rfl, held, rfl⟩⟩
  · obtain ⟨-, -, -, -, -, -, rfl⟩ := forwarded_mem_effectsOfEmit_iff.mp fired
    exact Entry.conveys_ofEvent e
  · rintro ⟨name, value⟩ - text (rfl | rfl) <;> rfl

/-- An event with two messages, the second of which is an error value, with errors and other values
under the name of errors, an error under another name, and a field without a value. -/
theorem entries_convey_of_repetition :
    let h : Host := { listening "own" with layers := [{ sink := "own" }] }
    let e : Event :=
      { time := 0, level := .warn, target := "app", file := some "main.rs", line := some 7
        fields := [("message", some (.str "first")), ("error", some (.error "reset")),
          ("error", some (.str "text")), ("cause", some (.error "other")), ("spare", none),
          ("message", some (.error "second")), ("error", some (.error "broken")),
          ("error", some (.int 3))] }
    ∃ entry, .forwarded "own" 1 entry ∈ h.effectsOfEmit .application e ∧
      entry.level = .warn ∧ entry.message = "second" ∧
      entry.fields = [("error", "reset"), ("error", "text"), ("cause", "other"),
        ("error", "broken"), ("error", "3")] ∧
      entry.error = some "broken" ∧ entry.caller = some ⟨"main.rs", "app", 7⟩ := by
  intro h e
  obtain ⟨fires, conveys, -⟩ := entries_convey h .application e
  obtain ⟨entry, fired⟩ := fires { sink := "own" } List.mem_cons_self rfl (by decide +kernel) 1
    (by decide +kernel)
  have told := conveys _ _ _ fired
  refine ⟨entry, fired, told.level, ?_, ?_, ?_, (told.caller _).mpr ⟨rfl, rfl, rfl⟩⟩
  · rw [told.message]
    rfl
  · rw [told.fields]
    rfl
  · rw [told.error]
    rfl

end Host

end Telemetry
