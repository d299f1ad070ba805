import Telemetry.Log.Context
import Telemetry.Log.Event

/-!
# Log entries

An entry is one log line of the host: a level, a message, fields in the order in which they were
recorded, perhaps the place of the call, the text of an error, and a context to emit it under. An
entry is built step by step, or it is made from an event.

An error that is added to an entry is both a field named `error` and the entry's error. Of an event,
only an error value under that name becomes the entry's error, the last one if there are several.

Main statements:

* `fields_ofEvent`: the fields of an event's entry are its details, with their texts.
* `message_ofEvent`: its message is that of the event.
-/

namespace Telemetry

/-- The place of a log call. -/
structure Caller where
  file : String
  function : String
  line : Nat
  deriving DecidableEq, Repr

/-- One log line. -/
structure Entry where
  time : Timestamp
  level : Level
  message : String
  fields : List (String × String) := []
  caller : Option Caller := none
  error : Option String := none
  context : Option Context := none
  deriving DecidableEq, Repr

namespace Entry

/-- The name of the field that holds an error. -/
def errorKey : String := "error"

/-- Adds a field with the plain text of a value. -/
def withField (e : Entry) (key : String) (value : Value) : Entry :=
  { e with fields := e.fields ++ [(key, value.plain)] }

/-- Adds an error, as a field and as the error of the entry. -/
def withError (e : Entry) (text : String) : Entry :=
  { e with fields := e.fields ++ [(errorKey, text)], error := some text }

def withCaller (e : Entry) (file function : String) (line : Nat) : Entry :=
  { e with caller := some ⟨file, function, line⟩ }

def withContext (e : Entry) (context : Context) : Entry :=
  { e with context := some context }

/-- Sets the time. -/
def stamped (e : Entry) (time : Timestamp) : Entry :=
  { e with time := time }

/-! ## Entries of events -/

/-- Puts a recorded field where it belongs: a message, or a field. -/
def place (e : Entry) (name text : String) : Entry :=
  if name = Event.messageKey then { e with message := text }
  else { e with fields := e.fields ++ [(name, text)] }

/-- Takes over one recorded field of an event. -/
def record (e : Entry) (field : String × Value) : Entry :=
  match field.2 with
  | .error text =>
    let noted := if field.1 = errorKey then { e with error := some text } else e
    noted.place field.1 text
  | value => e.place field.1 value.recorded

/-- The place of an event in the source, which is known if its file and line are. The function is
the module, or else the target. -/
def callerOf (e : Event) : Option Caller :=
  match e.file, e.line with
  | some file, some line => some ⟨file, e.module.getD e.target, line⟩
  | _, _ => none

def ofEvent (e : Event) : Entry :=
  let start : Entry := { time := e.time, level := e.level.toLevel, message := "" }
  { e.recordedFields.foldl record start with caller := callerOf e }

theorem fields_place (e : Entry) (name text : String) :
    (e.place name text).fields =
      e.fields ++ if name = Event.messageKey then [] else [(name, text)] := by
  unfold place; split <;> simp

theorem message_place (e : Entry) (name text : String) :
    (e.place name text).message = if name = Event.messageKey then text else e.message := by
  unfold place; split <;> rfl

theorem fields_record (e : Entry) (field : String × Value) :
    (e.record field).fields =
      e.fields ++ if field.1 = Event.messageKey then [] else [(field.1, field.2.recorded)] := by
  obtain ⟨name, value⟩ := field
  cases value with
  | error text =>
    simp only [record, fields_place]
    split <;> rfl
  | _ => exact fields_place e name _

theorem message_record (e : Entry) (field : String × Value) :
    (e.record field).message =
      if field.1 = Event.messageKey then field.2.recorded else e.message := by
  obtain ⟨name, value⟩ := field
  cases value with
  | error text =>
    have kept : (if name = errorKey then { e with error := some text } else e).message =
        e.message := by split <;> rfl
    simp only [record, message_place, kept]
    rfl
  | _ => exact message_place e name _

theorem fields_foldl_record (fields : List (String × Value)) (e : Entry) :
    (fields.foldl record e).fields =
      e.fields ++
        (fields.filter fun f => f.1 ≠ Event.messageKey).map fun f => (f.1, f.2.recorded) := by
  induction fields generalizing e with
  | nil => simp
  | cons field rest ih =>
    rw [List.foldl_cons, ih, fields_record]
    by_cases h : field.1 = Event.messageKey <;> simp [h]

theorem message_foldl_record (fields : List (String × Value)) (e : Entry) :
    (fields.foldl record e).message =
      ((fields.filter fun f => f.1 = Event.messageKey).getLast?.map fun f => f.2.recorded).getD
        e.message := by
  induction fields generalizing e with
  | nil => rfl
  | cons field rest ih =>
    rw [List.foldl_cons, ih, message_record]
    by_cases h : field.1 = Event.messageKey
    · cases hr : rest.filter fun f => f.1 = Event.messageKey <;>
        simp [h, hr, List.getLast?_cons]
    · simp [h]

theorem fields_ofEvent (e : Event) :
    (ofEvent e).fields = e.details.map fun f => (f.1, f.2.recorded) := by
  simp [ofEvent, fields_foldl_record, Event.details]

theorem message_ofEvent (e : Event) : (ofEvent e).message = e.message := by
  simp [ofEvent, message_foldl_record, Event.message]

end Entry

end Telemetry
