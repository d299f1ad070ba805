import Telemetry.Log.Level
import Telemetry.Value

/-!
# Events

An event is what code reports while it runs: a level, the target that it belongs to, its place in
the source if known, and named fields. A field may be declared without a value, and then it is not
recorded. The message of an event is the field of that name.
-/

namespace Telemetry

/-- A reading of the wall clock: nanoseconds since 1970-01-01, negative before. -/
abbrev Timestamp := Int

/-- An event. -/
structure Event where
  time : Timestamp
  level : EventLevel
  target : String
  file : Option String := none
  line : Option Nat := none
  module : Option String := none
  fields : List (String × Option Value)

namespace Event

/-- The name of the field that holds the message. -/
def messageKey : String := "message"

/-- An event with a fixed message and fields that all have values. -/
def report (time : Timestamp) (level : EventLevel) (target message : String)
    (fields : List (String × Value) := []) : Event where
  time := time
  level := level
  target := target
  fields := (messageKey, some (.debug message)) :: fields.map fun field => (field.1, some field.2)

/-- The fields that are recorded. -/
def recordedFields (e : Event) : List (String × Value) :=
  e.fields.filterMap fun field => field.2.map (field.1, ·)

/-- The text of the last message, empty if there is none. -/
def message (e : Event) : String :=
  ((e.recordedFields.filter fun field => field.1 = messageKey).getLast?.map
    fun field => field.2.recorded).getD ""

/-- The recorded fields other than messages. -/
def details (e : Event) : List (String × Value) :=
  e.recordedFields.filter fun field => field.1 ≠ messageKey

end Event

end Telemetry
