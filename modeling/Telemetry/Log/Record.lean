import Telemetry.Log.Entry

/-!
# Log records

A record is what an emitter makes of an entry. Its attributes are the fields of the entry, then the
labels of the emitter in the order in which they are listed, then the place of the call, then the
error. None is dropped, merged or renamed, so two of them may have one key.

Main statement: `length_attributesOf`.
-/

namespace Telemetry

/-- A log record. -/
structure Record where
  body : String
  severity : Severity
  severityText : String
  attributes : List (String × Value)
  time : Timestamp
  observed : Timestamp
  trace : Option SpanContext
  deriving DecidableEq, Repr

namespace Record

/-- The attributes that say where the entry comes from. -/
def callerAttributes (c : Caller) : List (String × Value) :=
  [("code.filepath", .str c.file), ("code.function", .str c.function),
    ("code.lineno", .int c.line)]

/-- The attributes of an entry under some labels, as they are listed. -/
def attributesOf (labels : List (String × String)) (e : Entry) : List (String × Value) :=
  e.fields.map (fun field => (field.1, .str field.2)) ++
    labels.map (fun label => (label.1, .str label.2)) ++
    e.caller.elim [] callerAttributes ++
    e.error.elim [] fun text => [("exception.message", .str text)]

/-- The record of an entry that is emitted in a context and observed at a time. -/
def ofEntry (labels : List (String × String)) (context : Context) (observed : Timestamp)
    (e : Entry) : Record where
  body := e.message
  severity := e.level.severity
  severityText := e.level.text
  attributes := attributesOf labels e
  time := e.time
  observed := observed
  trace := context.span

theorem length_attributesOf (labels : List (String × String)) (e : Entry) :
    (attributesOf labels e).length =
      e.fields.length + labels.length + (if e.caller.isSome then 3 else 0) +
        (if e.error.isSome then 1 else 0) := by
  cases hc : e.caller <;> cases he : e.error <;>
    simp [attributesOf, hc, he, callerAttributes] <;> omega

end Record

end Telemetry
