/-!
# Faults

A component that fails beyond an error value panics, with a payload that is a text or something
else. The fault of a single emission is returned as an `EmitError`, whose text starts with a fixed
marker.

Main statement: `EmitError.startsWith_marker`.
-/

namespace Telemetry

/-- What a panic carries. -/
inductive PanicPayload
  | text (s : String)
  | other
  deriving DecidableEq, Repr

/-- The text of a payload, or a fixed text for one that is no text. -/
def PanicPayload.message : PanicPayload → String
  | text s => s
  | other => "unknown panic payload"

/-- Why a log record was not emitted. -/
inductive EmitError
  | uninitialised
  | panicked (text : String)
  deriving DecidableEq, Repr

namespace EmitError

/-- The text that every emission fault starts with. -/
def marker : String := "otel log hook panic"

def message : EmitError → String
  | uninitialised => marker ++ ": logger is not initialised"
  | panicked text => marker ++ ": " ++ text

theorem startsWith_marker (e : EmitError) : marker.toList <+: e.message.toList := by
  cases e <;> simp only [message, String.toList_append, List.append_assoc] <;>
    exact List.prefix_append _ _

end EmitError

end Telemetry
