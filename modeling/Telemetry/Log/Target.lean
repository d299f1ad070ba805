/-!
# Targets of the transport

The libraries that carry telemetry out of the process report events of their own. To forward those
would feed the exporter its own diagnostics, so they are recognised by their targets: the name of
such a library alone, or followed by an underscore or a colon.

Main statement: `isOfTransport_iff`, the form of such a target.
-/

namespace Telemetry.Target

/-- The names of the libraries that carry telemetry out. -/
def transports : List String := ["opentelemetry", "tonic", "h2", "hyper", "reqwest", "tower"]

/-- The characters that end a library's name in a target. -/
def isBoundary (c : Char) : Bool := c == '_' || c == ':'

/-- Whether a target is a library's name, or goes on behind it with a boundary. -/
def belongsTo (library target : List Char) : Bool :=
  library.isPrefixOf target && (target.drop library.length).head?.all isBoundary

/-- Whether a target belongs to a library that carries telemetry out. -/
def isOfTransport (target : String) : Bool :=
  transports.any fun library => belongsTo library.toList target.toList

theorem belongsTo_iff {library target : List Char} :
    belongsTo library target = true ↔
      target = library ∨ ∃ c rest, isBoundary c = true ∧ target = library ++ c :: rest := by
  simp only [belongsTo, Bool.and_eq_true, List.isPrefixOf_iff_prefix]
  constructor
  · rintro ⟨⟨rest, rfl⟩, h⟩
    cases rest with
    | nil => simp
    | cons c rest => exact Or.inr ⟨c, rest, by simpa using h, rfl⟩
  · rintro (rfl | ⟨c, rest, hc, rfl⟩)
    · simp
    · simp [hc]

theorem isOfTransport_iff {target : String} :
    isOfTransport target = true ↔ ∃ library ∈ transports, target.toList = library.toList ∨
      ∃ c rest, isBoundary c = true ∧ target.toList = library.toList ++ c :: rest := by
  simp only [isOfTransport, List.any_eq_true, belongsTo_iff]

end Telemetry.Target
