import Telemetry.Log.Event

/-!
# Lines of the runner

The runner shows an event as one line, a JSON object with the level, the fields and the target.
Truth values and whole numbers stand for themselves there, every other value is a string. In a
string, a quote, a backslash and the control characters are escaped.

Main statement: `escape_of_plain`.
-/

namespace Telemetry.Runner.Line

/-- A character of a JSON string. -/
def escape (c : Char) : List Char :=
  if c = '"' then ['\\', '"']
  else if c = '\\' then ['\\', '\\']
  else if c = '\n' then ['\\', 'n']
  else if c = '\r' then ['\\', 'r']
  else if c = '\t' then ['\\', 't']
  else if c.toNat < 0x20 then ['\\', 'u'] ++ (Nat.toDigits 16 c.toNat).leftpad 4 '0'
  else [c]

def string (s : String) : String :=
  String.ofList ('"' :: s.toList.flatMap escape ++ ['"'])

/-- A JSON object, given by its keys and the texts of its values. -/
def object (members : List (String × String)) : String :=
  "\x7b" ++ String.intercalate "," (members.map fun m => string m.1 ++ ":" ++ m.2) ++ "\x7d"

def value : Value → String
  | .bool b => toString b
  | .int n => toString n
  | v => string v.recorded

def ofEvent (e : Event) : String :=
  object [("level", string e.level.name),
    ("fields", object (e.recordedFields.map fun field => (field.1, value field.2))),
    ("target", string e.target)]

theorem escape_of_plain {c : Char} (noControl : 0x20 ≤ c.toNat) (hq : c ≠ '"') (hb : c ≠ '\\') :
    escape c = [c] := by
  have hn : c ≠ '\n' := by rintro rfl; simp at noControl
  have hr : c ≠ '\r' := by rintro rfl; simp at noControl
  have ht : c ≠ '\t' := by rintro rfl; simp at noControl
  simp only [escape, hq, hb, hn, hr, ht, Nat.not_lt.2 noControl, if_false]

end Telemetry.Runner.Line
