import Telemetry.Decimal.Layout
import Telemetry.Text.Quoted

/-!
# Field values

A log field holds one typed value. There are two texts of it. The plain text is what a caller gets
who adds the value to an entry. The recorded text is what an event gives to its subscribers; it
differs for floating point numbers only, which keep a point or an exponent there.

Main statement: `recorded_eq_plain`, the two texts agree on everything but floating point numbers.
-/

namespace Telemetry

/-- The value of a field. A floating point number is given by the bits of the double. The text of a
`display` or `debug` value was made by its owner. -/
inductive Value
  | str (text : String)
  | int (n : Int)
  | float (bits : UInt64)
  | bool (b : Bool)
  | display (text : String)
  | debug (text : String)
  | error (text : String)
  | bytes (data : List UInt8)
  deriving DecidableEq, Repr

namespace Value

/-- A text that is recorded between quotes. -/
def quoted (s : String) : Value := .debug (Text.quote s)

/-- A text that may be missing. -/
def optional : Option String → Value
  | none => .debug "None"
  | some s => .debug ("Some(" ++ Text.quote s ++ ")")

def hexByte (b : UInt8) : String :=
  String.ofList ((Nat.toDigits 16 b.toNat).leftpad 2 '0')

/-- The bytes in brackets, with blanks between them. -/
def hexBytes (data : List UInt8) : String :=
  "[" ++ String.intercalate " " (data.map hexByte) ++ "]"

/-- The text of a value with floating point numbers in a given layout. -/
def textIn (layout : Decimal.Layout) : Value → String
  | str s => s
  | int n => toString n
  | float bits => layout.write (.ofBits bits)
  | bool b => toString b
  | display s => s
  | debug s => s
  | error s => s
  | bytes data => hexBytes data

/-- The text of a value that a caller adds to an entry. -/
def plain (v : Value) : String := v.textIn Decimal.plain

/-- The text of a value that an event carries. -/
def recorded (v : Value) : String := v.textIn Decimal.general

/-- The value is a floating point number. -/
def IsFloat : Value → Prop
  | float _ => True
  | _ => False

theorem recorded_eq_plain {v : Value} (h : ¬v.IsFloat) : v.recorded = v.plain := by
  cases v with
  | float bits => exact absurd trivial h
  | _ => rfl

end Value

end Telemetry
